import Mathlib.Logic.Function.Basic
import TsnRefSw.Core.Lts
import TsnRefSw.Tsq.Payload

/-!
# The TSQ listener

The receive loop of `listener()`: wait for activity on the two talker connections, read each
ready one into its slot, and compare the slots once both hold a sample.

A sample that turns out one second newer than its counterpart is kept: until the next
comparison its slot is refilled from the kept copy and whatever its connection delivers is
dropped.
-/

namespace TsnRefSw

open Core

/-- `CLIENT_COUNT`. -/
abbrev clientCount : Nat := 2

/-- `BUFFER_SIZE`. -/
def bufferSize : Nat := 256

/-- The index of a connection and of its slot. -/
abbrev Slot := Fin clientCount

instance : NeZero clientCount := ⟨by decide⟩

/-- `validate_payload()`: the sample has an identifier, both halves of its timestamp are set,
and its identifier is one a client introduced itself with. -/
def validatePayload (pl : Payload) (cliIds : Slot → Int32) : Bool :=
  pl.uid != 0 && pl.secs != 0 && pl.nsecs != 0 &&
    (List.finRange clientCount).any fun i => cliIds i == pl.uid

/-- `data_ready()`. -/
def dataReady (flags : Slot → Bool) : Bool := (List.finRange clientCount).all flags

/-- `reset_data_ready()`. -/
def resetDataReady : Slot → Bool := fun _ => false

lemma dataReady_iff {flags : Slot → Bool} : dataReady flags = true ↔ ∀ i, flags i = true := by
  simp [dataReady]

/-- One line of the output file, printed as `"%d %lld %ld\n"`. -/
structure Line where
  round : Int32
  secsError : Int64
  nsecsError : Int64
deriving DecidableEq, Repr

/-- The variables the receive loop carries from one iteration to the next, and the output
file. -/
structure Listener where
  cliIds : Slot → Int32
  cliData : Slot → Payload
  keepData : Payload
  plValidFlag : Slot → Bool
  skipSlot : Bool
  keepDataSlot : Slot
  rounds : Int32
  out : List Line

namespace Listener

/-- The state before the first iteration, the clients having sent their identifiers. -/
def start (cliIds : Slot → Int32) : Listener where
  cliIds := cliIds
  cliData := fun _ => .zero
  keepData := .zero
  plValidFlag := fun _ => false
  skipSlot := false
  keepDataSlot := 0
  rounds := 0
  out := []

/-! ### Reading a slot -/

/-- The slot is refilled from the kept sample, whatever its connection delivers. -/
def Keeping (st : Listener) (i : Slot) : Prop := st.skipSlot = true ∧ st.keepDataSlot = i

instance (st : Listener) (i : Slot) : Decidable (st.Keeping i) :=
  inferInstanceAs (Decidable (_ ∧ _))

/-- The sample decoded from what a read left in the zeroed receive buffer. -/
def window (bytes : List UInt8) : Payload := Payload.ofBytes (Memory.zeroFill bytes)

/-- A read brings a sample the listener would store: something arrived, and it passes
`validate_payload()`. -/
def Presents (st : Listener) (bytes : List UInt8) : Prop :=
  bytes ≠ [] ∧ validatePayload (window bytes) st.cliIds = true

instance (st : Listener) (bytes : List UInt8) : Decidable (st.Presents bytes) :=
  inferInstanceAs (Decidable (_ ∧ _))

/-- The body of the loop over the connections for a ready one, after a read of `bytes`. -/
def readSlot (st : Listener) (i : Slot) (bytes : List UInt8) : Listener :=
  if st.Keeping i then
    { st with
      cliData := Function.update st.cliData i st.keepData
      plValidFlag := Function.update st.plValidFlag i true }
  else if st.Presents bytes then
    { st with
      plValidFlag := Function.update st.plValidFlag i true
      cliData := Function.update st.cliData i (window bytes) }
  else st

/-- What the system calls report about one connection in an iteration. A read brings at most
`sizeof(recv_buff) - 1` bytes, none at the end of the stream. -/
inductive SlotIo where
  /-- `FD_ISSET` is false. -/
  | notReady
  /-- A signal came before the read. -/
  | halted
  /-- `read()` returned a negative number. -/
  | failed
  | got (bytes : List UInt8) (h : bytes.length ≤ bufferSize - 1)

/-- One pass of the loop over the connections; an error ends the process. -/
def slotStep (st : Listener) (i : Slot) : SlotIo → Except String Listener
  | .notReady    => .ok st
  | .halted      => .error "[TSQ-L] client socket closed. TSQ will end now.\n"
  | .failed      => .error "[TSQ-L] ERROR reading socket. Exiting.\n"
  | .got bytes _ => .ok (st.readSlot i bytes)

/-! ### Comparing the slots -/

/-- `secs_error`. -/
def secsError (st : Listener) : Int64 := (st.cliData 0).secs - (st.cliData 1).secs

/-- `nsecs_error`. -/
def nsecsError (st : Listener) : Int64 := (st.cliData 0).nsecs - (st.cliData 1).nsecs

/-- `case 1` and `case -1`: slot `i` holds the newer sample, which is kept. -/
def keep (st : Listener) (i : Slot) : Listener :=
  { st with skipSlot := true, keepDataSlot := i, keepData := st.cliData i }

/-- `case 0`: the samples are aligned, their difference is written out. -/
def record (st : Listener) : Listener :=
  { st with
    skipSlot := false
    keepData := .zero
    out := st.out ++ [⟨st.rounds, st.secsError, st.nsecsError⟩]
    rounds := st.rounds + 1 }

/-- `default`: too far apart, wait for alignment in future samples. -/
def discard (st : Listener) : Listener := { st with skipSlot := false, keepData := .zero }

/-- `switch (secs_error)`. -/
def switch (st : Listener) : Listener :=
  if st.secsError = 1 then st.keep 0
  else if st.secsError = -1 then st.keep 1
  else if st.secsError = 0 then st.record
  else st.discard

/-- Both slots are emptied after a comparison. -/
def clear (st : Listener) : Listener :=
  { st with plValidFlag := resetDataReady, cliData := fun _ => .zero }

/-- The part of an iteration behind the loop over the connections. -/
def compare (st : Listener) : Listener :=
  if dataReady st.plValidFlag then st.switch.clear else st

/-! ### The loop -/

/-- How `select()` returned. -/
inductive Activity where
  | ready
  /-- Interrupted by a signal (`EINTR`): the sets are scanned nevertheless. -/
  | interrupted
  | failed
deriving DecidableEq

/-- Everything the system calls report in one iteration. -/
structure Io where
  activity : Activity
  slots : Slot → SlotIo

/-- `select()` and the loop over the connections. -/
def reads (st : Listener) (io : Io) : Except String Listener := do
  if io.activity = .failed then throw "[TSQ-L] Select error\n"
  let st ← st.slotStep 0 (io.slots 0)
  st.slotStep 1 (io.slots 1)

/-- One iteration of the receive loop. -/
def iterate (st : Listener) (io : Io) : Except String Listener := do
  let st ← st.reads io
  return st.compare

end Listener

/-- The listener's receive loop under arbitrary system calls, for clients that introduced
themselves as `cliIds`. The loop may be left before any iteration, when a signal arrived. -/
def listenerLts (cliIds : Slot → Int32) : Lts Listener Listener.Io where
  init st := st = Listener.start cliIds
  step st io := (st.iterate io).toOption

/-! ### What one step can do -/

namespace Listener

lemma readSlot_of_keeping {st : Listener} {i : Slot} (h : st.Keeping i) (bytes : List UInt8) :
    st.readSlot i bytes = { st with
      cliData := Function.update st.cliData i st.keepData
      plValidFlag := Function.update st.plValidFlag i true } := if_pos h

lemma readSlot_of_presents {st : Listener} {i : Slot} {bytes : List UInt8} (h : ¬ st.Keeping i)
    (hp : st.Presents bytes) :
    st.readSlot i bytes = { st with
      plValidFlag := Function.update st.plValidFlag i true
      cliData := Function.update st.cliData i (window bytes) } := by
  rw [readSlot, if_neg h, if_pos hp]

lemma readSlot_of_not_presents {st : Listener} {i : Slot} {bytes : List UInt8}
    (h : ¬ st.Keeping i) (hp : ¬ st.Presents bytes) : st.readSlot i bytes = st := by
  rw [readSlot, if_neg h, if_neg hp]

/-! Reading a slot touches that slot and its flag, and nothing else. -/

section
variable (st : Listener) (i : Slot) (bytes : List UInt8)

@[simp] lemma readSlot_cliIds : (st.readSlot i bytes).cliIds = st.cliIds := by
  unfold readSlot; split_ifs <;> rfl

@[simp] lemma readSlot_keepData : (st.readSlot i bytes).keepData = st.keepData := by
  unfold readSlot; split_ifs <;> rfl

@[simp] lemma readSlot_skipSlot : (st.readSlot i bytes).skipSlot = st.skipSlot := by
  unfold readSlot; split_ifs <;> rfl

@[simp] lemma readSlot_keepDataSlot : (st.readSlot i bytes).keepDataSlot = st.keepDataSlot := by
  unfold readSlot; split_ifs <;> rfl

@[simp] lemma readSlot_rounds : (st.readSlot i bytes).rounds = st.rounds := by
  unfold readSlot; split_ifs <;> rfl

@[simp] lemma readSlot_out : (st.readSlot i bytes).out = st.out := by
  unfold readSlot; split_ifs <;> rfl

end

@[simp] lemma keeping_readSlot {st : Listener} {i j : Slot} {bytes : List UInt8} :
    (st.readSlot i bytes).Keeping j ↔ st.Keeping j := by simp [Keeping]

@[simp] lemma presents_readSlot {st : Listener} {i : Slot} {bytes bytes' : List UInt8} :
    (st.readSlot i bytes).Presents bytes' ↔ st.Presents bytes' := by simp [Presents]

lemma readSlot_of_ne {st : Listener} {i j : Slot} {bytes : List UInt8} (h : j ≠ i) :
    (st.readSlot i bytes).cliData j = st.cliData j ∧
      (st.readSlot i bytes).plValidFlag j = st.plValidFlag j := by
  unfold readSlot
  split_ifs <;> simp [h]

/-- A slot step that does not end the process reads the slot or leaves the state alone. -/
lemma slotStep_cases {st st' : Listener} {i : Slot} {io : SlotIo}
    (h : st.slotStep i io = .ok st') :
    (io = .notReady ∧ st' = st) ∨ ∃ bytes hb, io = .got bytes hb ∧ st' = st.readSlot i bytes := by
  cases io with
  | notReady => exact .inl ⟨rfl, by simpa [slotStep] using h.symm⟩
  | halted => simp [slotStep] at h
  | failed => simp [slotStep] at h
  | got bytes hb => exact .inr ⟨bytes, hb, rfl, by simpa [slotStep] using h.symm⟩

/-- The loop over the connections serves slot 0 and then slot 1. -/
lemma reads_cases {st st' : Listener} {io : Io} (h : st.reads io = .ok st') :
    io.activity ≠ .failed ∧
      ∃ st₁, st.slotStep 0 (io.slots 0) = .ok st₁ ∧ st₁.slotStep 1 (io.slots 1) = .ok st' := by
  by_cases ha : io.activity = .failed
  · simp [reads, ha, bind, Except.bind, throw, throwThe, MonadExceptOf.throw] at h
  · refine ⟨ha, ?_⟩
    cases h₀ : st.slotStep 0 (io.slots 0) with
    | error e => simp [reads, ha, h₀, bind, Except.bind] at h
    | ok st₁ =>
      exact ⟨st₁, rfl, by simpa [reads, ha, h₀, bind, Except.bind, pure, Except.pure] using h⟩

/-- An iteration is the reads followed by the comparison. -/
lemma iterate_eq_ok {st st' : Listener} {io : Io} :
    st.iterate io = .ok st' ↔ ∃ st₁, st.reads io = .ok st₁ ∧ st' = st₁.compare := by
  cases h : st.reads io with
  | error e => simp [iterate, h, bind, Except.bind]
  | ok st₁ => simp [iterate, h, bind, Except.bind, pure, Except.pure, eq_comm]

/-- The reads of an iteration leave the output and the kept sample alone. -/
lemma reads_frame {st st' : Listener} {io : Io} (h : st.reads io = .ok st') :
    st'.cliIds = st.cliIds ∧ st'.keepData = st.keepData ∧ st'.skipSlot = st.skipSlot ∧
      st'.keepDataSlot = st.keepDataSlot ∧ st'.rounds = st.rounds ∧ st'.out = st.out := by
  obtain ⟨-, st₁, h₀, h₁⟩ := reads_cases h
  obtain ⟨-, rfl⟩ | ⟨b₀, _, -, rfl⟩ := slotStep_cases h₀ <;>
    obtain ⟨-, rfl⟩ | ⟨b₁, _, -, rfl⟩ := slotStep_cases h₁ <;> simp

lemma compare_of_not_ready {st : Listener} (h : dataReady st.plValidFlag = false) :
    st.compare = st := by simp [compare, h]

lemma compare_of_ready {st : Listener} (h : dataReady st.plValidFlag = true) :
    st.compare = st.switch.clear := by simp [compare, h]

lemma secsError_eq_zero {st : Listener} :
    st.secsError = 0 ↔ (st.cliData 0).secs = (st.cliData 1).secs := by
  rw [secsError, ← Int64.toBitVec_inj, Int64.toBitVec_sub, ← Int64.toBitVec_inj]
  exact BitVec.sub_eq_iff_eq_add.trans (by simp)

/-- The four ways a comparison can end. -/
lemma switch_cases (st : Listener) :
    (st.secsError = 1 ∧ st.switch = st.keep 0) ∨ (st.secsError = -1 ∧ st.switch = st.keep 1) ∨
      (st.secsError = 0 ∧ st.switch = st.record) ∨
      (st.secsError ≠ 1 ∧ st.secsError ≠ -1 ∧ st.secsError ≠ 0 ∧ st.switch = st.discard) := by
  unfold switch
  split_ifs <;> simp_all

/-! ### Whole samples on both connections -/

/-- Both connections are ready and deliver one sample each. -/
def bothDeliver (p : Slot → Payload) : Io where
  activity := .ready
  slots := fun i => .got (p i).toBytes (by simp [Payload.size, bufferSize])

/-- The iteration that reads the samples `p`. -/
def serve (st : Listener) (p : Slot → Payload) : Listener :=
  ((st.readSlot 0 (p 0).toBytes).readSlot 1 (p 1).toBytes).compare

lemma iterate_bothDeliver (st : Listener) (p : Slot → Payload) :
    st.iterate (bothDeliver p) = .ok (st.serve p) := rfl

end Listener

lemma listenerLts_step {cliIds : Slot → Int32} {st st' : Listener} {io : Listener.Io} :
    (listenerLts cliIds).step st io = some st' ↔ st.iterate io = .ok st' := by
  cases h : st.iterate io <;> simp [listenerLts, h, Except.toOption]

end TsnRefSw
