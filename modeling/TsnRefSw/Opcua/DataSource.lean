import Mathlib.Algebra.Group.Int.Defs
import Mathlib.Algebra.Group.Nat.Defs
import TsnRefSw.Core.Fifo

/-!
# The data source callbacks

What the PubSub stack calls to fetch the values of a published data set and to hand over those
of a received one. Values travel as arrays of 64-bit numbers whose positions carry the meaning:
two for a sample, five for a returned sample.
-/

namespace TsnRefSw

open Core

namespace Opcua

/-- `packet_count`, as the configuration admits it. -/
structure PacketCount where
  val : UInt64
  ge : 1 ≤ val
  le : val ≤ 10000000

/-- The number of samples in most runs that are followed step by step. -/
def PacketCount.thousand : PacketCount := ⟨1000, by decide, by decide⟩

/-- `ERROR_DUPLICATE`. -/
def errorDuplicate : UInt64 := 3131313131313131313

/-- `ERROR_MSGQ_COPY`. -/
def errorMsgqCopy : UInt64 := 4343434343434343434

/-- `ERROR_NOTHING_TO_FORWARD`. -/
def errorNothingToForward : UInt64 := 5656565656565656565

/-- `struct msgq_buf`; all messages have the type `MSGQ_TYPE`. -/
structure MsgqBuf where
  rxSequence : UInt64
  txTime : UInt64
  rxTime : UInt64
deriving DecidableEq, Repr

/-- The times of the message are not the ones the callbacks use as markers. -/
def MsgqBuf.Real (m : MsgqBuf) : Prop :=
  ¬ (m.txTime = 888 ∧ m.rxTime = 888) ∧ ¬ (m.txTime = 999 ∧ m.rxTime = 999)

instance (m : MsgqBuf) : Decidable m.Real := inferInstanceAs (Decidable (_ ∧ _))

/-- `UA_Variant`, as far as the callbacks look at it. -/
structure Variant where
  arrayLength : UInt64
  data : Option (List UInt64)
deriving DecidableEq, Repr

/-- `UA_Variant_setArrayCopy()`. -/
def Variant.ofArray (d : List UInt64) : Variant := ⟨UInt64.ofNat d.length, some d⟩

/-- The array length `(UA_UInt64) -1`. -/
def noLength : UInt64 := UInt64.ofNat (2 ^ 64 - 1)

/-- A line of B's subscriber. -/
structure SubLine where
  latency : Int64
  rxSequence : UInt64
  id : Int32
  txTime : UInt64
  rxHwTS : UInt64
  rxTime : UInt64
deriving DecidableEq, Repr

/-- A line of A's return subscriber for a sample that came back. -/
structure ReturnTimes where
  a2bLatency : Int64
  seqA : UInt64
  id : Int32
  txPubA : UInt64
  rxHwTS : UInt64
  rxSubB : UInt64
  processingLatency : Int64
  b2aLatency : Int64
  seqB : UInt64
  txPubB : UInt64
  rxSubA : UInt64
  returnLatency : Int64
deriving DecidableEq, Repr

/-- A line of A's return subscriber. -/
inductive SubReturnLine where
  /-- `ERROR_DUPLICATE_SKIPPED` -/
  | duplicate
  /-- `ERROR_MSGQ_COPY` -/
  | msgqCopy
  /-- `ERROR_NOTHING_TO_FORWARD` -/
  | nothingToForward
  | data (r : ReturnTimes)
deriving DecidableEq, Repr

/-- The globals and the subscriber's data of one process. -/
structure Server (cap : Nat) where
  gRunning : Bool
  gRoundtripPubReturn : Bool
  txSequence : Int64
  prevRxSequence : UInt64
  /-- The message queue, where `msqid >= 0`. -/
  msgq : Option (Fifo MsgqBuf cap)
  id : Int32
  /-- `fpSubscriberOutput` is not `NULL`. -/
  fpSubscriberOutput : Bool
  subOut : List SubLine
  subReturnOut : List SubReturnLine

namespace Server

variable {cap : Nat}

/-- A process without a return publisher. -/
def initial (id : Int32) : Server cap where
  gRunning := true
  gRoundtripPubReturn := true
  txSequence := -2
  prevRxSequence := 999
  msgq := none
  id := id
  fpSubscriberOutput := true
  subOut := []
  subReturnOut := []

/-- A process with a return publisher, as `configureServer()` leaves it. -/
def initialReturn (id : Int32) : Server cap :=
  { (initial id : Server cap) with gRoundtripPubReturn := false, msgq := some .empty }

/-! ### A's publisher -/

/-- `pubGetDataToTransmit()`. -/
def pubGetDataToTransmit (packetCount : PacketCount) (s : Server cap) (currentTime : UInt64) :
    Server cap × Variant :=
  let txSequence := s.txSequence + 1
  ({ s with
      txSequence := txSequence
      gRunning := if txSequence = packetCount.val.toInt64 then false else s.gRunning },
    .ofArray [txSequence.toUInt64, currentTime])

/-! ### B's subscriber -/

/-- Valid data has arrived. -/
def raise (s : Server cap) : Server cap := { s with gRoundtripPubReturn := true }

/-- `msgsnd()` with `IPC_NOWAIT`: a message that finds the queue full is dropped. -/
def msgsnd (s : Server cap) (m : MsgqBuf) : Server cap :=
  { s with msgq := s.msgq.map fun q => (q.send m).getD q }

/-- The line for a sample is printed and the sample is put in the queue. -/
def store (s : Server cap) (m : MsgqBuf) : Server cap :=
  msgsnd { s with
    subOut := if s.fpSubscriberOutput then
        s.subOut ++ [⟨(m.rxTime - m.txTime).toInt64, m.rxSequence, s.id, m.txTime, 0, m.rxTime⟩]
      else s.subOut } m

/-- The output is closed and the threads are told to stop. -/
def stop (s : Server cap) : Server cap :=
  { s with fpSubscriberOutput := false, gRunning := false }

/-- The number and the time of a sample, with the time of its arrival; reading outside the array
is undefined. -/
def decode (v : Variant) (rxTime : UInt64) : Option MsgqBuf :=
  match v.data with
  | some (rxSequence :: txTime :: _) => some ⟨rxSequence, txTime, rxTime⟩
  | _ => none

/-- The last sample stops the process. -/
def finish (packetCount : PacketCount) (s : Server cap) (rxSequence : UInt64) : Server cap :=
  if rxSequence = packetCount.val then s.stop else s

/-- `subStoreDataReceived()`. -/
def subStoreDataReceived (packetCount : PacketCount) (s : Server cap) (data : Option Variant)
    (rxTime : UInt64) : Option (Server cap) :=
  match data with
  | none => some s
  | some v =>
    if v.arrayLength = noLength ∧ v.data = none then some s
    else if v.arrayLength = noLength ∨ 0 < v.arrayLength then
      (decode v rxTime).map fun m => (s.raise.store m).finish packetCount m.rxSequence
    else some (s.finish packetCount 999)

/-! ### B's return publisher -/

/-- What `pubReturnGetDataToTransmit()` makes of the message it read from the queue. -/
inductive Verdict where
  | earlyInvalid
  | earlyMissed
  | nothingToForward
  | msgqCopy
  | duplicate
  | good
deriving DecidableEq, Repr

/-- One of the numbers that stand for an error. -/
def IsMarker (e : UInt64) : Prop :=
  e = errorDuplicate ∨ e = errorMsgqCopy ∨ e = errorNothingToForward

instance (e : UInt64) : Decidable (IsMarker e) := inferInstanceAs (Decidable (_ ∨ _ ∨ _))

/-- The marker that replaces the sample. -/
def Verdict.marker : Verdict → Option UInt64
  | .nothingToForward => some errorNothingToForward
  | .msgqCopy         => some errorMsgqCopy
  | .duplicate        => some errorDuplicate
  | _                 => none

/-- The chain of checks, `prev` being the number forwarded last. -/
def verdict (prev : UInt64) (m : MsgqBuf) : Verdict :=
  if m.rxSequence < 10 ∧ m.rxTime = 999 ∧ m.txTime = 999 then .earlyInvalid
  else if m.rxSequence < 10 ∧ m.rxTime = 888 ∧ m.txTime = 888 then .earlyMissed
  else if m.rxSequence = 999 ∧ m.rxTime = 999 ∧ m.txTime = 999 then .nothingToForward
  else if m.rxSequence = 888 ∧ m.rxTime = 888 ∧ m.txTime = 888 then .msgqCopy
  else if m.rxSequence = prev ∧ 10 < m.rxSequence ∧ m.rxTime ≠ 999 then .duplicate
  else .good

/-- What `msgqC` holds before the first `msgrcv()`. -/
def noMessage : MsgqBuf := ⟨888, 888, 888⟩

/-- What `msgqB` holds before a sample is stored in it. -/
def noSample : MsgqBuf := ⟨999, 999, 999⟩

/-- The outcome of the attempts at `msgrcv()`: the oldest message, or none if the queue is
found empty or there is no queue. -/
def msgrcv (s : Server cap) : MsgqBuf × Server cap :=
  match s.msgq.bind Fifo.receive with
  | none        => (noMessage, s)
  | some (m, q) => (m, { s with msgq := some q })

/-- The sample, or the marker in its place. -/
def forwarded (v : Verdict) (m : MsgqBuf) : MsgqBuf :=
  match v.marker with
  | some e => ⟨e, e, e⟩
  | none   => m

/-- What `pubReturnGetDataToTransmit()` does with the message it read, and its verdict. -/
def forward (packetCount : PacketCount) (s : Server cap) (m : MsgqBuf) (currentTime : UInt64) :
    Server cap × Verdict × Variant :=
  let v := verdict s.prevRxSequence m
  let curr := forwarded v m
  let txSequence := if v = .good then s.txSequence + 1 else s.txSequence
  ({ s with
      gRoundtripPubReturn := if v = .earlyInvalid ∨ v = .earlyMissed then false
        else s.gRoundtripPubReturn
      txSequence := txSequence
      gRunning := if packetCount.val.toInt64 ≤ txSequence then false else s.gRunning
      prevRxSequence := if curr.rxSequence ≠ errorDuplicate ∧ curr.rxSequence ≠ errorMsgqCopy ∧
          curr.rxSequence ≠ errorNothingToForward then curr.rxSequence
        else s.prevRxSequence },
    v,
    .ofArray [curr.rxSequence, curr.txTime, curr.rxTime, txSequence.toUInt64, currentTime])

/-- `pubReturnGetDataToTransmit()`. -/
def pubReturnGetDataToTransmit (packetCount : PacketCount) (s : Server cap)
    (currentTime : UInt64) : Server cap × Verdict × Variant :=
  s.msgrcv.2.forward packetCount s.msgrcv.1 currentTime

/-! ### A's return subscriber -/

/-- The line for a returned array. -/
def returnLine (id : Int32) (seqA txPubA rxSubB seqB txPubB rxSubA : UInt64) : SubReturnLine :=
  if seqA = errorDuplicate then .duplicate
  else if seqA = errorMsgqCopy then .msgqCopy
  else if seqA = errorNothingToForward then .nothingToForward
  else .data {
    a2bLatency := (rxSubB - txPubA).toInt64
    seqA := seqA
    id := id
    txPubA := txPubA
    rxHwTS := 0
    rxSubB := rxSubB
    processingLatency := (txPubB - rxSubB).toInt64
    b2aLatency := (rxSubA - txPubB).toInt64
    seqB := seqB
    txPubB := txPubB
    rxSubA := rxSubA
    returnLatency := (rxSubA - txPubA).toInt64 }

/-- The number is a sample's and the last one, or beyond it. -/
def Final (packetCount : PacketCount) (seqA : UInt64) : Prop :=
  seqA ≠ errorDuplicate ∧ seqA ≠ errorMsgqCopy ∧ seqA ≠ errorNothingToForward ∧
    packetCount.val ≤ seqA

instance (packetCount : PacketCount) (seqA : UInt64) : Decidable (Final packetCount seqA) :=
  inferInstanceAs (Decidable (_ ∧ _ ∧ _ ∧ _))

/-- The rest of `subReturnStoreDataReceived()` when valid data has arrived. -/
def returnReceived (packetCount : PacketCount) (s : Server cap) (v : Variant)
    (rxSubA : UInt64) : Option (Server cap) :=
  match v.data with
  | some (seqA :: txPubA :: rxSubB :: seqB :: txPubB :: _) =>
    let s := { s with
      subReturnOut := if s.fpSubscriberOutput then
          s.subReturnOut ++ [returnLine s.id seqA txPubA rxSubB seqB txPubB rxSubA]
        else s.subReturnOut }
    some (if Final packetCount seqA then s.stop else s)
  | _ => none

/-- `subReturnStoreDataReceived()`. -/
def subReturnStoreDataReceived (packetCount : PacketCount) (s : Server cap)
    (data : Option Variant) (rxSubA : UInt64) : Option (Server cap) :=
  match data with
  | none => some s
  | some v =>
    if v.arrayLength = noLength ∧ v.data = none then some s
    else if v.arrayLength = noLength ∨ 0 < v.arrayLength then
      s.returnReceived packetCount v rxSubA
    else some (if Final packetCount 0 then s.stop else s)

/-! ### What the callbacks do -/

section
variable (packetCount : PacketCount) (s : Server cap)

/-- A sample as A's publisher sends it. -/
def sample (p : UInt64 × UInt64) : Variant := .ofArray [p.1, p.2]

/-- A message as B's return publisher sends it. -/
def reply (m : MsgqBuf) (seqB txPubB : UInt64) : Variant :=
  .ofArray [m.rxSequence, m.txTime, m.rxTime, seqB, txPubB]

lemma reply_inj {m m' : MsgqBuf} {seqB seqB' t t' : UInt64} :
    reply m seqB t = reply m' seqB' t' ↔ m = m' ∧ seqB = seqB' ∧ t = t' := by
  cases m
  cases m'
  simp [reply, Variant.ofArray, and_assoc]

@[simp] lemma decode_sample (p : UInt64 × UInt64) (now : UInt64) :
    decode (sample p) now = some ⟨p.1, p.2, now⟩ := rfl

/-- Receiving a sample is raising the flag, storing the sample and looking whether it is the
last. -/
lemma subStoreDataReceived_sample (p : UInt64 × UInt64) (now : UInt64) :
    s.subStoreDataReceived packetCount (some (sample p)) now =
      some ((s.raise.store ⟨p.1, p.2, now⟩).finish packetCount p.1) := rfl

/-- Looking whether a sample is the last touches neither the queue nor the counters. -/
lemma finish_frame (n : UInt64) : (s.finish packetCount n).msgq = s.msgq ∧
    (s.finish packetCount n).txSequence = s.txSequence ∧
    (s.finish packetCount n).prevRxSequence = s.prevRxSequence := by
  unfold finish
  split_ifs
  · exact ⟨rfl, rfl, rfl⟩
  · exact ⟨rfl, rfl, rfl⟩

/-- What a message of B does to A's output. -/
lemma subReturnStoreDataReceived_reply {m : MsgqBuf} {seqB txPubB now : UInt64} {s' : Server cap}
    (h : s.subReturnStoreDataReceived packetCount (some (reply m seqB txPubB)) now = some s') :
    s'.subReturnOut = (if s.fpSubscriberOutput then s.subReturnOut ++
        [returnLine s.id m.rxSequence m.txTime m.rxTime seqB txPubB now] else s.subReturnOut) ∧
    s'.fpSubscriberOutput = (if Final packetCount m.rxSequence then false
      else s.fpSubscriberOutput) := by
  have hreply : s.subReturnStoreDataReceived packetCount (some (reply m seqB txPubB)) now =
      s.returnReceived packetCount (reply m seqB txPubB) now := rfl
  rw [hreply] at h
  cases h
  by_cases hfinal : Final packetCount m.rxSequence
  · simp [hfinal, stop]
  · simp [hfinal]

/-- The queue holds nothing new but the sample stored, and that unless it was full. -/
lemma msgq_store {q : Fifo MsgqBuf cap} (m : MsgqBuf) (hq : s.msgq = some q) :
    ∃ q', (s.store m).msgq = some q' ∧
      (q'.items = q.items ++ [m] ∨ (cap ≤ q.items.length ∧ q' = q)) := by
  refine ⟨(q.send m).getD q, by simp [store, msgsnd, hq], ?_⟩
  cases h : q.send m with
  | none => exact .inr ⟨Fifo.send_eq_none.mp h, rfl⟩
  | some q' => exact .inl (Fifo.items_of_send h)

/-- `msgrcv()` takes the oldest message, or finds the queue empty. -/
lemma msgrcv_cases {q : Fifo MsgqBuf cap} (hq : s.msgq = some q) :
    (q.items = [] ∧ s.msgrcv = (noMessage, s)) ∨
      ∃ m q', q.items = m :: q'.items ∧ s.msgrcv = (m, { s with msgq := some q' }) := by
  cases h : q.receive with
  | none => exact .inl ⟨Fifo.receive_eq_none.mp h, by simp [msgrcv, hq, h]⟩
  | some r =>
    obtain ⟨m, q'⟩ := r
    exact .inr ⟨m, q', Fifo.items_of_receive h, by simp [msgrcv, hq, h]⟩

/-- Reading the queue touches no counter. -/
lemma msgrcv_frame : s.msgrcv.2.txSequence = s.txSequence ∧
    s.msgrcv.2.prevRxSequence = s.prevRxSequence := by
  unfold msgrcv
  split
  · exact ⟨rfl, rfl⟩
  · exact ⟨rfl, rfl⟩

end

@[simp] lemma verdict_noMessage (prev : UInt64) : verdict prev noMessage = .msgqCopy := by
  simp [verdict, noMessage]

/-- A message is replaced by a marker for one of three reasons. -/
lemma marker_cases (prev : UInt64) (m : MsgqBuf) :
    (verdict prev m).marker = none ∨ ∃ e, (verdict prev m).marker = some e ∧
      (m = noMessage ∨ m = noSample ∨ m.rxSequence = prev ∧ 10 < m.rxSequence) := by
  cases m with | mk rxSequence txTime rxTime =>
  unfold verdict
  split_ifs with h₁ h₂ h₃ h₄ h₅
  · exact .inl rfl
  · exact .inl rfl
  · obtain ⟨rfl, rfl, rfl⟩ := h₃
    exact .inr ⟨_, rfl, .inr (.inl rfl)⟩
  · obtain ⟨rfl, rfl, rfl⟩ := h₄
    exact .inr ⟨_, rfl, .inl rfl⟩
  · exact .inr ⟨_, rfl, .inr (.inr ⟨h₅.1, h₅.2.1⟩)⟩
  · exact .inl rfl

/-- The verdict on a sample with real times. -/
lemma verdict_of_real {m : MsgqBuf} (h : m.Real) (prev : UInt64) : verdict prev m =
    if m.rxSequence = prev ∧ 10 < m.rxSequence ∧ m.rxTime ≠ 999 then .duplicate else .good := by
  obtain ⟨h₈, h₉⟩ := h
  unfold verdict
  rw [if_neg fun h => h₉ ⟨h.2.2, h.2.1⟩, if_neg fun h => h₈ ⟨h.2.2, h.2.1⟩,
    if_neg fun h => h₉ ⟨h.2.2, h.2.1⟩, if_neg fun h => h₈ ⟨h.2.2, h.2.1⟩]

end Server

end Opcua

end TsnRefSw
