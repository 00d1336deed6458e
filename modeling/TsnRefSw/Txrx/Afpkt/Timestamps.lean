import Mathlib.Data.List.Induction
import TsnRefSw.Core.Clock
import TsnRefSw.Core.Cmsg

/-!
# The timestamps of the network card

The kernel hands over the time at which the network card sent or received a packet in a control
message, with other messages before and behind it. `get_timestamp()` looks for it.
-/

namespace TsnRefSw

open Core

namespace Txrx

/-! ### Control messages -/

def solSocket : Nat := 1

def soTimestampns : Nat := 35

def soTimestamping : Nat := 37

/-- `sizeof(struct timespec)` -/
def timespecSize : Nat := 16

/-- `ts` behind the loop of `get_timestamp()`. -/
def tsPointer (m : Memory) (controllen : Nat) : Option Nat :=
  (Cmsg.headers m controllen).foldl (fun ts a =>
    if Cmsg.levelAt m a ≠ solSocket then ts
    else if Cmsg.typeAt m a = soTimestampns ∨ Cmsg.typeAt m a = soTimestamping then
      some (Cmsg.dataAt a)
    else ts) none

/-- `ts[2]` in nanoseconds. -/
def thirdTime (m : Memory) (ts : Nat) : Nat :=
  let tvSec := m.readLe (ts + 2 * timespecSize) 8
  let tvNsec := m.readLe (ts + 2 * timespecSize + 8) 8
  (tvSec * nsecPerSec + tvNsec) % 2 ^ 64

/-- `get_timestamp()` -/
def getTimestamp (m : Memory) (controllen : Nat) : Nat :=
  (tsPointer m controllen).elim 0 (thirdTime m)

/-- `extract_ts_from_cmsg()`, with what waits in the error queue; `control` is what the stack
holds before. -/
def extractTsFromCmsg (control : Memory) : Option (List Cmsg) → Nat
  | none    => 0
  | some cs => getTimestamp (Cmsg.put control 0 cs) (Cmsg.room cs)

/-! ### What the kernel reports of a packet sent -/

/-- `SCM_TIMESTAMPING` with the time of the network card only. -/
def scmTimestamping (time : Nat) : Cmsg where
  level := 1
  type := 37
  data := List.replicate 32 0 ++ (leBytes 8 (time / nsecPerSec) ++ leBytes 8 (time % nsecPerSec))

/-- `PACKET_TX_TIMESTAMP`, with a `struct sock_extended_err`. -/
def packetTxTimestamp (ee : Vector UInt8 16) : Cmsg where
  level := 263
  type := 16
  data := ee.toList

/-- What is reported of a packet. -/
def txReport (time : Nat) (ee : Vector UInt8 16) : List Cmsg :=
  [scmTimestamping time, packetTxTimestamp ee]

/-! ### What is found -/

/-- A message of the socket with timestamps. -/
def IsTimestamp (c : Cmsg) : Prop :=
  c.level.toNat = solSocket ∧ (c.type.toNat = soTimestampns ∨ c.type.toNat = soTimestamping)

instance (c : Cmsg) : Decidable (IsTimestamp c) := inferInstanceAs (Decidable (_ ∧ _))

/-- The third of the times in a message. -/
def hwTime (c : Cmsg) : Nat := thirdTime (Memory.zeroFill c.data) 0

/-- The last message with timestamps. -/
def lastTimestamp (cs : List Cmsg) : Option Cmsg := (cs.filter IsTimestamp).getLast?

lemma lastTimestamp_eq (cs : List Cmsg) :
    lastTimestamp cs = cs.foldl (fun last c => if IsTimestamp c then some c else last) none := by
  induction cs using List.reverseRecOn with
  | nil => rfl
  | append_singleton cs c ih =>
    rw [List.foldl_concat, ← ih, lastTimestamp, List.filter_append]
    by_cases hc : IsTimestamp c
    · rw [if_pos hc, List.filter_singleton, decide_eq_true hc]
      exact List.getLast?_concat
    · rw [if_neg hc, List.filter_singleton, decide_eq_false hc]
      exact congrArg _ (List.append_nil _)

/-- The pointer is that to the data of the last message with timestamps. -/
lemma tsPointer_of_holds {m : Memory} {cs : List Cmsg} (h : Cmsg.Holds m 0 cs)
    (hroom : Cmsg.room cs < 2 ^ 64) :
    Option.Rel (fun ts c => m.Contains ts c.data) (tsPointer m (Cmsg.room cs))
      (lastTimestamp cs) := by
  rw [lastTimestamp_eq]
  refine List.rel_foldl (P := Option.Rel fun ts (c : Cmsg) => m.Contains ts c.data) ?_ .none
    (Cmsg.headers_of_holds h hroom)
  intro ts last hlast a c hc
  obtain ⟨-, hlevel, htype, hdata⟩ := Cmsg.parts_of_contains hc
  simp only [hlevel, htype]
  by_cases hsocket : c.level.toNat = solSocket
  · rw [if_neg (not_not.mpr hsocket)]
    by_cases htimes : c.type.toNat = soTimestampns ∨ c.type.toNat = soTimestamping
    · rw [if_pos htimes, if_pos ⟨hsocket, htimes⟩]
      exact .some hdata
    · rw [if_neg htimes, if_neg fun his => htimes his.2]
      exact hlast
  · rw [if_pos hsocket, if_neg fun his => hsocket his.1]
    exact hlast

/-- The times are read where the data are. -/
lemma thirdTime_of_contains {m : Memory} {ts : Nat} {c : Cmsg} (h : m.Contains ts c.data)
    (hlength : 3 * timespecSize ≤ c.data.length) : thirdTime m ts = hwTime c := by
  have hread : ∀ o, o + 8 ≤ c.data.length →
      m.readLe (ts + o) 8 = (Memory.zeroFill c.data).readLe (0 + o) 8 := by
    intro o ho
    apply Memory.readLe_congr
    intro i hi
    rw [Nat.add_assoc, h (o + i) (by omega), Nat.zero_add]
    rfl
  have hsize : timespecSize = 16 := rfl
  rw [hwTime, thirdTime, thirdTime, Nat.add_assoc ts, Nat.add_assoc 0, hread _ (by omega),
    hread _ (by omega)]

/-- Where the kernel has put messages one behind the other, in a buffer with whatever in it,
`get_timestamp()` returns the third time of the last message with timestamps, and zero if there
is none. -/
theorem getTimestamp_of_holds {m : Memory} {cs : List Cmsg} (h : Cmsg.Holds m 0 cs)
    (hroom : Cmsg.room cs < 2 ^ 64)
    (htimes : ∀ c ∈ cs, IsTimestamp c → 3 * timespecSize ≤ c.data.length) :
    getTimestamp m (Cmsg.room cs) = (lastTimestamp cs).elim 0 hwTime := by
  have hpointer := tsPointer_of_holds h hroom
  rw [getTimestamp]
  generalize tsPointer m (Cmsg.room cs) = pointer at hpointer
  cases hlast : lastTimestamp cs with
  | none =>
    rw [hlast] at hpointer
    cases hpointer
    rw [Option.elim_none, Option.elim_none]
  | some c =>
    rw [hlast] at hpointer
    cases hpointer with
    | some hdata =>
      obtain ⟨hc, his⟩ := List.mem_filter.mp (List.mem_of_getLast? hlast)
      rw [Option.elim_some, Option.elim_some]
      exact thirdTime_of_contains hdata (htimes c hc (of_decide_eq_true his))

/-- Three messages, the time in the second of them. -/
private def threeMessages : List Cmsg :=
  [⟨263, 8, [1, 2, 3]⟩, scmTimestamping 5000000123, packetTxTimestamp (.replicate 16 7)]

theorem getTimestamp_of_holds_three :
    getTimestamp (Cmsg.put (fun _ => 170) 0 threeMessages) (Cmsg.room threeMessages) =
      5000000123 := by
  rw [getTimestamp_of_holds (Cmsg.holds_put _ 0 threeMessages) (by decide) (by decide)]
  decide +kernel

/-! ### The time of a packet sent -/

lemma hwTime_scmTimestamping {time : Nat} (h : time < 2 ^ 64) :
    hwTime (scmTimestamping time) = time := by
  have hcontains : (Memory.zeroFill (scmTimestamping time).data).Contains 0
      (scmTimestamping time).data := by
    intro i _
    rw [Nat.zero_add]
    rfl
  have htimes := hcontains.right
  rw [List.length_replicate, Nat.zero_add] at htimes
  have hsec := htimes.left.readLe
  have hnsec := htimes.right.readLe
  rw [leBytes_length] at hnsec
  have hlt : time / nsecPerSec < 256 ^ 8 ∧ time % nsecPerSec < 256 ^ 8 := by
    rw [nsecPerSec]
    omega
  rw [Nat.mod_eq_of_lt hlt.1] at hsec
  rw [Nat.mod_eq_of_lt hlt.2] at hnsec
  rw [hwTime, thirdTime, Nat.zero_add, timespecSize, show 2 * 16 = 32 from rfl, hsec, hnsec,
    Nat.div_add_mod', Nat.mod_eq_of_lt h]

lemma length_scmTimestamping (time : Nat) :
    (scmTimestamping time).data.length = 3 * timespecSize := by
  simp [scmTimestamping, timespecSize]

lemma room_txReport (time : Nat) (ee : Vector UInt8 16) : Cmsg.room (txReport time ee) = 96 := by
  have hlength : (packetTxTimestamp ee).data.length = 16 := by simp [packetTxTimestamp]
  simp only [txReport, Cmsg.room, Cmsg.space, Cmsg.len, length_scmTimestamping, hlength]
  rfl

/-- The time that is reported is returned. -/
lemma extractTsFromCmsg_txReport (control : Memory) {time : Nat} (h : time < 2 ^ 64)
    (ee : Vector UInt8 16) : extractTsFromCmsg control (some (txReport time ee)) = time := by
  have hlast : lastTimestamp (txReport time ee) = some (scmTimestamping time) := rfl
  have hroom : Cmsg.room (txReport time ee) < 2 ^ 64 := by
    rw [room_txReport]
    decide
  rw [extractTsFromCmsg, getTimestamp_of_holds (Cmsg.holds_put control 0 _) hroom, hlast,
    Option.elim_some, hwTime_scmTimestamping h]
  intro c hc his
  rcases List.mem_cons.mp hc with rfl | hc
  · exact Nat.le_of_eq (length_scmTimestamping time).symm
  · obtain rfl := List.mem_singleton.mp hc
    exact absurd his.1 (show ¬ (263 : UInt32).toNat = solSocket by decide)

end Txrx

end TsnRefSw
