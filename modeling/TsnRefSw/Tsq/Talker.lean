import Mathlib.Data.Nat.Digits.Lemmas
import Mathlib.Tactic.IntervalCases
import Mathlib.Tactic.Ring
import TsnRefSw.Tsq.Listener.Basic

/-!
# The TSQ talker

The transmit loop of `talker()`: poll the PTP device for an external timestamp and send it in
a 256-byte message, together with the greeting that tells the listener the talker's identifier.
-/

namespace TsnRefSw

open Core

/-- An identifier `parser()` admits: `999 ≤ uid ≤ 9999`. -/
structure TalkerUid where
  val : Nat
  ge : 999 ≤ val
  le : val ≤ 9999

/-- The identifier as the `int` the messages carry. -/
def TalkerUid.toInt32 (uid : TalkerUid) : Int32 := Int32.ofNat uid.val

lemma TalkerUid.toInt32_ne_zero (uid : TalkerUid) : uid.toInt32 ≠ 0 := by
  intro h
  have hmod : uid.toInt32.toInt = uid.val := by
    rw [toInt32, Int32.toInt_ofNat_of_lt (by have := uid.le; omega)]
  rw [h] at hmod
  have := uid.ge
  simp at hmod
  omega

namespace Talker

/-- A zeroed send buffer with `l` copied to its front. -/
def sendBuff (l : List UInt8) : List UInt8 := l ++ List.replicate (bufferSize - l.length) 0

lemma length_sendBuff {l : List UInt8} (h : l.length ≤ bufferSize) :
    (sendBuff l).length = bufferSize := by
  simp [sendBuff, h]

/-- The message that carries a sample. -/
def message (p : Payload) : List UInt8 := sendBuff p.toBytes

@[simp] lemma length_message (p : Payload) : (message p).length = bufferSize :=
  length_sendBuff (by simp [Payload.size, bufferSize])

/-- The digits `printf("%d")` writes for a positive number. -/
def decimal (n : Nat) : List UInt8 := (Nat.digits 10 n).reverse.map fun d => UInt8.ofNat (48 + d)

/-- The first message: `"%d\n"` with the identifier. -/
def greeting (uid : TalkerUid) : List UInt8 := sendBuff (decimal uid.val ++ [10])

lemma length_decimal_le (uid : TalkerUid) : (decimal uid.val).length ≤ 4 := by
  have hlt : uid.val < 10 ^ 4 := Nat.lt_of_le_of_lt uid.le (by norm_num)
  rw [decimal, List.length_map, List.length_reverse]
  exact (Nat.digits_length_le_iff (by norm_num) _).mpr hlt

@[simp] lemma length_greeting (uid : TalkerUid) : (greeting uid).length = bufferSize := by
  apply length_sendBuff
  have := length_decimal_le uid
  simp only [List.length_append, List.length_singleton, bufferSize]
  omega

/-- What the system calls report in one iteration. -/
structure Io where
  /-- `poll()` failed; or timed out (`none`); or one event was read whole. -/
  poll : Except Unit (Option (Int64 × UInt32))
  /-- `read()` returned something else than `sizeof(e)`. -/
  shortRead : Bool
  /-- `write()` returned a negative number. -/
  writeFailed : Bool

/-- The sample an iteration prepares: the event's time stamp, or zeros after a timeout. -/
def data (uid seq : Int32) (event : Option (Int64 × UInt32)) : Payload :=
  match event with
  | none             => ⟨uid, seq, 0, 0⟩
  | some (sec, nsec) => ⟨uid, seq, sec, Int64.ofNat nsec.toNat⟩

/-- One iteration of the transmit loop: the sample sent, if any, and the next number. -/
def iterate (uid seq : Int32) (io : Io) : Except String (Option Payload × Int32) :=
  match io.poll with
  | .error _ => .error "[TSQ-T] Failed to poll\n"
  | .ok event =>
    if event.isSome && io.shortRead then
      .error "[TSQ-T] read returns %lu bytes, expecting %lu bytes\n"
    else if (data uid seq event).secs ≠ 0 ∧ (data uid seq event).nsecs ≠ 0 then
      if io.writeFailed then .error "[TSQ-T] Erorr writing to socket.\n"
      else .ok (some (data uid seq event), seq + 1)
    else .ok (none, seq)

/-- What is sent carries the talker's identifier and number and a complete timestamp. -/
lemma iterate_eq_some {uid seq seq' : Int32} {io : Io} {p : Payload}
    (h : iterate uid seq io = .ok (some p, seq')) :
    p.uid = uid ∧ p.seq = seq ∧ p.secs ≠ 0 ∧ p.nsecs ≠ 0 ∧ seq' = seq + 1 := by
  unfold iterate at h
  split at h
  · cases h
  · next event _ =>
    split_ifs at h with _ hset
    · cases h
      refine ⟨?_, ?_, hset.1, hset.2, rfl⟩
      · cases event <;> rfl
      · cases event <;> rfl
    · cases h

end Talker

/-! ### Reading the greeting -/

/-- The digits `atoi()` consumes, behind those that made `acc`. -/
def atoiDigits (acc : Int) : List UInt8 → Int
  | []     => acc
  | c :: l => if 48 ≤ c ∧ c ≤ 57 then atoiDigits (acc * 10 + (c.toNat - 48)) l else acc

/-- `atoi()`: blanks, an optional sign, and decimal digits up to the first other byte. -/
def atoi (l : List UInt8) : Int32 :=
  match l.dropWhile fun c => c = 32 ∨ (9 ≤ c ∧ c ≤ 13) with
  | 45 :: l => Int32.ofInt (-atoiDigits 0 l)
  | 43 :: l => Int32.ofInt (atoiDigits 0 l)
  | l       => Int32.ofInt (atoiDigits 0 l)

/-- Digits, most significant first, followed by something else. -/
lemma atoiDigits_append {l : List Nat} (hl : ∀ d ∈ l, d < 10) (acc : Int) {c : UInt8}
    (hc : ¬ (48 ≤ c ∧ c ≤ 57)) (r : List UInt8) :
    atoiDigits acc (l.map (fun d => UInt8.ofNat (48 + d)) ++ c :: r)
      = l.foldl (fun (a : Int) (d : Nat) => a * 10 + (d : Int)) acc := by
  induction l generalizing acc with
  | nil => simp [atoiDigits, hc]
  | cons d l ih =>
    have hd : d < 10 := hl d (List.mem_cons_self ..)
    have hnat : (UInt8.ofNat (48 + d)).toNat = 48 + d := by
      rw [UInt8.toNat_ofNat']
      exact Nat.mod_eq_of_lt (by omega)
    have hdigit : 48 ≤ UInt8.ofNat (48 + d) ∧ UInt8.ofNat (48 + d) ≤ 57 := by
      rw [UInt8.le_iff_toNat_le, UInt8.le_iff_toNat_le, hnat]
      constructor
      · exact Nat.le_add_right 48 d
      · show 48 + d ≤ 57
        omega
    rw [List.map_cons, List.cons_append, atoiDigits, if_pos hdigit, hnat, List.foldl_cons,
      ih fun e he => hl e (List.mem_cons_of_mem _ he)]
    congr 1
    omega

/-- The number a list of digits stands for, read from the most significant one. -/
lemma foldl_digits (n : Nat) :
    (Nat.digits 10 n).reverse.foldl (fun (a : Int) (d : Nat) => a * 10 + (d : Int)) 0 = n := by
  have hcast : ∀ (l : List Nat), l.foldr (fun (d : Nat) (a : Int) => a * 10 + (d : Int)) 0
      = (Nat.ofDigits 10 l : Nat) := by
    intro l
    induction l with
    | nil => simp
    | cons d l ih =>
      rw [List.foldr_cons, ih, Nat.ofDigits_cons]
      push_cast
      ring
  rw [List.foldl_reverse, hcast, Nat.ofDigits_digits]

/-- `atoi()` reads back what `printf("%d\n")` wrote. -/
theorem atoi_decimal {n : Nat} (hn : 0 < n) (r : List UInt8) :
    atoi (Talker.decimal n ++ 10 :: r) = Int32.ofNat n := by
  have hlt : ∀ d ∈ (Nat.digits 10 n).reverse, d < 10 := fun d hd =>
    Nat.digits_lt_base (by omega) (List.mem_reverse.mp hd)
  have hval : atoiDigits 0 (Talker.decimal n ++ 10 :: r) = n := by
    rw [Talker.decimal, atoiDigits_append hlt 0 (by decide), foldl_digits]
  cases hds : (Nat.digits 10 n).reverse with
  | nil =>
    rw [List.reverse_eq_nil_iff, Nat.digits_eq_nil_iff_eq_zero] at hds
    omega
  | cons d l =>
    -- the first byte is a digit, neither a blank nor a sign
    have hd : d < 10 := hlt d (hds ▸ List.mem_cons_self ..)
    have hcons : Talker.decimal n ++ 10 :: r = UInt8.ofNat (48 + d) ::
        (l.map (fun d => UInt8.ofNat (48 + d)) ++ 10 :: r) := by simp [Talker.decimal, hds]
    have hdrop : (Talker.decimal n ++ 10 :: r).dropWhile
        (fun c => c = 32 ∨ (9 ≤ c ∧ c ≤ 13)) = Talker.decimal n ++ 10 :: r := by
      rw [hcons, List.dropWhile_cons_of_neg]
      interval_cases d <;> decide
    unfold atoi
    rw [hdrop]
    split
    · next l' he => rw [hcons] at he; interval_cases d <;> simp at he
    · next l' he => rw [hcons] at he; interval_cases d <;> simp at he
    · rw [hval]; rfl

end TsnRefSw
