import Mathlib.Data.List.Basic
import Mathlib.Algebra.Order.Ring.Nat

/-!
# Byte memory and little-endian numbers

A memory maps addresses to bytes. Numbers of a fixed width are stored least significant byte
first; reading back what was stored gives the number modulo the width.
-/

namespace Core

/-- Byte memory, addressed by natural numbers. -/
abbrev Memory := Nat → UInt8

namespace Memory

/-- A buffer holding `l`, zero behind its end. -/
def zeroFill (l : List UInt8) : Memory := fun i => l.getD i 0

/-- The memory after copying `l` to address `dst`. -/
def copyTo (m : Memory) (dst : Nat) (l : List UInt8) : Memory :=
  fun a => if dst ≤ a ∧ a < dst + l.length then l.getD (a - dst) 0 else m a

lemma copyTo_of_lt (m : Memory) {dst a : Nat} (l : List UInt8) (h : a < dst) :
    m.copyTo dst l a = m a := by
  simp [copyTo, Nat.not_le.mpr h]

lemma copyTo_of_le (m : Memory) {dst a : Nat} (l : List UInt8) (h : dst + l.length ≤ a) :
    m.copyTo dst l a = m a := by
  simp [copyTo, Nat.not_lt.mpr h]

lemma zeroFill_of_le {l : List UInt8} {i : Nat} (h : l.length ≤ i) : zeroFill l i = 0 := by
  simp [zeroFill, h]

lemma zeroFill_append_right (l r : List UInt8) (i : Nat) :
    zeroFill (l ++ r) (l.length + i) = zeroFill r i := by
  simp [zeroFill, List.getElem?_append_right]

lemma zeroFill_take {l : List UInt8} {n i : Nat} (h : i < n) :
    zeroFill (l.take n) i = zeroFill l i := by
  simp [zeroFill, h]

/-- The number stored in the `k` bytes from address `o` on. -/
def readLe (m : Memory) (o : Nat) : Nat → Nat
  | 0     => 0
  | k + 1 => (m o).toNat + 256 * readLe m (o + 1) k

@[simp] lemma readLe_zero (m : Memory) (o : Nat) : m.readLe o 0 = 0 := rfl

lemma readLe_succ (m : Memory) (o k : Nat) :
    m.readLe o (k + 1) = (m o).toNat + 256 * m.readLe (o + 1) k := rfl

lemma readLe_congr {m m' : Memory} {o o' k : Nat} (h : ∀ i < k, m (o + i) = m' (o' + i)) :
    m.readLe o k = m'.readLe o' k := by
  induction k generalizing o o' with
  | zero => rfl
  | succ k ih =>
    have h0 : m o = m' o' := by simpa using h 0 (by omega)
    have hs : m.readLe (o + 1) k = m'.readLe (o' + 1) k :=
      ih fun i hi => by simpa [Nat.add_assoc, Nat.add_comm 1] using h (i + 1) (by omega)
    rw [readLe_succ, readLe_succ, h0, hs]

end Memory

/-- The `k` least significant bytes of `v`, least significant first. -/
def leBytes : Nat → Nat → List UInt8
  | 0,     _ => []
  | k + 1, v => UInt8.ofNat v :: leBytes k (v / 256)

@[simp] lemma leBytes_length (k v : Nat) : (leBytes k v).length = k := by
  induction k generalizing v with
  | zero => rfl
  | succ k ih => simp [leBytes, ih]

/-- Reading back a stored number gives it modulo its width. -/
theorem Memory.readLe_leBytes (k v : Nat) (l : List UInt8) :
    (Memory.zeroFill (leBytes k v ++ l)).readLe 0 k = v % 256 ^ k := by
  induction k generalizing v with
  | zero => simp [Nat.mod_one]
  | succ k ih =>
    have htail : (zeroFill (leBytes (k + 1) v ++ l)).readLe 1 k
        = (zeroFill (leBytes k (v / 256) ++ l)).readLe 0 k :=
      readLe_congr fun i _ => by simp [zeroFill, leBytes, Nat.add_comm 1]
    have hhead : (zeroFill (leBytes (k + 1) v ++ l) 0).toNat = v % 256 := by
      simp [zeroFill, leBytes]
    rw [readLe_succ, hhead, htail, ih, pow_succ', Nat.mod_mul]

/-! ### Contents -/

namespace Memory

/-- The bytes from address `a` on are those of `l`. -/
def Contains (m : Memory) (a : Nat) (l : List UInt8) : Prop :=
  ∀ i < l.length, m (a + i) = l.getD i 0

variable {m : Memory} {a : Nat} {l r : List UInt8}

lemma Contains.left (h : m.Contains a (l ++ r)) : m.Contains a l := by
  intro i hi
  rw [h i (by rw [List.length_append]; omega)]
  simp [List.getElem?_append_left hi]

lemma Contains.right (h : m.Contains a (l ++ r)) : m.Contains (a + l.length) r := by
  intro i hi
  rw [Nat.add_assoc, h (l.length + i) (by rw [List.length_append]; omega)]
  simp [List.getElem?_append_right]

lemma Contains.append (h : m.Contains a l) (h' : m.Contains (a + l.length) r) :
    m.Contains a (l ++ r) := by
  intro i hi
  by_cases hlt : i < l.length
  · rw [h i hlt]
    simp [List.getElem?_append_left hlt]
  · rw [List.length_append] at hi
    have hlast := h' (i - l.length) (by omega)
    rw [Nat.add_assoc, Nat.add_sub_cancel' (Nat.not_lt.mp hlt)] at hlast
    rw [hlast]
    simp [List.getElem?_append_right (Nat.not_lt.mp hlt)]

/-- What was copied is there. -/
lemma contains_copyTo (m : Memory) (a : Nat) (l : List UInt8) : (m.copyTo a l).Contains a l := by
  intro i hi
  rw [copyTo, if_pos ⟨Nat.le_add_right a i, Nat.add_lt_add_left hi a⟩, Nat.add_sub_cancel_left]

/-- Two lists copied one behind the other. -/
lemma copyTo_copyTo (m : Memory) {b : Nat} (hb : b = a + l.length) (r : List UInt8) :
    (m.copyTo a l).copyTo b r = m.copyTo a (l ++ r) := by
  subst hb
  funext x
  simp only [copyTo, List.length_append]
  by_cases hl : a ≤ x ∧ x < a + l.length
  · rw [if_neg (by omega), if_pos hl, if_pos (by omega)]
    simp [List.getElem?_append_left (show x - a < l.length by omega)]
  · by_cases hr : a + l.length ≤ x ∧ x < a + l.length + r.length
    · rw [if_pos hr, if_pos (by omega)]
      simp [List.getElem?_append_right (show l.length ≤ x - a by omega), Nat.sub_sub]
    · rw [if_neg hr, if_neg hl, if_neg (by omega)]

/-- Or first what comes behind. -/
lemma copyTo_copyTo_front (m : Memory) {b : Nat} (hb : b = a + l.length) (r : List UInt8) :
    (m.copyTo b r).copyTo a l = m.copyTo a (l ++ r) := by
  rw [← copyTo_copyTo m hb]
  subst hb
  funext x
  simp only [copyTo]
  by_cases hl : a ≤ x ∧ x < a + l.length
  · rw [if_pos hl, if_neg (by omega), if_pos hl]
  · simp only [if_neg hl]

/-- What is there stays there if something is copied to another place. -/
lemma Contains.copyTo (h : m.Contains a l) {b : Nat} {r : List UInt8}
    (hb : a + l.length ≤ b ∨ b + r.length ≤ a) : (m.copyTo b r).Contains a l := by
  intro i hi
  rcases hb with hb | hb
  · rw [copyTo_of_lt m r (by omega), h i hi]
  · rw [copyTo_of_le m r (by omega), h i hi]

/-- Reading on from a place gives what is there first. -/
lemma Contains.read (h : m.Contains a l) {n : Nat} (hn : l.length ≤ n) :
    ∃ rest, (List.range n).map (fun i => m (a + i)) = l ++ rest := by
  obtain ⟨k, rfl⟩ := Nat.exists_eq_add_of_le hn
  rw [List.range_add, List.map_append]
  refine ⟨_, congrArg (· ++ _) ?_⟩
  apply List.ext_getElem
  · simp
  · intro i _ hi
    simp [h i hi, hi]

/-- A number that was stored is read back. -/
lemma Contains.readLe {k v : Nat} (h : m.Contains a (leBytes k v)) :
    m.readLe a k = v % 256 ^ k := by
  rw [← readLe_leBytes k v []]
  apply readLe_congr
  intro i hi
  rw [h i (by rwa [leBytes_length]), Nat.zero_add, List.append_nil]
  rfl

/-- The `n` bytes from address `a` on. -/
def bytes (m : Memory) (a n : Nat) : List UInt8 := (List.range n).map fun i => m (a + i)

@[simp] lemma length_bytes (m : Memory) (a n : Nat) : (m.bytes a n).length = n := by
  simp [bytes]

lemma contains_bytes (m : Memory) (a n : Nat) : m.Contains a (m.bytes a n) := by
  intro i hi
  rw [length_bytes] at hi
  simp [bytes, hi]

/-- What was copied is read first, as far as it goes. -/
lemma bytes_copyTo (m : Memory) (a n : Nat) (l : List UInt8) :
    (m.copyTo a l).bytes a n = l.take n ++ (m.bytes a n).drop l.length := by
  apply List.ext_getElem
  · simp only [length_bytes, List.length_append, List.length_take, List.length_drop]
    omega
  · intro i hi _
    rw [length_bytes] at hi
    by_cases hlt : i < l.length
    · rw [List.getElem_append_left (by rw [List.length_take]; omega)]
      simp [bytes, copyTo, hlt]
    · rw [List.getElem_append_right (by rw [List.length_take]; omega)]
      simp only [bytes, copyTo, List.getElem_map, List.getElem_range, List.getElem_drop,
        List.length_take, Nat.add_lt_add_iff_left, if_neg (fun h => hlt (And.right h))]
      congr 2
      omega

/-- What is there is read. -/
lemma Contains.bytes_eq (h : m.Contains a l) : m.bytes a l.length = l := by
  obtain ⟨rest, hread⟩ := h.read le_rfl
  have hlength := congrArg List.length hread
  simp only [List.length_map, List.length_range, List.length_append] at hlength
  have hrest : rest = [] := List.eq_nil_of_length_eq_zero (by omega)
  rw [bytes, hread, hrest, List.append_nil]

end Memory

end Core
