import Mathlib.Logic.Function.Basic
import Mathlib.Data.Nat.ModEq

/-!
# Rings shared by one producer and one consumer

The producer and the consumer number the entries of a ring from the beginning of time; entry
`n` is stored in slot `n % size`. A slot keeps its content when its entry is consumed, so that
a producer may submit a slot without writing it anew.
-/

namespace Core

/-- A ring of `size` slots that was filled up to entry `prod` and emptied up to entry
`cons`. -/
structure Ring (α : Type*) (size : Nat) where
  slot : Nat → α
  prod : Nat
  cons : Nat
  cons_le : cons ≤ prod
  prod_le : prod ≤ cons + size

namespace Ring

variable {α : Type*} {size : Nat}

/-- A ring nobody has used yet. -/
def empty (a : α) : Ring α size := ⟨fun _ => a, 0, 0, le_rfl, Nat.zero_le _⟩

/-- The number of entries on the ring. -/
def used (r : Ring α size) : Nat := r.prod - r.cons

/-- What the slot of entry `n` contains. -/
def entry (r : Ring α size) (n : Nat) : α := r.slot (n % size)

/-- Entry `n` is on the ring. -/
def Holds (r : Ring α size) (n : Nat) : Prop := r.cons ≤ n ∧ n < r.prod

instance (r : Ring α size) (n : Nat) : Decidable (r.Holds n) :=
  inferInstanceAs (Decidable (_ ∧ _))

/-- The entries on the ring, oldest first. -/
def entries (r : Ring α size) : List α := (List.range' r.cons r.used).map r.entry

/-- All slots were written and submitted. -/
def full (f : Nat → α) : Ring α size := ⟨f, size, 0, Nat.zero_le _, (Nat.zero_add _).ge⟩

/-- The next entry is submitted, its slot left as it is. -/
def advance (r : Ring α size) (h : r.used < size) : Ring α size :=
  { r with
    prod := r.prod + 1
    cons_le := r.cons_le.trans (Nat.le_succ _)
    prod_le := by have := r.cons_le; unfold used at h; omega }

/-- The slot of the next entry is written. -/
def write (r : Ring α size) (a : α) : Ring α size :=
  { r with slot := Function.update r.slot (r.prod % size) a }

/-- The next entry is written and submitted. -/
def push (r : Ring α size) (a : α) (h : r.used < size) : Ring α size := (r.write a).advance h

/-- The oldest entry is consumed. -/
def pop (r : Ring α size) (h : 0 < r.used) : Ring α size :=
  { r with
    cons := r.cons + 1
    cons_le := by unfold used at h; omega
    prod_le := r.prod_le.trans (by omega) }

/-- The number of free slots, as it comes out of counters of 32 bits. -/
def free32 (r : Ring α size) : Nat := (r.cons % 2 ^ 32 + size + 2 ^ 32 - r.prod % 2 ^ 32) % 2 ^ 32

section
variable (r : Ring α size) (a : α)

@[simp] lemma write_prod : (r.write a).prod = r.prod := rfl
@[simp] lemma write_cons : (r.write a).cons = r.cons := rfl
@[simp] lemma write_used : (r.write a).used = r.used := rfl
@[simp] lemma advance_prod (h) : (r.advance h).prod = r.prod + 1 := rfl
@[simp] lemma advance_cons (h) : (r.advance h).cons = r.cons := rfl
@[simp] lemma advance_entry (h) (n : Nat) : (r.advance h).entry n = r.entry n := rfl
@[simp] lemma push_prod (h) : (r.push a h).prod = r.prod + 1 := rfl
@[simp] lemma push_cons (h) : (r.push a h).cons = r.cons := rfl
@[simp] lemma pop_prod (h) : (r.pop h).prod = r.prod := rfl
@[simp] lemma pop_cons (h) : (r.pop h).cons = r.cons + 1 := rfl
@[simp] lemma pop_entry (h) (n : Nat) : (r.pop h).entry n = r.entry n := rfl

lemma prod_eq : r.prod = r.cons + r.used := (Nat.add_sub_cancel' r.cons_le).symm

lemma used_le : r.used ≤ size := by
  have := r.prod_le
  rw [prod_eq] at this
  omega

end

/-- That the counters wrap does not matter on a ring that is not larger than they are. -/
lemma free32_eq {r : Ring α size} (h : size < 2 ^ 32) : r.free32 = size - r.used := by
  have hprod := prod_eq r
  have hused := used_le r
  unfold free32
  omega

/-- The oldest entry of a ring that is not empty. -/
lemma holds_cons {r : Ring α size} (h : 0 < r.used) : r.Holds r.cons :=
  ⟨le_rfl, by rw [prod_eq]; omega⟩

lemma entry_mem_entries {r : Ring α size} {n : Nat} (h : r.Holds n) : r.entry n ∈ r.entries := by
  apply List.mem_map_of_mem
  rw [List.mem_range'_1, ← prod_eq]
  exact h

/-! ### Numbers of entries and their slots -/

/-- Entries less than a ring apart have different slots. -/
lemma mod_ne_mod {n m : Nat} (hlt : n < m) (hm : m < n + size) : n % size ≠ m % size := by
  intro h
  have hdvd : size ∣ m - n := (Nat.modEq_iff_dvd' hlt.le).mp h
  have := Nat.le_of_dvd (by omega) hdvd
  omega

/-- Entries at most a ring apart share a slot only if they are a whole ring apart. -/
lemma eq_add_of_mod_eq {n m : Nat} (hlt : n < m) (hm : m ≤ n + size)
    (h : n % size = m % size) : m = n + size := by
  rcases hm.lt_or_eq with hm | hm
  · exact absurd h (mod_ne_mod hlt hm)
  · exact hm

section
variable {r : Ring α size} {a : α}

lemma entry_push_self (h : r.used < size) : (r.push a h).entry r.prod = a := by
  simp [push, write, advance, entry]

/-- Submitting an entry leaves those on the ring alone. -/
lemma entry_push_of_holds (h : r.used < size) {n : Nat} (hn : r.Holds n) :
    (r.push a h).entry n = r.entry n := by
  have hne : n % size ≠ r.prod % size := by
    apply mod_ne_mod hn.2
    have := hn.1
    rw [prod_eq]
    omega
  simp [push, write, advance, entry, hne]

lemma holds_push (h : r.used < size) {n : Nat} :
    (r.push a h).Holds n ↔ r.Holds n ∨ n = r.prod := by
  have := r.cons_le
  simp only [Holds, push_prod, push_cons]
  omega

lemma holds_pop (h : 0 < r.used) {n : Nat} :
    (r.pop h).Holds n ↔ r.Holds n ∧ n ≠ r.cons := by
  simp only [Holds, pop_prod, pop_cons]
  omega

@[simp] lemma used_advance (h : r.used < size) : (r.advance h).used = r.used + 1 := by
  have := r.cons_le
  simp only [used, advance_prod, advance_cons]
  omega

@[simp] lemma used_push (h : r.used < size) : (r.push a h).used = r.used + 1 := used_advance h

@[simp] lemma used_pop (h : 0 < r.used) : (r.pop h).used = r.used - 1 := by
  simp only [used, pop_prod, pop_cons]
  omega

lemma entries_advance (h : r.used < size) :
    (r.advance h).entries = r.entries ++ [r.entry r.prod] := by
  rw [entries, used_advance, List.range'_concat, List.map_append, advance_cons]
  simp only [List.map_cons, List.map_nil, advance_entry, entries, Nat.one_mul, ← prod_eq]
  rfl

lemma entries_push (h : r.used < size) : (r.push a h).entries = r.entries ++ [a] := by
  have hold : (r.write a).entries = r.entries := by
    apply List.map_congr_left
    intro n hn
    rw [List.mem_range'_1, write_cons, write_used, ← prod_eq] at hn
    exact entry_push_of_holds h hn
  have hnew : (r.write a).entry (r.write a).prod = a := entry_push_self h
  have hpush := entries_advance (r := r.write a) h
  rw [hold, hnew] at hpush
  exact hpush

lemma entries_pop (h : 0 < r.used) : r.entries = r.entry r.cons :: (r.pop h).entries := by
  obtain ⟨k, hk⟩ : ∃ k, r.used = k + 1 := ⟨r.used - 1, by omega⟩
  simp [entries, hk, List.range'_succ]

end

@[simp] lemma full_prod (f : Nat → α) : (full f : Ring α size).prod = size := rfl
@[simp] lemma full_cons (f : Nat → α) : (full f : Ring α size).cons = 0 := rfl
@[simp] lemma full_used (f : Nat → α) : (full f : Ring α size).used = size := rfl

lemma entries_full (f : Nat → α) : (full f : Ring α size).entries = (List.range size).map f := by
  rw [List.range_eq_range', entries]
  apply List.map_congr_left
  intro n hn
  rw [List.mem_range'_1] at hn
  have hlt : n < size := by simpa using hn.2
  show f (n % size) = f n
  rw [Nat.mod_eq_of_lt hlt]

end Ring

end Core
