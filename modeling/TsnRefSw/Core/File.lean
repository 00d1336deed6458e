import Mathlib.Data.List.Basic
import Mathlib.Tactic.Common

/-!
# Files and their lines

What a file holds after a write at a position, behind its end included, and the lines it is made
of. A writer that keeps its position while the file is emptied leaves a hole in front of what it
writes next.
-/

namespace Core

namespace File

variable {α : Type*}

section
variable (fill : α)

/-- `write()` at position `pos`: what is missing in front of it is filled. -/
def writeAt (l : List α) (pos : Nat) (bs : List α) : List α :=
  if bs = [] then l
  else (l ++ List.replicate (pos - l.length) fill).take pos ++ bs ++ l.drop (pos + bs.length)

/-- `l` behind a hole, if there is something behind it. -/
def hole (n : Nat) (l : List α) : List α := if l = [] then [] else List.replicate n fill ++ l

@[simp] lemma hole_nil (n : Nat) : hole fill n [] = [] := rfl

lemma hole_of_ne_nil (n : Nat) {l : List α} (h : l ≠ []) :
    hole fill n l = List.replicate n fill ++ l := if_neg h

/-- The writer goes on where it stopped, whether or not the file was emptied under it. -/
lemma writeAt_hole (n : Nat) (l bs : List α) :
    writeAt fill (hole fill n l) (n + l.length) bs = hole fill n (l ++ bs) := by
  by_cases hbs : bs = []
  · rw [writeAt, if_pos hbs, hbs, List.append_nil]
  · rw [writeAt, if_neg hbs]
    have hne : l ++ bs ≠ [] := by simp [hbs]
    rw [hole_of_ne_nil fill n hne]
    by_cases hl : l = []
    · simp [hl]
    · rw [hole_of_ne_nil fill n hl]
      have hlen : (List.replicate n fill ++ l).length = n + l.length := by simp
      have hle := Nat.le_of_eq hlen
      rw [hlen, Nat.sub_self, List.replicate_zero, List.append_nil, List.take_of_length_le hle,
        List.drop_eq_nil_of_le (Nat.le_trans hle (Nat.le_add_right _ _)), List.append_nil,
        List.append_assoc]

lemma take_hole {n k : Nat} {l : List α} (h : k ≤ (hole fill n l).length) (r : List α) :
    (hole fill n (l ++ r)).take k = (hole fill n l).take k := by
  by_cases hl : l = []
  · rw [hl, hole_nil, List.length_nil, Nat.le_zero] at h
    rw [h, List.take_zero, List.take_zero]
  · rw [hole_of_ne_nil fill n hl] at h ⊢
    rw [hole_of_ne_nil fill n (by simp [hl]), ← List.append_assoc, List.take_append_of_le_length h]

end

/-! ### Lines -/

variable [DecidableEq α] (nl : α)

/-- The lines of a text, whose last one may be without an end. -/
def lines : List α → List (List α)
  | []     => []
  | b :: l =>
    if b = nl then [] :: lines l
    else match lines l with
      | []      => [[b]]
      | x :: xs => (b :: x) :: xs

lemma lines_eq_nil_iff {l : List α} : lines nl l = [] ↔ l = [] := by
  cases l with
  | nil => exact iff_of_true rfl rfl
  | cons b l =>
    refine iff_of_false ?_ (List.cons_ne_nil b l)
    rw [lines]
    split_ifs
    · simp
    · split
      · simp
      · simp

/-- What a line is made of comes from the text, the ends of the lines apart. -/
lemma mem_of_mem_lines {l x : List α} (hx : x ∈ lines nl l) {b : α} (hb : b ∈ x) : b ∈ l := by
  induction l generalizing x b with
  | nil => cases hx
  | cons a l ih =>
    rw [lines] at hx
    split_ifs at hx
    · rcases List.mem_cons.mp hx with rfl | hx
      · cases hb
      · exact List.mem_cons_of_mem a (ih hx hb)
    · split at hx
      · obtain rfl := List.mem_singleton.mp hx
        obtain rfl := List.mem_singleton.mp hb
        exact List.mem_cons_self
      · next y ys hlines =>
        rcases List.mem_cons.mp hx with rfl | hx
        · rcases List.mem_cons.mp hb with rfl | hb
          · exact List.mem_cons_self
          · exact List.mem_cons_of_mem a (ih (hlines ▸ List.mem_cons_self) hb)
        · exact List.mem_cons_of_mem a (ih (hlines ▸ List.mem_cons_of_mem y hx) hb)

/-- A hole makes the first line longer. -/
lemma lines_hole {fill : α} (hfill : fill ≠ nl) (n : Nat) {l x : List α} {xs : List (List α)}
    (h : lines nl l = x :: xs) :
    lines nl (hole fill n l) = (List.replicate n fill ++ x) :: xs := by
  have hne : l ≠ [] := fun hl => by simp [hl, lines] at h
  rw [hole_of_ne_nil fill n hne]
  induction n with
  | zero => exact h
  | succ n ih =>
    rw [List.replicate_succ, List.cons_append, lines, if_neg hfill, ih]
    rfl

end File

end Core
