import Mathlib.Analysis.Real.Sqrt
import Mathlib.Data.List.Forall2
import TsnRefSw.Core.Statistics

/-!
# How far a deviation moves

When every number of a list moves by `u` at most, so do the mean and the standard deviation. The
differences of the neighbours in a list add up to that of its ends.
-/

namespace Core

/-! ### Neighbours -/

/-- The differences of the neighbours in a list. -/
def gaps {α : Type*} [Sub α] (xs : List α) : List α := List.zipWith (fun x y => y - x) xs xs.tail

section
variable {α : Type*} [AddCommGroup α]

lemma gaps_cons_cons (x y : α) (xs : List α) : gaps (x :: y :: xs) = (y - x) :: gaps (y :: xs) :=
  rfl

lemma gaps_map_cons_cons {β : Type*} (f : β → α) (x y : β) (xs : List β) :
    gaps ((x :: y :: xs).map f) = (f y - f x) :: gaps ((y :: xs).map f) :=
  rfl

/-- The differences add up to that of the ends. -/
lemma sum_gaps (x : α) (xs : List α) : (gaps (x :: xs)).sum = xs.getLastD x - x := by
  induction xs generalizing x with
  | nil => exact (sub_self x).symm
  | cons y xs ih =>
    rw [gaps_cons_cons, List.sum_cons, ih, List.getLastD_cons]
    abel

end

/-! ### The mean -/

/-- The squares of the sums of two numbers, one of them always the same. -/
lemma sum_sq_add {K : Type*} [Field K] (b : K) (xs : List K) :
    (xs.map fun x => (x + b) ^ 2).sum =
      (xs.map (· ^ 2)).sum + 2 * b * xs.sum + xs.length * b ^ 2 := by
  induction xs with
  | nil => simp
  | cons x xs ih =>
    simp only [List.map_cons, List.sum_cons, List.length_cons, ih]
    push_cast
    ring

section Ordered

variable {K : Type*} [Field K] [LinearOrder K] [IsStrictOrderedRing K] {xs ys : List K} {u : K}

/-- The square of a mean is at most the mean of the squares. -/
lemma sq_mean_le (xs : List K) : mean xs ^ 2 ≤ (xs.map (· ^ 2)).sum / xs.length := by
  by_cases hx : xs = []
  · subst hx
    simp [mean]
  · have hn : (0 : K) < xs.length := Nat.cast_pos.mpr (List.length_pos_of_ne_nil hx)
    rw [sum_sq_eq hx, le_div_iff₀ hn, mul_comm]
    have := variance_nonneg xs
    exact mul_le_mul_of_nonneg_left (by linarith) hn.le

/-- Around no other number the squares are less than around the mean. -/
lemma variance_le (c : K) (xs : List K) :
    variance xs ≤ (xs.map fun x => (x - c) ^ 2).sum / xs.length := by
  by_cases hx : xs = []
  · subst hx
    simp [variance]
  · have hn : (0 : K) < xs.length := Nat.cast_pos.mpr (List.length_pos_of_ne_nil hx)
    simp only [sub_eq_add_neg, sum_sq_add]
    rw [sum_sq_eq hx, sum_eq hx, le_div_iff₀ hn]
    have := mul_nonneg hn.le (sq_nonneg (mean xs - c))
    linarith

/-- Numbers that move by `u` at most: their squares around the mean, with the deviation `s`. -/
lemma variance_le_sq_add (hu : 0 ≤ u) {s : K} (hs : 0 ≤ s) (hvariance : variance xs ≤ s ^ 2)
    (h : List.Forall₂ (fun x y => |y - x| ≤ u) xs ys) : variance ys ≤ (s + u) ^ 2 := by
  by_cases hx : xs = []
  · subst hx
    cases h
    simp only [variance, List.map_nil, List.sum_nil, zero_div]
    exact sq_nonneg _
  · have hn : (0 : K) < xs.length := Nat.cast_pos.mpr (List.length_pos_of_ne_nil hx)
    have hlength := h.length_eq
    generalize hbs : (xs.map fun x => |x - mean xs|) = bs
    have hsquares : (bs.map (· ^ 2)).sum / bs.length = variance xs := by
      rw [← hbs, List.map_map, List.length_map, variance]
      simp only [Function.comp_def, sq_abs]
    have hmean : mean bs ≤ s := by
      apply abs_le_of_sq_le_sq' _ hs |>.2
      exact (sq_mean_le bs).trans (hsquares.le.trans hvariance)
    have hsum : (ys.map fun y => (y - mean xs) ^ 2).sum ≤ (bs.map fun b => (b + u) ^ 2).sum := by
      rw [← hbs, List.map_map]
      apply List.Forall₂.sum_le_sum
      rw [List.forall₂_map_left_iff, List.forall₂_map_right_iff]
      have hflip : List.Forall₂ (fun y x => |y - x| ≤ u) ys xs := List.Forall₂.flip h
      refine hflip.imp fun y x hxy => ?_
      have htriangle := abs_sub_le y x (mean xs)
      rw [← sq_abs (y - mean xs)]
      exact pow_le_pow_left₀ (abs_nonneg _) (by linarith) 2
    have hmapped : bs.length = xs.length := by rw [← hbs, List.length_map]
    rw [hmapped, div_eq_iff hn.ne'] at hsquares
    rw [sum_sq_add, hsquares, hmapped] at hsum
    have hbsum : bs.sum ≤ xs.length * s := by
      rw [mean, hmapped, div_le_iff₀ hn] at hmean
      linarith
    refine (variance_le (mean xs) ys).trans ?_
    rw [← hlength, div_le_iff₀ hn]
    have hcross := mul_le_mul_of_nonneg_left hbsum hu
    have hspread := mul_le_mul_of_nonneg_left hvariance hn.le
    linarith

end Ordered

/-! ### The standard deviation -/

/-- Numbers that move by `u` at most move their standard deviation by `u` at most. -/
theorem abs_sqrt_variance_sub_le {xs ys : List ℝ} {u : ℝ} (hu : 0 ≤ u)
    (h : List.Forall₂ (fun x y => |y - x| ≤ u) xs ys) :
    |√(variance ys) - √(variance xs)| ≤ u := by
  have hbound : ∀ {as bs : List ℝ}, List.Forall₂ (fun x y => |y - x| ≤ u) as bs →
      √(variance bs) ≤ √(variance as) + u := by
    intro as bs hmoved
    have hs := Real.sqrt_nonneg (variance as)
    rw [Real.sqrt_le_left (by positivity)]
    apply variance_le_sq_add hu hs _ hmoved
    rw [Real.sq_sqrt (variance_nonneg as)]
  have hback : List.Forall₂ (fun x y => |y - x| ≤ u) ys xs :=
    (List.Forall₂.flip h).imp fun y x hyx => by rwa [abs_sub_comm]
  rw [abs_sub_le_iff]
  constructor
  · linarith [hbound h]
  · linarith [hbound hback]

end Core
