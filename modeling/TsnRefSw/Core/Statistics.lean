import Mathlib.Algebra.BigOperators.Group.List.Basic
import Mathlib.Algebra.BigOperators.Ring.List
import Mathlib.Algebra.Order.BigOperators.Group.List
import Mathlib.Algebra.Order.Ring.Rat
import Mathlib.Order.Bounds.Basic
import Mathlib.Tactic.FieldSimp
import Mathlib.Tactic.Linarith
import Mathlib.Tactic.Ring

/-!
# Mean and variance

The mean and the variance of a list, and how the variance of a list comes out of those of two
parts: the squares add up within the parts, and the distance of their means is left over. The
extremes are those found by going through the list.
-/

namespace Core

section Field

variable {K : Type*} [Field K]

/-- The mean of a list. -/
def mean (xs : List K) : K := xs.sum / xs.length

/-- The mean of the squared deviations from the mean. -/
def variance (xs : List K) : K := (xs.map fun x => (x - mean xs) ^ 2).sum / xs.length

lemma mean_perm {xs ys : List K} (h : xs.Perm ys) : mean xs = mean ys := by
  rw [mean, mean, h.sum_eq, h.length_eq]

/-- The variance does not depend on the order. -/
lemma variance_perm {xs ys : List K} (h : xs.Perm ys) : variance xs = variance ys := by
  rw [variance, variance, mean_perm h, (h.map _).sum_eq, h.length_eq]

variable [CharZero K] {xs ys : List K}

lemma length_ne_zero (hx : xs ≠ []) : (xs.length : K) ≠ 0 :=
  Nat.cast_ne_zero.mpr (mt List.eq_nil_of_length_eq_zero hx)

lemma sum_eq (hx : xs ≠ []) : xs.sum = xs.length * mean xs := by
  have hn := length_ne_zero hx
  rw [mean]
  field_simp

/-- The squares add up to variance and squared mean. -/
lemma sum_sq_eq (hx : xs ≠ []) :
    (xs.map (· ^ 2)).sum = xs.length * (variance xs + mean xs ^ 2) := by
  have hn := length_ne_zero hx
  have hexpand : (xs.map fun x => (x - mean xs) ^ 2).sum =
      (xs.map (· ^ 2)).sum - 2 * mean xs * xs.sum + xs.length * mean xs ^ 2 := by
    generalize mean xs = m
    clear hx hn
    induction xs with
    | nil => simp
    | cons x xs ih =>
      simp only [List.map_cons, List.sum_cons, List.length_cons, ih]
      push_cast
      ring
  rw [variance, hexpand, sum_eq hx]
  field_simp
  ring

/-- The variance of a list of two parts. -/
theorem variance_append (hx : xs ≠ []) (hy : ys ≠ []) :
    variance (xs ++ ys) =
      (xs.length * variance xs + ys.length * variance ys) / (xs.length + ys.length) +
        xs.length * ys.length * (mean xs - mean ys) ^ 2 / (xs.length + ys.length) ^ 2 := by
  have hne : xs ++ ys ≠ [] := List.append_ne_nil_of_left_ne_nil hx ys
  have hn := length_ne_zero hne
  have hsquares := sum_sq_eq hne
  have hsum := sum_eq hne
  rw [List.map_append, List.sum_append, sum_sq_eq hx, sum_sq_eq hy] at hsquares
  rw [List.sum_append, sum_eq hx, sum_eq hy] at hsum
  rw [List.length_append, Nat.cast_add] at hn hsquares hsum
  generalize (xs.length : K) = n at *
  generalize (ys.length : K) = m at *
  have hmean : mean (xs ++ ys) = (n * mean xs + m * mean ys) / (n + m) := by
    rw [hsum]
    field_simp
  rw [hmean] at hsquares
  have hvariance : variance (xs ++ ys) =
      (n * (variance xs + mean xs ^ 2) + m * (variance ys + mean ys ^ 2)) / (n + m) -
        ((n * mean xs + m * mean ys) / (n + m)) ^ 2 := by
    rw [hsquares]
    field_simp
    ring
  rw [hvariance]
  field_simp
  ring

/-- What a second part adds to the variance. -/
theorem variance_append_sub (hx : xs ≠ []) (ys : List K) :
    variance (xs ++ ys) - variance xs = ys.length / (xs.length + ys.length) *
      (variance ys + xs.length / (xs.length + ys.length) * (mean xs - mean ys) ^ 2 -
        variance xs) := by
  by_cases hy : ys = []
  · subst hy
    simp
  · have hn : (xs.length + ys.length : K) ≠ 0 := by
      have hne := length_ne_zero (List.append_ne_nil_of_left_ne_nil hx ys)
      rwa [List.length_append, Nat.cast_add] at hne
    rw [variance_append hx hy]
    field_simp
    ring

/-- A second part leaves the variance as it is if it makes up for its distance by being less
spread out. -/
theorem variance_append_eq_left_iff (hx : xs ≠ []) (hy : ys ≠ []) :
    variance (xs ++ ys) = variance xs ↔
      variance ys + xs.length / (xs.length + ys.length) * (mean xs - mean ys) ^ 2 =
        variance xs := by
  have hm := length_ne_zero hy
  have hn : (xs.length + ys.length : K) ≠ 0 := by
    have hne := length_ne_zero (List.append_ne_nil_of_left_ne_nil hx ys)
    rwa [List.length_append, Nat.cast_add] at hne
  rw [← sub_eq_zero, variance_append_sub hx, mul_eq_zero, or_iff_right (div_ne_zero hm hn),
    sub_eq_zero]

end Field

/-! ### Two quantities -/

section Covariance

variable {α K : Type*} [Field K]

/-- The mean of the products of the deviations from the means. -/
def covariance (l : List α) (f g : α → K) : K :=
  (l.map fun a => (f a - mean (l.map f)) * (g a - mean (l.map g))).sum / l.length

lemma mean_map_add (l : List α) (f g : α → K) :
    mean (l.map fun a => f a + g a) = mean (l.map f) + mean (l.map g) := by
  rw [mean, mean, mean, List.sum_map_add, List.length_map, List.length_map, List.length_map,
    add_div]

/-- The variance of a sum. -/
theorem variance_map_add (l : List α) (f g : α → K) :
    variance (l.map fun a => f a + g a) =
      variance (l.map f) + variance (l.map g) + 2 * covariance l f g := by
  have hexpand : ∀ a, (f a + g a - mean (l.map fun a => f a + g a)) ^ 2 =
      (f a - mean (l.map f)) ^ 2 + (g a - mean (l.map g)) ^ 2 +
        2 * ((f a - mean (l.map f)) * (g a - mean (l.map g))) := by
    intro a
    rw [mean_map_add]
    ring
  simp only [variance, covariance, List.map_map, Function.comp_def, hexpand, List.sum_map_add,
    List.sum_map_mul_left, List.length_map]
  ring

end Covariance

section Ordered

variable {K : Type*} [Field K] [LinearOrder K] [IsStrictOrderedRing K]

lemma variance_nonneg (xs : List K) : 0 ≤ variance xs := by
  apply div_nonneg
  · apply List.sum_nonneg
    intro x hx
    obtain ⟨y, -, rfl⟩ := List.mem_map.mp hx
    exact sq_nonneg _
  · exact Nat.cast_nonneg _

end Ordered

/-! ### Greatest and least -/

section Extremes

variable {α : Type*} [LinearOrder α]

/-- The maximum of a list, accumulated. -/
lemma isGreatest_foldl_max (x : α) (xs : List α) :
    IsGreatest {y | y ∈ x :: xs} (xs.foldl max x) := by
  induction xs generalizing x with
  | nil => exact ⟨List.mem_singleton_self x, fun y hy => (List.mem_singleton.mp hy).le⟩
  | cons z zs ih =>
    obtain ⟨hmem, hub⟩ := ih (max x z)
    constructor
    · show zs.foldl max (max x z) ∈ x :: z :: zs
      rcases List.mem_cons.mp hmem with hmax | htail
      · rw [hmax]
        rcases max_choice x z with h | h
        · rw [h]
          exact List.mem_cons_self
        · rw [h]
          exact List.mem_cons_of_mem x List.mem_cons_self
      · exact List.mem_cons_of_mem x (List.mem_cons_of_mem z htail)
    · intro y hy
      have hmax : max x z ≤ zs.foldl max (max x z) := hub List.mem_cons_self
      rcases List.mem_cons.mp hy with rfl | hy
      · exact (le_max_left y z).trans hmax
      · rcases List.mem_cons.mp hy with rfl | hy
        · exact (le_max_right x y).trans hmax
        · exact hub (List.mem_cons_of_mem _ hy)

/-- The minimum of a list, accumulated. -/
lemma isLeast_foldl_min (x : α) (xs : List α) :
    IsLeast {y | y ∈ x :: xs} (xs.foldl min x) :=
  @isGreatest_foldl_max αᵒᵈ _ x xs

section Keys

variable {β : Type*} [LinearOrder β] {f : α → β} {x : α} {xs : List α}

/-- The maximum may be found by comparing keys in the same order. -/
lemma foldl_max_of_lt_iff (h : ∀ y ∈ x :: xs, ∀ z ∈ x :: xs, (f y < f z ↔ y < z)) :
    xs.foldl (fun max y => if f max < f y then y else max) x = xs.foldl max x := by
  induction xs generalizing x with
  | nil => rfl
  | cons z zs ih =>
    have hmax : (if f x < f z then z else x) = max x z := by
      simp only [h x (by simp) z (by simp), max_def_lt]
    rw [List.foldl_cons, List.foldl_cons, hmax]
    apply ih
    have hsub : max x z :: zs ⊆ x :: z :: zs := by
      rcases max_choice x z with he | he
      · rw [he]
        exact List.cons_subset_cons x (List.subset_cons_self z zs)
      · rw [he]
        exact List.subset_cons_self x (z :: zs)
    exact fun y hy w hw => h y (hsub hy) w (hsub hw)

lemma foldl_min_of_lt_iff (h : ∀ y ∈ x :: xs, ∀ z ∈ x :: xs, (f y < f z ↔ y < z)) :
    xs.foldl (fun min y => if f y < f min then y else min) x = xs.foldl min x :=
  @foldl_max_of_lt_iff αᵒᵈ _ βᵒᵈ _ f x xs fun y hy z hz => h z hz y hy

end Keys

end Extremes

end Core
