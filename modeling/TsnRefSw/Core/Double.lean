import Mathlib.Algebra.Order.Group.Unbundled.Int
import Mathlib.Algebra.Order.Ring.Int
import Mathlib.Tactic.Linarith
import Mathlib.Tactic.Ring

/-!
# Integers as doubles

A number with 53 significant bits. An integer above `2 ^ 53` need not be one: it is rounded to the
nearest multiple of the spacing there, and of two that are as near to the even one. What is a
multiple of a power of two and not too large stays as it is.
-/

namespace Core

/-- The nearest multiple of `u`. -/
def roundTo (u : Nat) (z : Int) : Int :=
  if 2 * (z % u) < u ∨ 2 * (z % u) = u ∧ z / u % 2 = 0 then z / u * u else (z / u + 1) * u

/-- The distance of the doubles around `z`, as far as they are integers. -/
def spacing (z : Int) : Nat := 2 ^ (z.natAbs.log2 - 52)

/-- The double an integer is read as. -/
def toDouble (z : Int) : Int := roundTo (spacing z) z

/-! ### Multiples -/

section
variable {u : Nat} {z : Int}

lemma dvd_roundTo : (u : Int) ∣ roundTo u z := by
  unfold roundTo
  split_ifs
  · exact Dvd.intro_left _ rfl
  · exact Dvd.intro_left _ rfl

/-- Rounding is off by half the distance at most. -/
lemma two_mul_abs_roundTo_sub_le (hu : 0 < u) : 2 * |roundTo u z - z| ≤ u := by
  have hpos : (0 : Int) < u := by exact_mod_cast hu
  have hsplit := Int.mul_ediv_add_emod z u
  have hnonneg := Int.emod_nonneg z hpos.ne'
  have hlt := Int.emod_lt_of_pos z hpos
  unfold roundTo
  split_ifs with h
  · have hdiff : z / u * u - z = -(z % u) := by linarith
    rw [hdiff, abs_neg, abs_of_nonneg hnonneg]
    omega
  · have hdiff : (z / u + 1) * u - z = u - z % u := by linarith
    rw [hdiff, abs_of_nonneg (by omega)]
    omega

lemma roundTo_of_dvd (hu : 0 < u) (h : (u : Int) ∣ z) : roundTo u z = z := by
  have hmod := Int.emod_eq_zero_of_dvd h
  have hu' : (0 : Int) < u := by exact_mod_cast hu
  unfold roundTo
  rw [hmod, if_pos (.inl (by omega))]
  exact Int.ediv_mul_cancel h

end

/-! ### Powers of two -/

section
variable {k e : Nat} {z w : Int}

lemma spacing_pos : 0 < spacing z := Nat.two_pow_pos _

lemma two_mul_abs_toDouble_sub_le : 2 * |toDouble z - z| ≤ spacing z :=
  two_mul_abs_roundTo_sub_le spacing_pos

/-- Multiples of `2 ^ k` with 53 bits above. -/
lemma toDouble_of_dvd (h : (2 ^ k : Int) ∣ z) (hlt : |z| < 2 ^ (k + 53)) : toDouble z = z := by
  apply roundTo_of_dvd spacing_pos
  refine Dvd.dvd.trans ?_ h
  have hnat : z.natAbs < 2 ^ (k + 53) := by
    zify
    exact hlt
  have hlog : z.natAbs.log2 - 52 ≤ k := by
    by_cases hz : z.natAbs = 0
    · rw [hz, Nat.log2_zero]
      omega
    · have := (Nat.log2_lt hz).mpr hnat
      omega
  rw [spacing]
  exact_mod_cast Nat.pow_dvd_pow 2 hlog

/-- Small numbers stay as they are. -/
lemma toDouble_of_lt (h : |z| < 2 ^ 53) : toDouble z = z := toDouble_of_dvd (k := 0) (one_dvd z) h

/-- `z` lies between two powers of two that follow each other. -/
def InBinade (e : Nat) (z : Int) : Prop := 2 ^ e ≤ z ∧ z < 2 ^ (e + 1)

instance : Decidable (InBinade e z) := inferInstanceAs (Decidable (_ ∧ _))

lemma InBinade.spacing_eq (h : InBinade e z) : spacing z = 2 ^ (e - 52) := by
  obtain ⟨hlo, hhi⟩ := h
  have hnonneg : 0 ≤ z := le_trans (by positivity) hlo
  lift z to Nat using hnonneg
  have hlo' : 2 ^ e ≤ z := by exact_mod_cast hlo
  have hhi' : z < 2 ^ (e + 1) := by exact_mod_cast hhi
  have hz : z ≠ 0 := by
    have := Nat.two_pow_pos e
    omega
  have hlog : z.log2 = e := by
    have hle := (Nat.le_log2 hz).mpr hlo'
    have hlt := (Nat.log2_lt hz).mpr hhi'
    omega
  rw [spacing, Int.natAbs_natCast, hlog]

/-- In one binade, doubles are apart by multiples of the spacing there. -/
lemma InBinade.dvd_toDouble (h : InBinade e z) : (2 ^ (e - 52) : Int) ∣ toDouble z := by
  have hdvd : (spacing z : Int) ∣ toDouble z := dvd_roundTo
  rw [h.spacing_eq] at hdvd
  exact_mod_cast hdvd

lemma InBinade.two_mul_abs_le (h : InBinade e z) : 2 * |toDouble z - z| ≤ 2 ^ (e - 52) := by
  have hle := two_mul_abs_toDouble_sub_le (z := z)
  rw [h.spacing_eq] at hle
  exact_mod_cast hle

lemma InBinade.abs_sub_lt (hz : InBinade e z) (hw : InBinade e w) : |z - w| < 2 ^ e := by
  obtain ⟨hzlo, hzhi⟩ := hz
  obtain ⟨hwlo, hwhi⟩ := hw
  rw [pow_succ] at hzhi hwhi
  rw [abs_lt]
  constructor
  · linarith
  · linarith

/-- Rounding both makes a difference of at most the spacing. -/
lemma InBinade.abs_sub_sub_le (hz : InBinade e z) (hw : InBinade e w) :
    |toDouble z - toDouble w - (z - w)| ≤ 2 ^ (e - 52) := by
  have hzle := hz.two_mul_abs_le
  have hwle := hw.two_mul_abs_le
  have htriangle := abs_sub (toDouble z - z) (toDouble w - w)
  rw [sub_sub_sub_comm]
  linarith

/-- The difference of two doubles of one binade is a double. -/
lemma InBinade.toDouble_sub (hz : InBinade e z) (hw : InBinade e w) :
    toDouble (toDouble z - toDouble w) = toDouble z - toDouble w := by
  apply toDouble_of_dvd (Int.dvd_sub hz.dvd_toDouble hw.dvd_toDouble)
  have htriangle := abs_add_le (toDouble z - toDouble w - (z - w)) (z - w)
  rw [sub_add_cancel] at htriangle
  have hsum : (2 ^ e + 2 ^ (e - 52) : Int) ≤ 2 ^ (e - 52 + 53) := by
    have hpow : (2 ^ e : Int) ≤ 2 ^ (e - 52 + 52) := pow_le_pow_right₀ (by decide) (by omega)
    rw [pow_succ _ (e - 52 + 52)]
    have hone : (2 ^ (e - 52) : Int) ≤ 2 ^ (e - 52 + 52) :=
      pow_le_pow_right₀ (by decide) (by omega)
    linarith
  have hclose := hz.abs_sub_sub_le hw
  have hapart := hz.abs_sub_lt hw
  linarith

end

end Core
