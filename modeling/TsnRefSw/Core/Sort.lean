import Mathlib.Algebra.Order.Ring.Nat
import TsnRefSw.Core.Text

/-!
# Sorted lines

`sort` compares lines as texts. Numerals of the same length are ordered like their numbers, a
shorter one is compared with the first digits of a longer one.
-/

namespace Core

/-! ### The order of the dictionary -/

/-- The order of `sort` on two lines. -/
def dictLe : Text → Text → Bool
  | [], _           => true
  | _ :: _, []      => false
  | a :: s, b :: t  => a.toNat < b.toNat || (a.toNat == b.toNat && dictLe s t)

/-- `sort`. -/
def sort (ls : List Text) : List Text := ls.mergeSort dictLe

/-- `tail -n 1`; without lines there is nothing to print. -/
def lastLine (ls : List Text) : Text := ls.getLastD []

lemma dictLe_cons_iff {a b : Char} {s t : Text} :
    dictLe (a :: s) (b :: t) ↔ a.toNat < b.toNat ∨ a.toNat = b.toNat ∧ dictLe s t := by
  simp [dictLe]

lemma dictLe_total (s t : Text) : dictLe s t || dictLe t s := by
  rw [Bool.or_eq_true]
  induction s generalizing t with
  | nil => exact .inl rfl
  | cons a s ih =>
    cases t with
    | nil => exact .inr rfl
    | cons b t =>
      rw [dictLe_cons_iff, dictLe_cons_iff]
      rcases Nat.lt_trichotomy a.toNat b.toNat with hlt | heq | hgt
      · exact .inl (.inl hlt)
      · exact (ih t).imp (fun h => .inr ⟨heq, h⟩) (fun h => .inr ⟨heq.symm, h⟩)
      · exact .inr (.inl hgt)

lemma dictLe_trans (s t u : Text) (hst : dictLe s t) (htu : dictLe t u) : dictLe s u := by
  induction s generalizing t u with
  | nil => rfl
  | cons a s ih =>
    cases t with
    | nil => cases hst
    | cons b t =>
      cases u with
      | nil => cases htu
      | cons c u =>
        rw [dictLe_cons_iff] at hst htu ⊢
        rcases hst with hab | ⟨hab, hst⟩
        · rcases htu with hbc | ⟨hbc, -⟩
          · exact .inl (hab.trans hbc)
          · exact .inl (hbc ▸ hab)
        · rcases htu with hbc | ⟨hbc, htu⟩
          · exact .inl (hab ▸ hbc)
          · exact .inr ⟨hab.trans hbc, ih t u hst htu⟩

lemma dictLe_antisymm {s t : Text} (hst : dictLe s t) (hts : dictLe t s) : s = t := by
  induction s generalizing t with
  | nil =>
    cases t with
    | nil => rfl
    | cons b t => cases hts
  | cons a s ih =>
    cases t with
    | nil => cases hst
    | cons b t =>
      rw [dictLe_cons_iff] at hst hts
      have heq : a.toNat = b.toNat := by omega
      have hs := hst.resolve_left heq.not_lt
      have ht := hts.resolve_left heq.not_gt
      rw [Char.toNat_inj.mp heq, ih hs.2 ht.2]

lemma dictLe_refl (s : Text) : dictLe s s := by
  simpa using dictLe_total s s

/-! ### The last line -/

lemma mem_sort {ls : List Text} {w : Text} : w ∈ sort ls ↔ w ∈ ls := List.mem_mergeSort

lemma pairwise_sort (ls : List Text) : (sort ls).Pairwise (dictLe · ·) :=
  List.pairwise_mergeSort dictLe_trans dictLe_total ls

lemma lastLine_mem {ls : List Text} (h : ls ≠ []) : lastLine ls ∈ ls := by
  obtain ⟨front, w, rfl⟩ := List.eq_nil_or_concat ls |>.resolve_left h
  simp [lastLine]

/-- The last line of sorted lines is behind every line. -/
lemma dictLe_lastLine_sort {ls : List Text} {w : Text} (h : w ∈ ls) :
    dictLe w (lastLine (sort ls)) := by
  have hmem := mem_sort.mpr h
  have hsorted := pairwise_sort ls
  obtain ⟨front, v, hsort⟩ := List.eq_nil_or_concat (sort ls) |>.resolve_left
    (List.ne_nil_of_mem hmem)
  rw [hsort, List.concat_eq_append] at hmem hsorted ⊢
  have hlast : lastLine (front ++ [v]) = v := by simp [lastLine]
  rw [hlast]
  rcases List.mem_append.mp hmem with hfront | hv
  · exact (List.pairwise_append.mp hsorted).2.2 w hfront v List.mem_cons_self
  · rw [List.mem_singleton.mp hv]
    exact dictLe_refl v

lemma lastLine_sort_eq_iff {ls : List Text} {w : Text} (h : w ∈ ls) :
    lastLine (sort ls) = w ↔ ∀ u ∈ ls, dictLe u w := by
  constructor
  · rintro rfl u hu
    exact dictLe_lastLine_sort hu
  · intro hall
    have hne : sort ls ≠ [] := List.ne_nil_of_mem (mem_sort.mpr h)
    exact dictLe_antisymm (hall _ (mem_sort.mp (lastLine_mem hne))) (dictLe_lastLine_sort h)

/-! ### Numerals -/

/-- The number of digits. -/
def digitCount (n : Nat) : Nat := (Nat.toDigits 10 n).length

/-- The shorter text is compared with as much of the longer one. -/
lemma dictLe_append_iff {s t : Text} (h : s.length ≤ t.length) (u : Text) :
    dictLe s (t ++ u) ↔ dictLe s t := by
  induction s generalizing t with
  | nil => simp [dictLe]
  | cons a s ih =>
    cases t with
    | nil => cases h
    | cons b t =>
      rw [List.cons_append, dictLe_cons_iff, dictLe_cons_iff, ih (Nat.le_of_succ_le_succ h)]

/-- The value of a digit. -/
def digitValue (c : Char) : Nat := c.toNat - '0'.toNat

lemma ofDigitChars_cons_eq (a : Char) (s : Text) :
    Nat.ofDigitChars 10 (a :: s) 0 = 10 ^ s.length * digitValue a + Nat.ofDigitChars 10 s 0 := by
  rw [Nat.ofDigitChars_cons, Nat.ofDigitChars_eq_ofDigitChars_zero, Nat.mul_zero, Nat.zero_add]
  rfl

lemma digitValue_spec {c : Char} (h : c.isDigit) :
    digitValue c < 10 ∧ c.toNat = digitValue c + 48 := by
  obtain ⟨hlow, hhigh⟩ := Char.isDigit_iff_toNat.mp h
  have hzero : '0'.toNat = 48 := rfl
  have hnine : '9'.toNat = 57 := rfl
  rw [digitValue]
  omega

lemma digitValue_lt_iff {a b : Char} (ha : a.isDigit) (hb : b.isDigit) :
    digitValue a < digitValue b ↔ a.toNat < b.toNat := by
  rw [(digitValue_spec ha).2, (digitValue_spec hb).2, Nat.add_lt_add_iff_right]

lemma digitValue_eq_iff {a b : Char} (ha : a.isDigit) (hb : b.isDigit) :
    digitValue a = digitValue b ↔ a.toNat = b.toNat := by
  rw [(digitValue_spec ha).2, (digitValue_spec hb).2, Nat.add_right_cancel_iff]

lemma ofDigitChars_lt {s : Text} (h : ∀ c ∈ s, c.isDigit) :
    Nat.ofDigitChars 10 s 0 < 10 ^ s.length := by
  induction s with
  | nil => simp
  | cons a s ih =>
    have ha : digitValue a + 1 ≤ 10 := (digitValue_spec (h a List.mem_cons_self)).1
    have hs := ih fun c hc => h c (List.mem_cons_of_mem a hc)
    rw [ofDigitChars_cons_eq, List.length_cons]
    calc 10 ^ s.length * digitValue a + Nat.ofDigitChars 10 s 0
        < 10 ^ s.length * digitValue a + 10 ^ s.length := Nat.add_lt_add_left hs _
      _ = 10 ^ s.length * (digitValue a + 1) := (Nat.mul_succ _ _).symm
      _ ≤ 10 ^ s.length * 10 := Nat.mul_le_mul_left _ ha
      _ = 10 ^ (s.length + 1) := rfl

/-- Two numbers with quotients `p`, `q` and remainders `x`, `y`. -/
lemma mul_add_le_mul_add_iff {k p q x y : Nat} (hx : x < k) (hy : y < k) :
    k * p + x ≤ k * q + y ↔ p < q ∨ p = q ∧ x ≤ y := by
  have hstep : ∀ {m n : Nat}, m < n → k * m + k ≤ k * n := by
    intro m n h
    rw [← Nat.mul_succ]
    exact Nat.mul_le_mul_left k h
  rcases Nat.lt_trichotomy p q with hlt | rfl | hgt
  · have hpq := hstep hlt
    omega
  · omega
  · have hqp := hstep hgt
    omega

/-- Numerals of one length are ordered like their numbers. -/
lemma dictLe_iff_of_length_eq {s t : Text} (hs : ∀ c ∈ s, c.isDigit) (ht : ∀ c ∈ t, c.isDigit)
    (hlen : s.length = t.length) :
    dictLe s t ↔ Nat.ofDigitChars 10 s 0 ≤ Nat.ofDigitChars 10 t 0 := by
  induction s generalizing t with
  | nil => simp [dictLe]
  | cons a s ih =>
    cases t with
    | nil => cases hlen
    | cons b t =>
      have hlen' : s.length = t.length := Nat.succ.inj hlen
      have ha := hs a List.mem_cons_self
      have hb := ht b List.mem_cons_self
      have hs' : ∀ c ∈ s, c.isDigit := fun c hc => hs c (List.mem_cons_of_mem a hc)
      have ht' : ∀ c ∈ t, c.isDigit := fun c hc => ht c (List.mem_cons_of_mem b hc)
      have hslt := ofDigitChars_lt hs'
      rw [hlen'] at hslt
      rw [dictLe_cons_iff, ih hs' ht' hlen', ofDigitChars_cons_eq, ofDigitChars_cons_eq, hlen',
        mul_add_le_mul_add_iff hslt (ofDigitChars_lt ht'), digitValue_lt_iff ha hb,
        digitValue_eq_iff ha hb]

/-- The first digits of a numeral are the numeral of a quotient. -/
lemma exists_toDigits_eq_append (m k : Nat) (h : k < digitCount m) :
    ∃ u, Nat.toDigits 10 m = Nat.toDigits 10 (m / 10 ^ k) ++ u ∧ u.length = k := by
  induction k with
  | zero => exact ⟨[], by simp⟩
  | succ k ih =>
    obtain ⟨u, hu, hk⟩ := ih (Nat.lt_of_succ_lt h)
    have hlong : 10 ≤ m / 10 ^ k := by
      by_contra hshort
      have hone := Nat.toDigits_of_lt_base (Nat.not_le.mp hshort)
      rw [digitCount, hu, hone] at h
      simp [hk] at h
    refine ⟨Nat.digitChar (m / 10 ^ k % 10) :: u, ?_, by simp [hk]⟩
    rw [hu, Nat.toDigits_of_base_le (by decide) hlong, Nat.div_div_eq_div_mul, ← Nat.pow_succ,
      List.append_assoc]
    rfl

/-- A numeral is put behind a shorter one if it is larger even with zeros appended to the
shorter. -/
lemma dictLe_toDigits_iff {c m : Nat} (h : digitCount c ≤ digitCount m) :
    dictLe (Nat.toDigits 10 c) (Nat.toDigits 10 m) ↔
      c * 10 ^ (digitCount m - digitCount c) ≤ m := by
  have hc : 0 < digitCount c := Nat.length_toDigits_pos
  obtain ⟨u, hm, hu⟩ := exists_toDigits_eq_append m (digitCount m - digitCount c) (by omega)
  have hlen : (Nat.toDigits 10 c).length =
      (Nat.toDigits 10 (m / 10 ^ (digitCount m - digitCount c))).length := by
    have hsum := congrArg List.length hm
    rw [List.length_append, hu] at hsum
    unfold digitCount at *
    omega
  rw [hm, dictLe_append_iff hlen.le, dictLe_iff_of_length_eq (fun _ => isDigit_of_mem_toDigits)
    (fun _ => isDigit_of_mem_toDigits) hlen, Nat.ofDigitChars_ten_toDigits,
    Nat.ofDigitChars_ten_toDigits, Nat.le_div_iff_mul_le (Nat.pow_pos (by decide))]

/-- A smaller number has no more digits. -/
lemma digitCount_mono {c m : Nat} (h : c ≤ m) : digitCount c ≤ digitCount m := by
  have hpos : 0 < digitCount m := Nat.length_toDigits_pos
  apply (Nat.length_toDigits_le_iff (by decide) hpos).mpr
  exact h.trans_lt ((Nat.length_toDigits_le_iff (by decide) hpos).mp le_rfl)

end Core
