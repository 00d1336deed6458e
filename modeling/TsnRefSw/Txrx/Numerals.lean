import TsnRefSw.Txrx.Arguments

/-!
# Numerals

What `strtol()` takes for a decimal number: blanks, a sign if there is one, and digits.
-/

namespace TsnRefSw

open Core

namespace Txrx

/-! ### In front of the digits -/

inductive Sign where
  | none
  | plus
  | minus
deriving DecidableEq, Repr

def Sign.text : Sign → Text
  | none  => []
  | plus  => ['+']
  | minus => ['-']

def Sign.apply : Sign → Nat → Int
  | minus, n => -n
  | _, n     => n

/-- Blanks and a sign. -/
structure Front where
  blanks : Text
  sign : Sign
  isSpace_blanks : ∀ c ∈ blanks, isSpace c

def Front.text (f : Front) : Text := f.blanks ++ f.sign.text

/-- A text that does not go on with blanks or a sign. -/
def StartsNumber (t : Text) : Prop := ∀ c ∈ t.head?, isSpace c = false ∧ c ≠ '+' ∧ c ≠ '-'

lemma dropWhile_isSpace_append {blanks t : Text} (hblanks : ∀ c ∈ blanks, isSpace c)
    (ht : ∀ c ∈ t.head?, isSpace c = false) : (blanks ++ t).dropWhile isSpace = t := by
  induction blanks with
  | nil =>
    cases t with
    | nil => rfl
    | cons c t =>
      have hc : isSpace c = false := ht c rfl
      exact List.dropWhile_cons_of_neg (by simp [hc])
  | cons b blanks ih =>
    rw [List.cons_append, List.dropWhile_cons_of_pos (hblanks b List.mem_cons_self)]
    exact ih fun c hc => hblanks c (List.mem_cons_of_mem b hc)

/-- The front is skipped. -/
lemma sign_front_append (f : Front) {t : Text} (h : StartsNumber t) :
    sign ((f.text ++ t).dropWhile isSpace) = (decide (f.sign = .minus), t) := by
  obtain ⟨blanks, sg, hblanks⟩ := f
  rw [Front.text, List.append_assoc]
  cases sg with
  | none =>
    rw [Sign.text, List.nil_append, dropWhile_isSpace_append hblanks fun c hc => (h c hc).1]
    cases t with
    | nil => rfl
    | cons c t =>
      obtain ⟨-, hplus, hminus⟩ := h c rfl
      unfold sign
      split
      · next heq => exact absurd (List.cons.inj heq).1 hminus
      · next heq => exact absurd (List.cons.inj heq).1 hplus
      · rfl
  | plus =>
    rw [Sign.text, List.singleton_append, dropWhile_isSpace_append hblanks (by simp [isSpace])]
    rfl
  | minus =>
    rw [Sign.text, List.singleton_append, dropWhile_isSpace_append hblanks (by simp [isSpace])]
    rfl

lemma exists_sign (cs : Text) :
    ∃ sg : Sign, cs = sg.text ++ (sign cs).2 ∧ (sign cs).1 = decide (sg = .minus) := by
  unfold sign
  split
  · exact ⟨.minus, rfl, rfl⟩
  · exact ⟨.plus, rfl, rfl⟩
  · exact ⟨.none, rfl, rfl⟩

/-- Every text has a front. -/
lemma exists_front (arg : Text) :
    ∃ f : Front, arg = f.text ++ (sign (arg.dropWhile isSpace)).2 ∧
      (sign (arg.dropWhile isSpace)).1 = decide (f.sign = .minus) := by
  obtain ⟨sg, htext, hneg⟩ := exists_sign (arg.dropWhile isSpace)
  refine ⟨⟨arg.takeWhile isSpace, sg, fun c hc => List.mem_takeWhile_imp hc⟩, ?_, hneg⟩
  rw [Front.text, List.append_assoc, ← htext, List.takeWhile_append_dropWhile]

/-! ### Decimal numerals -/

structure Numeral extends Front where
  digits : Text
  digits_ne_nil : digits ≠ []
  isDigit_digits : ∀ c ∈ digits, c.isDigit

def Numeral.text (m : Numeral) : Text := m.toFront.text ++ m.digits

def Numeral.value (m : Numeral) : Int := m.sign.apply (Nat.ofDigitChars 10 m.digits 0)

/-- The text is a numeral, and `z` its value. -/
def Denotes (arg : Text) (z : Int) : Prop := ∃ m : Numeral, m.text = arg ∧ m.value = z

lemma isSpace_eq_false_of_le {c : Char} (h : '0' ≤ c) : isSpace c = false := by
  by_contra hspace
  rw [Bool.not_eq_false, isSpace, Bool.or_eq_true, Bool.and_eq_true, beq_iff_eq, decide_eq_true_eq,
    decide_eq_true_eq] at hspace
  rcases hspace with rfl | ⟨-, hhigh⟩
  · exact absurd h (by decide)
  · have hle : '0' ≤ '\r' := Char.le_trans h hhigh
    exact absurd hle (by decide)

lemma le_of_isDigit {c : Char} (h : c.isDigit) : '0' ≤ c := (Char.isDigit_iff_toNat.mp h).1

lemma startsNumber_of_isDigit {t : Text} (h : ∀ c ∈ t, c.isDigit) : StartsNumber t := by
  intro c hc
  have hdigit := h c (List.mem_of_mem_head? hc)
  refine ⟨isSpace_eq_false_of_le (le_of_isDigit hdigit), ?_, ?_⟩
  · rintro rfl
    exact absurd hdigit (by decide)
  · rintro rfl
    exact absurd hdigit (by decide)

/-- What `strtol()` makes of a number. -/
def Strtol.ofInt (z : Int) (rest : Text) : Strtol :=
  if z < -2 ^ 63 then ⟨-2 ^ 63, rest, true⟩
  else if 2 ^ 63 ≤ z then ⟨2 ^ 63 - 1, rest, true⟩
  else ⟨z, rest, false⟩

@[simp] lemma Strtol.rest_ofInt (z : Int) (rest : Text) : (ofInt z rest).rest = rest := by
  unfold ofInt
  split_ifs <;> rfl

lemma Strtol.ofInt_natCast (n : Nat) (rest : Text) :
    (if n < 2 ^ 63 then ⟨n, rest, false⟩ else ⟨2 ^ 63 - 1, rest, true⟩) = ofInt n rest := by
  unfold ofInt
  by_cases hn : n < 2 ^ 63
  · rw [if_pos hn, if_neg (by omega), if_neg (by omega)]
  · rw [if_neg hn, if_neg (by omega), if_pos (by omega)]

lemma Strtol.ofInt_neg (n : Nat) (rest : Text) :
    (if n ≤ 2 ^ 63 then ⟨-n, rest, false⟩ else ⟨-2 ^ 63, rest, true⟩) = ofInt (-n) rest := by
  unfold ofInt
  by_cases hn : n ≤ 2 ^ 63
  · rw [if_pos hn, if_neg (by omega), if_neg (by omega)]
  · rw [if_neg hn, if_pos (by omega)]

/-- `strtol()` behind the sign. -/
lemma strtol_eq {arg cs : Text} {sg : Sign}
    (h : sign (arg.dropWhile isSpace) = (decide (sg = .minus), cs)) :
    strtol arg = if cs.takeWhile Char.isDigit = [] then ⟨0, arg, false⟩
      else .ofInt (sg.apply (Nat.ofDigitChars 10 (cs.takeWhile Char.isDigit) 0))
        (cs.dropWhile Char.isDigit) := by
  rw [strtol, h]
  by_cases hdigits : cs.takeWhile Char.isDigit = []
  · exact (if_pos hdigits).trans (if_pos hdigits).symm
  · refine (if_neg hdigits).trans (Eq.trans ?_ (if_neg hdigits).symm)
    cases sg with
    | none => exact Strtol.ofInt_natCast _ _
    | plus => exact Strtol.ofInt_natCast _ _
    | minus => exact Strtol.ofInt_neg _ _

/-- A numeral is read to its end. -/
lemma strtol_text (m : Numeral) : strtol m.text = .ofInt m.value [] := by
  have hdigits : m.digits.takeWhile Char.isDigit = m.digits :=
    List.takeWhile_eq_self_iff.mpr m.isDigit_digits
  have hrest : m.digits.dropWhile Char.isDigit = [] :=
    List.dropWhile_eq_nil_iff.mpr m.isDigit_digits
  rw [Numeral.text, strtol_eq (sign_front_append _ (startsNumber_of_isDigit m.isDigit_digits)),
    hdigits, hrest, if_neg m.digits_ne_nil]
  rfl

/-- What is read to its end is a numeral or empty. -/
lemma exists_numeral {arg : Text} (h : (strtol arg).rest = []) (hne : arg ≠ []) :
    ∃ m : Numeral, m.text = arg := by
  obtain ⟨f, htext, hneg⟩ := exists_front arg
  generalize hcs : (sign (arg.dropWhile isSpace)).2 = cs at htext
  rw [strtol_eq (Prod.ext hneg hcs)] at h
  split_ifs at h with hdigits
  · exact absurd h hne
  · rw [Strtol.rest_ofInt] at h
    have hall : cs.takeWhile Char.isDigit = cs := by
      conv_rhs => rw [← List.takeWhile_append_dropWhile (p := Char.isDigit) (l := cs), h]
      exact (List.append_nil _).symm
    exact ⟨⟨f, cs, hall ▸ hdigits, List.takeWhile_eq_self_iff.mp hall⟩, htext.symm⟩

/-! ### Numbers in a range -/

/-- What `strtol()` returned is a number in a range. -/
def Strtol.InRange (r : Strtol) (lo hi : Nat) : Prop := ¬ r.erange ∧ lo ≤ r.value ∧ r.value ≤ hi

instance (r : Strtol) (lo hi : Nat) : Decidable (r.InRange lo hi) :=
  inferInstanceAs (Decidable (_ ∧ _))

lemma Strtol.inRange_ofInt_iff {lo hi : Nat} (hhi : hi < 2 ^ 63) {z : Int} {rest : Text} :
    (ofInt z rest).InRange lo hi ↔ lo ≤ z ∧ z ≤ hi := by
  unfold ofInt InRange
  split_ifs with hsmall hlarge
  · exact iff_of_false (by simp) (by omega)
  · exact iff_of_false (by simp) (by omega)
  · simp

lemma Strtol.value_ofInt {lo hi : Nat} {z : Int} {rest : Text}
    (h : (ofInt z rest).InRange lo hi) : (ofInt z rest).value = z := by
  obtain ⟨herange, -⟩ := h
  unfold ofInt at *
  split_ifs at * with hsmall hlarge
  · exact absurd rfl herange
  · exact absurd rfl herange
  · rfl

/-- A text that is read to its end as a number in a range is a numeral, unless it is empty. -/
lemma inRange_and_rest_eq_nil_iff {lo hi : Nat} (hhi : hi < 2 ^ 63) {arg : Text} {z : Int} :
    (strtol arg).InRange lo hi ∧ (strtol arg).value = z ∧ (strtol arg).rest = [] ↔
      (Denotes arg z ∧ lo ≤ z ∧ z ≤ hi) ∨ (arg = [] ∧ z = 0 ∧ lo = 0) := by
  constructor
  · rintro ⟨hrange, hvalue, hrest⟩
    by_cases hnil : arg = []
    · subst hnil
      have hzero : (strtol []).value = 0 := rfl
      rw [hzero] at hvalue
      have hlo := hrange.2.1
      rw [hzero] at hlo
      exact .inr ⟨rfl, hvalue.symm, by omega⟩
    · obtain ⟨m, rfl⟩ := exists_numeral hrest hnil
      rw [strtol_text] at hrange hvalue
      rw [Strtol.value_ofInt hrange] at hvalue
      subst hvalue
      exact .inl ⟨⟨m, rfl, rfl⟩, (Strtol.inRange_ofInt_iff hhi).mp hrange⟩
  · rintro (⟨⟨m, rfl, rfl⟩, hrange⟩ | ⟨rfl, rfl, rfl⟩)
    · rw [strtol_text]
      have hin : (Strtol.ofInt m.value []).InRange lo hi :=
        (Strtol.inRange_ofInt_iff hhi).mpr hrange
      exact ⟨hin, Strtol.value_ofInt hin, Strtol.rest_ofInt m.value []⟩
    · refine ⟨⟨by decide, le_rfl, ?_⟩, rfl, rfl⟩
      exact Int.natCast_nonneg hi

lemma length_rest_le (arg : Text) : (strtol arg).rest.length ≤ arg.length := by
  obtain ⟨f, htext, hneg⟩ := exists_front arg
  rw [strtol_eq (Prod.ext hneg rfl)]
  split_ifs with hdigits
  · exact le_rfl
  · rw [Strtol.rest_ofInt]
    conv_rhs => rw [htext]
    rw [List.length_append]
    exact (List.length_dropWhile_le _ _).trans (Nat.le_add_left _ _)

/-- In a text that is not too long, `str_end` is compared with its end. -/
lemma Strtol.atEnd_iff {arg : Text} (h : arg.length < 2 ^ 31) :
    (strtol arg).AtEnd arg ↔ (strtol arg).rest = [] := by
  have hlen : intLen arg = arg.length := Int.bmod_eq_of_le (by omega) (by omega)
  have hle := length_rest_le arg
  rw [AtEnd, hlen, ← List.length_eq_zero_iff]
  omega

/-- In a text that is too long, it is compared with something else. -/
lemma Strtol.not_atEnd {arg : Text} (h : 2 ^ 31 ≤ arg.length) (hrest : (strtol arg).rest = []) :
    ¬ (strtol arg).AtEnd arg := by
  have hlt : intLen arg < 2 ^ 31 := Int.bmod_lt (by decide)
  rw [AtEnd, hrest, List.length_nil]
  omega

/-! ### The test of the parsers -/

/-- What the parsers accept as a number from `lo` to `hi`. -/
def Accepts (lo hi : Nat) (arg : Text) (z : Int) : Prop :=
  (strtol arg).InRange lo hi ∧ (strtol arg).value = z ∧ (strtol arg).AtEnd arg

/-- The numerals of the numbers from `lo` to `hi`. -/
def InGrammar (lo hi : Nat) (arg : Text) (z : Int) : Prop := Denotes arg z ∧ lo ≤ z ∧ z ≤ hi

/-- The argument has less than `2 ^ 31` characters and is not empty where zero is in the range; or
the number in front of it is not in the range, or is followed by more and does not end at `len`
either. -/
def Discerned (lo hi : Nat) (arg : Text) : Prop :=
  if arg.length < 2 ^ 31 then arg = [] → lo ≠ 0
  else (strtol arg).InRange lo hi → (strtol arg).rest ≠ [] ∧ ¬ (strtol arg).AtEnd arg

lemma not_denotes_nil (z : Int) : ¬ Denotes [] z := by
  rintro ⟨m, htext, -⟩
  exact m.digits_ne_nil (List.append_eq_nil_iff.mp htext).2

lemma accepts_iff_of_short {lo hi : Nat} (hhi : hi < 2 ^ 63) {arg : Text} (h : arg.length < 2 ^ 31)
    (z : Int) :
    Accepts lo hi arg z ↔ InGrammar lo hi arg z ∨ (arg = [] ∧ z = 0 ∧ lo = 0) := by
  rw [Accepts, Strtol.atEnd_iff h, inRange_and_rest_eq_nil_iff hhi, InGrammar]

lemma inGrammar_iff {lo hi : Nat} (hhi : hi < 2 ^ 63) {arg : Text} (hne : arg ≠ []) (z : Int) :
    InGrammar lo hi arg z ↔
      (strtol arg).InRange lo hi ∧ (strtol arg).value = z ∧ (strtol arg).rest = [] := by
  rw [inRange_and_rest_eq_nil_iff hhi, InGrammar]
  simp [hne]

/-- The test accepts the numerals of the range and nothing else. -/
lemma accepts_iff_inGrammar_iff {lo hi : Nat} (hhi : hi < 2 ^ 63) (arg : Text) :
    (∀ z, Accepts lo hi arg z ↔ InGrammar lo hi arg z) ↔ Discerned lo hi arg := by
  rw [Discerned]
  split_ifs with hlen
  · constructor
    · rintro h rfl hlo
      have hzero := (accepts_iff_of_short hhi hlen 0).mpr (.inr ⟨rfl, rfl, hlo⟩)
      exact not_denotes_nil 0 ((h 0).mp hzero).1
    · intro h z
      rw [accepts_iff_of_short hhi hlen, or_iff_left]
      rintro ⟨hnil, -, hlo⟩
      exact h hnil hlo
  · have hlong : 2 ^ 31 ≤ arg.length := Nat.not_lt.mp hlen
    have hne : arg ≠ [] := by
      rintro rfl
      exact absurd hlong (by decide)
    constructor
    · intro h hrange
      have hvalue := h (strtol arg).value
      rw [inGrammar_iff hhi hne, Accepts] at hvalue
      have hboth : (strtol arg).AtEnd arg ↔ (strtol arg).rest = [] := by
        simpa [hrange] using hvalue
      have hrest : (strtol arg).rest ≠ [] := fun hnil =>
        Strtol.not_atEnd hlong hnil (hboth.mpr hnil)
      exact ⟨hrest, mt hboth.mp hrest⟩
    · intro h z
      rw [inGrammar_iff hhi hne, Accepts]
      constructor
      · rintro ⟨hrange, -, hend⟩
        exact absurd hend (h hrange).2
      · rintro ⟨hrange, -, hrest⟩
        exact absurd hrest (h hrange).1

/-- The numbers that `parser()` gets. -/
lemma exists_number_eq_ok_iff (text : String) {lo hi : Nat} {arg : Text} {z : Int} :
    (∃ n, number text lo hi arg = .ok n ∧ (n.1 : Int) = z) ↔ Accepts lo hi arg z := by
  rw [Accepts, Strtol.InRange, number]
  split_ifs with h
  · obtain ⟨herange, hlo, hhi, hend⟩ := h
    have htoNat : ((strtol arg).value.toNat : Int) = (strtol arg).value :=
      Int.toNat_of_nonneg ((Int.natCast_nonneg lo).trans hlo)
    constructor
    · rintro ⟨n, hn, rfl⟩
      obtain rfl := Except.ok.inj hn
      exact ⟨⟨herange, hlo, hhi⟩, htoNat.symm, hend⟩
    · rintro ⟨-, rfl, -⟩
      exact ⟨_, rfl, htoNat⟩
  · constructor
    · rintro ⟨n, hn, -⟩
      cases hn
    · rintro ⟨⟨herange, hlo, hhi⟩, -, hend⟩
      exact absurd ⟨herange, hlo, hhi, hend⟩ h

end Txrx

end TsnRefSw
