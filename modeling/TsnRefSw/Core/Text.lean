import Mathlib.Data.List.SplitBy
import Mathlib.Data.List.TakeWhile
import Mathlib.Data.List.Infix
import Mathlib.Order.Basic
import Mathlib.Tactic.Common

/-!
# Text tools

Lines of text as lists of characters, and the commands a shell pipeline is made of: `awk` with
its default field separator, `grep`, `sed` and `uniq -D`, each as a function of the lines it
reads.
-/

namespace Core

/-- A line of text without its end. -/
abbrev Text := List Char

def isBlank (c : Char) : Bool := c == ' ' || c == '\t'

/-- The fields of a line are separated by runs of blanks. -/
def awkFields (line : Text) : List Text := (line.splitOnP isBlank).filter (· ≠ [])

/-- `awk '{print $k}'` on one line; a field that is not there is empty. -/
def awkField (k : Nat) (line : Text) : Text := (awkFields line).getD (k - 1) []

/-- The whole line matches `[0-9]+`. -/
def IsNumber (line : Text) : Prop := line ≠ [] ∧ ∀ c ∈ line, c.isDigit

instance (line : Text) : Decidable (IsNumber line) :=
  decidable_of_iff (line ≠ [] ∧ line.all Char.isDigit) (by simp [IsNumber])

/-- `grep -x -E '[0-9]+'`. -/
def grepNumbers (ls : List Text) : List Text := ls.filter IsNumber

/-- `grep` for a text without special characters. -/
def grep (pattern : Text) (ls : List Text) : List Text :=
  ls.filter fun line => line.tails.any pattern.isPrefixOf

/-- `sed '/pattern/d'` for a text without special characters. -/
def sedDeleteLines (pattern : Text) (ls : List Text) : List Text :=
  ls.filter fun line => !line.tails.any pattern.isPrefixOf

/-- `sed 's/c//'` on one line, where `c` is one character. -/
def sedDelete (c : Char) (line : Text) : Text := line.erase c

/-- `uniq -D`: of each run of equal lines all, if there is more than one. -/
def uniqD (ls : List Text) : List Text :=
  ((ls.splitBy (· == ·)).filter (1 < ·.length)).flatten

/-- `%ld` and its kin. -/
def decimal : Int → Text
  | .ofNat n   => Nat.toDigits 10 n
  | .negSucc n => '-' :: Nat.toDigits 10 (n + 1)

/-- The number `awk` takes a field for, if it holds an integer or is empty. -/
def awkNumber : Text → Int
  | '-' :: cs => -(Nat.ofDigitChars 10 (cs.takeWhile Char.isDigit) 0 : Int)
  | cs        => Nat.ofDigitChars 10 (cs.takeWhile Char.isDigit) 0

/-- A format whose conversions are separated by tabs. -/
def tabbed (ws : List Text) : Text := ['\t'].intercalate ws

/-! ### Fields -/

/-- Text that makes up a single field. -/
structure IsWord (w : Text) : Prop where
  ne_nil : w ≠ []
  no_blank : ∀ c ∈ w, isBlank c = false

instance (w : Text) : Decidable (IsWord w) :=
  decidable_of_iff (w ≠ [] ∧ w.all (!isBlank ·))
    ⟨fun h => ⟨h.1, by simpa using h.2⟩, fun h => ⟨h.ne_nil, by simpa using h.no_blank⟩⟩

lemma awkFields_of_isWord {w : Text} (hw : IsWord w) : awkFields w = [w] := by
  rw [awkFields, List.splitOnP_eq_singleton hw.no_blank]
  simp [hw.ne_nil]

/-- The fields of a printed line are the texts it was printed from. -/
lemma awkFields_tabbed {ws : List Text} (h : ∀ w ∈ ws, IsWord w) : awkFields (tabbed ws) = ws := by
  induction ws with
  | nil => rfl
  | cons w ws ih =>
    have hw := h w (by simp)
    cases ws with
    | nil =>
      have hone : tabbed [w] = w := by simp [tabbed]
      rw [hone]
      exact awkFields_of_isWord hw
    | cons w' ws =>
      have htwo : tabbed (w :: w' :: ws) = w ++ '\t' :: tabbed (w' :: ws) := by simp [tabbed]
      rw [htwo, awkFields, List.splitOnP_append_cons_of_forall_mem hw.no_blank _ rfl,
        List.filter_cons_of_pos (by simpa using hw.ne_nil)]
      congr 1
      apply ih
      intro u hu
      exact h u (List.mem_cons_of_mem _ hu)

/-! ### Numerals -/

lemma not_isBlank_of_isDigit {c : Char} (h : c.isDigit) : isBlank c = false := by
  by_contra hblank
  rw [Bool.not_eq_false, isBlank, Bool.or_eq_true, beq_iff_eq, beq_iff_eq] at hblank
  rcases hblank with rfl | rfl
  · exact absurd h (by decide)
  · exact absurd h (by decide)

lemma isDigit_of_mem_toDigits {n : Nat} {c : Char} (h : c ∈ Nat.toDigits 10 n) : c.isDigit :=
  Nat.isDigit_of_mem_toDigits (by decide) (by decide) h

lemma isNumber_decimal_ofNat (n : Nat) : IsNumber (decimal n) :=
  ⟨Nat.toDigits_ne_nil, fun _ hc => isDigit_of_mem_toDigits hc⟩

lemma isNumber_decimal {z : Int} (h : 0 ≤ z) : IsNumber (decimal z) := by
  obtain ⟨n, rfl⟩ := Int.eq_ofNat_of_zero_le h
  exact isNumber_decimal_ofNat n

lemma isWord_decimal (z : Int) : IsWord (decimal z) := by
  cases z with
  | ofNat n =>
    constructor
    · exact Nat.toDigits_ne_nil
    · intro c hc
      exact not_isBlank_of_isDigit (isDigit_of_mem_toDigits hc)
  | negSucc n =>
    constructor
    · simp [decimal]
    · intro c hc
      rcases List.mem_cons.mp hc with rfl | hc
      · rfl
      · exact not_isBlank_of_isDigit (isDigit_of_mem_toDigits hc)

lemma toDigits_injective : Function.Injective (Nat.toDigits 10) := by
  intro a b h
  simpa using congrArg (Nat.ofDigitChars 10 · 0) h

/-- Different numbers are printed differently. -/
lemma decimal_injective : Function.Injective decimal := by
  intro a b h
  cases a with
  | ofNat a =>
    cases b with
    | ofNat b => exact congrArg Int.ofNat (toDigits_injective h)
    | negSucc b =>
      have hmem : '-' ∈ Nat.toDigits 10 a := by
        rw [show Nat.toDigits 10 a = _ from h]
        exact List.mem_cons_self
      exact absurd (isDigit_of_mem_toDigits hmem) (by decide)
  | negSucc a =>
    cases b with
    | ofNat b =>
      have hmem : '-' ∈ Nat.toDigits 10 b := by
        rw [← show _ = Nat.toDigits 10 b from h]
        exact List.mem_cons_self
      exact absurd (isDigit_of_mem_toDigits hmem) (by decide)
    | negSucc b =>
      have hsucc := toDigits_injective (List.cons.inj h).2
      rw [Nat.succ.inj hsucc]

lemma takeWhile_toDigits (n : Nat) :
    (Nat.toDigits 10 n).takeWhile Char.isDigit = Nat.toDigits 10 n :=
  List.takeWhile_eq_self_iff.mpr fun _ => isDigit_of_mem_toDigits

/-- A printed number is read back. -/
lemma awkNumber_decimal (z : Int) : awkNumber (decimal z) = z := by
  cases z with
  | ofNat n =>
    have hsign : ∀ cs, Nat.toDigits 10 n ≠ '-' :: cs := by
      intro cs he
      have hmem : '-' ∈ Nat.toDigits 10 n := he ▸ List.mem_cons_self
      exact absurd (isDigit_of_mem_toDigits hmem) (by decide)
    rw [decimal]
    unfold awkNumber
    split
    · next cs he => exact absurd he (hsign cs)
    · rw [takeWhile_toDigits]
      simp
  | negSucc n =>
    rw [decimal, awkNumber, takeWhile_toDigits]
    simp [Int.negSucc_eq]

/-! ### Lines that contain a text -/

/-- A text that occurs in a line brings its characters. -/
lemma mem_of_contains {pattern line : Text} {c : Char} (hc : c ∈ pattern)
    (h : line.tails.any pattern.isPrefixOf = true) : c ∈ line := by
  obtain ⟨t, ht, hprefix⟩ := List.any_eq_true.mp h
  have hmem : c ∈ t := (List.isPrefixOf_iff_prefix.mp hprefix).subset hc
  exact ((List.mem_tails t line).mp ht).subset hmem

lemma sedDeleteLines_cons_of_not {pattern line : Text}
    (h : line.tails.any pattern.isPrefixOf = false) (ls : List Text) :
    sedDeleteLines pattern (line :: ls) = line :: sedDeleteLines pattern ls := by
  simp [sedDeleteLines, h]

lemma mem_tabbed {ws : List Text} {c : Char} (h : c ∈ tabbed ws) :
    c = '\t' ∨ ∃ w ∈ ws, c ∈ w := by
  induction ws with
  | nil => cases h
  | cons w ws ih =>
    cases ws with
    | nil =>
      rw [show tabbed [w] = w by simp [tabbed]] at h
      exact .inr ⟨w, List.mem_cons_self, h⟩
    | cons w' ws =>
      rw [show tabbed (w :: w' :: ws) = w ++ '\t' :: tabbed (w' :: ws) by simp [tabbed]] at h
      rcases List.mem_append.mp h with hw | hrest
      · exact .inr ⟨w, List.mem_cons_self, hw⟩
      · rcases List.mem_cons.mp hrest with htab | hws
        · exact .inl htab
        · rcases ih hws with htab | ⟨u, hu, hc⟩
          · exact .inl htab
          · exact .inr ⟨u, List.mem_cons_of_mem w hu, hc⟩

/-- A printed number has no letters. -/
lemma mem_decimal {z : Int} {c : Char} (h : c ∈ decimal z) : c = '-' ∨ c.isDigit := by
  cases z with
  | ofNat n => exact .inr (isDigit_of_mem_toDigits h)
  | negSucc n =>
    rcases List.mem_cons.mp h with hsign | hdigits
    · exact .inl hsign
    · exact .inr (isDigit_of_mem_toDigits hdigits)

/-! ### Runs of equal lines -/

lemma map_singleton_flatten {gs : List (List Text)} (h : ∀ g ∈ gs, ∃ a, g = [a]) :
    gs.flatten.map (fun a => [a]) = gs := by
  induction gs with
  | nil => rfl
  | cons g gs ih =>
    obtain ⟨a, rfl⟩ := h g (by simp)
    rw [List.flatten_cons, List.map_append, ih fun g hg => h g (List.mem_cons_of_mem _ hg)]
    rfl

/-- Lines that differ from their neighbours are runs by themselves. -/
lemma splitBy_of_isChain_ne {ls : List Text} (h : ls.IsChain (· ≠ ·)) :
    ls.splitBy (· == ·) = ls.map fun a => [a] := by
  have hruns : (ls.map fun a => [a]).flatten.splitBy (· == ·) = ls.map fun a => [a] := by
    apply List.splitBy_flatten
    · simp
    · intro m hm
      obtain ⟨a, -, rfl⟩ := List.mem_map.mp hm
      exact List.isChain_singleton a
    · rw [List.isChain_map]
      apply h.imp
      intro a b hab
      exact ⟨by simp, by simp, by simpa using hab⟩
  rwa [← List.flatMap_def, List.flatMap_singleton'] at hruns

/-- `uniq -D` prints nothing just when no two adjacent lines are equal. -/
lemma uniqD_eq_nil_iff (ls : List Text) : uniqD ls = [] ↔ ls.IsChain (· ≠ ·) := by
  constructor
  · intro h
    have hsingle : ∀ g ∈ ls.splitBy (· == ·), ∃ a, g = [a] := by
      intro g hg
      have hne := List.ne_nil_of_mem_splitBy hg
      apply List.length_eq_one_iff.mp
      by_contra hlen
      have hlong : 1 < g.length := by
        have hpos := List.length_pos_iff.mpr hne
        omega
      exact hne (List.flatten_eq_nil_iff.mp h g (List.mem_filter.mpr ⟨hg, by simpa using hlong⟩))
    have hruns := List.isChain_getLast_head_splitBy (· == ·) ls
    rw [← map_singleton_flatten hsingle, List.flatten_splitBy, List.isChain_map] at hruns
    apply hruns.imp
    rintro a b ⟨_, _, hab⟩
    simpa using hab
  · intro h
    rw [uniqD, splitBy_of_isChain_ne h, List.flatten_eq_nil_iff]
    intro g hg
    obtain ⟨hmem, hlong⟩ := List.mem_filter.mp hg
    obtain ⟨a, -, rfl⟩ := List.mem_map.mp hmem
    simp at hlong

end Core
