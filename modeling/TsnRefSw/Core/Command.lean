import Mathlib.Data.List.TakeDrop
import TsnRefSw.Core.Text

/-!
# Command lines

A command is a line of words. Some of them are keywords, and what stands between a keyword and the
next one is its arguments: read this way, a command is a list of clauses behind a front.
-/

namespace Core

/-! ### Words -/

/-- The words of a line. -/
abbrev words : Text → List Text := awkFields

/-- The last character is a blank. -/
def EndsBlank (t : Text) : Prop := t.getLast?.any isBlank = true

/-- The first character is a blank. -/
def StartsBlank (t : Text) : Prop := t.head?.any isBlank = true

lemma words_append_blank (a b : Text) {c : Char} (hc : isBlank c) :
    words (a ++ c :: b) = words a ++ words b := by
  rw [words, awkFields, List.splitOnP_append_cons a b hc, List.filter_append]
  rfl

/-- Between two values stands a blank. -/
lemma words_append_space (a b : Text) : words (a ++ (" ".toList ++ b)) = words a ++ words b :=
  words_append_blank a b rfl

/-- A text that starts with a blank starts a new word. -/
lemma words_append_of_startsBlank {t : Text} (h : StartsBlank t) (a b : Text) :
    words (a ++ (t ++ b)) = words a ++ words (t ++ b) := by
  obtain ⟨c, hhead, hc⟩ := Option.any_eq_true _ _ |>.mp h
  obtain ⟨s, rfl⟩ : ∃ s, t = c :: s := List.head?_eq_some_iff.mp hhead
  have hs : words (c :: (s ++ b)) = words (s ++ b) := words_append_blank [] (s ++ b) hc
  rw [List.cons_append, words_append_blank a (s ++ b) hc, hs]

lemma words_append_startsBlank {t : Text} (h : StartsBlank t) (a : Text) :
    words (a ++ t) = words a ++ words t := by
  have happend := words_append_of_startsBlank h a []
  rwa [List.append_nil] at happend

/-- A text that ends with a blank ends with a whole word. -/
lemma words_append_of_endsBlank {a : Text} (h : EndsBlank a) (b : Text) :
    words (a ++ b) = words a ++ words b := by
  obtain ⟨c, hlast, hc⟩ := Option.any_eq_true _ _ |>.mp h
  obtain ⟨s, rfl⟩ : ∃ s, a = s ++ [c] := List.getLast?_eq_some_iff.mp hlast
  have hs : words (s ++ [c]) = words s := by
    rw [words_append_blank s [] hc]
    exact List.append_nil _
  rw [hs, List.append_assoc, List.singleton_append, words_append_blank s b hc]

/-- The characters between blanks. -/
lemma mem_of_mem_splitOnP {t w : Text} (h : w ∈ t.splitOnP isBlank) {c : Char} (hc : c ∈ w) :
    c ∈ t ∧ isBlank c = false := by
  induction t generalizing w with
  | nil =>
    obtain rfl : w = [] := by simpa using h
    cases hc
  | cons x t ih =>
    rw [List.splitOnP_cons_eq_if_modifyHead] at h
    split_ifs at h with hx
    · rcases List.mem_cons.mp h with rfl | hw
      · cases hc
      · exact (ih hw hc).imp_left (List.mem_cons_of_mem x)
    · obtain ⟨u, us, hsplit⟩ := List.exists_cons_of_ne_nil (List.splitOnP_ne_nil isBlank t)
      rw [hsplit, List.modifyHead_cons] at h
      rw [hsplit] at ih
      rcases List.mem_cons.mp h with rfl | hw
      · rcases List.mem_cons.mp hc with rfl | hu
        · exact ⟨List.mem_cons_self, by simpa using hx⟩
        · exact (ih List.mem_cons_self hu).imp_left (List.mem_cons_of_mem x)
      · exact (ih (List.mem_cons_of_mem u hw) hc).imp_left (List.mem_cons_of_mem x)

lemma isWord_of_mem_words {t w : Text} (h : w ∈ words t) : IsWord w := by
  obtain ⟨hsplit, hne⟩ := List.mem_filter.mp h
  exact ⟨by simpa using hne, fun c hc => (mem_of_mem_splitOnP hsplit hc).2⟩

/-- A word has no characters but those of its line. -/
lemma notMem_of_mem_words {t w : Text} (h : w ∈ words t) {c : Char} (hc : c ∉ t) : c ∉ w := by
  intro hw
  exact hc (mem_of_mem_splitOnP (List.mem_filter.mp h).1 hw).1

lemma words_eq_singleton_iff {t : Text} : words t = [t] ↔ IsWord t := by
  constructor
  · intro h
    exact isWord_of_mem_words (h ▸ List.mem_singleton_self t)
  · exact awkFields_of_isWord

/-- Texts with a space between them. -/
def spaced (ts : List Text) : Text := " ".toList.intercalate ts

lemma words_spaced (ts : List Text) : words (spaced ts) = ts.flatMap words := by
  induction ts with
  | nil => rfl
  | cons t ts ih =>
    cases ts with
    | nil => simp [spaced]
    | cons t' ts =>
      have hcons : spaced (t :: t' :: ts) = t ++ (" ".toList ++ spaced (t' :: ts)) := by
        simp [spaced]
      rw [hcons, words_append_space, ih]
      rfl

/-- Words are read back. -/
lemma words_spaced_of_isWord {ws : List Text} (h : ∀ w ∈ ws, IsWord w) :
    words (spaced ws) = ws := by
  rw [words_spaced]
  induction ws with
  | nil => rfl
  | cons w ws ih =>
    rw [List.flatMap_cons, words, awkFields_of_isWord (h w List.mem_cons_self),
      ih fun u hu => h u (List.mem_cons_of_mem w hu)]
    rfl

/-! ### Clauses -/

/-- A keyword and its arguments. -/
structure Clause where
  key : Text
  args : List Text
deriving DecidableEq, Repr

def Clause.words (c : Clause) : List Text := c.key :: c.args

/-- No word is a keyword. -/
def Plain (keys : List Text) (ws : List Text) : Prop := ∀ w ∈ ws, w ∉ keys

instance (keys : List Text) (ws : List Text) : Decidable (Plain keys ws) :=
  inferInstanceAs (Decidable (∀ w ∈ ws, w ∉ keys))

/-- What stands before the first keyword, and the clauses. -/
def readClauses (keys : List Text) : List Text → List Text × List Clause
  | []      => ([], [])
  | w :: ws =>
    let (front, cs) := readClauses keys ws
    if w ∈ keys then ([], ⟨w, front⟩ :: cs) else (w :: front, cs)

/-- A command is a single line. -/
def readCommand (keys : List Text) (cmd : Text) : Option (List Text × List Clause) :=
  if '\n' ∈ cmd then none else some (readClauses keys (words cmd))

section Clauses

variable {keys : List Text}

/-- No word is lost. -/
lemma readClauses_words (ws : List Text) :
    (readClauses keys ws).1 ++ (readClauses keys ws).2.flatMap Clause.words = ws := by
  induction ws with
  | nil => rfl
  | cons w ws ih =>
    rw [readClauses]
    split_ifs with hw
    · exact congrArg (w :: ·) ih
    · exact congrArg (w :: ·) ih

/-- The front and the arguments are plain. -/
lemma readClauses_plain (ws : List Text) :
    Plain keys (readClauses keys ws).1 ∧
      ∀ c ∈ (readClauses keys ws).2, c.key ∈ keys ∧ Plain keys c.args := by
  induction ws with
  | nil => simp [readClauses, Plain]
  | cons w ws ih =>
    rw [readClauses]
    split_ifs with hw
    · refine ⟨by simp [Plain], ?_⟩
      rintro c hc
      rcases List.mem_cons.mp hc with rfl | hc
      · exact ⟨hw, ih.1⟩
      · exact ih.2 c hc
    · refine ⟨?_, ih.2⟩
      rintro u hu
      rcases List.mem_cons.mp hu with rfl | hu
      · exact hw
      · exact ih.1 u hu

lemma readClauses_append {front : List Text} (h : Plain keys front) (ws : List Text) :
    readClauses keys (front ++ ws) =
      (front ++ (readClauses keys ws).1, (readClauses keys ws).2) := by
  induction front with
  | nil => rfl
  | cons w front ih =>
    have hw : w ∉ keys := h w List.mem_cons_self
    rw [List.cons_append, readClauses, ih fun u hu => h u (List.mem_cons_of_mem w hu)]
    exact if_neg hw

/-- Printed clauses are read back. -/
lemma readClauses_flatMap {cs : List Clause} (h : ∀ c ∈ cs, c.key ∈ keys ∧ Plain keys c.args) :
    readClauses keys (cs.flatMap Clause.words) = ([], cs) := by
  induction cs with
  | nil => rfl
  | cons c cs ih =>
    obtain ⟨hkey, hargs⟩ := h c List.mem_cons_self
    have hcs := ih fun d hd => h d (List.mem_cons_of_mem c hd)
    rw [List.flatMap_cons, Clause.words, List.cons_append, readClauses, readClauses_append hargs,
      hcs, List.append_nil]
    exact if_pos hkey

/-- A command reads as some clauses if and only if it is these clauses printed, and there are no
keywords among the arguments. -/
theorem readCommand_eq_some_iff {cmd : Text} {front : List Text} {cs : List Clause} :
    readCommand keys cmd = some (front, cs) ↔
      '\n' ∉ cmd ∧ words cmd = front ++ cs.flatMap Clause.words ∧ Plain keys front ∧
        ∀ c ∈ cs, c.key ∈ keys ∧ Plain keys c.args := by
  rw [readCommand]
  split_ifs with hline
  · simp [hline]
  · rw [Option.some_inj, and_iff_right hline]
    constructor
    · intro h
      rw [← readClauses_words (words cmd), h]
      have hplain : Plain keys (readClauses keys (words cmd)).1 ∧
          ∀ c ∈ (readClauses keys (words cmd)).2, c.key ∈ keys ∧ Plain keys c.args :=
        readClauses_plain (words cmd)
      rw [h] at hplain
      exact ⟨rfl, hplain⟩
    · rintro ⟨hwords, hfront, hcs⟩
      rw [hwords, readClauses_append hfront, readClauses_flatMap hcs, List.append_nil]

end Clauses

/-- A text that does not disturb the command it is printed into. -/
def Legible (keys : List Text) (t : Text) : Prop := '\n' ∉ t ∧ Plain keys (words t)

instance (keys : List Text) (t : Text) : Decidable (Legible keys t) :=
  inferInstanceAs (Decidable (_ ∧ _))

/-- A text that is read back as one argument. -/
def LegibleWord (keys : List Text) (t : Text) : Prop := IsWord t ∧ '\n' ∉ t ∧ t ∉ keys

instance (keys : List Text) (t : Text) : Decidable (LegibleWord keys t) :=
  inferInstanceAs (Decidable (_ ∧ _))

/-- What is read as some clauses has legible arguments. -/
lemma legibleWord_of_readCommand {keys : List Text} {cmd : Text} {front : List Text}
    {cs : List Clause} (h : readCommand keys cmd = some (front, cs)) :
    ∀ c ∈ cs, ∀ w ∈ c.args, LegibleWord keys w := by
  obtain ⟨hline, hwords, -, hplain⟩ := readCommand_eq_some_iff.mp h
  intro c hc w hw
  have hmem : w ∈ words cmd := by
    rw [hwords]
    exact List.mem_append_right _ (List.mem_flatMap.mpr ⟨c, hc, List.mem_cons_of_mem _ hw⟩)
  exact ⟨isWord_of_mem_words hmem, notMem_of_mem_words hmem hline, (hplain c hc).2 w hw⟩

end Core
