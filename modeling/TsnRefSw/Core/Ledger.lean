import Mathlib.Data.List.Nodup

/-!
# Resources and their ledger

A program that acquires and releases resources leaves a list of events. The ledger of these
events says which resources are held and which are spent. An event that is not allowed stops it:
a resource is acquired only once, and used and released only while it is held.
-/

namespace Core

/-- What happens to resources. -/
inductive LedgerEvent (R : Type*) where
  | acquire (r : R)
  | use (r : R)
  | release (r : R)
  /-- Something that must not happen, such as an access outside an array. -/
  | fault
deriving DecidableEq, Repr

/-- The resources that are held and those that have been released. -/
structure Ledger (R : Type*) where
  held : List R
  spent : List R
  nodup : (held ++ spent).Nodup

namespace Ledger

variable {R : Type*} [DecidableEq R]

def empty : Ledger R := ⟨[], [], List.nodup_nil⟩

omit [DecidableEq R] in
lemma not_mem_held_of_mem_spent {l : Ledger R} {r : R} (h : r ∈ l.spent) : r ∉ l.held := by
  intro hheld
  exact List.disjoint_of_nodup_append l.nodup hheld h

lemma perm_release {l : Ledger R} {r : R} (h : r ∈ l.held) :
    (l.held.erase r ++ r :: l.spent).Perm (l.held ++ l.spent) :=
  List.perm_middle.trans ((List.perm_cons_erase h).symm.append_right l.spent)

/-- The ledger after an event, if it is allowed. -/
def step (l : Ledger R) : LedgerEvent R → Option (Ledger R)
  | .acquire r =>
    if h : r ∈ l.held ++ l.spent then none
    else some ⟨r :: l.held, l.spent, List.nodup_cons.mpr ⟨h, l.nodup⟩⟩
  | .use r => if r ∈ l.held then some l else none
  | .release r =>
    if h : r ∈ l.held then
      some ⟨l.held.erase r, r :: l.spent, (perm_release h).nodup_iff.mpr l.nodup⟩
    else none
  | .fault => none

def run (l : Ledger R) (es : List (LedgerEvent R)) : Option (Ledger R) := es.foldlM step l

@[simp] lemma run_nil (l : Ledger R) : l.run [] = some l := rfl

@[simp] lemma run_cons (l : Ledger R) (e : LedgerEvent R) (es : List (LedgerEvent R)) :
    l.run (e :: es) = (l.step e).bind (run · es) := rfl

lemma run_append (l : Ledger R) (es es' : List (LedgerEvent R)) :
    l.run (es ++ es') = (l.run es).bind (run · es') := by
  induction es generalizing l with
  | nil => rfl
  | cons e es ih =>
    rw [List.cons_append, run_cons, run_cons, Option.bind_assoc]
    congr 1
    funext l'
    exact ih l'

/-- What an event that is allowed changes. -/
lemma step_cases {l l' : Ledger R} {e : LedgerEvent R} (h : l.step e = some l') :
    (∃ r, e = .acquire r ∧ r ∉ l.held ∧ r ∉ l.spent ∧ l'.held = r :: l.held ∧
      l'.spent = l.spent) ∨
    (∃ r, e = .use r ∧ r ∈ l.held ∧ l' = l) ∨
    (∃ r, e = .release r ∧ r ∈ l.held ∧ l'.held = l.held.erase r ∧ l'.spent = r :: l.spent) := by
  cases e with
  | acquire r =>
    simp only [step] at h
    split_ifs at h with hr
    cases h
    rw [List.mem_append, not_or] at hr
    exact .inl ⟨r, rfl, hr.1, hr.2, rfl, rfl⟩
  | use r =>
    simp only [step] at h
    split_ifs at h with hr
    cases h
    exact .inr (.inl ⟨r, rfl, hr, rfl⟩)
  | release r =>
    simp only [step] at h
    split_ifs at h with hr
    cases h
    exact .inr (.inr ⟨r, rfl, hr, rfl, rfl⟩)
  | fault => cases h

lemma mem_step_iff {l l' : Ledger R} {e : LedgerEvent R} (h : l.step e = some l') {r : R} :
    r ∈ l'.held ++ l'.spent ↔ r ∈ l.held ++ l.spent ∨ e = .acquire r := by
  obtain ⟨r', rfl, -, -, hheld, hspent⟩ | ⟨r', rfl, -, rfl⟩ | ⟨r', rfl, hr', hheld, hspent⟩ :=
    step_cases h
  · rw [hheld, hspent, List.cons_append, List.mem_cons, LedgerEvent.acquire.injEq,
      eq_comm (a := r'), or_comm]
  · simp
  · rw [hheld, hspent, (perm_release hr').mem_iff]
    simp

/-- The resources in the ledger are those that were acquired. -/
lemma mem_run_iff {l l' : Ledger R} {es : List (LedgerEvent R)} (h : l.run es = some l') {r : R} :
    r ∈ l'.held ++ l'.spent ↔ r ∈ l.held ++ l.spent ∨ .acquire r ∈ es := by
  induction es generalizing l with
  | nil =>
    cases h
    simp
  | cons e es ih =>
    obtain ⟨l₁, hstep, hrun⟩ := Option.bind_eq_some_iff.mp h
    rw [ih hrun, mem_step_iff hstep, List.mem_cons, or_assoc, eq_comm (a := e)]

/-- A resource that is spent is never touched again. -/
lemma spent_of_run {l l' : Ledger R} {es : List (LedgerEvent R)} (h : l.run es = some l') {r : R}
    (hr : r ∈ l.spent) : r ∈ l'.spent ∧ .acquire r ∉ es ∧ .use r ∉ es ∧ .release r ∉ es := by
  induction es generalizing l with
  | nil =>
    cases h
    simpa using hr
  | cons e es ih =>
    obtain ⟨l₁, hstep, hrun⟩ := Option.bind_eq_some_iff.mp h
    have hnot := not_mem_held_of_mem_spent hr
    obtain ⟨r', rfl, -, hr', -, hspent⟩ | ⟨r', rfl, hr', rfl⟩ | ⟨r', rfl, hr', -, hspent⟩ :=
      step_cases hstep
    · obtain ⟨hmem, ha, hu, hrel⟩ := ih hrun (hspent ▸ hr)
      have hne : r ≠ r' := fun he => hr' (he ▸ hr)
      simp [hmem, ha, hu, hrel, hne]
    · obtain ⟨hmem, ha, hu, hrel⟩ := ih hrun hr
      have hne : r ≠ r' := fun he => hnot (he ▸ hr')
      simp [hmem, ha, hu, hrel, hne]
    · obtain ⟨hmem, ha, hu, hrel⟩ := ih hrun (hspent ▸ List.mem_cons_of_mem _ hr)
      have hne : r ≠ r' := fun he => hnot (he ▸ hr')
      simp [hmem, ha, hu, hrel, hne]

/-- A resource that is held was acquired once and for all, or is released once. -/
lemma held_of_run {l l' : Ledger R} {es : List (LedgerEvent R)} (h : l.run es = some l') {r : R}
    (hr : r ∈ l.held) : .acquire r ∉ es ∧
      (r ∈ l'.held ∧ .release r ∉ es ∨ es.count (.release r) = 1) := by
  induction es generalizing l with
  | nil =>
    cases h
    simpa using hr
  | cons e es ih =>
    obtain ⟨l₁, hstep, hrun⟩ := Option.bind_eq_some_iff.mp h
    obtain ⟨r', rfl, hr', -, hheld, -⟩ | ⟨r', rfl, -, rfl⟩ | ⟨r', rfl, hr', hheld, hspent⟩ :=
      step_cases hstep
    · have hne : r ≠ r' := fun he => hr' (he ▸ hr)
      obtain ⟨ha, hrest⟩ := ih hrun (hheld ▸ List.mem_cons_of_mem _ hr)
      simpa [ha, hne, List.count_cons] using hrest
    · obtain ⟨ha, hrest⟩ := ih hrun hr
      simpa [ha, List.count_cons] using hrest
    · by_cases hne : r = r'
      · subst hne
        obtain ⟨-, ha, -, hrel⟩ := spent_of_run hrun (hspent ▸ List.mem_cons_self ..)
        refine ⟨by simpa using ha, .inr ?_⟩
        rw [List.count_cons_self, List.count_eq_zero.mpr hrel]
      · obtain ⟨ha, hrest⟩ := ih hrun (hheld ▸ (List.mem_erase_of_ne hne).mpr hr)
        simpa [ha, hne, Ne.symm hne, List.count_cons] using hrest

lemma run_split {l l' : Ledger R} {es es' : List (LedgerEvent R)} {e : LedgerEvent R}
    (h : l.run (es ++ e :: es') = some l') :
    ∃ l₁ l₂, l.run es = some l₁ ∧ l₁.step e = some l₂ ∧ l₂.run es' = some l' := by
  rw [run_append] at h
  obtain ⟨l₁, hrun, h⟩ := Option.bind_eq_some_iff.mp h
  obtain ⟨l₂, hstep, hrest⟩ := Option.bind_eq_some_iff.mp h
  exact ⟨l₁, l₂, hrun, hstep, hrest⟩

lemma spent_of_release {l l' : Ledger R} {r : R}
    (h : l.step (.release r) = some l') : r ∈ l.held ∧ r ∈ l'.spent := by
  obtain ⟨r', he, -⟩ | ⟨r', he, -⟩ | ⟨r', he, hr', -, hspent⟩ := step_cases h
  · cases he
  · cases he
  · cases he
    exact ⟨hr', hspent ▸ List.mem_cons_self ..⟩

/-! ### Accounts -/

/-- The events are allowed, and `rs` are the resources held after them. -/
def Account (es : List (LedgerEvent R)) (rs : List R) : Prop :=
  ∃ l, empty.run es = some l ∧ l.held.Perm rs

namespace Account

variable {es : List (LedgerEvent R)} {r : R} {rs rs' : List R}

lemma nil : Account ([] : List (LedgerEvent R)) [] := ⟨empty, rfl, .nil⟩

lemma perm (h : Account es rs) (hp : rs.Perm rs') : Account es rs' := by
  obtain ⟨l, hrun, hheld⟩ := h
  exact ⟨l, hrun, hheld.trans hp⟩

lemma concat {e : LedgerEvent R} {l l' : Ledger R} (hrun : empty.run es = some l)
    (hstep : l.step e = some l') (hp : l'.held.Perm rs) : Account (es ++ [e]) rs := by
  refine ⟨l', ?_, hp⟩
  rw [run_append, hrun]
  simpa using hstep

/-- A resource that is new. -/
lemma acquire (h : Account es rs) (hr : .acquire r ∉ es) :
    Account (es ++ [.acquire r]) (r :: rs) := by
  obtain ⟨l, hrun, hheld⟩ := h
  have hnew : r ∉ l.held ++ l.spent := by
    rw [mem_run_iff hrun]
    simpa [empty] using hr
  exact concat hrun (dif_neg hnew) (hheld.cons r)

lemma use (h : Account es rs) (hr : r ∈ rs) : Account (es ++ [.use r]) rs := by
  obtain ⟨l, hrun, hheld⟩ := h
  exact concat hrun (if_pos (hheld.mem_iff.mpr hr)) hheld

lemma release (h : Account es (r :: rs)) : Account (es ++ [.release r]) rs := by
  obtain ⟨l, hrun, hheld⟩ := h
  have hr : r ∈ l.held := hheld.mem_iff.mpr (List.mem_cons_self ..)
  refine concat hrun (dif_pos hr) ?_
  have hperm := hheld.erase r
  rwa [List.erase_cons_head] at hperm

end Account

/-- Every resource that was acquired was released once, and not touched after that. -/
structure Settled (es : List (LedgerEvent R)) : Prop where
  once : ∀ r, .acquire r ∈ es → es.count (.acquire r) = 1 ∧ es.count (.release r) = 1
  order : ∀ es₁ r es₂, es = es₁ ++ .release r :: es₂ →
    .acquire r ∈ es₁ ∧ .use r ∉ es₂ ∧ .release r ∉ es₂
  noFault : .fault ∉ es

theorem Account.settled {es : List (LedgerEvent R)} (h : Account es []) : Settled es := by
  obtain ⟨l, hrun, hheld⟩ := h
  have hnil : l.held = [] := hheld.eq_nil
  refine ⟨fun r hr => ?_, fun es₁ r es₂ hes => ?_, fun hfault => ?_⟩
  · obtain ⟨es₁, es₂, rfl⟩ := List.append_of_mem hr
    obtain ⟨l₁, l₂, hrun₁, hstep, hrun₂⟩ := run_split hrun
    obtain ⟨r', he, hheld₁, hspent₁, hheld₂, -⟩ | ⟨r', he, -⟩ | ⟨r', he, -⟩ := step_cases hstep
    · cases he
      have hnew : .acquire r ∉ es₁ := by
        have hiff := mem_run_iff (r := r) hrun₁
        simp only [List.mem_append, hheld₁, hspent₁, or_self, false_iff, not_or] at hiff
        exact hiff.2
      have hfirst : .release r ∉ es₁ := by
        intro hrel
        obtain ⟨a, b, rfl⟩ := List.append_of_mem hrel
        obtain ⟨l₃, l₄, -, hstep', hrun'⟩ := run_split hrun₁
        exact hspent₁ (spent_of_run hrun' (spent_of_release hstep').2).1
      obtain ⟨hacq, ⟨hstill, -⟩ | hrel⟩ := held_of_run hrun₂ (hheld₂ ▸ List.mem_cons_self ..)
      · rw [hnil] at hstill
        cases hstill
      · simp [List.count_append, hrel, List.count_eq_zero.mpr hnew,
          List.count_eq_zero.mpr hfirst, List.count_eq_zero.mpr hacq]
    · cases he
    · cases he
  · subst hes
    obtain ⟨l₁, l₂, hrun₁, hstep, hrun₂⟩ := run_split hrun
    obtain ⟨hheld₁, hspent₂⟩ := spent_of_release hstep
    obtain ⟨-, -, huse, hrel⟩ := spent_of_run hrun₂ hspent₂
    refine ⟨?_, huse, hrel⟩
    have hmem := (mem_run_iff hrun₁).mp (List.mem_append_left _ hheld₁)
    simpa [empty] using hmem
  · obtain ⟨es₁, es₂, rfl⟩ := List.append_of_mem hfault
    obtain ⟨l₁, l₂, -, hstep, -⟩ := run_split hrun
    cases hstep

end Ledger

end Core
