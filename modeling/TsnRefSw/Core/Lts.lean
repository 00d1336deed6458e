import Mathlib.Data.List.Basic

/-!
# Transition systems and their runs

A system is given by its initial states and by a partial step function: what an action does
in a state, where it is enabled at all. All nondeterminism sits in the choice of the action,
so that a run can be replayed from the list of its actions.

A run remembers the state before each of its steps. Histories (what was sent, accepted or
written so far) are functions of that trace and need no extra component of the state.
-/

namespace Core

/-- A transition system with states `σ` and actions `α`. -/
structure Lts (σ α : Type*) where
  /-- The states a run may start in. -/
  init : σ → Prop
  /-- The state after an action, or `none` where the action is not enabled. -/
  step : σ → α → Option σ

/-- A guarded step that was taken. -/
lemma of_guard {σ : Type*} {p : Prop} [Decidable p] {s s' : σ}
    (h : (if p then some s else none) = some s') : p ∧ s' = s := by
  obtain ⟨hp, he⟩ := Option.ite_none_right_eq_some.mp h
  exact ⟨hp, (Option.some.inj he).symm⟩

/-- Two steps behind the same guard. -/
lemma rel_guard {σ τ : Type*} {R : σ → τ → Prop} {p : Prop} [Decidable p] {s : σ} {t : τ}
    (h : p → R s t) : Option.Rel R (if p then some s else none) (if p then some t else none) := by
  split_ifs with hp
  · exact .some (h hp)
  · exact .none

namespace Lts

variable {σ α : Type*} {A : Lts σ α}

/-- `A.Run tr s`: a run with trace `tr` reaches `s`. The trace lists each step as the state
before it and the action taken there. -/
inductive Run (A : Lts σ α) : List (σ × α) → σ → Prop where
  | init {s : σ} (h : A.init s) : Run A [] s
  | step {tr : List (σ × α)} {s s' : σ} {a : α} (h : Run A tr s) (hs : A.step s a = some s') :
      Run A (tr ++ [(s, a)]) s'

/-! ### Histories -/

/-- A member of a history that grew by one is an old one or the last. -/
lemma getElem?_concat {β : Type*} {l : List β} {x b : β} {k : Nat}
    (h : (l ++ [x])[k]? = some b) : l[k]? = some b ∨ k = l.length ∧ b = x := by
  rcases Nat.lt_trichotomy k l.length with hlt | rfl | hgt
  · rw [List.getElem?_append_left hlt] at h
    exact .inl h
  · rw [List.getElem?_concat_length] at h
    exact .inr ⟨rfl, (Option.some.inj h).symm⟩
  · rw [List.getElem?_eq_none (by rw [List.length_append]; exact hgt)] at h
    cases h

/-- What a history has once, it keeps. -/
lemma getElem?_append_of_some {β : Type*} {l : List β} {b : β} {k : Nat} (h : l[k]? = some b)
    (r : List β) : (l ++ r)[k]? = some b := by
  rw [List.getElem?_append_left (List.getElem?_eq_some_iff.mp h).1]
  exact h

/-- The first member of a history that has not been consumed is consumed. -/
lemma take_succ_of_drop {β : Type*} {l ps : List β} {p : β} {k : Nat} (h : l.drop k = p :: ps) :
    l[k]? = some p ∧ l.take (k + 1) = l.take k ++ [p] ∧ l.drop (k + 1) = ps := by
  have hk : l[k]? = some p := by
    rw [← List.head?_drop, h]
    rfl
  refine ⟨hk, ?_, ?_⟩
  · rw [List.take_add_one, hk]
    rfl
  · rw [← List.tail_drop, h]
    rfl

/-- Two histories that end with the next entry, or have none, in step. -/
lemma append_toList_inj {β : Type*} {l l' : List β} {x y : Option β} (hsome : x.isSome = y.isSome)
    (h : l ++ x.toList = l' ++ y.toList) : l = l' ∧ x = y := by
  cases x with
  | none =>
    cases y with
    | none => simpa using h
    | some y => cases hsome
  | some x =>
    cases y with
    | none => cases hsome
    | some y => simpa using List.append_inj' h rfl

/-! ### Invariants -/

/-- A property of trace and state that holds at the start and that every step keeps. -/
theorem Run.induct {P : List (σ × α) → σ → Prop} (hinit : ∀ s, A.init s → P [] s)
    (hstep : ∀ tr s a s', A.Run tr s → P tr s → A.step s a = some s' → P (tr ++ [(s, a)]) s')
    {tr : List (σ × α)} {s : σ} (h : A.Run tr s) : P tr s := by
  induction h with
  | init h => exact hinit _ h
  | step h hs ih => exact hstep _ _ _ _ h ih hs

/-- The same for runs whose steps all meet a condition `C`. -/
theorem Run.induct_of {P : List (σ × α) → σ → Prop} {C : σ → α → Prop}
    (hinit : ∀ s, A.init s → P [] s)
    (hstep : ∀ tr s a s', A.Run tr s → (∀ x ∈ tr, C x.1 x.2) → P tr s → C s a →
      A.step s a = some s' → P (tr ++ [(s, a)]) s')
    {tr : List (σ × α)} {s : σ} (h : A.Run tr s) (hC : ∀ x ∈ tr, C x.1 x.2) : P tr s := by
  induction h with
  | init h => exact hinit _ h
  | step h hs ih =>
    simp only [List.mem_append, List.mem_singleton, or_imp, forall_and, forall_eq] at hC
    exact hstep _ _ _ _ h hC.1 (ih hC.1) hC.2 hs

/-- A state invariant holds wherever a run leads. -/
theorem Run.invariant {I : σ → Prop} (hinit : ∀ s, A.init s → I s)
    (hstep : ∀ s a s', I s → A.step s a = some s' → I s')
    {tr : List (σ × α)} {s : σ} (h : A.Run tr s) : I s :=
  h.induct (P := fun _ s => I s) hinit fun _ _ _ _ _ hI hs => hstep _ _ _ hI hs

/-- A state invariant of the runs whose steps all meet `C`. -/
theorem Run.invariant_of {I : σ → Prop} {C : σ → α → Prop} (hinit : ∀ s, A.init s → I s)
    (hstep : ∀ s a s', I s → C s a → A.step s a = some s' → I s')
    {tr : List (σ × α)} {s : σ} (h : A.Run tr s) (hC : ∀ x ∈ tr, C x.1 x.2) : I s :=
  h.induct_of (P := fun _ s => I s) hinit (fun _ _ _ _ _ _ hI hc hs => hstep _ _ _ hI hc hs) hC

/-- Two conditions on steps that agree wherever the invariant `I` holds, and one of which keeps
`I`, are met by the same runs. -/
theorem Run.forall_iff {I : σ → Prop} {C P : σ → α → Prop} (hinit : ∀ s, A.init s → I s)
    (hstep : ∀ s a s', I s → C s a → A.step s a = some s' → I s')
    (hiff : ∀ s a s', I s → A.step s a = some s' → (P s a ↔ C s a))
    {tr : List (σ × α)} {s : σ} (h : A.Run tr s) :
    (∀ x ∈ tr, P x.1 x.2) ↔ ∀ x ∈ tr, C x.1 x.2 := by
  induction h with
  | init h => simp
  | @step tr s s' a h hs ih =>
    simp only [List.mem_append, List.mem_singleton, or_imp, forall_and, forall_eq, ih]
    refine and_congr_right fun hC => hiff s a s' ?_ hs
    exact h.invariant_of hinit hstep hC

/-! ### Progress -/

/-- A run can be continued to a goal `G` by steps that meet `D`, where each of them keeps the
invariant and short of the goal there is one that makes the measure smaller. -/
theorem Run.exists_of_measure {I G : σ → Prop} {D : σ → α → Prop} (μ : σ → Nat)
    (hstep : ∀ s a s', I s → D s a → A.step s a = some s' → I s')
    (hprogress : ∀ s, I s → ¬ G s → ∃ a s', D s a ∧ A.step s a = some s' ∧ μ s' < μ s)
    {tr : List (σ × α)} {s : σ} (h : A.Run tr s) (hI : I s) :
    ∃ tr' s', A.Run (tr ++ tr') s' ∧ (∀ x ∈ tr', D x.1 x.2) ∧ G s' := by
  induction hμ : μ s using Nat.strongRecOn generalizing tr s with
  | _ k ih =>
    subst hμ
    by_cases hgoal : G s
    · refine ⟨[], s, ?_, nofun, hgoal⟩
      rw [List.append_nil]
      exact h
    · obtain ⟨a, s₁, hD, hs, hlt⟩ := hprogress s hI hgoal
      obtain ⟨tr', s', hrun, hall, hgoal'⟩ := ih _ hlt (h.step hs) (hstep s a s₁ hI hD hs) rfl
      refine ⟨(s, a) :: tr', s', ?_, List.forall_mem_cons.mpr ⟨hD, hall⟩, hgoal'⟩
      rw [List.append_cons]
      exact hrun

/-! ### Runs and their actions -/

lemma Run.of_concat {tr : List (σ × α)} {s s' : σ} {a : α} (h : A.Run (tr ++ [(s, a)]) s') :
    A.Run tr s ∧ A.step s a = some s' := by
  generalize htr : tr ++ [(s, a)] = t at h
  cases h with
  | init h => simp at htr
  | step h hs =>
    obtain ⟨rfl, he⟩ := List.append_inj' htr rfl
    cases he
    exact ⟨h, hs⟩

/-- Each step of a run was taken in a state that a run leads to. -/
lemma Run.of_mem {tr : List (σ × α)} {s : σ} (h : A.Run tr s) {x : σ × α} (hx : x ∈ tr) :
    ∃ tr' s', A.Run tr' x.1 ∧ A.step x.1 x.2 = some s' := by
  induction h with
  | init h => cases hx
  | @step tr s s' a h hs ih =>
    rcases List.mem_append.mp hx with hx | hx
    · exact ih hx
    · rw [List.mem_singleton.mp hx]
      exact ⟨tr, s', h, hs⟩

/-- With one initial state, the actions of a run determine it. -/
theorem Run.unique (hinit : ∀ s s', A.init s → A.init s' → s = s') {tr tr' : List (σ × α)}
    {s s' : σ} (h : A.Run tr s) (h' : A.Run tr' s')
    (hacts : tr.map Prod.snd = tr'.map Prod.snd) : tr = tr' ∧ s = s' := by
  induction h generalizing tr' s' with
  | init hs =>
    cases h' with
    | init hs' => exact ⟨rfl, hinit _ _ hs hs'⟩
    | step _ _ => simp at hacts
  | @step tr s s₁ a h hs ih =>
    cases h' with
    | init _ => simp at hacts
    | @step tr' t t₁ b h' hs' =>
      rw [List.map_append, List.map_append] at hacts
      obtain ⟨hacts, hlast⟩ := List.append_inj' hacts rfl
      obtain ⟨rfl, rfl⟩ := ih h' hacts
      obtain rfl : a = b := by simpa using hlast
      exact ⟨rfl, Option.some.inj (hs.symm.trans hs')⟩

/-! ### Simulation -/

/-- If each step of a system is matched by a step of another one, or leaves the state it stands
for as it is, then so are the runs. -/
theorem Run.simulates {τ β : Type*} {B : Lts τ β} (f : σ → τ) (e : σ → α → Option β)
    (hinit : ∀ s, A.init s → B.init (f s))
    (hstep : ∀ s a s', A.step s a = some s' →
      match e s a with
      | some b => B.step (f s) b = some (f s')
      | none   => f s' = f s)
    {tr : List (σ × α)} {s : σ} (h : A.Run tr s) :
    B.Run (tr.filterMap fun x => (e x.1 x.2).map (Prod.mk (f x.1))) (f s) := by
  induction h with
  | init h => exact .init (hinit _ h)
  | @step tr s s' a h hs ih =>
    have hm := hstep s a s' hs
    rw [List.filterMap_append]
    cases he : e s a with
    | none =>
      rw [he] at hm
      rw [show f s' = f s from hm]
      simpa [he] using ih
    | some b =>
      rw [he] at hm
      simpa [he] using ih.step hm

/-- Replay a list of actions, collecting the trace. -/
def replay (A : Lts σ α) (s : σ) : List α → Option (List (σ × α) × σ)
  | [] => some ([], s)
  | a :: as =>
    match A.step s a with
    | none => none
    | some s' => (A.replay s' as).map fun r => ((s, a) :: r.1, r.2)

lemma Run.append_replay {tr : List (σ × α)} {s : σ} (h : A.Run tr s) {as : List α}
    {tr' : List (σ × α)} {s' : σ} (hr : A.replay s as = some (tr', s')) :
    A.Run (tr ++ tr') s' := by
  induction as generalizing tr s tr' with
  | nil =>
    simp only [replay, Option.some.injEq, Prod.mk.injEq] at hr
    obtain ⟨rfl, rfl⟩ := hr
    simpa using h
  | cons a as ih =>
    rw [replay] at hr
    split at hr
    · simp at hr
    · next s₁ hs =>
      simp only [Option.map_eq_some_iff, Prod.exists, Prod.mk.injEq] at hr
      obtain ⟨tr₁, s₂, hr₁, rfl, rfl⟩ := hr
      simpa using ih (h.step hs) hr₁

lemma replay_cons {s s' : σ} {a : α} {as : List α} {tr : List (σ × α)}
    (h : A.replay s (a :: as) = some (tr, s')) :
    ∃ s₁ tr₁, A.step s a = some s₁ ∧ A.replay s₁ as = some (tr₁, s') ∧ tr = (s, a) :: tr₁ := by
  rw [replay] at h
  split at h
  · cases h
  · next s₁ hs =>
    obtain ⟨⟨tr₁, s₂⟩, hr, he⟩ := Option.map_eq_some_iff.mp h
    cases he
    exact ⟨s₁, tr₁, hs, hr, rfl⟩

/-- The steps of a replay are those of the list. -/
lemma map_snd_of_replay {s s' : σ} {as : List α} {tr : List (σ × α)}
    (h : A.replay s as = some (tr, s')) : tr.map Prod.snd = as := by
  induction as generalizing s tr with
  | nil =>
    cases h
    rfl
  | cons a as ih =>
    obtain ⟨s₁, tr₁, -, hr, rfl⟩ := replay_cons h
    rw [List.map_cons, ih hr]

/-- What holds of a state and is kept by every step holds of all states of a replay. -/
theorem replay_invariant {I : σ → Prop} (hstep : ∀ s a s', I s → A.step s a = some s' → I s')
    {s s' : σ} {as : List α} {tr : List (σ × α)} (hI : I s)
    (h : A.replay s as = some (tr, s')) : ∀ x ∈ tr, I x.1 := by
  induction as generalizing s tr with
  | nil =>
    cases h
    simp
  | cons a as ih =>
    obtain ⟨s₁, tr₁, hs, hr, rfl⟩ := replay_cons h
    intro x hx
    rcases List.mem_cons.mp hx with rfl | hx
    · exact hI
    · exact ih (hstep s a s₁ hI hs) hr x hx

/-- A successful replay from an initial state is a run. -/
theorem Run.of_replay {s s' : σ} {as : List α} {tr : List (σ × α)} (h : A.init s)
    (hr : A.replay s as = some (tr, s')) : A.Run tr s' := by
  simpa using (Run.init h).append_replay hr

/-! ### Two runs side by side -/

/-- What an observer, whom `obs` shows a part of each step, sees of a replay. -/
def observe {β : Type*} (A : Lts σ α) (obs : σ → α → Option β) (s : σ) (as : List α) :
    Option (List β) :=
  (A.replay s as).map fun r => r.1.filterMap fun x => obs x.1 x.2

@[simp] lemma observe_nil {β : Type*} (obs : σ → α → Option β) (s : σ) :
    A.observe obs s [] = some [] := rfl

lemma observe_cons {β : Type*} (obs : σ → α → Option β) (s : σ) (a : α) (as : List α) :
    A.observe obs s (a :: as) =
      (A.step s a).bind fun s' => (A.observe obs s' as).map ((obs s a).toList ++ ·) := by
  rw [observe, replay]
  cases A.step s a with
  | none => rfl
  | some s' =>
    rw [Option.bind_some, observe, Option.map_map, Option.map_map]
    apply congrArg (fun f => (A.replay s' as).map f)
    funext r
    cases h : obs s a <;> simp [h]

/-- Two states from which an action leads to states of the same kind, and shows the same, look
alike in all that follows. -/
theorem observe_eq_of_rel {τ β : Type*} {B : Lts τ α} {R : σ → τ → Prop}
    {obs : σ → α → Option β} {obs' : τ → α → Option β}
    (hstep : ∀ s t a, R s t → Option.Rel R (A.step s a) (B.step t a))
    (hobs : ∀ s t a, R s t → obs s a = obs' t a) {s : σ} {t : τ} (h : R s t) (as : List α) :
    A.observe obs s as = B.observe obs' t as := by
  induction as generalizing s t with
  | nil => rfl
  | cons a as ih =>
    rw [observe_cons, observe_cons, hobs s t a h]
    have hrel := hstep s t a h
    generalize A.step s a = x at hrel
    generalize B.step t a = y at hrel
    cases hrel with
    | none => rfl
    | some h' => simp only [Option.bind_some, ih h']

end Lts

end Core
