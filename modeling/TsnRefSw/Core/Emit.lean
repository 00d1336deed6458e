import Mathlib.Control.Monad.Writer

/-!
# Programs that write

A program that never reads what it writes: it emits a list of effects and returns a value or stops
with an error. What was emitted before the error stays emitted.
-/

namespace Core

/-- A program with effects `ω`, errors `ε` and results `α`. -/
abbrev Emit (ω ε α : Type) := ExceptT ε (Writer (List ω)) α

variable {ω ε α β : Type}

/-- A computation in two parts returns if both parts do. -/
lemma bind_eq_ok_iff {e : Except ε α} {f : α → Except ε β} {b : β} :
    (e >>= f) = .ok b ↔ ∃ a, e = .ok a ∧ f a = .ok b := by
  cases e with
  | ok a =>
    constructor
    · intro h
      exact ⟨a, rfl, h⟩
    · rintro ⟨_, ⟨rfl⟩, h⟩
      exact h
  | error x =>
    constructor
    · rintro ⟨⟩
    · rintro ⟨_, ⟨⟩, _⟩

lemma map_eq_ok_iff {e : Except ε α} {f : α → β} {b : β} :
    f <$> e = .ok b ↔ ∃ a, e = .ok a ∧ f a = b := by
  cases e with
  | ok a =>
    constructor
    · intro h
      exact ⟨a, rfl, Except.ok.inj h⟩
    · rintro ⟨_, ⟨rfl⟩, rfl⟩
      rfl
  | error x =>
    constructor
    · rintro ⟨⟩
    · rintro ⟨_, ⟨⟩, _⟩

lemma pure_eq_ok_iff {a b : α} : (pure a : Except ε α) = .ok b ↔ a = b :=
  ⟨Except.ok.inj, congrArg Except.ok⟩

lemma toOption_eq_some_iff {e : Except ε α} {a : α} : e.toOption = some a ↔ e = .ok a := by
  cases e <;> simp [Except.toOption]

namespace Emit

/-- The result of a program, and what it emitted. -/
def outcome (p : Emit ω ε α) : Except ε α × List ω := (p.run.run : Id _)

/-- A single effect. -/
def tell (w : ω) : Emit ω ε Unit := ExceptT.mk (WriterT.mk (pure (.ok (), [w])))

/-- A computation without effects. -/
def lift (e : Except ε α) : Emit ω ε α := ExceptT.mk (pure e)

@[simp] lemma outcome_tell (w : ω) : (tell w : Emit ω ε Unit).outcome = (.ok (), [w]) := rfl

@[simp] lemma outcome_lift (e : Except ε α) : (lift e : Emit ω ε α).outcome = (e, []) := rfl

@[simp] lemma outcome_pure (a : α) : (pure a : Emit ω ε α).outcome = (.ok a, []) := rfl

/-- What comes after a result: nothing after an error. -/
def next (f : α → Emit ω ε β) : Except ε α → Emit ω ε β
  | .ok a    => f a
  | .error e => lift (.error e)

/-- The effects of the first part come first, whether the rest is reached or not. -/
lemma outcome_bind (p : Emit ω ε α) (f : α → Emit ω ε β) :
    (p >>= f).outcome =
      ((next f p.outcome.1).outcome.1, p.outcome.2 ++ (next f p.outcome.1).outcome.2) := by
  let rest : Emit ω ε β := ExceptT.mk (ExceptT.bindCont f p.outcome.1)
  have hbind : (p >>= f).outcome = (rest.outcome.1, p.outcome.2 ++ rest.outcome.2) := rfl
  rw [hbind]
  simp only [rest]
  cases p.outcome.1 with
  | ok a => rfl
  | error e => rfl

lemma outcome_bind_of_error {p : Emit ω ε α} {x : ε} {ws : List ω}
    (h : p.outcome = (.error x, ws)) (f : α → Emit ω ε β) :
    (p >>= f).outcome = (.error x, ws) := by
  rw [outcome_bind, h]
  exact congrArg (Prod.mk _) (List.append_nil ws)

lemma outcome_bind_of_ok {p : Emit ω ε α} {a : α} {ws : List ω} (h : p.outcome = (.ok a, ws))
    (f : α → Emit ω ε β) :
    (p >>= f).outcome = ((f a).outcome.1, ws ++ (f a).outcome.2) := by
  rw [outcome_bind, h]
  rfl

lemma outcome_bind_congr {p q : Emit ω ε α} (h : p.outcome = q.outcome) (f : α → Emit ω ε β) :
    (p >>= f).outcome = (q >>= f).outcome := by
  rw [outcome_bind, outcome_bind, h]

/-- A program in two parts that returns. -/
lemma outcome_bind_eq_ok_iff {p : Emit ω ε α} {f : α → Emit ω ε β} {b : β} {ws : List ω} :
    (p >>= f).outcome = (.ok b, ws) ↔ ∃ a ws₁ ws₂, p.outcome = (.ok a, ws₁) ∧
      (f a).outcome = (.ok b, ws₂) ∧ ws = ws₁ ++ ws₂ := by
  rcases hp : p.outcome with ⟨x | a, ws₁⟩
  · rw [outcome_bind_of_error hp]
    constructor
    · rintro ⟨⟩
    · rintro ⟨_, _, _, ⟨⟩, _⟩
  · rw [outcome_bind_of_ok hp]
    constructor
    · intro h
      obtain ⟨hres, rfl⟩ := Prod.mk.inj h
      exact ⟨a, ws₁, _, rfl, Prod.ext hres rfl, rfl⟩
    · rintro ⟨_, _, ws₂, ⟨rfl, rfl⟩, hf, rfl⟩
      rw [hf]

/-- A computation without effects, and what comes after its result. -/
lemma outcome_lift_bind_eq_ok_iff {e : Except ε α} {f : α → Emit ω ε β} {b : β} {ws : List ω} :
    (lift e >>= f).outcome = (.ok b, ws) ↔ ∃ a, e = .ok a ∧ (f a).outcome = (.ok b, ws) := by
  cases e with
  | ok a =>
    rw [outcome_bind_of_ok (outcome_lift _)]
    constructor
    · intro h
      exact ⟨a, rfl, h⟩
    · rintro ⟨_, ⟨rfl⟩, h⟩
      exact h
  | error x =>
    rw [outcome_bind_of_error (outcome_lift _)]
    constructor
    · rintro ⟨⟩
    · rintro ⟨_, ⟨⟩, _⟩

lemma outcome_tell_eq_ok_iff {w : ω} {u : Unit} {ws : List ω} :
    (tell w : Emit ω ε Unit).outcome = (.ok u, ws) ↔ ws = [w] := by
  rw [outcome_tell, Prod.mk.injEq, and_iff_right rfl, eq_comm]

/-- An effect, and what comes after it. -/
lemma outcome_tell_bind_eq_ok_iff {w : ω} {f : Unit → Emit ω ε β} {b : β} {ws : List ω} :
    (tell w >>= f).outcome = (.ok b, ws) ↔
      ∃ rest, (f ()).outcome = (.ok b, rest) ∧ ws = w :: rest := by
  rw [outcome_bind_of_ok (outcome_tell w)]
  constructor
  · intro h
    obtain ⟨hres, rfl⟩ := Prod.mk.inj h
    exact ⟨_, Prod.ext hres rfl, rfl⟩
  · rintro ⟨rest, hrest, rfl⟩
    rw [hrest]
    rfl

/-- A loop returns if every round does, and then emits what the rounds emit, where it is known of
the single rounds when they return and what they emit. -/
lemma outcome_forM_eq_ok_iff {σ : Type} {f : α → Emit ω ε Unit} {spec : α → Option σ}
    {effects : σ → List ω}
    (hf : ∀ a ws, (f a).outcome = (.ok (), ws) ↔ ∃ s, spec a = some s ∧ ws = effects s)
    {as : List α} {ws : List ω} :
    (as.forM f).outcome = (.ok (), ws) ↔
      ∃ ss, as.mapM spec = some ss ∧ ws = ss.flatMap effects := by
  induction as generalizing ws with
  | nil =>
    constructor
    · rintro ⟨⟩
      exact ⟨[], rfl, rfl⟩
    · rintro ⟨_, ⟨⟩, rfl⟩
      rfl
  | cons a as ih =>
    rw [List.forM_eq_forM, List.forM_cons, ← List.forM_eq_forM]
    simp only [outcome_bind_eq_ok_iff, hf, ih, List.mapM_cons, Option.bind_eq_bind,
      Option.bind_eq_some_iff, Option.pure_def, Option.some.injEq]
    constructor
    · rintro ⟨_, _, _, ⟨s, hs, rfl⟩, ⟨ss, hss, rfl⟩, rfl⟩
      exact ⟨s :: ss, ⟨s, hs, ss, hss, rfl⟩, rfl⟩
    · rintro ⟨_, ⟨s, hs, ss, hss, rfl⟩, rfl⟩
      exact ⟨(), _, _, ⟨s, hs, rfl⟩, ⟨ss, hss, rfl⟩, rfl⟩

/-- A loop that stops keeps the effects of the rounds before, and those of the last round. -/
lemma outcome_forM_of_error {f : α → Emit ω ε Unit} {as : List α} {a : α} {x : ε}
    {ws ws' : List ω} (has : (as.forM f).outcome = (.ok (), ws))
    (ha : (f a).outcome = (.error x, ws')) (bs : List α) :
    ((as ++ a :: bs).forM f).outcome = (.error x, ws ++ ws') := by
  induction as generalizing ws with
  | nil =>
    have hpure : (pure () : Emit ω ε Unit).outcome = (.ok (), ws) := has
    obtain rfl : [] = ws := congrArg Prod.snd hpure
    rw [List.nil_append, List.forM_eq_forM, List.forM_cons]
    exact outcome_bind_of_error ha _
  | cons b as ih =>
    rw [List.forM_eq_forM, List.forM_cons, ← List.forM_eq_forM] at has
    obtain ⟨_, ws₁, ws₂, hb, hrest, rfl⟩ := outcome_bind_eq_ok_iff.mp has
    rw [List.cons_append, List.forM_eq_forM, List.forM_cons, ← List.forM_eq_forM,
      outcome_bind_of_ok hb, ih hrest, List.append_assoc]

/-! ### Before the first effect -/

/-- The program stops with an error before its first effect. -/
def Refuses (p : Emit ω ε α) : Prop := ∃ x, p.outcome = (.error x, [])

/-- The program returns without an effect. -/
def Passes (p : Emit ω ε α) (a : α) : Prop := p.outcome = (.ok a, [])

/-- The program has an effect, whether it returns or not. -/
def Acts (p : Emit ω ε α) : Prop := p.outcome.2 ≠ []

section Refuses

variable {p q : Emit ω ε α} {f : α → Emit ω ε β} {a : α}

lemma refuses_iff : Refuses p ↔ (∃ x, p.outcome.1 = .error x) ∧ p.outcome.2 = [] := by
  constructor
  · rintro ⟨x, hx⟩
    rw [hx]
    exact ⟨⟨x, rfl⟩, rfl⟩
  · rintro ⟨⟨x, hx⟩, hnil⟩
    exact ⟨x, Prod.ext hx hnil⟩

lemma Acts.not_refuses (h : Acts p) : ¬ Refuses p := by
  rintro ⟨x, hx⟩
  exact h (congrArg Prod.snd hx)

lemma Passes.not_refuses (h : Passes p a) : ¬ Refuses p := by
  rintro ⟨x, hx⟩
  cases h.symm.trans hx

lemma refuses_congr (h : p.outcome = q.outcome) : Refuses p ↔ Refuses q := by
  rw [Refuses, Refuses, h]

lemma Refuses.bind (h : Refuses p) (f : α → Emit ω ε β) : Refuses (p >>= f) := by
  obtain ⟨x, hx⟩ := h
  exact ⟨x, outcome_bind_of_error hx f⟩

/-- Whatever an idle program returns, the rest refuses. -/
lemma refuses_bind_of_idle (h : p.outcome.2 = []) (hf : ∀ a, Refuses (f a)) :
    Refuses (p >>= f) := by
  rcases hp : p.outcome with ⟨x | a, ws⟩
  · obtain rfl : ws = [] := by rw [← h, hp]
    exact Refuses.bind ⟨x, hp⟩ f
  · obtain rfl : ws = [] := by rw [← h, hp]
    obtain ⟨x, hx⟩ := hf a
    exact ⟨x, (outcome_bind_of_ok hp f).trans hx⟩

lemma Acts.bind (h : Acts p) (f : α → Emit ω ε β) : Acts (p >>= f) := by
  rw [Acts, outcome_bind]
  intro hnil
  exact h (List.append_eq_nil_iff.mp hnil).1

/-- A program that passes leaves all to the rest. -/
lemma Passes.outcome_bind (h : Passes p a) (f : α → Emit ω ε β) :
    (p >>= f).outcome = (f a).outcome :=
  outcome_bind_of_ok h f

lemma passes_lift (a : α) : Passes (lift (.ok a) : Emit ω ε α) a := rfl

lemma refuses_lift (x : ε) : Refuses (lift (.error x) : Emit ω ε α) := ⟨x, rfl⟩

lemma passes_pure (a : α) : Passes (pure a : Emit ω ε α) a := rfl

end Refuses

end Emit

end Core
