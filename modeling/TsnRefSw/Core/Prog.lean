import Mathlib.Logic.Basic

/-!
# Programs that may stop early

A program works on a state and either returns a value or stops with an error; what it did to the
state up to then stays done. A triple says what holds of the state when it returns and when it
stops.
-/

namespace Core

/-- A program with states `σ`, errors `ε` and results `α`. -/
abbrev Prog (σ ε α : Type) := ExceptT ε (StateM σ) α

namespace Prog

variable {σ ε α β : Type}

/-- The outcome of a program that starts in `s`. -/
def exec (p : Prog σ ε α) (s : σ) : Except ε α × σ := p.run.run s

/-- A computation that does not look at the state. -/
def lift (e : Except ε α) : Prog σ ε α := ExceptT.mk (pure e)

/-- A step that changes the state and reports something about it. -/
def act (f : σ → α × σ) : Prog σ ε α := ExceptT.mk fun s => (.ok (f s).1, (f s).2)

/-- A change of the state. -/
def update (f : σ → σ) : Prog σ ε Unit := act fun s => ((), f s)

lemma exec_bind (p : Prog σ ε α) (f : α → Prog σ ε β) (s : σ) :
    exec (p >>= f) s = match p.exec s with
      | (.ok a, s')    => (f a).exec s'
      | (.error e, s') => (.error e, s') := by
  show (ExceptT.bindCont f (p.exec s).1).run (p.exec s).2 = _
  rcases p.exec s with ⟨e | a, s'⟩
  · rfl
  · rfl

/-! ### Triples -/

/-- From a state with `P`, the program returns some `a` in a state with `Q a`, or it stops with
some `e` in a state with `E e`. -/
def Triple (P : σ → Prop) (p : Prog σ ε α) (Q : α → σ → Prop) (E : ε → σ → Prop) : Prop :=
  ∀ s, P s → match p.exec s with
    | (.ok a, s')    => Q a s'
    | (.error e, s') => E e s'

namespace Triple

variable {P : σ → Prop} {Q : α → σ → Prop} {E : ε → σ → Prop} {R : β → σ → Prop}

lemma pure {a : α} (h : ∀ s, P s → Q a s) : Triple P (pure a : Prog σ ε α) Q E := h

lemma act {f : σ → α × σ} (h : ∀ s, P s → Q (f s).1 (f s).2) :
    Triple P (Prog.act f : Prog σ ε α) Q E := h

lemma update {f : σ → σ} {Q : Unit → σ → Prop} (h : ∀ s, P s → Q () (f s)) :
    Triple P (Prog.update f : Prog σ ε Unit) Q E := h

lemma consequence {P' : σ → Prop} {Q' : α → σ → Prop} {p : Prog σ ε α} (h : Triple P p Q E)
    (hP : ∀ s, P' s → P s) (hQ : ∀ a s, Q a s → Q' a s) : Triple P' p Q' E := by
  intro s hs
  have hp := h s (hP s hs)
  split at hp
  · exact hQ _ _ hp
  · exact hp

/-- What does not look at the state leaves it as it is. -/
lemma lift {e : Except ε α} (hok : ∀ s a, e = .ok a → P s → Q a s)
    (herror : ∀ s e', e = .error e' → P s → E e' s) : Triple P (Prog.lift e) Q E := by
  intro s hP
  cases e with
  | error e => exact herror s e rfl hP
  | ok a => exact hok s a rfl hP

lemma stop {x : ε} (h : ∀ s, P s → E x s) : Triple P (Prog.lift (throw x)) Q E := h

lemma bind {p : Prog σ ε α} {f : α → Prog σ ε β} (hp : Triple P p Q E)
    (hf : ∀ a, Triple (Q a) (f a) R E) : Triple P (p >>= f) R E := by
  intro s hP
  rw [exec_bind]
  have hs := hp s hP
  split at hs
  · next a s' hexec => exact hf a s' hs
  · next e s' hexec => exact hs

/-- A computation before the rest of a program. -/
lemma lift_bind {e : Except ε α} {f : α → Prog σ ε β}
    (herror : ∀ s e', e = .error e' → P s → E e' s) (hf : ∀ a, Triple P (f a) R E) :
    Triple P (Prog.lift e >>= f) R E :=
  bind (Q := fun _ => P) (lift (fun _ _ _ h => h) herror) hf

/-- What comes after an error does not matter. -/
lemma stop_bind {x : ε} {f : α → Prog σ ε β} (h : ∀ s, P s → E x s) :
    Triple P (Prog.lift (throw x) >>= f) R E := h

end Triple

/-! ### Results that do not depend on the state -/

/-- Wherever it starts, the program returns what `e` is, or stops with an error in `F`. -/
def Computes (F : ε → Prop) (p : Prog σ ε α) (e : Except ε α) : Prop :=
  ∀ s, (p.exec s).1 = e ∨ ∃ x, F x ∧ (p.exec s).1 = .error x

namespace Computes

variable {F : ε → Prop}

lemma pure (a : α) : Computes F (pure a : Prog σ ε α) (pure a) := fun _ => .inl rfl

lemma lift (e : Except ε α) : Computes F (Prog.lift e : Prog σ ε α) e := fun _ => .inl rfl

/-- A program that stops with an error in `F` need not look at anything else. -/
lemma stop_bind {x : ε} {f : α → Prog σ ε β} {e : Except ε β} (hx : F x) :
    Computes F (Prog.lift (throw x) >>= f) e :=
  fun _ => .inr ⟨x, hx, rfl⟩

lemma bind {p : Prog σ ε α} {e : Except ε α} {f : α → Prog σ ε β} {g : α → Except ε β}
    (hp : Computes F p e) (hf : ∀ a, Computes F (f a) (g a)) :
    Computes F (p >>= f) (e >>= g) := by
  intro s
  rw [exec_bind]
  have hs := hp s
  rcases hexec : p.exec s with ⟨e' | a, s'⟩
  · rw [hexec] at hs
    obtain rfl | ⟨x, hx, he⟩ := hs
    · exact .inl rfl
    · exact .inr ⟨x, hx, congrArg _ (Except.error.inj he)⟩
  · rw [hexec] at hs
    obtain rfl | ⟨x, hx, he⟩ := hs
    · exact hf a s'
    · cases he

/-- What a step reports does not matter to the result. -/
lemma act_bind {f : σ → α × σ} {g : α → Prog σ ε β} {e : Except ε β}
    (hg : ∀ a, Computes F (g a) e) : Computes F (Prog.act f >>= g) e :=
  fun s => hg (f s).1 (f s).2

end Computes

end Prog

end Core
