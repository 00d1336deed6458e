import TsnRefSw.Core.Lts

/-!
# Lossy queues

Messages arrive in the order they were sent, but some may be lost on the way. What was received
is then a part of what was sent; if nothing was lost, what is on the way makes up the rest.
-/

namespace Core

namespace Lossy

variable {α : Type*}

inductive Act (α : Type*) where
  | send (a : α)
  /-- The oldest message arrives. -/
  | receive (a : α)
  /-- The `i`-th message, counted from the oldest, is lost. -/
  | lose (i : Nat)
deriving DecidableEq

def step [DecidableEq α] (q : List α) : Act α → Option (List α)
  | .send a    => some (q ++ [a])
  | .receive a => if q.head? = some a then some q.tail else none
  | .lose i    => if i < q.length then some (q.eraseIdx i) else none

/-- A queue that is empty at first. -/
def lts (α : Type*) [DecidableEq α] : Lts (List α) (Act α) where
  init q := q = []
  step := step

/-- The messages sent, in order. -/
def sent (acts : List (Act α)) : List α :=
  acts.filterMap fun
    | .send a => some a
    | _       => none

/-- The messages received, in order. -/
def received (acts : List (Act α)) : List α :=
  acts.filterMap fun
    | .receive a => some a
    | _          => none

variable [DecidableEq α] {q q' : List α} {tr : List (List α × Act α)}

/-- The queue grows at its end, loses its head, or loses something. -/
lemma step_cases {a : Act α} (h : (lts α).step q a = some q') :
    (∃ m, a = .send m ∧ q' = q ++ [m]) ∨ (∃ m, a = .receive m ∧ q = m :: q') ∨
      (∃ i, a = .lose i ∧ q' = q.eraseIdx i) := by
  replace h : step q a = some q' := h
  cases a with
  | send m => exact .inl ⟨m, rfl, (Option.some.inj h).symm⟩
  | receive m =>
    obtain ⟨hm, rfl⟩ := of_guard h
    exact .inr (.inl ⟨m, rfl, (List.cons_head?_tail hm).symm⟩)
  | lose i =>
    obtain ⟨-, rfl⟩ := of_guard h
    exact .inr (.inr ⟨i, rfl, rfl⟩)

/-- What was received and what is on the way was sent, in this order. -/
theorem received_append_sublist (h : (lts α).Run tr q) :
    (received (tr.map Prod.snd) ++ q).Sublist (sent (tr.map Prod.snd)) := by
  induction h with
  | init h =>
    obtain rfl : _ = [] := h
    exact List.Sublist.refl _
  | @step tr q q' a h hs ih =>
    rw [List.map_append, received, sent, List.filterMap_append, List.filterMap_append]
    obtain ⟨m, rfl, rfl⟩ | ⟨m, rfl, rfl⟩ | ⟨i, rfl, rfl⟩ := step_cases hs
    · have hgrown := ih.append (List.Sublist.refl [m])
      simpa [received, sent] using hgrown
    · simpa [received, sent] using ih
    · have hless := ((List.Sublist.refl (received (tr.map Prod.snd))).append
        (List.eraseIdx_sublist q i)).trans ih
      simpa [received, sent] using hless

/-- The number of messages lost. -/
def losses (acts : List (Act α)) : Nat :=
  acts.countP fun
    | .lose _ => true
    | _       => false

/-- A message that was sent was received, is on the way, or was lost. -/
theorem length_sent (h : (lts α).Run tr q) :
    (sent (tr.map Prod.snd)).length =
      (received (tr.map Prod.snd)).length + q.length + losses (tr.map Prod.snd) := by
  induction h with
  | init h =>
    obtain rfl : _ = [] := h
    rfl
  | @step tr q q' a h hs ih =>
    rw [List.map_append, received, sent, losses, List.filterMap_append, List.filterMap_append,
      List.countP_append, List.length_append, List.length_append, ← received, ← sent, ← losses, ih]
    cases a with
    | send m =>
      obtain rfl := Option.some.inj hs
      simp
      omega
    | receive m =>
      obtain ⟨hm, rfl⟩ := of_guard hs
      obtain ⟨l, rfl⟩ : ∃ l, q = m :: l := ⟨_, (List.cons_head?_tail hm).symm⟩
      simp
      omega
    | lose i =>
      obtain ⟨hi, rfl⟩ := of_guard hs
      have herase := List.length_eraseIdx_add_one hi
      simp
      omega

end Lossy

end Core
