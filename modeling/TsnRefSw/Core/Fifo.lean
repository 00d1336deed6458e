import Mathlib.Data.List.Basic

/-!
# Bounded queues

A queue of at most `cap` elements: sending fails when the queue is full, receiving when it is
empty.
-/

namespace Core

/-- A first-in first-out queue of at most `cap` elements, oldest first. -/
structure Fifo (α : Type*) (cap : Nat) where
  items : List α
  length_le : items.length ≤ cap

namespace Fifo

variable {α : Type*} {cap : Nat}

def empty : Fifo α cap := ⟨[], Nat.zero_le _⟩

/-- The queue with `a` behind the others, if there is room. -/
def send (q : Fifo α cap) (a : α) : Option (Fifo α cap) :=
  if h : q.items.length < cap then some ⟨q.items ++ [a], by
    rwa [List.length_append, List.length_singleton]⟩ else none

/-- The oldest element and the queue without it. -/
def receive (q : Fifo α cap) : Option (α × Fifo α cap) :=
  match h : q.items with
  | []     => none
  | a :: l => some (a, ⟨l, by have := q.length_le; simp only [h, List.length_cons] at this; omega⟩)

lemma items_of_send {q q' : Fifo α cap} {a : α} (h : q.send a = some q') :
    q'.items = q.items ++ [a] := by
  unfold send at h
  split_ifs at h
  cases h
  rfl

lemma send_eq_none {q : Fifo α cap} {a : α} : q.send a = none ↔ cap ≤ q.items.length := by
  unfold send
  split_ifs with h
  · simpa using h
  · simpa using h

lemma items_of_receive {q q' : Fifo α cap} {a : α} (h : q.receive = some (a, q')) :
    q.items = a :: q'.items := by
  unfold receive at h
  split at h
  · cases h
  · next hq =>
    cases h
    exact hq

lemma receive_eq_none {q : Fifo α cap} : q.receive = none ↔ q.items = [] := by
  unfold receive
  split
  · next h => simp [h]
  · next h => simp [h]

end Fifo

end Core
