import Mathlib.Data.List.Nodup

/-!
# Arrays that are filled entry by entry

An array starts with blank entries. While it is filled, one entry is being worked on and all
behind it are still blank. What the entries hold together changes as that one entry does.
-/

namespace Core

variable {α β : Type*}

/-- Of `n` entries, entry `i` is as `p` says, and those behind it are `blank`. -/
structure Filling (blank : α) (n i : Nat) (p : α → Prop) (l : List α) : Prop where
  length : l.length = n
  here : ∀ a, l[i]? = some a → p a
  behind : ∀ k a, i < k → l[k]? = some a → a = blank

namespace Filling

variable {blank : α} {n i : Nat} {p q : α → Prop} {l : List α}

lemma replicate (blank : α) (n : Nat) :
    Filling blank n 0 (· = blank) (List.replicate n blank) where
  length := List.length_replicate
  here _ h := List.eq_of_mem_replicate (List.mem_of_getElem? h)
  behind _ _ _ h := List.eq_of_mem_replicate (List.mem_of_getElem? h)

/-- The entry worked on is there. -/
lemma exists_here (h : Filling blank n i p l) (hi : i < n) : ∃ a, l[i]? = some a ∧ p a := by
  have hl : i < l.length := h.length ▸ hi
  have ha : l[i]? = some l[i] := List.getElem?_eq_getElem hl
  exact ⟨l[i], ha, h.here _ ha⟩

lemma set (h : Filling blank n i p l) {b : α} (hb : q b) : Filling blank n i q (l.set i b) where
  length := by rw [List.length_set, h.length]
  here a ha := by
    rw [List.getElem?_set_self'] at ha
    obtain ⟨_, -, rfl⟩ := Option.map_eq_some_iff.mp ha
    exact hb
  behind k a hk ha := by
    rw [List.getElem?_set_ne (Nat.ne_of_lt hk)] at ha
    exact h.behind k a hk ha

lemma next (h : Filling blank n i p l) : Filling blank n (i + 1) (· = blank) l where
  length := h.length
  here a ha := h.behind (i + 1) a (Nat.lt_succ_self i) ha
  behind k a hk ha := h.behind k a (Nat.lt_of_succ_lt hk) ha

end Filling

/-- Where one entry is exchanged, what all of them hold changes as that entry. -/
lemma perm_flatMap_set [DecidableEq β] {f : α → List β} {l : List α} {i : Nat} {a b : α}
    (h : l[i]? = some a) {rs rs' : List β} (hp : (f a ++ rs).Perm (f b ++ rs')) :
    (l.flatMap f ++ rs).Perm ((l.set i b).flatMap f ++ rs') := by
  obtain ⟨hi, rfl⟩ := List.getElem?_eq_some_iff.mp h
  have hl : l = l.take i ++ l[i] :: l.drop (i + 1) := by
    rw [List.getElem_cons_drop, List.take_append_drop]
  have hset : l.set i b = l.take i ++ b :: l.drop (i + 1) := by
    rw [List.set_eq_take_append_cons_drop, if_pos hi]
  rw [hset]
  conv_lhs => rw [hl]
  rw [List.perm_iff_count] at hp ⊢
  intro r
  have hr := hp r
  simp only [List.flatMap_append, List.flatMap_cons, List.count_append] at hr ⊢
  omega

/-- Blank entries hold nothing. -/
lemma flatMap_replicate_eq_nil {f : α → List β} {a : α} (h : f a = []) (n : Nat) :
    (List.replicate n a).flatMap f = [] := by
  rw [List.flatMap_eq_nil_iff]
  intro b hb
  rw [List.eq_of_mem_replicate hb, h]

/-- The entries one by one. -/
lemma flatMap_range (f : α → List β) (l : List α) :
    (List.range l.length).flatMap (fun i => (l[i]?.map f).getD []) = l.flatMap f := by
  induction l with
  | nil => rfl
  | cons a l ih =>
    rw [List.length_cons, List.range_succ_eq_map, List.flatMap_cons, List.flatMap_map,
      List.flatMap_cons, ← ih]
    rfl

end Core
