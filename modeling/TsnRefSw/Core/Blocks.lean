import Mathlib.Data.List.Basic

/-!
# Streams of blocks of one length

A stream that is the concatenation of blocks of length `n`: dropping `n * q + r` elements
leaves the blocks from the `q`-th on, less the first `r` elements.
-/

namespace Core

variable {α : Type*} {L : List (List α)} {n : Nat}

/-- All blocks have length `n`. -/
def Uniform (n : Nat) (L : List (List α)) : Prop := ∀ b ∈ L, b.length = n

lemma Uniform.tail {b : List α} (h : Uniform n (b :: L)) : Uniform n L :=
  fun c hc => h c (List.mem_cons_of_mem _ hc)

lemma Uniform.length_flatten (h : Uniform n L) : L.flatten.length = n * L.length := by
  induction L with
  | nil => simp
  | cons b L ih =>
    rw [List.flatten_cons, List.length_append, ih h.tail, h b (List.mem_cons_self ..),
      List.length_cons, Nat.mul_succ, Nat.add_comm]

lemma Uniform.drop_flatten (h : Uniform n L) (q : Nat) :
    L.flatten.drop (n * q) = (L.drop q).flatten := by
  induction L generalizing q with
  | nil => simp
  | cons b L ih =>
    cases q with
    | zero => simp
    | succ q =>
      have hb : b.length = n := h b (List.mem_cons_self ..)
      rw [List.flatten_cons, List.drop_succ_cons, ← ih h.tail q, Nat.mul_succ, Nat.add_comm,
        ← List.drop_drop, ← hb, List.drop_left]

end Core
