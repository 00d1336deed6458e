import Mathlib.Algebra.Order.Ring.Int
import Mathlib.Logic.Function.Iterate
import Mathlib.Tactic.Ring

/-!
# Points in time and periodic counters

A point in time is given by seconds and nanoseconds, which are proper if the nanoseconds are
less than a second. A periodic counter of limited width advances by a fixed interval and wraps
around at its end.
-/

namespace Core

/-- The nanoseconds of a second. -/
abbrev nsecPerSec : Nat := 10 ^ 9

/-- `struct timespec`. -/
structure Timespec where
  tvSec : Int
  tvNsec : Int
deriving DecidableEq, Repr

namespace Timespec

/-- The nanoseconds since the epoch. -/
def ns (t : Timespec) : Int := t.tvSec * nsecPerSec + t.tvNsec

/-- The nanoseconds are less than a second. -/
def Proper (t : Timespec) : Prop := 0 ≤ t.tvNsec ∧ t.tvNsec < nsecPerSec

/-- The point in time `n` nanoseconds after the epoch. -/
def ofNs (n : Nat) : Timespec := ⟨(n / nsecPerSec : Nat), (n % nsecPerSec : Nat)⟩

@[simp] lemma ns_ofNs (n : Nat) : (ofNs n).ns = n := by
  show ((n / nsecPerSec : Nat) : Int) * (nsecPerSec : Nat) + (n % nsecPerSec : Nat) = n
  rw [← Int.natCast_mul, ← Int.natCast_add, Nat.div_add_mod']

lemma proper_ofNs (n : Nat) : (ofNs n).Proper := by
  refine ⟨Int.natCast_nonneg _, Int.ofNat_lt.mpr ?_⟩
  exact Nat.mod_lt n (Nat.pow_pos (by decide))

end Timespec

/-! ### Counters -/

/-- A counter below `M` advances by `c`. -/
def tick (M c t : Nat) : Nat := (t + c) % M

/-- A counter that was advanced `n` times. -/
lemma iterate_tick (M c t n : Nat) : (tick M c)^[n] (t % M) = (t + n * c) % M := by
  induction n with
  | zero => simp
  | succ n ih =>
    rw [Function.iterate_succ_apply', ih, tick, Nat.mod_add_mod, Nat.succ_mul, Nat.add_assoc]

end Core
