import TsnRefSw.Core.Emit
import TsnRefSw.Txrx.Numerals

/-!
# The arguments of tsq

`parser()` stores a number first and checks it where it is stored; `error()` ends the program.
-/

namespace TsnRefSw

open Core Txrx

namespace Tsq

/-- `MODE_LISTENER` and `MODE_TALKER`. -/
inductive Mode where
  | listener
  | talker
deriving DecidableEq, Repr

/-- `struct opt`, as `parser()` sets it. -/
structure Opt where
  verbose : Bool
  /-- `none` for no mode. -/
  mode : Option Mode
  /-- `main()` leaves it uninitialized. -/
  serverIp : Option Text
  port : Int
  outputFile : Text
  uid : Int
  device : Text
  timeout : Int
deriving DecidableEq, Repr

/-- The options of `main()` before the arguments are parsed. -/
def Opt.default : Opt where
  verbose := false
  mode := none
  serverIp := none
  port := 5678
  outputFile := "tsq-listener-data.txt".toList
  uid := 1234
  device := []
  timeout := 1100

namespace Opt

/-- A number with nothing behind it, that is not out of its bounds. -/
def number (text : String) (outOfBounds : Int → Bool) (arg : Text) : Except ArgpError Int :=
  let r := strtol arg
  if r.erange ∨ outOfBounds r.value ∨ ¬ r.AtEnd arg then .error (.exit text) else .ok r.value

variable (opt : Opt)

/-- `parser()`, for the option `key` with the argument `arg`. -/
def parser (key : Char) (arg : Text) : Except ArgpError Opt :=
  match key with
  | 'v' => .ok { opt with verbose := true }
  | 'T' => .ok { opt with mode := some .talker }
  | 'L' => .ok { opt with mode := some .listener }
  | 'i' => .ok { opt with serverIp := some arg }
  | 'p' => (fun port => { opt with port := port }) <$>
      number "Invalid port number. Check --help."
        (fun port => port ≤ 0 || port < 999 || 9999 < port) arg
  | 'o' => .ok { opt with outputFile := arg }
  | 'u' => (fun uid => { opt with uid := uid }) <$>
      number "Invalid UID. Check --help." (fun uid => uid ≤ 0 || uid < 999 || 9999 < uid) arg
  | 'd' => .ok { opt with device := arg }
  | 't' => (fun timeout => { opt with timeout := timeout }) <$>
      number "Invalid timeout. Check --help."
        (fun timeout => timeout ≤ 0 || 2000 < timeout) arg
  | _ => .error .unknown

/-! ### Bounds -/

lemma number_eq_ok_iff (text : String) {outOfBounds : Int → Bool} {lo hi : Nat}
    (hbounds : ∀ z, outOfBounds z = false ↔ lo ≤ z ∧ z ≤ hi) {arg : Text} {z : Int} :
    number text outOfBounds arg = .ok z ↔ Accepts lo hi arg z := by
  rw [number, Accepts, Strtol.InRange, ← hbounds]
  split_ifs with h
  · refine iff_of_false (by simp) ?_
    rintro ⟨⟨herange, hout⟩, -, hend⟩
    simp [herange, hout, hend] at h
  · simp only [not_or, not_not, Bool.not_eq_true] at h
    simp [h]

/-- The bounds of the port and of the identifier. -/
lemma port_bounds (z : Int) :
    (decide (z ≤ 0) || decide (z < 999) || decide (9999 < z)) = false ↔
      (999 : Nat) ≤ z ∧ z ≤ (9999 : Nat) := by
  simp only [Bool.or_eq_false_iff, decide_eq_false_iff_not]
  omega

lemma timeout_bounds (z : Int) :
    (decide (z ≤ 0) || decide (2000 < z)) = false ↔ (1 : Nat) ≤ z ∧ z ≤ (2000 : Nat) := by
  simp only [Bool.or_eq_false_iff, decide_eq_false_iff_not]
  omega

end Opt

end Tsq

end TsnRefSw
