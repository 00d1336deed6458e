import Mathlib.Data.List.Nodup
import Mathlib.Data.List.Perm.Basic
import TsnRefSw.Core.Text

/-!
# The values of a configuration

`gen_setup.py` works on what `json.loads()` makes of the configuration file, and hardly looks at
it: whatever a key holds is printed into a command, compared, or added to, and may be of the wrong
type for that.
-/

namespace TsnRefSw

open Core

namespace GenSetup

instance : Coe String Text := ⟨String.toList⟩

/-- A value of the interpreter. Numbers that are not integers are of type `F`. -/
inductive Value (F : Type) where
  | none
  | bool (b : Bool)
  | int (z : Int)
  | float (x : F)
  | string (s : Text)
  | list (xs : List (Value F))
  /-- The keys in the order in which they were first set. -/
  | dict (entries : List (String × Value F))

/-- What the interpreter knows of floats and of Unicode. -/
class Runtime (F : Type) where
  floatStr : F → Text
  floatTrue : F → Bool
  floatIsOne : F → Bool
  floatAddOne : F → F
  /-- `repr()` of a string: quotes and escapes. -/
  strRepr : Text → Text
  isSpace : Char → Bool
  decimalDigit : Char → Option Nat

/-- Without floats, and with plain characters only. -/
instance : Runtime Empty where
  floatStr := Empty.elim
  floatTrue := Empty.elim
  floatIsOne := Empty.elim
  floatAddOne := id
  strRepr s := "'" ++ s ++ "'"
  isSpace c := c == ' ' || ('\t' ≤ c && c ≤ '\r')
  decimalDigit c := if c.isDigit then some (c.toNat - '0'.toNat) else none

/-- How a run ends early: by `exit()`, after what it printed, or by an exception. -/
inductive Failure where
  | exit (status : Nat) (printed : Text)
  | keyError (key : String)
  | typeError
  | valueError
  | indexError
  | attributeError
deriving DecidableEq, Repr

section Values

variable {F : Type} [Runtime F]

namespace Value

mutual

/-- `repr()`. -/
def repr : Value F → Text
  | .none         => "None"
  | .bool b       => if b then "True" else "False"
  | .int z        => decimal z
  | .float x      => Runtime.floatStr x
  | .string s     => Runtime.strRepr F s
  | .list xs      => "[" ++ List.intercalate ", " (reprs xs) ++ "]"
  | .dict entries => "\x7b" ++ List.intercalate ", " (entryReprs entries) ++ "\x7d"

def reprs : List (Value F) → List Text
  | []      => []
  | x :: xs => x.repr :: reprs xs

def entryReprs : List (String × Value F) → List Text
  | []                => []
  | (k, x) :: entries => (Runtime.strRepr F k ++ ": " ++ x.repr) :: entryReprs entries

end

/-- `str()`, and what `format()` puts for the value. -/
def str : Value F → Text
  | .string s => s
  | x         => x.repr

/-- `if x`. -/
def truth : Value F → Bool
  | .none         => false
  | .bool b       => b
  | .int z        => z != 0
  | .float x      => Runtime.floatTrue x
  | .string s     => s != []
  | .list xs      => !xs.isEmpty
  | .dict entries => !entries.isEmpty

/-- `x == True`. -/
def isTrue : Value F → Bool
  | .bool b  => b
  | .int z   => z == 1
  | .float x => Runtime.floatIsOne x
  | _        => false

/-- `x == s` for a string. -/
def isString (s : Text) : Value F → Bool
  | .string t => t == s
  | _         => false

/-- `x + 1`. -/
def addOne : Value F → Except Failure (Value F)
  | .bool b  => .ok (.int (if b then 2 else 1))
  | .int z   => .ok (.int (z + 1))
  | .float x => .ok (.float (Runtime.floatAddOne x))
  | _        => .error .typeError

/-- `x[k]` for a string `k`. -/
def getItem (k : String) : Value F → Except Failure (Value F)
  | .dict entries =>
    match entries.lookup k with
    | some x => .ok x
    | .none  => .error (.keyError k)
  | _             => .error .typeError

/-- `x.get(k)`. -/
def get (k : String) : Value F → Except Failure (Option (Value F))
  | .dict entries => .ok (entries.lookup k)
  | _             => .error .attributeError

/-- `k in x`. -/
def contains (k : String) : Value F → Except Failure Bool
  | .dict entries => .ok (entries.lookup k).isSome
  | .list xs      => .ok (xs.any (isString k))
  | .string s     => .ok (s.tails.any (k.toList).isPrefixOf)
  | _             => .error .typeError

/-- `len(x)`. -/
def len : Value F → Except Failure Nat
  | .dict entries => .ok entries.length
  | .list xs      => .ok xs.length
  | .string s     => .ok s.length
  | _             => .error .typeError

/-- What `for each in x` goes through. -/
def iter : Value F → Except Failure (List (Value F))
  | .dict entries => .ok (entries.map fun e => .string e.1)
  | .list xs      => .ok xs
  | .string s     => .ok (s.map fun c => .string [c])
  | _             => .error .typeError

/-- The keys that `for each in x.keys()` goes through, each with its value. -/
def items : Value F → Except Failure (List (String × Value F))
  | .dict entries => .ok entries
  | _             => .error .attributeError

end Value

/-- A new key goes to the end. -/
def setEntry (k : String) (x : Value F) : List (String × Value F) → List (String × Value F)
  | []           => [(k, x)]
  | e :: entries => if e.1 = k then (k, x) :: entries else e :: setEntry k x entries

/-- `x[k] = y` for a string `k`. -/
def Value.setItem (x : Value F) (k : String) (y : Value F) : Except Failure (Value F) :=
  match x with
  | .dict entries => .ok (.dict (setEntry k y entries))
  | _             => .error .typeError

/-! ### Objects -/

/-- An object: no key twice. -/
structure Dict (F : Type) where
  entries : List (String × Value F)
  nodup : (entries.map Prod.fst).Nodup

section Lookup

variable {F : Type} {k : String} {x y : Value F} {entries : List (String × Value F)}

lemma lookup_cons_eq_if (e : String × Value F) :
    (e :: entries).lookup k = if k = e.1 then some e.2 else entries.lookup k := by
  rw [List.lookup_cons]
  by_cases he : k = e.1
  · rw [if_pos he, beq_iff_eq.mpr he]
  · rw [if_neg he, beq_eq_false_iff_ne.mpr he]

lemma lookup_setEntry_self : (setEntry k x entries).lookup k = some x := by
  induction entries with
  | nil => rw [setEntry, lookup_cons_eq_if, if_pos rfl]
  | cons e entries ih =>
    rw [setEntry]
    split_ifs with he
    · rw [lookup_cons_eq_if, if_pos rfl]
    · rw [lookup_cons_eq_if, if_neg (Ne.symm he), ih]

lemma lookup_setEntry_of_ne {j : String} (h : j ≠ k) :
    (setEntry k x entries).lookup j = entries.lookup j := by
  induction entries with
  | nil => rw [setEntry, lookup_cons_eq_if, if_neg h]
  | cons e entries ih =>
    rw [setEntry]
    split_ifs with he
    · rw [lookup_cons_eq_if, lookup_cons_eq_if, he, if_neg h, if_neg h]
    · rw [lookup_cons_eq_if, lookup_cons_eq_if, ih]

lemma map_fst_setEntry_of_notMem (h : k ∉ entries.map Prod.fst) :
    (setEntry k x entries).map Prod.fst = entries.map Prod.fst ++ [k] := by
  induction entries with
  | nil => rfl
  | cons e entries ih =>
    rw [List.map_cons, List.mem_cons, not_or] at h
    rw [setEntry, if_neg (Ne.symm h.1), List.map_cons, ih h.2]
    rfl

lemma map_fst_setEntry_of_mem (h : k ∈ entries.map Prod.fst) :
    (setEntry k x entries).map Prod.fst = entries.map Prod.fst := by
  induction entries with
  | nil => cases h
  | cons e entries ih =>
    rw [setEntry]
    split_ifs with he
    · rw [List.map_cons, List.map_cons, he]
    · have hk : k ∈ entries.map Prod.fst := (List.mem_cons.mp h).resolve_left (Ne.symm he)
      rw [List.map_cons, List.map_cons, ih hk]

lemma nodup_setEntry (h : (entries.map Prod.fst).Nodup) :
    ((setEntry k x entries).map Prod.fst).Nodup := by
  by_cases hk : k ∈ entries.map Prod.fst
  · rwa [map_fst_setEntry_of_mem hk]
  · rw [map_fst_setEntry_of_notMem hk]
    exact h.append (List.nodup_singleton k) (by simpa using hk)

/-- Without double keys, an object holds what its entries say. -/
lemma lookup_eq_some_iff_mem (h : (entries.map Prod.fst).Nodup) :
    entries.lookup k = some x ↔ (k, x) ∈ entries := by
  induction entries with
  | nil => exact iff_of_false (by simp) (by simp)
  | cons e entries ih =>
    obtain ⟨j, y⟩ := e
    obtain ⟨hj, hnodup⟩ := List.nodup_cons.mp h
    rw [lookup_cons_eq_if, List.mem_cons, Prod.mk.injEq]
    by_cases hk : k = j
    · subst hk
      have hmem : (k, x) ∉ entries := by
        intro hmem
        exact hj (List.mem_map.mpr ⟨(k, x), hmem, rfl⟩)
      simp [hmem, eq_comm]
    · rw [if_neg hk, ih hnodup]
      simp [hk]

/-- A loop that keeps the value of a key. -/
lemma foldl_ite_eq_lookup (x : Value F) (h : (entries.map Prod.fst).Nodup) :
    entries.foldl (fun x e => if e.1 = k then e.2 else x) x = (entries.lookup k).getD x := by
  induction entries generalizing x with
  | nil => rfl
  | cons e entries ih =>
    obtain ⟨he, hnodup⟩ := List.nodup_cons.mp h
    rw [List.foldl_cons, ih _ hnodup, lookup_cons_eq_if]
    by_cases hk : e.1 = k
    · have hnone : entries.lookup k = none := by
        rw [Option.eq_none_iff_forall_not_mem]
        intro y hy
        exact he (hk ▸ List.mem_map.mpr ⟨(k, y), (lookup_eq_some_iff_mem hnodup).mp hy, rfl⟩)
      rw [if_pos hk, if_pos hk.symm, hnone]
      rfl
    · rw [if_neg hk, if_neg (Ne.symm hk)]

end Lookup

namespace Dict

variable {F : Type}

def value (d : Dict F) : Value F := .dict d.entries

def get (d : Dict F) (k : String) : Option (Value F) := d.entries.lookup k

def set (d : Dict F) (k : String) (x : Value F) : Dict F :=
  ⟨setEntry k x d.entries, nodup_setEntry d.nodup⟩

lemma get_eq_some_iff {d : Dict F} {k : String} {x : Value F} :
    d.get k = some x ↔ (k, x) ∈ d.entries :=
  lookup_eq_some_iff_mem d.nodup

/-- The order of the keys does not matter to what they hold. -/
lemma get_eq_of_perm {d d' : Dict F} (h : d.entries.Perm d'.entries) (k : String) :
    d.get k = d'.get k := by
  apply Option.ext
  intro x
  rw [get_eq_some_iff, get_eq_some_iff, h.mem_iff]

@[simp] lemma items_value (d : Dict F) : d.value.items = .ok d.entries := rfl

@[simp] lemma get_value (d : Dict F) (k : String) : d.value.get k = .ok (d.get k) := rfl

lemma getItem_value_eq_ok_iff {d : Dict F} {k : String} {x : Value F} :
    d.value.getItem k = .ok x ↔ d.get k = some x := by
  rw [value, Value.getItem, get]
  cases d.entries.lookup k <;> simp

@[simp] lemma getItem_set_self (d : Dict F) (k : String) (x : Value F) :
    (d.set k x).value.getItem k = .ok x :=
  getItem_value_eq_ok_iff.mpr lookup_setEntry_self

lemma getItem_congr {d d' : Dict F} {k : String} (h : d.get k = d'.get k) :
    d.value.getItem k = d'.value.getItem k := by
  rw [get, get] at h
  rw [value, value, Value.getItem, Value.getItem, h]

lemma getItem_set_of_ne {d : Dict F} {j k : String} (h : j ≠ k) (x : Value F) :
    (d.set k x).value.getItem j = d.value.getItem j :=
  getItem_congr (lookup_setEntry_of_ne h)

end Dict

/-! ### Numerals -/

/-- Digits, with single underscores between them. -/
def digits (F : Type) [Runtime F] (cs : Text) : Option Nat := do
  let groups ← (cs.splitOnP (· == '_')).mapM fun g =>
    if g = [] then none else g.mapM (Runtime.decimalDigit F)
  return groups.flatten.foldl (fun n d => 10 * n + d) 0

/-- `int()` of a string. -/
def parseInt (F : Type) [Runtime F] (s : Text) : Except Failure Int :=
  let front := s.dropWhile (Runtime.isSpace F)
  let stripped := (front.reverse.dropWhile (Runtime.isSpace F)).reverse
  let n : Option Int :=
    match stripped with
    | '-' :: cs => (digits F cs).map fun n => -(n : Int)
    | '+' :: cs => (digits F cs).map fun n => (n : Int)
    | cs        => (digits F cs).map fun n => (n : Int)
  match n with
  | some n => .ok n
  | .none  => .error .valueError

end Values

end GenSetup

end TsnRefSw
