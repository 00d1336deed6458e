import TsnRefSw.Core.Double
import TsnRefSw.Report.Deviation

/-!
# The reports on a return trip

What the JSON runner does with the log of a return trip: it filters the file in place, and then
computes average, deviation and losses from what is left. The errors are counted last, in a file
that has none any more.

Here `awk` adds doubles. A quotient is zero where what is divided is, and is not printed as zero
elsewhere.
-/

namespace TsnRefSw

open Core

namespace Report

/-- `stop_if_empty()` lets the file through. -/
def GoesOn (log : List Text) : Prop := 3000 ≤ log.length

/-- The results of the three functions. -/
structure ReturnReport where
  u2u : U2u
  deviation : Deviation
  counts : Counts

/-- The functions in the order of `opcua-run.sh`, where none of them divides by zero. -/
def returnReport (debug : Bool) (raw json : List Text) : Option ReturnReport := do
  let log := filterResultFiles raw
  let u2u ← calcReturnU2u toDouble log
  let deviation ← calcStddevU2u "YES".toList log u2u.avg
  let counts ← calcReturnDuploss debug log json
  return ⟨u2u, deviation, counts⟩

/-- The number of errors in a log. -/
def errorLines (raw : List Opcua.SubReturnLine) : Nat :=
  (raw.filter fun l => (sample l).isNone).length

/-- Nothing is divided by zero, and the column `FwdErrors` tells how many errors the log has. -/
def Reflects (raw : List Opcua.SubReturnLine) (json : List Text) : Prop :=
  ∃ r, returnReport true (raw.map printReturn) json = some r ∧
    r.counts.fwdErrors = some (errorLines raw : Int)

lemma errorLines_eq_zero_iff {raw : List Opcua.SubReturnLine} :
    errorLines raw = 0 ↔ ∀ l ∈ raw, (sample l).isSome := by
  rw [errorLines, List.length_eq_zero_iff, List.filter_eq_nil_iff]
  simp [Option.isSome_iff_ne_none]

/-- Errors are counted where no line has any. -/
lemma packetErr_returnFile (raw : List Opcua.SubReturnLine) :
    packetErr (returnFile raw) = 0 := by
  have hnone : grep "ERROR_".toList ((returnFile raw).map (awkField 1)) = [] := by
    rw [returnFile, filterResultFiles_printReturn, List.map_map]
    apply List.filter_eq_nil_iff.mpr
    intro w hw hcontains
    obtain ⟨r, -, rfl⟩ := List.mem_map.mp hw
    have hfirst : awkField 1 (printNumbers (returnNumbers r)) = decimal r.a2bLatency.toInt :=
      awkField_printNumbers 0 _
    rw [Function.comp_apply, hfirst] at hcontains
    rcases mem_decimal (mem_of_contains (c := 'E') (by decide) hcontains) with hsign | hdigit
    · exact absurd hsign (by decide)
    · exact absurd hdigit (by decide)
  rw [packetErr, hnone]
  rfl

/-- No division by zero is left if the sum of the latencies that are counted is not zero. -/
lemma returnReport_isSome_iff {raw : List Opcua.SubReturnLine} {json : List Text} {n : Nat}
    (hjson : packetCountOf json = some n) (debug : Bool) :
    (returnReport debug (raw.map printReturn) json).isSome ↔
      awkSum toDouble (returnLatencies raw) ≠ 0 := by
  have hreport : returnReport debug (raw.map printReturn) json =
      (calcReturnU2u toDouble (returnFile raw)).bind fun u =>
        (calcStddevU2u "YES".toList (returnFile raw) u.avg).bind fun d =>
          (calcReturnDuploss debug (returnFile raw) json).bind fun c => some ⟨u, d, c⟩ := rfl
  rw [hreport, calcReturnDuploss, hjson, calcReturnU2u, calcU2u, latencies_returnFile]
  cases hl : returnLatencies raw with
  | nil => simp [awkSum]
  | cons z zs =>
    have hfile : returnFile raw ≠ [] := by
      intro he
      rw [← latencies_returnFile, he] at hl
      cases hl
    have hlength : ((z :: zs).length : Rat) ≠ 0 := Nat.cast_ne_zero.mpr (Nat.succ_ne_zero _)
    rw [Option.bind_some, calcStddevU2u]
    by_cases hsum : awkSum toDouble (z :: zs) = 0
    · have hzero : (awkSum toDouble (z :: zs) : Rat) / (z :: zs).length = 0 := by
        rw [hsum, Int.cast_zero, zero_div]
      rw [if_pos (.inr hzero)]
      simp [hsum]
    · have hquotient : (awkSum toDouble (z :: zs) : Rat) / (z :: zs).length ≠ 0 :=
        div_ne_zero (Int.cast_ne_zero.mpr hsum) hlength
      rw [if_neg (not_or.mpr ⟨hfile, hquotient⟩)]
      simp [hsum]

/-- The errors are counted in what is left of the log. -/
lemma fwdErrors_returnReport {raw : List Opcua.SubReturnLine} {json : List Text}
    {r : ReturnReport} (h : returnReport true (raw.map printReturn) json = some r) :
    r.counts.fwdErrors = some 0 := by
  obtain ⟨u, -, h⟩ := Option.bind_eq_some_iff.mp h
  obtain ⟨d, -, h⟩ := Option.bind_eq_some_iff.mp h
  obtain ⟨c, hc, h⟩ := Option.bind_eq_some_iff.mp h
  cases h
  obtain ⟨n, -, rfl⟩ := Option.map_eq_some_iff.mp hc
  exact congrArg some (packetErr_returnFile raw)

lemma errorLines_of_reflects {raw : List Opcua.SubReturnLine} {json : List Text}
    (h : Reflects raw json) : errorLines raw = 0 := by
  obtain ⟨r, hr, hfwd⟩ := h
  rw [fwdErrors_returnReport hr, Option.some.injEq] at hfwd
  exact_mod_cast hfwd.symm

/-- The reports reflect the log if and only if there is no error in it and the latencies of the
samples with a positive number, added as doubles, do not sum up to zero, as they do where there
are none. -/
theorem reflects_iff {json : List Text} {n : Nat} (hjson : packetCountOf json = some n)
    (raw : List Opcua.SubReturnLine) :
    Reflects raw json ↔ (∀ l ∈ raw, (sample l).isSome) ∧
      awkSum toDouble (returnLatencies raw) ≠ 0 := by
  rw [← errorLines_eq_zero_iff, ← returnReport_isSome_iff hjson true, Option.isSome_iff_exists]
  constructor
  · intro h
    refine ⟨errorLines_of_reflects h, ?_⟩
    obtain ⟨r, hr, -⟩ := h
    exact ⟨r, hr⟩
  · rintro ⟨hnone, r, hr⟩
    refine ⟨r, hr, ?_⟩
    rw [fwdErrors_returnReport hr, hnone]
    rfl

/-- A sample whose trip took a while. -/
private def returned : Opcua.SubReturnLine := .data ⟨5, 1, 0, 10, 0, 15, 4, 6, 1, 19, 25, 15⟩

/-- The configuration file of a test with 4000 packets. -/
private def packets4000 : List Text := ["\"packet_count\": 4000,".toList]

private lemma packetCountOf_packets4000 : packetCountOf packets4000 = some 4000 := by
  decide +kernel

private lemma returnLatencies_replicate (n : Nat) :
    returnLatencies (List.replicate n returned) = List.replicate n 15 := by
  induction n with
  | zero => rfl
  | succ n ih =>
    rw [List.replicate_succ, List.replicate_succ, ← ih]
    rfl

/-- Three thousand samples. -/
theorem reflects_iff_samples : Reflects (List.replicate 3000 returned) packets4000 := by
  refine (reflects_iff packetCountOf_packets4000 _).mpr ⟨?_, ?_⟩
  · intro l hl
    rw [List.eq_of_mem_replicate hl]
    rfl
  · have hlt : ((List.replicate 3000 (15 : Int)).map fun x => |x|).sum < 2 ^ 53 := by
      rw [List.map_replicate, List.sum_replicate]
      decide
    rw [returnLatencies_replicate, awkSum_eq_sum (fun _ => toDouble_of_lt) hlt,
      List.sum_replicate]
    decide

/-- One line among them is an error. -/
theorem not_reflects :
    ¬ ∀ (raw : List Opcua.SubReturnLine) (json : List Text) (n : Nat),
      GoesOn (raw.map printReturn) → packetCountOf json = some n → Reflects raw json := by
  intro h
  have hlong : GoesOn ((.nothingToForward :: List.replicate 2999 returned).map printReturn) := by
    rw [GoesOn, List.length_map, List.length_cons, List.length_replicate]
  have hnone := errorLines_of_reflects (h _ packets4000 4000 hlong packetCountOf_packets4000)
  exact absurd (errorLines_eq_zero_iff.mp hnone _ List.mem_cons_self) (by decide)

end Report

end TsnRefSw
