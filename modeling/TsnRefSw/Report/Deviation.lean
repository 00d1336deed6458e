import Mathlib.Analysis.Real.Sqrt
import TsnRefSw.Core.Statistics
import TsnRefSw.Report.Losses

/-!
# Mean and deviation of the latencies

After the losses, the JSON runner reports the latencies of a test: first their average, over the
records with a positive sequence number, and beside it the standard deviation and its ratio to
the average. The two are computed by different functions, and not from the same numbers.

How `awk` adds integers is a parameter. Quotients, squares and roots are taken to be exact.
-/

namespace TsnRefSw

open Core

namespace Report

/-- `filter_result_files()`: any line with `ERROR` in it matches `ERROR_*`. -/
def filterResultFiles (log : List Text) : List Text := sedDeleteLines "ERROR".toList log

/-- `awk '{ print $i "\t" $j }'` on one line. -/
def awkPair (i j : Nat) (line : Text) : Text := tabbed [awkField i line, awkField j line]

/-- The latencies in column `i` of the records whose number, in column `j`, is positive. -/
def latencies (i j : Nat) (log : List Text) : List Int :=
  ((log.map (awkPair i j)).filter fun l => decide (0 < awkNumber (awkField 2 l))).map fun l =>
    awkNumber (awkField 1 l)

/-- The row `U2U` of the results. -/
structure U2u where
  max : Int
  avg : Rat
  min : Int
deriving DecidableEq, Repr

/-- `total+=$1`. What becomes of an integer in the arithmetic of `awk` is given by `round`: the
nearest double, or the integer itself where the arithmetic is taken to be exact. -/
def awkSum (round : Int → Int) (xs : List Int) : Int :=
  xs.foldl (fun total x => round (total + round x)) 0

/-- What `calc_rx_u2u()` and `calc_return_u2u()` share; without a record they divide by zero. The
numbers kept as `max` and `min` are printed as they stand in the file. -/
def calcU2u (round : Int → Int) (i j : Nat) (log : List Text) : Option U2u :=
  match latencies i j log with
  | []      => none
  | x :: xs => some {
      max := xs.foldl (fun max x => if round max < round x then x else max) x
      avg := (awkSum round (x :: xs) : Rat) / (x :: xs).length
      min := xs.foldl (fun min x => if round x < round min then x else min) x }

/-- `calc_rx_u2u()`. -/
def calcRxU2u (round : Int → Int) (log : List Text) : Option U2u := calcU2u round 1 2 log

/-- `calc_return_u2u()`. -/
def calcReturnU2u (round : Int → Int) (log : List Text) : Option U2u := calcU2u round 14 9 log

/-- The columns `Stddev` and `CV`, by what they are the root and the ratio of. -/
structure Deviation where
  variance : Rat
  avg : Rat
deriving DecidableEq, Repr

/-- `COEFVAR`. -/
noncomputable def Deviation.coefvar (d : Deviation) : ℝ := √(d.variance : ℝ) / d.avg

/-- The column `calc_stddev_u2u()` reads: the test is about the name of its argument, not about
what it holds. -/
def stddevColumn (_returnTraffic : Text) : Nat := if "RETURN_TRAFFIC" = "YES" then 14 else 1

/-- The numbers in a column. -/
def column (k : Nat) (log : List Text) : List Int :=
  log.map fun l => awkNumber (awkField 1 (awkField k l))

/-- `calc_stddev_u2u()`, with the average of the results; it divides by the number of lines and by
the average. -/
def calcStddevU2u (returnTraffic : Text) (log : List Text) (avg : Rat) : Option Deviation :=
  if log = [] ∨ avg = 0 then none
  else some {
    variance := variance ((column (stddevColumn returnTraffic) log).map fun z : Int => (z : Rat))
    avg := avg }

/-! ### Printed records -/

section Records

variable {α : Type*} {numbers : α → List Int}

lemma awkField_word {w : Text} (hw : IsWord w) : awkField 1 w = w := by
  rw [awkField, awkFields_of_isWord hw]
  rfl

lemma column_printNumbers {k : Nat} {lat : α → Int} (h : ∀ r, (numbers r)[k]? = some (lat r))
    (rows : List α) :
    column (k + 1) (rows.map fun r => printNumbers (numbers r)) = rows.map lat := by
  rw [column, List.map_map]
  apply List.map_congr_left
  intro r _
  rw [Function.comp_apply, awkField_printNumbers, h r]
  show awkNumber (awkField 1 (decimal (lat r))) = lat r
  rw [awkField_word (isWord_decimal _), awkNumber_decimal]

lemma latencies_printNumbers {i j : Nat} {lat seq : α → Int}
    (hi : ∀ r, (numbers r)[i]? = some (lat r)) (hj : ∀ r, (numbers r)[j]? = some (seq r))
    (rows : List α) :
    latencies (i + 1) (j + 1) (rows.map fun r => printNumbers (numbers r)) =
      (rows.filter fun r => decide (0 < seq r)).map lat := by
  have hpair : ∀ r, awkPair (i + 1) (j + 1) (printNumbers (numbers r)) =
      printNumbers [lat r, seq r] := by
    intro r
    rw [awkPair, awkField_printNumbers, awkField_printNumbers, hi r, hj r]
    rfl
  have hfirst : ∀ r, awkNumber (awkField 1 (printNumbers [lat r, seq r])) = lat r := by
    intro r
    rw [awkField_printNumbers 0]
    exact awkNumber_decimal _
  have hsecond : ∀ r, awkNumber (awkField 2 (printNumbers [lat r, seq r])) = seq r := by
    intro r
    rw [awkField_printNumbers 1]
    exact awkNumber_decimal _
  rw [latencies, List.map_map, List.filter_map, List.map_map]
  simp only [Function.comp_def, hpair, hfirst, hsecond]

/-- Lines of numbers contain no error. -/
lemma not_contains_error (zs : List Int) :
    (printNumbers zs).tails.any "ERROR".toList.isPrefixOf = false := by
  by_contra hcontains
  rw [Bool.not_eq_false] at hcontains
  have hmem : 'E' ∈ printNumbers zs := mem_of_contains (by decide) hcontains
  rcases mem_tabbed hmem with htab | ⟨w, hw, hc⟩
  · exact absurd htab (by decide)
  · obtain ⟨z, -, rfl⟩ := List.mem_map.mp hw
    rcases mem_decimal hc with hsign | hdigit
    · exact absurd hsign (by decide)
    · exact absurd hdigit (by decide)

lemma filterResultFiles_printNumbers (rows : List α) :
    filterResultFiles (rows.map fun r => printNumbers (numbers r)) =
      rows.map fun r => printNumbers (numbers r) := by
  apply List.filter_eq_self.mpr
  intro l hl
  obtain ⟨r, -, rfl⟩ := List.mem_map.mp hl
  rw [not_contains_error]
  rfl

end Records

/-- The sample on a line of A's return subscriber, if it is no error. -/
def sample : Opcua.SubReturnLine → Option Opcua.ReturnTimes
  | .data r => some r
  | _       => none

/-- Of a return log the samples are left. -/
lemma filterResultFiles_printReturn (raw : List Opcua.SubReturnLine) :
    filterResultFiles (raw.map printReturn) =
      (raw.filterMap sample).map fun r => printNumbers (returnNumbers r) := by
  induction raw with
  | nil => rfl
  | cons l raw ih =>
    cases l with
    | data r =>
      have hsample : (.data r :: raw).filterMap sample = r :: raw.filterMap sample := rfl
      rw [List.map_cons, hsample, List.map_cons, ← ih]
      exact sedDeleteLines_cons_of_not (not_contains_error _) _
    | duplicate => exact ih
    | msgqCopy => exact ih
    | nothingToForward => exact ih

/-! ### The same data -/

/-- The latencies the average of a one-way test is about. -/
def counted (log : List Opcua.SubLine) : List Rat :=
  (log.filter fun l => decide (0 < subSeq l)).map fun l => (l.latency.toInt : Rat)

/-- The latencies it leaves out. -/
def skipped (log : List Opcua.SubLine) : List Rat :=
  (log.filter fun l => !decide (0 < subSeq l)).map fun l => (l.latency.toInt : Rat)

/-- The samples the average of a return trip is about. -/
def countedSamples (log : List Opcua.SubReturnLine) : List Opcua.ReturnTimes :=
  (log.filterMap sample).filter fun r => decide (0 < r.seqB.toInt64.toInt)

/-- The samples it leaves out. -/
def skippedSamples (log : List Opcua.SubReturnLine) : List Opcua.ReturnTimes :=
  (log.filterMap sample).filter fun r => !decide (0 < r.seqB.toInt64.toInt)

/-- The latencies the average of a return trip is about. -/
def returnLatencies (log : List Opcua.SubReturnLine) : List Int :=
  (countedSamples log).map fun r => r.returnLatency.toInt

/-- These latencies, to compute with. -/
def countedReturn (log : List Opcua.SubReturnLine) : List Rat :=
  (returnLatencies log).map fun z : Int => (z : Rat)

/-- The latency from A to B. -/
def a2b (r : Opcua.ReturnTimes) : Rat := (r.a2bLatency.toInt : Rat)

/-- What the latency of the whole trip has more than that from A to B. -/
def wayBack (r : Opcua.ReturnTimes) : Rat := r.returnLatency.toInt - r.a2bLatency.toInt

/-- The latencies from A to B of a return trip. -/
def a2bLatencies (log : List Opcua.SubReturnLine) : List Rat := (log.filterMap sample).map a2b

lemma awkSum_id (xs : List Int) : awkSum id xs = xs.sum := List.sum_eq_foldl.symm

/-- Nothing is lost where all numbers that can occur stay as they are. -/
lemma awkSum_eq_sum {round : Int → Int} {bound : Int} (hround : ∀ z, |z| < bound → round z = z)
    {xs : List Int} (hxs : (xs.map fun x => |x|).sum < bound) : awkSum round xs = xs.sum := by
  have hgo : ∀ total, |total| + (xs.map fun x => |x|).sum < bound →
      xs.foldl (fun total x => round (total + round x)) total = total + xs.sum := by
    clear hxs
    induction xs with
    | nil => exact fun total _ => (add_zero total).symm
    | cons x xs ih =>
      intro total hlt
      rw [List.map_cons, List.sum_cons] at hlt
      have hrest : 0 ≤ (xs.map fun x => |x|).sum := List.sum_nonneg (by simp)
      have hsum := abs_add_le total x
      have htotal := abs_nonneg total
      rw [List.foldl_cons, List.sum_cons, hround x (by linarith), hround _ (by linarith),
        ih _ (by linarith), add_assoc]
  rw [awkSum, hgo 0 (by rwa [abs_zero, zero_add]), zero_add]

lemma mean_intCast (xs : List Int) :
    mean (xs.map fun z : Int => (z : Rat)) = (xs.sum : Rat) / xs.length := by
  have hsum : (xs.map fun z : Int => (z : Rat)).sum = (xs.sum : Rat) :=
    (map_list_sum (Int.castRingHom ℚ) xs).symm
  rw [mean, hsum, List.length_map]

/-- In exact arithmetic, the average is that of the latencies with a positive number. -/
lemma calcU2u_avg {i j : Nat} {log : List Text} {xs : List Rat}
    (h : (latencies i j log).map (fun z : Int => (z : Rat)) = xs) (hne : xs ≠ []) :
    ∃ u, calcU2u id i j log = some u ∧ u.avg = mean xs := by
  rw [calcU2u]
  cases hl : latencies i j log with
  | nil =>
    rw [hl] at h
    exact absurd h.symm hne
  | cons z zs =>
    rw [hl] at h
    refine ⟨_, rfl, ?_⟩
    rw [← h, mean_intCast, awkSum_id]

/-- Ratios to the same average are equal if the variances are. -/
lemma coefvar_eq_iff {xs ys : List Rat} {m : Rat} (hm : m ≠ 0) :
    (⟨variance ys, m⟩ : Deviation).coefvar = √((variance xs : Rat) : ℝ) / m ↔
      variance ys = variance xs := by
  have hx : (0 : ℝ) ≤ ((variance xs : Rat) : ℝ) := by exact_mod_cast variance_nonneg xs
  have hy : (0 : ℝ) ≤ ((variance ys : Rat) : ℝ) := by exact_mod_cast variance_nonneg ys
  have hm' : (m : ℝ) ≠ 0 := by exact_mod_cast hm
  rw [Deviation.coefvar, div_left_inj' hm', Real.sqrt_inj hy hx]
  exact_mod_cast Iff.rfl

/-- The variance of all latencies, those left out put behind the others. -/
lemma variance_column_iff {log : List Opcua.SubLine} (hne : counted log ≠ []) :
    variance (log.map fun l => (l.latency.toInt : Rat)) = variance (counted log) ↔
      skipped log = [] ∨ variance (skipped log) +
        (counted log).length / ((counted log).length + (skipped log).length) *
          (mean (counted log) - mean (skipped log)) ^ 2 = variance (counted log) := by
  have hperm : (log.map fun l => (l.latency.toInt : Rat)).Perm (counted log ++ skipped log) := by
    rw [counted, skipped, ← List.map_append]
    exact (List.filter_append_perm _ log).symm.map _
  rw [variance_perm hperm]
  by_cases hs : skipped log = []
  · rw [hs, List.append_nil]
    exact iff_of_true rfl (.inl rfl)
  · rw [or_iff_right hs]
    exact variance_append_eq_left_iff hne hs

/-- What the samples left out of the average add to the variance of the latencies from A to B is
what the way back adds to it where it is counted. -/
def MakesUp (counted skipped : List Opcua.ReturnTimes) : Prop :=
  skipped.length / (counted.length + skipped.length) * (variance (skipped.map a2b) +
      counted.length / (counted.length + skipped.length) *
        (mean (counted.map a2b) - mean (skipped.map a2b)) ^ 2 - variance (counted.map a2b)) =
    variance (counted.map wayBack) + 2 * covariance counted a2b wayBack

instance (counted skipped : List Opcua.ReturnTimes) : Decidable (MakesUp counted skipped) :=
  inferInstanceAs (Decidable (_ = _))

lemma variance_a2bLatencies_iff {log : List Opcua.SubReturnLine} (hne : countedReturn log ≠ []) :
    variance (a2bLatencies log) = variance (countedReturn log) ↔
      MakesUp (countedSamples log) (skippedSamples log) := by
  have hperm : (a2bLatencies log).Perm
      ((countedSamples log).map a2b ++ (skippedSamples log).map a2b) := by
    rw [← List.map_append]
    exact (List.filter_append_perm _ (log.filterMap sample)).symm.map a2b
  have htrip : countedReturn log = (countedSamples log).map fun r => a2b r + wayBack r := by
    rw [countedReturn, returnLatencies, List.map_map]
    apply List.map_congr_left
    intro r _
    rw [a2b, wayBack, add_sub_cancel]
    rfl
  have hcounted : (countedSamples log).map a2b ≠ [] := by
    intro hnil
    rw [countedReturn, returnLatencies, List.map_eq_nil_iff.mp hnil] at hne
    exact hne rfl
  have hskipped := variance_append_sub hcounted ((skippedSamples log).map a2b)
  rw [List.length_map, List.length_map] at hskipped
  rw [variance_perm hperm, htrip, variance_map_add, MakesUp, ← hskipped, sub_eq_iff_eq_add,
    add_assoc, add_comm (variance ((countedSamples log).map a2b))]

/-- The file the reports on a one-way test are computed from. -/
def oneWayFile (log : List Opcua.SubLine) : List Text :=
  filterResultFiles (log.map fun l => printNumbers (subNumbers l))

/-- The file the reports on a return trip are computed from. -/
def returnFile (log : List Opcua.SubReturnLine) : List Text :=
  filterResultFiles (log.map printReturn)

/-- What the average of a return trip is computed from. -/
lemma latencies_returnFile (raw : List Opcua.SubReturnLine) :
    latencies 14 9 (returnFile raw) = returnLatencies raw := by
  rw [returnFile, filterResultFiles_printReturn,
    latencies_printNumbers (i := 13) (j := 8) (fun r => rfl) (fun r => rfl)]
  rfl

/-- The ratio printed beside the average of `xs` is that of the standard deviation of `xs`. -/
def DescribesSame (xs : List Rat) (u : U2u) (d : Deviation) : Prop :=
  u.avg = mean xs ∧ d.coefvar = √((variance xs : Rat) : ℝ) / (mean xs : Rat)

/-- What `calc_stddev_u2u()` computes for a file and the average of `xs`. -/
lemma describesSame_iff {i j : Nat} {file : List Text} {xs ys : List Rat}
    (hxs : (latencies i j file).map (fun z : Int => (z : Rat)) = xs)
    (hys : (column 1 file).map (fun z : Int => (z : Rat)) = ys) (hne : xs ≠ [])
    (hmean : mean xs ≠ 0) (returnTraffic : Text) :
    ∃ u d, calcU2u id i j file = some u ∧ calcStddevU2u returnTraffic file u.avg = some d ∧
      (DescribesSame xs u d ↔ variance ys = variance xs) := by
  obtain ⟨u, hu, havg⟩ := calcU2u_avg hxs hne
  have hfile : file ≠ [] := by
    rintro rfl
    exact hne hxs.symm
  refine ⟨u, ⟨variance ys, mean xs⟩, hu, ?_, ?_⟩
  · rw [calcStddevU2u, havg, if_neg (not_or.mpr ⟨hfile, hmean⟩)]
    show some (⟨variance ((column 1 file).map _), mean xs⟩ : Deviation) = _
    rw [hys]
  · rw [DescribesSame, and_iff_right havg, coefvar_eq_iff hmean]

lemma describesSame_oneWay_iff {log : List Opcua.SubLine} (hne : counted log ≠ [])
    (hmean : mean (counted log) ≠ 0) :
    ∃ u d, calcRxU2u id (oneWayFile log) = some u ∧
      calcStddevU2u "FALSE".toList (oneWayFile log) u.avg = some d ∧
      (DescribesSame (counted log) u d ↔ skipped log = [] ∨ variance (skipped log) +
        (counted log).length / ((counted log).length + (skipped log).length) *
          (mean (counted log) - mean (skipped log)) ^ 2 = variance (counted log)) := by
  have hfile : oneWayFile log = log.map fun l => printNumbers (subNumbers l) :=
    filterResultFiles_printNumbers log
  have hxs : (latencies 1 2 (oneWayFile log)).map (fun z : Int => (z : Rat)) = counted log := by
    rw [hfile, latencies_printNumbers (i := 0) (j := 1) (fun l => rfl) (fun l => rfl),
      List.map_map]
    rfl
  have hys : (column 1 (oneWayFile log)).map (fun z : Int => (z : Rat)) =
      log.map fun l => (l.latency.toInt : Rat) := by
    rw [hfile, column_printNumbers (k := 0) (fun l => rfl), List.map_map]
    rfl
  obtain ⟨u, d, hu, hd, hiff⟩ := describesSame_iff hxs hys hne hmean "FALSE".toList
  exact ⟨u, d, hu, hd, hiff.trans (variance_column_iff hne)⟩

lemma describesSame_return_iff {log : List Opcua.SubReturnLine} (hne : countedReturn log ≠ [])
    (hmean : mean (countedReturn log) ≠ 0) :
    ∃ u d, calcReturnU2u id (returnFile log) = some u ∧
      calcStddevU2u "YES".toList (returnFile log) u.avg = some d ∧
      (DescribesSame (countedReturn log) u d ↔
        MakesUp (countedSamples log) (skippedSamples log)) := by
  have hys : (column 1 (returnFile log)).map (fun z : Int => (z : Rat)) = a2bLatencies log := by
    rw [returnFile, filterResultFiles_printReturn, column_printNumbers (k := 0) (fun r => rfl),
      List.map_map]
    rfl
  obtain ⟨u, d, hu, hd, hiff⟩ :=
    describesSame_iff (congrArg (List.map _) (latencies_returnFile log)) hys hne hmean "YES".toList
  exact ⟨u, d, hu, hd, hiff.trans (variance_a2bLatencies_iff hne)⟩

/-- The ratio printed goes with the average beside it, in a one-way test, if and only if no record
is left out of the average, or those left out are less spread out by what their own average is
apart; on a return trip, if and only if the samples left out add to the variance of the latencies
from A to B what the way back adds to it. -/
theorem describesSame_iff_records (log : List Opcua.SubLine)
    (returnLog : List Opcua.SubReturnLine) :
    (counted log ≠ [] → mean (counted log) ≠ 0 →
      ∃ u d, calcRxU2u id (oneWayFile log) = some u ∧
        calcStddevU2u "FALSE".toList (oneWayFile log) u.avg = some d ∧
        (DescribesSame (counted log) u d ↔ skipped log = [] ∨ variance (skipped log) +
          (counted log).length / ((counted log).length + (skipped log).length) *
            (mean (counted log) - mean (skipped log)) ^ 2 = variance (counted log))) ∧
    (countedReturn returnLog ≠ [] → mean (countedReturn returnLog) ≠ 0 →
      ∃ u d, calcReturnU2u id (returnFile returnLog) = some u ∧
        calcStddevU2u "YES".toList (returnFile returnLog) u.avg = some d ∧
        (DescribesSame (countedReturn returnLog) u d ↔
          MakesUp (countedSamples returnLog) (skippedSamples returnLog))) :=
  ⟨describesSame_oneWay_iff, describesSame_return_iff⟩

/-- A record of a one-way test. -/
private def oneWay (latency : Int64) (rxSequence : UInt64) : Opcua.SubLine :=
  ⟨latency, rxSequence, 1, 0, 0, 0⟩

/-- A sample of a return trip. -/
private def trip (a2bLatency : Int64) (seqB : UInt64) (returnLatency : Int64) :
    Opcua.SubReturnLine :=
  .data ⟨a2bLatency, seqB, 1, 0, 0, 0, 0, 0, seqB, 0, 0, returnLatency⟩

/-- Where no record is left out, and where all ways back take as long and the latencies left out
are those that are counted. -/
theorem describesSame_iff_records_regular :
    (∃ u d, calcRxU2u id (oneWayFile [oneWay 10 1, oneWay 30 2]) = some u ∧
      DescribesSame [10, 30] u d) ∧
    ∃ u d, calcReturnU2u id (returnFile
        [trip 10 1 25, .duplicate, trip 30 2 45, trip 30 0 7, trip 10 0 99]) = some u ∧
      DescribesSame [25, 45] u d := by
  obtain ⟨honeWay, hreturn⟩ := describesSame_iff_records [oneWay 10 1, oneWay 30 2]
    [trip 10 1 25, .duplicate, trip 30 2 45, trip 30 0 7, trip 10 0 99]
  constructor
  · obtain ⟨u, d, hu, -, hiff⟩ := honeWay (by decide +kernel) (by decide +kernel)
    exact ⟨u, d, hu, hiff.mpr (.inl (by decide +kernel))⟩
  · obtain ⟨u, d, hu, -, hiff⟩ := hreturn (by decide +kernel) (by decide +kernel)
    exact ⟨u, d, hu, hiff.mpr (by decide +kernel)⟩

/-- A record with number 0 changes the deviation and not the average; on a return trip any two
samples with different latencies do. -/
theorem not_describesSame :
    (¬ ∀ log : List Opcua.SubLine, counted log ≠ [] → mean (counted log) ≠ 0 →
      ∀ u d, calcRxU2u id (oneWayFile log) = some u →
        calcStddevU2u "FALSE".toList (oneWayFile log) u.avg = some d →
        DescribesSame (counted log) u d) ∧
    ¬ ∀ log : List Opcua.SubReturnLine, countedReturn log ≠ [] → mean (countedReturn log) ≠ 0 →
      ∀ u d, calcReturnU2u id (returnFile log) = some u →
        calcStddevU2u "YES".toList (returnFile log) u.avg = some d →
        DescribesSame (countedReturn log) u d := by
  constructor
  · intro h
    have hne : counted [oneWay 10 1, oneWay 40 0] ≠ [] := by decide +kernel
    have hmean : mean (counted [oneWay 10 1, oneWay 40 0]) ≠ 0 := by decide +kernel
    obtain ⟨u, d, hu, hd, hiff⟩ := describesSame_oneWay_iff hne hmean
    have hsame := hiff.mp (h _ hne hmean u d hu hd)
    revert hsame
    decide +kernel
  · intro h
    have hne : countedReturn [trip 10 1 25, trip 10 2 45] ≠ [] := by decide +kernel
    have hmean : mean (countedReturn [trip 10 1 25, trip 10 2 45]) ≠ 0 := by decide +kernel
    obtain ⟨u, d, hu, hd, hiff⟩ := describesSame_return_iff hne hmean
    have hsame := hiff.mp (h _ hne hmean u d hu hd)
    revert hsame
    decide +kernel

end Report

end TsnRefSw
