import TsnRefSw.Core.Double
import TsnRefSw.Core.Spread
import TsnRefSw.Report.Deviation

/-!
# The spacing of the samples

At last the JSON runner reports how regularly B received: mean and standard deviation of the
differences between successive times. These are nanoseconds since 1970, more than `awk` has digits
for, so they are rounded as they are read. The differences are written to a file in full and added
up from there; what is made of them then is printed with six digits.
-/

namespace TsnRefSw

open Core

namespace Report

/-- The number `awk` reads. -/
def awkDouble (w : Text) : Int := toDouble (awkNumber w)

/-- The lines printed for the times that follow; `rx1` is empty until there was one. -/
def timeDeltas (rx1 : Text) : List Text → List Text
  | []            => []
  | line :: lines =>
    let x := awkField 1 line
    if rx1 = [] then timeDeltas x lines
    else decimal (toDouble (awkDouble x - awkDouble rx1)) :: timeDeltas x lines

/-- `TIME_DELTA_FILE` -/
def timeDeltaFile (log : List Text) : List Text := timeDeltas [] (log.map (awkField 6))

/-- The numbers in `TIME_DELTA_FILE`. -/
def tbsDeltas (log : List Text) : List Int :=
  (timeDeltaFile log).map fun l => awkNumber (awkField 1 l)

/-- `sum`, which `TBS_STDDEV` and `TBS_AVG` are computed from. -/
def tbsSum (log : List Text) : Int := awkSum toDouble (tbsDeltas log)

/-! ### The logs -/

/-- The lines that were printed in a test. -/
inductive TestLog where
  | oneWay (log : List Opcua.SubLine)
  /-- The lines are written by A, with what B has sent back. -/
  | returnTrip (raw : List Opcua.SubReturnLine)

namespace TestLog

/-- The file the reports are computed from. -/
def file : TestLog → List Text
  | oneWay log     => oneWayFile log
  | returnTrip raw => returnFile raw

/-- When B received the samples. -/
def rxTimes : TestLog → List Int
  | oneWay log     => log.map fun l => l.rxTime.toInt64.toInt
  | returnTrip raw => (raw.filterMap sample).map fun r => r.rxSubB.toInt64.toInt

lemma map_awkField_file (l : TestLog) : l.file.map (awkField 6) = l.rxTimes.map decimal := by
  cases l with
  | oneWay log =>
    rw [file, oneWayFile, filterResultFiles_printNumbers, List.map_map, rxTimes, List.map_map]
    exact List.map_congr_left fun l _ => awkField_printNumbers 5 (subNumbers l)
  | returnTrip raw =>
    rw [file, returnFile, filterResultFiles_printReturn, List.map_map, rxTimes, List.map_map]
    exact List.map_congr_left fun r _ => awkField_printNumbers 5 (returnNumbers r)

end TestLog

/-! ### Rounded times -/

lemma timeDeltas_decimal (x : Int) (xs : List Int) :
    timeDeltas (decimal x) (xs.map decimal) =
      (gaps ((x :: xs).map toDouble)).map fun g => decimal (toDouble g) := by
  induction xs generalizing x with
  | nil => rfl
  | cons y ys ih =>
    have hfield : awkField 1 (decimal y) = decimal y := awkField_word (isWord_decimal y)
    rw [List.map_cons, timeDeltas, hfield, if_neg (isWord_decimal x).ne_nil, ih,
      gaps_map_cons_cons, List.map_cons, awkDouble, awkDouble, awkNumber_decimal,
      awkNumber_decimal]
    rfl

lemma timeDeltas_nil_decimal (x : Int) (xs : List Int) :
    timeDeltas [] ((x :: xs).map decimal) =
      (gaps ((x :: xs).map toDouble)).map fun g => decimal (toDouble g) := by
  have hfield : awkField 1 (decimal x) = decimal x := awkField_word (isWord_decimal x)
  rw [← timeDeltas_decimal, List.map_cons, timeDeltas, hfield, if_pos rfl]

section
variable {e : Nat} {x : Int} {xs : List Int}

/-- The differences are doubles. -/
lemma toDouble_of_mem_gaps (h : ∀ t ∈ xs, InBinade e t) {g : Int}
    (hg : g ∈ gaps (xs.map toDouble)) : toDouble g = g := by
  induction xs with
  | nil => cases hg
  | cons x xs ih =>
    cases xs with
    | nil => cases hg
    | cons y ys =>
      rw [gaps_map_cons_cons] at hg
      rcases List.mem_cons.mp hg with rfl | hg
      · exact (h y (by simp)).toDouble_sub (h x (by simp))
      · exact ih (fun t ht => h t (List.mem_cons_of_mem x ht)) hg

/-- No digit of the sum is lost. -/
lemma awkSum_gaps (h : ∀ t ∈ x :: xs, InBinade e t) :
    awkSum toDouble (gaps ((x :: xs).map toDouble)) = (gaps ((x :: xs).map toDouble)).sum := by
  have hgo : ∀ (y : Int) (ys : List Int), (∀ t ∈ y :: ys, InBinade e t) →
      (gaps ((y :: ys).map toDouble)).foldl (fun total g => toDouble (total + toDouble g))
        (toDouble y - toDouble x) =
          toDouble y - toDouble x + (gaps ((y :: ys).map toDouble)).sum := by
    intro y ys hys
    induction ys generalizing y with
    | nil => exact (add_zero _).symm
    | cons z zs ih =>
      have hz : InBinade e z := hys z (by simp)
      have hgap : toDouble (toDouble z - toDouble y) = toDouble z - toDouble y :=
        hz.toDouble_sub (hys y List.mem_cons_self)
      have hstep : toDouble y - toDouble x + (toDouble z - toDouble y) =
          toDouble z - toDouble x := by
        ring
      rw [gaps_map_cons_cons, List.foldl_cons, List.sum_cons, ← add_assoc, hgap, hstep,
        hz.toDouble_sub (h x List.mem_cons_self)]
      exact ih z fun t ht => hys t (List.mem_cons_of_mem y ht)
  have hall := hgo x xs h
  rwa [sub_self, zero_add] at hall

/-- Each difference is off by the spacing of the doubles at most. -/
lemma forall₂_gaps (h : ∀ t ∈ xs, InBinade e t) :
    List.Forall₂ (fun g g' => |g' - g| ≤ 2 ^ (e - 52)) (gaps xs) (gaps (xs.map toDouble)) := by
  induction xs with
  | nil => exact .nil
  | cons x xs ih =>
    cases xs with
    | nil => exact .nil
    | cons y ys =>
      rw [gaps_cons_cons, gaps_map_cons_cons]
      refine .cons ?_ (ih fun t ht => h t (List.mem_cons_of_mem x ht))
      exact (h y (by simp)).abs_sub_sub_le (h x (by simp))

end

/-- What is written to the file is about the rounded times. -/
lemma timeDeltaFile_file {e : Nat} {l : TestLog} (h : ∀ t ∈ l.rxTimes, InBinade e t) :
    timeDeltaFile l.file = (gaps (l.rxTimes.map toDouble)).map decimal := by
  rw [timeDeltaFile, l.map_awkField_file]
  cases hts : l.rxTimes with
  | nil => rfl
  | cons x xs =>
    rw [timeDeltas_nil_decimal, ← hts]
    apply List.map_congr_left
    intro g hg
    rw [toDouble_of_mem_gaps h hg]

lemma tbsDeltas_file {e : Nat} {l : TestLog} (h : ∀ t ∈ l.rxTimes, InBinade e t) :
    tbsDeltas l.file = gaps (l.rxTimes.map toDouble) := by
  rw [tbsDeltas, timeDeltaFile_file h, List.map_map]
  refine (List.map_congr_left fun g _ => ?_).trans (List.map_id _)
  rw [Function.comp_apply, awkField_word (isWord_decimal g), awkNumber_decimal, id_eq]

/-- The differences in the file are those between the samples, but for the distance of the
doubles: for times of today 256 ns in each of them and in their standard deviation, and, however
many there are, no more in their sum, of which no digit is lost. -/
theorem tbsDeltas_accurate {e : Nat} {l : TestLog} (h : ∀ t ∈ l.rxTimes, InBinade e t) :
    List.Forall₂ (fun g g' => |g' - g| ≤ 2 ^ (e - 52)) (gaps l.rxTimes) (tbsDeltas l.file) ∧
      tbsSum l.file = (tbsDeltas l.file).sum ∧
      |tbsSum l.file - (gaps l.rxTimes).sum| ≤ 2 ^ (e - 52) ∧
      |√(variance ((tbsDeltas l.file).map fun z : Int => (z : ℝ))) -
        √(variance ((gaps l.rxTimes).map fun z : Int => (z : ℝ)))| ≤ 2 ^ (e - 52) := by
  have hgaps := forall₂_gaps h
  have hsum : tbsSum l.file = (gaps (l.rxTimes.map toDouble)).sum := by
    rw [tbsSum, tbsDeltas_file h]
    cases hts : l.rxTimes with
    | nil => rfl
    | cons x xs => exact awkSum_gaps (hts ▸ h)
  rw [tbsDeltas_file h]
  refine ⟨hgaps, hsum, ?_, ?_⟩
  · rw [hsum]
    cases hts : l.rxTimes with
    | nil => simp [gaps]
    | cons x xs =>
      rw [hts] at h
      have hlast := h _ (List.getLastD_mem_cons (l := xs) (a := x))
      rw [List.map_cons, sum_gaps, sum_gaps, List.getLastD_map]
      exact hlast.abs_sub_sub_le (h x List.mem_cons_self)
  · apply abs_sqrt_variance_sub_le (by positivity)
    rw [List.forall₂_map_left_iff, List.forall₂_map_right_iff]
    refine hgaps.imp fun g g' hg => ?_
    exact_mod_cast hg

section Regular

private def receivedAt (t : UInt64) : Opcua.SubLine := ⟨1, 1, 0, t, 0, t⟩

/-- Four samples, one each millisecond. -/
private def regular : TestLog :=
  .oneWay [receivedAt 1700000000000000000, receivedAt 1700000000001000000,
    receivedAt 1700000000002000000, receivedAt 1700000000003000000]

/-- They vary in the file, by up to 256 ns. -/
theorem tbsDeltas_accurate_regular :
    gaps regular.rxTimes = [1000000, 1000000, 1000000] ∧
      tbsDeltas regular.file = [999936, 999936, 1000192] ∧
      √(variance ((tbsDeltas regular.file).map fun z : Int => (z : ℝ))) ≤ 256 := by
  have hbinade : ∀ t ∈ regular.rxTimes, InBinade 60 t := by decide +kernel
  have hgaps : gaps regular.rxTimes = [1000000, 1000000, 1000000] := by decide +kernel
  refine ⟨hgaps, by decide +kernel, ?_⟩
  obtain ⟨-, -, -, hdeviation⟩ := tbsDeltas_accurate hbinade
  have hzero : variance ((gaps regular.rxTimes).map fun z : Int => (z : ℝ)) = 0 := by
    rw [hgaps]
    norm_num [variance, mean]
  rw [hzero, Real.sqrt_zero, sub_zero, abs_of_nonneg (Real.sqrt_nonneg _)] at hdeviation
  exact hdeviation.trans (by norm_num)

end Regular

end Report

end TsnRefSw
