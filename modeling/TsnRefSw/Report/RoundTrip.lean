import TsnRefSw.Opcua.RoundTrip.Order
import TsnRefSw.Report.ReturnTrip
import TsnRefSw.Report.Transmission

/-!
# The report on a return-trip test

Two processes, four threads and two links that keep everything in order, then the log of A and the
reports on it. B numbers what it sends back from -1 on: the report takes the sample with that
number for none, and counts one too few.
-/

namespace TsnRefSw

open Core

namespace Report

open Opcua (RoundTrip SubReturnLine ReturnTimes Config roundTripLts)
open Opcua.RoundTrip (returnedToA published RealTimes Orderly Finished lineSeqB)
open Opcua.Server (lineSample)

/-- B's number on a line, as it is printed. -/
def printedSeqB (r : ReturnTimes) : Int := r.seqB.toInt64.toInt

/-- A's number on a line, as it is printed. -/
def printedSeqA (r : ReturnTimes) : Int := r.seqA.toInt64.toInt

/-! ### Numbers that count from -1 -/

/-- All but the first one are taken for numbers. -/
lemma length_grepNumbers {zs : List Int} {k : Nat}
    (h : zs = (List.range k).map fun i : Nat => (i : Int) - 1) :
    (grepNumbers (zs.map decimal)).length = k - 1 := by
  subst h
  cases k with
  | zero => rfl
  | succ k =>
    rw [List.range_succ_eq_map, List.map_cons, List.map_map, List.map_cons, grepNumbers,
      List.filter_cons_of_neg (by decide +kernel), List.filter_eq_self.mpr]
    · simp
    · intro w hw
      obtain ⟨z, hz, rfl⟩ := List.mem_map.mp hw
      obtain ⟨i, -, rfl⟩ := List.mem_map.mp hz
      exact decide_eq_true (isNumber_decimal (by simp))

/-- All but the first two are positive. -/
lemma filter_pos_eq_drop {α : Type*} {f : α → Int} {l : List α}
    (h : l.map f = (List.range l.length).map fun i : Nat => (i : Int) - 1) :
    l.filter (fun a => decide (0 < f a)) = l.drop 2 := by
  have hat : ∀ i (hi : i < l.length), f l[i] = i - 1 := by
    intro i hi
    have hi' := congrArg (·[i]?) h
    simpa [hi] using hi'
  conv_lhs => rw [← List.take_append_drop 2 l]
  rw [List.filter_append, List.filter_eq_nil_iff.mpr, List.nil_append, List.filter_eq_self.mpr]
  · intro a ha
    obtain ⟨i, hi, rfl⟩ := List.getElem_of_mem ha
    rw [List.getElem_drop, hat]
    rw [List.length_drop] at hi
    simp
    omega
  · intro a ha
    obtain ⟨i, hi, rfl⟩ := List.getElem_of_mem ha
    rw [List.getElem_take, hat]
    rw [List.length_take] at hi
    simp
    omega

/-! ### The log of A -/

section
variable {c : Config} {tr : List (RoundTrip c.cap × Opcua.Action)} {s : RoundTrip c.cap}

lemma map_printedSeqB (out : List SubReturnLine) :
    (out.filterMap sample).map printedSeqB =
      (out.filterMap lineSeqB).map fun n => n.toInt64.toInt := by
  rw [List.map_filterMap, List.map_filterMap]
  refine congrArg (out.filterMap ·) (funext fun l => ?_)
  cases l with
  | _ => rfl

lemma map_sample (out : List SubReturnLine) :
    (out.filterMap sample).map (fun r => (r.seqA, r.txPubA)) = out.filterMap lineSample := by
  rw [List.map_filterMap]
  refine congrArg (out.filterMap ·) (funext fun l => ?_)
  cases l with
  | _ => rfl

/-- No two of A's samples have the same number. -/
lemma nodup_published (h : (roundTripLts c).Run tr s) :
    ((published tr).map fun p => p.1.toInt64.toInt).Nodup := by
  by_cases hc : c.Publishes
  · have hnum := Opcua.RoundTrip.numbered hc h
    have hcount := hnum.count
    have hle := hnum.le
    have hpc := c.packetCount.toNat_le
    have hnumber : ∀ i < (published tr).length,
        (c.number i).toInt64.toInt = c.setupReads - 1 + i := by
      intro i hi
      have hsize : Int64.size = 2 ^ 64 := rfl
      rw [Config.number, Int64.toInt64_toUInt64, Int64.toInt_ofInt]
      exact Int.bmod_eq_of_le (by omega) (by omega)
    have hmap : (published tr).map (fun p => p.1.toInt64.toInt) =
        (List.range (published tr).length).map fun i => (c.number i).toInt64.toInt := by
      have hfst := congrArg (List.map fun n : UInt64 => n.toInt64.toInt) hnum.numbers
      rwa [List.map_map, List.map_map] at hfst
    rw [hmap]
    refine List.Nodup.map_on (fun i hi j hj hij => ?_) List.nodup_range
    rw [hnumber i (List.mem_range.mp hi), hnumber j (List.mem_range.mp hj)] at hij
    omega
  · rw [Opcua.RoundTrip.published_eq_nil hc h]
    exact .nil

/-- The counts for a log whose numbers are in order. -/
lemma calcDuploss_returnFile {out : List SubReturnLine} {n k : Nat} (debug : Bool)
    (hseqB : (out.filterMap sample).map printedSeqB =
      (List.range k).map fun i : Nat => (i : Int) - 1)
    (hseqA : ((out.filterMap sample).map printedSeqA).Nodup) :
    calcDuploss 9 debug (returnFile out) n =
      ⟨n, (k - 1 : Nat), 0, n - (k - 1 : Nat), if debug then some 0 else none⟩ := by
  have hnine : (returnFile out).map (awkField 9) =
      ((out.filterMap sample).map printedSeqB).map decimal := by
    rw [returnFile, filterResultFiles_printReturn, List.map_map, List.map_map]
    exact List.map_congr_left fun r _ => awkField_printNumbers 8 (returnNumbers r)
  have htwo : (returnFile out).map (awkField 2) =
      ((out.filterMap sample).map printedSeqA).map decimal := by
    rw [returnFile, filterResultFiles_printReturn, List.map_map, List.map_map]
    exact List.map_congr_left fun r _ => awkField_printNumbers 1 (returnNumbers r)
  have hrx : packetRx 9 (returnFile out) = (k - 1 : Nat) := by
    rw [packetRx, hnine, length_grepNumbers hseqB]
  have hdupl : packetDupl (returnFile out) = 0 := by
    rw [packetDupl_eq_zero_iff, htwo, List.isChain_map]
    exact (List.Pairwise.isChain hseqA).imp fun a b hab => decimal_injective.ne hab
  rw [calcDuploss, hrx, hdupl, sub_zero, packetErr_returnFile]

/-- Once all threads have left their loops in order, the last sample is on a line. -/
lemma length_of_finished (hlink : c.link = .ordered) (hc : c.Publishes) (hpos : 1 ≤ c.setupReads)
    (hne : c.setupReads ≠ 1000) (h : (roundTripLts c).Run tr s) (hC : ∀ x ∈ tr, Orderly x.1 x.2)
    (hfin : Finished s) :
    (returnedToA s).length + c.setupReads = c.packetCount.val.toNat + 2 := by
  have hplace := Opcua.RoundTrip.inPlace hlink hc hpos hne h hC
  have hnum := Opcua.RoundTrip.numbered hc h
  have hclosed := Opcua.RoundTrip.closed_of_left h (fun x hx => (hC x hx).2.2) hfin.2.2.2
  obtain ⟨p, hp, hlast⟩ := hplace.closed hclosed
  have hplaces := hplace.places
  rw [Opcua.RoundTrip.sentByB] at hplaces
  simp only [List.append_assoc] at hplaces
  rw [hnum.last hpos hp hlast hplaces, List.append_nil] at hplaces
  obtain ⟨l, r, hsplit⟩ := List.append_of_mem hp
  rw [hsplit] at hplaces
  obtain ⟨hcount, hroom⟩ := hnum.toNat_of_append hpos hplaces
  rw [hlast] at hcount
  rw [hsplit, List.length_append, List.length_cons]
  omega

/-- The samples A writes lines about are part of those it has published, in their order. Of `k`
such lines the report counts `k - 1` as received, and it summarises the latencies of all but the
first two. When all samples have come back, what it reports as lost is the reads of the node while
it was set up, but for one. -/
theorem reports_returnTrip (debug : Bool) {json : List Text} (hlink : c.link = .ordered)
    (hjson : packetCountOf json = some c.packetCount.val.toNat) (h : (roundTripLts c).Run tr s)
    (hreal : ∀ x ∈ tr, RealTimes x.1 x.2) :
    (returnedToA s).Sublist (published tr) ∧
      (∃ r, calcReturnDuploss debug (returnFile s.a.subReturnOut) json = some r ∧
        r.received = ((returnedToA s).length - 1 : Nat) ∧ r.duplicates = 0 ∧
        r.losses = (c.packetCount.val.toNat : Int) - ((returnedToA s).length - 1 : Nat) ∧
        (c.Publishes → 1 ≤ c.setupReads → c.setupReads ≠ 1000 → (∀ x ∈ tr, Orderly x.1 x.2) →
          Finished s → r.losses = c.setupReads - 1)) ∧
      (2 < (returnedToA s).length → ∃ u, calcReturnU2u id (returnFile s.a.subReturnOut) = some u ∧
        Summarises (((s.a.subReturnOut.filterMap sample).drop 2).map fun r =>
          r.returnLatency.toInt) u) := by
  obtain ⟨hsub, hnumbers⟩ := Opcua.RoundTrip.lines_in_order hlink h hreal
  rw [← map_printedSeqB] at hnumbers
  have hlength : (s.a.subReturnOut.filterMap sample).length = (returnedToA s).length := by
    rw [returnedToA, ← map_sample, List.length_map]
  have hseqA : ((s.a.subReturnOut.filterMap sample).map printedSeqA).Nodup := by
    have hnodup := (nodup_published h).sublist (hsub.map fun p => p.1.toInt64.toInt)
    rwa [returnedToA, ← map_sample, List.map_map] at hnodup
  have hcounts :=
    calcDuploss_returnFile (n := c.packetCount.val.toNat) debug hnumbers hseqA
  have hreport : calcReturnDuploss debug (returnFile s.a.subReturnOut) json =
      some (calcDuploss 9 debug (returnFile s.a.subReturnOut) c.packetCount.val.toNat) := by
    rw [calcReturnDuploss, hjson]
    rfl
  rw [hcounts] at hreport
  refine ⟨hsub, ⟨_, hreport, rfl, rfl, rfl, fun hc hpos hne hC hfin => ?_⟩, fun hmore => ?_⟩
  · have hall := length_of_finished hlink hc hpos hne h hC hfin
    have hpublishes : c.setupReads < c.packetCount.val.toNat + 2 := hc
    show (c.packetCount.val.toNat : Int) - ((returnedToA s).length - 1 : Nat) = _
    omega
  · have hlatencies : latencies 14 9 (returnFile s.a.subReturnOut) =
        ((s.a.subReturnOut.filterMap sample).drop 2).map fun r => r.returnLatency.toInt := by
      rw [returnFile, filterResultFiles_printReturn,
        latencies_printNumbers (i := 13) (j := 8) (fun r => rfl) (fun r => rfl)]
      rw [← hlength] at hnumbers
      exact congrArg _ (filter_pos_eq_drop hnumbers)
    rw [← hlength] at hmore
    obtain ⟨u, hu⟩ := exists_calcU2u id hlatencies (by
      refine List.ne_nil_of_length_pos ?_
      rw [List.length_map, List.length_drop]
      omega)
    exact ⟨u, hu, summarises_calcU2u (fun _ _ => rfl) hlatencies (lt_add_one _) hu⟩

end

section BothReturned

private lemma both_packets_ge : (1 : UInt64) ≤ 2 := by decide

private lemma both_packets_le : (2 : UInt64) ≤ 10000000 := by decide

/-- Two samples, and a queue for one. -/
private def bothSamples : Config where
  packetCount := ⟨2, both_packets_ge, both_packets_le⟩
  cap := 1
  link := .ordered
  setupReads := 2
  idA := 0
  idB := 1

/-- B stores a sample and sends it back. -/
private def sendBack (now : UInt64) : List Opcua.Action :=
  [.receive 0, .store now, .finish, .gateB, .fetch, .forward (now + 100), .emitReturn]

/-- A publishes both samples, and both come back. -/
private def bothReturned : List Opcua.Action :=
  [.test .aSub, .test .bSub, .test .bPub, .test .aPub, .gateA, .publish 1000, .emit, .test .aPub,
    .gateA, .publish 2000, .emit, .test .aPub] ++ sendBack 2200 ++ [.test .bPub] ++
    sendBack 2400 ++ [.test .bPub, .idleB, .test .bSub, .receiveReturn 0 2600,
      .receiveReturn 0 2700, .idleA, .test .aSub]

/-- One of the two is reported as lost. -/
theorem reports_returnTrip_both : ∃ tr s, (roundTripLts bothSamples).Run tr s ∧
    returnedToA s = [(1, 1000), (2, 2000)] ∧
    ∃ r, calcReturnDuploss false (returnFile s.a.subReturnOut)
      ["\"packet_count\": 2,".toList] = some r ∧ r.received = 1 ∧ r.losses = 1 := by
  have hrun : ((roundTripLts bothSamples).replay (RoundTrip.start bothSamples) bothReturned).map
      (fun r => (returnedToA r.2, decide (∀ x ∈ r.1, RealTimes x.1 x.2),
        decide (∀ x ∈ r.1, Orderly x.1 x.2), decide (Finished r.2))) =
          some ([(1, 1000), (2, 2000)], true, true, true) := by
    decide +kernel
  obtain ⟨⟨tr, s⟩, hr, hsees⟩ := Option.map_eq_some_iff.mp hrun
  simp only [Prod.mk.injEq, decide_eq_true_iff] at hsees
  obtain ⟨hreturned, hreal, hC, hfin⟩ := hsees
  have h : (roundTripLts bothSamples).Run tr s := .of_replay rfl hr
  have hjson : packetCountOf ["\"packet_count\": 2,".toList] =
      some bothSamples.packetCount.val.toNat := by
    decide +kernel
  obtain ⟨-, ⟨r, hreport, hreceived, -, -, hlosses⟩, -⟩ :=
    reports_returnTrip false rfl hjson h hreal
  refine ⟨tr, s, h, hreturned, r, hreport, ?_, ?_⟩
  · rw [hreceived, hreturned]
    rfl
  · exact hlosses (by decide : 2 < 2 + 2) (by decide) (by decide) hC hfin

end BothReturned

end Report

end TsnRefSw
