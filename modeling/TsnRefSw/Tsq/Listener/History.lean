import Mathlib.Data.Fin.VecNotation
import TsnRefSw.Tsq.Listener.Basic

/-!
# The listener's output over whole runs

Every line of the output pairs a sample accepted on connection 0 with one accepted on
connection 1. Read in order, the samples used on a connection form a subsequence of the
samples accepted there, so that none is used twice and their order is kept.

The invariant carries, next to the samples already used, the one a slot could contribute to
the next line: the kept sample, or the one stored since the last comparison.
-/

namespace TsnRefSw

open Core
open scoped List

namespace Listener

/-! ### Histories -/

/-- The sample a read of `bytes` on connection `i` makes the listener store, if any. -/
def acceptedBy (st : Listener) (i : Slot) (bytes : List UInt8) : List Payload :=
  if ¬ st.Keeping i ∧ st.Presents bytes then [window bytes] else []

/-- The sample accepted on connection `i` in an iteration, if any. -/
def acceptedAt (i : Slot) (st : Listener) (io : Io) : List Payload :=
  match io.slots i with
  | .got bytes _ => st.acceptedBy i bytes
  | _            => []

/-- The samples accepted on connection `i` in the course of a run. -/
def accepted (i : Slot) (tr : List (Listener × Io)) : List Payload :=
  tr.flatMap fun x => acceptedAt i x.1 x.2

/-- The slots an iteration compares, if it comes to a comparison. -/
def comparedAt (st : Listener) (io : Io) : List (Slot → Payload) :=
  match st.reads io with
  | .ok st₁  => if dataReady st₁.plValidFlag then [st₁.cliData] else []
  | .error _ => []

/-- The slots at each comparison of a run. -/
def compared (tr : List (Listener × Io)) : List (Slot → Payload) :=
  tr.flatMap fun x => comparedAt x.1 x.2

/-- The slots at the comparisons that wrote a line. -/
def recorded (tr : List (Listener × Io)) : List (Slot → Payload) :=
  (compared tr).filter fun p => (p 0).secs = (p 1).secs

/-- The line written for a pair of samples, `k` lines having been written before. -/
def lineOf (k : Nat) (p : Slot → Payload) : Line := ⟨Int32.ofNat k, 0, (p 0).nsecs - (p 1).nsecs⟩

/-- The sample slot `i` could still contribute to a line. -/
def candidate (st : Listener) (i : Slot) : List Payload :=
  if st.Keeping i then [st.keepData]
  else if st.plValidFlag i then [st.cliData i]
  else []

section
variable (tr : List (Listener × Io)) (st : Listener) (io : Io)

@[simp] lemma accepted_append (i : Slot) :
    accepted i (tr ++ [(st, io)]) = accepted i tr ++ acceptedAt i st io := by simp [accepted]

@[simp] lemma compared_append :
    compared (tr ++ [(st, io)]) = compared tr ++ comparedAt st io := by simp [compared]

lemma recorded_append : recorded (tr ++ [(st, io)]) =
    recorded tr ++ (comparedAt st io).filter fun p => (p 0).secs = (p 1).secs := by
  simp [recorded]

end

/-! ### What a read contributes -/

/-- A slot that is refilled from the kept sample holds that sample whenever it is flagged. -/
def Fresh (st : Listener) : Prop :=
  ∀ i, st.Keeping i → st.plValidFlag i = true → st.cliData i = st.keepData

lemma Fresh.readSlot {st : Listener} (h : st.Fresh) (i : Slot) (bytes : List UInt8) :
    (st.readSlot i bytes).Fresh := by
  intro j hk hflag
  rw [keeping_readSlot] at hk
  by_cases hij : j = i
  · subst hij
    simp [readSlot_of_keeping hk]
  · obtain ⟨hdata, hf⟩ := @readSlot_of_ne st i j bytes hij
    rw [hdata, readSlot_keepData]
    exact h j hk (hf ▸ hflag)

lemma candidate_of_ready {st : Listener} (h : st.Fresh) (hr : dataReady st.plValidFlag = true)
    (i : Slot) : st.candidate i = [st.cliData i] := by
  have hf := dataReady_iff.mp hr i
  unfold candidate
  split_ifs with hk
  · rw [h i hk hf]
  · rfl

lemma candidate_readSlot_of_ne {st : Listener} {i j : Slot} (bytes : List UInt8) (h : j ≠ i) :
    (st.readSlot i bytes).candidate j = st.candidate j := by
  obtain ⟨hdata, hf⟩ := @readSlot_of_ne st i j bytes h
  simp [candidate, hdata, hf]

/-- A read either leaves the candidate of its slot alone or replaces it by the sample it
accepts. -/
lemma candidate_readSlot_self (st : Listener) (i : Slot) (bytes : List UInt8) :
    (st.readSlot i bytes).candidate i =
      if st.acceptedBy i bytes = [] then st.candidate i else st.acceptedBy i bytes := by
  by_cases hk : st.Keeping i
  · simp [candidate, acceptedBy, hk]
  · by_cases hp : st.Presents bytes
    · have hk' : ¬ (st.readSlot i bytes).Keeping i := by rwa [keeping_readSlot]
      rw [readSlot_of_presents hk hp] at hk' ⊢
      simp [candidate, acceptedBy, hk, hk', hp]
    · simp [acceptedBy, hk, hp, readSlot_of_not_presents]

/-- Used samples followed by the candidate stay a subsequence of the accepted ones. -/
lemma sublist_readSlot {st : Listener} {l L : List Payload} {i : Slot} (bytes : List UInt8)
    (h : l ++ st.candidate i <+ L) :
    l ++ (st.readSlot i bytes).candidate i <+ L ++ st.acceptedBy i bytes := by
  rw [candidate_readSlot_self]
  split_ifs with ha
  · simpa [ha] using h
  · exact ((List.sublist_append_left _ _).trans h).append (List.Sublist.refl _)

/-- The same over the reads of an iteration, for both connections. -/
lemma sublist_reads {st st₁ : Listener} {io : Io} (hr : st.reads io = .ok st₁)
    {l : List (Slot → Payload)} {L : Slot → List Payload}
    (h : ∀ i, l.map (· i) ++ st.candidate i <+ L i) (i : Slot) :
    l.map (· i) ++ st₁.candidate i <+ L i ++ acceptedAt i st io := by
  obtain ⟨-, st', h₀, h₁⟩ := reads_cases hr
  have hfirst : l.map (· 0) ++ st'.candidate 0 <+ L 0 ++ acceptedAt 0 st io ∧
      l.map (· 1) ++ st'.candidate 1 <+ L 1 ∧ acceptedAt 1 st' io = acceptedAt 1 st io := by
    obtain ⟨hio, rfl⟩ | ⟨bytes, hb, hio, rfl⟩ := slotStep_cases h₀
    · exact ⟨by simpa [acceptedAt, hio] using h 0, h 1, rfl⟩
    · refine ⟨by simpa [acceptedAt, hio] using sublist_readSlot bytes (h 0), ?_, ?_⟩
      · rw [candidate_readSlot_of_ne bytes (by decide)]
        exact h 1
      · simp [acceptedAt, acceptedBy]
  obtain ⟨hl₀, hl₁, hacc⟩ := hfirst
  have hsecond : st₁.candidate 0 = st'.candidate 0 ∧
      l.map (· 1) ++ st₁.candidate 1 <+ L 1 ++ acceptedAt 1 st' io := by
    obtain ⟨hio, rfl⟩ | ⟨bytes, hb, hio, rfl⟩ := slotStep_cases h₁
    · exact ⟨rfl, by simpa [acceptedAt, hio] using hl₁⟩
    · exact ⟨candidate_readSlot_of_ne bytes (by decide),
        by simpa [acceptedAt, hio] using sublist_readSlot bytes hl₁⟩
  revert i
  refine Fin.forall_fin_two.mpr ⟨?_, ?_⟩
  · rw [hsecond.1]
    exact hl₀
  · rw [← hacc]
    exact hsecond.2

lemma Fresh.reads {st st₁ : Listener} {io : Io} (h : st.Fresh) (hr : st.reads io = .ok st₁) :
    st₁.Fresh := by
  obtain ⟨-, st', h₀, h₁⟩ := reads_cases hr
  have hfirst : st'.Fresh := by
    obtain ⟨-, rfl⟩ | ⟨bytes, -, -, rfl⟩ := slotStep_cases h₀
    · exact h
    · exact h.readSlot 0 bytes
  obtain ⟨-, rfl⟩ | ⟨bytes, -, -, rfl⟩ := slotStep_cases h₁
  · exact hfirst
  · exact hfirst.readSlot 1 bytes

/-! ### The invariant -/

/-- What the listener's state has to do with the history of the run. -/
structure History (tr : List (Listener × Io)) (st : Listener) : Prop where
  fresh : st.Fresh
  used : ∀ i, (recorded tr).map (· i) ++ st.candidate i <+ accepted i tr
  out : st.out = (recorded tr).mapIdx lineOf
  rounds : st.rounds = Int32.ofNat (recorded tr).length
  kept : st.skipSlot = true → ∃ p, (compared tr).getLast? = some p ∧
    st.keepData = p st.keepDataSlot

lemma history_start (cliIds : Slot → Int32) : History [] (start cliIds) where
  fresh := by simp [Fresh, start, Keeping]
  used := by simp [recorded, compared, candidate, start, Keeping]
  out := rfl
  rounds := rfl
  kept := by simp [start]

/-- The situation of `History` when both slots are filled, `tr` being the run so far and `tr'`
the run with the comparison. -/
structure Comparing (tr tr' : List (Listener × Io)) (st : Listener) : Prop where
  used : ∀ i, (recorded tr).map (· i) ++ [st.cliData i] <+ accepted i tr'
  out : st.out = (recorded tr).mapIdx lineOf
  rounds : st.rounds = Int32.ofNat (recorded tr).length
  compared : compared tr' = compared tr ++ [st.cliData]

namespace Comparing

variable {tr tr' : List (Listener × Io)} {st : Listener}

lemma used_left (h : Comparing tr tr' st) (i : Slot) :
    (recorded tr).map (· i) <+ accepted i tr' :=
  (List.sublist_append_left _ _).trans (h.used i)

lemma recorded_of_ne (h : Comparing tr tr' st) (hs : st.secsError ≠ 0) :
    recorded tr' = recorded tr := by
  have : ¬ (st.cliData 0).secs = (st.cliData 1).secs := fun he =>
    hs (by rw [secsError, he, Int64.sub_self])
  simp [recorded, h.compared, this]

lemma recorded_of_eq (h : Comparing tr tr' st)
    (hs : (st.cliData 0).secs = (st.cliData 1).secs) :
    recorded tr' = recorded tr ++ [st.cliData] := by
  simp [recorded, h.compared, hs]

/-- Keeping the sample of slot `j`: it stays the candidate of its slot, the other is lost. -/
lemma keep (h : Comparing tr tr' st) (hs : st.secsError ≠ 0) (j : Slot) :
    History tr' (st.keep j).clear where
  fresh := by simp [Fresh, clear, resetDataReady]
  used i := by
    rw [h.recorded_of_ne hs]
    by_cases hij : j = i
    · subst hij
      simpa [clear, Listener.keep, candidate, Keeping] using h.used j
    · simpa [clear, Listener.keep, candidate, Keeping, resetDataReady, hij] using h.used_left i
  out := by rw [h.recorded_of_ne hs]; exact h.out
  rounds := by rw [h.recorded_of_ne hs]; exact h.rounds
  kept := by simp [h.compared, clear, Listener.keep]

/-- Writing a line: the samples of both slots are used, and no slot has a candidate. -/
lemma record (h : Comparing tr tr' st) (hs : (st.cliData 0).secs = (st.cliData 1).secs) :
    History tr' st.record.clear where
  fresh := by simp [Fresh, clear, resetDataReady]
  used i := by
    simpa [h.recorded_of_eq hs, clear, Listener.record, candidate, Keeping, resetDataReady]
      using h.used i
  out := by
    have hzero : st.secsError = 0 := by rw [secsError, hs, Int64.sub_self]
    simp [h.recorded_of_eq hs, clear, Listener.record, h.out, h.rounds, hzero, lineOf,
      nsecsError, List.mapIdx_append]
  rounds := by simp [h.recorded_of_eq hs, clear, Listener.record, h.rounds, Int32.ofNat_add]
  kept := by simp [clear, Listener.record]

lemma discard (h : Comparing tr tr' st) (hs : st.secsError ≠ 0) :
    History tr' st.discard.clear where
  fresh := by simp [Fresh, clear, resetDataReady]
  used i := by
    simpa [h.recorded_of_ne hs, clear, Listener.discard, candidate, Keeping, resetDataReady]
      using h.used_left i
  out := by rw [h.recorded_of_ne hs]; exact h.out
  rounds := by rw [h.recorded_of_ne hs]; exact h.rounds
  kept := by simp [clear, Listener.discard]

end Comparing

/-- An iteration keeps the invariant. -/
lemma History.iterate {tr : List (Listener × Io)} {st st₁ : Listener} {io : Io}
    (h : History tr st) (hr : st.reads io = .ok st₁) :
    History (tr ++ [(st, io)]) st₁.compare := by
  have hfresh := h.fresh.reads hr
  have hused := sublist_reads hr h.used
  obtain ⟨-, hkeep, hskip, hslot, hrounds, hout⟩ := reads_frame hr
  cases hready : dataReady st₁.plValidFlag with
  | false =>
    have hcmp : comparedAt st io = [] := by simp [comparedAt, hr, hready]
    rw [compare_of_not_ready hready]
    exact {
      fresh := hfresh
      used := by simpa [recorded_append, hcmp] using hused
      out := by simpa [recorded_append, hcmp, hout] using h.out
      rounds := by simpa [recorded_append, hcmp, hrounds] using h.rounds
      kept := by simpa [hcmp, hskip, hkeep, hslot] using h.kept }
  | true =>
    have hcmp : Comparing tr (tr ++ [(st, io)]) st₁ :=
      { used := fun i => by simpa [candidate_of_ready hfresh hready] using hused i
        out := hout.trans h.out
        rounds := hrounds.trans h.rounds
        compared := by simp [comparedAt, hr, hready] }
    rw [compare_of_ready hready]
    obtain ⟨he, hs⟩ | ⟨he, hs⟩ | ⟨he, hs⟩ | ⟨-, -, he, hs⟩ := st₁.switch_cases
    · rw [hs]; exact hcmp.keep (by rw [he]; decide) 0
    · rw [hs]; exact hcmp.keep (by rw [he]; decide) 1
    · rw [hs]; exact hcmp.record (secsError_eq_zero.mp he)
    · rw [hs]; exact hcmp.discard he

theorem history {cliIds : Slot → Int32} {tr : List (Listener × Io)} {st : Listener}
    (h : (listenerLts cliIds).Run tr st) : History tr st := by
  refine h.induct ?_ ?_
  · rintro _ rfl; exact history_start cliIds
  · intro tr st io st' _ hI hs
    obtain ⟨st₁, hr, rfl⟩ := iterate_eq_ok.mp (listenerLts_step.mp hs)
    exact hI.iterate hr

end Listener

/-! ### The output of a run -/

/-- The output of a run of the listener: the `k`-th line carries the number `k` and pairs a
sample accepted on connection 0 with one accepted on connection 1 in the same second, its
value being the difference of their nanoseconds; no accepted sample is used twice; a kept
sample is the one its slot held at the last comparison; and where the accepted samples of each
connection have increasing seconds, so have the recorded ones. -/
theorem listener_output {cliIds : Slot → Int32} {tr : List (Listener × Listener.Io)}
    {st : Listener} (h : (listenerLts cliIds).Run tr st) :
    (∃ pairs : List (Slot → Payload),
      st.out = pairs.mapIdx (fun k p => ⟨Int32.ofNat k, 0, (p 0).nsecs - (p 1).nsecs⟩) ∧
      (∀ p ∈ pairs, (p 0).secs = (p 1).secs) ∧
      (∀ i, pairs.map (· i) <+ Listener.accepted i tr) ∧
      ((∀ i, (Listener.accepted i tr).Pairwise (·.secs < ·.secs)) →
        pairs.Pairwise fun p q => (p 0).secs < (q 0).secs)) ∧
    (st.skipSlot = true → ∃ p, (Listener.compared tr).getLast? = some p ∧
      st.keepData = p st.keepDataSlot) := by
  have hI := Listener.history h
  have hused : ∀ i, (Listener.recorded tr).map (· i) <+ Listener.accepted i tr := fun i =>
    (List.sublist_append_left _ _).trans (hI.used i)
  refine ⟨⟨Listener.recorded tr, hI.out, ?_, hused, fun hmono => ?_⟩, hI.kept⟩
  · simp [Listener.recorded]
  · have hsecs := (hmono 0).sublist (hused 0)
    rwa [List.pairwise_map] at hsecs

section
open Listener

/-- The sample of connection 0 is one second ahead and is kept; it is recorded with the next
sample of connection 1, and what connection 0 delivers meanwhile is dropped. -/
theorem listener_output_kept :
    ∃ pairs : List (Slot → Payload), pairs.length = 1 ∧
      ∀ i, pairs.map (· i) <+ accepted i
        [(start ![1000, 1001], bothDeliver ![⟨1000, 0, 6, 15⟩, ⟨1001, 0, 5, 20⟩]),
          ((start ![1000, 1001]).serve ![⟨1000, 0, 6, 15⟩, ⟨1001, 0, 5, 20⟩],
            bothDeliver ![⟨1000, 1, 7, 14⟩, ⟨1001, 1, 6, 21⟩])] := by
  have hrun : (listenerLts ![1000, 1001]).Run _ _ := ((Lts.Run.init rfl).step
    (listenerLts_step.mpr (iterate_bothDeliver (start ![1000, 1001])
      ![⟨1000, 0, 6, 15⟩, ⟨1001, 0, 5, 20⟩]))).step
    (listenerLts_step.mpr (iterate_bothDeliver _ ![⟨1000, 1, 7, 14⟩, ⟨1001, 1, 6, 21⟩]))
  obtain ⟨⟨pairs, hout, -, hused, -⟩, -⟩ := listener_output hrun
  refine ⟨pairs, ?_, hused⟩
  have hlength := congrArg List.length hout
  rw [List.length_mapIdx] at hlength
  rw [← hlength]
  decide +kernel

end

end TsnRefSw
