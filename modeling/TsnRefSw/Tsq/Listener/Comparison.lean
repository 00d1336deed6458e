import Mathlib.Algebra.Order.Group.Unbundled.Int
import TsnRefSw.Tsq.Listener.History

/-!
# Which pairs of samples are recorded

The comparison pairs samples by their seconds field: equal seconds are recorded, one second
apart makes the listener keep the newer sample, everything else is discarded. A recorded
value is the true difference of the two timestamps, but two readings of one pulse that fall
on either side of a second boundary are never recorded.
-/

namespace TsnRefSw

open Core

namespace Listener

/-- The difference of two 64-bit numbers that are close together does not wrap. -/
lemma toInt_sub_of_normal {a b : Payload} (ha : a.Normal) (hb : b.Normal) :
    (a.nsecs - b.nsecs).toInt = a.nsecs.toInt - b.nsecs.toInt := by
  obtain ⟨ha₀, ha₁⟩ := ha
  obtain ⟨hb₀, hb₁⟩ := hb
  rw [Int64.toInt_sub]
  exact Int.bmod_eq_of_le (by omega) (by omega)

/-- The comparison writes at most one line. -/
lemma out_compare (st : Listener) :
    st.compare.out = st.out ++
      if dataReady st.plValidFlag = true ∧ (st.cliData 0).secs = (st.cliData 1).secs
      then [⟨st.rounds, 0, st.nsecsError⟩] else [] := by
  cases hr : dataReady st.plValidFlag with
  | false => simp [compare_of_not_ready hr]
  | true =>
    rw [compare_of_ready hr]
    obtain ⟨h, hs⟩ | ⟨h, hs⟩ | ⟨h, hs⟩ | ⟨-, -, h, hs⟩ := st.switch_cases
    · have : ¬ (st.cliData 0).secs = (st.cliData 1).secs := by
        rw [← secsError_eq_zero, h]; decide
      simp [hs, clear, keep, this]
    · have : ¬ (st.cliData 0).secs = (st.cliData 1).secs := by
        rw [← secsError_eq_zero, h]; decide
      simp [hs, clear, keep, this]
    · simp [hs, clear, record, secsError_eq_zero.mp h, h]
    · simp [hs, clear, discard, secsError_eq_zero.not.mp h]

end Listener

/-- The counter printed in front of a line is the number of lines before it. -/
lemma rounds_eq_length {cliIds : Slot → Int32} {tr : List (Listener × Listener.Io)}
    {st : Listener} (h : (listenerLts cliIds).Run tr st) :
    st.rounds = Int32.ofNat st.out.length := by
  have hI := Listener.history h
  rw [hI.rounds, hI.out, List.length_mapIdx]

/-- Two samples that reach the comparison in the same second are recorded with the difference
of their timestamps; two samples in different seconds are not recorded. -/
theorem compare_records_same_second {cliIds : Slot → Int32}
    {tr : List (Listener × Listener.Io)} {st st₁ : Listener} {io : Listener.Io}
    (hrun : (listenerLts cliIds).Run tr st) (hreads : st.reads io = .ok st₁)
    (hready : dataReady st₁.plValidFlag = true)
    (ha : (st₁.cliData 0).Normal) (hb : (st₁.cliData 1).Normal) :
    ∃ st₂, st.iterate io = .ok st₂ ∧
      ((st₁.cliData 0).secs = (st₁.cliData 1).secs → ∃ v : Int64,
        st₂.out = st.out ++ [⟨Int32.ofNat st.out.length, 0, v⟩] ∧
        v.toInt = (st₁.cliData 0).time - (st₁.cliData 1).time) ∧
      ((st₁.cliData 0).secs ≠ (st₁.cliData 1).secs → st₂.out = st.out) := by
  obtain ⟨-, -, -, -, hrounds, hout⟩ := Listener.reads_frame hreads
  refine ⟨st₁.compare, Listener.iterate_eq_ok.mpr ⟨st₁, hreads, rfl⟩, fun hsec => ?_,
    fun hsec => ?_⟩
  · refine ⟨st₁.nsecsError, ?_, ?_⟩
    · rw [Listener.out_compare, if_pos ⟨hready, hsec⟩, hout, hrounds, rounds_eq_length hrun]
    · rw [Listener.nsecsError, Listener.toInt_sub_of_normal ha hb, Payload.time, Payload.time,
        hsec]
      omega
  · rw [Listener.out_compare, if_neg fun h => hsec h.2, hout, List.append_nil]

/-! ### Pulses near a second boundary -/

section Boundary

/-- One reading of a pulse 5 ns before second 6, one 4 ns after it, and one 12 ns before it. -/
private def early : Payload := ⟨1000, 0, 5, 999999995⟩
private def late : Payload := ⟨1001, 0, 6, 4⟩
private def earlier : Payload := ⟨1001, 0, 5, 999999988⟩

/-- The slots the first iteration compares when the connections deliver `a` and `b`. -/
private def afterReads (a b : Payload) : Listener :=
  ((Listener.start ![1000, 1001]).readSlot 0 a.toBytes).readSlot 1 b.toBytes

theorem compare_records_early_earlier :
    ∃ st₂, (Listener.start ![1000, 1001]).iterate (Listener.bothDeliver ![early, earlier])
        = .ok st₂ ∧
      ∃ v : Int64, st₂.out = [⟨Int32.ofNat 0, 0, v⟩] ∧ v.toInt = 7 := by
  have hreads : (Listener.start ![1000, 1001]).reads (Listener.bothDeliver ![early, earlier])
      = .ok (afterReads early earlier) := rfl
  obtain ⟨st₂, h, hsame, -⟩ := compare_records_same_second
    (.init (A := listenerLts ![1000, 1001]) rfl) hreads (by decide) (by decide +kernel)
    (by decide +kernel)
  obtain ⟨v, hv, htime⟩ := hsame (by decide +kernel)
  exact ⟨st₂, h, v, hv, htime.trans (by decide +kernel)⟩

/-- The comparison does not pair samples by pulse: two readings of one edge, 9 ns apart, are
not recorded when a second boundary lies between them. -/
theorem not_compare_pairs_pulses :
    ¬ ∀ (cliIds : Slot → Int32) (tr : List (Listener × Listener.Io)) (st st₁ st₂ : Listener)
      (io : Listener.Io), (listenerLts cliIds).Run tr st → st.reads io = .ok st₁ →
      dataReady st₁.plValidFlag = true → (st₁.cliData 0).Normal → (st₁.cliData 1).Normal →
      st.iterate io = .ok st₂ →
      (|(st₁.cliData 0).time - (st₁.cliData 1).time| < 5 * 10 ^ 8 → ∃ l,
        st₂.out = st.out ++ [l] ∧
        l.nsecsError.toInt = (st₁.cliData 0).time - (st₁.cliData 1).time) ∧
      (5 * 10 ^ 8 ≤ |(st₁.cliData 0).time - (st₁.cliData 1).time| → st₂.out = st.out) := by
  intro h
  have hpair := h ![1000, 1001] [] (Listener.start ![1000, 1001]) (afterReads early late)
    (afterReads early late).compare (Listener.bothDeliver ![early, late]) (.init rfl) rfl
    (by decide) (by decide +kernel) (by decide +kernel) rfl
  obtain ⟨l, hl, -⟩ := hpair.1 (by decide +kernel)
  have hout : (afterReads early late).compare.out = [] := by decide +kernel
  simp [hout] at hl

end Boundary

end TsnRefSw
