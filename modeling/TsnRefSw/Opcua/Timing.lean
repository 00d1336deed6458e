import Mathlib.Order.Bounds.Basic
import TsnRefSw.Core.Lts
import TsnRefSw.Opcua.Phases

/-!
# The schedule of the two threads

Whether the first transmission of a publisher thread and its first wake-up are still to come when
the thread has computed them, and the times of all cycles after that. The second at which a
thread aims is found by rounding up the seconds of the clock alone, so that nothing is left of the
second when the clock already shows a multiple of ten.
-/

namespace TsnRefSw

open Core

namespace Opcua

/-- The second at which a thread aims is the least multiple of ten that is not past. -/
lemma isLeast_nextTen (sec : Nat) : IsLeast {k | 10 ∣ k ∧ sec ≤ k} (nextTen sec) := by
  unfold nextTen
  refine ⟨⟨Nat.dvd_mul_left _ _, by omega⟩, ?_⟩
  rintro k ⟨⟨j, rfl⟩, hk⟩
  omega

section
variable (sdata : ServerData) (pdata : PublisherData sdata.useXDP) (sec nsec : Nat)

/-! ### The first transmission -/

/-- The whole seconds from the clock reading to the second at which the publisher aims. -/
def secondsAhead : Nat := nextTen sec - sec + pdata.publishDelaySec.1.toNat

/-- A publisher thread that reads `sec` and `nsec` on the clock is ahead of its first transmission
and of its first wake-up, which is earlier by `early_offset_ns`. -/
def FirstInFuture : Prop :=
  sec * nsecPerSec + nsec < transmission sdata pdata sec 0 ∧
  (PubTimer.start sdata pdata sec).sleep.ns =
    (transmission sdata pdata sec 0 : Int) - pdata.earlyOffsetNs.1 ∧
  (sec * nsecPerSec + nsec : Nat) < (PubTimer.start sdata pdata sec).sleep.ns

/-- What `early_offset_ns` is subtracted from is no less. -/
lemma ns_sleep (t : PubTimer) (htx : t.txTimestamp < 2 ^ 64) (hearly : t.earlyOffsetNs < 2 ^ 64) :
    t.sleep.ns = (t.txTimestamp : Int) - t.earlyOffsetNs ↔ t.earlyOffsetNs ≤ t.txTimestamp := by
  rw [PubTimer.sleep, Timespec.ns_ofNs]
  omega

lemma exactTransmission_zero : exactTransmission sdata pdata sec 0 =
    sec * nsecPerSec + (secondsAhead sdata pdata sec * nsecPerSec +
      pdata.publishOffsetNs.1.toNat) := by
  have hle : sec ≤ nextTen sec := (isLeast_nextTen sec).1.2
  rw [exactTransmission, secondsAhead, ← Nat.add_assoc, ← Nat.add_mul, Nat.zero_mul, Nat.add_zero]
  congr 2
  omega

/-- The bounds that `parseJson()` checks, for the numbers as they are computed with. -/
lemma toNat_publisher : pdata.earlyOffsetNs.1.toNat ≤ 1000000 ∧
    pdata.publishOffsetNs.1.toNat ≤ 10000000 ∧ pdata.publishDelaySec.1.toNat < 2 ^ 31 ∧
    (pdata.earlyOffsetNs.1.toNat : Int) = pdata.earlyOffsetNs.1 := by
  refine ⟨Int.toNat_le.mpr pdata.earlyOffsetNs.2.2, Int.toNat_le.mpr pdata.publishOffsetNs.2.2, ?_,
    Int.toNat_of_nonneg pdata.earlyOffsetNs.2.1⟩
  have hdelay : pdata.publishDelaySec.1.toNat ≤ 2 ^ 31 - 1 :=
    Int.toNat_le.mpr pdata.publishDelaySec.2.2
  exact Nat.lt_of_le_sub_one (by decide) hdelay

/-- If the counter wraps around before the loop, it falls behind the clock. -/
lemma transmission_le_of_wraps (h : 2 ^ 64 ≤ exactTransmission sdata pdata sec 0) :
    transmission sdata pdata sec 0 ≤ sec * nsecPerSec := by
  obtain ⟨-, hoffset, hdelay, -⟩ := toNat_publisher sdata pdata
  have hahead : secondsAhead sdata pdata sec < 10 + 2 ^ 31 := by
    unfold secondsAhead nextTen
    omega
  rw [transmission_eq]
  rw [exactTransmission_zero] at h ⊢
  simp only [nsecPerSec] at *
  omega

/-- Both times are in the future if and only if the counter does not wrap around, and there are
two whole seconds ahead, or one and the nanoseconds of the clock with `early_offset_ns` leave
room, or none and `publish_offset_ns` is larger than both. -/
theorem firstInFuture_iff (hn : nsec < nsecPerSec) :
    FirstInFuture sdata pdata sec nsec ↔
      (nextTen sec + pdata.publishDelaySec.1.toNat) * nsecPerSec +
        pdata.publishOffsetNs.1.toNat < 2 ^ 64 ∧
      (2 ≤ secondsAhead sdata pdata sec ∨
        (secondsAhead sdata pdata sec = 1 ∧
          nsec + pdata.earlyOffsetNs.1.toNat < nsecPerSec + pdata.publishOffsetNs.1.toNat) ∨
        (secondsAhead sdata pdata sec = 0 ∧
          nsec + pdata.earlyOffsetNs.1.toNat < pdata.publishOffsetNs.1.toNat)) := by
  obtain ⟨hearly, hoffset, hdelay, hcast⟩ := toNat_publisher sdata pdata
  have hexact := exactTransmission_zero sdata pdata sec
  have hstart : exactTransmission sdata pdata sec 0 =
      (nextTen sec + pdata.publishDelaySec.1.toNat) * nsecPerSec +
        pdata.publishOffsetNs.1.toNat := by
    rw [exactTransmission, Nat.zero_mul, Nat.add_zero]
  rw [← hstart]
  by_cases hwrap : 2 ^ 64 ≤ exactTransmission sdata pdata sec 0
  · have hle := transmission_le_of_wraps sdata pdata sec hwrap
    constructor
    · rintro ⟨hlt, -, -⟩
      omega
    · rintro ⟨hlt, -⟩
      omega
  · have htx : transmission sdata pdata sec 0 = exactTransmission sdata pdata sec 0 := by
      rw [transmission_eq, Nat.mod_eq_of_lt (Nat.lt_of_not_le hwrap)]
    have hsleep : (PubTimer.start sdata pdata sec).sleep.ns =
        (exactTransmission sdata pdata sec 0 : Int) - pdata.earlyOffsetNs.1 ↔
        pdata.earlyOffsetNs.1.toNat ≤ exactTransmission sdata pdata sec 0 := by
      rw [← htx, ← hcast]
      exact ns_sleep _ (Nat.mod_lt _ (by decide)) (Nat.lt_of_le_of_lt hearly (by decide))
    unfold FirstInFuture
    rw [htx, hsleep]
    simp only [nsecPerSec] at *
    constructor
    · rintro ⟨hlt, hle, hlt'⟩
      rw [hsleep.mpr hle] at hlt'
      omega
    · rintro ⟨-, h⟩
      have hle : pdata.earlyOffsetNs.1.toNat ≤ exactTransmission sdata pdata sec 0 := by omega
      rw [hsleep.mpr hle]
      omega

end

section Starts

/-- With a delay of three seconds, a thread that starts at ten seconds is in time. -/
theorem firstInFuture_iff_delay :
    ∃ sdata, parseJson (fun _ => true)
        (.opcuaServer false 300000 [.publisher 0 2234 3 false] []) = .ok sdata ∧
      ∃ pdata ∈ sdata.pubData, FirstInFuture sdata pdata 10 999999999 := by
  refine ⟨_, rfl, _, List.mem_singleton_self _, ?_⟩
  apply (firstInFuture_iff _ _ 10 999999999 (by decide)).mpr
  exact ⟨by decide, .inl (by decide)⟩

/-- Without a delay it is late from the 200000th nanosecond on. -/
theorem not_firstInFuture :
    ∃ sdata, parseJson (fun _ => true)
        (.opcuaServer false 300000 [.publisher 0 2234 0 false] []) = .ok sdata ∧
      ∃ pdata ∈ sdata.pubData, ¬ FirstInFuture sdata pdata 10 200000 ∧
        transmission sdata pdata 10 0 = 10 * nsecPerSec + 900000 := by
  refine ⟨_, rfl, _, List.mem_singleton_self _, ?_, by decide⟩
  rw [firstInFuture_iff _ _ 10 200000 (by decide)]
  decide

end Starts

/-! ### All cycles -/

/-- The loop of `pub_thread()`. -/
structure PubThread where
  timer : PubTimer
  /-- `ethernetETFtransportSettings.transmission_time`, for the message of the current cycle. -/
  transmissionTime : Nat

/-- The cycles of a publisher thread that starts when the clock shows `sec` seconds. Each finds
`g_roundtrip_pubReturn` set, and calls back, or not. -/
def pubThreadLts (sdata : ServerData) (pdata : PublisherData sdata.useXDP) (sec : Nat) :
    Lts PubThread Bool where
  init s := s = ⟨.start sdata pdata sec, (PubTimer.start sdata pdata sec).txTimestamp⟩
  step s _ := some ⟨s.timer.next, s.timer.next.txTimestamp⟩

section
variable (sdata : ServerData) (pdata : PublisherData sdata.useXDP) (sec : Nat)

/-- At the head of cycle `n` the times are as configured, and no computation with unsigned numbers
wraps around, neither before the loop nor in this cycle. -/
structure OnTime (n : Nat) (s : PubThread) : Prop where
  transmission : s.transmissionTime = exactTransmission sdata pdata sec n
  sleep : s.timer.sleep.ns = (exactTransmission sdata pdata sec n : Int) - pdata.earlyOffsetNs.1
  start : (nextTen sec + pdata.publishDelaySec.1.toNat) * nsecPerSec +
    pdata.publishOffsetNs.1.toNat < 2 ^ 64
  early : s.timer.earlyOffsetNs ≤ s.timer.txTimestamp
  next : s.timer.txTimestamp + s.timer.cycleTimeNs < 2 ^ 64

lemma earlyOffsetNs_iterate_next (n : Nat) (t : PubTimer) :
    (PubTimer.next^[n] t).earlyOffsetNs = t.earlyOffsetNs := by
  induction n with
  | zero => rfl
  | succ n ih =>
    rw [Function.iterate_succ_apply']
    exact ih

variable {sdata pdata sec}

/-- Pauses change nothing about the times. -/
lemma pubThread_run {tr : List (PubThread × Bool)} {s : PubThread}
    (h : (pubThreadLts sdata pdata sec).Run tr s) :
    s.timer = PubTimer.next^[tr.length] (.start sdata pdata sec) ∧
      s.transmissionTime = transmission sdata pdata sec tr.length := by
  induction h with
  | init h =>
    cases h
    exact ⟨rfl, rfl⟩
  | @step tr s s' paused h hs ih =>
    obtain ⟨htimer, -⟩ := ih
    cases hs
    rw [List.length_append, List.length_singleton, transmission, Function.iterate_succ_apply',
      ← htimer]
    exact ⟨rfl, rfl⟩

lemma exactTransmission_le {n : Nat} : exactTransmission sdata pdata sec 0 ≤
    exactTransmission sdata pdata sec n := by
  unfold exactTransmission
  apply Nat.add_le_add_left
  rw [Nat.zero_mul]
  exact Nat.zero_le _

/-- The 64 bits of the counter are enough for `2 ^ 40` cycles. -/
lemma exactTransmission_lt (hsec : sec < 2 ^ 33) {n : Nat} (hn : n ≤ 2 ^ 40) :
    exactTransmission sdata pdata sec n < 2 ^ 64 := by
  obtain ⟨-, hoffset, hdelay, -⟩ := toNat_publisher sdata pdata
  have hcycle : n * sdata.cycleTimeNs.1.toNat ≤ 2 ^ 40 * 5000000 :=
    Nat.mul_le_mul hn (Int.toNat_le.mpr sdata.cycleTimeNs.2.2)
  simp only [exactTransmission, nextTen, nsecPerSec]
  omega

lemma early_le_iff : pdata.earlyOffsetNs.1.toNat ≤ exactTransmission sdata pdata sec 0 ↔
    0 < sec ∨ 0 < pdata.publishDelaySec.1 ∨
      pdata.earlyOffsetNs.1 ≤ pdata.publishOffsetNs.1 := by
  have hearly : pdata.earlyOffsetNs.1 ≤ 1000000 := pdata.earlyOffsetNs.2.2
  have hoffset := pdata.publishOffsetNs.2.1
  have hdelay := pdata.publishDelaySec.2.1
  simp only [exactTransmission, nextTen, nsecPerSec, Nat.zero_mul, Nat.add_zero]
  omega

/-- Where the first wake-up is not before the epoch, every cycle is on time. -/
lemma onTime_of_early_le (hsec : sec < 2 ^ 33)
    (hearly : pdata.earlyOffsetNs.1.toNat ≤ exactTransmission sdata pdata sec 0)
    {tr : List (PubThread × Bool)} {s : PubThread}
    (h : (pubThreadLts sdata pdata sec).Run tr s) (hn : tr.length < 2 ^ 40) :
    OnTime sdata pdata sec tr.length s := by
  obtain ⟨htimer, htrans⟩ := pubThread_run h
  obtain ⟨hmax, -, -, hcast⟩ := toNat_publisher sdata pdata
  have hexact : transmission sdata pdata sec tr.length =
      exactTransmission sdata pdata sec tr.length := by
    rw [transmission_eq, Nat.mod_eq_of_lt (exactTransmission_lt hsec hn.le)]
  have htx : s.timer.txTimestamp = exactTransmission sdata pdata sec tr.length := by
    rw [htimer]
    exact hexact
  have he : s.timer.earlyOffsetNs = pdata.earlyOffsetNs.1.toNat := by
    rw [htimer, earlyOffsetNs_iterate_next]
    rfl
  have hle : s.timer.earlyOffsetNs ≤ s.timer.txTimestamp := by
    rw [he, htx]
    exact hearly.trans exactTransmission_le
  have hlt : s.timer.txTimestamp < 2 ^ 64 := by
    rw [htx]
    exact exactTransmission_lt hsec hn.le
  refine ⟨htrans.trans hexact, ?_, ?_, hle, ?_⟩
  · rw [← htx, ← hcast, ← he]
    apply (ns_sleep s.timer hlt ?_).mpr hle
    rw [he]
    exact Nat.lt_of_le_of_lt hmax (by decide)
  · have hzero : exactTransmission sdata pdata sec 0 < 2 ^ 64 :=
      exactTransmission_lt hsec (Nat.zero_le _)
    rwa [exactTransmission, Nat.zero_mul, Nat.add_zero] at hzero
  · have hc : s.timer.cycleTimeNs = sdata.cycleTimeNs.1.toNat := by
      rw [htimer, (txTimestamp_iterate_next _ _).1]
      rfl
    have hnext : exactTransmission sdata pdata sec (tr.length + 1) =
        exactTransmission sdata pdata sec tr.length + sdata.cycleTimeNs.1.toNat := by
      simp only [exactTransmission, Nat.succ_mul, Nat.add_assoc]
    rw [htx, hc, ← hnext]
    exact exactTransmission_lt hsec hn

end

/-- The publisher keeps to its schedule for `2 ^ 40` cycles, whichever of them are paused, if and
only if its first wake-up is not before the epoch: the clock shows a second, or there is a delay,
or `early_offset_ns` is at most `publish_offset_ns`. After that its 64 bits wrap around. The
subscriber always keeps to its own. All timespecs are proper, as `normalize()` leaves any. -/
theorem schedule_iff (sdata : ServerData) (pdata : PublisherData sdata.useXDP)
    (sub : SubscriberData sdata.useXDP) {sec : Nat} (hsec : sec < 2 ^ 33) :
    IsLeast {k | 10 ∣ k ∧ sec ≤ k} (nextTen sec) ∧
    ((∀ tr s, (pubThreadLts sdata pdata sec).Run tr s → tr.length < 2 ^ 40 →
        OnTime sdata pdata sec tr.length s) ↔
      0 < sec ∨ 0 < pdata.publishDelaySec.1 ∨
        pdata.earlyOffsetNs.1 ≤ pdata.publishOffsetNs.1) ∧
    (∀ tr s, (pubThreadLts sdata pdata sec).Run tr s →
      s.transmissionTime = exactTransmission sdata pdata sec tr.length % 2 ^ 64 ∧
      s.timer.sleep.Proper) ∧
    (∀ m, (wake sdata sub sec m).ns =
        (nextTen sec + 3 : Nat) * nsecPerSec + sub.offsetNs.1 + m * sdata.cycleTimeNs.1 ∧
      (wake sdata sub sec m).Proper ∧
      (wake sdata sub sec m).tvNsec + sdata.cycleTimeNs.1 < 2 ^ 64) ∧
    ∀ t, (normalize t).ns = t.ns ∧ (normalize t).Proper := by
  refine ⟨isLeast_nextTen sec, ?_, ?_, ?_, normalize_spec⟩
  · rw [← early_le_iff]
    constructor
    · intro h
      have hstart := h [] _ (.init rfl) (by decide)
      exact hstart.transmission ▸ hstart.early
    · intro h tr s hrun hn
      exact onTime_of_early_le hsec h hrun hn
  · intro tr s h
    obtain ⟨-, htrans⟩ := pubThread_run h
    exact ⟨htrans.trans (transmission_eq ..), Timespec.proper_ofNs _⟩
  · intro m
    obtain ⟨hns, hproper⟩ := wake_spec sdata sub sec m
    refine ⟨hns, hproper, ?_⟩
    have hlt := hproper.2
    have hcycle := sdata.cycleTimeNs.2.2
    simp only [nsecPerSec, cycletimeNsMax] at hlt hcycle
    omega

section Epoch

/-- A publisher that wakes up a nanosecond early and has neither delay nor offset. -/
private def earlyPublisher (early : Int64) : Json :=
  .object [
    ("url", .string "opc.eth://22-bb-22-bb-22-bb:3.3"), ("pub_id", .int 2234),
    ("dataset_writer_id", .int 62541), ("writer_group_id", .int 101),
    ("early_offset_ns", .int early), ("publish_offset_ns", .int 0),
    ("publish_delay_sec", .int 0), ("socket_prio", .int 3),
    ("two_way_data", .bool false), ("iperf_cpu_affinity", .int 3)]

private def earlyServer (early : Int64) : Json :=
  .opcuaServer false 300000 [earlyPublisher early] [.subscriber 0 2234 false]

theorem schedule_iff_first_second :
    ∃ sdata, parseJson (fun _ => true) (earlyServer 1) = .ok sdata ∧
      ∃ pdata ∈ sdata.pubData, ∃ sub ∈ sdata.subData,
        (∀ tr s, (pubThreadLts sdata pdata 1).Run tr s → tr.length < 2 ^ 40 →
          OnTime sdata pdata 1 tr.length s) ∧ ∀ m, (wake sdata sub 1 m).Proper := by
  have haccepted : ∃ sdata, parseJson (fun _ => true) (earlyServer 1) = .ok sdata ∧
      ∃ pdata, pdata ∈ sdata.pubData ∧ ∃ sub, sub ∈ sdata.subData :=
    ⟨_, rfl, _, List.mem_singleton_self _, _, List.mem_singleton_self _⟩
  obtain ⟨sdata, hparse, pdata, hp, sub, hs⟩ := haccepted
  have h := schedule_iff sdata pdata sub (show 1 < 2 ^ 33 by decide)
  exact ⟨sdata, hparse, pdata, hp, sub, hs, h.2.1.mpr (.inl (by decide)),
    fun m => (h.2.2.2.1 m).2.1⟩

/-- At the epoch the first wake-up wraps around to more than 500 years later. -/
theorem not_schedule_iff :
    ∃ sdata, parseJson (fun _ => true) (earlyServer 1) = .ok sdata ∧
      ∃ pdata ∈ sdata.pubData, ∃ s, (pubThreadLts sdata pdata 0).Run [] s ∧
        ¬ OnTime sdata pdata 0 0 s ∧ s.timer.sleep = ⟨18446744073, 709551615⟩ := by
  refine ⟨_, rfl, _, List.mem_singleton_self _, _, .init rfl, ?_, by decide⟩
  intro h
  exact absurd h.early (by decide)

end Epoch

end Opcua

end TsnRefSw
