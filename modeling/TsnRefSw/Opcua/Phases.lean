import Mathlib.Data.Int.ModEq
import TsnRefSw.Core.Clock
import TsnRefSw.Opcua.Configuration

/-!
# When the threads publish and wake up

A publisher thread and a subscriber thread each round the time at which they start up to a
multiple of ten seconds, add a delay of whole seconds and an offset, and go on in steps of the
cycle time. Both are in phase with each other as far as the cycle time divides the whole seconds
between them.
-/

namespace TsnRefSw

open Core

namespace Opcua

/-! ### The publisher thread -/

/-- The variables of `pub_thread()` that the schedule depends on. -/
structure PubTimer where
  /-- `tx_timestamp`, which is also the transmission time handed to the network card. -/
  txTimestamp : Nat
  earlyOffsetNs : Nat
  cycleTimeNs : Nat

/-- The multiple of ten seconds at which a thread that reads `sec` on its clock aims. -/
def nextTen (sec : Nat) : Nat := (sec + 9) / 10 * 10

namespace PubTimer

/-- Before the loop, the clock showing `sec` seconds. -/
def start (sdata : ServerData) (pdata : PublisherData sdata.useXDP) (sec : Nat) : PubTimer where
  txTimestamp :=
    ((nextTen sec % 2 ^ 64 + pdata.publishDelaySec.1.toNat) % 2 ^ 64 * nsecPerSec % 2 ^ 64 +
      pdata.publishOffsetNs.1.toNat) % 2 ^ 64
  earlyOffsetNs := pdata.earlyOffsetNs.1.toNat
  cycleTimeNs := sdata.cycleTimeNs.1.toNat

/-- `nextnanosleeptime` in the current cycle. -/
def sleep (t : PubTimer) : Timespec :=
  .ofNs ((t.txTimestamp + (2 ^ 64 - t.earlyOffsetNs)) % 2 ^ 64)

/-- The end of the loop body. -/
def next (t : PubTimer) : PubTimer :=
  { t with txTimestamp := tick (2 ^ 64) t.cycleTimeNs t.txTimestamp }

end PubTimer

/-- The transmission time of the `n`-th cycle of a publisher thread. -/
def transmission (sdata : ServerData) (pdata : PublisherData sdata.useXDP) (sec n : Nat) : Nat :=
  (PubTimer.next^[n] (.start sdata pdata sec)).txTimestamp

/-! ### The subscriber thread -/

/-- The first loop of `normalize()`. -/
def normalizeUp (t : Timespec) : Timespec :=
  if (nsecPerSec : Int) - 1 < t.tvNsec then normalizeUp ⟨t.tvSec + 1, t.tvNsec - nsecPerSec⟩ else t
termination_by t.tvNsec.toNat
decreasing_by simp only [nsecPerSec] at *; omega

/-- The second loop of `normalize()`. -/
def normalizeDown (t : Timespec) : Timespec :=
  if t.tvNsec < 0 then normalizeDown ⟨t.tvSec - 1, t.tvNsec + nsecPerSec⟩ else t
termination_by (-t.tvNsec).toNat
decreasing_by simp only [nsecPerSec] at *; omega

def normalize (t : Timespec) : Timespec := normalizeDown (normalizeUp t)

lemma normalizeUp_spec (t : Timespec) :
    (normalizeUp t).ns = t.ns ∧ (normalizeUp t).tvNsec < nsecPerSec := by
  induction t using normalizeUp.induct with
  | case1 t h ih =>
    rw [normalizeUp, if_pos h]
    refine ⟨ih.1.trans ?_, ih.2⟩
    simp only [Timespec.ns]
    ring
  | case2 t h =>
    rw [normalizeUp, if_neg h]
    exact ⟨rfl, Int.le_sub_one_iff.mp (not_lt.mp h)⟩

lemma normalizeDown_spec (t : Timespec) (ht : t.tvNsec < nsecPerSec) :
    (normalizeDown t).ns = t.ns ∧ (normalizeDown t).Proper := by
  induction t using normalizeDown.induct with
  | case1 t h ih =>
    rw [normalizeDown, if_pos h]
    obtain ⟨hns, hproper⟩ := ih (add_lt_of_neg_left _ h)
    refine ⟨hns.trans ?_, hproper⟩
    simp only [Timespec.ns]
    ring
  | case2 t h =>
    rw [normalizeDown, if_neg h]
    exact ⟨rfl, not_lt.mp h, ht⟩

/-- `normalize()` keeps the point in time and makes it proper. -/
lemma normalize_spec (t : Timespec) : (normalize t).ns = t.ns ∧ (normalize t).Proper := by
  obtain ⟨hns, hlt⟩ := normalizeUp_spec t
  obtain ⟨hns', hproper⟩ := normalizeDown_spec _ hlt
  exact ⟨hns'.trans hns, hproper⟩

namespace SubTimer

/-- `nextnanosleeptimeSub` before the loop, the clock showing `sec` seconds. -/
def start (sdata : ServerData) (sub : SubscriberData sdata.useXDP) (sec : Nat) : Timespec :=
  normalize ⟨(nextTen sec + 3 : Nat), sub.offsetNs.1⟩

/-- The end of the loop body. -/
def next (sdata : ServerData) (t : Timespec) : Timespec :=
  normalize ⟨t.tvSec, t.tvNsec + sdata.cycleTimeNs.1⟩

end SubTimer

/-- The time at which a subscriber thread wakes up for the `m`-th time. -/
def wake (sdata : ServerData) (sub : SubscriberData sdata.useXDP) (sec m : Nat) : Timespec :=
  (SubTimer.next sdata)^[m] (SubTimer.start sdata sub sec)

/-! ### The two schedules -/

section
variable (sdata : ServerData) (pdata : PublisherData sdata.useXDP)
  (sub : SubscriberData sdata.useXDP) (sec sec' n m : Nat)

/-- The wake-up times are exact, and each is proper. -/
lemma wake_spec : (wake sdata sub sec m).ns =
      (nextTen sec + 3 : Nat) * nsecPerSec + sub.offsetNs.1 + m * sdata.cycleTimeNs.1 ∧
    (wake sdata sub sec m).Proper := by
  induction m with
  | zero =>
    obtain ⟨hns, hproper⟩ := normalize_spec ⟨(nextTen sec + 3 : Nat), sub.offsetNs.1⟩
    refine ⟨hns.trans ?_, hproper⟩
    simp [Timespec.ns]
  | succ m ih =>
    obtain ⟨hns, hproper⟩ := normalize_spec
      ⟨(wake sdata sub sec m).tvSec, (wake sdata sub sec m).tvNsec + sdata.cycleTimeNs.1⟩
    rw [wake, Function.iterate_succ_apply']
    refine ⟨hns.trans ?_, hproper⟩
    have hstep : Timespec.ns ⟨(wake sdata sub sec m).tvSec,
        (wake sdata sub sec m).tvNsec + sdata.cycleTimeNs.1⟩ =
        (wake sdata sub sec m).ns + sdata.cycleTimeNs.1 := by
      simp only [Timespec.ns]
      ring
    rw [hstep, ih.1]
    push_cast
    ring

/-- The transmission time of the `n`-th cycle, were the counter of unlimited width. -/
def exactTransmission : Nat :=
  (nextTen sec + pdata.publishDelaySec.1.toNat) * nsecPerSec + pdata.publishOffsetNs.1.toNat +
    n * sdata.cycleTimeNs.1.toNat

lemma txTimestamp_iterate_next (t : PubTimer) :
    (PubTimer.next^[n] t).cycleTimeNs = t.cycleTimeNs ∧
      (PubTimer.next^[n] t).txTimestamp = (tick (2 ^ 64) t.cycleTimeNs)^[n] t.txTimestamp := by
  induction n with
  | zero => exact ⟨rfl, rfl⟩
  | succ n ih =>
    rw [Function.iterate_succ_apply', Function.iterate_succ_apply', PubTimer.next, ← ih.2, ih.1]
    exact ⟨rfl, rfl⟩

lemma transmission_eq :
    transmission sdata pdata sec n = exactTransmission sdata pdata sec n % 2 ^ 64 := by
  have hstart : (PubTimer.start sdata pdata sec).txTimestamp =
      ((nextTen sec + pdata.publishDelaySec.1.toNat) * nsecPerSec +
        pdata.publishOffsetNs.1.toNat) % 2 ^ 64 := by
    simp only [PubTimer.start, Nat.mod_add_mod, Nat.mod_mul_mod]
  rw [transmission, (txTimestamp_iterate_next n _).2, hstart, iterate_tick]
  rfl

/-- How often the publisher's counter has wrapped around before its `n`-th cycle. -/
def wraps : Nat := exactTransmission sdata pdata sec n / 2 ^ 64

/-- The whole seconds between the points at which the two threads aim. -/
def secondsBetween : Int :=
  (nextTen sec' + 3 : Nat) - (nextTen sec + pdata.publishDelaySec.1.toNat : Nat)

/-- The counter does not wrap around in the first 10^12 cycles of a thread that starts before
the year 2242. -/
lemma wraps_eq_zero (hsec : sec < 2 ^ 33) (hn : n ≤ 10 ^ 12) : wraps sdata pdata sec n = 0 := by
  apply Nat.div_eq_of_lt
  have hcycle := sdata.cycleTimeNs.2.2
  have hoffset := pdata.publishOffsetNs.2.2
  have hdelay := pdata.publishDelaySec.2.2
  have hmul : n * sdata.cycleTimeNs.1.toNat ≤ 10 ^ 12 * 5000000 :=
    Nat.mul_le_mul hn (Int.toNat_le.mpr hcycle)
  simp only [tenMsecNsec, int32Max] at hoffset hdelay
  simp only [exactTransmission, nextTen, nsecPerSec]
  omega

/-- How far apart a wake-up and a transmission are. -/
lemma wake_sub_transmission (sdata' : ServerData) (sub : SubscriberData sdata'.useXDP)
    (hc : sdata'.cycleTimeNs.1 = sdata.cycleTimeNs.1) :
    (wake sdata' sub sec' m).ns - transmission sdata pdata sec n =
      sub.offsetNs.1 - pdata.publishOffsetNs.1 +
        (secondsBetween sdata pdata sec sec' * 10 ^ 9 + wraps sdata pdata sec n * 2 ^ 64) +
        (m - n) * sdata.cycleTimeNs.1 := by
  have hmod : ((exactTransmission sdata pdata sec n % 2 ^ 64 : Nat) : Int) =
      exactTransmission sdata pdata sec n - wraps sdata pdata sec n * 2 ^ 64 := by
    rw [eq_sub_iff_add_eq]
    exact_mod_cast Nat.mod_add_div' _ _
  have hoffset := Int.toNat_of_nonneg pdata.publishOffsetNs.2.1
  have hcycle : (sdata.cycleTimeNs.1.toNat : Int) = sdata.cycleTimeNs.1 :=
    Int.toNat_of_nonneg ((by decide : (0 : Int) ≤ hundredUsecNsec).trans sdata.cycleTimeNs.2.1)
  rw [transmission_eq, hmod, (wake_spec sdata' sub sec' m).1, exactTransmission, hc]
  push_cast [hoffset, hcycle, secondsBetween]
  ring

/-- Whole cycles do not change the phase. -/
lemma add_add_mul_modEq_iff {a d k c : Int} : a + d + k * c ≡ a [ZMOD c] ↔ c ∣ d := by
  rw [Int.modEq_comm, Int.modEq_iff_dvd, add_assoc, add_sub_cancel_left]
  exact Int.dvd_add_left (Int.dvd_mul_left _ _)

/-- A subscriber thread wakes up in the configured phase of a publisher thread's transmissions
if and only if the cycle time divides the whole seconds between the points at which they aim,
together with what the publisher's counter has lost by wrapping around. -/
theorem phases_agree_iff (sdata' : ServerData) (sub : SubscriberData sdata'.useXDP)
    (hc : sdata'.cycleTimeNs.1 = sdata.cycleTimeNs.1) :
    (wake sdata' sub sec' m).ns - transmission sdata pdata sec n ≡
        sub.offsetNs.1 - pdata.publishOffsetNs.1 [ZMOD sdata.cycleTimeNs.1] ↔
      sdata.cycleTimeNs.1 ∣
        secondsBetween sdata pdata sec sec' * 10 ^ 9 + wraps sdata pdata sec n * 2 ^ 64 := by
  rw [wake_sub_transmission sdata pdata sec sec' n m sdata' sub hc]
  exact add_add_mul_modEq_iff

end

/-! ### A cycle time that does not divide ten seconds -/

/-- Two boards that start within the same ten seconds. -/
theorem phases_agree_iff_same_decade :
    ∃ sdata, parseJson (fun _ => true)
        (.opcuaServer false 300000 [.publisher 0 2234 3 false] [.subscriber 0 2234 false]) =
          .ok sdata ∧
      ∀ pdata ∈ sdata.pubData, ∀ sub ∈ sdata.subData, ∀ n ≤ 10 ^ 12, ∀ m,
        (wake sdata sub 2 m).ns - transmission sdata pdata 1 n ≡
          sub.offsetNs.1 - pdata.publishOffsetNs.1 [ZMOD sdata.cycleTimeNs.1] := by
  refine ⟨_, rfl, fun pdata hp sub hs n hn m => ?_⟩
  cases List.mem_singleton.mp hp
  rw [phases_agree_iff _ _ _ _ _ _ _ _ rfl, wraps_eq_zero _ _ _ _ (by decide) hn]
  decide +kernel

/-- The subscriber starts a second later and aims ten seconds further: with a cycle time of
300000 ns it wakes up 100000 ns too late in every cycle. -/
theorem not_phases_agree :
    ¬ ∀ (fopen : String → Bool) (json : Json) (sdata : ServerData),
      parseJson fopen json = .ok sdata →
      ∀ pdata ∈ sdata.pubData, ∀ sub ∈ sdata.subData, ∀ sec sec' n m : Nat,
        (wake sdata sub sec' m).ns - transmission sdata pdata sec n ≡
          sub.offsetNs.1 - pdata.publishOffsetNs.1 [ZMOD sdata.cycleTimeNs.1] := by
  intro h
  have haccepted : ∃ sdata, parseJson (fun _ => true)
        (.opcuaServer false 300000 [.publisher 0 2234 3 false] [.subscriber 0 2234 false]) =
          .ok sdata ∧
      ∃ pdata ∈ sdata.pubData, ∃ sub ∈ sdata.subData,
        sdata.cycleTimeNs.1 = 300000 ∧ secondsBetween sdata pdata 10 11 = 10 :=
    ⟨_, rfl, _, List.mem_singleton_self _, _, List.mem_singleton_self _, rfl, rfl⟩
  obtain ⟨sdata, hparse, pdata, hp, sub, hs, hcycle, hbetween⟩ := haccepted
  have hphase := h _ _ sdata hparse pdata hp sub hs 10 11 0 0
  rw [wake_sub_transmission sdata pdata 10 11 0 0 sdata sub rfl, add_add_mul_modEq_iff, hcycle,
    hbetween, wraps_eq_zero _ _ _ _ (by decide) (by decide)] at hphase
  revert hphase
  decide

end Opcua

end TsnRefSw
