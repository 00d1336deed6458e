import Mathlib.Algebra.Order.Group.Unbundled.Int
import TsnRefSw.Opcua.RoundTrip.Basic

/-!
# The numbers of A's samples

A's publisher numbers its samples without a gap, beginning where the reads during the set-up
have left the counter, and stops with the number `packet_count`. None of these numbers is one
of the markers that B puts in the place of a sample.
-/

namespace TsnRefSw

open Core

namespace Opcua

namespace PacketCount

lemma toNat_le (p : PacketCount) : p.val.toNat ≤ 10000000 := UInt64.le_iff_toNat_le.mp p.le

/-- As a signed number, `packet_count` is what it is. -/
lemma toInt_toInt64 (p : PacketCount) : p.val.toInt64.toInt = p.val.toNat := by
  have hle := p.toNat_le
  have hlt : p.val.toNat < 2 ^ 63 := by omega
  rw [← Int64.toInt_toBitVec, UInt64.toBitVec_toInt64]
  rw [BitVec.toInt_eq_toNat_of_lt]
  · rfl
  · show 2 * p.val.toNat < _
    omega

end PacketCount

/-! ### The counter -/

namespace Server

variable {cap : Nat} {packetCount : PacketCount} {s : Server cap} {now : UInt64}

/-- Until the last number, the counter counts, and stops the process when it reaches it. -/
lemma pubGetDataToTransmit_spec (now : UInt64) (hge : -2 ≤ s.txSequence.toInt)
    (hlt : s.txSequence.toInt < packetCount.val.toNat) :
    (s.pubGetDataToTransmit packetCount now).1.txSequence.toInt = s.txSequence.toInt + 1 ∧
    ((s.pubGetDataToTransmit packetCount now).1.gRunning = true ↔
      s.gRunning = true ∧ s.txSequence.toInt + 1 < packetCount.val.toNat) := by
  have hpc := packetCount.toNat_le
  have hstep : (s.txSequence + 1).toInt = s.txSequence.toInt + 1 := by
    rw [Int64.toInt_add]
    exact Int.bmod_eq_of_le (by simp; omega) (by simp; omega)
  have hlast : s.txSequence + 1 = packetCount.val.toInt64 ↔
      s.txSequence.toInt + 1 = packetCount.val.toNat := by
    rw [← Int64.toInt_inj, hstep, packetCount.toInt_toInt64]
  refine ⟨hstep, ?_⟩
  simp only [pubGetDataToTransmit]
  split_ifs with h
  · rw [hlast] at h
    simp [h]
  · rw [hlast] at h
    constructor
    · intro hrun
      exact ⟨hrun, by omega⟩
    · exact And.left

/-- What the return subscriber's callback leaves alone; it never restarts the process. -/
structure ReturnFrame (s t : Server cap) : Prop where
  txSequence : t.txSequence = s.txSequence
  gRunning : t.gRunning = true → s.gRunning = true
  gRoundtripPubReturn : t.gRoundtripPubReturn = s.gRoundtripPubReturn
  id : t.id = s.id

lemma ReturnFrame.refl (s : Server cap) : ReturnFrame s s := ⟨rfl, fun h => h, rfl, rfl⟩

lemma returnFrame_stop (s : Server cap) : ReturnFrame s s.stop := ⟨rfl, nofun, rfl, rfl⟩

lemma subReturnStoreDataReceived_frame {data : Option Variant} {t : Server cap}
    (h : s.subReturnStoreDataReceived packetCount data now = some t) : ReturnFrame s t := by
  have hreceived : ∀ v, s.returnReceived packetCount v now = some t → ReturnFrame s t := by
    intro v hv
    unfold returnReceived at hv
    split at hv
    · next seqA _ _ _ _ _ _ =>
      cases hv
      by_cases hf : Final packetCount seqA
      · rw [if_pos hf]
        exact ⟨rfl, nofun, rfl, rfl⟩
      · rw [if_neg hf]
        exact ⟨rfl, fun h => h, rfl, rfl⟩
    · cases hv
  cases data with
  | none =>
    cases h
    exact .refl s
  | some v =>
    simp only [subReturnStoreDataReceived] at h
    split_ifs at h
    · cases h
      exact .refl s
    · exact hreceived v h
    · cases h
      exact returnFrame_stop s
    · cases h
      exact .refl s

end Server

/-! ### The samples published -/

/-- The number of the `i`-th sample, as it is sent. -/
def Config.number (c : Config) (i : Nat) : UInt64 := (Int64.ofInt (c.setupReads - 1 + i)).toUInt64

/-- The set-up leaves numbers to publish. -/
def Config.Publishes (c : Config) : Prop := c.setupReads < c.packetCount.val.toNat + 2

instance (c : Config) : Decidable c.Publishes := inferInstanceAs (Decidable (_ < _))

namespace RoundTrip

variable {c : Config} {tr : List (RoundTrip c.cap × Action)} {s s' : RoundTrip c.cap}

lemma setUp_spec {t : Server c.cap} (htx : t.txSequence.toInt = -2) (hrun : t.gRunning = true)
    {k : Nat} (hk : k < c.packetCount.val.toNat + 2) :
    (setUp c t k).txSequence.toInt = k - 2 ∧ (setUp c t k).gRunning = true := by
  induction k with
  | zero => exact ⟨htx, hrun⟩
  | succ k ih =>
    obtain ⟨ihtx, ihrun⟩ := ih (by omega)
    have hlt : (setUp c t k).txSequence.toInt < c.packetCount.val.toNat := by omega
    obtain ⟨htx', hrun'⟩ := Server.pubGetDataToTransmit_spec 0 (by omega) hlt
    refine ⟨?_, hrun'.mpr ⟨ihrun, by omega⟩⟩
    rw [setUp, htx', ihtx]
    omega

/-- A set-up that reads the data source too often stops the process. -/
lemma setUp_stopped {t : Server c.cap} (htx : t.txSequence.toInt = -2) (hrun : t.gRunning = true)
    {k : Nat} (hk : c.packetCount.val.toNat + 2 ≤ k) : (setUp c t k).gRunning = false := by
  induction k, hk using Nat.le_induction with
  | base =>
    obtain ⟨htx', -⟩ := setUp_spec htx hrun (Nat.lt_succ_self (c.packetCount.val.toNat + 1))
    have hlt : (setUp c t (c.packetCount.val.toNat + 1)).txSequence.toInt
        < c.packetCount.val.toNat := by omega
    have hlast := (Server.pubGetDataToTransmit_spec 0 (by omega) hlt).2
    rw [setUp, ← Bool.not_eq_true, hlast]
    omega
  | succ k _ ih =>
    rw [setUp, Server.pubGetDataToTransmit]
    simp [ih]

/-- The counter and the samples published so far. -/
structure Numbered (tr : List (RoundTrip c.cap × Action)) (s : RoundTrip c.cap) : Prop where
  count : s.a.txSequence.toInt = c.setupReads - 2 + (published tr).length
  le : s.a.txSequence.toInt ≤ c.packetCount.val.toNat
  numbers : (published tr).map Prod.fst = (List.range (published tr).length).map c.number
  running : s.a.gRunning = true → s.a.txSequence.toInt < c.packetCount.val.toNat
  sending : s.aPub = .gate ∨ s.aPub = .send → s.a.txSequence.toInt < c.packetCount.val.toNat

lemma numbered_start (hc : c.Publishes) : Numbered [] (start c) := by
  obtain ⟨htx, hrun⟩ := setUp_spec (t := .initial c.idA)
    (show (-2 : Int64).toInt = -2 by decide) rfl hc
  have hlt : (c.setupReads : Int) < c.packetCount.val.toNat + 2 := by
    exact_mod_cast hc
  constructor
  · rw [start, htx]
    simp [published]
  · rw [start, htx]
    omega
  · rfl
  · intro _
    rw [start, htx]
    omega
  · intro h
    rcases h with h | h
    · cases h
    · cases h

/-- Where the counter and the samples stay, the invariant stays. -/
lemma Numbered.of_frame {tr' : List (RoundTrip c.cap × Action)} (h : Numbered tr s)
    (hp : published tr' = published tr) (htx : s'.a.txSequence = s.a.txSequence)
    (hrun : s'.a.gRunning = true → s.a.gRunning = true)
    (hpc : s'.aPub = .gate ∨ s'.aPub = .send →
      s.aPub = .gate ∨ s.aPub = .send ∨ s.a.gRunning = true) : Numbered tr' s' := by
  constructor
  · rw [hp, htx]
    exact h.count
  · rw [htx]
    exact h.le
  · rw [hp]
    exact h.numbers
  · rw [htx]
    exact fun hr => h.running (hrun hr)
  · intro hs
    rw [htx]
    rcases hpc hs with h₁ | h₂ | h₃
    · exact h.sending (.inl h₁)
    · exact h.sending (.inr h₂)
    · exact h.running h₃

lemma Numbered.publish (h : Numbered tr s) (now : UInt64) (hpc : s.aPub = .send) :
    Numbered (tr ++ [(s, .publish now)]) { s with
      a := (s.a.pubGetDataToTransmit c.packetCount now).1
      aPub := .emit (s.a.pubGetDataToTransmit c.packetCount now).2 } := by
  have hlt := h.sending (.inr hpc)
  have hcount := h.count
  obtain ⟨htx, hrun⟩ := Server.pubGetDataToTransmit_spec now (by omega) hlt
  have hlen : (published (tr ++ [(s, Action.publish now)])).length = (published tr).length + 1 := by
    simp [publishedAt]
  constructor
  · rw [hlen, htx, h.count]
    push_cast
    omega
  · rw [htx]
    omega
  · rw [hlen, published_append, List.map_append, h.numbers, List.range_succ, List.map_append]
    congr 1
    have hval : s.a.txSequence + 1 = Int64.ofInt (c.setupReads - 1 + (published tr).length) := by
      rw [← Int64.ofInt_toInt (x := s.a.txSequence + 1)]
      congr 1
      show (s.a.pubGetDataToTransmit c.packetCount now).1.txSequence.toInt = _
      omega
    simp [publishedAt, Config.number, hval]
  · intro hr
    rw [htx]
    exact (hrun.mp hr).2
  · intro hs
    rcases hs with hs | hs
    · cases hs
    · cases hs

theorem numbered (hc : c.Publishes) (h : (roundTripLts c).Run tr s) : Numbered tr s := by
  refine h.induct (P := Numbered) ?_ ?_
  · rintro _ rfl
    exact numbered_start hc
  · intro tr s a s' _ ih hs
    cases step_spec hs with
    | publish now hpc => exact ih.publish now hpc
    | testAPub hpc =>
      refine ih.of_frame (by simp [publishedAt]) rfl (fun hr => hr) fun hs => ?_
      split_ifs at hs with hr
      · exact .inr (.inr hr)
      · simp at hs
    | gateA hpc =>
      exact ih.of_frame (by simp [publishedAt]) rfl (fun hr => hr) fun _ => .inl hpc
    | emit v hpc =>
      refine ih.of_frame (by simp [publishedAt]) rfl (fun hr => hr) fun hs => ?_
      simp at hs
    | receiveReturn j now v ba a hpc hv ha =>
      have hframe := Server.subReturnStoreDataReceived_frame ha
      exact ih.of_frame (by simp [publishedAt]) hframe.txSequence hframe.gRunning
        fun hs => hs.imp_right .inl
    | _ =>
      exact ih.of_frame (by simp [publishedAt]) rfl (fun hr => hr) fun hs => hs.imp_right .inl

/-- A process that the set-up has stopped publishes nothing. -/
lemma published_eq_nil (hc : ¬ c.Publishes) (h : (roundTripLts c).Run tr s) :
    published tr = [] := by
  have hstopped : published tr = [] ∧ s.a.gRunning = false ∧ (s.aPub = .test ∨ s.aPub = .left) := by
    refine h.induct (P := fun tr s => published tr = [] ∧ s.a.gRunning = false ∧
      (s.aPub = .test ∨ s.aPub = .left)) ?_ ?_
    · rintro _ rfl
      refine ⟨rfl, ?_, .inl rfl⟩
      exact setUp_stopped (by decide : (-2 : Int64).toInt = -2) rfl (not_lt.mp hc)
    · rintro tr s a s' _ ⟨ih, hrun, hpc⟩ hs
      cases step_spec hs with
      | testAPub => exact ⟨by simp [publishedAt, ih], hrun, .inr (by simp [hrun])⟩
      | gateA hg => simp [hg] at hpc
      | publish now hg => simp [hg] at hpc
      | emit v hg => simp [hg] at hpc
      | receiveReturn j now v ba a _ hv ha =>
        have hframe := Server.subReturnStoreDataReceived_frame ha
        refine ⟨by simp [publishedAt, ih], ?_, hpc⟩
        exact Bool.eq_false_iff.mpr fun hr => by simp [hframe.gRunning hr] at hrun
      | _ => exact ⟨by simp [publishedAt, ih], hrun, hpc⟩
  exact hstopped.1

/-- The numbers of the samples are small. -/
theorem published_bounded (h : (roundTripLts c).Run tr s) {p : UInt64 × UInt64}
    (hp : p ∈ published tr) :
    ∃ k : Int, -1 ≤ k ∧ k ≤ c.packetCount.val.toNat ∧ p.1 = (Int64.ofInt k).toUInt64 := by
  by_cases hc : c.Publishes
  · have hnum := numbered hc h
    have hmem : p.1 ∈ (List.range (published tr).length).map c.number :=
      hnum.numbers ▸ List.mem_map_of_mem hp
    obtain ⟨i, hi, he⟩ := List.mem_map.mp hmem
    have hi := List.mem_range.mp hi
    have hcount := hnum.count
    have hle := hnum.le
    exact ⟨c.setupReads - 1 + i, by omega, by omega, he.symm⟩
  · rw [published_eq_nil hc h] at hp
    cases hp

/-- Where the set-up leaves no number below zero, a sample's number says how many were published
before it, and how many can follow it. -/
lemma Numbered.toNat_of_append (h : Numbered tr s) (hpos : 1 ≤ c.setupReads)
    {l r : List (UInt64 × UInt64)} {p : UInt64 × UInt64} (hp : published tr = l ++ p :: r) :
    p.1.toNat + 1 = c.setupReads + l.length ∧
      c.setupReads + l.length + r.length ≤ c.packetCount.val.toNat + 1 := by
  have hlen : (published tr).length = l.length + r.length + 1 := by
    rw [hp, List.length_append, List.length_cons]
    omega
  have hcount := h.count
  have hle := h.le
  have hpc := c.packetCount.toNat_le
  have hnumber : p.1 = c.number l.length := by
    have hat := congrArg (·[l.length]?) h.numbers
    simpa [hp] using hat
  constructor
  · have hint : (c.setupReads - 1 + l.length : Int) = (c.setupReads + l.length - 1 : Nat) := by
      omega
    rw [hnumber, Config.number, hint, Int64.ofInt_eq_ofNat, Int64.toUInt64_ofNat',
      UInt64.toNat_ofNat_of_lt']
    · omega
    · show _ < 2 ^ 64
      omega
  · omega

end RoundTrip

end Opcua

end TsnRefSw
