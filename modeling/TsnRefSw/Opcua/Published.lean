import Mathlib.Data.List.Chain
import TsnRefSw.Opcua.Publishers

/-!
# The numbers on published samples

The counter begins at -2 and counts the reads of the node, whoever makes them. What a publisher
puts on a sample is where the counter stands: that is a number from 0 to `packet_count` only if
the node was read before, and not too often.
-/

namespace TsnRefSw

open Core

namespace Opcua

/-- Element `i` of an array. -/
def Variant.element (v : Variant) (i : Nat) : Option UInt64 := v.data.bind (·[i]?)

/-- Publisher `i` reads the node. -/
def ProcessAct.By (i : Nat) : ProcessAct → Bool
  | .read k _    => k = some i
  | .forward k _ => k = some i
  | _            => false

namespace Process

/-- The read moves the counter: a return publisher's does so only where there is a sample to
return. -/
def counts (c : ProcessConfig) (s : Process c.cap) : ProcessAct → Bool
  | .read _ _    => c.node = .pubGetDataToTransmit
  | .forward k _ =>
    match s.pc k with
    | some (.forward m) => Server.verdict s.server.prevRxSequence m = .good
    | _                 => false
  | _            => false

/-- The number publisher `i` puts on a sample: element 0 of a sample of its own, element 3 of one
that it returns. -/
def numberAt (c : ProcessConfig) (i : Nat) (s : Process c.cap) : ProcessAct → Option UInt64
  | .read k now    =>
    if k = some i ∧ c.node = .pubGetDataToTransmit then
      (s.server.pubGetDataToTransmit c.packetCount now).2.element 0
    else none
  | .forward k now =>
    match s.pc k with
    | some (.forward m) =>
      let r := s.server.forward c.packetCount m now
      if k = some i ∧ r.2.1 = .good then r.2.2.element 3 else none
    | _                 => none
  | _              => none

/-- The numbers of the samples of publisher `i`. -/
def published (c : ProcessConfig) (i : Nat) (tr : List (Process c.cap × ProcessAct)) :
    List UInt64 :=
  tr.filterMap fun x => numberAt c i x.1 x.2

/-- The number of reads that moved the counter. -/
def count (c : ProcessConfig) (tr : List (Process c.cap × ProcessAct)) : Nat :=
  tr.countP fun x => counts c x.1 x.2

/-- For each sample of publisher `i`, which of the reads that move the counter its read is, `n`
having come before. -/
def ranks (c : ProcessConfig) (i : Nat) :
    Nat → List (Process c.cap × ProcessAct) → List Nat
  | _, []      => []
  | n, x :: tr =>
    if counts c x.1 x.2 then
      if x.2.By i then (n + 1) :: ranks c i (n + 1) tr else ranks c i (n + 1) tr
    else ranks c i n tr

/-- The numbers are from 0 to `packet_count`, follow each other, and A's run ends only with the
last. -/
structure WellFormed (packetCount : PacketCount) (ns : List UInt64) : Prop where
  range : ∀ n ∈ ns, n ≤ packetCount.val
  consecutive : ns.IsChain fun a b => b = a + 1
  ends : ∀ m : MsgqBuf, m.rxSequence ∈ ns → ∀ (cap : Nat) (a a' : Server cap)
    (seqB txPubB now : UInt64), a.gRunning = true →
    a.subReturnStoreDataReceived packetCount (some (Server.reply m seqB txPubB)) now = some a' →
    a'.gRunning = false → m.rxSequence = packetCount.val

/-- A sample is the second read at the earliest, and the read `packet_count + 2` at the latest;
between two samples no other read moves the counter. The counter has 64 bits. -/
structure Paced (packetCount : PacketCount) (rs : List Nat) : Prop where
  range : ∀ r ∈ rs, (r + (2 ^ 64 - 2)) % 2 ^ 64 ≤ packetCount.val.toNat
  consecutive : rs.IsChain fun r r' => r' % 2 ^ 64 = (r + 1) % 2 ^ 64

variable {c : ProcessConfig} {s s' : Process c.cap} {a : ProcessAct} {i : Nat}

lemma ranks_concat (n : Nat) (tr : List (Process c.cap × ProcessAct)) (s : Process c.cap)
    (a : ProcessAct) : ranks c i n (tr ++ [(s, a)]) =
      ranks c i n tr ++ if counts c s a ∧ a.By i then [n + count c tr + 1] else [] := by
  induction tr generalizing n with
  | nil =>
    by_cases hc : counts c s a <;> by_cases hi : a.By i <;> simp [ranks, count, hc, hi]
  | cons x tr ih =>
    by_cases hc : counts c x.1 x.2
    · have hcount : n + count c (x :: tr) = n + 1 + count c tr := by
        simp only [count, List.countP_cons, hc, if_true]
        omega
      by_cases hi : x.2.By i <;> simp [ranks, hc, hi, ih, hcount]
    · have hcount : count c (x :: tr) = count c tr := by
        simp [count, hc]
      simp [ranks, hc, ih, hcount]

/-- What is put on a sample is where its read has moved the counter. -/
lemma numberAt_eq : numberAt c i s a =
    if counts c s a ∧ a.By i then some (s.server.txSequence + 1).toUInt64 else none := by
  cases a with
  | read k now =>
    by_cases hnode : c.node = .pubGetDataToTransmit
    · by_cases hk : k = some i
      · simp [numberAt, counts, ProcessAct.By, hnode, hk]
        rfl
      · simp [numberAt, ProcessAct.By, hk]
    · simp [numberAt, counts, hnode]
  | forward k now =>
    by_cases hpc : ∃ m, s.pc k = some (.forward m)
    · obtain ⟨m, hpc⟩ := hpc
      by_cases hgood : Server.verdict s.server.prevRxSequence m = .good
      · by_cases hk : k = some i
        · subst hk
          simp [numberAt, counts, ProcessAct.By, hpc, hgood, Server.forward]
          rfl
        · simp [numberAt, ProcessAct.By, hpc, hk]
      · simp [numberAt, counts, hpc, hgood, Server.forward]
    · have hother : numberAt c i s (.forward k now) = none ∧
          counts c s (.forward k now) = false := by
        simp only [numberAt, counts]
        split
        · next m hm => exact absurd ⟨m, hm⟩ hpc
        · exact ⟨rfl, rfl⟩
      rw [hother.1, hother.2]
      rfl
  | _ => rfl

/-- A subscriber's callback leaves the counter alone, and never restarts the process. -/
lemma receive_frame {t t' : Server c.cap} {twoWayData : Bool} {data : Option Variant}
    {now : UInt64} {p : SubPc} (h : c.receive twoWayData t data now = some (t', p)) :
    t'.txSequence = t.txSequence ∧ (t'.gRunning = true → t.gRunning = true) := by
  unfold ProcessConfig.receive at h
  cases hf : writeFunc twoWayData with
  | subStoreDataReceived =>
    rw [hf] at h
    cases data with
    | none =>
      cases h
      exact ⟨rfl, fun hrun => hrun⟩
    | some v =>
      simp only at h
      split_ifs at h
      · cases h
        exact ⟨rfl, fun hrun => hrun⟩
      · cases h
        exact ⟨rfl, fun hrun => hrun⟩
      · cases h
        exact ⟨rfl, fun hrun => hrun⟩
  | subReturnStoreDataReceived =>
    rw [hf] at h
    obtain ⟨t', ht, he⟩ := Option.map_eq_some_iff.mp h
    cases he
    exact ⟨(Server.subReturnStoreDataReceived_frame ht).txSequence,
      (Server.subReturnStoreDataReceived_frame ht).gRunning⟩

/-- Only the reads that count move the counter. -/
lemma txSequence_step (h : (processLts c).step s a = some s') :
    s'.server.txSequence = s.server.txSequence + if counts c s a then 1 else 0 := by
  have hkeep : s.server.txSequence = s.server.txSequence + 0 := (Int64.add_zero _).symm
  cases step_spec h with
  | read k now hpc =>
    cases hnode : c.node with
    | pubGetDataToTransmit =>
      simp [ProcessConfig.readNode, counts, hnode, Server.pubGetDataToTransmit]
    | pubReturnGetDataToTransmit =>
      simp [ProcessConfig.readNode, counts, hnode, (Server.msgrcv_frame s.server).1]
  | forward k now m hpc =>
    by_cases hgood : Server.verdict s.server.prevRxSequence m = .good
    · simp [Server.forward, counts, hpc, hgood]
    · simp [Server.forward, counts, hpc, hgood]
  | receive j data now twoWayData server pc hpc hsub hr => exact (receive_frame hr).1.trans hkeep
  | finish j n hpc => exact (Server.finish_frame _ _ _).2.1.trans hkeep
  | test i hpc => exact hkeep
  | gate i hpc => exact hkeep
  | emit k v hpc =>
    cases k with
    | none => exact hkeep
    | some i => exact hkeep
  | _ => exact hkeep

/-! ### What has been counted and published -/

/-- The counter is two behind the count, and so is each number behind its rank. -/
structure Numbered (c : ProcessConfig) (i : Nat) (tr : List (Process c.cap × ProcessAct))
    (s : Process c.cap) : Prop where
  txSequence : s.server.txSequence = -2 + Int64.ofNat (count c tr)
  published : published c i tr = (ranks c i 0 tr).map fun r => UInt64.ofNat r - 2

/-- The number that goes with a rank. -/
lemma toUInt64_succ (n : Nat) :
    (-2 + Int64.ofNat n + 1).toUInt64 = UInt64.ofNat (n + 1) - 2 := by
  rw [← UInt64.toBitVec_inj]
  simp
  grind

lemma numbered_init : Numbered c i [] (start c) := by
  refine ⟨?_, rfl⟩
  simp only [start, ProcessConfig.startServer]
  split_ifs
  · rfl
  · rfl

lemma Numbered.step {tr : List (Process c.cap × ProcessAct)} (hI : Numbered c i tr s)
    (h : (processLts c).step s a = some s') : Numbered c i (tr ++ [(s, a)]) s' := by
  constructor
  · rw [txSequence_step h, hI.txSequence, count, count, List.countP_append]
    by_cases hc : counts c s a
    · simp [hc, Int64.ofNat_add]
      grind
    · simp [hc]
  · have happ : Process.published c i (tr ++ [(s, a)]) =
        Process.published c i tr ++ (numberAt c i s a).toList := by
      simp only [Process.published, List.filterMap_append, List.filterMap_cons,
        List.filterMap_nil]
      cases numberAt c i s a <;> rfl
    rw [happ, ranks_concat, hI.published, List.map_append, numberAt_eq, hI.txSequence,
      toUInt64_succ]
    by_cases hc : counts c s a ∧ a.By i
    · simp [hc]
    · simp [hc]

theorem numbered {tr : List (Process c.cap × ProcessAct)} (h : (processLts c).Run tr s) :
    Numbered c i tr s := by
  refine h.induct (P := fun tr s => Numbered c i tr s) ?_ ?_
  · rintro s rfl
    exact numbered_init
  · intro tr s a s' _ hI hs
    exact hI.step hs

/-! ### Numbers and ranks -/

lemma toNat_ofNat_sub_two (r : Nat) :
    (UInt64.ofNat r - 2).toNat = (r + (2 ^ 64 - 2)) % 2 ^ 64 := by
  rw [UInt64.toNat_sub]
  simp
  omega

lemma ofNat_sub_two_eq_add_one (r r' : Nat) :
    UInt64.ofNat r' - 2 = UInt64.ofNat r - 2 + 1 ↔ r' % 2 ^ 64 = (r + 1) % 2 ^ 64 := by
  have hnext : UInt64.ofNat r' - 2 = UInt64.ofNat r - 2 + 1 ↔
      UInt64.ofNat r' = UInt64.ofNat (r + 1) := by
    rw [UInt64.ofNat_add]
    grind
  rw [hnext, ← UInt64.toNat_inj, UInt64.toNat_ofNat', UInt64.toNat_ofNat']

/-- A reply ends A's run where its number says so. -/
lemma gRunning_of_reply {cap : Nat} {packetCount : PacketCount} {a a' : Server cap} {m : MsgqBuf}
    {seqB txPubB now : UInt64}
    (h : a.subReturnStoreDataReceived packetCount (some (Server.reply m seqB txPubB)) now =
      some a') :
    a'.gRunning = if Server.Final packetCount m.rxSequence then false else a.gRunning := by
  have hreply : a.subReturnStoreDataReceived packetCount (some (Server.reply m seqB txPubB)) now =
      a.returnReceived packetCount (Server.reply m seqB txPubB) now := rfl
  rw [hreply] at h
  cases h
  by_cases hfinal : Server.Final packetCount m.rxSequence
  · simp [hfinal, Server.stop]
  · simp [hfinal]

/-- Numbers up to `packet_count` end A's run only where they are `packet_count`. -/
lemma wellFormed_iff {packetCount : PacketCount} {ns : List UInt64} : WellFormed packetCount ns ↔
    (∀ n ∈ ns, n ≤ packetCount.val) ∧ ns.IsChain fun a b => b = a + 1 := by
  refine ⟨fun h => ⟨h.range, h.consecutive⟩, fun ⟨hrange, hconsecutive⟩ => ?_⟩
  refine ⟨hrange, hconsecutive, ?_⟩
  intro m hm cap a a' seqB txPubB now hrun h hstop
  rw [gRunning_of_reply h, hrun] at hstop
  have hfinal : Server.Final packetCount m.rxSequence := by
    by_contra hfinal
    rw [if_neg hfinal] at hstop
    cases hstop
  exact UInt64.le_antisymm (hrange _ hm) hfinal.2.2.2

/-- A process publishes the numbers from 0 to `packet_count`, one after the other, exactly where
the reads of its node are paced. -/
theorem wellFormed_iff_paced (c : ProcessConfig) (i : Nat)
    (tr : List (Process c.cap × ProcessAct)) (s : Process c.cap) (h : (processLts c).Run tr s) :
    WellFormed c.packetCount (published c i tr) ↔ Paced c.packetCount (ranks c i 0 tr) := by
  have hrange : ∀ r : Nat, UInt64.ofNat r - 2 ≤ c.packetCount.val ↔
      (r + (2 ^ 64 - 2)) % 2 ^ 64 ≤ c.packetCount.val.toNat := by
    intro r
    rw [UInt64.le_iff_toNat_le, toNat_ofNat_sub_two]
  rw [wellFormed_iff, (numbered h).published, List.forall_mem_map, List.isChain_map]
  simp only [hrange, ofNat_sub_two_eq_add_one]
  exact ⟨fun h => ⟨h.1, h.2⟩, fun h => ⟨h.range, h.consecutive⟩⟩

/-- A single publisher, with 3 as `packet_count`. -/
def lonePublisher : ProcessConfig where
  packetCount := ⟨3, by decide, by decide⟩
  cap := 8
  id := 0
  publishers := [false]
  subscribers := []
  node := .pubGetDataToTransmit

/-- The node is read while it is added, and the publisher puts out a sample. -/
def setUpAndPublish : List ProcessAct :=
  [.read none 0, .emit none, .test 0, .gate 0, .read (some 0) 10, .emit (some 0)]

theorem wellFormed_iff_paced_lone : ∃ tr s, (processLts lonePublisher).Run tr s ∧
    published lonePublisher 0 tr = [0] ∧
    (WellFormed lonePublisher.packetCount (published lonePublisher 0 tr) ↔
      Paced lonePublisher.packetCount (ranks lonePublisher 0 0 tr)) := by
  have hrun : ((processLts lonePublisher).replay (start lonePublisher) setUpAndPublish).map
      (fun r => published lonePublisher 0 r.1) = some [0] := by
    decide +kernel
  obtain ⟨⟨tr, s⟩, hr, hpub⟩ := Option.map_eq_some_iff.mp hrun
  have h := Lts.Run.of_replay (A := processLts lonePublisher) rfl hr
  exact ⟨tr, s, h, hpub, wellFormed_iff_paced lonePublisher 0 tr s h⟩

/-- A client reads the node between two samples: their numbers are 0 and 2. -/
theorem not_wellFormed : ¬ ∀ (c : ProcessConfig) (i : Nat)
    (tr : List (Process c.cap × ProcessAct)) (s : Process c.cap), (processLts c).Run tr s →
    WellFormed c.packetCount (published c i tr) := by
  intro h
  have hrun : ((processLts lonePublisher).replay (start lonePublisher)
      (setUpAndPublish ++ setUpAndPublish)).map (fun r => published lonePublisher 0 r.1) =
        some [0, 2] := by
    decide +kernel
  obtain ⟨⟨tr, s⟩, hr, hpub⟩ := Option.map_eq_some_iff.mp hrun
  have hwell := h lonePublisher 0 tr s (.of_replay rfl hr)
  rw [hpub] at hwell
  exact absurd hwell.consecutive (by decide)

end Process

end Opcua

end TsnRefSw
