import TsnRefSw.Opcua.Published

/-!
# What stops a process

The signal and the last message at a subscriber stop a process, and so does the counter of the
publishers when it comes to the last number. Nothing starts it again.
-/

namespace TsnRefSw

open Core Core.Lts

namespace Opcua

/-- `seqA` in `subReturnStoreDataReceived()`, when it is compared with `packet_count`. -/
def seqA : Option Variant → UInt64
  | none   => 0
  | some v =>
    if v.arrayLength = noLength ∨ 0 < v.arrayLength then (v.data.bind List.head?).getD 0 else 0

namespace Process

variable {c : ProcessConfig} {s s' : Process c.cap} {a : ProcessAct}

/-- The signal, or the last message at a subscriber, stops the process. -/
def halts (c : ProcessConfig) (s : Process c.cap) : ProcessAct → Bool
  | .stop             => true
  | .finish j         => s.subs[j]? = some (.finish c.packetCount.val)
  | .receive j data _ =>
    c.subscribers[j]? = some true ∧ Server.Final c.packetCount (seqA data)
  | _                 => false

/-- Something other than a publisher has stopped the process. -/
def Halted (c : ProcessConfig) (tr : List (Process c.cap × ProcessAct)) : Prop :=
  ∃ x ∈ tr, halts c x.1 x.2

/-! ### Threads -/

lemma pc_setPc {k : Option Nat} {p q : PubPc} (h : s.pc k = some q) (l : Option Nat) :
    (s.setPc k p).pc l = if l = k then some p else s.pc l := by
  cases k with
  | none =>
    cases l with
    | none => rfl
    | some l => rfl
  | some k =>
    cases l with
    | none => rfl
    | some l =>
      have hk : k < s.pubs.length := (List.getElem?_eq_some_iff.mp h).1
      by_cases hl : l = k
      · simp [pc, setPc, hl, hk]
      · simp [pc, setPc, hl, List.getElem?_set_ne (Ne.symm hl)]

/-- Where the node is read with the one-way callback, nothing is forwarded. -/
lemma no_forward (hnode : c.node = .pubGetDataToTransmit)
    {tr : List (Process c.cap × ProcessAct)} (h : (processLts c).Run tr s) (k : Option Nat)
    (m : MsgqBuf) : s.pc k ≠ some (.forward m) := by
  have hset : ∀ (s : Process c.cap) (l : Option Nat) (p q : PubPc),
      (∀ k, s.pc k ≠ some (.forward m)) → s.pc l = some q → p ≠ .forward m →
      ∀ k, (s.setPc l p).pc k ≠ some (.forward m) := by
    intro s l p q hI hpc hp k
    rw [pc_setPc hpc]
    split_ifs
    · intro he
      exact hp (Option.some.inj he)
    · exact hI k
  refine h.invariant (I := fun s => ∀ k, s.pc k ≠ some (.forward m)) ?_ ?_ k
  · rintro s rfl k
    cases k with
    | none => simp [pc, start]
    | some k =>
      intro he
      simp only [pc, start, List.getElem?_map] at he
      obtain ⟨_, _, hp⟩ := Option.map_eq_some_iff.mp he
      cases hp
  · intro s a s' hI hs
    cases step_spec hs with
    | test i hpc =>
      refine hset s _ _ _ hI hpc ?_
      split_ifs <;> simp
    | gate i hpc =>
      refine hset s _ _ _ hI hpc ?_
      split_ifs <;> simp
    | read l now hpc =>
      refine hset s _ _ _ hI hpc ?_
      simp [ProcessConfig.readNode, hnode]
    | forward l now m' hpc => exact hset s _ _ _ hI hpc (by simp)
    | emit l v hpc =>
      refine hset s _ _ _ hI hpc ?_
      cases l <;> simp [afterEmit]
    | _ => exact hI

lemma ne_forward (hnode : c.node = .pubGetDataToTransmit) {tr : List (Process c.cap × ProcessAct)}
    (h : (processLts c).Run tr s) :
    ∀ x ∈ tr, ∀ k now, x.2 ≠ .forward k now := by
  refine h.induct (P := fun tr _ => ∀ x ∈ tr, ∀ k now, x.2 ≠ .forward k now) ?_ ?_
  · intro s _ x hx
    cases hx
  · intro tr s a s' hrun hI hs x hx k now he
    rcases List.mem_append.mp hx with hx | hx
    · exact hI x hx k now he
    · obtain rfl := List.mem_singleton.mp hx
      obtain rfl : a = .forward k now := he
      cases step_spec hs with | forward _ _ m hpc =>
      exact no_forward hnode hrun k m hpc

/-! ### What stops a process -/

lemma not_final_zero (packetCount : PacketCount) : ¬ Server.Final packetCount 0 := by
  intro h
  have hle := UInt64.le_iff_toNat_le.mp h.2.2.2
  have hge := UInt64.le_iff_toNat_le.mp packetCount.ge
  simp at hle hge
  omega

/-- The return subscriber's callback stops the process if the number is final. -/
lemma gRunning_of_subReturn {cap : Nat} {packetCount : PacketCount} {t t' : Server cap}
    {data : Option Variant} {now : UInt64}
    (h : t.subReturnStoreDataReceived packetCount data now = some t') :
    t'.gRunning = true ↔ t.gRunning = true ∧ ¬ Server.Final packetCount (seqA data) := by
  cases data with
  | none =>
    cases h
    simp [seqA, not_final_zero]
  | some v =>
    simp only [Server.subReturnStoreDataReceived] at h
    split_ifs at h with hempty hvalid
    · cases h
      simp [seqA, hempty, not_final_zero]
    · unfold Server.returnReceived at h
      split at h
      · next seqA' _ _ _ _ _ hdata =>
        have hseq : seqA (some v) = seqA' := by simp [seqA, hvalid, hdata]
        cases h
        rw [hseq]
        by_cases hfinal : Server.Final packetCount seqA'
        · simp [hfinal, Server.stop]
        · simp [hfinal]
      · cases h
    · next hfinal => exact absurd hfinal (not_final_zero packetCount)
    · cases h
      simp [seqA, hvalid, not_final_zero]

/-- A subscriber's callback stops the process with the last message only. -/
lemma gRunning_of_receive {t t' : Server c.cap} {j : Nat} {twoWayData : Bool}
    {data : Option Variant} {now : UInt64} {p : SubPc}
    (hsub : c.subscribers[j]? = some twoWayData)
    (h : c.receive twoWayData t data now = some (t', p)) :
    t'.gRunning = true ↔ t.gRunning = true ∧ halts c s (.receive j data now) = false := by
  cases twoWayData with
  | false =>
    have hrun : t'.gRunning = t.gRunning := by
      cases data with
      | none =>
        cases h
        rfl
      | some v =>
        simp only [ProcessConfig.receive, writeFunc, if_true] at h
        split_ifs at h <;> cases h <;> rfl
    simp [halts, hsub, hrun]
  | true =>
    obtain ⟨t', ht, he⟩ := Option.map_eq_some_iff.mp h
    cases he
    rw [gRunning_of_subReturn ht]
    simp [halts, hsub]

lemma toInt_counter {n : Nat} (h : n ≤ 10000002) :
    (-2 + Int64.ofNat n).toInt = (n : Int) - 2 := by
  rw [Int64.toInt_add, Int64.toInt_ofNat_of_lt (by omega)]
  exact Int.bmod_eq_of_le (by simp) (by simp; omega)

/-- The return publisher's callback stops the process with the last number, or beyond it. -/
lemma gRunning_forward {cap : Nat} {packetCount : PacketCount} {t : Server cap} {m : MsgqBuf}
    (now : UInt64) : (t.forward packetCount m now).1.gRunning = true ↔ t.gRunning = true ∧
      (t.forward packetCount m now).1.txSequence.toInt < packetCount.val.toNat := by
  have hrun : (t.forward packetCount m now).1.gRunning =
      if packetCount.val.toInt64 ≤ (t.forward packetCount m now).1.txSequence then false
        else t.gRunning := rfl
  rw [hrun]
  split_ifs with hle
  · rw [Int64.le_iff_toInt_le, packetCount.toInt_toInt64] at hle
    simp [hle]
  · rw [Int64.le_iff_toInt_le, packetCount.toInt_toInt64, not_le] at hle
    simp [hle]

/-- Until the last number, a step stops the process where it is told to, and with the last
number. -/
lemma gRunning_step (h : (processLts c).step s a = some s')
    (hge : -2 ≤ s.server.txSequence.toInt)
    (hlt : s.server.txSequence.toInt < c.packetCount.val.toNat) :
    s'.server.gRunning = true ↔ s.server.gRunning = true ∧ halts c s a = false ∧
      s'.server.txSequence.toInt < c.packetCount.val.toNat := by
  have hlast : ∀ {t : Server c.cap}, t.gRunning = s.server.gRunning →
      t.txSequence = s.server.txSequence → (t.gRunning = true ↔ s.server.gRunning = true ∧
        false = false ∧ t.txSequence.toInt < c.packetCount.val.toNat) := by
    intro t hrun htx
    simp [hrun, htx, hlt]
  cases step_spec h with
  | test i hpc => exact hlast rfl rfl
  | gate i hpc => exact hlast rfl rfl
  | read k now hpc =>
    cases hnode : c.node with
    | pubGetDataToTransmit =>
      have hspec := Server.pubGetDataToTransmit_spec now hge hlt
      simp only [ProcessConfig.readNode, hnode, halts]
      rw [hspec.2, hspec.1]
      simp
    | pubReturnGetDataToTransmit =>
      have hframe := Server.msgrcv_frame s.server
      have hrun : s.server.msgrcv.2.gRunning = s.server.gRunning := by
        unfold Server.msgrcv
        split <;> rfl
      simp only [ProcessConfig.readNode, hnode]
      exact hlast hrun hframe.1
  | forward k now m hpc =>
    show (s.server.forward c.packetCount m now).1.gRunning = true ↔ _
    rw [gRunning_forward]
    simp [halts]
  | emit k v hpc =>
    cases k <;> exact hlast rfl rfl
  | subTest j hpc => exact hlast rfl rfl
  | receive j data now twoWayData server pc hpc hsub hr =>
    simp [gRunning_of_receive (s := s) hsub hr, (receive_frame hr).1, hlt]
  | store j now v m hpc hm => exact hlast rfl rfl
  | finish j n hpc =>
    by_cases hn : n = c.packetCount.val
    · simp [Server.finish, halts, hpc, hn, Server.stop]
    · simp [Server.finish, halts, hpc, hn, hlt]
  | idle j hpc => exact hlast rfl rfl
  | stop => simp [halts]

/-- No step restarts a process. -/
lemma gRunning_of_step (h : (processLts c).step s a = some s') (hrun : s'.server.gRunning = true) :
    s.server.gRunning = true := by
  cases step_spec h with
  | read k now hpc =>
    cases hnode : c.node with
    | pubGetDataToTransmit =>
      simp only [ProcessConfig.readNode, hnode, Server.pubGetDataToTransmit] at hrun
      split_ifs at hrun
      exact hrun
    | pubReturnGetDataToTransmit =>
      simp only [ProcessConfig.readNode, hnode, Server.msgrcv] at hrun
      split at hrun <;> exact hrun
  | forward k now m hpc => exact ((gRunning_forward now).mp hrun).1
  | emit k v hpc => cases k <;> exact hrun
  | receive j data now twoWayData server pc hpc hsub hr => exact (receive_frame hr).2 hrun
  | finish j n hpc =>
    simp only [Server.finish] at hrun
    split_ifs at hrun
    · cases hrun
    · exact hrun
  | stop => cases hrun
  | _ => exact hrun

lemma halted_concat {tr : List (Process c.cap × ProcessAct)} :
    Halted c (tr ++ [(s, a)]) ↔ Halted c tr ∨ halts c s a = true := by
  simp [Halted, or_and_right, exists_or]

lemma count_concat {tr : List (Process c.cap × ProcessAct)} :
    count c (tr ++ [(s, a)]) = count c tr + if counts c s a then 1 else 0 := by
  simp [count, List.countP_append, List.countP_cons]

/-- A process runs until it is stopped or has counted up to the last number. -/
theorem running_iff {tr : List (Process c.cap × ProcessAct)} (h : (processLts c).Run tr s) :
    s.server.gRunning = true ↔ ¬ Halted c tr ∧ count c tr < c.packetCount.val.toNat + 2 := by
  refine h.induct (P := fun tr s => s.server.gRunning = true ↔
    ¬ Halted c tr ∧ count c tr < c.packetCount.val.toNat + 2) ?_ ?_
  · rintro s rfl
    have hrun : (start c).server.gRunning = true := by
      simp only [start, ProcessConfig.startServer]
      split_ifs <;> rfl
    simp [hrun, Halted, count]
  · intro tr s a s' htr hI hs
    rw [halted_concat, not_or, Bool.not_eq_true]
    by_cases hrun : s.server.gRunning = true
    · obtain ⟨hhalted, hlt⟩ := hI.mp hrun
      have hle := c.packetCount.toNat_le
      have htx : s.server.txSequence.toInt = (count c tr : Int) - 2 := by
        rw [(numbered (i := 0) htr).txSequence]
        exact toInt_counter (by omega)
      have htx' : s'.server.txSequence.toInt = (count c (tr ++ [(s, a)]) : Int) - 2 := by
        rw [(numbered (i := 0) (htr.step hs)).txSequence]
        refine toInt_counter ?_
        rw [count_concat]
        split_ifs <;> omega
      rw [gRunning_step hs (by omega) (by omega), htx']
      simp only [hrun, hhalted, true_and, not_false_eq_true]
      refine and_congr_right fun _ => ?_
      omega
    · constructor
      · intro hrun'
        exact absurd (gRunning_of_step hs hrun') hrun
      · rintro ⟨⟨hhalted, -⟩, hlt⟩
        refine absurd (hI.mpr ⟨hhalted, ?_⟩) hrun
        rw [count_concat] at hlt
        omega

end Process

end Opcua

end TsnRefSw
