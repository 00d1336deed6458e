import TsnRefSw.Txrx.Afxdp.Ownership

/-!
# When reception and transmission do not share frames

`create_umem()` posts every frame for reception, and the send thread transmits from the same
frames. In transmit mode nothing is ever read off the RX ring: a frame is out of the kernel's
reach exactly when a packet has been received in it.
-/

namespace TsnRefSw

open Core

namespace Txrx

variable {lib : XskLib} {opt : UserOpt} {s s' : Sender opt.framesPerRing}

/-- The send thread leaves all that belongs to reception alone. -/
lemma SendStep.rx_cases {a : SendAct} (h : SendStep lib opt s a s') :
    (∃ k xsk, s.xsk.kernelStep k = some xsk ∧ s' = { s with xsk := xsk }) ∨
    (s'.xsk.rxFillRing = s.xsk.rxFillRing ∧ s'.xsk.rxHeld = s.xsk.rxHeld ∧
      s'.xsk.rxRing = s.xsk.rxRing) := by
  cases h with
  | kernel k xsk hk hx => exact .inl ⟨k, xsk, hx, rfl⟩
  | stats hpc => exact .inr ⟨by simp [Sender.next], by simp [Sender.next], by simp [Sender.next]⟩
  | finish hpc => exact .inr ⟨by simp, by simp, by simp⟩
  | _ => exact .inr ⟨rfl, rfl, rfl⟩

namespace Xsk

variable {N : Nat} {x x' : Xsk N}

/-- Where nothing is read off the RX ring, the frames on it stay there. -/
lemma rxFrames_kernelStep {k : KernelAct} (h : x.kernelStep k = some x') {f : Nat}
    (hf : f ∈ x.rxFrames) : f ∈ x'.rxFrames := by
  obtain ⟨-, hu, rfl⟩ | ⟨j, d, -, hj, hu, rfl⟩ | ⟨-, hu, rfl⟩ |
    ⟨j, o, p, a, -, hj, -, -, hu, rfl⟩ := kernelStep_cases h
  · exact hf
  · exact hf
  · exact hf
  · rw [rxFrames, Ring.entries_push hu, List.map_append]
    exact List.mem_append_left _ hf

end Xsk

namespace Sender

/-- The step fills no frame that is on the fill ring or held by the kernel for reception. -/
def Disjoint (s : Sender opt.framesPerRing) (a : SendAct) : Prop :=
  a = .fill → s.xsk.curTx ∉ s.xsk.fillFrames ∧ s.xsk.curTx ∉ s.xsk.heldFrames

/-- When a frame is filled, a packet has been received in it. -/
def Received (s : Sender opt.framesPerRing) (a : SendAct) : Prop :=
  a = .fill → s.xsk.curTx ∈ s.xsk.rxFrames

/-- The frames posted for reception are accounted for, and the ones in flight are on the RX
ring, the one about to be queued included. -/
structure Separate (s : Sender opt.framesPerRing) : Prop where
  numbered : s.xsk.Numbered
  posted : s.xsk.Posted
  partition : s.xsk.Partition
  inFlight : ∀ n d, s.xsk.InFlight n d → frameOf d.addr ∈ s.xsk.rxFrames
  filled : s.pc = .reserve → s.xsk.curTx ∈ s.xsk.rxFrames

lemma Separate.curTx_lt (h : Separate s) : s.xsk.curTx < opt.framesPerRing :=
  h.numbered.curTx ▸ Nat.mod_lt _ opt.framesPerRing_pos

lemma Separate.disjoint_iff (h : Separate s) (a : SendAct) : s.Disjoint a ↔ s.Received a :=
  forall_congr' fun _ => (h.partition.mem_rxFrames_iff h.curTx_lt).symm

lemma separate_init (h : (senderLts lib opt).init s) : Separate s := by
  obtain ⟨hpc, -, buffer, hx⟩ := init_eq h
  refine ⟨numbered_init h, hx ▸ Xsk.posted_initial buffer, hx ▸ Xsk.partition_initial buffer,
    fun n d hd => ?_, fun hr => ?_⟩
  · rw [hx] at hd
    exact absurd hd (Xsk.not_inFlight_initial n d)
  · rw [hpc] at hr
    cases hr

lemma Separate.step {a : SendAct} (h : Separate s) (hr : s.Received a)
    (hs : (senderLts lib opt).step s a = some s') : Separate s' := by
  have hnum := numbered_step h.numbered hs
  -- the frames posted for reception
  have hrx : s'.xsk.Posted ∧ s'.xsk.Partition ∧ ∀ f ∈ s.xsk.rxFrames, f ∈ s'.xsk.rxFrames := by
    obtain ⟨k, xsk, hx, rfl⟩ | ⟨hfill, hheld, hring⟩ := (step_spec hs).rx_cases
    · exact ⟨h.posted.kernelStep hx, h.partition.kernelStep h.posted hx,
        fun f => Xsk.rxFrames_kernelStep hx⟩
    · refine ⟨⟨?_, ?_⟩, ?_, fun f hf => ?_⟩
      · rw [hfill]
        exact h.posted.slot
      · rw [hheld]
        exact h.posted.held
      · rw [Xsk.Partition, Xsk.fillFrames, Xsk.heldFrames, Xsk.rxFrames, hfill, hheld, hring]
        exact h.partition
      · rw [Xsk.rxFrames, hring]
        exact hf
  obtain ⟨hposted, hpart, hmono⟩ := hrx
  -- the frames in flight
  obtain ⟨hu, -, hpc, rfl⟩ | ⟨k, xsk, -, hx, rfl⟩ | ⟨hring, hheld, hcur, hfill⟩ :=
    (step_spec hs).tx_cases
  · refine ⟨hnum, hposted, hpart, fun n d hd => hmono _ ?_,
      by simp [Sender.queue]⟩
    rcases inFlight_queue hu hd with hd | ⟨-, haddr, -⟩
    · exact h.inFlight n d hd
    · rw [haddr, frameOf_mul]
      exact h.filled hpc
  · refine ⟨hnum, hposted, hpart, fun n d hd => hmono _ ?_, fun hpc => hmono _ ?_⟩
    · exact h.inFlight n d (Xsk.inFlight_of_kernelStep hx hd)
    · rw [(Xsk.prod_of_kernelStep hx).2]
      exact h.filled hpc
  · refine ⟨hnum, hposted, hpart, fun n d hd => hmono _ ?_, fun hpc => hmono _ ?_⟩
    · rw [Xsk.InFlight, hring, hheld] at hd
      exact h.inFlight n d hd
    · rw [hcur]
      exact hr (hfill hpc)

end Sender

/-- The send thread never fills a frame that is on the fill ring or held by the kernel for
reception if and only if a packet has already been received in each frame it fills. In that
case no packet the kernel receives overwrites one that is waiting to be sent. -/
theorem send_disjoint_iff {tr : List (Sender opt.framesPerRing × SendAct)}
    (h : (senderLts lib opt).Run tr s) :
    ((∀ x ∈ tr, x.1.Disjoint x.2) ↔ ∀ x ∈ tr, x.1.Received x.2) ∧
    ((∀ x ∈ tr, x.1.Received x.2) → ∀ n d, s.xsk.InFlight n d →
      (frameOf d.addr ∉ s.xsk.fillFrames ∧ frameOf d.addr ∉ s.xsk.heldFrames) ∧
      ∀ k xsk, s.xsk.kernelStep k = some xsk →
        ∀ a, frameOf a = frameOf d.addr → xsk.buffer a = s.xsk.buffer a) := by
  constructor
  · exact h.forall_iff (fun s => Sender.separate_init) (fun s a s' hI hC hs => hI.step hC hs)
      (fun s a s' hI _ => hI.disjoint_iff a)
  · intro hC n d hd
    have hI : Sender.Separate s := h.invariant_of (C := Sender.Received)
      (fun s => Sender.separate_init) (fun s a s' hI hC hs => hI.step hC hs) hC
    have hlt : frameOf d.addr < opt.framesPerRing := by
      rw [(hI.numbered.addr n d hd).2, frameOf_mul]
      exact Nat.mod_lt _ opt.framesPerRing_pos
    have hout := (hI.partition.mem_rxFrames_iff hlt).mp (hI.inFlight n d hd)
    refine ⟨hout, fun k xsk hk a ha => ?_⟩
    apply Xsk.buffer_kernelStep hI.posted hk
    rw [ha]
    exact hout.2

/-! ### The first packet -/

section FirstPacket

/-- The send thread about to begin, with the default options. -/
private def begin : Sender UserOpt.default.framesPerRing :=
  ⟨.setup, .initial UserOpt.default.framesPerRing fun _ => 0, 0, 0, 0, List.replicate 64 0⟩

private lemma begin_init : (senderLts .reference .default).init begin :=
  ⟨_, _, _, initXdpSocket_eq .reference UserOpt.default.framesPerRing_pos _,
    List.length_replicate, rfl⟩

/-- A packet has come in before the first one is sent, and occupies its frame. -/
theorem send_disjoint_iff_received :
    ∃ tr s, (senderLts .reference .default).Run tr s ∧ (∃ x ∈ tr, x.2 = .fill) ∧
      ∀ x ∈ tr, x.1.Disjoint x.2 := by
  have h₁ := (Lts.Run.init begin_init).step (a := .kernel .rxTake) rfl
  have h₂ := h₁.step (a := .kernel (.rxDeliver 0 256 [1, 2, 3])) rfl
  have h₃ := h₂.step (a := .prefill 0) rfl
  have h₄ := h₃.step (a := .enter 0) rfl
  have h₅ := h₄.step (a := .fill) rfl
  refine ⟨_, _, h₅, ⟨(_, .fill), List.mem_append_right _ (List.mem_singleton_self _), rfl⟩, ?_⟩
  refine (send_disjoint_iff h₅).1.mpr fun x hx hfill => ?_
  simp only [List.nil_append, List.cons_append, List.mem_cons, List.not_mem_nil, or_false] at hx
  rcases hx with rfl | rfl | rfl | rfl | rfl
  · cases hfill
  · cases hfill
  · cases hfill
  · cases hfill
  · exact List.mem_cons_self ..

/-- The frame of the very first packet is on the fill ring. -/
theorem not_send_disjoint :
    ¬ ∀ (lib : XskLib) (opt : UserOpt) (tr : List (Sender opt.framesPerRing × SendAct))
      (s : Sender opt.framesPerRing), (senderLts lib opt).Run tr s →
      ∀ x ∈ tr, x.1.Disjoint x.2 := by
  intro h
  have h₁ := (Lts.Run.init begin_init).step (a := .prefill 0) rfl
  have h₂ := h₁.step (a := .enter 0) rfl
  have h₃ := h₂.step (a := .fill) rfl
  refine (h _ _ _ _ h₃ (_, .fill) (List.mem_append_right _ (List.mem_singleton_self _)) rfl).1 ?_
  exact List.mem_cons_self ..

end FirstPacket

end Txrx

end TsnRefSw
