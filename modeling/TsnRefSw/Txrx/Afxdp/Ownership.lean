import TsnRefSw.Txrx.Afxdp.Send

/-!
# When the send thread owns the frame it fills

The payload is copied to the frame `cur_tx` before a descriptor is reserved, and without a look
at the completions. The frame is free exactly if the descriptor that used it last, one round of
the ring ago, has been completed: a full ring protects the descriptors from being overwritten,
but not the frames.
-/

namespace TsnRefSw

open Core

namespace Txrx

variable {lib : XskLib} {opt : UserOpt} {s s' : Sender opt.framesPerRing}

namespace Sender

/-- The step copies no payload into a frame whose descriptor has not been completed. -/
def Spares (s : Sender opt.framesPerRing) (a : SendAct) : Prop :=
  a = .fill → ∀ n d, s.xsk.InFlight n d → frameOf d.addr ≠ s.xsk.curTx

/-- When a payload is copied, the descriptor submitted one round of the ring before the next
one, if there is one, has been completed. -/
def Reclaimed (s : Sender opt.framesPerRing) (a : SendAct) : Prop :=
  a = .fill → ∀ n d, n + opt.framesPerRing = s.xsk.txRing.prod → ¬ s.xsk.InFlight n d

/-- The descriptors in flight are among the last round of the ring, and not the oldest of it
while the thread is about to submit another one. -/
structure LastRound (s : Sender opt.framesPerRing) : Prop where
  numbered : s.xsk.Numbered
  near : ∀ n d, s.xsk.InFlight n d → s.xsk.txRing.prod ≤ n + opt.framesPerRing
  free : s.pc = .reserve → ∀ n d, s.xsk.InFlight n d →
    s.xsk.txRing.prod < n + opt.framesPerRing

/-- Two descriptors of one round use one frame only if they are a whole round apart. -/
lemma LastRound.spares_iff (h : LastRound s) (a : SendAct) : s.Spares a ↔ s.Reclaimed a := by
  refine forall_congr' fun ha => ?_
  constructor
  · intro hs n d hn hd
    apply hs n d hd
    rw [(h.numbered.addr n d hd).2, frameOf_mul, h.numbered.curTx, ← hn, Nat.add_mod_right]
  · intro hr n d hd hframe
    obtain ⟨hlt, haddr⟩ := h.numbered.addr n d hd
    rw [haddr, frameOf_mul, h.numbered.curTx] at hframe
    exact hr n d (Ring.eq_add_of_mod_eq hlt (h.near n d hd) hframe).symm hd

lemma lastRound_init (h : (senderLts lib opt).init s) : LastRound s := by
  obtain ⟨hpc, -, buffer, hx⟩ := init_eq h
  refine ⟨numbered_init h, fun n d hd => ?_, fun hr => ?_⟩
  · rw [hx] at hd
    exact absurd hd (Xsk.not_inFlight_initial n d)
  · rw [hpc] at hr
    cases hr

lemma LastRound.step {a : SendAct} (h : LastRound s) (hr : s.Reclaimed a)
    (hs : (senderLts lib opt).step s a = some s') : LastRound s' := by
  have hnum := numbered_step h.numbered hs
  obtain ⟨hu, -, hpc, rfl⟩ | ⟨k, xsk, -, hx, rfl⟩ | ⟨hring, hheld, -, hfill⟩ :=
    (step_spec hs).tx_cases
  · -- the reservation: the frame was reclaimed when it was filled
    refine ⟨hnum, fun n d hd => ?_, fun hpc' => ?_⟩
    · rcases inFlight_queue hu hd with hd | ⟨rfl, -⟩
      · exact h.free hpc n d hd
      · exact Nat.add_le_add_left opt.framesPerRing_pos _
    · cases hpc'
  · obtain ⟨hprod, -⟩ := Xsk.prod_of_kernelStep hx
    refine ⟨hnum, fun n d hd => ?_, fun hpc n d hd => ?_⟩
    · rw [hprod]
      exact h.near n d (Xsk.inFlight_of_kernelStep hx hd)
    · rw [hprod]
      exact h.free hpc n d (Xsk.inFlight_of_kernelStep hx hd)
  · have hsame : ∀ n d, s'.xsk.InFlight n d ↔ s.xsk.InFlight n d := fun n d => by
      rw [Xsk.InFlight, hring, hheld, Xsk.InFlight]
    refine ⟨hnum, fun n d hd => ?_, fun hpc n d hd => ?_⟩
    · rw [hring]
      exact h.near n d ((hsame n d).mp hd)
    · rw [hring]
      have hd := (hsame n d).mp hd
      rcases (h.near n d hd).lt_or_eq with hlt | heq
      · exact hlt
      · exact absurd hd (hr (hfill hpc) n d heq.symm)

/-- The copy stays within the frame `cur_tx`. -/
lemma fill_buffer_of_ne {x : Nat} (hx : frameOf x ≠ s.xsk.curTx) :
    (s.fill opt).xsk.buffer x = s.xsk.buffer x := by
  have hlen : (s.buff.take (opt.packetSize - headerSize)).length ≤ opt.packetSize - headerSize :=
    List.length_take_le _ _
  have hfit : headerSize + (s.buff.take (opt.packetSize - headerSize)).length ≤ frameSize := by
    have := opt.packetSize_le
    unfold headerSize frameSize at *
    omega
  show s.xsk.buffer.copyTo (s.xsk.curTx <<< frameShift + headerSize) _ x = _
  rw [shiftLeft_frameShift]
  exact copyTo_frame_of_ne hx hfit

end Sender

/-- The send thread never fills a frame that is in flight if and only if, whenever it fills
one, the descriptor submitted one round of the ring earlier has been completed. In that case
what it copies leaves the packets in flight unchanged. -/
theorem send_spares_in_flight {tr : List (Sender opt.framesPerRing × SendAct)}
    (h : (senderLts lib opt).Run tr s) :
    ((∀ x ∈ tr, x.1.Spares x.2) ↔ ∀ x ∈ tr, x.1.Reclaimed x.2) ∧
    ((∀ x ∈ tr, x.1.Reclaimed x.2) → ∀ x ∈ tr, x.2 = .fill → ∀ n d a, x.1.xsk.InFlight n d →
      frameOf a = frameOf d.addr → (x.1.fill opt).xsk.buffer a = x.1.xsk.buffer a) := by
  have hiff := h.forall_iff (P := Sender.Spares) (C := Sender.Reclaimed)
    (fun s => Sender.lastRound_init) (fun s a s' hI hC hs => hI.step hC hs)
    (fun s a s' hI _ => hI.spares_iff a)
  refine ⟨hiff, fun hC x hx hfill n d a hd hframe => ?_⟩
  apply Sender.fill_buffer_of_ne
  rw [hframe]
  exact hiff.mpr hC x hx hfill n d hd

/-! ### A kernel that transmits nothing -/

section Stall

/-- The send thread about to begin, its memory cleared. -/
private def fresh (opt : UserOpt) : Sender opt.framesPerRing :=
  ⟨.setup, .initial opt.framesPerRing fun _ => 0, 0, 0, 0, List.replicate opt.packetSize 0⟩

private lemma fresh_init (lib : XskLib) (opt : UserOpt) : (senderLts lib opt).init (fresh opt) :=
  ⟨_, _, _, initXdpSocket_eq lib opt.framesPerRing_pos _, List.length_replicate, rfl⟩

/-- The thread has queued `k` packets and the kernel has taken none. -/
structure Stalled {opt : UserOpt} (k : Nat) (tr : List (Sender opt.framesPerRing × SendAct))
    (s : Sender opt.framesPerRing) : Prop where
  pc : s.pc = .loop
  i : s.i = k
  prod : s.xsk.txRing.prod = k
  cons : s.xsk.txRing.cons = 0
  held : s.xsk.txHeld = []
  completed : s.xsk.txCompRing.used = 0
  fills : ∀ x ∈ tr, x.2 = .fill → x.1.xsk.txRing.prod < k

/-- One turn of the loop while the kernel stands still. -/
private lemma stalled_turn (hpoll : opt.enablePoll = false)
    {tr : List (Sender opt.framesPerRing × SendAct)} {k : Nat} (h : (senderLts lib opt).Run tr s)
    (hs : Stalled k tr s) (hi : k < Sender.total opt) (hk : k < opt.framesPerRing) :
    ∃ tr' s', (senderLts lib opt).Run tr' s' ∧ Stalled (k + 1) tr' s' := by
  obtain ⟨hpc, rfl, hprod, hcons, hheld, hcompleted, hfills⟩ := hs
  have hu : s.xsk.txRing.used < opt.framesPerRing := by
    unfold Ring.used
    omega
  have h₁ : (senderLts lib opt).Run _ (s.enter opt 0) :=
    h.step (a := .enter 0) (by simp [senderLts, Sender.step, hpc, hi])
  have h₂ : (senderLts lib opt).Run _ ((s.enter opt 0).fill opt) :=
    h₁.step (a := .fill) (by simp [senderLts, Sender.step, Sender.enter, hpoll])
  have h₃ : (senderLts lib opt).Run _ (((s.enter opt 0).fill opt).queue opt lib hu) :=
    h₂.step (a := .reserve)
      (by simp [senderLts, Sender.step, Sender.enter, Sender.fill, lib.reserve_one_iff, hu])
  have h₄ : (senderLts lib opt).Run _
      { ((s.enter opt 0).fill opt).queue opt lib hu with pc := .stats } :=
    h₃.step (a := .sendto true) (by simp [senderLts, Sender.step, Sender.queue])
  have h₅ := h₄.step (a := .stats) (by simp [senderLts, Sender.step]; rfl)
  refine ⟨_, _, h₅, rfl, rfl, ?_, ?_, ?_, ?_, ?_⟩
  · simpa [Sender.next, Sender.queue, Sender.fill, Sender.enter] using hprod
  · simpa [Sender.next, Sender.queue, Sender.fill, Sender.enter] using hcons
  · simpa [Sender.next, Sender.queue, Sender.fill, Sender.enter] using hheld
  · exact Nat.eq_zero_of_le_zero ((used_updateTxstats_le _ _).trans hcompleted.le)
  · simp only [List.forall_mem_append, List.forall_mem_singleton, reduceCtorEq, false_implies,
      and_true, true_implies]
    refine ⟨fun x hx hfill => Nat.lt_succ_of_lt (hfills x hx hfill), ?_⟩
    exact hprod.trans_lt (Nat.lt_succ_self _)

/-- As many packets are queued as there is room for. -/
lemma stalled (lib : XskLib) {opt : UserOpt} (hpoll : opt.enablePoll = false) (k : Nat)
    (hk : k ≤ opt.framesPerRing) (hi : k ≤ Sender.total opt) :
    ∃ tr s, (senderLts lib opt).Run tr s ∧ Stalled k tr s := by
  induction k with
  | zero =>
    have h₁ := (Lts.Run.init (fresh_init lib opt)).step (a := .prefill 0) rfl
    exact ⟨_, _, h₁, rfl, rfl, rfl, rfl, rfl, rfl, by simp⟩
  | succ k ih =>
    obtain ⟨tr, s, h, hs⟩ := ih (by omega) (by omega)
    exact stalled_turn hpoll h hs (by omega) (by omega)

/-- The defaults, with more packets to send than there are frames. -/
private def manyFrames : UserOpt :=
  { UserOpt.default with
    framesToSend := 5000, framesToSend_ge := by decide, framesToSend_le := by decide }

/-- The kernel transmits the oldest packet and reports it as completed. -/
private lemma kernelStep_oldest {N : Nat} {x : Xsk N} (hheld : x.txHeld = [])
    (hused : 0 < x.txRing.used) (hroom : x.txCompRing.used < N) :
    ∃ x₁ x₂, x.kernelStep .txTake = some x₁ ∧ x₁.kernelStep (.txComplete 0) = some x₂ ∧
      x₂.txRing = x.txRing.pop hused ∧ x₂.txHeld = [] ∧ x₂.curTx = x.curTx := by
  refine ⟨_, { x with
    txRing := x.txRing.pop hused
    txHeld := []
    txCompRing := x.txCompRing.push (x.txRing.entry x.txRing.cons).addr hroom },
    dif_pos hused, ?_, rfl, rfl, rfl⟩
  simp [Xsk.kernelStep, hheld, hroom]

/-- All frames have been used when the kernel transmits the first packet and reports it: the
thread may fill its frame again. -/
theorem send_spares_in_flight_again :
    ∃ tr s, (senderLts .reference manyFrames).Run tr s ∧ s.pc = .fill ∧
      s.xsk.txRing.prod = manyFrames.framesPerRing ∧ s.xsk.curTx = 0 ∧ s.Spares .fill := by
  obtain ⟨tr, s, h, hs⟩ :=
    stalled .reference (show manyFrames.enablePoll = false from rfl) 4096 (by decide) (by decide)
  have hnum : s.xsk.Numbered := h.invariant (I := fun s => s.xsk.Numbered)
    (fun s => Sender.numbered_init) (fun s a s' hI hs => Sender.numbered_step hI hs)
  have hused : 0 < s.xsk.txRing.used := by
    rw [Ring.used, hs.prod, hs.cons]
    decide
  have hroom : s.xsk.txCompRing.used < manyFrames.framesPerRing := by
    rw [hs.completed]
    decide
  obtain ⟨x₁, x₂, htake, hcomplete, hring, hheld, hcur⟩ := kernelStep_oldest hs.held hused hroom
  have h₁ : (senderLts .reference manyFrames).Run _ { s with xsk := x₁ } :=
    h.step (a := .kernel .txTake)
      (by simp [senderLts, Sender.step, Sender.KernelMay, htake,
        show manyFrames.xdpMode = .zeroCopy from rfl])
  have h₂ : (senderLts .reference manyFrames).Run _ { s with xsk := x₂ } :=
    h₁.step (a := .kernel (.txComplete 0))
      (by simp [senderLts, Sender.step, Sender.KernelMay, hcomplete])
  have h₃ : (senderLts .reference manyFrames).Run _ ({ s with xsk := x₂ }.enter manyFrames 0) :=
    h₂.step (a := .enter 0) (by simp [senderLts, Sender.step, hs.pc, hs.i]; decide)
  have h₄ := h₃.step (a := .fill) rfl
  have hprod : x₂.txRing.prod = 4096 := by
    rw [hring]
    exact hs.prod
  refine ⟨_, _, h₃, rfl, hprod, ?_, ?_⟩
  · show x₂.curTx = 0
    rw [hcur, hnum.curTx, hs.prod]
    decide
  · refine (send_spares_in_flight h₄).1.mpr (fun x hx hfill n d hn => ?_) (_, .fill)
      (List.mem_append_right _ (List.mem_singleton_self _))
    simp only [List.mem_append, List.mem_singleton] at hx
    rcases hx with (((hx | rfl) | rfl) | rfl) | rfl
    · -- in the first round no frame has been used before
      have hlt := hs.fills x hx hfill
      exact absurd (hn ▸ Nat.le_add_left _ n) (Nat.not_le.mpr hlt)
    · cases hfill
    · cases hfill
    · cases hfill
    · obtain rfl : n = 0 := Nat.add_right_cancel (hn.trans (hprod.trans (Nat.zero_add _).symm))
      rintro (⟨hholds, -⟩ | hmem)
      · have hle : x₂.txRing.cons ≤ 0 := hholds.1
        rw [hring] at hle
        exact absurd hle (Nat.not_succ_le_zero _)
      · have hmem : (0, d) ∈ x₂.txHeld := hmem
        rw [hheld] at hmem
        cases hmem

/-- The kernel does not transmit: once all descriptors are in use, the next call overwrites the
first packet before it finds that there is no descriptor to reserve. -/
theorem not_send_spares_in_flight :
    ¬ ∀ (lib : XskLib) (opt : UserOpt) (tr : List (Sender opt.framesPerRing × SendAct))
      (s : Sender opt.framesPerRing), (senderLts lib opt).Run tr s →
      ∀ x ∈ tr, x.1.Spares x.2 := by
  intro h
  obtain ⟨tr, s, hrun, hpc, hi, hprod, hcons, -, -, -⟩ :=
    stalled .reference (show manyFrames.enablePoll = false from rfl) 4096 (by decide) (by decide)
  have hnum : s.xsk.Numbered := hrun.invariant (I := fun s => s.xsk.Numbered)
    (fun s => Sender.numbered_init) (fun s a s' hI hs => Sender.numbered_step hI hs)
  have h₁ : (senderLts .reference manyFrames).Run _ (s.enter manyFrames 0) :=
    hrun.step (a := .enter 0) (by simp [senderLts, Sender.step, hpc, hi]; decide)
  have h₂ : (senderLts .reference manyFrames).Run _ ((s.enter manyFrames 0).fill manyFrames) :=
    h₁.step (a := .fill) rfl
  have hfirst : s.xsk.InFlight 0 (s.xsk.txRing.entry 0) := by
    refine .inl ⟨⟨hcons.le, ?_⟩, rfl⟩
    rw [hprod]
    decide
  refine h _ _ _ _ h₂ (s.enter manyFrames 0, .fill)
    (List.mem_append_right _ (List.mem_singleton_self _)) rfl 0 _ hfirst ?_
  rw [(hnum.addr 0 _ hfirst).2, frameOf_mul]
  show 0 % 4096 = s.xsk.curTx
  rw [hnum.curTx, hprod]
  decide

end Stall

end Txrx

end TsnRefSw
