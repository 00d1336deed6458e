import TsnRefSw.Txrx.Afxdp.Ownership

/-!
# When the send thread wedges

In the copy modes the kernel takes descriptors off the TX ring only inside `sendto()`, and
`afxdp_send_pkt()` comes to `sendto()` only if it could reserve a descriptor. Once a `sendto()`
returns with the ring full, no later call reserves one, and every remaining packet is dropped.
-/

namespace TsnRefSw

open Core

namespace Txrx

variable {lib : XskLib} {opt : UserOpt} {s s' : Sender opt.framesPerRing}

namespace Sender

/-- The TX ring has room for a descriptor. -/
def Room (s : Sender opt.framesPerRing) : Prop := s.xsk.txRing.used < opt.framesPerRing

/-- The step is a call's reservation, and the call queues its packet. -/
def Queues (s : Sender opt.framesPerRing) (a : SendAct) : Prop := a = .reserve ∧ s.Room

/-- If the step is the return of a `sendto()`, the kernel has left room on the TX ring. -/
def Drains (s : Sender opt.framesPerRing) (a : SendAct) : Prop := a = .sendto true → s.Room

/-- Some call in some continuation of the run queues its packet. -/
def Recovers (lib : XskLib) (s : Sender opt.framesPerRing) : Prop :=
  ∃ as tr s', (senderLts lib opt).replay s as = some (tr, s') ∧ ∃ x ∈ tr, x.1.Queues x.2

/-- There are packets left to send, not counting the one that has just been queued. -/
def Remaining (s : Sender opt.framesPerRing) : Prop :=
  match s.pc with
  | .setup | .loop | .poll | .fill | .reserve => s.i < total opt
  | .sendto | .stats => s.i + 1 < total opt
  | .finish | .done | .exited => False

end Sender

/-- Outside `sendto()` the TX ring changes by a reservation only. -/
lemma SendStep.copy_cases (hmode : opt.xdpMode ≠ .zeroCopy) {a : SendAct}
    (h : SendStep lib opt s a s') :
    (∃ hu, a = .reserve ∧ s.pc = .reserve ∧ s' = s.queue opt lib hu) ∨
    (a = .sendto true ∧ s.pc = .sendto ∧ s'.pc = .stats ∧ s'.xsk.txRing = s.xsk.txRing) ∨
    (a = .sendto false ∧ s.pc = .sendto ∧ s'.pc = .exited) ∨
    ((∃ k, a = .kernel k) ∧ s.pc = .sendto ∧ s'.pc = .sendto) ∨
    (s.pc ≠ .sendto ∧ s'.pc ≠ .sendto ∧ (s'.pc = .exited ↔ s.pc = .exited) ∧
      (a = .reserve → ¬ s.Room) ∧ (∀ ok, a ≠ .sendto ok) ∧ s'.xsk.txRing = s.xsk.txRing) := by
  cases h with
  | queue hpc hu => exact .inl ⟨hu, rfl, hpc, rfl⟩
  | sent hpc => exact .inr (.inl ⟨rfl, hpc, rfl, rfl⟩)
  | failed hpc => exact .inr (.inr (.inl ⟨rfl, hpc, rfl⟩))
  | kernel k xsk hk hx =>
    by_cases hpc : s.pc = .sendto
    · exact .inr (.inr (.inr (.inl ⟨⟨k, rfl⟩, hpc, hpc⟩)))
    · refine .inr (.inr (.inr (.inr ⟨hpc, hpc, Iff.rfl, by simp, by simp, ?_⟩)))
      obtain ⟨rfl, hu, rfl⟩ | ⟨j, e, -, hj, hu, rfl⟩ | ⟨-, hu, rfl⟩ |
        ⟨j, o, p, b, -, hj, -, -, hu, rfl⟩ := Xsk.kernelStep_cases hx
      · rcases hk with hk | hk
        · exact absurd hk hmode
        · exact absurd hk hpc
      · rfl
      · rfl
      · rfl
  | enter now hpc hi =>
    refine .inr (.inr (.inr (.inr ⟨by simp [hpc], ?_, ?_, by simp, by simp, rfl⟩)))
    · simp only [Sender.enter]
      split_ifs <;> simp
    · simp only [Sender.enter, hpc]
      split_ifs <;> simp
  | full hpc hu =>
    exact .inr (.inr (.inr (.inr ⟨by simp [hpc], by simp [Sender.next],
      by simp [hpc, Sender.next], fun _ => hu, by simp, rfl⟩)))
  | stats hpc =>
    exact .inr (.inr (.inr (.inr ⟨by simp [hpc], by simp [Sender.next],
      by simp [hpc, Sender.next], by simp, by simp, updateTxstats_txRing _ _⟩)))
  | finish hpc =>
    exact .inr (.inr (.inr (.inr ⟨by simp [hpc], by simp, by simp [hpc], by simp, by simp,
      updateTxstats_txRing _ _⟩)))
  | prefill now hpc =>
    exact .inr (.inr (.inr (.inr ⟨by simp [hpc], by simp [Sender.prefill],
      by simp [hpc, Sender.prefill], by simp, by simp, rfl⟩)))
  | leave hpc | writable hpc | timeout hpc | fill hpc =>
    exact .inr (.inr (.inr (.inr ⟨by simp [hpc], by simp [Sender.next, Sender.fill],
      by simp [hpc, Sender.next, Sender.fill], by simp, by simp, rfl⟩)))

namespace Sender

/-! ### From the run so far to the ring -/

/-- What the returns of `sendto()` so far say about the ring. -/
structure Drained (tr : List (Sender opt.framesPerRing × SendAct))
    (s : Sender opt.framesPerRing) : Prop where
  sending : s.pc = .sendto → ∀ x ∈ tr, x.1.Drains x.2
  other : s.pc ≠ .sendto → s.pc ≠ .exited → (s.Room ↔ ∀ x ∈ tr, x.1.Drains x.2)

lemma drained (hmode : opt.xdpMode ≠ .zeroCopy)
    {tr : List (Sender opt.framesPerRing × SendAct)} (h : (senderLts lib opt).Run tr s) :
    Drained tr s := by
  refine h.induct (P := Drained) ?_ ?_
  · intro s hinit
    obtain ⟨hpc, -, buffer, hx⟩ := init_eq hinit
    refine ⟨by simp [hpc], fun _ _ => ?_⟩
    simp only [Room, hx, List.not_mem_nil, false_implies, implies_true, iff_true]
    exact opt.framesPerRing_pos
  · intro tr s a s' _ ih hs
    have hmem : (∀ x ∈ tr ++ [(s, a)], x.1.Drains x.2) ↔
        (∀ x ∈ tr, x.1.Drains x.2) ∧ s.Drains a := by
      simp [or_imp, forall_and]
    obtain ⟨hu, rfl, hpc, rfl⟩ | ⟨rfl, hpc, hpc', hring⟩ | ⟨rfl, hpc, hpc'⟩ |
      ⟨⟨k, rfl⟩, hpc, hpc'⟩ | ⟨hpc, hpc', hexit, hres, hno, hring⟩ :=
      (step_spec hs).copy_cases hmode
    · refine ⟨fun _ => hmem.mpr ⟨?_, nofun⟩, fun hne => absurd rfl hne⟩
      exact (ih.other (by simp [hpc]) (by simp [hpc])).mp hu
    · refine ⟨by simp [hpc'], fun _ _ => ?_⟩
      rw [hmem, Room, hring]
      constructor
      · intro hroom
        exact ⟨ih.sending hpc, fun _ => hroom⟩
      · rintro ⟨-, hd⟩
        exact hd rfl
    · exact ⟨by simp [hpc'], fun _ hne => absurd hpc' hne⟩
    · exact ⟨fun _ => hmem.mpr ⟨ih.sending hpc, nofun⟩, fun hne => absurd hpc' hne⟩
    · refine ⟨fun he => absurd he hpc', fun _ hne => ?_⟩
      have hd : s.Drains a := fun ha => absurd ha (hno true)
      rw [hmem, Room, hring, ← Room, ih.other hpc (mt hexit.mpr hne)]
      simp only [hd, and_true]

/-! ### From the ring to the calls to come -/

/-- Behind a full ring nothing is queued any more. -/
lemma not_queues_of_full (hmode : opt.xdpMode ≠ .zeroCopy) (hpc : s.pc ≠ .sendto)
    (hfull : ¬ s.Room) {as : List SendAct} {tr : List (Sender opt.framesPerRing × SendAct)}
    (hr : (senderLts lib opt).replay s as = some (tr, s')) : ∀ x ∈ tr, ¬ x.1.Queues x.2 := by
  have hI := Lts.replay_invariant (I := fun s => s.pc ≠ .sendto ∧ ¬ s.Room) ?_ ⟨hpc, hfull⟩ hr
  · rintro x hx ⟨-, hroom⟩
    exact (hI x hx).2 hroom
  · rintro s a s' ⟨hpc, hfull⟩ hs
    obtain ⟨hu, -, -, -⟩ | ⟨-, he, -, -⟩ | ⟨-, he, -⟩ | ⟨-, he, -⟩ | ⟨-, hpc', -, -, -, hring⟩ :=
      (step_spec hs).copy_cases hmode
    · exact absurd hu hfull
    · exact absurd he hpc
    · exact absurd he hpc
    · exact absurd he hpc
    · refine ⟨hpc', ?_⟩
      rw [Room, hring]
      exact hfull

/-- As long as there is room, the next call that comes to its reservation queues its packet. -/
lemma queues_of_room (hmode : opt.xdpMode ≠ .zeroCopy) (hpc : s.pc ≠ .sendto) (hroom : s.Room)
    {as : List SendAct} {tr : List (Sender opt.framesPerRing × SendAct)}
    (hr : (senderLts lib opt).replay s as = some (tr, s')) (hres : ∃ x ∈ tr, x.2 = .reserve) :
    ∃ x ∈ tr, x.1.Queues x.2 := by
  induction as generalizing s tr with
  | nil =>
    cases hr
    simp at hres
  | cons a as ih =>
    obtain ⟨s₁, tr₁, hs, hr₁, rfl⟩ := Lts.replay_cons hr
    by_cases ha : a = .reserve
    · exact ⟨(s, a), List.mem_cons_self .., ha, hroom⟩
    · obtain ⟨-, he, -⟩ | ⟨-, he, -⟩ | ⟨-, he, -⟩ | ⟨-, he, -⟩ | ⟨-, hpc', -, -, -, hring⟩ :=
        (step_spec hs).copy_cases hmode
      · exact absurd he ha
      · exact absurd he hpc
      · exact absurd he hpc
      · exact absurd he hpc
      · have hroom' : s₁.Room := by
          rw [Room, hring]
          exact hroom
        obtain ⟨y, hy, hyr⟩ := hres
        rcases List.mem_cons.mp hy with rfl | hy
        · exact absurd hyr ha
        · obtain ⟨x, hx, hq⟩ := ih hpc' hroom' hr₁ ⟨y, hy, hyr⟩
          exact ⟨x, List.mem_cons_of_mem _ hx, hq⟩

lemma Recovers.of_step {a : SendAct} (hs : (senderLts lib opt).step s a = some s')
    (h : Recovers lib s') : Recovers lib s := by
  obtain ⟨as, tr, s₁, hr, x, hx, hq⟩ := h
  exact ⟨a :: as, (s, a) :: tr, s₁, by simp [Lts.replay, hs, hr], x, List.mem_cons_of_mem _ hx, hq⟩

lemma recovers_reserve (hpc : s.pc = .reserve) (hroom : s.Room) : Recovers lib s := by
  have hs : (senderLts lib opt).step s .reserve = some (s.queue opt lib hroom) := by
    have hr := lib.reserve_one_iff.mpr hroom
    simp [senderLts, step, hpc, hr]
  have hr : (senderLts lib opt).replay s [.reserve] =
      some ([(s, .reserve)], s.queue opt lib hroom) := by
    simp [Lts.replay, hs]
  exact ⟨_, _, _, hr, (s, .reserve), List.mem_cons_self .., rfl, hroom⟩

lemma recovers_fill (hpc : s.pc = .fill) (hroom : s.Room) : Recovers lib s :=
  .of_step (a := .fill) (if_pos hpc) (recovers_reserve rfl hroom)

lemma recovers_poll (hpc : s.pc = .poll) (hroom : s.Room) : Recovers lib s :=
  .of_step (a := .poll true) (if_pos hpc) (recovers_fill rfl hroom)

lemma recovers_loop (hpc : s.pc = .loop) (hi : s.i < total opt) (hroom : s.Room) :
    Recovers lib s := by
  apply Recovers.of_step (a := .enter 0) (if_pos ⟨hpc, hi⟩)
  by_cases hp : opt.enablePoll
  · exact recovers_poll (by simp [enter, hp]) hroom
  · exact recovers_fill (by simp [enter, hp]) hroom

lemma recovers_setup (hpc : s.pc = .setup) (hroom : s.Room) (hi : s.i < total opt) :
    Recovers lib s :=
  .of_step (a := .prefill 0) (if_pos hpc) (recovers_loop rfl hi hroom)

lemma recovers_stats (hpc : s.pc = .stats) (hi : s.i + 1 < total opt) (hroom : s.Room) :
    Recovers lib s := by
  apply Recovers.of_step (a := .stats) (if_pos hpc) (recovers_loop rfl hi ?_)
  rw [Room, next, updateTxstats_txRing]
  exact hroom

/-- A kernel that takes a descriptor during a `sendto()` makes room for the next packet. -/
lemma recovers_sendto (hpc : s.pc = .sendto) (hi : s.i + 1 < total opt) : Recovers lib s := by
  by_cases hroom : s.Room
  · exact .of_step (a := .sendto true) (if_pos hpc) (recovers_stats rfl hi hroom)
  · have hused : 0 < s.xsk.txRing.used :=
      opt.framesPerRing_pos.trans_le (Nat.le_of_not_lt hroom)
    have hmay : KernelMay opt s.pc .txTake := .inr hpc
    have hs : (senderLts lib opt).step s (.kernel .txTake) = some _ :=
      (if_pos hmay).trans (by rw [Xsk.kernelStep, dif_pos hused]; rfl)
    apply Recovers.of_step hs
    refine .of_step (a := .sendto true) (if_pos hpc) (recovers_stats rfl hi ?_)
    have hle := s.xsk.txRing.used_le
    show (s.xsk.txRing.pop hused).used < _
    rw [Ring.used_pop]
    omega

/-- With packets left to send, the state recovers unless the ring is full outside
`sendto()`. -/
lemma recovers_of_remaining (hrem : s.Remaining) (h : s.pc ≠ .sendto → s.Room) :
    Recovers lib s := by
  unfold Remaining at hrem
  split at hrem
  case h_1 hpc => exact recovers_setup hpc (h (by simp [hpc])) hrem
  case h_2 hpc => exact recovers_loop hpc hrem (h (by simp [hpc]))
  case h_3 hpc => exact recovers_poll hpc (h (by simp [hpc]))
  case h_4 hpc => exact recovers_fill hpc (h (by simp [hpc]))
  case h_5 hpc => exact recovers_reserve hpc (h (by simp [hpc]))
  case h_6 hpc => exact recovers_sendto hpc hrem
  case h_7 hpc => exact recovers_stats hpc hrem (h (by simp [hpc]))
  all_goals cases hrem

lemma Remaining.ne_exited (h : s.Remaining) : s.pc ≠ .exited := by
  intro hpc
  simp [Remaining, hpc] at h

end Sender

/-- In the copy modes, with packets left to send: some later call can queue its packet if and
only if no `sendto()` so far has returned with the TX ring full. Outside `sendto()` it is then
the next call to reserve a descriptor that queues its packet, whatever the kernel does. -/
theorem send_recovers_iff (hmode : opt.xdpMode ≠ .zeroCopy)
    {tr : List (Sender opt.framesPerRing × SendAct)} (h : (senderLts lib opt).Run tr s)
    (hrem : s.Remaining) :
    (s.Recovers lib ↔ ∀ x ∈ tr, x.1.Drains x.2) ∧
    ((∀ x ∈ tr, x.1.Drains x.2) → s.pc ≠ .sendto → ∀ as tr' s',
      (senderLts lib opt).replay s as = some (tr', s') → (∃ x ∈ tr', x.2 = .reserve) →
      ∃ x ∈ tr', x.1.Queues x.2) := by
  have hI := Sender.drained hmode h
  have hroom := fun hpc => hI.other hpc hrem.ne_exited
  refine ⟨⟨?_, ?_⟩, ?_⟩
  · intro hrec
    by_cases hpc : s.pc = .sendto
    · exact hI.sending hpc
    · apply (hroom hpc).mp
      by_contra hfull
      obtain ⟨as, tr', s', hr, x, hx, hq⟩ := hrec
      exact Sender.not_queues_of_full hmode hpc hfull hr x hx hq
  · intro hd
    exact Sender.recovers_of_remaining hrem fun hpc => (hroom hpc).mpr hd
  · intro hd hpc as tr' s' hr hres
    exact Sender.queues_of_room hmode hpc ((hroom hpc).mpr hd) hr hres

/-! ### A kernel that transmits nothing for a while -/

section Stall

private lemma fiveThousand_ge : 1 ≤ 5000 := by decide
private lemma fiveThousand_le : 5000 ≤ 10000000 := by decide

/-- The defaults in the SKB copy mode, with more packets to send than there are frames. -/
private def copyFrames : UserOpt :=
  { UserOpt.default with
    xdpMode := .skbCopy
    framesToSend := 5000, framesToSend_ge := fiveThousand_ge, framesToSend_le := fiveThousand_le }

variable {tr : List (Sender opt.framesPerRing × SendAct)}

/-- A call that finds room comes to its `sendto()`. -/
private lemma sendto_of_room (h : (senderLts lib opt).Run tr s) (hpc : s.pc = .loop)
    (hi : s.i < Sender.total opt) (hpoll : opt.enablePoll = false)
    (hu : s.xsk.txRing.used < opt.framesPerRing) (hd : ∀ x ∈ tr, x.1.Drains x.2) :
    ∃ tr' s', (senderLts lib opt).Run tr' s' ∧ s'.pc = .sendto ∧ s'.i = s.i ∧
      s'.xsk.txRing.used = s.xsk.txRing.used + 1 ∧ ∀ x ∈ tr', x.1.Drains x.2 := by
  have h₁ : (senderLts lib opt).Run _ (s.enter opt 0) :=
    h.step (a := .enter 0) (by simp [senderLts, Sender.step, hpc, hi])
  have h₂ : (senderLts lib opt).Run _ ((s.enter opt 0).fill opt) :=
    h₁.step (a := .fill) (by simp [senderLts, Sender.step, Sender.enter, hpoll])
  have h₃ : (senderLts lib opt).Run _ (((s.enter opt 0).fill opt).queue opt lib hu) :=
    h₂.step (a := .reserve)
      (by simp [senderLts, Sender.step, Sender.enter, Sender.fill, lib.reserve_one_iff, hu])
  refine ⟨_, _, h₃, rfl, rfl, Ring.used_push hu, ?_⟩
  simp only [List.forall_mem_append, List.forall_mem_singleton]
  simpa [Sender.Drains] using hd

/-- The `sendto()` returns after the kernel has taken a descriptor. -/
private lemma return_of_sendto (h : (senderLts lib opt).Run tr s) (hpc : s.pc = .sendto)
    (hu : 0 < s.xsk.txRing.used) (hd : ∀ x ∈ tr, x.1.Drains x.2) :
    ∃ tr' s', (senderLts lib opt).Run tr' s' ∧ s'.pc = .stats ∧ s'.i = s.i ∧
      (s, .kernel .txTake) ∈ tr' ∧ ∀ x ∈ tr', x.1.Drains x.2 := by
  obtain ⟨x, hx, hring⟩ : ∃ x, s.xsk.kernelStep .txTake = some x ∧
      x.txRing = s.xsk.txRing.pop hu := ⟨_, dif_pos hu, rfl⟩
  have h₁ : (senderLts lib opt).Run _ { s with xsk := x } :=
    h.step (a := .kernel .txTake) (by simp [senderLts, Sender.step, Sender.KernelMay, hpc, hx])
  have h₂ : (senderLts lib opt).Run _ { s with xsk := x, pc := .stats } :=
    h₁.step (a := .sendto true) (by simp [senderLts, Sender.step, hpc])
  refine ⟨_, _, h₂, rfl, rfl, by simp, ?_⟩
  simp only [List.forall_mem_append, List.forall_mem_singleton]
  refine ⟨⟨hd, by simp [Sender.Drains]⟩, fun _ => ?_⟩
  have hle := s.xsk.txRing.used_le
  show x.txRing.used < _
  rw [hring, Ring.used_pop]
  omega

/-- The kernel transmits nothing during 4095 calls, but a packet during the next: its `sendto()`
begins with the ring full and returns with room on it. -/
theorem send_recovers_drained :
    ∃ tr s, (senderLts .reference copyFrames).Run tr s ∧
      (∃ x ∈ tr, x.1.pc = .sendto ∧ ¬ x.1.Room) ∧ s.Recovers .reference := by
  obtain ⟨tr, s, h, hs⟩ :=
    stalled .reference (show copyFrames.enablePoll = false from rfl) 4095 (by decide) (by decide)
  have hused : s.xsk.txRing.used = 4095 := by
    rw [Ring.used, hs.prod, hs.cons]
  have hroom : s.xsk.txRing.used < copyFrames.framesPerRing := by
    rw [hused]
    decide
  have hdrains : ∀ x ∈ tr, x.1.Drains x.2 :=
    ((Sender.drained (by decide) h).other (by simp [hs.pc]) (by simp [hs.pc])).mp hroom
  have hi : s.i < Sender.total copyFrames := by
    rw [hs.i]
    decide
  obtain ⟨tr₁, s₁, h₁, hpc₁, hi₁, hfull, hdrains₁⟩ :=
    sendto_of_room h hs.pc hi rfl hroom hdrains
  rw [hused] at hfull
  obtain ⟨tr₂, s₂, h₂, hpc₂, hi₂, hmem, hdrains₂⟩ :=
    return_of_sendto h₁ hpc₁ (hfull ▸ Nat.succ_pos _) hdrains₁
  refine ⟨tr₂, s₂, h₂, ⟨_, hmem, hpc₁, ?_⟩, (send_recovers_iff (by decide) h₂ ?_).1.mpr hdrains₂⟩
  · rw [Sender.Room, hfull]
    decide
  · rw [Sender.Remaining, hpc₂, hi₂, hi₁, hs.i]
    decide

/-- The kernel transmits nothing during 4096 calls: the ring is full, and whatever the kernel
does from then on, none of the remaining packets is queued. -/
theorem not_send_recovers :
    ¬ ∀ (lib : XskLib) (opt : UserOpt) (tr : List (Sender opt.framesPerRing × SendAct))
      (s : Sender opt.framesPerRing), opt.xdpMode ≠ .zeroCopy → (senderLts lib opt).Run tr s →
      s.Remaining → s.Recovers lib := by
  intro h
  obtain ⟨tr, s, hrun, hpc, hi, hprod, hcons, -, -, -⟩ :=
    stalled .reference (show copyFrames.enablePoll = false from rfl) 4096 (by decide) (by decide)
  have hrem : s.Remaining := by
    simp only [Sender.Remaining, hpc, hi]
    decide
  obtain ⟨as, tr', s', hr, x, hx, hq⟩ := h _ _ tr s (by decide) hrun hrem
  refine Sender.not_queues_of_full (by decide) (by simp [hpc]) ?_ hr x hx hq
  rw [Sender.Room, Ring.used, hprod, hcons]
  decide

end Stall

end Txrx

end TsnRefSw
