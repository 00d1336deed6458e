import TsnRefSw.Txrx.Afxdp.Xsk

/-!
# Receiving with AF_XDP

`afxdp_recv_pkt()` reads the next packet off the RX ring, and in exchange submits a slot of the
fill ring. It writes no address to that slot: what the kernel finds there is what
`create_umem()` wrote. The address is that of the consumed packet's frame exactly as long as
packets come in the order in which their frames were posted.
-/

namespace TsnRefSw

open Core

namespace Txrx

/-- The socket, the number of the last packet and the lines printed. -/
structure Receiver (N : Nat) where
  xsk : Xsk N
  globRxSeq : Nat
  out : List RxLine

inductive RecvAct where
  /-- A call of `afxdp_recv_pkt()`; `now` is the time in nanoseconds. -/
  | recv (now : Nat)
  | kernel (k : KernelAct)

namespace Receiver

variable {N : Nat}

/-- The loop body for the descriptor `d`. -/
def consume (s : Receiver N) (d : RxDesc) (now : Nat) : Receiver N :=
  if d.len = 0 then s
  else
    match parsePacket s.xsk.buffer d.addr now with
    | some line => { s with out := s.out ++ [line], globRxSeq := line.seq }
    | none      => s

/-- `afxdp_recv_pkt()`. A call that cannot reserve a slot of the fill ring tries again until it
can, and until then changes nothing. What the kernel does in the course of a call may as well
come before it, or behind it. -/
def recvPkt (lib : XskLib) (s : Receiver N) (now : Nat) : Receiver N :=
  if hp : lib.xskRingConsPeek s.xsk.rxRing 1 = 1 then
    if hr : lib.xskRingProdReserve s.xsk.rxFillRing 1 = 1 then
      let t := s.consume (s.xsk.rxRing.entry s.xsk.rxRing.cons) now
      { t with
        xsk := { s.xsk with
          rxFillRing := s.xsk.rxFillRing.advance (lib.reserve_one_iff.mp hr)
          rxRing := s.xsk.rxRing.pop (lib.peek_one_iff.mp hp)
          rxNpkts := (s.xsk.rxNpkts + 1) % 2 ^ 64 } }
    else s
  else s

/-- A call, or a step of the kernel. `main()` calls until the last packet has come. -/
def step (lib : XskLib) (opt : UserOpt) (s : Receiver N) : RecvAct → Option (Receiver N)
  | .recv now => if s.globRxSeq < opt.framesToSend then some (s.recvPkt lib now) else none
  | .kernel k => (s.xsk.kernelStep k).map fun xsk => { s with xsk := xsk }

end Receiver

/-- A socket in receive mode, from the moment it was set up. -/
def receiverLts (lib : XskLib) (opt : UserOpt) :
    Lts (Receiver opt.framesPerRing) RecvAct where
  init s := ∃ buffer xsk, initXdpSocket lib opt.framesPerRing buffer = some xsk ∧ s = ⟨xsk, 0, []⟩
  step := Receiver.step lib opt

variable {lib : XskLib} {opt : UserOpt} {s s' : Receiver opt.framesPerRing}

namespace Receiver

/-- The call comes to recycle a frame: there is a packet, and room on the fill ring. -/
def Consumes (s : Receiver opt.framesPerRing) : Prop :=
  0 < s.xsk.rxRing.used ∧ s.xsk.rxFillRing.used < opt.framesPerRing

/-- What a step does to the rings: a call that consumes a packet submits the next slot of the
fill ring as it is, any other call changes nothing. -/
lemma step_cases {a : RecvAct} (h : (receiverLts lib opt).step s a = some s') :
    (∃ now, a = .recv now ∧ ∃ hp hr, s'.xsk = { s.xsk with
      rxFillRing := s.xsk.rxFillRing.advance hr
      rxRing := s.xsk.rxRing.pop hp
      rxNpkts := (s.xsk.rxNpkts + 1) % 2 ^ 64 }) ∨
    (∃ now, a = .recv now ∧ ¬ s.Consumes ∧ s' = s) ∨
    (∃ k, a = .kernel k ∧ s.xsk.kernelStep k = some s'.xsk) := by
  replace h : Receiver.step lib opt s a = some s' := h
  cases a with
  | recv now =>
    simp only [step] at h
    split_ifs at h with hseq
    cases h
    unfold recvPkt
    split_ifs with hp hr
    · exact .inl ⟨now, rfl, lib.peek_one_iff.mp hp, lib.reserve_one_iff.mp hr, rfl⟩
    · exact .inr (.inl ⟨now, rfl, fun hc => hr (lib.reserve_one_iff.mpr hc.2), rfl⟩)
    · exact .inr (.inl ⟨now, rfl, fun hc => hp (lib.peek_one_iff.mpr hc.1), rfl⟩)
  | kernel k =>
    obtain ⟨xsk, hx, rfl⟩ := Option.map_eq_some_iff.mp h
    exact .inr (.inr ⟨k, rfl, hx⟩)

/-- The address put back on the fill ring is that of the frame whose packet is consumed. -/
def Recycles (s : Receiver opt.framesPerRing) (a : RecvAct) : Prop :=
  ∀ now, a = .recv now → s.Consumes →
    frameOf (s.xsk.rxFillRing.entry s.xsk.rxFillRing.prod) =
      frameOf (s.xsk.rxRing.entry s.xsk.rxRing.cons).addr

/-- The `k`-th packet consumed lies in frame `k` modulo `frames_per_ring`, which is the `k`-th
frame the kernel took from the fill ring. -/
def InTurn (s : Receiver opt.framesPerRing) (a : RecvAct) : Prop :=
  ∀ now, a = .recv now → s.Consumes →
    frameOf (s.xsk.rxRing.entry s.xsk.rxRing.cons).addr = s.xsk.rxRing.cons % opt.framesPerRing

/-- One slot of the fill ring is submitted for each packet consumed. -/
structure Exchange (s : Receiver opt.framesPerRing) : Prop where
  posted : s.xsk.Posted
  prod : s.xsk.rxFillRing.prod = s.xsk.rxRing.cons + opt.framesPerRing

lemma Exchange.recycles_iff (h : Exchange s) (a : RecvAct) : s.Recycles a ↔ s.InTurn a := by
  refine forall_congr' fun now => forall_congr' fun _ => forall_congr' fun _ => ?_
  rw [h.posted.entry, frameOf_mul, h.prod, Nat.add_mod_right]
  exact eq_comm

lemma init_eq (h : (receiverLts lib opt).init s) :
    ∃ buffer, s.xsk = .initial opt.framesPerRing buffer := by
  obtain ⟨buffer, xsk, hx, rfl⟩ := h
  rw [initXdpSocket_eq lib opt.framesPerRing_pos] at hx
  exact ⟨buffer, (Option.some.inj hx).symm⟩

lemma exchange_init (h : (receiverLts lib opt).init s) : Exchange s := by
  obtain ⟨buffer, hx⟩ := init_eq h
  exact ⟨hx ▸ Xsk.posted_initial buffer, by rw [hx]; exact (Nat.zero_add _).symm⟩

lemma rings_kernelStep {N : Nat} {x x' : Xsk N} {k : KernelAct} (h : x.kernelStep k = some x') :
    x'.rxFillRing.prod = x.rxFillRing.prod ∧ x'.rxRing.cons = x.rxRing.cons := by
  obtain ⟨-, hu, rfl⟩ | ⟨j, d, -, hj, hu, rfl⟩ | ⟨-, hu, rfl⟩ |
    ⟨j, o, p, a, -, hj, -, -, hu, rfl⟩ := Xsk.kernelStep_cases h <;> exact ⟨rfl, rfl⟩

lemma Exchange.step {a : RecvAct} (h : Exchange s)
    (hs : (receiverLts lib opt).step s a = some s') : Exchange s' := by
  obtain ⟨now, -, hp, hr, hx⟩ | ⟨now, -, -, rfl⟩ | ⟨k, -, hk⟩ := step_cases hs
  · constructor
    · rw [hx]
      exact ⟨h.posted.slot, h.posted.held⟩
    · rw [hx]
      show s.xsk.rxFillRing.prod + 1 = s.xsk.rxRing.cons + 1 + _
      rw [h.prod]
      omega
  · exact h
  · obtain ⟨hprod, hcons⟩ := rings_kernelStep hk
    refine ⟨h.posted.kernelStep hk, ?_⟩
    rw [hprod, hcons]
    exact h.prod

/-- A call that puts back the frame it consumed keeps every frame in one place. -/
lemma partition_step {a : RecvAct} (h : Exchange s) (hpart : s.xsk.Partition) (hr : s.Recycles a)
    (hs : (receiverLts lib opt).step s a = some s') : s'.xsk.Partition := by
  obtain ⟨now, rfl, hp, hroom, hx⟩ | ⟨now, -, -, rfl⟩ | ⟨k, -, hk⟩ := step_cases hs
  · have hframe := hr now rfl ⟨hp, hroom⟩
    rw [Xsk.Partition, Xsk.fillFrames, Xsk.heldFrames, Xsk.rxFrames, Ring.entries_pop hp]
      at hpart
    rw [hx, Xsk.Partition, Xsk.fillFrames, Xsk.heldFrames, Xsk.rxFrames,
      Ring.entries_advance hroom, List.map_append, List.map_singleton, hframe,
      List.append_assoc]
    have hmove : (s.xsk.rxHeld.map frameOf ++
        frameOf (s.xsk.rxRing.entry s.xsk.rxRing.cons).addr ::
          (s.xsk.rxRing.pop hp).entries.map fun d => frameOf d.addr).Perm
        (frameOf (s.xsk.rxRing.entry s.xsk.rxRing.cons).addr :: (s.xsk.rxHeld.map frameOf ++
          (s.xsk.rxRing.pop hp).entries.map fun d => frameOf d.addr)) := List.perm_middle
    exact (hmove.symm.append_left _).trans hpart
  · exact hpart
  · exact hpart.kernelStep h.posted hk

end Receiver

/-- Every frame put back on the fill ring is the one whose packet was just consumed if and
only if the packets are consumed in the order in which the kernel took their frames. In that
case each frame is at all times in exactly one place: on the fill ring, with the kernel, or on
the RX ring. -/
theorem recv_recycles_iff {tr : List (Receiver opt.framesPerRing × RecvAct)}
    (h : (receiverLts lib opt).Run tr s) :
    ((∀ x ∈ tr, x.1.Recycles x.2) ↔ ∀ x ∈ tr, x.1.InTurn x.2) ∧
    ((∀ x ∈ tr, x.1.InTurn x.2) → s.xsk.Partition) := by
  constructor
  · exact h.forall_iff (I := Receiver.Exchange) (fun s => Receiver.exchange_init)
      (fun s a s' hI _ hs => hI.step hs) (fun s a s' hI _ => hI.recycles_iff a)
  · intro hC
    have hI := h.invariant_of (I := fun s => s.Exchange ∧ s.xsk.Partition)
      (C := Receiver.InTurn) ?_ ?_ hC
    · exact hI.2
    · intro s hinit
      obtain ⟨buffer, hx⟩ := Receiver.init_eq hinit
      exact ⟨Receiver.exchange_init hinit, hx ▸ Xsk.partition_initial buffer⟩
    · rintro s a s' ⟨hex, hpart⟩ hturn hs
      exact ⟨hex.step hs,
        Receiver.partition_step hex hpart ((hex.recycles_iff a).mpr hturn) hs⟩

section TwoFrames

/-- A socket in receive mode with the default options, just set up. -/
private def listening : Receiver UserOpt.default.framesPerRing :=
  ⟨.initial UserOpt.default.framesPerRing fun _ => 0, 0, []⟩

private lemma listening_init : (receiverLts .reference .default).init listening :=
  ⟨_, _, initXdpSocket_eq .reference UserOpt.default.framesPerRing_pos _, rfl⟩

/-- The kernel takes two frames and delivers the first. -/
theorem recv_recycles_iff_first :
    ∃ tr s, (receiverLts .reference .default).Run tr s ∧ (∃ x ∈ tr, x.1.Consumes) ∧
      (∀ x ∈ tr, x.1.Recycles x.2) ∧ s.xsk.Partition := by
  have h₁ := (Lts.Run.init listening_init).step (a := .kernel .rxTake) rfl
  have h₂ := h₁.step (a := .kernel .rxTake) rfl
  have h₃ := h₂.step (a := .kernel (.rxDeliver 0 256 [1, 2, 3])) rfl
  have h₄ := h₃.step (a := .recv 0) rfl
  have hboth := fun hturn =>
    And.intro ((recv_recycles_iff h₄).1.mpr hturn) ((recv_recycles_iff h₄).2 hturn)
  refine ⟨_, _, h₄, ⟨(_, .recv 0), List.mem_append_right _ (List.mem_singleton_self _),
    by decide, by decide⟩, hboth fun x hx => ?_⟩
  simp only [List.nil_append, List.cons_append, List.mem_cons, List.not_mem_nil, or_false] at hx
  rcases hx with rfl | rfl | rfl | rfl
  · intro _ hrecv
    cases hrecv
  · intro _ hrecv
    cases hrecv
  · intro _ hrecv
    cases hrecv
  · intro _ _ _
    decide +kernel

/-- The kernel takes two frames and delivers the second: the call that consumes its packet puts
back the first, which the kernel still holds. -/
theorem not_recv_recycles :
    ¬ ∀ (lib : XskLib) (opt : UserOpt) (tr : List (Receiver opt.framesPerRing × RecvAct))
      (s : Receiver opt.framesPerRing), (receiverLts lib opt).Run tr s →
      ∀ x ∈ tr, x.1.Recycles x.2 := by
  intro h
  have h₁ := (Lts.Run.init listening_init).step (a := .kernel .rxTake) rfl
  have h₂ := h₁.step (a := .kernel .rxTake) rfl
  have h₃ := h₂.step (a := .kernel (.rxDeliver 1 256 [1, 2, 3])) rfl
  have h₄ := h₃.step (a := .recv 0) rfl
  have hframes := h _ _ _ _ h₄ (_, .recv 0)
    (List.mem_append_right _ (List.mem_singleton_self _)) 0 rfl ⟨by decide, by decide⟩
  revert hframes
  decide +kernel

end TwoFrames

/-! ### A kernel that keeps the order -/

namespace Receiver

/-- The kernel hands over the frames in the order in which it took them. -/
def DeliversOldest : RecvAct → Prop
  | .kernel (.rxDeliver j _ _) => j = 0
  | _ => True

/-- The frames the kernel holds and those on the RX ring continue each other's numbers. -/
structure Ordered (s : Receiver opt.framesPerRing) : Prop where
  posted : s.xsk.Posted
  prod_le : s.xsk.rxRing.prod ≤ s.xsk.rxFillRing.cons
  held : s.xsk.rxHeld = (List.range' s.xsk.rxRing.prod
    (s.xsk.rxFillRing.cons - s.xsk.rxRing.prod)).map fun n => n % opt.framesPerRing * frameSize
  rx : ∀ n, s.xsk.rxRing.Holds n →
    frameOf (s.xsk.rxRing.entry n).addr = n % opt.framesPerRing

lemma Ordered.inTurn (h : Ordered s) (a : RecvAct) : s.InTurn a :=
  fun _ _ hc => h.rx _ (Ring.holds_cons hc.1)

lemma ordered_init (h : (receiverLts lib opt).init s) : Ordered s := by
  obtain ⟨buffer, hx⟩ := init_eq h
  refine ⟨hx ▸ Xsk.posted_initial buffer, ?_, ?_, fun n hn => ?_⟩
  · rw [hx]
    exact le_rfl
  · rw [hx]
    rfl
  · rw [hx] at hn
    exact absurd hn.2 (Nat.not_lt_zero _)

/-- Taking the next frame off the fill ring appends its number. -/
lemma Ordered.rxTake (h : Ordered s) (hu : 0 < s.xsk.rxFillRing.used) :
    Ordered { s with xsk := { s.xsk with
      rxFillRing := s.xsk.rxFillRing.pop hu
      rxHeld := s.xsk.rxHeld ++ [s.xsk.rxFillRing.entry s.xsk.rxFillRing.cons] } } := by
  obtain ⟨m, hm⟩ := Nat.exists_eq_add_of_le h.prod_le
  have hposted : (Xsk.kernelStep s.xsk .rxTake) = some _ := dif_pos hu
  refine ⟨h.posted.kernelStep hposted, h.prod_le.trans (Nat.le_succ _), ?_, h.rx⟩
  show s.xsk.rxHeld ++ [s.xsk.rxFillRing.entry s.xsk.rxFillRing.cons] =
    (List.range' s.xsk.rxRing.prod (s.xsk.rxFillRing.cons + 1 - s.xsk.rxRing.prod)).map _
  rw [h.held, h.posted.entry, show s.xsk.rxFillRing.cons + 1 - s.xsk.rxRing.prod = m + 1 by omega,
    show s.xsk.rxFillRing.cons - s.xsk.rxRing.prod = m by omega, List.range'_concat,
    List.map_append, hm, Nat.one_mul]
  rfl

/-- Delivering the oldest frame held takes its number away. -/
lemma Ordered.rxDeliver (h : Ordered s) {x' : Xsk opt.framesPerRing} {o : Nat} {p : List UInt8}
    (hs : s.xsk.kernelStep (.rxDeliver 0 o p) = some x') : Ordered { s with xsk := x' } := by
  have hposted := h.posted.kernelStep hs
  obtain ⟨hk, -⟩ | ⟨_, _, hk, -⟩ | ⟨hk, -⟩ | ⟨j, o', p', a, hk, ha, ho, -, hu, rfl⟩ :=
    Xsk.kernelStep_cases hs
  · cases hk
  · cases hk
  · cases hk
  · cases hk
    obtain ⟨m, hm⟩ := Nat.exists_eq_add_of_le h.prod_le
    have hheld := h.held
    rw [show s.xsk.rxFillRing.cons - s.xsk.rxRing.prod = m by omega] at hheld
    cases m with
    | zero => simp [hheld] at ha
    | succ m =>
      rw [List.range'_succ, List.map_cons] at hheld
      have haddr : a = s.xsk.rxRing.prod % opt.framesPerRing * frameSize := by
        simpa [hheld] using ha.symm
      refine ⟨hposted, ?_, ?_, fun n hn => ?_⟩
      · show s.xsk.rxRing.prod + 1 ≤ s.xsk.rxFillRing.cons
        omega
      · show s.xsk.rxHeld.eraseIdx 0 = (List.range' (s.xsk.rxRing.prod + 1)
          (s.xsk.rxFillRing.cons - (s.xsk.rxRing.prod + 1))).map _
        rw [hheld, List.eraseIdx_cons_zero,
          show s.xsk.rxFillRing.cons - (s.xsk.rxRing.prod + 1) = m by omega]
      · show frameOf ((s.xsk.rxRing.push _ hu).entry n).addr = _
        rcases (Ring.holds_push hu).mp hn with hn | rfl
        · rw [Ring.entry_push_of_holds hu hn]
          exact h.rx n hn
        · rw [Ring.entry_push_self, haddr, frameOf_add ho]

lemma Ordered.step {a : RecvAct} (h : Ordered s) (hd : DeliversOldest a)
    (hs : (receiverLts lib opt).step s a = some s') : Ordered s' := by
  have hsplit : ∀ t : Receiver opt.framesPerRing, t.xsk = s'.xsk → Ordered t → Ordered s' :=
    fun t ht hI => ⟨ht ▸ hI.posted, ht ▸ hI.prod_le, ht ▸ hI.held, ht ▸ hI.rx⟩
  obtain ⟨now, -, hp, hr, hx⟩ | ⟨now, -, -, rfl⟩ | ⟨k, rfl, hk⟩ := step_cases hs
  · apply hsplit { s with xsk := _ } hx.symm
    exact ⟨⟨h.posted.slot, h.posted.held⟩, h.prod_le, h.held,
      fun n hn => h.rx n ((Ring.holds_pop hp).mp hn).1⟩
  · exact h
  · apply hsplit { s with xsk := s'.xsk } rfl
    obtain ⟨rfl, hu, hx⟩ | ⟨j, d, rfl, -, hu, hx⟩ | ⟨rfl, hu, hx⟩ | ⟨j, o, p, a, rfl, -⟩ :=
      Xsk.kernelStep_cases hk
    · rw [hx]
      exact ⟨⟨h.posted.slot, h.posted.held⟩, h.prod_le, h.held, h.rx⟩
    · rw [hx]
      exact ⟨⟨h.posted.slot, h.posted.held⟩, h.prod_le, h.held, h.rx⟩
    · rw [hx]
      exact h.rxTake hu
    · obtain rfl : j = 0 := hd
      exact h.rxDeliver hk

/-- Where the kernel hands over frames in the order in which it took them, however long it
holds them, packets are consumed in turn. -/
theorem inTurn_of_deliversOldest {tr : List (Receiver opt.framesPerRing × RecvAct)}
    (h : (receiverLts lib opt).Run tr s) (hd : ∀ x ∈ tr, DeliversOldest x.2) :
    ∀ x ∈ tr, x.1.InTurn x.2 := by
  have hiff := h.forall_iff (I := Ordered) (C := fun _ a => DeliversOldest a)
    (P := fun s a => DeliversOldest a ∧ s.InTurn a) (fun s => ordered_init)
    (fun s a s' hI hd hs => hI.step hd hs)
    (fun s a s' hI _ => ⟨And.left, fun hd => ⟨hd, hI.inTurn a⟩⟩)
  exact fun x hx => (hiff.mpr hd x hx).2

end Receiver

end Txrx

end TsnRefSw
