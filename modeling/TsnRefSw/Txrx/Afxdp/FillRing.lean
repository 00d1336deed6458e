import TsnRefSw.Txrx.Afxdp.Receive

/-!
# Why receiving does not wait for the fill ring

`afxdp_recv_pkt()` statement by statement, with a kernel of which nothing is assumed but that
it puts a descriptor on the RX ring only for an entry it has taken off the fill ring before.
Fill ring, kernel and RX ring share as many entries as the ring has slots, so that whenever
there is a packet, there is a free slot.
-/

namespace TsnRefSw

open Core

namespace Txrx

/-- Where a call of `afxdp_recv_pkt()` is. -/
inductive RecvPc where
  /-- Between two calls. -/
  | idle
  /-- A packet was found, the loop around the reservation is running. -/
  | reserve
  | handle
  | submit
  | release
deriving DecidableEq, Repr

/-- The receiver and its place within a call. -/
structure Refiller (N : Nat) extends Receiver N where
  pc : RecvPc

inductive RefillAct (N : Nat) where
  /-- A call begins and looks for a packet. -/
  | peek
  /-- An attempt to reserve a slot of the fill ring. -/
  | reserve
  /-- The loop body; `now` is the time in nanoseconds. -/
  | handle (now : Nat)
  | submit
  | release
  /-- The kernel takes an entry off the fill ring. -/
  | take
  /-- The kernel uses the `j`-th entry it holds up for a descriptor. -/
  | post (j : Nat) (d : RxDesc)
  /-- The kernel writes to the packet memory and serves the transmit side. -/
  | other (buffer : Memory) (txRing : Ring TxDesc N) (txCompRing : Ring Nat N)
      (txHeld : List (Nat × TxDesc))

namespace Refiller

variable {N : Nat}

def step (lib : XskLib) (s : Refiller N) : RefillAct N → Option (Refiller N)
  | .peek =>
    if s.pc = .idle then
      some (if lib.xskRingConsPeek s.xsk.rxRing 1 = 1 then { s with pc := .reserve } else s)
    else none
  | .reserve =>
    if s.pc = .reserve then
      some (if lib.xskRingProdReserve s.xsk.rxFillRing 1 = 1 then { s with pc := .handle } else s)
    else none
  | .handle now =>
    if s.pc = .handle then
      some ⟨s.toReceiver.consume (s.xsk.rxRing.entry s.xsk.rxRing.cons) now, .submit⟩
    else none
  | .submit =>
    if h : s.pc = .submit ∧ s.xsk.rxFillRing.used < N then
      some { s with
        xsk := { s.xsk with rxFillRing := s.xsk.rxFillRing.advance h.2 }
        pc := .release }
    else none
  | .release =>
    if h : s.pc = .release ∧ 0 < s.xsk.rxRing.used then
      some { s with
        xsk := { s.xsk with
          rxRing := s.xsk.rxRing.pop h.2
          rxNpkts := (s.xsk.rxNpkts + 1) % 2 ^ 64 }
        pc := .idle }
    else none
  | .take =>
    if h : 0 < s.xsk.rxFillRing.used then
      some { s with
        xsk := { s.xsk with
          rxFillRing := s.xsk.rxFillRing.pop h
          rxHeld := s.xsk.rxHeld ++ [s.xsk.rxFillRing.entry s.xsk.rxFillRing.cons] } }
    else none
  | .post j d =>
    if h : j < s.xsk.rxHeld.length ∧ s.xsk.rxRing.used < N then
      some { s with
        xsk := { s.xsk with
          rxHeld := s.xsk.rxHeld.eraseIdx j
          rxRing := s.xsk.rxRing.push d h.2 } }
    else none
  | .other buffer txRing txCompRing txHeld =>
    some { s with
      xsk := { s.xsk with
        buffer := buffer, txRing := txRing, txCompRing := txCompRing, txHeld := txHeld } }

end Refiller

/-- A socket in receive mode, statement by statement. -/
def refillLts (lib : XskLib) (N : Nat) : Lts (Refiller N) (RefillAct N) where
  init s := ∃ buffer xsk, initXdpSocket lib N buffer = some xsk ∧ s = ⟨⟨xsk, 0, []⟩, .idle⟩
  step := Refiller.step lib

variable {lib : XskLib} {N : Nat} {s s' : Refiller N}

namespace Refiller

/-- The frame that has been put back, while the packet is still on the RX ring. -/
def surplus : RecvPc → Nat
  | .release => 1
  | _ => 0

/-- The entries of the fill ring, those the kernel holds and the packets on the RX ring are as
many as there are slots, and the packet a call is about stays where it is. -/
structure Conserved (s : Refiller N) : Prop where
  sum : s.xsk.rxFillRing.used + s.xsk.rxHeld.length + s.xsk.rxRing.used = N + surplus s.pc
  packet : s.pc ≠ .idle → 0 < s.xsk.rxRing.used

/-- The loop body leaves the socket alone. -/
lemma consume_eq (t : Receiver N) (d : RxDesc) (now : Nat) :
    ∃ seq out, t.consume d now = ⟨t.xsk, seq, out⟩ := by
  unfold Receiver.consume
  split_ifs
  · exact ⟨_, _, rfl⟩
  · split
    · exact ⟨_, _, rfl⟩
    · exact ⟨_, _, rfl⟩

/-- Where there is a packet that is not yet put back, there is a free slot. -/
lemma Conserved.room (h : Conserved s) (hu : 0 < s.xsk.rxRing.used) (hpc : s.pc ≠ .release) :
    s.xsk.rxFillRing.used < N := by
  have hsum := h.sum
  have hsurplus : surplus s.pc = 0 := by
    cases hp : s.pc with
    | release => exact absurd hp hpc
    | _ => rfl
  omega

lemma conserved_init (hN : 0 < N) (h : (refillLts lib N).init s) : Conserved s := by
  obtain ⟨buffer, xsk, hx, rfl⟩ := h
  rw [initXdpSocket_eq lib hN] at hx
  cases hx
  refine ⟨rfl, fun hpc => absurd rfl hpc⟩

lemma Conserved.step {a : RefillAct N} (h : Conserved s)
    (hs : (refillLts lib N).step s a = some s') : Conserved s' := by
  replace hs : Refiller.step lib s a = some s' := hs
  have hsum := h.sum
  cases a with
  | peek =>
    obtain ⟨hpc, rfl⟩ := of_guard hs
    split_ifs with hp
    · rw [hpc] at hsum
      exact ⟨hsum, fun _ => lib.peek_one_iff.mp hp⟩
    · exact h
  | reserve =>
    obtain ⟨hpc, rfl⟩ := of_guard hs
    split_ifs with hr
    · rw [hpc] at hsum
      exact ⟨hsum, fun _ => h.packet (by simp [hpc])⟩
    · exact h
  | handle now =>
    obtain ⟨hpc, rfl⟩ := of_guard hs
    rw [hpc] at hsum
    obtain ⟨seq, out, hc⟩ := consume_eq s.toReceiver (s.xsk.rxRing.entry s.xsk.rxRing.cons) now
    rw [hc]
    exact ⟨hsum, fun _ => h.packet (by simp [hpc])⟩
  | submit =>
    obtain ⟨⟨hpc, hu⟩, he⟩ := Option.dite_none_right_eq_some.mp hs
    cases he
    rw [hpc] at hsum
    refine ⟨?_, fun _ => h.packet (by simp [hpc])⟩
    simp only [Ring.used_advance, surplus] at hsum ⊢
    omega
  | release =>
    obtain ⟨⟨hpc, hu⟩, he⟩ := Option.dite_none_right_eq_some.mp hs
    cases he
    rw [hpc] at hsum
    refine ⟨?_, fun hne => absurd rfl hne⟩
    simp only [Ring.used_pop, surplus] at hsum ⊢
    omega
  | take =>
    obtain ⟨hu, he⟩ := Option.dite_none_right_eq_some.mp hs
    cases he
    refine ⟨?_, h.packet⟩
    simp only [Ring.used_pop, List.length_append, List.length_singleton]
    omega
  | post j d =>
    obtain ⟨⟨hj, hu⟩, he⟩ := Option.dite_none_right_eq_some.mp hs
    cases he
    refine ⟨?_, fun _ => by simp⟩
    simp only [Ring.used_push, List.length_eraseIdx_of_lt hj]
    omega
  | other buffer txRing txCompRing txHeld =>
    cases hs
    exact ⟨hsum, h.packet⟩

theorem conserved (hN : 0 < N) {tr : List (Refiller N × RefillAct N)}
    (h : (refillLts lib N).Run tr s) : Conserved s :=
  h.invariant (fun _ => conserved_init hN) fun _ _ _ hI hs => hI.step hs

end Refiller

section
variable {opt : UserOpt} {r : Refiller opt.framesPerRing}
  {tr : List (Refiller opt.framesPerRing × RefillAct opt.framesPerRing)}

namespace Refiller

/-- In the loop around the reservation there is a slot to reserve. -/
lemma reserve_eq_one (h : (refillLts lib opt.framesPerRing).Run tr r) (hpc : r.pc = .reserve) :
    lib.xskRingProdReserve r.xsk.rxFillRing 1 = 1 := by
  have hI := conserved opt.framesPerRing_pos h
  apply lib.reserve_one_iff.mpr
  exact hI.room (hI.packet (by simp [hpc])) (by simp [hpc])

end Refiller

/-- Whenever a call finds a packet, the fill ring has a free slot, which counters of 32 bits
show as well. The first attempt to reserve it succeeds, so that no attempt of any call has to
be repeated. -/
theorem recv_reserves_at_once (h : (refillLts lib opt.framesPerRing).Run tr r) :
    (r.pc = .idle → lib.xskRingConsPeek r.xsk.rxRing 1 = 1 →
      r.xsk.rxFillRing.used < opt.framesPerRing ∧ 0 < r.xsk.rxFillRing.free32) ∧
    (r.pc = .reserve → (refillLts lib opt.framesPerRing).step r .reserve =
      some { r with pc := .handle }) ∧
    ∀ x ∈ tr, x.2 = .reserve → lib.xskRingProdReserve x.1.xsk.rxFillRing 1 = 1 := by
  refine ⟨fun hpc hpeek => ?_, fun hpc => ?_, fun x hx ha => ?_⟩
  · have hroom := (Refiller.conserved opt.framesPerRing_pos h).room
      (lib.peek_one_iff.mp hpeek) (by simp [hpc])
    have hN := opt.framesPerRing_lt
    refine ⟨hroom, ?_⟩
    rw [Ring.free32_eq (by omega)]
    omega
  · have hr := Refiller.reserve_eq_one h hpc
    simp [refillLts, Refiller.step, hpc, hr]
  · obtain ⟨tr', r', hrun, hs⟩ := h.of_mem hx
    apply Refiller.reserve_eq_one hrun
    rw [ha] at hs
    have hguard := of_guard (show (if x.1.pc = .reserve then some _ else none) = some r' from hs)
    exact hguard.1

/-- The first packet, of length zero: the call that finds it reserves a slot at once. -/
theorem recv_reserves_at_once_empty :
    ∃ tr r, (refillLts .reference UserOpt.default.framesPerRing).Run tr r ∧ r.pc = .reserve ∧
      (refillLts .reference UserOpt.default.framesPerRing).step r .reserve =
        some { r with pc := .handle } := by
  have h₁ : (refillLts .reference UserOpt.default.framesPerRing).Run []
      ⟨⟨.initial _ fun _ => 0, 0, []⟩, .idle⟩ :=
    .init ⟨_, _, initXdpSocket_eq .reference UserOpt.default.framesPerRing_pos _, rfl⟩
  have h₂ := h₁.step (a := .take) rfl
  have h₃ := h₂.step (a := .post 0 ⟨256, 0⟩) rfl
  have h₄ := h₃.step (a := .peek) rfl
  exact ⟨_, _, h₄, rfl, (recv_reserves_at_once h₄).2.1 rfl⟩

/-- How far a call is from its end. -/
def RecvPc.left : RecvPc → Nat
  | .idle => 0
  | .release => 1
  | .submit => 2
  | .handle => 3
  | .reserve => 4

/-- A statement of the call. -/
def RefillAct.Own : RefillAct N → Prop
  | .reserve | .handle _ | .submit | .release => True
  | _ => False

/-- A call that has found a packet comes to its end without the kernel doing anything. -/
theorem recv_returns (h : (refillLts lib opt.framesPerRing).Run tr r) :
    ∃ tr' r', (refillLts lib opt.framesPerRing).Run (tr ++ tr') r' ∧
      (∀ x ∈ tr', x.2.Own) ∧ r'.pc = .idle := by
  apply h.exists_of_measure (I := Refiller.Conserved) (G := fun r => r.pc = .idle)
    (D := fun _ a => a.Own) (fun r => r.pc.left) (fun _ _ _ hI _ hs => hI.step hs) ?_
    (Refiller.conserved opt.framesPerRing_pos h)
  intro r hI hne
  have hpacket := hI.packet hne
  cases hpc : r.pc with
  | idle => exact absurd hpc hne
  | reserve =>
    have hr := lib.reserve_one_iff.mpr (hI.room hpacket (by simp [hpc]))
    refine ⟨.reserve, { r with pc := .handle }, trivial, ?_, by simp [RecvPc.left]⟩
    simp [refillLts, Refiller.step, hpc, hr]
  | handle =>
    refine ⟨.handle 0, _, trivial, if_pos hpc, by simp [RecvPc.left]⟩
  | submit =>
    have hu := hI.room hpacket (by simp [hpc])
    exact ⟨.submit, _, trivial, dif_pos ⟨hpc, hu⟩, by simp [RecvPc.left]⟩
  | release =>
    exact ⟨.release, _, trivial, dif_pos ⟨hpc, hpacket⟩, by simp [RecvPc.left]⟩

end

/-! ### The calls in one piece -/

namespace Refiller

lemma step_submit (hpc : s.pc = .submit) (hu : s.xsk.rxFillRing.used < N) :
    (refillLts lib N).step s .submit = some { s with
      xsk := { s.xsk with rxFillRing := s.xsk.rxFillRing.advance hu }
      pc := .release } :=
  dif_pos (c := s.pc = .submit ∧ s.xsk.rxFillRing.used < N) ⟨hpc, hu⟩

lemma step_release (hpc : s.pc = .release) (hu : 0 < s.xsk.rxRing.used) :
    (refillLts lib N).step s .release = some { s with
      xsk := { s.xsk with
        rxRing := s.xsk.rxRing.pop hu
        rxNpkts := (s.xsk.rxNpkts + 1) % 2 ^ 64 }
      pc := .idle } :=
  dif_pos (c := s.pc = .release ∧ 0 < s.xsk.rxRing.used) ⟨hpc, hu⟩

lemma step_take (hu : 0 < s.xsk.rxFillRing.used) :
    (refillLts lib N).step s .take = some { s with
      xsk := { s.xsk with
        rxFillRing := s.xsk.rxFillRing.pop hu
        rxHeld := s.xsk.rxHeld ++ [s.xsk.rxFillRing.entry s.xsk.rxFillRing.cons] } } :=
  dif_pos (c := 0 < s.xsk.rxFillRing.used) hu

lemma step_post {j : Nat} (d : RxDesc) (hj : j < s.xsk.rxHeld.length)
    (hu : s.xsk.rxRing.used < N) :
    (refillLts lib N).step s (.post j d) = some { s with
      xsk := { s.xsk with
        rxHeld := s.xsk.rxHeld.eraseIdx j
        rxRing := s.xsk.rxRing.push d hu } } :=
  dif_pos (c := j < s.xsk.rxHeld.length ∧ s.xsk.rxRing.used < N) ⟨hj, hu⟩

/-- A call is the run of its statements. -/
lemma run_recvPkt {tr : List (Refiller N × RefillAct N)} {t : Receiver N} (hN : 0 < N)
    (h : (refillLts lib N).Run tr ⟨t, .idle⟩) (now : Nat) :
    ∃ tr', (refillLts lib N).Run tr' ⟨t.recvPkt lib now, .idle⟩ := by
  unfold Receiver.recvPkt
  by_cases hp : lib.xskRingConsPeek t.xsk.rxRing 1 = 1
  · have hu := lib.peek_one_iff.mp hp
    have hroom : t.xsk.rxFillRing.used < N := (conserved hN h).room hu (by simp)
    have hr := lib.reserve_one_iff.mpr hroom
    have h₁ : (refillLts lib N).Run _ ⟨t, .reserve⟩ :=
      h.step (a := .peek) (by simp [refillLts, Refiller.step, hp])
    have h₂ : (refillLts lib N).Run _ ⟨t, .handle⟩ :=
      h₁.step (a := .reserve) (by simp [refillLts, Refiller.step, hr])
    have h₃ : (refillLts lib N).Run _
        ⟨t.consume (t.xsk.rxRing.entry t.xsk.rxRing.cons) now, .submit⟩ :=
      h₂.step (a := .handle now) rfl
    obtain ⟨seq, out, hc⟩ := consume_eq t (t.xsk.rxRing.entry t.xsk.rxRing.cons) now
    rw [hc] at h₃
    have h₄ := h₃.step (step_submit rfl hroom)
    have h₅ := h₄.step (step_release rfl hu)
    rw [dif_pos hp, dif_pos hr, hc]
    exact ⟨_, h₅⟩
  · rw [dif_neg hp]
    exact ⟨tr, h⟩

/-- What the kernel does in the receiver's model, it may do here. -/
lemma run_kernelStep {tr : List (Refiller N × RefillAct N)} {t : Receiver N} {k : KernelAct}
    {x : Xsk N} (h : (refillLts lib N).Run tr ⟨t, .idle⟩) (hk : t.xsk.kernelStep k = some x) :
    ∃ tr', (refillLts lib N).Run tr' ⟨{ t with xsk := x }, .idle⟩ := by
  obtain ⟨-, hu, rfl⟩ | ⟨j, d, -, hj, hu, rfl⟩ | ⟨-, hu, rfl⟩ |
    ⟨j, o, p, a, -, hj, -, -, hu, rfl⟩ := Xsk.kernelStep_cases hk
  · exact ⟨_, h.step (a := .other t.xsk.buffer (t.xsk.txRing.pop hu) t.xsk.txCompRing _) rfl⟩
  · exact ⟨_, h.step (a := .other t.xsk.buffer t.xsk.txRing (t.xsk.txCompRing.push d.2.addr hu) _)
      rfl⟩
  · exact ⟨_, h.step (step_take hu)⟩
  · have hlt := (List.getElem?_eq_some_iff.mp hj).1
    have h₁ := h.step (a := .other (t.xsk.buffer.copyTo (a + o) p) t.xsk.txRing t.xsk.txCompRing
      t.xsk.txHeld) rfl
    exact ⟨_, h₁.step (step_post ⟨a + o, p.length⟩ hlt hu)⟩

theorem run_of_receiverRun {opt : UserOpt}
    {tr : List (Receiver opt.framesPerRing × RecvAct)} {t : Receiver opt.framesPerRing}
    (h : (receiverLts lib opt).Run tr t) :
    ∃ tr', (refillLts lib opt.framesPerRing).Run tr' ⟨t, .idle⟩ := by
  induction h with
  | init h =>
    obtain ⟨buffer, xsk, hx, rfl⟩ := h
    exact ⟨[], .init ⟨buffer, xsk, hx, rfl⟩⟩
  | @step tr t t' a h hs ih =>
    obtain ⟨tr', hrun⟩ := ih
    replace hs : Receiver.step lib opt t a = some t' := hs
    cases a with
    | recv now =>
      obtain ⟨-, rfl⟩ := of_guard hs
      exact run_recvPkt opt.framesPerRing_pos hrun now
    | kernel k =>
      obtain ⟨x, hx, rfl⟩ := Option.map_eq_some_iff.mp hs
      exact run_kernelStep hrun hx

end Refiller

/-- A call in one piece that finds a packet consumes it: it never leaves the socket as it is for
want of a slot. -/
theorem Receiver.consumes_of_packet {opt : UserOpt}
    {tr : List (Receiver opt.framesPerRing × RecvAct)} {t : Receiver opt.framesPerRing}
    (h : (receiverLts lib opt).Run tr t) (hu : 0 < t.xsk.rxRing.used) : t.Consumes := by
  obtain ⟨tr', hrun⟩ := Refiller.run_of_receiverRun h
  exact ⟨hu, (Refiller.conserved opt.framesPerRing_pos hrun).room hu (by simp)⟩

end Txrx

end TsnRefSw
