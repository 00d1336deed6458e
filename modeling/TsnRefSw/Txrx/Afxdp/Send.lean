import TsnRefSw.Txrx.Afxdp.Xsk

/-!
# The AF_XDP send thread

`afxdp_send_thread()` with its calls of `afxdp_send_pkt()`, cut where it meets the kernel. The
kernel may run between any two of the pieces; only in the copy modes does it take TX
descriptors while the thread is inside `sendto()` and at no other time.
-/

namespace TsnRefSw

open Core

namespace Txrx

/-- Where the send thread is. -/
inductive SendPc where
  /-- The socket was set up, the thread is about to begin. -/
  | setup
  /-- At the head of the loop. -/
  | loop
  /-- In `poll()`. -/
  | poll
  /-- About to copy the payload. -/
  | fill
  /-- About to reserve a descriptor. -/
  | reserve
  /-- In `sendto()`. -/
  | sendto
  /-- About to look at the completions. -/
  | stats
  /-- Behind the loop. -/
  | finish
  | done
  /-- Ended by `afxdp_exit_with_error()`. -/
  | exited
deriving DecidableEq, Repr

/-- The socket and the variables of the send thread. -/
structure Sender (N : Nat) where
  pc : SendPc
  xsk : Xsk N
  i : Nat
  seqNum : Nat
  txTimestamp : Nat
  buff : List UInt8

inductive SendAct where
  /-- Everything before the loop; `now` is the time in seconds. -/
  | prefill (now : Nat)
  /-- Wake up and prepare the payload; `now` is the time in nanoseconds. -/
  | enter (now : Nat)
  /-- Leave the loop, after the last packet or because of a signal. -/
  | leave
  /-- `poll()` returns, the socket being writable or not. -/
  | poll (ready : Bool)
  | fill
  | reserve
  /-- `sendto()` returns, with success or an error that is passed over, or else with one that
  ends the process. -/
  | sendto (ok : Bool)
  | stats
  | kernel (k : KernelAct)

/-- `prefill_tx_umem_rings()`. -/
def prefillTxUmemRings (buffer : Memory) (examplePkt : List UInt8) (count : Nat) : Memory :=
  (List.range count).foldl
    (fun m i => m.copyTo (i * frameSize) (examplePkt.take prefillSize)) buffer

/-- `update_txstats()`: at most one completion is taken. -/
def updateTxstats {N : Nat} (lib : XskLib) (s : Xsk N) : Xsk N :=
  if s.outstandingTx = 0 then s
  else if h : lib.xskRingConsPeek s.txCompRing 1 = 1 then
    { s with
      txCompRing := s.txCompRing.pop (lib.peek_one_iff.mp h)
      outstandingTx := (s.outstandingTx + (2 ^ 32 - 1)) % 2 ^ 32
      txNpkts := (s.txNpkts + 1) % 2 ^ 64 }
  else s

namespace Sender

variable (opt : UserOpt)

/-- The part of the thread before its loop. -/
def prefill (s : Sender opt.framesPerRing) (now : Nat) : Sender opt.framesPerRing :=
  { s with
    pc := .loop
    xsk := { s.xsk with
      buffer := prefillTxUmemRings s.xsk.buffer (setupTsnVlanPacket opt) opt.framesPerRing }
    txTimestamp := (now * 10 ^ 9 + opt.offsetNs + 2 * 10 ^ 9) % 2 ^ 64 }

/-- The packets to send and those that flush the socket. -/
def total : Nat := opt.framesToSend + numFlushPackets

/-- The part of the loop body before the call of `afxdp_send_pkt()`. -/
def enter (s : Sender opt.framesPerRing) (now : Nat) : Sender opt.framesPerRing :=
  { s with
    pc := if opt.enablePoll then .poll else .fill
    buff := setPayload s.buff opt.queue s.seqNum now }

/-- The part of the loop body behind the call. -/
def next (s : Sender opt.framesPerRing) : Sender opt.framesPerRing :=
  { s with
    pc := .loop
    i := s.i + 1
    seqNum := (s.seqNum + 1) % 2 ^ 64
    txTimestamp := (s.txTimestamp + opt.intervalNs) % 2 ^ 64 }

/-- The payload is copied to the frame `cur_tx`. -/
def fill (s : Sender opt.framesPerRing) : Sender opt.framesPerRing :=
  { s with
    pc := .reserve
    xsk := { s.xsk with
      buffer := s.xsk.buffer.copyTo ((s.xsk.curTx <<< frameShift) + headerSize)
        (s.buff.take (opt.packetSize - headerSize)) } }

/-- The descriptor `afxdp_send_pkt()` writes. -/
def txDesc (lib : XskLib) (s : Sender opt.framesPerRing) : TxDesc where
  addr := s.xsk.curTx <<< frameShift
  len := opt.packetSize
  txtime :=
    if lib.withXdptbs then some (if opt.enableTxtime then s.txTimestamp else 0) else none

/-- The descriptor for the frame `cur_tx` is written and submitted. -/
def queue (lib : XskLib) (s : Sender opt.framesPerRing)
    (h : s.xsk.txRing.used < opt.framesPerRing) : Sender opt.framesPerRing :=
  { s with
    pc := .sendto
    xsk := { s.xsk with
      txRing := s.xsk.txRing.push (s.txDesc opt lib) h
      outstandingTx := (s.xsk.outstandingTx + 1) % 2 ^ 32
      curTx := (s.xsk.curTx + 1) % 2 ^ 32 % opt.framesPerRing } }

/-- In the copy modes the kernel takes TX descriptors only during a `sendto()`. -/
def KernelMay (pc : SendPc) : KernelAct → Prop
  | .txTake => opt.xdpMode = .zeroCopy ∨ pc = .sendto
  | _       => True

instance (pc : SendPc) : (k : KernelAct) → Decidable (KernelMay opt pc k)
  | .txTake          => inferInstanceAs (Decidable (_ ∨ _))
  | .txComplete _    => inferInstanceAs (Decidable True)
  | .rxTake          => inferInstanceAs (Decidable True)
  | .rxDeliver _ _ _ => inferInstanceAs (Decidable True)

/-- One piece of the thread, or a step of the kernel. -/
def step (lib : XskLib) (s : Sender opt.framesPerRing) :
    SendAct → Option (Sender opt.framesPerRing)
  | .prefill now => if s.pc = .setup then some (s.prefill opt now) else none
  | .enter now   => if s.pc = .loop ∧ s.i < total opt then some (s.enter opt now) else none
  | .leave       => if s.pc = .loop then some { s with pc := .finish } else none
  | .poll ready  =>
    if s.pc = .poll then some (if ready then { s with pc := .fill } else s.next opt) else none
  | .fill        => if s.pc = .fill then some (s.fill opt) else none
  | .reserve     =>
    if s.pc = .reserve then
      if h : lib.xskRingProdReserve s.xsk.txRing 1 = 1 then
        some (s.queue opt lib (lib.reserve_one_iff.mp h))
      else some (s.next opt)
    else none
  | .sendto ok   =>
    if s.pc = .sendto then some { s with pc := if ok then .stats else .exited } else none
  | .stats       =>
    if s.pc = .stats then some (next opt { s with xsk := updateTxstats lib s.xsk })
    else if s.pc = .finish then some { s with pc := .done, xsk := updateTxstats lib s.xsk }
    else none
  | .kernel k    =>
    if KernelMay opt s.pc k then (s.xsk.kernelStep k).map fun xsk => { s with xsk := xsk }
    else none

end Sender

/-- The socket and the send thread, from the moment the socket was set up. -/
def senderLts (lib : XskLib) (opt : UserOpt) : Lts (Sender opt.framesPerRing) SendAct where
  init s := ∃ buffer xsk buff, initXdpSocket lib opt.framesPerRing buffer = some xsk ∧
    buff.length = opt.packetSize ∧ s = ⟨.setup, xsk, 0, 0, 0, buff⟩
  step := Sender.step opt lib

/-! ### What one step can do -/

/-- The steps of the send thread, case by case. -/
inductive SendStep (lib : XskLib) (opt : UserOpt) (s : Sender opt.framesPerRing) :
    SendAct → Sender opt.framesPerRing → Prop where
  | prefill (now : Nat) (hpc : s.pc = .setup) :
      SendStep lib opt s (.prefill now) (s.prefill opt now)
  | enter (now : Nat) (hpc : s.pc = .loop) (hi : s.i < Sender.total opt) :
      SendStep lib opt s (.enter now) (s.enter opt now)
  | leave (hpc : s.pc = .loop) : SendStep lib opt s .leave { s with pc := .finish }
  | writable (hpc : s.pc = .poll) : SendStep lib opt s (.poll true) { s with pc := .fill }
  | timeout (hpc : s.pc = .poll) : SendStep lib opt s (.poll false) (s.next opt)
  | fill (hpc : s.pc = .fill) : SendStep lib opt s .fill (s.fill opt)
  | queue (hpc : s.pc = .reserve) (hu : s.xsk.txRing.used < opt.framesPerRing) :
      SendStep lib opt s .reserve (s.queue opt lib hu)
  | full (hpc : s.pc = .reserve) (hu : ¬ s.xsk.txRing.used < opt.framesPerRing) :
      SendStep lib opt s .reserve (s.next opt)
  | sent (hpc : s.pc = .sendto) : SendStep lib opt s (.sendto true) { s with pc := .stats }
  | failed (hpc : s.pc = .sendto) : SendStep lib opt s (.sendto false) { s with pc := .exited }
  | stats (hpc : s.pc = .stats) : SendStep lib opt s .stats
      (Sender.next opt { s with xsk := updateTxstats lib s.xsk })
  | finish (hpc : s.pc = .finish) : SendStep lib opt s .stats
      { s with pc := .done, xsk := updateTxstats lib s.xsk }
  | kernel (k : KernelAct) (xsk : Xsk opt.framesPerRing) (hk : Sender.KernelMay opt s.pc k)
      (hx : s.xsk.kernelStep k = some xsk) : SendStep lib opt s (.kernel k) { s with xsk := xsk }

variable {lib : XskLib} {opt : UserOpt} {s s' : Sender opt.framesPerRing}

theorem Sender.step_spec {a : SendAct} (h : (senderLts lib opt).step s a = some s') :
    SendStep lib opt s a s' := by
  replace h : Sender.step opt lib s a = some s' := h
  cases a with
  | prefill now =>
    obtain ⟨hpc, rfl⟩ := of_guard h
    exact .prefill now hpc
  | enter now =>
    obtain ⟨⟨hpc, hi⟩, rfl⟩ := of_guard h
    exact .enter now hpc hi
  | leave =>
    obtain ⟨hpc, rfl⟩ := of_guard h
    exact .leave hpc
  | poll ready =>
    obtain ⟨hpc, rfl⟩ := of_guard h
    cases ready with
    | false => exact .timeout hpc
    | true => exact .writable hpc
  | fill =>
    obtain ⟨hpc, rfl⟩ := of_guard h
    exact .fill hpc
  | reserve =>
    obtain ⟨hpc, he⟩ := Option.ite_none_right_eq_some.mp h
    split_ifs at he with hr
    · cases he
      exact .queue hpc (lib.reserve_one_iff.mp hr)
    · cases he
      exact .full hpc fun hu => hr (lib.reserve_one_iff.mpr hu)
  | sendto ok =>
    obtain ⟨hpc, rfl⟩ := of_guard h
    cases ok with
    | false => exact .failed hpc
    | true => exact .sent hpc
  | stats =>
    simp only [Sender.step] at h
    split_ifs at h with hpc hpc'
    · cases h
      exact .stats hpc
    · cases h
      exact .finish hpc'
  | kernel k =>
    obtain ⟨hk, he⟩ := Option.ite_none_right_eq_some.mp h
    obtain ⟨xsk, hx, rfl⟩ := Option.map_eq_some_iff.mp he
    exact .kernel k xsk hk hx

/-! `update_txstats()` touches the completion ring and the counters only. -/

section
variable {N : Nat} (lib) (x : Xsk N)

@[simp] lemma updateTxstats_buffer : (updateTxstats lib x).buffer = x.buffer := by
  unfold updateTxstats; split_ifs <;> rfl

@[simp] lemma updateTxstats_txRing : (updateTxstats lib x).txRing = x.txRing := by
  unfold updateTxstats; split_ifs <;> rfl

@[simp] lemma updateTxstats_txHeld : (updateTxstats lib x).txHeld = x.txHeld := by
  unfold updateTxstats; split_ifs <;> rfl

@[simp] lemma updateTxstats_curTx : (updateTxstats lib x).curTx = x.curTx := by
  unfold updateTxstats; split_ifs <;> rfl

@[simp] lemma updateTxstats_rxFillRing : (updateTxstats lib x).rxFillRing = x.rxFillRing := by
  unfold updateTxstats; split_ifs <;> rfl

@[simp] lemma updateTxstats_rxRing : (updateTxstats lib x).rxRing = x.rxRing := by
  unfold updateTxstats; split_ifs <;> rfl

@[simp] lemma updateTxstats_rxHeld : (updateTxstats lib x).rxHeld = x.rxHeld := by
  unfold updateTxstats; split_ifs <;> rfl

lemma used_updateTxstats_le : (updateTxstats lib x).txCompRing.used ≤ x.txCompRing.used := by
  unfold updateTxstats
  split_ifs
  · exact le_rfl
  · rw [Ring.used_pop]
    exact Nat.sub_le _ _
  · exact le_rfl

end

/-! ### The descriptors in flight -/

namespace Xsk

variable {N : Nat}

/-- Descriptor `n` was submitted as `d` and has not been completed. -/
def InFlight (x : Xsk N) (n : Nat) (d : TxDesc) : Prop :=
  (x.txRing.Holds n ∧ x.txRing.entry n = d) ∨ (n, d) ∈ x.txHeld

/-- The descriptors in flight and `cur_tx` are given by their numbers. -/
structure Numbered (x : Xsk N) : Prop where
  curTx : x.curTx = x.txRing.prod % N
  addr : ∀ n d, x.InFlight n d → n < x.txRing.prod ∧ d.addr = n % N * frameSize

/-- No kernel step puts a descriptor in flight. -/
lemma inFlight_of_kernelStep {x x' : Xsk N} {k : KernelAct} (h : x.kernelStep k = some x')
    {n : Nat} {d : TxDesc} (hd : x'.InFlight n d) : x.InFlight n d := by
  obtain ⟨-, hu, rfl⟩ | ⟨j, e, -, hj, hu, rfl⟩ | ⟨-, hu, rfl⟩ |
    ⟨j, o, p, a, -, hj, -, -, hu, rfl⟩ := kernelStep_cases h
  · rcases hd with ⟨hn, he⟩ | hd
    · exact .inl ⟨((Ring.holds_pop hu).mp hn).1, he⟩
    · rcases List.mem_append.mp hd with hd | hd
      · exact .inr hd
      · cases List.mem_singleton.mp hd
        exact .inl ⟨Ring.holds_cons hu, rfl⟩
  · rcases hd with hd | hd
    · exact .inl hd
    · exact .inr (List.mem_of_mem_eraseIdx hd)
  · exact hd
  · exact hd

lemma prod_of_kernelStep {x x' : Xsk N} {k : KernelAct} (h : x.kernelStep k = some x') :
    x'.txRing.prod = x.txRing.prod ∧ x'.curTx = x.curTx := by
  obtain ⟨-, hu, rfl⟩ | ⟨j, e, -, hj, hu, rfl⟩ | ⟨-, hu, rfl⟩ |
    ⟨j, o, p, a, -, hj, -, -, hu, rfl⟩ := kernelStep_cases h <;> exact ⟨rfl, rfl⟩

end Xsk

/-- Submitting a descriptor puts that one in flight. -/
lemma Sender.inFlight_queue (hu : s.xsk.txRing.used < opt.framesPerRing) {n : Nat} {d : TxDesc}
    (hd : (s.queue opt lib hu).xsk.InFlight n d) :
    s.xsk.InFlight n d ∨ (n = s.xsk.txRing.prod ∧ d.addr = s.xsk.curTx * frameSize ∧
      d.len = opt.packetSize) := by
  rcases hd with ⟨hn, he⟩ | hd
  · rcases (Ring.holds_push hu).mp hn with hn | rfl
    · rw [show (s.queue opt lib hu).xsk.txRing.entry n = _ from
        Ring.entry_push_of_holds hu hn] at he
      exact .inl (.inl ⟨hn, he⟩)
    · rw [show (s.queue opt lib hu).xsk.txRing.entry s.xsk.txRing.prod = _ from
        Ring.entry_push_self hu] at he
      subst he
      exact .inr ⟨rfl, shiftLeft_frameShift _, rfl⟩
  · exact .inl (.inr hd)

/-- Only a successful reservation and the kernel change what is in flight. -/
lemma SendStep.tx_cases {a : SendAct} (h : SendStep lib opt s a s') :
    (∃ hu, a = .reserve ∧ s.pc = .reserve ∧ s' = s.queue opt lib hu) ∨
    (∃ k xsk, a = .kernel k ∧ s.xsk.kernelStep k = some xsk ∧ s' = { s with xsk := xsk }) ∨
    (s'.xsk.txRing = s.xsk.txRing ∧ s'.xsk.txHeld = s.xsk.txHeld ∧
      s'.xsk.curTx = s.xsk.curTx ∧ (s'.pc = .reserve → a = .fill)) := by
  cases h with
  | queue hpc hu => exact .inl ⟨hu, rfl, hpc, rfl⟩
  | kernel k xsk hk hx => exact .inr (.inl ⟨k, xsk, rfl, hx, rfl⟩)
  | enter now hpc hi =>
    refine .inr (.inr ⟨rfl, rfl, rfl, fun hr => ?_⟩)
    simp only [Sender.enter] at hr
    split_ifs at hr
  | stats hpc => exact .inr (.inr ⟨by simp [Sender.next], by simp [Sender.next],
      by simp [Sender.next], by simp [Sender.next]⟩)
  | finish hpc => exact .inr (.inr ⟨by simp, by simp, by simp, by simp⟩)
  | fill hpc => exact .inr (.inr ⟨rfl, rfl, rfl, fun _ => rfl⟩)
  | _ => exact .inr (.inr ⟨rfl, rfl, rfl, by simp [Sender.prefill, Sender.next]⟩)

/-- The send thread begins with the socket as it was set up. -/
lemma Sender.init_eq (h : (senderLts lib opt).init s) :
    s.pc = .setup ∧ s.i = 0 ∧ ∃ buffer, s.xsk = .initial opt.framesPerRing buffer := by
  obtain ⟨buffer, xsk, buff, hx, -, rfl⟩ := h
  rw [initXdpSocket_eq lib opt.framesPerRing_pos] at hx
  exact ⟨rfl, rfl, buffer, (Option.some.inj hx).symm⟩

lemma Xsk.not_inFlight_initial {N : Nat} {buffer : Memory} (n : Nat) (d : TxDesc) :
    ¬ (Xsk.initial N buffer).InFlight n d := by
  rintro (⟨hn, -⟩ | hd)
  · exact absurd hn.2 (Nat.not_lt_zero _)
  · exact absurd hd List.not_mem_nil

lemma Sender.numbered_init (h : (senderLts lib opt).init s) : s.xsk.Numbered := by
  obtain ⟨-, -, buffer, hx⟩ := Sender.init_eq h
  rw [hx]
  exact ⟨(Nat.zero_mod _).symm, fun n d hd => absurd hd (Xsk.not_inFlight_initial n d)⟩

theorem Sender.numbered_step {a : SendAct} (hI : s.xsk.Numbered)
    (h : (senderLts lib opt).step s a = some s') : s'.xsk.Numbered := by
  obtain ⟨hu, -, -, rfl⟩ | ⟨k, xsk, -, hx, rfl⟩ | ⟨hring, hheld, hcur, -⟩ :=
    (Sender.step_spec h).tx_cases
  · have hlt : s.xsk.curTx < opt.framesPerRing := hI.curTx ▸ Nat.mod_lt _ opt.framesPerRing_pos
    have hN := opt.framesPerRing_lt
    constructor
    · show (s.xsk.curTx + 1) % 2 ^ 32 % opt.framesPerRing = (s.xsk.txRing.prod + 1) % _
      rw [Nat.mod_eq_of_lt (b := 2 ^ 32) (by omega), hI.curTx, Nat.mod_add_mod]
    · intro n d hd
      rcases inFlight_queue hu hd with hd | ⟨rfl, haddr, -⟩
      · exact ⟨Nat.lt_succ_of_lt (hI.addr n d hd).1, (hI.addr n d hd).2⟩
      · exact ⟨Nat.lt_succ_self _, by rw [haddr, hI.curTx]⟩
  · obtain ⟨hprod, hcur⟩ := Xsk.prod_of_kernelStep hx
    constructor
    · rw [hprod, hcur]
      exact hI.curTx
    · intro n d hd
      rw [hprod]
      exact hI.addr n d (Xsk.inFlight_of_kernelStep hx hd)
  · constructor
    · rw [hring, hcur]
      exact hI.curTx
    · intro n d hd
      rw [Xsk.InFlight, hring, hheld] at hd
      rw [hring]
      exact hI.addr n d hd

end Txrx

end TsnRefSw
