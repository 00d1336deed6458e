import TsnRefSw.Txrx.Afxdp.Overlap
import TsnRefSw.Txrx.Afxdp.Receive
import TsnRefSw.Txrx.Schedule

/-!
# From an AF_XDP sender to its receiver

The kernel of the sender transmits the packets in the order of their descriptors, straight from
the frames they were loaded into; the kernel of the receiver stores them in its own frames,
where `afxdp_recv_pkt()` finds them. Between the two the packets are on the link.
-/

namespace TsnRefSw

open Core

namespace Txrx

/-- A send thread with its socket, the number of packets transmitted, those on the link, and a
receiver with its socket. -/
structure AfxdpLink (N M : Nat) where
  sender : Sender N
  sent : Nat
  link : List (List UInt8)
  receiver : Receiver M

inductive AfxdpLinkAct where
  | sender (a : SendAct)
  /-- The kernel transmits the packet of the next descriptor. -/
  | transmit
  | receiver (a : RecvAct)

/-- The bytes of a packet in memory. -/
def packetBytes (m : Memory) (d : TxDesc) : List UInt8 :=
  (List.range d.len).map fun i => m (d.addr + i)

/-- These are the bytes of packet `m` of a sender that stored these times. -/
def IsPacket (opt : UserOpt) (times : List Nat) (m : Nat) (p : List UInt8) : Prop :=
  p.length = opt.packetSize ∧ ∃ time rest, times[m]? = some time ∧
    p = vlanHeader opt ++ (payloadBytes opt.queue.toNat m time ++ rest)

namespace AfxdpLink

variable {N M : Nat}

/-- A descriptor is reported as completed only if its packet was transmitted. -/
def MayStep (s : AfxdpLink N M) : SendAct → Prop
  | .kernel (.txComplete j) => ∀ d ∈ s.sender.xsk.txHeld[j]?, d.1 < s.sent
  | _                       => True

instance (s : AfxdpLink N M) (a : SendAct) : Decidable (s.MayStep a) := by
  unfold MayStep
  split <;> infer_instance

/-- A step of the sender or of its kernel, of the link, or of the receiver or of its kernel,
which delivers what the link brings. -/
def step (lib : XskLib) (opt rxOpt : UserOpt)
    (s : AfxdpLink opt.framesPerRing rxOpt.framesPerRing) :
    AfxdpLinkAct → Option (AfxdpLink opt.framesPerRing rxOpt.framesPerRing)
  | .sender a =>
    if s.MayStep a then (s.sender.step opt lib a).map fun sender => { s with sender := sender }
    else none
  | .transmit =>
    (s.sender.xsk.txHeld.find? fun d => d.1 = s.sent).map fun d =>
      { s with sent := s.sent + 1, link := s.link ++ [packetBytes s.sender.xsk.buffer d.2] }
  | .receiver (.kernel (.rxDeliver j offset packet)) =>
    if s.link.head? = some packet then
      (s.receiver.step lib rxOpt (.kernel (.rxDeliver j offset packet))).map fun receiver =>
        { s with receiver := receiver, link := s.link.tail }
    else none
  | .receiver a =>
    (s.receiver.step lib rxOpt a).map fun receiver => { s with receiver := receiver }

end AfxdpLink

/-- A link in order and without loss between a send thread and a receiver that are about to
start. -/
def afxdpLinkLts (lib : XskLib) (opt rxOpt : UserOpt) :
    Lts (AfxdpLink opt.framesPerRing rxOpt.framesPerRing) AfxdpLinkAct where
  init s := (senderLts lib opt).init s.sender ∧ (receiverLts lib rxOpt).init s.receiver ∧
    s.sent = 0 ∧ s.link = []
  step := AfxdpLink.step lib opt rxOpt

namespace AfxdpLink

variable {opt rxOpt : UserOpt}

/-- The times stored in the packets, one for each pass of the loop. -/
def stored (tr : List (AfxdpLink N M × AfxdpLinkAct)) : List Nat :=
  tr.filterMap fun x => match x.2 with
    | .sender (.enter now) => some now
    | _                    => none

/-- Every send obtains a descriptor, a packet is transmitted before its frame is loaded again,
and the kernel of the receiver uses its frames in order. -/
def Smooth (s : AfxdpLink opt.framesPerRing rxOpt.framesPerRing) : AfxdpLinkAct → Prop
  | .sender (.poll ready) => ready = true
  | .sender .fill         => s.sender.xsk.txRing.prod < s.sent + opt.framesPerRing
  | .sender .reserve      => s.sender.xsk.txRing.used < opt.framesPerRing
  | .receiver a           => Receiver.DeliversOldest a
  | _                     => True

lemma stored_append (tr : List (AfxdpLink N M × AfxdpLinkAct))
    (x : AfxdpLink N M × AfxdpLinkAct) : stored (tr ++ [x]) = stored tr ++ stored [x] :=
  List.filterMap_append

end AfxdpLink

/-! ### The frames of the sender -/

/-- Every frame begins with the template of the packet. -/
lemma contains_prefill (buffer : Memory) (examplePkt : List UInt8) {count j : Nat}
    (hj : j < count) :
    (prefillTxUmemRings buffer examplePkt count).Contains (j * frameSize)
      (examplePkt.take prefillSize) := by
  induction count with
  | zero => exact absurd hj (Nat.not_lt_zero j)
  | succ count ih =>
    have hsucc : prefillTxUmemRings buffer examplePkt (count + 1) =
        (prefillTxUmemRings buffer examplePkt count).copyTo (count * frameSize)
          (examplePkt.take prefillSize) := by
      simp [prefillTxUmemRings, List.range_succ]
    rw [hsucc]
    rcases Nat.lt_succ_iff_lt_or_eq.mp hj with hlt | rfl
    · apply (ih hlt).copyTo
      have hlen := List.length_take_le prefillSize examplePkt
      simp only [prefillSize, frameSize] at *
      omega
    · exact Memory.contains_copyTo _ _ _

lemma contains_prefill_vlanHeader (opt : UserOpt) (buffer : Memory) {count j : Nat}
    (hj : j < count) :
    (prefillTxUmemRings buffer (setupTsnVlanPacket opt) count).Contains (j * frameSize)
      (vlanHeader opt) := by
  have htake : (setupTsnVlanPacket opt).take prefillSize = vlanHeader opt ++
      (List.replicate (opt.packetSize - headerSize) 0xab).take (prefillSize - headerSize) := by
    have hlen : (vlanHeader opt).length ≤ prefillSize := by
      rw [length_vlanHeader]
      decide
    show (vlanHeader opt ++ _).take prefillSize = _
    rw [List.take_append, List.take_of_length_le hlen, length_vlanHeader]
  have hframe := contains_prefill buffer (setupTsnVlanPacket opt) hj
  rw [htake] at hframe
  exact hframe.left

namespace Xsk

variable {N : Nat} {x x' : Xsk N}

lemma kernelStep_rxDeliver {j o addr : Nat} {p : List UInt8} (ha : x.rxHeld[j]? = some addr)
    (hu : x.rxRing.used < N)
    (ho : packetHeadroom ≤ o ∧ o + p.length ≤ frameSize ∧ o < frameSize) :
    x.kernelStep (.rxDeliver j o p) = some { x with
      rxHeld := x.rxHeld.eraseIdx j
      buffer := x.buffer.copyTo (addr + o) p
      rxRing := x.rxRing.push ⟨addr + o, p.length⟩ hu } := by
  simp only [kernelStep, ha]
  rw [dif_pos hu, if_pos ho]

lemma headroom_le {j o : Nat} {p : List UInt8}
    (h : x.kernelStep (.rxDeliver j o p) = some x') : packetHeadroom ≤ o := by
  simp only [kernelStep] at h
  split at h
  · cases h
  · split_ifs at h with hu ho
    exact ho.1

/-- Packets are stored behind the room that is left in front of them. -/
lemma contains_kernelStep {k : KernelAct} (h : x.Posted) (hs : x.kernelStep k = some x')
    {n o : Nat} {l : List UInt8} (hc : x.buffer.Contains (n * frameSize + o) l)
    (hl : o + l.length ≤ packetHeadroom) : x'.buffer.Contains (n * frameSize + o) l := by
  obtain ⟨-, hu, rfl⟩ | ⟨j, d, -, hj, hu, rfl⟩ | ⟨-, hu, rfl⟩ |
    ⟨j, o', p, a, rfl, hj, ho, hlen, hu, hx⟩ := kernelStep_cases hs
  · exact hc
  · exact hc
  · exact hc
  · have hroom := headroom_le hs
    obtain ⟨n', rfl⟩ := h.held a (List.mem_of_getElem? hj)
    rw [hx]
    apply hc.copyTo
    simp only [packetHeadroom, frameSize] at *
    omega

end Xsk

namespace Sender

variable {lib : XskLib} {opt : UserOpt} {s s' : Sender opt.framesPerRing} {a : SendAct}

/-- The descriptors in flight are given by their numbers and have the size of the packets. -/
structure Orderly (s : Sender opt.framesPerRing) : Prop where
  numbered : s.xsk.Numbered
  posted : s.xsk.Posted
  len : ∀ n d, s.xsk.InFlight n d → d.len = opt.packetSize

lemma orderly_init (h : (senderLts lib opt).init s) : Orderly s := by
  obtain ⟨-, -, buffer, hx⟩ := init_eq h
  refine ⟨numbered_init h, hx ▸ Xsk.posted_initial buffer, fun n d hd => ?_⟩
  rw [hx] at hd
  exact absurd hd (Xsk.not_inFlight_initial n d)

lemma Orderly.step (h : Orderly s) (hs : (senderLts lib opt).step s a = some s') :
    Orderly s' := by
  refine ⟨numbered_step h.numbered hs, ?_, fun n d hd => ?_⟩
  · obtain ⟨k, xsk, hx, rfl⟩ | ⟨hfill, hheld, -⟩ := (step_spec hs).rx_cases
    · exact h.posted.kernelStep hx
    · exact ⟨hfill ▸ h.posted.slot, hheld ▸ h.posted.held⟩
  · obtain ⟨hu, -, -, rfl⟩ | ⟨k, xsk, -, hx, rfl⟩ | ⟨hring, hheld, -, -⟩ :=
      (step_spec hs).tx_cases
    · rcases inFlight_queue hu hd with hd | ⟨-, -, hlen⟩
      · exact h.len n d hd
      · exact hlen
    · exact h.len n d (Xsk.inFlight_of_kernelStep hx hd)
    · rw [Xsk.InFlight, hring, hheld] at hd
      exact h.len n d hd

/-- The number of frames loaded with a payload. -/
def loaded {N : Nat} (s : Sender N) : Nat :=
  match s.pc with
  | .reserve | .sendto | .stats | .exited => s.i + 1
  | _                                     => s.i

/-- Thread and frames are where the times stored say, `sent` packets having been transmitted:
those loaded since carry their numbers and times. -/
structure Loads (times : List Nat) (sent : Nat) (s : Sender opt.framesPerRing) : Prop where
  start : s.pc = .setup → s.i = 0
  length_eq : times.length = s.begun
  begun_le : s.begun ≤ total opt
  seq : s.seqNum = s.i
  prod : s.xsk.txRing.prod = s.submitted
  sent_le : sent ≤ s.submitted
  header : s.pc ≠ .setup → ∀ j < opt.framesPerRing,
    s.xsk.buffer.Contains (j * frameSize) (vlanHeader opt)
  buff : s.pc = .poll ∨ s.pc = .fill → ∃ time rest, times[s.i]? = some time ∧
    s.buff = payloadBytes opt.queue.toNat s.i time ++ rest
  payload : ∀ m, sent ≤ m → m < s.loaded → ∃ time, times[m]? = some time ∧
    s.xsk.buffer.Contains (m % opt.framesPerRing * frameSize + headerSize)
      (payloadBytes opt.queue.toNat m time)

lemma loads_init (h : (senderLts lib opt).init s) : Loads [] 0 s := by
  obtain ⟨buffer, xsk, buff, hx, -, rfl⟩ := h
  rw [initXdpSocket_eq lib opt.framesPerRing_pos] at hx
  obtain rfl := Option.some.inj hx
  exact ⟨fun _ => rfl, rfl, Nat.zero_le _, rfl, rfl, le_rfl, fun h => absurd rfl h,
    fun h => by simp at h, fun m _ hm => absurd hm (Nat.not_lt_zero m)⟩

variable {times : List Nat} {sent : Nat}

lemma Loads.prefill (h : Loads times sent s) (hpc : s.pc = .setup) (now : Nat) :
    Loads times sent (s.prefill opt now) := by
  have hi := h.start hpc
  have hlength := h.length_eq
  have hprod := h.prod
  have hsent := h.sent_le
  simp only [begun, submitted, hpc] at hlength hprod hsent
  refine ⟨by simp [Sender.prefill], hlength, hi.trans_le (Nat.zero_le _), h.seq, hprod, hsent,
    fun _ j hj => ?_, fun h => by simp [Sender.prefill] at h, fun m _ hm => ?_⟩
  · exact contains_prefill_vlanHeader opt s.xsk.buffer hj
  · rw [show (s.prefill opt now).loaded = 0 from hi] at hm
    exact absurd hm (Nat.not_lt_zero m)

/-- The payload of the next frame is prepared. -/
lemma Loads.enter (h : Loads times sent s) (hpc : s.pc = .loop) (hi : s.i < total opt)
    (now : Nat) : Loads (times ++ [now]) sent (s.enter opt now) := by
  have hlength := h.length_eq
  have hprod := h.prod
  have hsent := h.sent_le
  simp only [begun, submitted, hpc] at hlength hprod hsent
  obtain ⟨hpc', hi'⟩ : ((s.enter opt now).pc = .poll ∨ (s.enter opt now).pc = .fill) ∧
      (s.enter opt now).i = s.i := by
    cases hpoll : opt.enablePoll <;> simp [Sender.enter, hpoll]
  have hbegun : (s.enter opt now).begun = s.i + 1 := by
    rcases hpc' with hpc' | hpc' <;> simp only [begun, hpc', hi']
  have hsubmitted : (s.enter opt now).submitted = s.i := by
    rcases hpc' with hpc' | hpc' <;> simp only [submitted, hpc', hi']
  have hloaded : (s.enter opt now).loaded = s.loaded := by
    rcases hpc' with hpc' | hpc' <;> simp only [loaded, hpc', hpc, hi']
  refine ⟨fun hsetup => ?_, ?_, ?_, h.seq, ?_, ?_, fun _ => h.header (by simp [hpc]),
    fun _ => ⟨now, s.buff.drop 16, ?_, ?_⟩, fun m hm hlt => ?_⟩
  · rcases hpc' with hpc' | hpc' <;> simp [hpc'] at hsetup
  · rw [hbegun, List.length_append, hlength]
    rfl
  · rw [hbegun]
    exact hi
  · exact hprod.trans hsubmitted.symm
  · exact hsent.trans_eq hsubmitted.symm
  · rw [hi', ← hlength]
    exact List.getElem?_concat_length
  · show setPayload s.buff opt.queue s.seqNum now = _
    rw [h.seq]
    rfl
  · rw [hloaded] at hlt
    obtain ⟨time, htime, hc⟩ := h.payload m hm hlt
    exact ⟨time, Lts.getElem?_append_of_some htime _, hc⟩

/-- A step that leaves frames and descriptors alone and begins no pass. -/
lemma Loads.quiet (h : Loads times sent s) (hbuffer : s'.xsk.buffer = s.xsk.buffer)
    (hprod : s'.xsk.txRing.prod = s.xsk.txRing.prod) (hpc : s.pc ≠ .setup)
    (hpc' : s'.pc ≠ .setup) (hseq : s'.seqNum = s'.i) (hbegun : s'.begun = s.begun)
    (hloaded : s'.loaded = s.loaded) (hsubmitted : s'.submitted = s.submitted)
    (hbuff : s'.pc = .poll ∨ s'.pc = .fill →
      (s.pc = .poll ∨ s.pc = .fill) ∧ s'.i = s.i ∧ s'.buff = s.buff) : Loads times sent s' := by
  refine ⟨fun hsetup => absurd hsetup hpc', ?_, ?_, hseq, ?_, ?_, fun _ => ?_, fun hin => ?_, ?_⟩
  · rw [hbegun]
    exact h.length_eq
  · rw [hbegun]
    exact h.begun_le
  · rw [hprod, hsubmitted]
    exact h.prod
  · rw [hsubmitted]
    exact h.sent_le
  · rw [hbuffer]
    exact h.header hpc
  · obtain ⟨hin', hi, hb⟩ := hbuff hin
    rw [hi, hb]
    exact h.buff hin'
  · rw [hloaded, hbuffer]
    exact h.payload

/-- Loading a frame spares those that are still to be transmitted. -/
lemma Loads.fill (h : Loads times sent s) (ho : Orderly s) (hpc : s.pc = .fill)
    (hroom : s.xsk.txRing.prod < sent + opt.framesPerRing) : Loads times sent (s.fill opt) := by
  have hprod := h.prod
  have hcur := ho.numbered.curTx
  have hle := opt.packetSize_le
  have hge := opt.packetSize_ge
  simp only [submitted, hpc] at hprod
  have hlen : (s.buff.take (opt.packetSize - headerSize)).length ≤ 1482 := by
    apply (List.length_take_le _ _).trans
    rw [headerSize]
    omega
  have hbuffer : (s.fill opt).xsk.buffer = s.xsk.buffer.copyTo
      (s.i % opt.framesPerRing * frameSize + headerSize)
      (s.buff.take (opt.packetSize - headerSize)) := by
    rw [← hprod, ← hcur, ← shiftLeft_frameShift]
    rfl
  refine ⟨by simp [Sender.fill], ?_, ?_, h.seq, hprod, ?_, fun _ j hj => ?_,
    fun h => by simp [Sender.fill] at h, fun m hm hlt => ?_⟩
  · rw [h.length_eq]
    simp only [begun, hpc, Sender.fill]
  · have hbegun := h.begun_le
    simp only [begun, hpc] at hbegun
    exact hbegun
  · have hsent := h.sent_le
    simp only [submitted, hpc] at hsent
    exact hsent
  · rw [hbuffer]
    apply (h.header (by simp [hpc]) j hj).copyTo
    rw [length_vlanHeader]
    simp only [frameSize, headerSize] at *
    omega
  · rw [hbuffer]
    rcases Nat.lt_succ_iff_lt_or_eq.mp (hlt : m < s.i + 1) with hlt | rfl
    · obtain ⟨time, htime, hc⟩ := h.payload m hm (by simp only [loaded, hpc]; exact hlt)
      refine ⟨time, htime, hc.copyTo ?_⟩
      have hne : m % opt.framesPerRing ≠ s.i % opt.framesPerRing :=
        Ring.mod_ne_mod hlt (by omega)
      rw [length_payloadBytes]
      simp only [frameSize, headerSize] at *
      omega
    · obtain ⟨time, rest, htime, hbuff⟩ := h.buff (.inr hpc)
      refine ⟨time, htime, ?_⟩
      have hcopied := Memory.contains_copyTo s.xsk.buffer
        (s.i % opt.framesPerRing * frameSize + headerSize)
        (s.buff.take (opt.packetSize - headerSize))
      have htake : s.buff.take (opt.packetSize - headerSize) =
          payloadBytes opt.queue.toNat s.i time ++
            rest.take (opt.packetSize - headerSize - 16) := by
        have hlong : (payloadBytes opt.queue.toNat s.i time).length ≤
            opt.packetSize - headerSize := by
          rw [length_payloadBytes, headerSize]
          omega
        rw [hbuff, List.take_append, List.take_of_length_le hlong, length_payloadBytes]
      rw [htake] at hcopied ⊢
      exact hcopied.left

/-- The frame that was loaded is submitted. -/
lemma Loads.queue (h : Loads times sent s) (hpc : s.pc = .reserve)
    (hu : s.xsk.txRing.used < opt.framesPerRing) : Loads times sent (s.queue opt lib hu) := by
  have hlength := h.length_eq
  have hbegun := h.begun_le
  have hprod := h.prod
  have hsent := h.sent_le
  have hpayload := h.payload
  simp only [begun, submitted, loaded, hpc] at hlength hbegun hprod hsent hpayload
  exact ⟨by simp [Sender.queue], hlength, hbegun, h.seq, congrArg (· + 1) hprod,
    hsent.trans (Nat.le_succ _),
    fun _ => h.header (by simp [hpc]), fun h => by simp [Sender.queue] at h, hpayload⟩

/-- The kernel stores what it receives behind header and payload. -/
lemma Loads.kernel (h : Loads times sent s) (hp : s.xsk.Posted) {k : KernelAct}
    {xsk : Xsk opt.framesPerRing} (hx : s.xsk.kernelStep k = some xsk) :
    Loads times sent { s with xsk := xsk } := by
  refine ⟨h.start, h.length_eq, h.begun_le, h.seq, ?_, h.sent_le, fun hpc j hj => ?_, h.buff,
    fun m hm hlt => ?_⟩
  · exact (Xsk.prod_of_kernelStep hx).1.trans h.prod
  · have hc := h.header hpc j hj
    rw [← Nat.add_zero (j * frameSize)] at hc ⊢
    refine Xsk.contains_kernelStep hp hx hc ?_
    rw [length_vlanHeader]
    decide
  · obtain ⟨time, htime, hc⟩ := h.payload m hm hlt
    refine ⟨time, htime, Xsk.contains_kernelStep hp hx hc ?_⟩
    rw [length_payloadBytes]
    decide

/-- A pass that has obtained its descriptor ends. -/
lemma Loads.stats (h : Loads times sent s) (hpc : s.pc = .stats) :
    Loads times sent (Sender.next opt { s with xsk := updateTxstats lib s.xsk }) := by
  have hbegun := h.begun_le
  have hframes := opt.framesToSend_le
  simp only [begun, hpc, total, numFlushPackets] at hbegun
  apply h.quiet
  · simp [Sender.next]
  · simp [Sender.next]
  · simp [hpc]
  · simp [Sender.next]
  · show (s.seqNum + 1) % 2 ^ 64 = s.i + 1
    rw [h.seq, Nat.mod_eq_of_lt (by omega)]
  · simp [begun, hpc, Sender.next]
  · simp [loaded, hpc, Sender.next]
  · simp [submitted, hpc, Sender.next]
  · intro hin
    simp [Sender.next] at hin

/-- Where each pass obtains a descriptor, and no frame is loaded before the packet in it was
transmitted. -/
theorem Loads.step (h : Loads times sent s) (ho : Orderly s) (hpoll : a ≠ .poll false)
    (hroom : a = .fill → s.xsk.txRing.prod < sent + opt.framesPerRing)
    (hreserve : a = .reserve → s.xsk.txRing.used < opt.framesPerRing)
    (hs : (senderLts lib opt).step s a = some s') :
    (∃ now, a = .enter now ∧ Loads (times ++ [now]) sent s') ∨
      (∀ now, a ≠ .enter now) ∧ Loads times sent s' := by
  cases step_spec hs with
  | prefill now hpc => exact .inr ⟨by simp, h.prefill hpc now⟩
  | enter now hpc hi => exact .inl ⟨now, rfl, h.enter hpc hi now⟩
  | leave hpc =>
    refine .inr ⟨by simp, h.quiet rfl rfl (by simp [hpc]) (by simp) h.seq ?_ ?_ ?_ (by simp)⟩
    · simp only [begun, hpc]
    · simp only [loaded, hpc]
    · simp only [submitted, hpc]
  | writable hpc =>
    refine .inr ⟨by simp, h.quiet rfl rfl (by simp [hpc]) (by simp) h.seq ?_ ?_ ?_ fun _ => ?_⟩
    · simp only [begun, hpc]
    · simp only [loaded, hpc]
    · simp only [submitted, hpc]
    · exact ⟨.inl hpc, rfl, rfl⟩
  | timeout hpc => exact absurd rfl hpoll
  | fill hpc => exact .inr ⟨by simp, h.fill ho hpc (hroom rfl)⟩
  | queue hpc hu => exact .inr ⟨by simp, h.queue hpc hu⟩
  | full hpc hu => exact absurd (hreserve rfl) hu
  | sent hpc =>
    refine .inr ⟨by simp, h.quiet rfl rfl (by simp [hpc]) (by simp) h.seq ?_ ?_ ?_ (by simp)⟩
    · simp only [begun, hpc]
    · simp only [loaded, hpc]
    · simp only [submitted, hpc]
  | failed hpc =>
    refine .inr ⟨by simp, h.quiet rfl rfl (by simp [hpc]) (by simp) h.seq ?_ ?_ ?_ (by simp)⟩
    · simp only [begun, hpc]
    · simp only [loaded, hpc]
    · simp only [submitted, hpc]
  | stats hpc => exact .inr ⟨by simp, h.stats hpc⟩
  | finish hpc =>
    refine .inr ⟨by simp, h.quiet (by simp) (by simp) (by simp [hpc]) (by simp) h.seq ?_ ?_ ?_
      (by simp)⟩
    · simp only [begun, hpc]
    · simp only [loaded, hpc]
    · simp only [submitted, hpc]
  | kernel k xsk hk hx => exact .inr ⟨by simp, h.kernel ho.posted hx⟩

/-- The next packet to be transmitted carries its number and its time. -/
lemma Loads.transmit (h : Loads times sent s) (ho : Orderly s) {d : TxDesc}
    (hd : (sent, d) ∈ s.xsk.txHeld) :
    Loads times (sent + 1) s ∧ IsPacket opt times sent (packetBytes s.xsk.buffer d) := by
  obtain ⟨hlt, haddr⟩ := ho.numbered.addr sent d (.inr hd)
  rw [h.prod] at hlt
  have hpc : s.pc ≠ .setup := by
    intro hsetup
    have hi := h.start hsetup
    simp only [submitted, hsetup, hi] at hlt
    exact absurd hlt (Nat.not_lt_zero _)
  have hloaded : s.submitted ≤ s.loaded := by
    cases hin : s.pc <;> simp [submitted, loaded, hin]
  obtain ⟨time, htime, hc⟩ := h.payload sent le_rfl (hlt.trans_le hloaded)
  have hd_len := ho.len sent d (.inr hd)
  refine ⟨⟨h.start, h.length_eq, h.begun_le, h.seq, h.prod, hlt, h.header, h.buff,
    fun m hm => h.payload m (Nat.le_of_succ_le hm)⟩, by simp [packetBytes, hd_len], time, ?_⟩
  have hframe := h.header hpc _ (Nat.mod_lt sent opt.framesPerRing_pos)
  rw [← length_vlanHeader opt] at hc
  have hlen : (vlanHeader opt ++ payloadBytes opt.queue.toNat sent time).length ≤ d.len := by
    have hsize := opt.packetSize_ge
    rw [hd_len, List.length_append, length_vlanHeader, length_payloadBytes,
      headerSize]
    omega
  obtain ⟨rest, hread⟩ := (hframe.append hc).read hlen
  refine ⟨rest, htime, ?_⟩
  rw [packetBytes, haddr, hread, List.append_assoc]

end Sender

end Txrx

end TsnRefSw
