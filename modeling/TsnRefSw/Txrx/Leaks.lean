import TsnRefSw.Txrx.Afpkt.Send
import TsnRefSw.Txrx.Afxdp.Link

/-!
# What the send threads give away

The send threads find arbitrary contents in the memory they are given: on the stack, where
`alloca()` puts the template of the packet and where the array `buff` of the AF_XDP thread lies,
and in the packet memory of its socket. The same thread is run side by side on two such memories,
with the same options, clock readings and moves of the kernel, and the frames that it hands over
are compared.
-/

namespace TsnRefSw

open Core

namespace Txrx

/-! ### The template -/

/-- `setup_tsn_vlan_packet()`, on what lies at `pkt`. -/
def setupTsnVlanPacketAt (opt : UserOpt) (pkt : List UInt8) : List UInt8 :=
  let pkt := setBytes pkt 0 (List.replicate opt.packetSize 0xab)
  let pkt := setBytes pkt 6 srcMacAddr
  let pkt := setBytes pkt 0 opt.dstMacAddr.toList
  let pkt := setBytes pkt 12 [0x81, 0x00]
  let pkt := setBytes pkt 15 [3]
  let pkt := setBytes pkt 14 [opt.vlanPrio]
  let pkt := setBytes pkt 16 [0x22, 0xf0]
  -- The workaround for IEEE 1722 packets.
  setBytes pkt 16 [0xb6, 0x2c]

/-- Nothing of what lay there is left. -/
lemma setupTsnVlanPacketAt_eq {opt : UserOpt} {pkt : List UInt8}
    (h : pkt.length = opt.packetSize) : setupTsnVlanPacketAt opt pkt = setupTsnVlanPacket opt := by
  have hsize := opt.packetSize_ge
  have hmemset : setBytes pkt 0 (List.replicate opt.packetSize 0xab) =
      List.replicate 18 0xab ++ List.replicate (opt.packetSize - headerSize) 0xab := by
    rw [List.replicate_append_replicate, headerSize, Nat.add_sub_cancel' (by omega)]
    simp [setBytes, h]
  have hmac : opt.dstMacAddr.toList.length = 6 := by simp
  rw [setupTsnVlanPacketAt, hmemset, setupTsnVlanPacket]
  generalize opt.dstMacAddr.toList = mac at hmac ⊢
  have htake : ∀ n, 6 ≤ n → mac.take n = mac := fun n hn => List.take_of_length_le (hmac ▸ hn)
  have hdrop : ∀ n, 6 ≤ n → mac.drop n = [] := fun n hn => List.drop_eq_nil_of_le (hmac ▸ hn)
  simp [setBytes, srcMacAddr, List.replicate_succ, List.take_append, List.drop_append, hmac, htake,
    hdrop]

/-! ### The threads on a given memory -/

/-- The send threads. -/
inductive SendThread where
  | afpkt (thread : AfpktThread)
  | afxdp
deriving DecidableEq, Repr

/-- What a send thread finds in the memory it is given. -/
structure Contents (opt : UserOpt) where
  /-- Where the template is to be. -/
  tsnPkt : List UInt8
  buff : List UInt8
  /-- The packet memory of the socket. -/
  buffer : Memory
  loopingTs : Nat
  ts : Timespec
  txTimestamp : Nat
  length_tsnPkt : tsnPkt.length = opt.packetSize
  length_buff : buff.length = opt.packetSize

/-- The bytes of `buff` that are sent although nothing is stored in them. -/
def unset (opt : UserOpt) (buff : List UInt8) : List UInt8 :=
  (buff.take (opt.packetSize - headerSize)).drop 16

namespace AfpktSender

variable (thread : AfpktThread) (opt : Options)

/-- The thread when it is called. -/
def onEntry (m : Contents opt.toUserOpt) : AfpktSender where
  pc := .setup
  loopingTs := m.loopingTs
  ts := m.ts
  count := opt.framesToSend
  seq := 1
  tsnPkt := m.tsnPkt

/-- The part of the thread before its loop, with the template on the stack. -/
def beginAt (s : AfpktSender) (sec : Nat) : AfpktSender :=
  { begin thread opt sec with
    tsnPkt := setBytes (setupTsnVlanPacketAt opt.toUserOpt s.tsnPkt) headerSize
      (leBytes 4 opt.socketPrio) }

/-- The frame that is handed to the socket, which puts the rest of the header in front. -/
def frame (s : AfpktSender) : AfpktAct → Option (List UInt8)
  | .turn now _ => if s.pc = .loop ∧ s.count ≠ 0 then some (s.msg thread opt now).data else none
  | _           => none

end AfpktSender

/-- An AF_PACKET send thread, on the memory it finds. -/
def afpktAtLts (thread : AfpktThread) (opt : Options) : Lts AfpktSender AfpktAct where
  init s := s.pc = .setup ∧ s.tsnPkt.length = opt.packetSize
  step s a :=
    match a with
    | .begin sec => if s.pc = .setup then some (s.beginAt thread opt sec) else none
    | a          => s.step thread opt a

namespace Sender

variable (opt : UserOpt)

/-- The thread when it is called. -/
def onEntry (m : Contents opt) : Sender opt.framesPerRing where
  pc := .setup
  xsk := .initial opt.framesPerRing m.buffer
  i := 0
  seqNum := 0
  txTimestamp := m.txTimestamp
  buff := m.buff

/-- The part of the thread before its loop, with the template on the stack. -/
def prefillAt (tsnPkt : List UInt8) (s : Sender opt.framesPerRing) (now : Nat) :
    Sender opt.framesPerRing :=
  { s.prefill opt now with
    xsk := { s.xsk with
      buffer := prefillTxUmemRings s.xsk.buffer (setupTsnVlanPacketAt opt tsnPkt)
        opt.framesPerRing } }

/-- The frame that is handed to the socket with a descriptor. -/
def frame (lib : XskLib) (s : Sender opt.framesPerRing) : SendAct → Option (List UInt8)
  | .reserve =>
    if s.pc = .reserve ∧ lib.xskRingProdReserve s.xsk.txRing 1 = 1 then
      some (packetBytes s.xsk.buffer (s.txDesc opt lib))
    else none
  | _ => none

end Sender

/-- The AF_XDP send thread, with the memory for its template. -/
def senderAtLts (lib : XskLib) (opt : UserOpt) (tsnPkt : List UInt8) :
    Lts (Sender opt.framesPerRing) SendAct where
  init s := ∃ m : Contents opt, m.tsnPkt = tsnPkt ∧ s = .onEntry opt m
  step s a :=
    match a with
    | .prefill now => if s.pc = .setup then some (s.prefillAt opt tsnPkt now) else none
    | a            => s.step opt lib a

namespace SendThread

/-- What happens to a thread: its own moves with their clock readings, and those of the kernel. -/
def Act : SendThread → Type
  | .afpkt _ => AfpktAct
  | .afxdp   => SendAct

/-- The frames a thread hands over, if `as` can happen to it. -/
def frames (lib : XskLib) (opt : Options) (m : Contents opt.toUserOpt) :
    (thread : SendThread) → List thread.Act → Option (List (List UInt8))
  | .afpkt thread, as =>
    (afpktAtLts thread opt).observe (AfpktSender.frame thread opt) (.onEntry opt m) as
  | .afxdp, as =>
    (senderAtLts lib opt.toUserOpt m.tsnPkt).observe (Sender.frame opt.toUserOpt lib)
      (.onEntry opt.toUserOpt m) as

end SendThread

/-- On a template of the right size, the threads do what they do without regard to the memory. -/
lemma afpktAtLts_step {thread : AfpktThread} {opt : Options} {s : AfpktSender}
    (h : s.tsnPkt.length = opt.packetSize) (a : AfpktAct) :
    (afpktAtLts thread opt).step s a = (afpktLts thread opt).step s a := by
  cases a with
  | begin sec =>
    show (if s.pc = .setup then some (s.beginAt thread opt sec) else none) = _
    rw [AfpktSender.beginAt, setupTsnVlanPacketAt_eq h]
    rfl
  | _ => rfl

lemma senderAtLts_step {lib : XskLib} {opt : UserOpt} {tsnPkt : List UInt8}
    (h : tsnPkt.length = opt.packetSize) (s : Sender opt.framesPerRing) (a : SendAct) :
    (senderAtLts lib opt tsnPkt).step s a = (senderLts lib opt).step s a := by
  cases a with
  | prefill now =>
    show (if s.pc = .setup then some (s.prefillAt opt tsnPkt now) else none) = _
    rw [Sender.prefillAt, setupTsnVlanPacketAt_eq h]
    rfl
  | _ => rfl

/-! ### The AF_PACKET threads -/

/-- Two AF_PACKET threads that are the same but for what they found in the memory. -/
inductive AfpktSender.Alike (opt : Options) : AfpktSender → AfpktSender → Prop where
  | entry (m m' : Contents opt.toUserOpt) : Alike opt (.onEntry opt m) (.onEntry opt m')
  | same (s : AfpktSender) : Alike opt s s

/-- The template covers what was there. -/
lemma AfpktSender.Alike.step {thread : AfpktThread} {opt : Options} {s t : AfpktSender}
    (h : Alike opt s t) (a : AfpktAct) :
    Option.Rel (Alike opt) ((afpktAtLts thread opt).step s a)
      ((afpktAtLts thread opt).step t a) := by
  cases h with
  | entry m m' =>
    rw [afpktAtLts_step m.length_tsnPkt, afpktAtLts_step m'.length_tsnPkt]
    cases a with
    | begin sec => exact .some (.same (begin thread opt sec))
    | turn now sent => exact .none
    | leave => exact .none
  | same s =>
    cases (afpktAtLts thread opt).step s a with
    | none => exact .none
    | some s' => exact .some (.same s')

lemma SendThread.frames_afpkt (lib : XskLib) (opt : Options) (thread : AfpktThread)
    (m m' : Contents opt.toUserOpt) (as : List AfpktAct) :
    frames lib opt m (.afpkt thread) as = frames lib opt m' (.afpkt thread) as := by
  refine Lts.observe_eq_of_rel (fun s t a h => h.step a) (fun s t a h => ?_)
    (AfpktSender.Alike.entry m m') as
  cases h with
  | entry m m' => cases a <;> rfl
  | same s => rfl

/-! ### The AF_XDP thread -/

namespace Xsk

variable {N : Nat}

/-- Two sockets that are the same but for the packet memory, which agrees wherever `P` holds. -/
inductive Alike (P : Nat → Prop) (x : Xsk N) : Xsk N → Prop where
  | intro (b : Memory) (h : ∀ a, P a → x.buffer a = b a) : Alike P x { x with buffer := b }

/-- The same bytes are stored in both memories. -/
lemma copyTo_congr {m m' : Memory} {a : Nat} (h : m a = m' a) (dst : Nat) (l : List UInt8) :
    m.copyTo dst l a = m'.copyTo dst l a := by
  simp only [Memory.copyTo, h]

/-- The kernel does the same to both. -/
lemma Alike.kernelStep {P : Nat → Prop} {x y : Xsk N} (h : Alike P x y) (k : KernelAct) :
    Option.Rel (Alike P) (x.kernelStep k) (y.kernelStep k) := by
  obtain ⟨b, hb⟩ := h
  cases k with
  | txTake =>
    simp only [Xsk.kernelStep]
    split_ifs with hu
    · exact .some (.intro b hb)
    · exact .none
  | txComplete j =>
    simp only [Xsk.kernelStep]
    split
    · exact .none
    · split_ifs with hu
      · exact .some (.intro b hb)
      · exact .none
  | rxTake =>
    simp only [Xsk.kernelStep]
    split_ifs with hu
    · exact .some (.intro b hb)
    · exact .none
  | rxDeliver j offset packet =>
    simp only [Xsk.kernelStep]
    split
    · exact .none
    · split_ifs with hu ho
      · exact .some (.intro (b.copyTo _ _) fun a ha => copyTo_congr (hb a ha) _ _)
      · exact .none
      · exact .none

lemma updateTxstats_setBuffer (lib : XskLib) (x : Xsk N) (b : Memory) :
    updateTxstats lib { x with buffer := b } = { updateTxstats lib x with buffer := b } := by
  unfold updateTxstats
  split_ifs <;> rfl

end Xsk

/-- The threads fill in the beginning of the payload, and nothing else. -/
lemma take_setPayload (opt : UserOpt) (buff : List UInt8) (queue : UInt8) (seq now : Nat) :
    (setPayload buff queue seq now).take (opt.packetSize - headerSize) =
      payloadBytes queue.toNat seq now ++ unset opt buff := by
  have hsize := opt.packetSize_ge
  have hlen := length_payloadBytes queue.toNat seq now
  show (payloadBytes queue.toNat seq now ++ buff.drop 16).take _ = _
  rw [List.take_append, List.take_of_length_le (by rw [hlen, headerSize]; omega), hlen, unset,
    List.drop_take]

lemma unset_setPayload (opt : UserOpt) (buff : List UInt8) (queue : UInt8) (seq now : Nat) :
    unset opt (setPayload buff queue seq now) = unset opt buff := by
  rw [unset, take_setPayload, ← length_payloadBytes queue.toNat seq now, List.drop_left]

lemma length_setPayload {buff : List UInt8} (h : 16 ≤ buff.length) (queue : UInt8)
    (seq now : Nat) : (setPayload buff queue seq now).length = buff.length := by
  simp only [setPayload, List.length_append, leBytes_length, List.length_drop]
  omega

namespace Sender

variable {lib : XskLib} {opt : UserOpt} {s t : Sender opt.framesPerRing}

/-- Where the packet memory does not depend on what was there before: in the headers of the
frames once they were prefilled, and in the frame that is about to be sent. -/
def Known (s : Sender opt.framesPerRing) (a : Nat) : Prop :=
  s.pc ≠ .setup ∧
    ((∃ f < opt.framesPerRing, ∃ o < headerSize, a = f * frameSize + o) ∨
      s.pc = .reserve ∧ ∃ o < opt.packetSize, a = s.xsk.curTx * frameSize + o)

/-- Two AF_XDP threads that are the same but for what they found in the memory. -/
inductive Alike (s : Sender opt.framesPerRing) : Sender opt.framesPerRing → Prop where
  | intro (b : Memory) (buff : List UInt8) (txTimestamp : Nat)
      (buffer : ∀ a, s.Known a → s.xsk.buffer a = b a)
      (time : s.pc ≠ .setup → txTimestamp = s.txTimestamp)
      (curTx : s.xsk.curTx < opt.framesPerRing)
      (length : s.buff.length = opt.packetSize ∧ buff.length = opt.packetSize)
      (payload : s.pc = .poll ∨ s.pc = .fill → s.buff.take (opt.packetSize - headerSize) =
        buff.take (opt.packetSize - headerSize))
      (unset_eq : unset opt s.buff = unset opt buff) :
      Alike s { s with
        xsk := { s.xsk with buffer := b }
        buff := buff
        txTimestamp := txTimestamp }

/-- What is known is at most that, where no frame is about to be sent. -/
lemma Known.of_ne_reserve {s' : Sender opt.framesPerRing} {a : Nat} (h : s'.Known a)
    (hpc' : s'.pc ≠ .reserve) (hpc : s.pc ≠ .setup) : s.Known a :=
  ⟨hpc, .inl (h.2.resolve_right fun hr => hpc' hr.1)⟩

/-- A thread that goes on at another place, with the same memory. -/
lemma Alike.goto (h : Alike s t) (pc : SendPc) (hsetup : s.pc ≠ .setup)
    (hreserve : pc ≠ .reserve) (hpayload : pc = .poll ∨ pc = .fill → s.pc = .poll ∨ s.pc = .fill) :
    Alike { s with pc := pc } { t with pc := pc } := by
  obtain ⟨b, buff, time, hb, htime, hcur, hlen, hpay, hunset⟩ := h
  exact .intro b buff time (fun a ha => hb a (ha.of_ne_reserve hreserve hsetup))
    (fun _ => htime hsetup) hcur hlen (fun hpc => hpay (hpayload hpc)) hunset

/-- A thread that begins the next pass. -/
lemma Alike.next (h : Alike s t) (hsetup : s.pc ≠ .setup) : Alike (s.next opt) (t.next opt) := by
  obtain ⟨b, buff, time, hb, htime, hcur, hlen, hpay, hunset⟩ := h
  rw [htime hsetup]
  refine .intro b buff _ (fun a ha => hb a (ha.of_ne_reserve (by simp [Sender.next]) hsetup))
    (fun _ => rfl) hcur hlen ?_ hunset
  rintro (hpc | hpc) <;> cases hpc

lemma Alike.prefill (h : Alike s t) (now : Nat) :
    Alike (s.prefill opt now) (t.prefill opt now) := by
  obtain ⟨b, buff, time, hb, htime, hcur, hlen, hpay, hunset⟩ := h
  refine .intro _ buff _ (fun a ha => ?_) (fun _ => rfl) hcur hlen ?_ hunset
  · obtain ⟨f, hf, o, ho, rfl⟩ := ha.2.resolve_right (by simp [Sender.prefill])
    rw [← length_vlanHeader opt] at ho
    exact (contains_prefill_vlanHeader opt s.xsk.buffer hf o ho).trans
      (contains_prefill_vlanHeader opt b hf o ho).symm
  · rintro (hpc | hpc) <;> cases hpc

lemma Alike.enter (h : Alike s t) (hpc : s.pc = .loop) (now : Nat) :
    Alike (s.enter opt now) (t.enter opt now) := by
  obtain ⟨b, buff, time, hb, htime, hcur, ⟨hs, ht⟩, hpay, hunset⟩ := h
  have hsize := opt.packetSize_ge
  have hsetup : s.pc ≠ .setup := by
    rw [hpc]
    simp
  refine .intro b _ time (fun a ha => hb a (ha.of_ne_reserve ?_ hsetup)) (fun _ => htime hsetup)
    hcur ⟨?_, ?_⟩ (fun _ => ?_) ?_
  · simp only [Sender.enter]
    split_ifs <;> simp
  · have h16 : 16 ≤ s.buff.length := by omega
    exact (length_setPayload h16 _ _ _).trans hs
  · have h16 : 16 ≤ buff.length := by omega
    exact (length_setPayload h16 _ _ _).trans ht
  · show (setPayload s.buff _ _ _).take _ = (setPayload buff _ _ _).take _
    rw [take_setPayload, take_setPayload, hunset]
  · show unset opt (setPayload s.buff _ _ _) = unset opt (setPayload buff _ _ _)
    rw [unset_setPayload, unset_setPayload, hunset]

/-- The payload is all that was not known of the frame. -/
lemma Alike.fill (h : Alike s t) (hpc : s.pc = .fill) : Alike (s.fill opt) (t.fill opt) := by
  obtain ⟨b, buff, time, hb, htime, hcur, hlen, hpay, hunset⟩ := h
  have hsize := opt.packetSize_ge
  have hsetup : s.pc ≠ .setup := by
    rw [hpc]
    simp
  have hbytes := hpay (.inr hpc)
  have hheader : ∀ f < opt.framesPerRing, ∀ o < headerSize,
      s.xsk.buffer (f * frameSize + o) = b (f * frameSize + o) :=
    fun f hf o ho => hb _ ⟨hsetup, .inl ⟨f, hf, o, ho, rfl⟩⟩
  refine .intro (b.copyTo ((s.xsk.curTx <<< frameShift) + headerSize)
    (buff.take (opt.packetSize - headerSize))) buff time (fun a ha => ?_) (fun _ => htime hsetup)
    hcur hlen ?_ hunset
  · show s.xsk.buffer.copyTo _ _ a = b.copyTo _ _ a
    rw [hbytes, shiftLeft_frameShift]
    obtain ⟨-, ⟨f, hf, o, ho, rfl⟩ | ⟨-, o, ho, rfl⟩⟩ := ha
    · exact Xsk.copyTo_congr (hheader f hf o ho) _ _
    · by_cases ho' : o < headerSize
      · exact Xsk.copyTo_congr (hheader _ hcur o ho') _ _
      · -- Behind the header, the memory contains what was just stored.
        obtain ⟨i, rfl⟩ := Nat.exists_eq_add_of_le (Nat.not_lt.mp ho')
        have hi : i < (buff.take (opt.packetSize - headerSize)).length := by
          rw [List.length_take, hlen.2]
          omega
        show s.xsk.buffer.copyTo _ _ (s.xsk.curTx * frameSize + (headerSize + i)) =
          b.copyTo _ _ (s.xsk.curTx * frameSize + (headerSize + i))
        rw [← Nat.add_assoc, Memory.contains_copyTo _ _ _ i hi, Memory.contains_copyTo _ _ _ i hi]
  · rintro (hpc | hpc) <;> cases hpc

lemma Alike.kernel (h : Alike s t) (k : KernelAct) :
    Option.Rel Alike ((s.xsk.kernelStep k).map fun xsk => { s with xsk := xsk })
      ((t.xsk.kernelStep k).map fun xsk => { t with xsk := xsk }) := by
  obtain ⟨b, buff, time, hb, htime, hcur, hlen, hpay, hunset⟩ := h
  have hrel := Xsk.Alike.kernelStep (.intro (x := s.xsk) b hb) k
  have hprod : ∀ xsk, s.xsk.kernelStep k = some xsk → _ := fun _ => Xsk.prod_of_kernelStep
  generalize s.xsk.kernelStep k = x at hrel hprod
  generalize ({ s.xsk with buffer := b } : Xsk opt.framesPerRing).kernelStep k = y at hrel
  cases hrel with
  | none => exact .none
  | @some x y h' =>
    obtain ⟨b', hb'⟩ := h'
    obtain ⟨-, hcur'⟩ := hprod x rfl
    refine .some (.intro b' buff time (fun a ha => hb' a ?_) htime ?_ hlen hpay hunset)
    · obtain ⟨hpc, hheader | ⟨hpc', hframe⟩⟩ := ha
      · exact ⟨hpc, .inl hheader⟩
      · exact ⟨hpc, .inr ⟨hpc', hcur' ▸ hframe⟩⟩
    · show x.curTx < _
      rw [hcur']
      exact hcur

lemma Alike.queue (h : Alike s t) (hpc : s.pc = .reserve)
    (hs : s.xsk.txRing.used < opt.framesPerRing) (ht : t.xsk.txRing.used < opt.framesPerRing) :
    Alike (s.queue opt lib hs) (t.queue opt lib ht) := by
  obtain ⟨b, buff, time, hb, htime, hcur, hlen, hpay, hunset⟩ := h
  have hsetup : s.pc ≠ .setup := by
    rw [hpc]
    simp
  rw [htime hsetup]
  refine .intro b buff _ (fun a ha => hb a (ha.of_ne_reserve (by simp [Sender.queue]) hsetup))
    (fun _ => rfl) (Nat.mod_lt _ opt.framesPerRing_pos) hlen ?_ hunset
  rintro (hpc | hpc) <;> cases hpc

lemma Alike.stats (h : Alike s t) (lib : XskLib) (hpc : s.pc ≠ .reserve) :
    Alike { s with xsk := updateTxstats lib s.xsk } { t with xsk := updateTxstats lib t.xsk } := by
  obtain ⟨b, buff, time, hb, htime, hcur, hlen, hpay, hunset⟩ := h
  have hx := Xsk.updateTxstats_setBuffer lib s.xsk b
  show Alike _ (⟨s.pc, updateTxstats lib { s.xsk with buffer := b }, s.i, s.seqNum, time, buff⟩)
  rw [hx]
  refine .intro b buff time (fun a ha => ?_) htime ?_ hlen hpay hunset
  · rw [updateTxstats_buffer]
    exact hb a (ha.of_ne_reserve hpc ha.1)
  · rw [updateTxstats_curTx]
    exact hcur

lemma Alike.pc_eq (h : Alike s t) : t.pc = s.pc := by
  cases h
  rfl

/-- Whatever happens to two threads that are alike keeps them so. -/
theorem Alike.step (h : Alike s t) (a : SendAct) :
    Option.Rel Alike (s.step opt lib a) (t.step opt lib a) := by
  have hne {pc pc' : SendPc} (hpc : s.pc = pc) (hpc' : pc ≠ pc') : s.pc ≠ pc' := hpc ▸ hpc'
  cases a with
  | prefill now =>
    simp only [Sender.step, h.pc_eq]
    exact rel_guard fun _ => h.prefill now
  | enter now =>
    have hi : t.i = s.i := by
      cases h
      rfl
    simp only [Sender.step, h.pc_eq, hi]
    exact rel_guard fun hpc => h.enter hpc.1 now
  | leave =>
    simp only [Sender.step, h.pc_eq]
    exact rel_guard fun hpc => h.goto .finish (hne hpc (by simp)) (by simp) (by simp)
  | poll ready =>
    simp only [Sender.step, h.pc_eq]
    refine rel_guard fun hpc => ?_
    cases ready with
    | false => exact h.next (hne hpc (by simp))
    | true => exact h.goto .fill (hne hpc (by simp)) (by simp) fun _ => .inl hpc
  | fill =>
    simp only [Sender.step, h.pc_eq]
    exact rel_guard fun hpc => h.fill hpc
  | reserve =>
    have hring : t.xsk.txRing = s.xsk.txRing := by
      cases h
      rfl
    simp only [Sender.step, h.pc_eq, hring]
    split_ifs with hpc hu
    · exact .some (h.queue hpc _ _)
    · exact .some (h.next (hne hpc (by simp)))
    · exact .none
  | sendto ok =>
    simp only [Sender.step, h.pc_eq]
    refine rel_guard fun hpc => ?_
    cases ok with
    | false => exact h.goto .exited (hne hpc (by simp)) (by simp) (by simp)
    | true => exact h.goto .stats (hne hpc (by simp)) (by simp) (by simp)
  | stats =>
    simp only [Sender.step, h.pc_eq]
    split_ifs with hpc hpc'
    · exact .some ((h.stats lib (hne hpc (by simp))).next (hne hpc (by simp)))
    · exact .some ((h.stats lib (hne hpc' (by simp))).goto .done (hne hpc' (by simp)) (by simp)
        (by simp))
    · exact .none
  | kernel k =>
    simp only [Sender.step]
    by_cases hk : KernelMay opt s.pc k
    · rw [if_pos hk, if_pos (h.pc_eq ▸ hk)]
      exact h.kernel k
    · rw [if_neg hk, if_neg (h.pc_eq ▸ hk)]
      exact .none

/-- The frame that is handed over is known as a whole. -/
lemma Alike.frame (h : Alike s t) (a : SendAct) :
    s.frame opt lib a = t.frame opt lib a := by
  obtain ⟨b, buff, time, hb, htime, hcur, hlen, hpay, hunset⟩ := h
  cases a with
  | reserve =>
    simp only [Sender.frame]
    split_ifs with hr
    · apply congrArg some
      apply List.map_congr_left
      intro o ho
      show s.xsk.buffer (s.xsk.curTx <<< frameShift + o) = b (s.xsk.curTx <<< frameShift + o)
      rw [shiftLeft_frameShift]
      refine hb _ ⟨?_, .inr ⟨hr.1, o, List.mem_range.mp ho, rfl⟩⟩
      rw [hr.1]
      simp
    · rfl
  | _ => rfl

end Sender

namespace SendThread

variable (lib : XskLib) {opt : Options} {m m' : Contents opt.toUserOpt}

lemma frames_afxdp (h : unset opt.toUserOpt m.buff = unset opt.toUserOpt m'.buff)
    (as : List SendAct) : frames lib opt m .afxdp as = frames lib opt m' .afxdp as := by
  refine Lts.observe_eq_of_rel (R := Sender.Alike) (fun s t a hR => ?_) (fun s t a hR => hR.frame a)
    ?_ as
  · rw [senderAtLts_step m.length_tsnPkt, senderAtLts_step m'.length_tsnPkt]
    exact hR.step a
  · refine .intro m'.buffer m'.buff m'.txTimestamp (fun a ha => absurd rfl ha.1)
      (fun hpc => absurd rfl hpc) opt.framesPerRing_pos ⟨m.length_buff, m'.length_buff⟩ ?_ h
    rintro (hpc | hpc) <;> cases hpc

/-- What happens to the AF_XDP thread until it has handed over its first frame. -/
def firstPass (opt : UserOpt) : List SendAct :=
  [.prefill 0, .enter 0] ++ (if opt.enablePoll then [.poll true] else []) ++ [.fill, .reserve]

/-- The packet memory when the first frame is handed over. -/
def firstMemory (opt : UserOpt) (m : Contents opt) : Memory :=
  (prefillTxUmemRings m.buffer (setupTsnVlanPacketAt opt m.tsnPkt) opt.framesPerRing).copyTo
    ((0 <<< frameShift) + headerSize)
    ((setPayload m.buff opt.queue 0 0).take (opt.packetSize - headerSize))

lemma frames_firstPass : frames lib opt m .afxdp (firstPass opt.toUserOpt) =
    some [packetBytes (firstMemory opt.toUserOpt m) ⟨0, opt.packetSize, none⟩] := by
  have htotal : 0 < Sender.total opt.toUserOpt := Nat.add_pos_right _ (by decide)
  have hroom :
      lib.xskRingProdReserve (.empty ⟨0, 0, none⟩ : Ring TxDesc opt.framesPerRing) 1 = 1 :=
    lib.reserve_one_iff.mpr opt.framesPerRing_pos
  show (senderAtLts lib opt.toUserOpt m.tsnPkt).observe _ _ (firstPass opt.toUserOpt) = _
  rw [firstPass]
  cases hpoll : opt.enablePoll <;>
    simp [Lts.observe_cons, senderAtLts, Sender.step, Sender.frame, Sender.onEntry,
      Sender.prefillAt, Sender.prefill, Sender.enter, Sender.fill, Sender.txDesc, packetBytes,
      Xsk.initial, htotal, hroom, hpoll, firstMemory]

lemma length_unset : (unset opt.toUserOpt m.buff).length = opt.packetSize - headerSize - 16 := by
  rw [unset, List.length_drop, List.length_take, m.length_buff,
    Nat.min_eq_left (Nat.sub_le _ _)]

/-- The frame ends with what was found in `buff`. -/
lemma contains_firstMemory :
    (firstMemory opt.toUserOpt m).Contains (headerSize + 16) (unset opt.toUserOpt m.buff) := by
  have hcopied := Memory.contains_copyTo
    (prefillTxUmemRings m.buffer (setupTsnVlanPacketAt opt.toUserOpt m.tsnPkt) opt.framesPerRing)
    ((0 <<< frameShift) + headerSize)
    ((setPayload m.buff opt.queue 0 0).take (opt.packetSize - headerSize))
  rw [← firstMemory, take_setPayload, Nat.zero_shiftLeft, Nat.zero_add] at hcopied
  have hrest := hcopied.right
  rw [length_payloadBytes] at hrest
  exact hrest

lemma unset_eq_of_frames (h : ∀ as, frames lib opt m .afxdp as = frames lib opt m' .afxdp as) :
    unset opt.toUserOpt m.buff = unset opt.toUserOpt m'.buff := by
  have hfirst := h (firstPass opt.toUserOpt)
  rw [frames_firstPass, frames_firstPass] at hfirst
  have hbytes : ∀ o < opt.packetSize,
      firstMemory opt.toUserOpt m o = firstMemory opt.toUserOpt m' o := by
    intro o ho
    have hmap := List.map_inj_left.mp (List.cons.inj (Option.some.inj hfirst)).1 o
      (List.mem_range.mpr ho)
    rwa [Nat.zero_add] at hmap
  apply List.ext_getElem
  · rw [length_unset, length_unset]
  · intro i hi hi'
    have hlt : headerSize + 16 + i < opt.packetSize := by
      rw [length_unset] at hi
      omega
    have hm := contains_firstMemory (m := m) i hi
    have hm' := contains_firstMemory (m := m') i hi'
    rw [hbytes _ hlt, hm'] at hm
    simpa [hi, hi'] using hm.symm

end SendThread

/-- The frames of a send thread do not depend on what it found in the memory if it is one of the
AF_PACKET threads, or else if it found the same in the bytes of `buff` that it sends but never
sets, and only then. -/
theorem SendThread.frames_eq_iff (lib : XskLib) (opt : Options) (thread : SendThread)
    (m m' : Contents opt.toUserOpt) :
    (∀ as, thread.frames lib opt m as = thread.frames lib opt m' as) ↔
      thread ≠ .afxdp ∨ unset opt.toUserOpt m.buff = unset opt.toUserOpt m'.buff := by
  cases thread with
  | afpkt thread =>
    constructor
    · intro _
      exact .inl (by simp)
    · intro _ as
      exact frames_afpkt lib opt thread m m' as
  | afxdp =>
    constructor
    · intro h
      exact .inr (unset_eq_of_frames lib h)
    · rintro (h | h)
      · exact absurd rfl h
      · exact frames_afxdp lib h

/-- A memory with the same byte everywhere on the stack. -/
def Contents.filled (opt : UserOpt) (byte : UInt8) : Contents opt where
  tsnPkt := List.replicate opt.packetSize byte
  buff := List.replicate opt.packetSize byte
  buffer := fun _ => 0
  loopingTs := 0
  ts := ⟨0, 0⟩
  txTimestamp := 0
  length_tsnPkt := List.length_replicate
  length_buff := List.length_replicate

theorem SendThread.not_frames_eq :
    ¬ ∀ (lib : XskLib) (opt : Options) (thread : SendThread) (m m' : Contents opt.toUserOpt)
      (as : List thread.Act), thread.frames lib opt m as = thread.frames lib opt m' as := by
  intro h
  have hunset := unset_eq_of_frames .reference (h .reference .default .afxdp
    (.filled UserOpt.default 0) (.filled UserOpt.default 1))
  revert hunset
  decide

end Txrx

end TsnRefSw
