import TsnRefSw.Txrx.Afpkt.Send

/-!
# Receiving with AF_PACKET

The kernel puts an Ethernet header with a VLAN tag in front of what the send thread hands over,
and takes the tag away again before the receiver reads the packet. `afpkt_recv_pkt()` makes up
for the four bytes by letting its packet begin in front of its buffer.
-/

namespace TsnRefSw

open Core

namespace Txrx

/-- The packet on the wire: the kernel of the sender puts in front of it the destination of its
socket, the address of its interface and the protocol `ETH_P_8021Q`. -/
def wireFrame (opt : Options) (hwAddr : Vector UInt8 6) (m : SentMsg) : List UInt8 :=
  opt.dstMacAddr.toList ++ hwAddr.toList ++ [0x81, 0x00] ++ m.data

/-- The kernel of the receiver removes the VLAN tag. -/
def removeTag (frame : List UInt8) : List UInt8 := frame.take 12 ++ frame.drop 16

/-- What a socket of `init_rx_socket(0xb62c, ..)` gets: packets of its protocol only. -/
def socketReceives (frame : List UInt8) : Option (List UInt8) :=
  if ((removeTag frame).drop 12).take 2 = [0xb6, 0x2c] then some (removeTag frame) else none

/-- The number of the last packet and the lines printed. -/
structure AfpktReceiver where
  globRxSeq : Nat
  out : List RxLine

/-- Where the payload of a packet lies in the buffer. -/
def payloadOffset : Nat := headerSize - 4

/-- What the receiver makes of its buffer. -/
def parseBuffer (buffer : Memory) (rxTimestampC rxTimestampD : Nat) : Option RxLine :=
  let txQueue := buffer.readLe payloadOffset 4
  let seq := buffer.readLe (payloadOffset + 4) 4
  let txTimestampA := buffer.readLe (payloadOffset + 8) 8
  if 8 < txQueue ∨ 50 * 1000 * 1000 < seq then none
  else
    some {
      latency := (rxTimestampD + 2 ^ 64 - txTimestampA) % 2 ^ 64
      seq := seq
      txQueue := txQueue
      txTimestampA := txTimestampA
      hwTimestamp := rxTimestampC
      rxTimestampD := rxTimestampD }

/-- `afpkt_recv_pkt()`, with the packet that waits at the socket; `buffer` is what the stack holds
before. -/
def AfpktReceiver.recvPkt (opt : Options) (s : AfpktReceiver) (buffer : Memory)
    (packet : Option (List UInt8)) (rxTimestampC rxTimestampD : Nat) : AfpktReceiver :=
  match packet with
  | none       => s
  | some bytes =>
    if bytes = [] then s
    else
      match parseBuffer (buffer.copyTo 0 (bytes.take 128))
          (if opt.enableHwts then rxTimestampC else 0) rxTimestampD with
      | some line => ⟨line.seq, s.out ++ [line]⟩
      | none      => s

/-! ### Sender, link and receiver -/

/-- A send thread, the packets that are on their way in their order, and a receiver. -/
structure AfpktLink where
  sender : AfpktSender
  link : List (List UInt8)
  receiver : AfpktReceiver

inductive AfpktLinkAct where
  | sender (a : AfpktAct)
  /-- A call of `afpkt_recv_pkt()`. -/
  | recv (buffer : Memory) (rxTimestampC rxTimestampD : Nat)

namespace AfpktLink

/-- What a step of the sender puts on the link. -/
def emitted (thread : AfpktThread) (opt : Options) (hwAddr : Vector UInt8 6) (s : AfpktSender) :
    AfpktAct → List (List UInt8)
  | .turn now true => [wireFrame opt hwAddr (s.msg thread opt now)]
  | _              => []

/-- A step of the sender, or a call of the receiver, which `main()` makes until the last packet
has come. -/
def step (thread : AfpktThread) (opt rxOpt : Options) (hwAddr : Vector UInt8 6) (s : AfpktLink) :
    AfpktLinkAct → Option AfpktLink
  | .sender a => (AfpktSender.step thread opt s.sender a).map fun sender =>
      { s with sender := sender, link := s.link ++ emitted thread opt hwAddr s.sender a }
  | .recv buffer rxTimestampC rxTimestampD =>
    if s.receiver.globRxSeq < rxOpt.framesToSend then
      some { s with
        link := s.link.tail
        receiver := s.receiver.recvPkt rxOpt buffer (s.link.head?.bind socketReceives)
          rxTimestampC rxTimestampD }
    else none

end AfpktLink

/-- A link without loss between a send thread and a receiver that are about to start. -/
def afpktLinkLts (thread : AfpktThread) (opt rxOpt : Options) (hwAddr : Vector UInt8 6) :
    Lts AfpktLink AfpktLinkAct where
  init s := s.sender.pc = .setup ∧ s.link = [] ∧ s.receiver = ⟨0, []⟩
  step := AfpktLink.step thread opt rxOpt hwAddr

/-! ### What a packet carries -/

/-- Without its VLAN tag the packet has the receiver's protocol and carries the numbers. -/
def Carries (frame : List UInt8) (q n t : Nat) : Prop :=
  ∃ hdr rest, hdr.length = 12 ∧
    removeTag frame = hdr ++ ([0xb6, 0x2c] ++ (payloadBytes q n t ++ rest))

lemma parseBuffer_of_contains {m : Memory} {q n t : Nat}
    (h : m.Contains payloadOffset (payloadBytes q n t)) (hq : q ≤ 8) (hn : n ≤ 50 * 1000 * 1000)
    (rxTimestampC rxTimestampD : Nat) :
    parseBuffer m rxTimestampC rxTimestampD =
      some ⟨(rxTimestampD + 2 ^ 64 - t % 2 ^ 64) % 2 ^ 64, n, q, t % 2 ^ 64, rxTimestampC,
        rxTimestampD⟩ := by
  obtain ⟨htxQueue, hseq, htime⟩ := readLe_payloadBytes h
  rw [Nat.mod_eq_of_lt (by omega)] at htxQueue hseq
  have hfilter : ¬ (8 < q ∨ 50 * 1000 * 1000 < n) := by omega
  simp only [parseBuffer, htxQueue, hseq, htime, if_neg hfilter]

/-- The first 128 bytes of a packet hold the numbers. -/
lemma contains_of_carries {frame hdr rest : List UInt8} {q n t : Nat} (hhdr : hdr.length = 12)
    (hframe : removeTag frame = hdr ++ ([0xb6, 0x2c] ++ (payloadBytes q n t ++ rest)))
    (buffer : Memory) :
    (buffer.copyTo 0 ((removeTag frame).take 128)).Contains payloadOffset
      (payloadBytes q n t) := by
  have hlong : (hdr ++ ([0xb6, 0x2c] ++ payloadBytes q n t)).length = 30 := by
    simp [hhdr, length_payloadBytes]
  have hread : (removeTag frame).take 128 =
      (hdr ++ [0xb6, 0x2c]) ++ (payloadBytes q n t ++ rest.take 98) := by
    rw [hframe, ← List.append_assoc [0xb6, 0x2c], ← List.append_assoc hdr, List.take_append,
      List.take_of_length_le (by omega), hlong]
    simp
  have hcopied := Memory.contains_copyTo buffer 0 ((removeTag frame).take 128)
  rw [hread] at hcopied ⊢
  have hpayload := hcopied.right.left
  rwa [List.length_append, hhdr] at hpayload

/-- The receiver prints a line for a packet of the sender. -/
lemma recvPkt_of_carries {frame : List UInt8} {q n t : Nat} (h : Carries frame q n t)
    (hq : q ≤ 8) (hn : n ≤ 50 * 1000 * 1000) (rxOpt : Options) (s : AfpktReceiver)
    (buffer : Memory) (rxTimestampC rxTimestampD : Nat) :
    ∃ line, line.key = (n, q, t % 2 ^ 64) ∧
      s.recvPkt rxOpt buffer (socketReceives frame) rxTimestampC rxTimestampD =
        ⟨n, s.out ++ [line]⟩ := by
  obtain ⟨hdr, rest, hhdr, hframe⟩ := h
  have hreceives : socketReceives frame = some (removeTag frame) := by
    rw [socketReceives, if_pos]
    rw [hframe, List.drop_left' hhdr]
    rfl
  have hne : removeTag frame ≠ [] := by
    rw [hframe]
    simp
  have hparse := parseBuffer_of_contains (contains_of_carries hhdr hframe buffer) hq hn
  refine ⟨⟨(rxTimestampD + 2 ^ 64 - t % 2 ^ 64) % 2 ^ 64, n, q, t % 2 ^ 64,
    if rxOpt.enableHwts then rxTimestampC else 0, rxTimestampD⟩, rfl, ?_⟩
  simp only [hreceives, AfpktReceiver.recvPkt, if_neg hne, hparse]

/-! ### What the sender puts on the link -/

lemma setBytes_append {p : List UInt8} {o : Nat} (h : p.length = o) (r bytes : List UInt8) :
    setBytes (p ++ r) o bytes = p ++ (bytes ++ r.drop bytes.length) := by
  have hdrop : (p ++ r).drop (o + bytes.length) = r.drop bytes.length := by
    rw [← h, List.drop_append]
    simp
  rw [setBytes, List.take_left' h, hdrop, List.append_assoc]

/-- The thread's packet has its header and its queue. -/
def Prepared (opt : Options) (pkt : List UInt8) : Prop :=
  ∃ rest, pkt = vlanHeader opt.toUserOpt ++ (leBytes 4 opt.socketPrio ++ rest) ∧
    rest.length + 22 = opt.packetSize

lemma prepared_begin (thread : AfpktThread) (opt : Options) (sec : Nat) :
    Prepared opt (AfpktSender.begin thread opt sec).tsnPkt := by
  refine ⟨_, setBytes_append (length_vlanHeader _) _ _, ?_⟩
  have hsize := opt.packetSize_ge
  rw [List.length_drop, List.length_replicate, leBytes_length, headerSize]
  omega

/-- Completing the packet puts the number and the time behind the queue. -/
lemma Prepared.stamp {opt : Options} {s : AfpktSender} (h : Prepared opt s.tsnPkt) (now : Nat) :
    ∃ rest, s.stamp now = vlanHeader opt.toUserOpt ++
        (payloadBytes opt.socketPrio s.seq now ++ rest) ∧ rest.length + 34 = opt.packetSize := by
  obtain ⟨rest, hpkt, hlen⟩ := h
  have hsize := opt.packetSize_ge
  have hhdr := length_vlanHeader opt.toUserOpt
  refine ⟨(rest.drop 4).drop 8, ?_, ?_⟩
  · have hqueue : (vlanHeader opt.toUserOpt ++ leBytes 4 opt.socketPrio).length =
        headerSize + 4 := by
      rw [List.length_append, hhdr, leBytes_length]
    have hseq : (vlanHeader opt.toUserOpt ++ leBytes 4 opt.socketPrio ++
        leBytes 4 s.seq).length = headerSize + 8 := by
      rw [List.length_append, hqueue, leBytes_length]
    rw [AfpktSender.stamp, hpkt, ← List.append_assoc, setBytes_append hqueue, leBytes_length,
      ← List.append_assoc, setBytes_append hseq, leBytes_length, payloadBytes]
    simp only [List.append_assoc]
  · rw [List.length_drop, List.length_drop]
    omega

lemma Prepared.next {opt : Options} {s : AfpktSender} (h : Prepared opt s.tsnPkt) (now : Nat) :
    Prepared opt (s.next opt now).tsnPkt := by
  obtain ⟨rest, hstamp, hlen⟩ := h.stamp now
  refine ⟨leBytes 4 s.seq ++ leBytes 8 now ++ rest, ?_, ?_⟩
  · show s.stamp now = _
    rw [hstamp, payloadBytes]
    simp only [List.append_assoc]
  · simp only [List.length_append, leBytes_length]
    omega

/-- The packet on the wire carries the queue, the number and the time. -/
lemma Prepared.carries {opt : Options} {s : AfpktSender} (h : Prepared opt s.tsnPkt)
    (thread : AfpktThread) (hwAddr : Vector UInt8 6) (now : Nat) :
    Carries (wireFrame opt hwAddr (s.msg thread opt now)) opt.socketPrio s.seq now := by
  obtain ⟨rest, hstamp, hlen⟩ := h.stamp now
  have haddr : (opt.dstMacAddr.toList ++ srcMacAddr).length = 12 := by
    simp [srcMacAddr]
  have hhdr : (opt.dstMacAddr.toList ++ hwAddr.toList).length = 12 := by
    simp
  have hdata : (s.msg thread opt now).data =
      [opt.vlanPrio, 3, 0xb6, 0x2c] ++ (payloadBytes opt.socketPrio s.seq now ++ rest) := by
    have hdrop : (vlanHeader opt.toUserOpt).drop 14 = [opt.vlanPrio, 3, 0xb6, 0x2c] := by
      rw [vlanHeader, List.drop_append, haddr, List.drop_eq_nil_of_le (by omega)]
      rfl
    have hall : ([opt.vlanPrio, 3, 0xb6, 0x2c] ++
        (payloadBytes opt.socketPrio s.seq now ++ rest)).length ≤ opt.packetSize - 14 := by
      simp only [List.length_append, length_payloadBytes, List.length_cons, List.length_nil]
      omega
    show ((s.stamp now).drop 14).take (opt.packetSize - 14) = _
    rw [hstamp, List.drop_append_of_le_length (by rw [length_vlanHeader]; decide), hdrop,
      List.take_of_length_le hall]
  refine ⟨opt.dstMacAddr.toList ++ hwAddr.toList, rest, hhdr, ?_⟩
  rw [removeTag, wireFrame, hdata, List.append_assoc _ [0x81, 0x00], List.take_left' hhdr,
    List.drop_append, hhdr, List.drop_eq_nil_of_le (by omega)]
  rfl

end Txrx

end TsnRefSw
