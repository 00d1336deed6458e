import TsnRefSw.Core.Bytes

/-!
# Options and packets of txrx

The options as the argument parser admits them, and the layout of the packets: an Ethernet
header with a VLAN tag, 18 bytes, and behind it `struct custom_payload`.
-/

namespace TsnRefSw

open Core

namespace Txrx

/-- `XDP_MODE_*`. -/
inductive XdpMode where
  | skbCopy
  | nativeCopy
  | zeroCopy
deriving DecidableEq, Repr

/-- `struct user_opt` with its `x_opt`, as far as AF_XDP uses it. -/
structure UserOpt where
  vlanPrio : UInt8
  dstMacAddr : Vector UInt8 6
  packetSize : Nat
  framesToSend : Nat
  intervalNs : Nat
  offsetNs : Nat
  earlyOffsetNs : Nat
  xdpMode : XdpMode
  enablePoll : Bool
  enableTxtime : Bool
  queue : UInt8
  /-- A `uint16_t`. -/
  framesPerRing : Nat
  packetSize_ge : 64 ≤ packetSize
  packetSize_le : packetSize ≤ 1500
  framesToSend_ge : 1 ≤ framesToSend
  framesToSend_le : framesToSend ≤ 10000000
  framesPerRing_pos : 0 < framesPerRing
  framesPerRing_lt : framesPerRing < 2 ^ 16

/-- The options of `main()` before the arguments are parsed. -/
def UserOpt.default : UserOpt where
  vlanPrio := 0
  dstMacAddr := #v[0x22, 0xbb, 0x22, 0xbb, 0x22, 0xbb]
  packetSize := 64
  framesToSend := 1000
  intervalNs := 100000
  offsetNs := 0
  earlyOffsetNs := 100000
  xdpMode := .zeroCopy
  enablePoll := false
  enableTxtime := false
  queue := 0
  framesPerRing := 4096
  packetSize_ge := by decide
  packetSize_le := by decide
  framesToSend_ge := by decide
  framesToSend_le := by decide
  framesPerRing_pos := by decide
  framesPerRing_lt := by decide

/-- `x_opt->frame_size`, which no option changes. -/
def frameSize : Nat := 4096

/-- `XSK_UMEM__DEFAULT_FRAME_SHIFT`. -/
def frameShift : Nat := 12

/-- `DEFAULT_NUM_FLUSH_PACKETS`. -/
def numFlushPackets : Nat := 10

/-- The header size the send thread passes on. -/
def headerSize : Nat := 18

/-- The two ways in which the sources compute the address of a frame. -/
lemma shiftLeft_frameShift (n : Nat) : n <<< frameShift = n * frameSize := by
  rw [Nat.shiftLeft_eq]
  rfl

/-- `src_mac_addr`. -/
def srcMacAddr : List UInt8 := [0xaa, 0x00, 0xaa, 0x00, 0xaa, 0x00]

/-- `setup_tsn_vlan_packet()`: everything not set is `0xab`. -/
def setupTsnVlanPacket (opt : UserOpt) : List UInt8 :=
  opt.dstMacAddr.toList ++ srcMacAddr ++ [0x81, 0x00, opt.vlanPrio, 3, 0xb6, 0x2c] ++
    List.replicate (opt.packetSize - headerSize) 0xab

/-- `sizeof(tsn_packet) - 1`: the packed header and the pointer behind it, less one. -/
def prefillSize : Nat := 25

/-- The send thread's buffer after `tx_queue`, `seq` and `tx_timestampA` were set. -/
def setPayload (buff : List UInt8) (queue : UInt8) (seq : Nat) (txTimestampA : Nat) :
    List UInt8 :=
  leBytes 4 queue.toNat ++ leBytes 4 seq ++ leBytes 8 txTimestampA ++ buff.drop 16

/-- A line of the receiver's output: latency, number, queue and the three time stamps. -/
structure RxLine where
  latency : Nat
  seq : Nat
  txQueue : Nat
  txTimestampA : Nat
  hwTimestamp : Nat
  rxTimestampD : Nat
deriving DecidableEq, Repr

/-- The socket a packet is received on. -/
inductive Socket where
  | afpkt
  | afxdp
deriving DecidableEq, Repr

/-- `%d` of a 32-bit value. -/
def asInt32 (n : Nat) : Int := Int.bmod n (2 ^ 32)

/-- `%ld` of a 64-bit value. -/
def asInt64 (n : Nat) : Int := Int.bmod n (2 ^ 64)

lemma asInt32_of_lt {n : Nat} (h : n < 2 ^ 31) : asInt32 n = n := by
  have hlow : -(((2 ^ 32 : Nat) : Int) / 2) ≤ n := by omega
  have hhigh : (n : Int) < (((2 ^ 32 : Nat) : Int) + 1) / 2 := by omega
  exact Int.bmod_eq_of_le hlow hhigh

lemma asInt64_eq_iff {n : Nat} : asInt64 n = n ↔ n < 2 ^ 63 := by
  constructor
  · intro h
    have hlt : asInt64 n < (((2 ^ 64 : Nat) : Int) + 1) / 2 := Int.bmod_lt (by decide)
    rw [h] at hlt
    omega
  · intro h
    have hlow : -(((2 ^ 64 : Nat) : Int) / 2) ≤ n := by omega
    have hhigh : (n : Int) < (((2 ^ 64 : Nat) : Int) + 1) / 2 := by omega
    exact Int.bmod_eq_of_le hlow hhigh

/-- The numbers on a line: AF_PACKET prints all of them as signed. -/
def rxNumbers (socket : Socket) (l : RxLine) : List Int :=
  match socket with
  | .afpkt => [asInt64 l.latency, asInt32 l.seq, asInt32 l.txQueue, asInt64 l.txTimestampA,
      asInt64 l.hwTimestamp, asInt64 l.rxTimestampD]
  | .afxdp => [l.latency, l.seq, l.txQueue, l.txTimestampA, l.hwTimestamp, l.rxTimestampD]

/-- The sequence number on a line. -/
def rxSeq (socket : Socket) (l : RxLine) : Int :=
  match socket with
  | .afpkt => asInt32 l.seq
  | .afxdp => l.seq

/-- What the receiver makes of the packet at `pkt`: the line it prints, if the packet is one of
the sender's. -/
def parsePacket (umem : Memory) (pkt : Nat) (rxTimestampD : Nat) : Option RxLine :=
  let vlanHdr := umem.readLe (pkt + 12) 2
  let ethHdr  := umem.readLe (pkt + 16) 2
  let seq     := umem.readLe (pkt + headerSize + 4) 4
  let txTimestampA := umem.readLe (pkt + headerSize + 8) 8
  if (vlanHdr = 0x81 ∨ vlanHdr = 0x08) ∧ ethHdr = 0x2cb6 ∧ (0 < seq ∧ seq < 50 * 1000 * 1000) ∧
      (umem (pkt + 14)).toNat / 32 < 8 then
    some {
      latency := (rxTimestampD + 2 ^ 64 - txTimestampA) % 2 ^ 64
      seq := seq
      txQueue := umem.readLe (pkt + headerSize) 4
      txTimestampA := txTimestampA
      hwTimestamp := umem.readLe (pkt - 8) 8
      rxTimestampD := rxTimestampD }
  else none

/-! ### What a packet carries -/

/-- The header of the send threads' packets. -/
def vlanHeader (opt : UserOpt) : List UInt8 :=
  opt.dstMacAddr.toList ++ srcMacAddr ++ [0x81, 0x00, opt.vlanPrio, 3, 0xb6, 0x2c]

lemma length_vlanHeader (opt : UserOpt) : (vlanHeader opt).length = headerSize := by
  simp [vlanHeader, srcMacAddr, headerSize]

/-- The part of the payload the sender fills in. -/
def payloadBytes (txQueue seq txTimestampA : Nat) : List UInt8 :=
  leBytes 4 txQueue ++ leBytes 4 seq ++ leBytes 8 txTimestampA

/-- The numbers of a line that come from the sender. -/
def RxLine.key (l : RxLine) : Nat × Nat × Nat := (l.seq, l.txQueue, l.txTimestampA)

lemma length_payloadBytes (q n t : Nat) : (payloadBytes q n t).length = 16 := by
  simp [payloadBytes]

/-- The numbers are read back from the place where the payload lies. -/
lemma readLe_payloadBytes {m : Memory} {a q n t : Nat} (h : m.Contains a (payloadBytes q n t)) :
    m.readLe a 4 = q % 2 ^ 32 ∧ m.readLe (a + 4) 4 = n % 2 ^ 32 ∧
      m.readLe (a + 8) 8 = t % 2 ^ 64 := by
  refine ⟨h.left.left.readLe, ?_, ?_⟩
  · have hseq := h.left.right
    rw [leBytes_length] at hseq
    exact hseq.readLe
  · have htime := h.right
    rw [List.length_append, leBytes_length, leBytes_length] at htime
    exact htime.readLe

/-- What a receiver has made of the packets of a sender, `stored` being the times in them: a line
for each packet, in order, until the last has come. -/
structure Delivered (n txQueue : Nat) (stored : List Nat) (out : List RxLine) (globRxSeq : Nat) :
    Prop where
  keys : out.map RxLine.key =
    ((stored.zipIdx 1).take out.length).map fun p => (p.2, txQueue, p.1 % 2 ^ 64)
  length_le : out.length ≤ n
  left_iff : n ≤ globRxSeq ↔ out.length = n

end Txrx

end TsnRefSw
