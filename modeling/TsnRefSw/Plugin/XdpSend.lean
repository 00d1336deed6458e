import TsnRefSw.Plugin.XdpReceive

/-!
# Sending in the AF_XDP plugin

`send` writes the header and the message into the next frame of the packet memory and submits a
descriptor for it. The header has a VLAN tag if the channel has a VLAN.
-/

namespace TsnRefSw

open Core

namespace Plugin

open Txrx (XskLib TxDesc)

/-- `VLAN_SHIFT`. -/
def vlanShift : Nat := 13

/-- `XDP_FRAME_SHIFT`. -/
def xdpFrameShift : Nat := 11

/-- The channel data, with what only `send` looks at. -/
structure SendChannel extends Channel where
  prio : UInt8
  ifAddress : Vector UInt8 6

/-- `xdpsock`, with what only `send` uses. The TX ring is seen by the user up to the slot it
reserves next. -/
structure SendSock extends XdpSock where
  txRing : Ring TxDesc noOfDesc
  cq : Ring Nat noOfDesc
  curTx : Nat
  outstandingTx : UInt32
  txNpkts : UInt64
  curTx_lt : curTx < frameSize

/-- `UA_EthernetETFWriterGroupTransportDataType`. -/
structure EtfSettings where
  txtimeEnabled : Bool
  transmissionTime : UInt64
deriving DecidableEq, Repr

/-- The launch time of a frame, zero for none. -/
def EtfSettings.txtime (settings : EtfSettings) : Nat :=
  if settings.txtimeEnabled then settings.transmissionTime.toNat else 0

/-- The values of `errno` that `send` tells apart. -/
inductive Errno where
  | enobufs
  | eagain
  | ebusy
  | other
deriving DecidableEq, Repr

def vlanTag (ch : SendChannel) : Nat :=
  (ch.vid.toNat + ch.prio.toNat <<< vlanShift) % 2 ^ 16

/-- The size of the header of a channel's frames. -/
def headerSize (ch : Channel) : Nat := etherHeaderSize + if 0 < ch.vid then 4 else 0

/-- The header is written to the frame at `bufSend`; the message belongs behind it. -/
def writeHeader (ch : SendChannel) (buffer : Memory) (bufSend : Nat) : Memory × Nat :=
  let addressed := (buffer.copyTo (bufSend + 6) ch.ifAddress.toList).copyTo bufSend
    ch.targetAddress.toList
  let ptr := bufSend + etherHeaderSize
  if 0 < ch.vid then
    (((addressed.copyTo (bufSend + 12) (leBytes 2 (htons ethertypeVlan))).copyTo ptr
      (leBytes 2 (htons (vlanTag ch)))).copyTo (ptr + 2) (leBytes 2 (htons ethertypeUadp)), ptr + 4)
  else (addressed.copyTo (bufSend + 12) (leBytes 2 (htons ethertypeUadp)), ptr)

/-- Behind the call of `UA_sendto()`: a completed frame is taken off the ring. -/
def complete (lib : XskLib) (s : SendSock) : SendSock :=
  if h : lib.xskRingConsPeek s.cq 1 = 1 then
    { s with
      cq := s.cq.pop (lib.peek_one_iff.mp h)
      outstandingTx := s.outstandingTx - 1
      txNpkts := s.txNpkts + 1 }
  else s

/-- `UA_PubSubChannelEthernetXDP_send()`; `error` is the error of `UA_sendto()`, if there is
one. -/
def send (lib : XskLib) (ch : SendChannel) (s : SendSock) (settings : EtfSettings)
    (buf : List UInt8) (error : Option Errno) : Status × SendSock :=
  let bufSend := s.curTx <<< xdpFrameShift
  let header := writeHeader ch s.buffer bufSend
  let lenBuf := (headerSize ch.toChannel + buf.length) % 2 ^ 64
  if frameSize < lenBuf then (.badInternalError, { s with buffer := header.1 })
  else
    let copied := { s with buffer := header.1.copyTo header.2 buf }
    if h : lib.xskRingProdReserve s.txRing 1 = 1 then
      let desc : TxDesc := {
        addr := bufSend
        len := lenBuf % 2 ^ 32
        txtime := some settings.txtime }
      let submitted := { copied with
        txRing := s.txRing.push desc (lib.reserve_one_iff.mp h)
        outstandingTx := s.outstandingTx + 1
        curTx := (s.curTx + 1) % frameSize
        curTx_lt := Nat.mod_lt _ (by decide) }
      if error = some .other then (.badInternalError, submitted)
      else (.good, complete lib submitted)
    else (.badInternalError, copied)

/-! ### Frames -/

/-- The ethertype, behind the tag if there is one. -/
def ethertypes (ch : SendChannel) : List UInt8 :=
  if 0 < ch.vid then
    leBytes 2 (htons ethertypeVlan) ++ (leBytes 2 (htons (vlanTag ch)) ++
      leBytes 2 (htons ethertypeUadp))
  else leBytes 2 (htons ethertypeUadp)

def addresses (ch : SendChannel) : List UInt8 := ch.targetAddress.toList ++ ch.ifAddress.toList

/-- The frame of a message. -/
def frame (ch : SendChannel) (buf : List UInt8) : List UInt8 :=
  addresses ch ++ (ethertypes ch ++ buf)

/-- The message and its header fit into a frame. -/
def Fits (ch : SendChannel) (buf : List UInt8) : Prop :=
  headerSize ch.toChannel + buf.length ≤ frameSize

instance (ch : SendChannel) (buf : List UInt8) : Decidable (Fits ch buf) :=
  inferInstanceAs (Decidable (_ ≤ _))

/-- What is written to the packet memory: the frame of a message that fits, or its header. -/
def written (ch : SendChannel) (buf : List UInt8) : List UInt8 :=
  if Fits ch buf then frame ch buf else addresses ch ++ ethertypes ch

/-- What the packet memory holds for the descriptor that was submitted next. -/
def submittedFrame (s s' : SendSock) : List UInt8 :=
  s'.buffer.bytes (s'.txRing.entry s.txRing.prod).addr (s'.txRing.entry s.txRing.prod).len

section

variable {lib : XskLib} {ch : SendChannel} {buf : List UInt8}

lemma length_addresses : (addresses ch).length = 12 := by
  simp [addresses]

lemma length_ethertypes : (addresses ch ++ ethertypes ch).length = headerSize ch.toChannel := by
  rw [List.length_append, length_addresses, ethertypes, headerSize]
  split_ifs <;> simp [etherHeaderSize]

lemma length_frame : (frame ch buf).length = headerSize ch.toChannel + buf.length := by
  rw [frame, ← List.append_assoc, List.length_append, length_ethertypes]

/-- The header is written as a whole. -/
lemma writeHeader_eq (ch : SendChannel) (m : Memory) (a : Nat) :
    writeHeader ch m a =
      (m.copyTo a (addresses ch ++ ethertypes ch), a + headerSize ch.toChannel) := by
  have haddresses : (m.copyTo (a + 6) ch.ifAddress.toList).copyTo a ch.targetAddress.toList =
      m.copyTo a (addresses ch) :=
    Memory.copyTo_copyTo_front m (by rw [Vector.length_toList]) _
  rw [writeHeader, ethertypes, headerSize, haddresses]
  split_ifs with hvid
  · rw [Memory.copyTo_copyTo m (by rw [length_addresses]), Memory.copyTo_copyTo m
      (by rw [List.length_append, length_addresses, leBytes_length]; rfl), Memory.copyTo_copyTo m
      (by rw [List.length_append, List.length_append, length_addresses, leBytes_length]; rfl),
      List.append_assoc, List.append_assoc]
    rfl
  · rw [Memory.copyTo_copyTo m (by rw [length_addresses])]
    rfl

/-- And the message behind it. -/
lemma writeHeader_copyTo (ch : SendChannel) (m : Memory) (a : Nat) (buf : List UInt8) :
    (writeHeader ch m a).1.copyTo (writeHeader ch m a).2 buf = m.copyTo a (frame ch buf) := by
  rw [writeHeader_eq, Memory.copyTo_copyTo m (by rw [length_ethertypes]), List.append_assoc,
    ← frame]

lemma complete_buffer (s : SendSock) : (complete lib s).buffer = s.buffer := by
  rw [complete]
  split_ifs <;> rfl

lemma complete_txRing (s : SendSock) : (complete lib s).txRing = s.txRing := by
  rw [complete]
  split_ifs <;> rfl

/-- A message that fits is submitted, if there is a slot for it, whatever becomes of the call of
`UA_sendto()`. -/
lemma send_submits (lib : XskLib) (s : SendSock) (settings : EtfSettings) (error : Option Errno)
    (hfits : Fits ch buf) (hslot : s.txRing.used < noOfDesc) :
    (send lib ch s settings buf error).2.txRing = s.txRing.push
        ⟨s.curTx <<< xdpFrameShift, (frame ch buf).length, some settings.txtime⟩ hslot ∧
      (send lib ch s settings buf error).2.buffer =
        s.buffer.copyTo (s.curTx <<< xdpFrameShift) (frame ch buf) := by
  have hr := lib.reserve_one_iff.mpr hslot
  have hfits' : headerSize ch.toChannel + buf.length ≤ 2048 := hfits
  have hlen : (headerSize ch.toChannel + buf.length) % 2 ^ 64 = (frame ch buf).length := by
    rw [length_frame, Nat.mod_eq_of_lt (by omega)]
  have hlen' : (frame ch buf).length % 2 ^ 32 = (frame ch buf).length := by
    rw [length_frame, Nat.mod_eq_of_lt (by omega)]
  have hle : ¬ frameSize < (frame ch buf).length := by
    rw [length_frame]
    exact Nat.not_lt.mpr hfits
  rw [send, hlen, if_neg hle, dif_pos hr, hlen', ← writeHeader_copyTo]
  split_ifs with herror
  · exact ⟨rfl, rfl⟩
  · rw [complete_txRing, complete_buffer]
    exact ⟨rfl, rfl⟩

/-- What is submitted for a message is its frame. -/
lemma submittedFrame_send (lib : XskLib) (s : SendSock) (settings : EtfSettings)
    (error : Option Errno) (hfits : Fits ch buf) (hslot : s.txRing.used < noOfDesc) :
    submittedFrame s (send lib ch s settings buf error).2 = frame ch buf := by
  obtain ⟨htx, hbuffer⟩ := send_submits lib s settings error hfits hslot
  rw [submittedFrame, htx, hbuffer, Ring.entry_push_self]
  exact (Memory.contains_copyTo _ _ _).bytes_eq

end

end Plugin

end TsnRefSw
