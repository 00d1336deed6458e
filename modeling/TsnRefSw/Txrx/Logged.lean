import TsnRefSw.Txrx.Afpkt.Receive
import TsnRefSw.Txrx.Afxdp.Link

/-!
# What the receivers log

`afpkt_recv_pkt()` and `afxdp_recv_pkt()` look for the numbers of a packet at fixed places of a
buffer, whatever the length of the packet, and each has its own filter for what it finds there.
-/

namespace TsnRefSw

open Core

namespace Txrx

/-! ### The log -/

/-- The numbers of a payload at `o`, as a line has them. -/
def payloadKey (m : Memory) (o : Nat) : Nat × Nat × Nat :=
  (m.readLe (o + 4) 4, m.readLe o 4, m.readLe (o + 8) 8)

/-- The number of the last packet and the lines printed, after what a call made of its packet. -/
def AfpktReceiver.log (s : AfpktReceiver) : Option RxLine → AfpktReceiver
  | none      => s
  | some line => ⟨line.seq, s.out ++ [line]⟩

/-- The same of an AF_XDP receiver. -/
def Receiver.logged {N : Nat} (r : Receiver N) : AfpktReceiver := ⟨r.globRxSeq, r.out⟩

/-- A frame, with its payload at `o`, was rejected, or else it is complete and a line with its
numbers was printed. -/
def LogsOnly (o : Nat) (frame : List UInt8) (s s' : AfpktReceiver) : Prop :=
  s' = s ∨ o + 16 ≤ frame.length ∧
    ∃ line, line.key = payloadKey (.zeroFill frame) o ∧ s' = ⟨line.seq, s.out ++ [line]⟩

lemma logsOnly_log_iff {o : Nat} {frame : List UInt8} {s : AfpktReceiver} {line : Option RxLine} :
    LogsOnly o frame s (s.log line) ↔ ∀ l ∈ line,
      o + 16 ≤ frame.length ∧ l.key = payloadKey (.zeroFill frame) o := by
  cases line with
  | none => simp [LogsOnly, AfpktReceiver.log]
  | some l =>
    have hlonger : (⟨l.seq, s.out ++ [l]⟩ : AfpktReceiver) ≠ s := by
      intro h
      simpa using congrArg (fun s => s.out.length) h
    simp only [LogsOnly, AfpktReceiver.log, hlonger, false_or, Option.mem_some_iff, forall_eq']
    constructor
    · rintro ⟨hlen, l', hkey, he⟩
      have hout : s.out ++ [l] = s.out ++ [l'] := congrArg AfpktReceiver.out he
      obtain rfl : l = l' := by simpa using hout
      exact ⟨hlen, hkey⟩
    · rintro ⟨hlen, hkey⟩
      exact ⟨hlen, l, hkey, rfl⟩

lemma payloadKey_congr {m m' : Memory} {a b : Nat} (h : ∀ i < 16, m (a + i) = m' (b + i)) :
    payloadKey m a = payloadKey m' b := by
  have hread : ∀ j k, j + k ≤ 16 → m.readLe (a + j) k = m'.readLe (b + j) k := by
    intro j k hjk
    apply Memory.readLe_congr
    intro i hi
    rw [Nat.add_assoc, Nat.add_assoc]
    exact h (j + i) (by omega)
  rw [payloadKey, payloadKey, hread 4 4 (by decide), hread 8 8 (by decide)]
  exact congrArg (fun q => (_, q, _)) (hread 0 4 (by decide))

/-- A complete frame has its numbers where they are looked for. -/
lemma payloadKey_of_contains {m : Memory} {a o : Nat} {frame : List UInt8}
    (h : m.Contains a frame) (hlen : o + 16 ≤ frame.length) :
    payloadKey m (a + o) = payloadKey (.zeroFill frame) o := by
  apply payloadKey_congr
  intro i hi
  rw [Nat.add_assoc, h _ (by omega)]
  rfl

/-! ### The filters -/

/-- `afpkt_recv_pkt()` logs what it finds in its buffer. -/
def AfpktAccepts (m : Memory) : Prop :=
  m.readLe payloadOffset 4 ≤ 8 ∧ m.readLe (payloadOffset + 4) 4 ≤ 50 * 1000 * 1000

/-- `afxdp_recv_pkt()` logs what it finds at `pkt`. The test of the priority is no test. -/
def AfxdpAccepts (m : Memory) (pkt : Nat) : Prop :=
  (m.readLe (pkt + 12) 2 = 0x81 ∨ m.readLe (pkt + 12) 2 = 0x08) ∧
    m.readLe (pkt + 16) 2 = 0x2cb6 ∧
    0 < m.readLe (pkt + headerSize + 4) 4 ∧ m.readLe (pkt + headerSize + 4) 4 < 50 * 1000 * 1000

instance (m : Memory) : Decidable (AfpktAccepts m) := inferInstanceAs (Decidable (_ ∧ _))

instance (m : Memory) (pkt : Nat) : Decidable (AfxdpAccepts m pkt) :=
  inferInstanceAs (Decidable (_ ∧ _))

lemma parseBuffer_spec (m : Memory) (rxTimestampC rxTimestampD : Nat) :
    ((parseBuffer m rxTimestampC rxTimestampD).isSome ↔ AfpktAccepts m) ∧
    ∀ l ∈ parseBuffer m rxTimestampC rxTimestampD, l.key = payloadKey m payloadOffset := by
  simp only [parseBuffer, AfpktAccepts]
  split_ifs with h
  · refine ⟨?_, fun l hl => absurd hl (Option.not_mem_none l)⟩
    simp only [Option.isSome_none, Bool.false_eq_true, false_iff]
    omega
  · refine ⟨?_, ?_⟩
    · simp only [Option.isSome_some, true_iff]
      omega
    · rintro l hl
      obtain rfl := Option.mem_some_iff.mp hl
      rfl

lemma parsePacket_spec (m : Memory) (pkt now : Nat) :
    ((parsePacket m pkt now).isSome ↔ AfxdpAccepts m pkt) ∧
    ∀ l ∈ parsePacket m pkt now, l.key = payloadKey m (pkt + headerSize) := by
  have hprio : (m (pkt + 14)).toNat / 32 < 8 := by
    have := (m (pkt + 14)).toNat_lt
    omega
  simp only [parsePacket, AfxdpAccepts, hprio, and_true]
  split_ifs with h
  · refine ⟨by simpa using h, ?_⟩
    rintro l hl
    obtain rfl := Option.mem_some_iff.mp hl
    rfl
  · exact ⟨by simpa using h, fun l hl => absurd hl (Option.not_mem_none l)⟩

/-! ### Frames of any length -/

/-- The length of the frame is all that matters once its numbers are where they should be. -/
lemma logsOnly_log_iff_length {o : Nat} {frame : List UInt8} {s : AfpktReceiver}
    {line : Option RxLine}
    (hkey : o + 16 ≤ frame.length → ∀ l ∈ line, l.key = payloadKey (.zeroFill frame) o) :
    LogsOnly o frame s (s.log line) ↔ (line.isSome → o + 16 ≤ frame.length) := by
  rw [logsOnly_log_iff]
  cases line with
  | none => simp
  | some l =>
    constructor
    · intro h _
      exact (h l rfl).1
    · intro h l' hl'
      exact ⟨h rfl, hkey (h rfl) l' hl'⟩

/-- What `afpkt_recv_pkt()` makes of the bytes it is given. -/
lemma AfpktReceiver.recvPkt_eq (opt : Options) (s : AfpktReceiver) (buffer : Memory)
    {bytes : List UInt8} (hbytes : bytes ≠ []) (rxTimestampC rxTimestampD : Nat) :
    s.recvPkt opt buffer (some bytes) rxTimestampC rxTimestampD =
      s.log (parseBuffer (buffer.copyTo 0 (bytes.take 128))
        (if opt.enableHwts then rxTimestampC else 0) rxTimestampD) := by
  simp only [recvPkt, if_neg hbytes]
  cases parseBuffer (buffer.copyTo 0 (bytes.take 128)) _ rxTimestampD <;> rfl

lemma payloadKey_copyTo (buffer : Memory) {bytes : List UInt8}
    (hlen : payloadOffset + 16 ≤ bytes.length) :
    payloadKey (buffer.copyTo 0 (bytes.take 128)) payloadOffset =
      payloadKey (.zeroFill bytes) payloadOffset := by
  apply payloadKey_congr
  intro i hi
  have hlt : payloadOffset + i < (bytes.take 128).length := by
    rw [List.length_take]
    simp only [payloadOffset, headerSize] at *
    omega
  have hcopied := Memory.contains_copyTo buffer 0 (bytes.take 128) _ hlt
  rw [Nat.zero_add] at hcopied
  rw [hcopied]
  exact Memory.zeroFill_take (lt_of_lt_of_le hlt (List.length_take_le _ _))

lemma afpkt_logsOnly_iff (opt : Options) (s : AfpktReceiver) (buffer : Memory)
    (frame : List UInt8) (rxTimestampC rxTimestampD : Nat) :
    LogsOnly payloadOffset frame s (s.recvPkt opt buffer (some frame) rxTimestampC rxTimestampD) ↔
      frame = [] ∨ payloadOffset + 16 ≤ frame.length ∨
        ¬ AfpktAccepts (buffer.copyTo 0 (frame.take 128)) := by
  by_cases hempty : frame = []
  · subst hempty
    exact iff_of_true (.inl rfl) (.inl rfl)
  · have hspec := parseBuffer_spec (buffer.copyTo 0 (frame.take 128))
      (if opt.enableHwts then rxTimestampC else 0) rxTimestampD
    rw [AfpktReceiver.recvPkt_eq opt s buffer hempty, logsOnly_log_iff_length, hspec.1,
      or_iff_right hempty, ← imp_iff_or_not]
    intro hlen l hl
    rw [hspec.2 l hl, payloadKey_copyTo buffer hlen]

namespace Receiver

/-- The next descriptor of the RX ring. -/
def nextDesc {N : Nat} (r : Receiver N) : RxDesc := r.xsk.rxRing.entry r.xsk.rxRing.cons

/-- The frame it is about. -/
def nextFrame {N : Nat} (r : Receiver N) : List UInt8 :=
  packetBytes r.xsk.buffer ⟨r.nextDesc.addr, r.nextDesc.len, none⟩

lemma length_nextFrame {N : Nat} (r : Receiver N) : r.nextFrame.length = r.nextDesc.len := by
  rw [nextFrame, packetBytes, List.length_map, List.length_range]

lemma contains_nextFrame {N : Nat} (r : Receiver N) :
    r.xsk.buffer.Contains r.nextDesc.addr r.nextFrame := by
  intro i hi
  rw [length_nextFrame] at hi
  simp [nextFrame, packetBytes, hi]

variable {opt : UserOpt}

lemma logged_recvPkt_of_not (lib : XskLib) {r : Receiver opt.framesPerRing}
    (h : ¬ r.Consumes ∨ r.nextDesc.len = 0) (now : Nat) :
    (r.recvPkt lib now).logged = r.logged := by
  unfold recvPkt
  split_ifs with hp hr
  · have hlen := h.resolve_left (not_not.mpr ⟨lib.peek_one_iff.mp hp, lib.reserve_one_iff.mp hr⟩)
    have hconsume : r.consume (r.xsk.rxRing.entry r.xsk.rxRing.cons) now = r := if_pos hlen
    simp only [hconsume]
    rfl
  · rfl
  · rfl

/-- What `afxdp_recv_pkt()` makes of the packet of the next descriptor. -/
lemma logged_recvPkt (lib : XskLib) {r : Receiver opt.framesPerRing} (hc : r.Consumes)
    (hlen : r.nextDesc.len ≠ 0) (now : Nat) :
    (r.recvPkt lib now).logged =
      r.logged.log (parsePacket r.xsk.buffer r.nextDesc.addr now) := by
  have hp := lib.peek_one_iff.mpr hc.1
  have hr := lib.reserve_one_iff.mpr hc.2
  have hconsume : r.consume (r.xsk.rxRing.entry r.xsk.rxRing.cons) now = _ := if_neg hlen
  simp only [recvPkt, dif_pos hp, dif_pos hr, hconsume, nextDesc]
  cases parsePacket r.xsk.buffer (r.xsk.rxRing.entry r.xsk.rxRing.cons).addr now <;> rfl

end Receiver

lemma afxdp_logsOnly_iff (lib : XskLib) {opt : UserOpt} (r : Receiver opt.framesPerRing)
    (now : Nat) :
    LogsOnly headerSize r.nextFrame r.logged (r.recvPkt lib now).logged ↔
      ¬ r.Consumes ∨ r.nextDesc.len = 0 ∨ headerSize + 16 ≤ r.nextDesc.len ∨
        ¬ AfxdpAccepts r.xsk.buffer r.nextDesc.addr := by
  by_cases h : ¬ r.Consumes ∨ r.nextDesc.len = 0
  · rw [Receiver.logged_recvPkt_of_not lib h, ← or_assoc]
    exact iff_of_true (.inl rfl) (.inl h)
  · obtain ⟨hc, hlen⟩ := not_or.mp h
    have hspec := parsePacket_spec r.xsk.buffer r.nextDesc.addr now
    rw [Receiver.logged_recvPkt lib (not_not.mp hc) hlen, logsOnly_log_iff_length, hspec.1,
      ← or_assoc, or_iff_right h, ← imp_iff_or_not, r.length_nextFrame]
    intro hlong l hl
    rw [hspec.2 l hl]
    exact payloadKey_of_contains r.contains_nextFrame hlong

/-- A receiver logs nothing but what it received if and only if each frame that reaches it is
complete, or its filter rejects what lies at the places of the numbers: the frame as far as it
goes, and behind it what was there before. -/
theorem recvPkt_logsOnly_iff (rxOpt : Options) (opt : UserOpt) (lib : XskLib) :
    (∀ (s : AfpktReceiver) (buffer : Memory) (frame : List UInt8)
      (rxTimestampC rxTimestampD : Nat),
      LogsOnly payloadOffset frame s
          (s.recvPkt rxOpt buffer (some frame) rxTimestampC rxTimestampD) ↔
        frame = [] ∨ payloadOffset + 16 ≤ frame.length ∨
          ¬ AfpktAccepts (buffer.copyTo 0 (frame.take 128))) ∧
    (∀ (r : Receiver opt.framesPerRing) (now : Nat),
      LogsOnly headerSize r.nextFrame r.logged (r.recvPkt lib now).logged ↔
        ¬ r.Consumes ∨ r.nextDesc.len = 0 ∨ headerSize + 16 ≤ r.nextDesc.len ∨
          ¬ AfxdpAccepts r.xsk.buffer r.nextDesc.addr) :=
  ⟨afpkt_logsOnly_iff rxOpt, afxdp_logsOnly_iff lib⟩

/-- The header of a frame without its payload. -/
private def bareHeader : List UInt8 := vlanHeader .default

/-- An AF_XDP receiver whose next descriptor is about the first `len` of these bytes. -/
private def holding (bytes : List UInt8) (len : Nat) : Receiver UserOpt.default.framesPerRing where
  xsk := { Xsk.initial _ (Memory.copyTo (fun _ => 0) 256 bytes) with
    rxFillRing := .empty 0
    rxRing := (Ring.empty ⟨0, 0⟩).push ⟨256, len⟩ (by decide) }
  globRxSeq := 0
  out := []

private lemma consumes_holding (bytes : List UInt8) (len : Nat) : (holding bytes len).Consumes :=
  ⟨Nat.zero_lt_one, UserOpt.default.framesPerRing_pos⟩

/-- A header alone is logged with the numbers of an earlier packet, or with zeros. -/
theorem not_recvPkt_logsOnly :
    (¬ ∀ (opt : Options) (s : AfpktReceiver) (buffer : Memory) (frame : List UInt8)
      (rxTimestampC rxTimestampD : Nat), LogsOnly payloadOffset frame s
        (s.recvPkt opt buffer (some frame) rxTimestampC rxTimestampD)) ∧
    ¬ ∀ (lib : XskLib) (opt : UserOpt) (r : Receiver opt.framesPerRing) (now : Nat),
      LogsOnly headerSize r.nextFrame r.logged (r.recvPkt lib now).logged := by
  constructor
  · intro h
    have hcond := (afpkt_logsOnly_iff _ _ _ _ _ _).mp
      (h .default ⟨0, []⟩ (fun _ => 0) (removeTag bareHeader) 0 0)
    revert hcond
    decide +kernel
  · intro h
    -- Where an earlier packet lay, there is now a header alone.
    have hcond := (afxdp_logsOnly_iff _ _ _).mp
      (h .reference .default (holding (bareHeader ++ payloadBytes 0 7 0) 18) 0)
    rw [or_iff_right (not_not.mpr (consumes_holding _ _))] at hcond
    revert hcond
    decide +kernel

/-! ### The same frame at both receivers -/

/-- A complete frame with a VLAN tag and the protocol of the packets. -/
structure TaggedFrame where
  addrs : Vector UInt8 12
  vlanPrio : UInt8
  vlanId : UInt8
  txQueue : UInt32
  seq : UInt32
  txTimestampA : UInt64
  rest : List UInt8

namespace TaggedFrame

def bytes (f : TaggedFrame) : List UInt8 :=
  f.addrs.toList ++ ([0x81, 0x00, f.vlanPrio, f.vlanId, 0xb6, 0x2c] ++
    (payloadBytes f.txQueue.toNat f.seq.toNat f.txTimestampA.toNat ++ f.rest))

/-- The numbers as a line has them. -/
def key (f : TaggedFrame) : Nat × Nat × Nat :=
  (f.seq.toNat, f.txQueue.toNat, f.txTimestampA.toNat)

end TaggedFrame

/-- Number, queue and transmit time, as a line shows them. -/
def RxLine.shown (socket : Socket) (l : RxLine) : List Int := ((rxNumbers socket l).drop 1).take 3

/-- What the lines show that a call printed. -/
def newShown (socket : Socket) (s s' : AfpktReceiver) : List (List Int) :=
  (s'.out.drop s.out.length).map (RxLine.shown socket)

/-- Two calls, one for either socket, printed the same numbers, or none, and left the same number
of the last packet. -/
def SameLog (s s' r r' : AfpktReceiver) : Prop :=
  newShown .afpkt s s' = newShown .afxdp r r' ∧ s'.globRxSeq = r'.globRxSeq

lemma newShown_log (socket : Socket) (s : AfpktReceiver) (line : Option RxLine) :
    newShown socket s (s.log line) = (line.map (RxLine.shown socket)).toList := by
  cases line <;> simp [newShown, AfpktReceiver.log]

/-- Small numbers are shown alike, and late times are not. -/
lemma shown_eq_iff {l l' : RxLine} (hkey : l.key = l'.key) (hseq : l.seq < 2 ^ 31)
    (hqueue : l.txQueue < 2 ^ 31) :
    l.shown .afpkt = l'.shown .afxdp ↔ l.txTimestampA < 2 ^ 63 := by
  obtain ⟨hs, hq, ht⟩ : l.seq = l'.seq ∧ l.txQueue = l'.txQueue ∧
      l.txTimestampA = l'.txTimestampA := by
    simpa only [RxLine.key, Prod.mk.injEq] using hkey
  have hafpkt : l.shown .afpkt = [asInt32 l.seq, asInt32 l.txQueue, asInt64 l.txTimestampA] := rfl
  have hafxdp : l'.shown .afxdp = [(l'.seq : Int), (l'.txQueue : Int), (l'.txTimestampA : Int)] :=
    rfl
  rw [hafpkt, hafxdp, ← hs, ← hq, ← ht, asInt32_of_lt hseq, asInt32_of_lt hqueue,
    ← asInt64_eq_iff]
  simp

/-- Lines with the same numbers are the same log if both or none are printed, and if none is
about a time that is shown in two ways. -/
lemma sameLog_log_iff {s r : AfpktReceiver} (hg : s.globRxSeq = r.globRxSeq)
    {line line' : Option RxLine} {seq txQueue txTimestampA : Nat}
    (h : ∀ l ∈ line, l.key = (seq, txQueue, txTimestampA))
    (h' : ∀ l ∈ line', l.key = (seq, txQueue, txTimestampA))
    (hsmall : line.isSome → seq < 2 ^ 31 ∧ txQueue < 2 ^ 31) :
    SameLog s (s.log line) r (r.log line') ↔
      (line.isSome ↔ line'.isSome) ∧ (line.isSome → txTimestampA < 2 ^ 63) := by
  rw [SameLog, newShown_log, newShown_log]
  cases line with
  | none =>
    cases line' with
    | none => simp [AfpktReceiver.log, hg]
    | some l' => simp
  | some l =>
    cases line' with
    | none => simp
    | some l' =>
      have hl := h l rfl
      have hkey : l.key = l'.key := hl.trans (h' l' rfl).symm
      have hseq : l.seq = l'.seq := congrArg Prod.fst hkey
      obtain ⟨rfl, rfl, rfl⟩ : l.seq = seq ∧ l.txQueue = txQueue ∧
          l.txTimestampA = txTimestampA := by
        simpa only [RxLine.key, Prod.mk.injEq] using hl
      obtain ⟨hlt, hlt'⟩ := hsmall rfl
      simp [AfpktReceiver.log, hseq, shown_eq_iff hkey hlt hlt']

namespace TaggedFrame

variable (f : TaggedFrame)

lemma carries : Carries f.bytes f.txQueue.toNat f.seq.toNat f.txTimestampA.toNat := by
  have haddrs : f.addrs.toList.length = 12 := by simp
  refine ⟨f.addrs.toList, f.rest, haddrs, ?_⟩
  rw [removeTag, bytes, List.take_left' haddrs, List.drop_append, haddrs,
    List.drop_eq_nil_of_le (by omega)]
  rfl

/-- The numbers where the payload of the frame lies. -/
lemma readLe_payload {m : Memory} {a : Nat}
    (h : m.Contains a (payloadBytes f.txQueue.toNat f.seq.toNat f.txTimestampA.toNat)) :
    m.readLe a 4 = f.txQueue.toNat ∧ m.readLe (a + 4) 4 = f.seq.toNat ∧
      m.readLe (a + 8) 8 = f.txTimestampA.toNat := by
  obtain ⟨hq, hn, ht⟩ := readLe_payloadBytes h
  rw [Nat.mod_eq_of_lt f.txQueue.toNat_lt] at hq
  rw [Nat.mod_eq_of_lt f.seq.toNat_lt] at hn
  rw [Nat.mod_eq_of_lt f.txTimestampA.toNat_lt] at ht
  exact ⟨hq, hn, ht⟩

/-- The AF_XDP filter on the frame: only the number counts. -/
lemma afxdpAccepts_iff {m : Memory} {a : Nat} (h : m.Contains a f.bytes) :
    (AfxdpAccepts m a ↔ 0 < f.seq.toNat ∧ f.seq.toNat < 50 * 1000 * 1000) ∧
      payloadKey m (a + headerSize) = f.key := by
  have htag := h.right
  have haddrs : f.addrs.toList.length = 12 := by simp
  rw [haddrs] at htag
  have hbyte := htag.left
  have hpayload : m.Contains (a + headerSize) _ := htag.right.left
  obtain ⟨hq, hn, ht⟩ := f.readLe_payload hpayload
  have hvlan : m.readLe (a + 12) 2 = 0x81 := by
    have h0 := hbyte 0 (by simp)
    have h1 := hbyte 1 (by simp)
    simp only [Nat.add_zero, List.getD_cons_zero, List.getD_cons_succ] at h0 h1
    simp [Memory.readLe_succ, h0, h1]
  have heth : m.readLe (a + 16) 2 = 0x2cb6 := by
    have h4 := hbyte 4 (by simp)
    have h5 := hbyte 5 (by simp)
    simp only [List.getD_cons_zero, List.getD_cons_succ, Nat.add_assoc] at h4 h5
    simp [Memory.readLe_succ, h4, h5]
  rw [AfxdpAccepts, payloadKey, hvlan, heth, hq, hn, ht, key]
  simp

/-- What `afpkt_recv_pkt()` makes of the frame, once its tag was removed: the number and the queue
count. -/
lemma recvPkt_afpkt (rxOpt : Options) (s : AfpktReceiver) (buffer : Memory)
    (rxTimestampC rxTimestampD : Nat) :
    ∃ line, s.recvPkt rxOpt buffer (socketReceives f.bytes) rxTimestampC rxTimestampD =
        s.log line ∧
      (line.isSome ↔ f.txQueue.toNat ≤ 8 ∧ f.seq.toNat ≤ 50 * 1000 * 1000) ∧
      ∀ l ∈ line, l.key = f.key := by
  obtain ⟨hdr, rest, hhdr, hframe⟩ := f.carries
  have hreceives : socketReceives f.bytes = some (removeTag f.bytes) := by
    rw [socketReceives, if_pos]
    rw [hframe, List.drop_left' hhdr]
    rfl
  have hne : removeTag f.bytes ≠ [] := by
    rw [hframe]
    simp
  obtain ⟨hq, hn, ht⟩ := f.readLe_payload (contains_of_carries hhdr hframe buffer)
  rw [hreceives, AfpktReceiver.recvPkt_eq rxOpt s buffer hne]
  refine ⟨_, rfl, ?_, fun l hl => ?_⟩
  · rw [(parseBuffer_spec _ _ _).1, AfpktAccepts, hq, hn]
  · rw [(parseBuffer_spec _ _ _).2 l hl, payloadKey, hq, hn, ht, key]

/-- What `afxdp_recv_pkt()` makes of the frame: only the number counts. -/
lemma recvPkt_afxdp {opt : UserOpt} {r : Receiver opt.framesPerRing} (hc : r.Consumes)
    (hframe : r.nextFrame = f.bytes) (lib : XskLib) (now : Nat) :
    ∃ line, (r.recvPkt lib now).logged = r.logged.log line ∧
      (line.isSome ↔ 0 < f.seq.toNat ∧ f.seq.toNat < 50 * 1000 * 1000) ∧
      ∀ l ∈ line, l.key = f.key := by
  have hlen : r.nextDesc.len ≠ 0 := by
    rw [← r.length_nextFrame, hframe, bytes]
    simp
  obtain ⟨haccepts, hkey⟩ := f.afxdpAccepts_iff (hframe ▸ r.contains_nextFrame)
  rw [Receiver.logged_recvPkt lib hc hlen]
  refine ⟨_, rfl, (parsePacket_spec _ _ _).1.trans haccepts, fun l hl => ?_⟩
  rw [(parsePacket_spec _ _ _).2 l hl, hkey]

/-- The two receivers, with the same number of the last packet, have to accept the same, and a
time that both show in the same way. -/
lemma sameLog_iff_accepts {opt : UserOpt} {s : AfpktReceiver} {r : Receiver opt.framesPerRing}
    (hg : s.globRxSeq = r.globRxSeq) (hc : r.Consumes) (hframe : r.nextFrame = f.bytes)
    (lib : XskLib) (rxOpt : Options) (buffer : Memory) (rxTimestampC rxTimestampD now : Nat) :
    SameLog s (s.recvPkt rxOpt buffer (socketReceives f.bytes) rxTimestampC rxTimestampD)
        r.logged (r.recvPkt lib now).logged ↔
      (f.txQueue.toNat ≤ 8 ∧ f.seq.toNat ≤ 50 * 1000 * 1000 ↔
        0 < f.seq.toNat ∧ f.seq.toNat < 50 * 1000 * 1000) ∧
      (f.txQueue.toNat ≤ 8 ∧ f.seq.toNat ≤ 50 * 1000 * 1000 →
        f.txTimestampA.toNat < 2 ^ 63) := by
  obtain ⟨line, hafpkt, hsome, hkey⟩ := f.recvPkt_afpkt rxOpt s buffer rxTimestampC rxTimestampD
  obtain ⟨line', hafxdp, hsome', hkey'⟩ := f.recvPkt_afxdp hc hframe lib now
  have hsmall : line.isSome → f.seq.toNat < 2 ^ 31 ∧ f.txQueue.toNat < 2 ^ 31 := by
    rw [hsome]
    omega
  rw [hafpkt, hafxdp, sameLog_log_iff hg hkey hkey' hsmall, hsome, hsome']

end TaggedFrame

/-- On a frame with a VLAN tag that reaches both, with the same number of the last packet, the two
receivers log the same or both reject it if and only if the number is from 1 to 49,999,999, the
queue at most 8 and the time stamp below `2 ^ 63`, or the number is larger than 50,000,000, or the
queue is larger than 8 and the number is 0 or 50,000,000. -/
theorem recvPkt_sameLog_iff (f : TaggedFrame) {opt : UserOpt} {s : AfpktReceiver}
    {r : Receiver opt.framesPerRing} (hg : s.globRxSeq = r.globRxSeq) (hc : r.Consumes)
    (hframe : r.nextFrame = f.bytes) (lib : XskLib) (rxOpt : Options) (buffer : Memory)
    (rxTimestampC rxTimestampD now : Nat) :
    SameLog s (s.recvPkt rxOpt buffer (socketReceives f.bytes) rxTimestampC rxTimestampD)
        r.logged (r.recvPkt lib now).logged ↔
      (0 < f.seq.toNat ∧ f.seq.toNat < 50 * 1000 * 1000 ∧ f.txQueue.toNat ≤ 8 ∧
          f.txTimestampA.toNat < 2 ^ 63) ∨
        50 * 1000 * 1000 < f.seq.toNat ∨
        (8 < f.txQueue.toNat ∧ (f.seq.toNat = 0 ∨ f.seq.toNat = 50 * 1000 * 1000)) := by
  rw [f.sameLog_iff_accepts hg hc hframe]
  omega

/-- A frame with a number and a queue. -/
private def numbered (txQueue seq : UInt32) : TaggedFrame :=
  ⟨Vector.replicate 12 0, 0, 3, txQueue, seq, 0, []⟩

private lemma nextFrame_holding (bytes : List UInt8) :
    (holding bytes bytes.length).nextFrame = bytes := by
  have hbytes : (holding bytes bytes.length).xsk.buffer.Contains 256 bytes :=
    Memory.contains_copyTo _ _ _
  obtain ⟨rest, hread⟩ := hbytes.read le_rfl
  have hlen := congrArg List.length hread
  rw [List.length_map, List.length_range, List.length_append, Nat.left_eq_add] at hlen
  rw [List.eq_nil_of_length_eq_zero hlen, List.append_nil] at hread
  exact hread

theorem recvPkt_sameLog_iff_first :
    SameLog ⟨0, []⟩ (AfpktReceiver.recvPkt .default ⟨0, []⟩ (fun _ => 0)
        (socketReceives (numbered 0 1).bytes) 0 0)
      (holding (numbered 0 1).bytes 34).logged
      ((holding (numbered 0 1).bytes 34).recvPkt .reference 0).logged :=
  (recvPkt_sameLog_iff (numbered 0 1) rfl (consumes_holding _ _) (nextFrame_holding _) _ _ _ _ _
    _).mpr (.inl (by decide))

/-- The first packet of an AF_XDP sender has number 0. -/
theorem not_recvPkt_sameLog :
    ¬ ∀ (f : TaggedFrame) (opt : UserOpt) (s : AfpktReceiver) (r : Receiver opt.framesPerRing),
      s.globRxSeq = r.globRxSeq → r.Consumes → r.nextFrame = f.bytes →
      ∀ (lib : XskLib) (rxOpt : Options) (buffer : Memory) (rxTimestampC rxTimestampD now : Nat),
      SameLog s (s.recvPkt rxOpt buffer (socketReceives f.bytes) rxTimestampC rxTimestampD)
        r.logged (r.recvPkt lib now).logged := by
  intro h
  have hsame := h (numbered 0 0) .default ⟨0, []⟩ _ rfl (consumes_holding _ _)
    (nextFrame_holding _) .reference .default (fun _ => 0) 0 0 0
  rw [TaggedFrame.sameLog_iff_accepts _ rfl (consumes_holding _ _) (nextFrame_holding _)] at hsame
  revert hsame
  decide

end Txrx

end TsnRefSw
