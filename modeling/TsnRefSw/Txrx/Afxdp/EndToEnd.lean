import TsnRefSw.Txrx.Afxdp.Link

/-!
# From an AF_XDP sender to its receiver

What `afxdp_recv_pkt()` finds in its frames, and what has become of the packets once the sender
has transmitted them.
-/

namespace TsnRefSw

open Core

namespace Txrx

/-! ### What the receiver finds -/

lemma readLe_vlanHeader {opt : UserOpt} {m : Memory} {a : Nat}
    (h : m.Contains a (vlanHeader opt)) :
    m.readLe (a + 12) 2 = 0x81 ∧ m.readLe (a + 16) 2 = 0x2cb6 := by
  have hlen : (opt.dstMacAddr.toList ++ srcMacAddr).length = 12 := by
    simp [srcMacAddr]
  have htag := h.right
  rw [hlen] at htag
  have h₀ : m (a + 12) = 0x81 := htag 0 (by simp)
  have h₁ : m (a + 12 + 1) = 0x00 := htag 1 (by simp)
  have h₄ : m (a + 12 + 4) = 0xb6 := htag 4 (by simp)
  have h₅ : m (a + 12 + 5) = 0x2c := htag 5 (by simp)
  constructor
  · simp [Memory.readLe_succ, h₀, h₁]
  · simp [Memory.readLe_succ, h₄, h₅]

/-- Packet 0 is ignored, any other of the sender's is printed. -/
lemma parsePacket_of_contains {opt : UserOpt} {m : Memory} {a n t : Nat}
    (h : m.Contains a (vlanHeader opt ++ payloadBytes opt.queue.toNat n t))
    (hn : n < 50 * 1000 * 1000) (now : Nat) :
    (n = 0 → parsePacket m a now = none) ∧
      (0 < n → ∃ line, line.key = (n, opt.queue.toNat, t % 2 ^ 64) ∧
        parsePacket m a now = some line) := by
  obtain ⟨hvlan, heth⟩ := readLe_vlanHeader h.left
  have hpayload := h.right
  rw [length_vlanHeader] at hpayload
  obtain ⟨hqueue, hseq, htime⟩ := readLe_payloadBytes hpayload
  have hqueueLt := opt.queue.toNat_lt
  rw [Nat.mod_eq_of_lt (by omega)] at hqueue hseq
  have hprio : (m (a + 14)).toNat / 32 < 8 := by
    have := (m (a + 14)).toNat_lt
    omega
  constructor
  · rintro rfl
    simp [parsePacket, hseq]
  · intro hpos
    refine ⟨⟨(now + 2 ^ 64 - t % 2 ^ 64) % 2 ^ 64, n, opt.queue.toNat, t % 2 ^ 64,
      m.readLe (a - 8) 8, now⟩, rfl, ?_⟩
    simp only [parsePacket, hvlan, heth, hseq, hqueue, htime]
    rw [if_pos ⟨.inl trivial, trivial, ⟨hpos, hn⟩, hprio⟩]

namespace Receiver

variable {lib : XskLib} {opt rxOpt : UserOpt} {r r' : Receiver rxOpt.framesPerRing}
  {times : List Nat} {sent : Nat} {link : List (List UInt8)}

/-- Packet `m` of the sender lies where the descriptor `d` says, within one frame. -/
def Waits (opt : UserOpt) (times : List Nat) (buffer : Memory) (m : Nat) (d : RxDesc) : Prop :=
  ∃ time n o, times[m]? = some time ∧ d.addr = n * frameSize + o ∧ o + 34 ≤ frameSize ∧
    d.len ≠ 0 ∧ buffer.Contains d.addr (vlanHeader opt ++ payloadBytes opt.queue.toNat m time)

lemma length_packet (opt : UserOpt) (q n t : Nat) :
    (vlanHeader opt ++ payloadBytes q n t).length = 34 := by
  rw [List.length_append, length_vlanHeader, length_payloadBytes, headerSize]

/-- What is stored in another frame leaves the packet alone. -/
lemma Waits.copyTo {buffer : Memory} {m n o : Nat} {d : RxDesc} {packet : List UInt8}
    (h : Waits opt times buffer m d) (hframe : frameOf d.addr ≠ n)
    (hlen : o + packet.length ≤ frameSize) :
    Waits opt times (buffer.copyTo (n * frameSize + o) packet) m d := by
  obtain ⟨time, n', o', htime, haddr, ho', hne, hc⟩ := h
  refine ⟨time, n', o', htime, haddr, ho', hne, hc.copyTo ?_⟩
  rw [haddr, frameOf_add (by omega)] at hframe
  rw [length_packet, haddr]
  simp only [frameSize] at *
  omega

/-- A packet of the sender that is stored waits in its frame. -/
lemma waits_of_isPacket {m n o : Nat} {packet : List UInt8} (h : IsPacket opt times m packet)
    (hlen : o + packet.length ≤ frameSize) (buffer : Memory) :
    Waits opt times (buffer.copyTo (n * frameSize + o) packet) m
      ⟨n * frameSize + o, packet.length⟩ := by
  obtain ⟨-, time, rest, htime, hpacket⟩ := h
  rw [← List.append_assoc] at hpacket
  have hge : 34 ≤ packet.length := by
    rw [hpacket, List.length_append, length_packet]
    exact Nat.le_add_right _ _
  have hne : packet.length ≠ 0 := by omega
  refine ⟨time, n, o, htime, rfl, by omega, hne, ?_⟩
  have hcopied := Memory.contains_copyTo buffer (n * frameSize + o) packet
  rw [hpacket] at hcopied ⊢
  exact hcopied.left

/-- The packets on the link and on the RX ring follow each other's numbers, those consumed have
been printed, all but the first. -/
structure Gets (opt : UserOpt) (times : List Nat) (sent : Nat) (link : List (List UInt8))
    (r : Receiver rxOpt.framesPerRing) : Prop where
  posted : r.xsk.Posted
  count : r.xsk.rxRing.prod + link.length = sent
  sent_le : sent ≤ times.length
  frames : r.xsk.rxFillRing.used + r.xsk.rxHeld.length + r.xsk.rxRing.used = rxOpt.framesPerRing
  link : ∀ j p, link[j]? = some p → IsPacket opt times (r.xsk.rxRing.prod + j) p
  ring : ∀ m, r.xsk.rxRing.Holds m →
    Waits opt times r.xsk.buffer m (r.xsk.rxRing.entry m)
  lines : ∀ k line, r.out[k]? = some line → ∃ time, times[k + 1]? = some time ∧
    line.key = (k + 1, opt.queue.toNat, time % 2 ^ 64)
  length_eq : r.out.length = r.xsk.rxRing.cons - 1
  seq : r.globRxSeq = r.out.length
  length_le : r.out.length ≤ opt.framesToSend

lemma gets_init (h : (receiverLts lib rxOpt).init r) : Gets opt [] 0 [] r := by
  obtain ⟨buffer, xsk, hx, rfl⟩ := h
  rw [initXdpSocket_eq lib rxOpt.framesPerRing_pos] at hx
  obtain rfl := Option.some.inj hx
  exact ⟨Xsk.posted_initial buffer, rfl, le_rfl, rfl, nofun,
    fun m hm => absurd hm.2 (Nat.not_lt_zero m), nofun, rfl, rfl, Nat.zero_le _⟩

/-- The sender goes on. -/
lemma Gets.grow (h : Gets opt times sent link r) (now : Nat) :
    Gets opt (times ++ [now]) sent link r := by
  refine ⟨h.posted, h.count, ?_, h.frames, fun j p hp => ?_, fun m hm => ?_,
    fun k line hline => ?_, h.length_eq, h.seq, h.length_le⟩
  · rw [List.length_append]
    exact h.sent_le.trans (Nat.le_add_right _ _)
  · obtain ⟨hlen, time, rest, htime, hpacket⟩ := h.link j p hp
    exact ⟨hlen, time, rest, Lts.getElem?_append_of_some htime _, hpacket⟩
  · obtain ⟨time, n, o, htime, hentry⟩ := h.ring m hm
    exact ⟨time, n, o, Lts.getElem?_append_of_some htime _, hentry⟩
  · obtain ⟨time, htime, hkey⟩ := h.lines k line hline
    exact ⟨time, Lts.getElem?_append_of_some htime _, hkey⟩

/-- A packet is put on the link. -/
lemma Gets.transmit (h : Gets opt times sent link r) {packet : List UInt8}
    (hpacket : IsPacket opt times sent packet) :
    Gets opt times (sent + 1) (link ++ [packet]) r := by
  obtain ⟨-, time, -, htime, -⟩ := id hpacket
  refine ⟨h.posted, ?_, (List.getElem?_eq_some_iff.mp htime).1, h.frames, fun j p hp => ?_,
    h.ring, h.lines, h.length_eq, h.seq, h.length_le⟩
  · rw [List.length_append, ← h.count]
    rfl
  · rcases Lts.getElem?_concat hp with hp | ⟨rfl, rfl⟩
    · exact h.link j p hp
    · rw [h.count]
      exact hpacket

/-- The kernel stores the next packet, where no other waits to be read. -/
lemma Gets.deliver (h : Gets opt times sent link r) {xsk : Xsk rxOpt.framesPerRing}
    {j offset : Nat} {packet : List UInt8} (hlink : link.head? = some packet)
    (hspare : ∀ a ∈ r.xsk.rxHeld[j]?, frameOf a ∉ r.xsk.rxFrames)
    (hx : r.xsk.kernelStep (.rxDeliver j offset packet) = some xsk) :
    Gets opt times sent link.tail { r with xsk := xsk } := by
  have hposted := h.posted.kernelStep hx
  obtain ⟨hk, -⟩ | ⟨_, _, hk, -⟩ | ⟨hk, -⟩ | ⟨_, _, _, a, hk, ha, ho, hlen, hu, rfl⟩ :=
    Xsk.kernelStep_cases hx
  · cases hk
  · cases hk
  · cases hk
  · cases hk
    obtain ⟨n, rfl⟩ := h.posted.held a (List.mem_of_getElem? ha)
    obtain ⟨ps, rfl⟩ := List.head?_eq_some_iff.mp hlink
    have hcount := h.count
    rw [List.length_cons] at hcount
    refine ⟨hposted, ?_, h.sent_le, ?_, fun i p hp => ?_, fun m hm => ?_, h.lines, h.length_eq,
      h.seq, h.length_le⟩
    · show r.xsk.rxRing.prod + 1 + ps.length = sent
      omega
    · have hframes := h.frames
      have hlt := (List.getElem?_eq_some_iff.mp ha).1
      show r.xsk.rxFillRing.used + (r.xsk.rxHeld.eraseIdx j).length +
        (r.xsk.rxRing.push _ hu).used = rxOpt.framesPerRing
      rw [Ring.used_push, List.length_eraseIdx_of_lt hlt]
      omega
    · have hnext := h.link (i + 1) p hp
      rw [← Nat.add_assoc, Nat.add_right_comm] at hnext
      exact hnext
    · show Waits opt times _ m ((r.xsk.rxRing.push _ hu).entry m)
      rcases (Ring.holds_push hu).mp hm with hm | rfl
      · rw [Ring.entry_push_of_holds hu hm]
        refine (h.ring m hm).copyTo (fun hframe => ?_) hlen
        apply hspare _ ha
        rw [frameOf_mul, ← hframe]
        exact List.mem_map_of_mem (Ring.entry_mem_entries hm)
      · rw [Ring.entry_push_self hu]
        exact waits_of_isPacket (h.link 0 packet rfl) hlen r.xsk.buffer

/-- The oldest packet on the ring is ignored if it is the first of all, and else printed. -/
lemma Gets.consume (h : Gets opt times sent link r) (hused : 0 < r.xsk.rxRing.used)
    (hlt : r.globRxSeq < opt.framesToSend) (now : Nat) :
    (r.xsk.rxRing.cons = 0 → r.consume (r.xsk.rxRing.entry r.xsk.rxRing.cons) now = r) ∧
    (0 < r.xsk.rxRing.cons → ∃ line time, times[r.xsk.rxRing.cons]? = some time ∧
      line.key = (r.xsk.rxRing.cons, opt.queue.toNat, time % 2 ^ 64) ∧
      r.consume (r.xsk.rxRing.entry r.xsk.rxRing.cons) now =
        { r with out := r.out ++ [line], globRxSeq := r.xsk.rxRing.cons }) := by
  obtain ⟨time, -, -, htime, -, -, hne, hc⟩ := h.ring _ (Ring.holds_cons hused)
  have hframes := opt.framesToSend_le
  have hlength := h.length_eq
  have hseq := h.seq
  obtain ⟨hfirst, hlater⟩ := parsePacket_of_contains hc (by omega) now
  constructor
  · intro hzero
    rw [Receiver.consume, if_neg hne, hfirst hzero]
  · intro hpos
    obtain ⟨line, hkey, hparse⟩ := hlater hpos
    refine ⟨line, time, htime, hkey, ?_⟩
    have hnumber : line.seq = r.xsk.rxRing.cons := congrArg Prod.fst hkey
    rw [Receiver.consume, if_neg hne, hparse, ← hnumber]

/-- A call takes the next packet off the ring, or changes nothing. -/
lemma Gets.recv (h : Gets opt times sent link r) (hlt : r.globRxSeq < opt.framesToSend)
    (now : Nat) : Gets opt times sent link (r.recvPkt lib now) := by
  rw [recvPkt]
  split_ifs with hp hr
  · have hused := lib.peek_one_iff.mp hp
    have hlength := h.length_eq
    have hseq := h.seq
    have hring : ∀ m, (r.xsk.rxRing.pop hused).Holds m →
        Waits opt times r.xsk.buffer m (r.xsk.rxRing.entry m) :=
      fun m hm => h.ring m ((Ring.holds_pop hused).mp hm).1
    have hposted := h.posted
    have hframes : (r.xsk.rxFillRing.advance (lib.reserve_one_iff.mp hr)).used +
        r.xsk.rxHeld.length + (r.xsk.rxRing.pop hused).used = rxOpt.framesPerRing := by
      have hframes := h.frames
      rw [Ring.used_advance, Ring.used_pop]
      omega
    obtain ⟨hfirst, hlater⟩ := h.consume hused hlt now
    rcases Nat.eq_zero_or_pos r.xsk.rxRing.cons with hzero | hpos
    · rw [hfirst hzero]
      refine ⟨⟨hposted.slot, hposted.held⟩, h.count, h.sent_le, hframes, h.link, hring, h.lines,
        ?_, h.seq, h.length_le⟩
      show r.out.length = r.xsk.rxRing.cons + 1 - 1
      omega
    · obtain ⟨line, time, htime, hkey, hconsume⟩ := hlater hpos
      rw [hconsume]
      have hcons : r.xsk.rxRing.cons = r.out.length + 1 := by omega
      rw [hcons] at htime hkey ⊢
      have hgrown : (r.out ++ [line]).length = r.out.length + 1 := List.length_append
      refine ⟨⟨hposted.slot, hposted.held⟩, h.count, h.sent_le, hframes, h.link, hring,
        fun k l hl => ?_, ?_, hgrown.symm, ?_⟩
      · rcases Lts.getElem?_concat hl with hl | ⟨rfl, rfl⟩
        · exact h.lines k l hl
        · exact ⟨time, htime, hkey⟩
      · show (r.out ++ [line]).length = r.xsk.rxRing.cons + 1 - 1
        rw [hgrown, hcons]
        rfl
      · show (r.out ++ [line]).length ≤ _
        rw [hgrown]
        omega
  · exact h
  · exact h

/-- What the kernel does otherwise concerns neither the link nor the packets received. -/
lemma Gets.kernel (h : Gets opt times sent link r) {k : KernelAct}
    {xsk : Xsk rxOpt.framesPerRing} (hk : ∀ j offset packet, k ≠ .rxDeliver j offset packet)
    (hx : r.xsk.kernelStep k = some xsk) : Gets opt times sent link { r with xsk := xsk } := by
  have hposted := h.posted.kernelStep hx
  obtain ⟨-, hu, rfl⟩ | ⟨j, d, -, hj, hu, rfl⟩ | ⟨-, hu, rfl⟩ | ⟨j, o, p, a, rfl, -⟩ :=
    Xsk.kernelStep_cases hx
  · exact ⟨hposted, h.count, h.sent_le, h.frames, h.link, h.ring, h.lines, h.length_eq, h.seq,
      h.length_le⟩
  · exact ⟨hposted, h.count, h.sent_le, h.frames, h.link, h.ring, h.lines, h.length_eq, h.seq,
      h.length_le⟩
  · refine ⟨hposted, h.count, h.sent_le, ?_, h.link, h.ring, h.lines, h.length_eq, h.seq,
      h.length_le⟩
    have hframes := h.frames
    show (r.xsk.rxFillRing.pop hu).used + (r.xsk.rxHeld ++ [_]).length + r.xsk.rxRing.used =
      rxOpt.framesPerRing
    rw [Ring.used_pop hu, List.length_append, List.length_singleton]
    omega
  · exact absurd rfl (hk j o p)

lemma Gets.delivered (h : Gets opt times sent link r) :
    Delivered opt.framesToSend opt.queue.toNat times.tail r.out r.globRxSeq := by
  refine ⟨?_, h.length_le, ?_⟩
  · apply List.ext_getElem?
    intro k
    rw [List.getElem?_map, List.getElem?_map, List.getElem?_take, List.getElem?_zipIdx,
      List.getElem?_tail]
    by_cases hk : k < r.out.length
    · have hline := List.getElem?_eq_getElem hk
      obtain ⟨time, htime, hkey⟩ := h.lines k _ hline
      rw [if_pos hk, hline, htime]
      simp [hkey, Nat.add_comm]
    · rw [if_neg hk, List.getElem?_eq_none (Nat.not_lt.mp hk)]
      rfl
  · rw [h.seq]
    exact ⟨fun hle => le_antisymm h.length_le hle, fun heq => heq.ge⟩

/-- Where more packets were transmitted than lines are wanted, the lines are there or a packet
is. -/
lemma Gets.pending (h : Gets opt times sent link r) (hsent : opt.framesToSend < sent) :
    r.out.length = opt.framesToSend ∨ 0 < r.xsk.rxRing.used ∨ link ≠ [] := by
  by_contra hnone
  obtain ⟨hlines, hused, hlink⟩ : r.out.length ≠ opt.framesToSend ∧ ¬ 0 < r.xsk.rxRing.used ∧
      link = [] := by
    simpa only [not_or, not_not, ne_eq] using hnone
  have hcount := h.count
  have hprod := r.xsk.rxRing.prod_eq
  have hlength := h.length_eq
  have hle := h.length_le
  rw [hlink, List.length_nil] at hcount
  omega

end Receiver

/-! ### Sender, link and receiver -/

namespace AfxdpLink

variable {lib : XskLib} {opt rxOpt : UserOpt}
  {s s' : AfxdpLink opt.framesPerRing rxOpt.framesPerRing} {times : List Nat}

/-- The packet that is stored spares those that wait to be read. -/
def Spares (s : AfxdpLink opt.framesPerRing rxOpt.framesPerRing) : RecvAct → Prop
  | .kernel (.rxDeliver j _ _) =>
    ∀ addr ∈ s.receiver.xsk.rxHeld[j]?, frameOf addr ∉ s.receiver.xsk.rxFrames
  | _                          => True

/-- A step of the link that concerns the receiver is one of the receiver's own. -/
lemma receiver_step {b : RecvAct}
    (hs : (afxdpLinkLts lib opt rxOpt).step s (.receiver b) = some s') :
    (receiverLts lib rxOpt).step s.receiver b = some s'.receiver := by
  cases b with
  | recv now =>
    obtain ⟨r, hr, rfl⟩ := Option.map_eq_some_iff.mp hs
    exact hr
  | kernel k =>
    cases k with
    | rxDeliver j offset packet =>
      obtain ⟨-, hs⟩ := Option.ite_none_right_eq_some.mp hs
      obtain ⟨r, hr, rfl⟩ := Option.map_eq_some_iff.mp hs
      exact hr
    | _ =>
      obtain ⟨r, hr, rfl⟩ := Option.map_eq_some_iff.mp hs
      exact hr

/-- No other step touches the receiver. -/
lemma receiver_eq {a : AfxdpLinkAct} (ha : ∀ b, a ≠ .receiver b)
    (hs : (afxdpLinkLts lib opt rxOpt).step s a = some s') : s'.receiver = s.receiver := by
  cases a with
  | sender a =>
    obtain ⟨-, hs⟩ := Option.ite_none_right_eq_some.mp hs
    obtain ⟨t, -, rfl⟩ := Option.map_eq_some_iff.mp hs
    rfl
  | transmit =>
    obtain ⟨d, -, rfl⟩ := Option.map_eq_some_iff.mp hs
    rfl
  | receiver b => exact absurd rfl (ha b)

/-- The oldest frame held is none of those on the RX ring. -/
lemma spares_of_ordered (h : s.receiver.Ordered) {b : RecvAct} (hd : Receiver.DeliversOldest b)
    (hs : (afxdpLinkLts lib opt rxOpt).step s (.receiver b) = some s') : s.Spares b := by
  rcases b with _ | _ | _ | _ | ⟨j, offset, packet⟩
  case kernel.rxDeliver =>
    intro addr haddr hmem
    obtain rfl : j = 0 := hd
    obtain ⟨xsk, hx, -⟩ := Option.map_eq_some_iff.mp (receiver_step hs)
    have hu : s.receiver.xsk.rxRing.used < rxOpt.framesPerRing := by
      obtain ⟨hk, -⟩ | ⟨_, _, hk, -⟩ | ⟨hk, -⟩ | ⟨_, _, _, _, -, -, -, -, hu, -⟩ :=
        Xsk.kernelStep_cases hx
      · cases hk
      · cases hk
      · cases hk
      · exact hu
    have hframe : frameOf addr = s.receiver.xsk.rxRing.prod % rxOpt.framesPerRing := by
      have hhead : s.receiver.xsk.rxHeld[0]? = some addr := haddr
      rw [h.held, List.getElem?_map, Option.map_eq_some_iff] at hhead
      obtain ⟨m, hm, rfl⟩ := hhead
      obtain ⟨hlt, hm⟩ := List.getElem?_eq_some_iff.mp hm
      rw [List.getElem_range', Nat.mul_zero, Nat.add_zero] at hm
      rw [frameOf_mul, hm]
    rw [hframe, Xsk.rxFrames, List.mem_map] at hmem
    obtain ⟨d, hd, heq⟩ := hmem
    obtain ⟨m, hm, rfl⟩ := List.mem_map.mp hd
    rw [List.mem_range'_1, ← Ring.prod_eq] at hm
    rw [h.rx m hm] at heq
    have hprod := s.receiver.xsk.rxRing.prod_eq
    exact Ring.mod_ne_mod hm.2 (by omega) heq
  all_goals trivial

/-- Sender, link and receiver are where the times stored say. -/
structure Flows (times : List Nat) (s : AfxdpLink opt.framesPerRing rxOpt.framesPerRing) :
    Prop where
  orderly : s.sender.Orderly
  ordered : s.receiver.Ordered
  loads : s.sender.Loads times s.sent
  gets : s.receiver.Gets opt times s.sent s.link

lemma flows_init (h : (afxdpLinkLts lib opt rxOpt).init s) : Flows [] s := by
  obtain ⟨hsender, hreceiver, hsent, hlink⟩ := h
  refine ⟨Sender.orderly_init hsender, Receiver.ordered_init hreceiver, ?_, ?_⟩
  · rw [hsent]
    exact Sender.loads_init hsender
  · rw [hsent, hlink]
    exact Receiver.gets_init hreceiver

lemma Flows.transmit (h : Flows times s)
    (hs : (afxdpLinkLts lib opt rxOpt).step s .transmit = some s') : Flows times s' := by
  obtain ⟨d, hfind, rfl⟩ := Option.map_eq_some_iff.mp hs
  have hnumber : d.1 = s.sent := by
    simpa using List.find?_some hfind
  have hd : (s.sent, d.2) ∈ s.sender.xsk.txHeld := hnumber ▸ List.mem_of_find?_eq_some hfind
  obtain ⟨hloads, hpacket⟩ := h.loads.transmit h.orderly hd
  exact ⟨h.orderly, h.ordered, hloads, h.gets.transmit hpacket⟩

lemma Flows.receiver (h : Flows times s) (hcount : rxOpt.framesToSend = opt.framesToSend)
    {a : RecvAct} (hsmooth : Smooth s (.receiver a))
    (hs : (afxdpLinkLts lib opt rxOpt).step s (.receiver a) = some s') :
    Flows times s' ∧ s'.sent = s.sent := by
  have hordered := h.ordered.step hsmooth (receiver_step hs)
  have hspares := spares_of_ordered h.ordered hsmooth hs
  cases a with
  | recv now =>
    obtain ⟨r, hr, rfl⟩ := Option.map_eq_some_iff.mp hs
    obtain ⟨hlt, rfl⟩ := of_guard hr
    rw [hcount] at hlt
    exact ⟨⟨h.orderly, hordered, h.loads, h.gets.recv hlt now⟩, rfl⟩
  | kernel k =>
    by_cases hk : ∃ j offset packet, k = .rxDeliver j offset packet
    · obtain ⟨j, offset, packet, rfl⟩ := hk
      obtain ⟨hlink, hs⟩ := Option.ite_none_right_eq_some.mp hs
      obtain ⟨r, hr, rfl⟩ := Option.map_eq_some_iff.mp hs
      obtain ⟨xsk, hx, rfl⟩ := Option.map_eq_some_iff.mp hr
      exact ⟨⟨h.orderly, hordered, h.loads, h.gets.deliver hlink hspares hx⟩, rfl⟩
    · have hother : ∃ r, Receiver.step lib rxOpt s.receiver (.kernel k) = some r ∧
          { s with receiver := r } = s' := by
        cases k with
        | rxDeliver j offset packet => exact absurd ⟨j, offset, packet, rfl⟩ hk
        | _ => exact Option.map_eq_some_iff.mp hs
      obtain ⟨r, hr, rfl⟩ := hother
      obtain ⟨xsk, hx, rfl⟩ := Option.map_eq_some_iff.mp hr
      refine ⟨⟨h.orderly, hordered, h.loads, ?_⟩, rfl⟩
      exact h.gets.kernel (fun j o p he => hk ⟨j, o, p, he⟩) hx

theorem Flows.step {tr : List (AfxdpLink opt.framesPerRing rxOpt.framesPerRing × AfxdpLinkAct)}
    {a : AfxdpLinkAct} (h : Flows (stored tr) s)
    (hcount : rxOpt.framesToSend = opt.framesToSend) (hsmooth : Smooth s a)
    (hs : (afxdpLinkLts lib opt rxOpt).step s a = some s') :
    Flows (stored (tr ++ [(s, a)])) s' := by
  rw [stored_append]
  cases a with
  | transmit =>
    show Flows (stored tr ++ []) s'
    rw [List.append_nil]
    exact h.transmit hs
  | receiver a =>
    show Flows (stored tr ++ []) s'
    rw [List.append_nil]
    exact (h.receiver hcount hsmooth hs).1
  | sender a =>
    obtain ⟨-, hs⟩ := Option.ite_none_right_eq_some.mp hs
    obtain ⟨t, ht, rfl⟩ := Option.map_eq_some_iff.mp hs
    have horderly := h.orderly.step ht
    have hloads := h.loads.step h.orderly ?_ ?_ ?_ ht
    · rcases hloads with ⟨now, rfl, hloads⟩ | ⟨hnow, hloads⟩
      · exact ⟨horderly, h.ordered, hloads, h.gets.grow now⟩
      · have hnone : stored [(s, .sender a)] = [] := by
          cases a with
          | enter now => exact absurd rfl (hnow now)
          | _ => rfl
        rw [hnone, List.append_nil]
        exact ⟨horderly, h.ordered, hloads, h.gets⟩
    · rintro rfl
      exact Bool.noConfusion (hsmooth : false = true)
    · rintro rfl
      exact hsmooth
    · rintro rfl
      exact hsmooth

theorem flows {tr : List (AfxdpLink opt.framesPerRing rxOpt.framesPerRing × AfxdpLinkAct)}
    (h : (afxdpLinkLts lib opt rxOpt).Run tr s)
    (hcount : rxOpt.framesToSend = opt.framesToSend) (hsmooth : ∀ x ∈ tr, Smooth x.1 x.2) :
    Flows (stored tr) s :=
  h.induct_of (P := fun tr => Flows (stored tr)) (C := Smooth) (fun _ => flows_init)
    (fun _ _ _ _ _ _ hI hC hs => hI.step hcount hC hs) hsmooth

/-! ### The end of the receiver's loop -/

/-- What the receiver and its kernel have left to do. -/
def remaining (s : AfxdpLink opt.framesPerRing rxOpt.framesPerRing) : Nat :=
  3 * s.link.length + 2 * s.receiver.xsk.rxRing.used + s.receiver.xsk.rxFillRing.used

/-- A step on the receiver's side. -/
def Receives (s : AfxdpLink opt.framesPerRing rxOpt.framesPerRing) (a : AfxdpLinkAct) : Prop :=
  Smooth s a ∧ ∃ b, a = .receiver b

/-- The receiver's clock shows `now`. -/
def AtTime (now : Nat) (a : AfxdpLinkAct) : Prop :=
  ∀ t, a = .receiver (.recv t) → t = now

/-- A packet that waits is read. -/
lemma Flows.read (h : Flows times s) (hused : 0 < s.receiver.xsk.rxRing.used)
    (hlt : s.receiver.globRxSeq < rxOpt.framesToSend) (now : Nat) :
    ∃ a s', (Receives s a ∧ AtTime now a) ∧ (afxdpLinkLts lib opt rxOpt).step s a = some s' ∧
      remaining s' < remaining s := by
  have hframes := h.gets.frames
  have hp := lib.peek_one_iff.mpr hused
  have hr : lib.xskRingProdReserve s.receiver.xsk.rxFillRing 1 = 1 :=
    lib.reserve_one_iff.mpr (by omega)
  refine ⟨.receiver (.recv now), { s with receiver := s.receiver.recvPkt lib now },
    ⟨⟨trivial, _, rfl⟩, fun t ht => ?_⟩, ?_, ?_⟩
  · cases ht
    rfl
  · show (Receiver.step lib rxOpt s.receiver (.recv now)).map _ = _
    rw [Receiver.step, if_pos hlt]
    rfl
  · simp only [remaining, Receiver.recvPkt, dif_pos hp, dif_pos hr, Ring.used_advance,
      Ring.used_pop]
    omega

/-- A packet on the link is stored, in a frame that was taken for it. -/
lemma Flows.store (h : Flows times s) (hused : s.receiver.xsk.rxRing.used = 0)
    (hlink : s.link ≠ []) (now : Nat) :
    ∃ a s', (Receives s a ∧ AtTime now a) ∧ (afxdpLinkLts lib opt rxOpt).step s a = some s' ∧
      remaining s' < remaining s := by
  have hframes := h.gets.frames
  have hpos := rxOpt.framesPerRing_pos
  by_cases hheld : s.receiver.xsk.rxHeld = []
  · rw [hheld, List.length_nil] at hframes
    have hfill : 0 < s.receiver.xsk.rxFillRing.used := by omega
    have hstep : (afxdpLinkLts lib opt rxOpt).step s (.receiver (.kernel .rxTake)) = some _ :=
      congrArg (Option.map _) (congrArg (Option.map _) (dif_pos hfill))
    refine ⟨.receiver (.kernel .rxTake), _, ⟨⟨trivial, _, rfl⟩, by simp [AtTime]⟩, hstep, ?_⟩
    simp only [remaining, Ring.used_pop]
    omega
  · obtain ⟨packet, link, hcons⟩ := List.exists_cons_of_ne_nil hlink
    obtain ⟨addr, held, haddr⟩ := List.exists_cons_of_ne_nil hheld
    have hsize := opt.packetSize_le
    have hlen := (h.gets.link 0 packet (by rw [hcons]; rfl)).1
    have hroom : s.receiver.xsk.rxRing.used < rxOpt.framesPerRing := by omega
    have hoffset : packetHeadroom ≤ 256 ∧ 256 + packet.length ≤ frameSize ∧ 256 < frameSize := by
      rw [packetHeadroom, frameSize]
      omega
    have hfirst : s.receiver.xsk.rxHeld[0]? = some addr := by
      rw [haddr]
      rfl
    have hx := Xsk.kernelStep_rxDeliver hfirst hroom hoffset
    have hstep : (afxdpLinkLts lib opt rxOpt).step s
        (.receiver (.kernel (.rxDeliver 0 256 packet))) = some _ :=
      (if_pos (by rw [hcons]; rfl)).trans
        (congrArg (Option.map _) (congrArg (Option.map _) hx))
    refine ⟨.receiver (.kernel (.rxDeliver 0 256 packet)), _, ⟨⟨rfl, _, rfl⟩, by simp [AtTime]⟩, hstep, ?_⟩
    simp only [remaining, hcons, List.tail_cons, List.length_cons, Ring.used_push]
    omega

/-- Every packet transmitted has been read. -/
def AllRead (s : AfxdpLink opt.framesPerRing rxOpt.framesPerRing) : Prop :=
  s.link = [] ∧ s.receiver.xsk.rxRing.used = 0

/-- Short of its last line the receiver or its kernel has something to do as long as a packet
has not been read. -/
lemma Flows.progress (h : Flows times s) (hcount : rxOpt.framesToSend = opt.framesToSend)
    (hlines : s.receiver.out.length ≠ opt.framesToSend) (hread : ¬ s.AllRead) (now : Nat) :
    ∃ a s', (Receives s a ∧ AtTime now a) ∧ (afxdpLinkLts lib opt rxOpt).step s a = some s' ∧
      remaining s' < remaining s := by
  by_cases hused : s.receiver.xsk.rxRing.used = 0
  · exact h.store hused (fun hlink => hread ⟨hlink, hused⟩) now
  · refine h.read (Nat.pos_of_ne_zero hused) ?_ now
    rw [h.gets.seq, hcount]
    exact Nat.lt_of_le_of_ne h.gets.length_le hlines

section
variable {tr : List (AfxdpLink opt.framesPerRing rxOpt.framesPerRing × AfxdpLinkAct)}
  (h : (afxdpLinkLts lib opt rxOpt).Run tr s) (hcount : rxOpt.framesToSend = opt.framesToSend)
  (hsmooth : ∀ x ∈ tr, Smooth x.1 x.2)
include h hcount hsmooth

/-- The receiver prints a line for each packet but the first, and leaves its loop with line
`frames_to_send`. -/
theorem delivered : Delivered opt.framesToSend opt.queue.toNat (stored tr).tail
    s.receiver.out s.receiver.globRxSeq :=
  (flows h hcount hsmooth).gets.delivered

/-- There are fewer lines than packets, so that the last line is that of the first packet that
flushes the socket. -/
theorem lines_lt : s.receiver.out.length ≤ s.sent - 1 := by
  have hgets := (flows h hcount hsmooth).gets
  have hlength := hgets.length_eq
  have hsent := hgets.count
  have hprod := s.receiver.xsk.rxRing.prod_eq
  omega

/-- Once more than `frames_to_send` packets are transmitted and all are read, all lines are
there. -/
theorem delivered_all (hsent : opt.framesToSend < s.sent) (hread : s.AllRead) :
    s.receiver.out.length = opt.framesToSend := by
  rcases (flows h hcount hsmooth).gets.pending hsent with hall | hpos | hne
  · exact hall
  · exact absurd hread.2 (Nat.ne_of_gt hpos)
  · exact absurd hread.1 hne

/-- The receiver reads what was transmitted, up to its last line, without the sender's help and
whatever its clock shows. -/
theorem reads (now : Nat) : ∃ tr' s', (afxdpLinkLts lib opt rxOpt).Run (tr ++ tr') s' ∧
    (∀ x ∈ tr', Receives x.1 x.2 ∧ AtTime now x.2) ∧ s'.sent = s.sent ∧
    (s'.receiver.out.length = opt.framesToSend ∨ s'.AllRead) := by
  apply h.exists_of_measure (I := fun t => Flows (stored tr) t ∧ t.sent = s.sent)
    (G := fun t => t.sent = s.sent ∧ (t.receiver.out.length = opt.framesToSend ∨ t.AllRead))
    (D := fun t a => Receives t a ∧ AtTime now a) remaining
  · rintro t a t' ⟨hI, hsent⟩ ⟨⟨hok, b, rfl⟩, -⟩ ht
    obtain ⟨hI', hkept⟩ := hI.receiver hcount hok ht
    exact ⟨hI', hkept.trans hsent⟩
  · rintro t ⟨hI, hsent⟩ hgoal
    rw [not_and, not_or] at hgoal
    obtain ⟨hlines, hread⟩ := hgoal hsent
    exact hI.progress hcount hlines hread now
  · exact ⟨flows h hcount hsmooth, rfl⟩

/-- So it comes to its last line once the packet for it was transmitted. -/
theorem finishes (hsent : opt.framesToSend < s.sent) :
    ∃ tr' s', (afxdpLinkLts lib opt rxOpt).Run (tr ++ tr') s' ∧
      (∀ x ∈ tr', Receives x.1 x.2) ∧ s'.receiver.out.length = opt.framesToSend := by
  obtain ⟨tr', s', hrun, hreceives, hkept, hall | hread⟩ := reads h hcount hsmooth 0
  · exact ⟨tr', s', hrun, fun x hx => (hreceives x hx).1, hall⟩
  · refine ⟨tr', s', hrun, fun x hx => (hreceives x hx).1,
      delivered_all hrun hcount ?_ (hkept ▸ hsent) hread⟩
    exact List.forall_mem_append.mpr ⟨hsmooth, fun x hx => (hreceives x hx).1.1⟩

end

end AfxdpLink

end Txrx

end TsnRefSw
