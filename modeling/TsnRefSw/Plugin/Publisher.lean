import TsnRefSw.Plugin.Link

/-!
# The publisher

Descriptor `n` is for frame `n % 2048`, and the frame keeps its message until it was transmitted,
as long as messages are sent and packets stored in other frames only.
-/

namespace TsnRefSw

open Core

namespace Plugin

open Txrx (XskLib TxDesc)

/-! ### Calls of send -/

section

variable {lib : XskLib} {ch : SendChannel} {s : SendSock} {settings : EtfSettings}
  {buf : List UInt8} {error : Option Errno}

lemma shiftLeft_xdpFrameShift (n : Nat) : n <<< xdpFrameShift = n * frameSize := by
  rw [Nat.shiftLeft_eq]
  rfl

/-- The size of a frame, in 64 bits. -/
def lenBuf (ch : SendChannel) (buf : List UInt8) : Nat :=
  (headerSize ch.toChannel + buf.length) % 2 ^ 64

lemma lenBuf_eq (h : buf.length + 18 < 2 ^ 64) : lenBuf ch buf = (frame ch buf).length := by
  rw [lenBuf, length_frame]
  apply Nat.mod_eq_of_lt
  rw [headerSize, etherHeaderSize]
  split_ifs <;> omega

lemma complete_curTx (s : SendSock) : (complete lib s).curTx = s.curTx := by
  rw [complete]
  split_ifs <;> rfl

lemma complete_rx (s : SendSock) : (complete lib s).toXdpSock = s.toXdpSock := by
  rw [complete]
  split_ifs <;> rfl

/-- A descriptor for the frame at `curTx` is submitted, or nothing but the packet memory
changes. -/
lemma send_cases (lib : XskLib) (ch : SendChannel) (s : SendSock) (settings : EtfSettings)
    (buf : List UInt8) (error : Option Errno) :
    ((send lib ch s settings buf error).2.txRing = s.txRing ∧
        (send lib ch s settings buf error).2.curTx = s.curTx ∧
        (send lib ch s settings buf error).1 = .badInternalError ∧
        ¬ (lenBuf ch buf ≤ frameSize ∧ s.txRing.used < noOfDesc)) ∨
      (lenBuf ch buf ≤ frameSize ∧ ∃ hslot : s.txRing.used < noOfDesc,
        (send lib ch s settings buf error).2.txRing = s.txRing.push
          ⟨s.curTx * frameSize, lenBuf ch buf % 2 ^ 32, some settings.txtime⟩ hslot ∧
        (send lib ch s settings buf error).2.curTx = (s.curTx + 1) % frameSize) := by
  rw [send, ← lenBuf, shiftLeft_xdpFrameShift]
  dsimp only
  split_ifs with hlen hr herror
  · exact .inl ⟨rfl, rfl, rfl, fun h => Nat.not_lt.mpr h.1 hlen⟩
  · exact .inr ⟨Nat.not_lt.mp hlen, lib.reserve_one_iff.mp hr, rfl, rfl⟩
  · refine .inr ⟨Nat.not_lt.mp hlen, lib.reserve_one_iff.mp hr, ?_, ?_⟩
    · rw [complete_txRing]
    · rw [complete_curTx]
  · exact .inl ⟨rfl, rfl, rfl, fun h => hr (lib.reserve_one_iff.mpr h.2)⟩

lemma lenBuf_le_iff (h : buf.length + 18 < 2 ^ 64) : lenBuf ch buf ≤ frameSize ↔ Fits ch buf := by
  rw [lenBuf_eq h, length_frame, Fits]

/-- Whether or not there is a slot for it, the frame is written, or the header of a message that is
too long. -/
lemma send_buffer (hlen : buf.length + 18 < 2 ^ 64) :
    (send lib ch s settings buf error).2.buffer =
      s.buffer.copyTo (s.curTx * frameSize) (written ch buf) := by
  rw [send, ← lenBuf, shiftLeft_xdpFrameShift]
  dsimp only
  by_cases hfits : Fits ch buf
  · rw [written, if_pos hfits, ← writeHeader_copyTo,
      if_neg (Nat.not_lt.mpr ((lenBuf_le_iff hlen).mpr hfits))]
    split_ifs
    · rfl
    · rw [complete_buffer]
    · rfl
  · rw [written, if_neg hfits, writeHeader_eq,
      if_pos (Nat.lt_of_not_le (mt (lenBuf_le_iff hlen).mp hfits))]

lemma length_written_le : (written ch buf).length ≤ frameSize := by
  rw [written]
  split_ifs with hfits
  · rw [length_frame]
    exact hfits
  · rw [length_ethertypes, headerSize]
    split_ifs <;> decide

/-- The receiving side is left alone. -/
lemma send_rx (lib : XskLib) (ch : SendChannel) (s : SendSock) (settings : EtfSettings)
    (buf : List UInt8) (error : Option Errno) :
    (send lib ch s settings buf error).2.fq = s.fq ∧
      (send lib ch s settings buf error).2.rxHeld = s.rxHeld := by
  rw [send]
  dsimp only
  split_ifs
  · exact ⟨rfl, rfl⟩
  · exact ⟨rfl, rfl⟩
  · rw [complete_rx]
    exact ⟨rfl, rfl⟩
  · exact ⟨rfl, rfl⟩

/-- Sending writes to the frame at `curTx` only. -/
lemma contains_send_of_ne (hlen : buf.length + 18 < 2 ^ 64) {addr : Nat} {l : List UInt8}
    (hc : s.buffer.Contains addr l) (hl : addr % frameSize + l.length ≤ frameSize)
    (hne : s.curTx ≠ frameOf addr) :
    (send lib ch s settings buf error).2.buffer.Contains addr l := by
  rw [send_buffer hlen]
  have hroom : 0 + (written ch buf).length ≤ frameSize := by
    rw [Nat.zero_add]
    exact length_written_le
  have hstored := contains_of_ne hc hl hne hroom
  rwa [Nat.add_zero] at hstored

/-- The frame of a message that is not too long is written as a whole. -/
lemma contains_send (hlen : buf.length + 18 < 2 ^ 64) (hfits : Fits ch buf) :
    (send lib ch s settings buf error).2.buffer.Contains (s.curTx * frameSize)
      (frame ch buf) := by
  rw [send_buffer hlen, written, if_pos hfits]
  exact Memory.contains_copyTo _ _ _

end

/-! ### The publisher -/

/-- A message that a frame has room for, and that is not taken for none at all. -/
def Proper (ch : SendChannel) (m : List UInt8) : Prop := Fits ch m ∧ m ≠ []

lemma Proper.length_frame_le {ch : SendChannel} {m : List UInt8} (h : Proper ch m) :
    (frame ch m).length ≤ frameSize := by
  rw [length_frame]
  exact h.1

lemma length_frame_pos (ch : SendChannel) (m : List UInt8) : 0 < (frame ch m).length := by
  rw [length_frame, headerSize, etherHeaderSize]
  omega

/-- The descriptors in flight are given by their numbers. -/
structure Numbered (p : Publisher) : Prop where
  posted : Posted p.sock.toXdpSock
  curTx : p.sock.curTx = p.sock.txRing.prod % noOfDesc
  addr : ∀ n d, p.InFlight n d → d.addr = n % noOfDesc * frameSize
  taken : ∀ d ∈ p.txHeld, d.1 < p.sock.txRing.cons

/-- `tx` are the messages that were submitted and not transmitted yet, the first `sent` having
been. -/
structure Sends (ch : SendChannel) (p : Publisher) (sent : Nat) (tx : List (List UInt8)) :
    Prop where
  numbered : Numbered p
  sent_le : sent ≤ p.sock.txRing.cons
  prod : p.sock.txRing.prod = sent + tx.length
  len : ∀ i d m, p.InFlight (sent + i) d → tx[i]? = some m → d.len = (frame ch m).length
  stored : ∀ i m, tx[i]? = some m → Proper ch m ∧
    p.sock.buffer.Contains ((sent + i) % noOfDesc * frameSize) (frame ch m)

/-- No descriptor is submitted. -/
structure Quiet (p p' : Publisher) : Prop where
  prod : p'.sock.txRing.prod = p.sock.txRing.prod
  cons_le : p.sock.txRing.cons ≤ p'.sock.txRing.cons
  curTx : p'.sock.curTx = p.sock.curTx
  inFlight : ∀ n d, p'.InFlight n d → p.InFlight n d
  taken : ∀ d ∈ p'.txHeld, d ∈ p.txHeld ∨ d.1 < p'.sock.txRing.cons

section

variable {lib : XskLib} {ch : SendChannel} {p p' : Publisher} {a : PublisherAct} {sent : Nat}
  {tx : List (List UInt8)}

/-- A message is sent, the kernel does something to the descriptors, or something happens on the
receiving side. -/
lemma Publisher.step_cases (h : p.step lib ch a = some p') :
    (∃ settings buf error, a = .send settings buf error ∧
      p' = { p with sock := (Plugin.send lib ch p.sock settings buf error).2 }) ∨
    ((∀ settings buf error, a ≠ .send settings buf error) ∧ Quiet p p' ∧
      p'.sock.toXdpSock = p.sock.toXdpSock) ∨
    (∃ b, a = .reception b ∧ Quiet p p' ∧
      Plugin.step lib ch.toChannel p.sock.toXdpSock b = some p'.sock.toXdpSock) := by
  cases a with
  | send settings buf error =>
    exact .inl ⟨settings, buf, error, rfl, (Option.some.inj h).symm⟩
  | txTake =>
    simp only [Publisher.step] at h
    split_ifs at h with hu
    obtain rfl := Option.some.inj h
    refine .inr (.inl ⟨by simp, ⟨rfl, Nat.le_succ _, rfl, fun n d hd => ?_, fun d hd => ?_⟩, rfl⟩)
    · rcases hd with ⟨hn, he⟩ | hd
      · exact .inl ⟨(Ring.holds_pop hu).mp hn |>.1, he⟩
      · rcases List.mem_append.mp hd with hd | hd
        · exact .inr hd
        · obtain ⟨rfl, rfl⟩ := Prod.mk.inj (List.mem_singleton.mp hd)
          exact .inl ⟨Ring.holds_cons hu, rfl⟩
    · rcases List.mem_append.mp hd with hd | hd
      · exact .inl hd
      · rw [List.mem_singleton.mp hd]
        exact .inr (Nat.lt_succ_self _)
  | txComplete j =>
    simp only [Publisher.step] at h
    split at h
    · cases h
    · next d hj =>
      split_ifs at h with hu
      obtain rfl := Option.some.inj h
      refine .inr (.inl ⟨by simp, ⟨rfl, le_rfl, rfl, fun n e he => ?_, fun e he => ?_⟩, rfl⟩)
      · exact he.imp_right List.mem_of_mem_eraseIdx
      · exact .inl (List.mem_of_mem_eraseIdx he)
  | reception b =>
    obtain ⟨s, hs, rfl⟩ := Option.map_eq_some_iff.mp h
    exact .inr (.inr ⟨b, rfl, ⟨rfl, le_rfl, rfl, fun _ _ hd => hd, fun _ hd => .inl hd⟩, hs⟩)

/-- What is in flight after a descriptor was submitted. -/
lemma inFlight_push {n : Nat} {d e : TxDesc} {sock : SendSock}
    (hslot : p.sock.txRing.used < noOfDesc) (htx : sock.txRing = p.sock.txRing.push e hslot)
    (h : ({ p with sock := sock } : Publisher).InFlight n d) :
    p.InFlight n d ∨ (n = p.sock.txRing.prod ∧ d = e) := by
  rcases h with ⟨hn, he⟩ | hd
  · rw [show ({ p with sock := sock } : Publisher).sock.txRing = _ from htx] at hn he
    rcases (Ring.holds_push hslot).mp hn with hn | rfl
    · rw [Ring.entry_push_of_holds hslot hn] at he
      exact .inl (.inl ⟨hn, he⟩)
    · rw [Ring.entry_push_self] at he
      exact .inr ⟨rfl, he.symm⟩
  · exact .inl (.inr hd)

lemma InFlight.lt_prod {n : Nat} {d : TxDesc} (hp : Numbered p) (h : p.InFlight n d) :
    n < p.sock.txRing.prod := by
  rcases h with ⟨hn, -⟩ | hd
  · exact hn.2
  · exact (hp.taken _ hd).trans_le p.sock.txRing.cons_le

lemma init_eq (h : (publisherLts lib ch).init p) :
    Posted p.sock.toXdpSock ∧ p.sock.txRing = .empty ⟨0, 0, none⟩ ∧ p.sock.curTx = 0 ∧
      p.txHeld = [] := by
  obtain ⟨⟨buffer, hsock⟩, hheld⟩ := h
  obtain ⟨x, hx, he⟩ := Option.map_eq_some_iff.mp hsock
  rw [← he]
  exact ⟨posted_init hx, rfl, rfl, hheld⟩

lemma not_inFlight_init (h : (publisherLts lib ch).init p) (n : Nat) (d : TxDesc) :
    ¬ p.InFlight n d := by
  obtain ⟨-, htx, -, hheld⟩ := init_eq h
  rintro (⟨hn, -⟩ | hd)
  · rw [htx] at hn
    exact absurd hn.2 (Nat.not_lt_zero _)
  · rw [hheld] at hd
    cases hd

lemma numbered_init (h : (publisherLts lib ch).init p) : Numbered p := by
  obtain ⟨hposted, htx, hcur, hheld⟩ := init_eq h
  refine ⟨hposted, ?_, fun n d hd => absurd hd (not_inFlight_init h n d), ?_⟩
  · rw [hcur, htx]
    rfl
  · rw [hheld]
    exact nofun

lemma Numbered.quiet (h : Numbered p) (hquiet : Quiet p p')
    (hposted : Posted p'.sock.toXdpSock) : Numbered p' := by
  refine ⟨hposted, ?_, fun n d hd => h.addr n d (hquiet.inFlight n d hd), fun d hd => ?_⟩
  · rw [hquiet.curTx, hquiet.prod]
    exact h.curTx
  · rcases hquiet.taken d hd with hd | hlt
    · exact (h.taken d hd).trans_le hquiet.cons_le
    · exact hlt

lemma Numbered.step (h : Numbered p) (hs : p.step lib ch a = some p') : Numbered p' := by
  obtain ⟨settings, buf, error, rfl, rfl⟩ | ⟨-, hquiet, hrx⟩ | ⟨b, rfl, hquiet, hrx⟩ :=
    Publisher.step_cases hs
  · obtain ⟨hfq, hheld⟩ := send_rx lib ch p.sock settings buf error
    have hposted : Posted (Plugin.send lib ch p.sock settings buf error).2.toXdpSock :=
      ⟨by rw [hfq]; exact h.posted.slot, by rw [hheld]; exact h.posted.held⟩
    obtain ⟨htx, hcur, -, -⟩ | ⟨-, hslot, htx, hcur⟩ :=
      send_cases lib ch p.sock settings buf error
    · refine ⟨hposted, ?_, fun n d hd => h.addr n d ?_, ?_⟩
      · rw [htx, hcur]
        exact h.curTx
      · rwa [Publisher.InFlight, htx] at hd
      · rw [htx]
        exact h.taken
    · refine ⟨hposted, ?_, fun n d hd => ?_, ?_⟩
      · rw [htx, hcur, h.curTx]
        exact Nat.mod_add_mod _ _ _
      · rcases inFlight_push hslot htx hd with hd | ⟨rfl, rfl⟩
        · exact h.addr n d hd
        · rw [h.curTx]
      · rw [htx]
        exact h.taken
  · exact h.quiet hquiet (hrx ▸ h.posted)
  · exact h.quiet hquiet (h.posted.step hrx)

lemma sends_init (h : (publisherLts lib ch).init p) : Sends ch p 0 [] := by
  obtain ⟨-, htx, -, -⟩ := init_eq h
  refine ⟨numbered_init h, Nat.zero_le _, ?_, nofun, nofun⟩
  rw [htx]
  rfl

/-- The frames that are still to be transmitted are not the one at `curTx`. -/
lemma Sends.curTx_ne (h : Sends ch p sent tx)
    (hroom : p.sock.txRing.prod < sent + noOfDesc) {i : Nat} (hi : i < tx.length) :
    p.sock.curTx ≠ (sent + i) % noOfDesc := by
  have hprod := h.prod
  rw [h.numbered.curTx]
  exact (Ring.mod_ne_mod (by omega) (by omega)).symm

/-- What is in the other frames, or stays in them, is still to be transmitted. -/
lemma Sends.quiet (h : Sends ch p sent tx) (hquiet : Quiet p p') (hn : Numbered p')
    (hbuffer : ∀ i m, tx[i]? = some m →
      p'.sock.buffer.Contains ((sent + i) % noOfDesc * frameSize) (frame ch m)) :
    Sends ch p' sent tx :=
  ⟨hn, h.sent_le.trans hquiet.cons_le, hquiet.prod.trans h.prod,
    fun i d m hd hm => h.len i d m (hquiet.inFlight _ d hd) hm,
    fun i m hm => ⟨(h.stored i m hm).1, hbuffer i m hm⟩⟩

/-- A message is submitted, or what is to be transmitted stays as it is. -/
lemma Sends.send (h : Sends ch p sent tx) (lib : XskLib) (settings : EtfSettings)
    {buf : List UInt8} (error : Option Errno) (hroom : p.sock.txRing.prod < sent + noOfDesc)
    (hne : buf ≠ []) (hlen : buf.length + 18 < 2 ^ 64) :
    Sends ch { p with sock := (Plugin.send lib ch p.sock settings buf error).2 } sent
      (if p.sock.txRing.prod < (Plugin.send lib ch p.sock settings buf error).2.txRing.prod then
        tx ++ [buf] else tx) := by
  have hstep : p.step lib ch (.send settings buf error) =
      some { p with sock := (Plugin.send lib ch p.sock settings buf error).2 } := rfl
  have hnumbered := h.numbered.step hstep
  -- the frames submitted before are spared
  have hbefore {i : Nat} {m : List UInt8} (hm : tx[i]? = some m) :
      (Plugin.send lib ch p.sock settings buf error).2.buffer.Contains
        ((sent + i) % noOfDesc * frameSize) (frame ch m) := by
    obtain ⟨hproper, hc⟩ := h.stored i m hm
    apply contains_send_of_ne hlen hc
    · rw [Nat.mul_mod_left, Nat.zero_add]
      exact hproper.length_frame_le
    · rw [frameOf, Nat.mul_div_cancel _ (by decide)]
      exact h.curTx_ne hroom (List.getElem?_eq_some_iff.mp hm).1
  obtain ⟨htx, -, -, -⟩ | ⟨hle, hslot, htx, -⟩ := send_cases lib ch p.sock settings buf error
  · rw [htx, if_neg (Nat.lt_irrefl _)]
    refine ⟨hnumbered, htx ▸ h.sent_le, htx ▸ h.prod, fun i d m hd hm => h.len i d m ?_ hm,
      fun i m hm => ⟨(h.stored i m hm).1, hbefore hm⟩⟩
    rwa [Publisher.InFlight, htx] at hd
  · rw [htx, Ring.push_prod, if_pos (Nat.lt_succ_self _)]
    have hfits : Fits ch buf := (lenBuf_le_iff hlen).mp hle
    refine ⟨hnumbered, htx ▸ h.sent_le, ?_, fun i d m hd hm => ?_, fun i m hm => ?_⟩
    · rw [htx, Ring.push_prod, h.prod, List.length_append, Nat.add_assoc]
      rfl
    · rcases inFlight_push hslot htx hd with hd | ⟨hi, rfl⟩
      · have hlt := InFlight.lt_prod h.numbered hd
        rw [h.prod, Nat.add_lt_add_iff_left] at hlt
        rw [List.getElem?_append_left hlt] at hm
        exact h.len i d m hd hm
      · obtain rfl : i = tx.length := Nat.add_left_cancel (hi.trans h.prod)
        rw [List.getElem?_concat_length] at hm
        obtain rfl := Option.some.inj hm
        rw [lenBuf_eq hlen]
        apply Nat.mod_eq_of_lt
        rw [length_frame]
        exact Nat.lt_of_le_of_lt hfits (by decide)
    · rcases Lts.getElem?_concat hm with hm | ⟨rfl, rfl⟩
      · exact ⟨(h.stored i m hm).1, hbefore hm⟩
      · have hwritten : (Plugin.send lib ch p.sock settings m error).2.buffer.Contains
            (p.sock.curTx * frameSize) (frame ch m) := contains_send hlen hfits
        rw [h.numbered.curTx, h.prod] at hwritten
        exact ⟨⟨hfits, hne⟩, hwritten⟩

/-- What happens on the receiving side spares the messages that are to be transmitted. -/
lemma Sends.reception (h : Sends ch p sent tx) {b : Act} (hquiet : Quiet p p')
    (hs : Plugin.step lib ch.toChannel p.sock.toXdpSock b = some p'.sock.toXdpSock)
    (hspares : ∀ j offset packet, b = .rxDeliver j offset packet →
      ∀ addr ∈ p.sock.rxHeld[j]?, ∀ n, sent ≤ n → n < p.sock.txRing.prod →
        frameOf addr ≠ n % noOfDesc) : Sends ch p' sent tx := by
  apply h.quiet hquiet (h.numbered.quiet hquiet (h.numbered.posted.step hs))
  intro i m hm
  obtain ⟨hproper, hc⟩ := h.stored i m hm
  obtain ⟨allocated, select, -, hx⟩ | ⟨-, hu, hx⟩ |
      ⟨j, offset, packet, addr, rfl, hj, hroom, hu, hx⟩ := step_cases hs
  · rw [hx, (subscribeCallback_frame lib ch.toChannel _ allocated select).2.2]
    exact hc
  · rw [hx]
    exact hc
  · have hlt : sent + i < p.sock.txRing.prod := by
      rw [h.prod]
      exact Nat.add_lt_add_left (List.getElem?_eq_some_iff.mp hm).1 sent
    obtain ⟨n, rfl⟩ := h.numbered.posted.held addr (List.mem_of_getElem? hj)
    have hne := hspares j offset packet rfl _ hj (sent + i) (Nat.le_add_right _ _) hlt
    rw [frameOf, Nat.mul_div_cancel _ (by decide)] at hne
    rw [hx]
    apply contains_of_ne hc
    · rw [Nat.mul_mod_left, Nat.zero_add]
      exact hproper.length_frame_le
    · rwa [frameOf, Nat.mul_div_cancel _ (by decide)]
    · exact hroom

/-- What is transmitted next is the frame of the oldest message. -/
lemma Sends.transmit (h : Sends ch p sent tx) {d : TxDesc} (hd : (sent, d) ∈ p.txHeld) :
    ∃ m rest, tx = m :: rest ∧ Proper ch m ∧
      p.sock.buffer.bytes d.addr d.len = frame ch m ∧ Sends ch p (sent + 1) rest := by
  have hlt : sent < p.sock.txRing.cons := h.numbered.taken _ hd
  have hprod := h.prod
  have hle := p.sock.txRing.cons_le
  obtain ⟨m, rest, rfl⟩ : ∃ m rest, tx = m :: rest :=
    List.exists_cons_of_ne_nil fun hnil => by simp [hnil] at hprod; omega
  obtain ⟨hproper, hc⟩ := h.stored 0 m rfl
  refine ⟨m, rest, rfl, hproper, ?_, h.numbered, hlt, ?_, fun i e m' he hm' => ?_,
    fun i m' hm' => ?_⟩
  · rw [h.len 0 d m (.inr hd) rfl, h.numbered.addr sent d (.inr hd)]
    exact hc.bytes_eq
  · rw [hprod, List.length_cons]
    omega
  · rw [Nat.add_assoc, Nat.add_comm 1] at he
    exact h.len (i + 1) e m' he hm'
  · rw [Nat.add_assoc, Nat.add_comm 1]
    exact h.stored (i + 1) m' hm'

/-- The oldest descriptor on the TX ring. -/
def Publisher.oldest (p : Publisher) : TxDesc := p.sock.txRing.entry p.sock.txRing.cons

/-- Where the TX ring is full, `send` reports an error; but it has written its frame, or the
header of one that is too long, over the frame of the oldest descriptor on the ring. The descriptor
keeps its length: what will be transmitted for it is the beginning of what was written, and behind
it what is left of the old frame. -/
theorem send_full {tr : List (Publisher × PublisherAct)} (h : (publisherLts lib ch).Run tr p)
    (settings : EtfSettings) {buf : List UInt8} (error : Option Errno)
    (hlen : buf.length + 18 < 2 ^ 64) (hfull : p.sock.txRing.used = noOfDesc) :
    (send lib ch p.sock settings buf error).1 = .badInternalError ∧
      (send lib ch p.sock settings buf error).2.txRing = p.sock.txRing ∧
      (send lib ch p.sock settings buf error).2.buffer.bytes p.oldest.addr p.oldest.len =
        (written ch buf).take p.oldest.len ++
          (p.sock.buffer.bytes p.oldest.addr p.oldest.len).drop (written ch buf).length := by
  have hnumbered : Numbered p :=
    h.invariant (fun _ => numbered_init) (fun _ _ _ hI hs => hI.step hs)
  obtain ⟨htx, -, hstatus, -⟩ | ⟨-, hslot, -, -⟩ := send_cases lib ch p.sock settings buf error
  · have hused : 0 < p.sock.txRing.used := by
      rw [hfull]
      decide
    have holdest : p.InFlight p.sock.txRing.cons p.oldest := .inl ⟨Ring.holds_cons hused, rfl⟩
    have hcur : p.sock.curTx = p.sock.txRing.cons % noOfDesc := by
      rw [hnumbered.curTx, Ring.prod_eq, hfull, Nat.add_mod_right]
    refine ⟨hstatus, htx, ?_⟩
    rw [send_buffer hlen, hcur, ← hnumbered.addr _ _ holdest, Memory.bytes_copyTo]
  · exact absurd hfull hslot.ne

end

section Full

private def untagged : SendChannel where
  vid := 0
  targetAddress := #v[0x01, 0x00, 0x5e, 0x00, 0x00, 0x06]
  prio := 0
  ifAddress := #v[0x22, 0xbb, 0x22, 0xbb, 0x22, 0x06]

/-- The publisher as it was set up. -/
private def unused : Publisher where
  sock := {
    buffer := fun _ => 0
    rxRing := .empty ⟨0, 0⟩
    rxReleased := 0
    fq := .full fun i => i * noOfDesc
    fqSubmitted := noOfDesc
    rxNpkts := 0
    rxHeld := []
    txRing := .empty ⟨0, 0, none⟩
    cq := .empty 0
    curTx := 0
    outstandingTx := 0
    txNpkts := 0
    curTx_lt := frameSize_pos }
  txHeld := []

private lemma unused_init : (publisherLts .reference untagged).init unused := by
  refine ⟨⟨fun _ => 0, ?_⟩, rfl⟩
  rw [xskConfigureSend, xskConfigure, xdpUmemConfigure, if_pos]
  · rfl
  · exact (XskLib.reference.reserve_eq_iff _ (by decide)).mpr le_rfl

/-- Messages of one byte are sent until the ring is full. -/
private lemma exists_used {n : Nat} (hn : n ≤ noOfDesc) :
    ∃ tr p, (publisherLts .reference untagged).Run tr p ∧ p.sock.txRing.used = n ∧
      ∀ m, p.sock.txRing.Holds m → (p.sock.txRing.entry m).len = 15 := by
  induction n with
  | zero => exact ⟨[], unused, .init unused_init, rfl, fun m hm => absurd hm.2 (Nat.not_lt_zero m)⟩
  | succ n ih =>
    obtain ⟨tr, p, hrun, hused, hlen⟩ := ih (Nat.le_of_succ_le hn)
    refine ⟨_, _, hrun.step (a := .send ⟨false, 0⟩ [7] none) rfl, ?_⟩
    obtain ⟨-, -, -, hslot⟩ | ⟨-, hslot, htx, -⟩ :=
      send_cases .reference untagged p.sock ⟨false, 0⟩ [7] none
    · exact absurd ⟨by decide, by omega⟩ hslot
    · show (send .reference untagged p.sock ⟨false, 0⟩ [7] none).2.txRing.used = n + 1 ∧ ∀ m,
        (send .reference untagged p.sock ⟨false, 0⟩ [7] none).2.txRing.Holds m → _
      rw [htx, Ring.used_push, hused]
      refine ⟨rfl, fun m hm => ?_⟩
      rcases (Ring.holds_push hslot).mp hm with hm | rfl
      · rw [Ring.entry_push_of_holds hslot hm]
        exact hlen m hm
      · rw [Ring.entry_push_self]
        show lenBuf untagged [7] % 2 ^ 32 = 15
        decide

/-- After 2048 messages of one byte that the kernel did not take, of one more with three bytes the
first is transmitted in place of the oldest. -/
theorem send_full_untagged :
    ∃ tr p, (publisherLts .reference untagged).Run tr p ∧ p.sock.txRing.used = noOfDesc ∧
      (send .reference untagged p.sock ⟨false, 0⟩ [9, 8, 8] none).2.buffer.bytes p.oldest.addr
        p.oldest.len = frame untagged [9] := by
  obtain ⟨tr, p, hrun, hused, hlen⟩ := exists_used le_rfl
  have hpos : 0 < p.sock.txRing.used := by
    rw [hused]
    decide
  have holdest : p.oldest.len = 15 := hlen _ (Ring.holds_cons hpos)
  refine ⟨tr, p, hrun, hused, ?_⟩
  have hlength : (p.sock.buffer.bytes p.oldest.addr p.oldest.len).length ≤
      (written untagged [9, 8, 8]).length := by
    rw [Memory.length_bytes, holdest]
    decide
  rw [(send_full hrun ⟨false, 0⟩ none (by decide) hused).2.2, List.drop_eq_nil_of_le hlength,
    List.append_nil, holdest]
  decide

end Full

end Plugin

end TsnRefSw
