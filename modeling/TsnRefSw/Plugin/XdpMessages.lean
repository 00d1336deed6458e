import TsnRefSw.Plugin.XdpSend

/-!
# Messages between the AF_XDP plugins

What `receive` returns for the frame of a message is the message. For other frames it finds the
ethertype where the frame has it, but the message where the frames of the channel have it.
-/

namespace TsnRefSw

open Core

namespace Plugin

open Txrx (XskLib RxDesc)

/-! ### Parts of frames -/

/-- The number in two bytes of a frame, most significant first. -/
def etherType (packet : List UInt8) (i : Nat) : Option Nat :=
  packet[i]?.bind fun a => packet[i + 1]?.map fun b => a.toNat * 256 + b.toNat

/-- What follows the UADP ethertype of a frame, with or without a VLAN tag before it. -/
def uadpPart (packet : List UInt8) : Option (List UInt8) :=
  if etherType packet 12 = some ethertypeUadp then some (packet.drop 14)
  else if etherType packet 12 = some ethertypeVlan ∧ etherType packet 16 = some ethertypeUadp then
    some (packet.drop 18)
  else none

/-- The frame is as the channel expects it: it has a tag if the channel has a VLAN, and the whole
header. -/
def Shaped (ch : Channel) (packet : List UInt8) : Prop :=
  headerSize ch ≤ packet.length ∧ (0 < ch.vid → etherType packet 12 = some ethertypeVlan)

instance (ch : Channel) (packet : List UInt8) : Decidable (Shaped ch packet) :=
  inferInstanceAs (Decidable (_ ∧ _))

lemma etherType_eq_some {packet : List UInt8} {i v : Nat} (h : etherType packet i = some v) :
    i + 2 ≤ packet.length := by
  obtain ⟨a, -, hb⟩ := Option.bind_eq_some_iff.mp h
  obtain ⟨b, hb, -⟩ := Option.map_eq_some_iff.mp hb
  exact (List.getElem?_eq_some_iff.mp hb).1

/-- The ethertype is what the plugin compares in the order of the network. -/
lemma etherType_iff {m : Memory} {a i v : Nat} {packet : List UInt8} (h : m.Contains a packet)
    (hi : i + 2 ≤ packet.length) (hv : v < 2 ^ 16) :
    etherType packet i = some v ↔ m.readLe (a + i) 2 = htons v := by
  have h₀ := h i (by omega)
  have h₁ := h (i + 1) (by omega)
  have hlt₀ := (m (a + i)).toNat_lt
  have hlt₁ := (m (a + (i + 1))).toNat_lt
  have hread : m.readLe (a + i) 2 = (m (a + i)).toNat + 256 * (m (a + (i + 1))).toNat := rfl
  have htype : etherType packet i =
      some ((m (a + i)).toNat * 256 + (m (a + (i + 1))).toNat) := by
    rw [h₀, h₁]
    simp [etherType, show i < packet.length by omega, show i + 1 < packet.length by omega]
  rw [htype, hread, htons, Option.some_inj]
  omega

/-! ### One call -/

section

variable (lib : XskLib) (ch : Channel) (s : XdpSock) (message : ByteString) (timeout : Nat)
  (select : Int)

/-- The descriptor that is looked at next. -/
def XdpSock.next : RxDesc := s.rxRing.entry s.rxRing.cons

/-- The frame that is looked at next. -/
def incoming : List UInt8 := s.buffer.bytes s.next.addr s.next.len

/-- There is a frame to look at, and room to give it back. -/
def Examined : Prop :=
  ¬ (0 < timeout ∧ select = 0) ∧ ¬ (0 < timeout ∧ select = -1) ∧ 0 < s.rxRing.used ∧
    s.fq.used < noOfDesc

/-- The tests of the ethertype and the destination. -/
def Passes : Prop :=
  pktProto ch s.buffer s.next.addr = htons ethertypeUadp ∧ TargetMatches ch s.buffer s.next.addr

instance : Decidable (Passes ch s) := inferInstanceAs (Decidable (_ ∧ _))

/-- What is returned is the part of the frame behind its ethertype. -/
def ReturnsPart : Prop :=
  (receive lib ch s message timeout select).1 = .good →
    ∃ part, uadpPart (incoming s) = some part ∧
      (receive lib ch s message timeout select).2.1.data =
        s.next.addr + ((incoming s).length - part.length) ∧
      (receive lib ch s message timeout select).2.1.length.toNat = part.length

/-- The frame of a message that a channel with the same configuration sent is received as that
message. -/
def Inverse : Prop :=
  ∀ (sendLib : XskLib) (c : SendChannel) (t : SendSock) (settings : EtfSettings) (buf : List UInt8)
    (error : Option Errno), c.toChannel = ch → Fits c buf → t.txRing.used < noOfDesc →
    incoming s = submittedFrame t (send sendLib c t settings buf error).2 →
    Examined s timeout select →
      (receive lib ch s message timeout select).1 = .good ∧
      (receive lib ch s message timeout select).2.1.length.toNat = buf.length ∧
      s.buffer.Contains (receive lib ch s message timeout select).2.1.data buf

variable {lib ch s message timeout select}

/-- A message is returned if and only if there is a frame that passes the tests. -/
lemma receive_cases :
    ((receive lib ch s message timeout select).1 = .good ∧
        (receive lib ch s message timeout select).2.1 = payload ch s.next ∧
        Examined s timeout select ∧ Passes ch s) ∨
      ((receive lib ch s message timeout select).1 ≠ .good ∧
        ¬ (Examined s timeout select ∧ Passes ch s)) := by
  rw [receive]
  dsimp only
  split_ifs with htimeout herror hrx hfq hproto htarget
  · exact .inr ⟨by simp, fun h => h.1.1 htimeout⟩
  · exact .inr ⟨by simp, fun h => h.1.2.1 herror⟩
  · exact .inr ⟨by simp, fun h => hproto h.2.1⟩
  · exact .inl ⟨rfl, rfl, ⟨htimeout, herror, lib.peek_one_iff.mp hrx, lib.reserve_one_iff.mp hfq⟩,
      not_not.mp hproto, htarget⟩
  · exact .inr ⟨by simp, fun h => htarget h.2.2⟩
  · exact .inr ⟨by simp, fun h => hfq (lib.reserve_one_iff.mpr h.1.2.2.2)⟩
  · exact .inr ⟨by simp, fun h => hrx (lib.peek_one_iff.mpr h.1.2.2.1)⟩

lemma receive_good_iff :
    (receive lib ch s message timeout select).1 = .good ↔
      Examined s timeout select ∧ Passes ch s := by
  rcases receive_cases with ⟨hgood, -, h⟩ | ⟨hgood, h⟩
  · exact iff_of_true hgood h
  · exact iff_of_false hgood h

lemma receive_message (h : (receive lib ch s message timeout select).1 = .good) :
    (receive lib ch s message timeout select).2.1 = payload ch s.next := by
  rcases receive_cases with ⟨-, hmessage, -⟩ | ⟨hgood, -⟩
  · exact hmessage
  · exact absurd h hgood

lemma length_incoming : (incoming s).length = s.next.len := Memory.length_bytes _ _ _

lemma contains_incoming : s.buffer.Contains s.next.addr (incoming s) := Memory.contains_bytes _ _ _

lemma payload_data (d : RxDesc) : (payload ch d).data = d.addr + headerSize ch := by
  rw [payload, headerSize]
  split_ifs with hvid
  · rfl
  · rfl

lemma toNat_sub_ofNat {n k : Nat} (hn : n < 2 ^ 64) (h : k ≤ n) :
    (UInt64.ofNat n - UInt64.ofNat k).toNat = n - k := by
  have hk : k < 2 ^ 64 := h.trans_lt hn
  rw [UInt64.toNat_sub_of_le, UInt64.toNat_ofNat_of_lt' hn, UInt64.toNat_ofNat_of_lt' hk]
  rw [UInt64.le_iff_toNat_le, UInt64.toNat_ofNat_of_lt' hn, UInt64.toNat_ofNat_of_lt' hk]
  exact h

/-- The length is right if the frame has the whole header. -/
lemma toNat_length_payload {d : RxDesc} (hlen : d.len < 2 ^ 32) (h : headerSize ch ≤ d.len) :
    (payload ch d).length.toNat = d.len - headerSize ch := by
  have hlen' : d.len < 2 ^ 64 := hlen.trans (by decide)
  rw [payload]
  rw [headerSize] at h ⊢
  split_ifs at h ⊢ with hvid
  · have hlt : d.len - etherHeaderSize < 2 ^ 64 := (Nat.sub_le _ _).trans_lt hlen'
    have hether : UInt64.ofNat d.len - UInt64.ofNat etherHeaderSize =
        UInt64.ofNat (d.len - etherHeaderSize) := by
      apply UInt64.toNat_inj.mp
      rw [toNat_sub_ofNat hlen' (by omega), UInt64.toNat_ofNat_of_lt' hlt]
    show (UInt64.ofNat d.len - UInt64.ofNat etherHeaderSize - UInt64.ofNat 4).toNat = _
    rw [hether, toNat_sub_ofNat hlt (by omega), Nat.sub_sub]
  · exact toNat_sub_ofNat hlen' h

/-! ### Messages sent by the plugin -/

/-- The frame of a message passes the tests of a channel with the same configuration. -/
lemma passes_of_frame {c : SendChannel} {buf : List UInt8}
    (h : s.buffer.Contains s.next.addr (frame c buf)) : Passes c.toChannel s := by
  have haddresses := h.left
  have htypes := h.right.left
  rw [length_addresses] at htypes
  constructor
  · rw [pktProto]
    rw [ethertypes] at htypes
    by_cases hvid : 0 < c.vid
    · rw [if_pos hvid] at htypes
      have hvlan := htypes.left.readLe
      have huadp := htypes.right.right.readLe
      rw [leBytes_length, leBytes_length] at huadp
      rw [if_pos ⟨hvid, hvlan⟩]
      exact huadp
    · rw [if_neg hvid] at htypes
      rw [if_neg fun hboth => hvid hboth.1]
      exact htypes.readLe
  · intro i
    have hi := haddresses.left i.1 (by simp)
    rw [hi]
    simp

/-- What a channel with the same configuration sent is received as it was. -/
lemma inverse : Inverse lib ch s message timeout select := by
  rintro sendLib c t settings buf error rfl hfits hslot hsent hexamined
  rw [submittedFrame_send sendLib t settings error hfits hslot] at hsent
  have hcontains := contains_incoming (s := s)
  rw [hsent] at hcontains
  have hlen : s.next.len = headerSize c.toChannel + buf.length := by
    rw [← length_incoming, hsent, length_frame]
  have hgood : (receive lib c.toChannel s message timeout select).1 = .good :=
    receive_good_iff.mpr ⟨hexamined, passes_of_frame hcontains⟩
  have hfits' : headerSize c.toChannel + buf.length ≤ 2048 := hfits
  rw [receive_message hgood]
  refine ⟨hgood, ?_, ?_⟩
  · rw [toNat_length_payload (by omega) (by omega), hlen, Nat.add_sub_cancel_left]
  · rw [payload_data, ← length_ethertypes]
    rw [frame, ← List.append_assoc] at hcontains
    exact hcontains.right

/-! ### Other frames -/

lemma ethertypeUadp_ne_vlan : ethertypeUadp ≠ ethertypeVlan := by decide

/-- What is found behind an ethertype stands where the header ends. -/
lemma uadpPart_cases {packet part : List UInt8} (h : uadpPart packet = some part) :
    (part = packet.drop 14 ∧ 14 ≤ packet.length) ∨
      (part = packet.drop 18 ∧ 18 ≤ packet.length ∧
        etherType packet 12 = some ethertypeVlan) := by
  rw [uadpPart] at h
  split_ifs at h with huadp hvlan
  · exact .inl ⟨(Option.some.inj h).symm, etherType_eq_some huadp⟩
  · exact .inr ⟨(Option.some.inj h).symm, etherType_eq_some hvlan.2, hvlan.1⟩

/-- A frame that passes the tests and is as the channel expects it has its message where the channel
looks for it. -/
lemma uadpPart_of_shaped (hpasses : Passes ch s) (hshaped : Shaped ch (incoming s)) :
    uadpPart (incoming s) = some ((incoming s).drop (headerSize ch)) := by
  obtain ⟨hlength, hvlan⟩ := hshaped
  have hcontains := contains_incoming (s := s)
  have hproto := hpasses.1
  rw [pktProto] at hproto
  rw [headerSize] at hlength ⊢
  by_cases hvid : 0 < ch.vid
  · rw [if_pos hvid] at hlength ⊢
    have htag := hvlan hvid
    have htag' := (etherType_iff hcontains (etherType_eq_some htag) (by decide)).mp htag
    rw [if_pos ⟨hvid, htag'⟩] at hproto
    have huadp := (etherType_iff hcontains hlength (by decide)).mpr hproto
    rw [uadpPart, if_neg, if_pos ⟨htag, huadp⟩]
    · rfl
    · rw [htag, Option.some_inj]
      exact ethertypeUadp_ne_vlan.symm
  · rw [if_neg hvid] at hlength ⊢
    rw [if_neg fun hboth => hvid hboth.1] at hproto
    have huadp := (etherType_iff hcontains hlength (by decide)).mpr hproto
    rw [uadpPart, if_pos huadp]
    rfl

/-- What is returned is the right part of the frame just when the frame is as the channel expects
it. -/
lemma returnsPart_iff (hlen : s.next.len < 2 ^ 32) :
    ReturnsPart lib ch s message timeout select ↔
      (Examined s timeout select → Passes ch s → Shaped ch (incoming s)) := by
  constructor
  · intro h hexamined hpasses
    have hgood : (receive lib ch s message timeout select).1 = .good :=
      receive_good_iff.mpr ⟨hexamined, hpasses⟩
    obtain ⟨part, hpart, hdata, -⟩ := h hgood
    rw [receive_message hgood, payload_data, Nat.add_left_cancel_iff] at hdata
    rcases uadpPart_cases hpart with ⟨rfl, hlength⟩ | ⟨rfl, hlength, hvlan⟩
    · rw [List.length_drop, Nat.sub_sub_self hlength] at hdata
      refine ⟨hdata ▸ hlength, fun hvid => ?_⟩
      rw [headerSize, if_pos hvid] at hdata
      exact absurd hdata (by decide)
    · rw [List.length_drop, Nat.sub_sub_self hlength] at hdata
      exact ⟨hdata ▸ hlength, fun _ => hvlan⟩
  · intro h hgood
    obtain ⟨hexamined, hpasses⟩ := receive_good_iff.mp hgood
    have hshaped := h hexamined hpasses
    have hlength : headerSize ch ≤ s.next.len := length_incoming (s := s) ▸ hshaped.1
    refine ⟨_, uadpPart_of_shaped hpasses hshaped, ?_, ?_⟩
    · rw [receive_message hgood, payload_data, List.length_drop, Nat.sub_sub_self hshaped.1]
    · rw [receive_message hgood, toNat_length_payload hlen hlength, List.length_drop,
        length_incoming]

/-- Messages of channels with the same configuration are received as they were sent; and what is
returned for a frame is the part behind its ethertype, if and only if the frames that pass the
tests have the whole header, with a tag if the channel has a VLAN. -/
theorem receive_exact_iff (lib : XskLib) (ch : Channel) (s : XdpSock) (message : ByteString)
    (timeout : Nat) (select : Int) (hlen : s.next.len < 2 ^ 32) :
    Inverse lib ch s message timeout select ∧ ReturnsPart lib ch s message timeout select ↔
      (Examined s timeout select → Passes ch s → Shaped ch (incoming s)) := by
  rw [and_iff_right inverse]
  exact returnsPart_iff hlen

end

section Frames

/-- A socket that was set up, with a packet in the first frame the kernel took. -/
private def holding (packet : List UInt8) : XdpSock where
  buffer := Memory.copyTo (fun _ => 0) 256 packet
  rxRing := (Ring.empty ⟨0, 0⟩).push ⟨256, packet.length⟩ (by decide)
  rxReleased := 0
  fq := (Ring.full fun i => i * noOfDesc).pop (by decide)
  fqSubmitted := noOfDesc
  rxNpkts := 0
  rxHeld := []

private def multicast : Channel := ⟨5, #v[0x01, 0x00, 0x5e, 0x00, 0x00, 0x05]⟩

private def tagging : SendChannel :=
  { toChannel := multicast
    prio := 3
    ifAddress := #v[0x22, 0xbb, 0x22, 0xbb, 0x22, 0xcc] }

/-- A socket that has sent nothing. -/
private def silent : SendSock :=
  { holding [] with
    txRing := .empty ⟨0, 0, none⟩
    cq := .empty 0
    curTx := 0
    outstandingTx := 0
    txNpkts := 0
    curTx_lt := by decide }

/-- What goes out for the message 7, 8, 9. -/
private def outgoing : List UInt8 :=
  submittedFrame silent (send .reference tagging silent ⟨false, 0⟩ [7, 8, 9] none).2

/-- The message is sent, and its frame is received. -/
theorem receive_exact_iff_tagged :
    (receive .reference multicast (holding outgoing) ⟨0, 512⟩ 1000 1).1 = .good ∧
      (receive .reference multicast (holding outgoing) ⟨0, 512⟩ 1000 1).2.1.length.toNat = 3 ∧
      (holding outgoing).buffer.Contains
        (receive .reference multicast (holding outgoing) ⟨0, 512⟩ 1000 1).2.1.data [7, 8, 9] ∧
      ReturnsPart .reference multicast (holding outgoing) ⟨0, 512⟩ 1000 1 := by
  have hshaped : Shaped multicast (incoming (holding outgoing)) := by decide +kernel
  have hsent : incoming (holding outgoing) = outgoing := by decide +kernel
  obtain ⟨hinverse, hpart⟩ := (receive_exact_iff .reference multicast (holding outgoing) ⟨0, 512⟩
    1000 1 (by decide +kernel)).mpr fun _ _ => hshaped
  obtain ⟨hgood, hlength, hmessage⟩ := hinverse .reference tagging silent ⟨false, 0⟩ [7, 8, 9] none
    rfl (by decide) (by decide) hsent
    ⟨by decide, by decide, by decide +kernel, by decide +kernel⟩
  exact ⟨hgood, hlength, hmessage, hpart⟩

/-- From an untagged frame a channel with a VLAN returns what stands four bytes behind the
message. -/
theorem not_receive_exact :
    ¬ ∀ (lib : XskLib) (ch : Channel) (s : XdpSock) (message : ByteString) (timeout : Nat)
      (select : Int), s.next.len < 2 ^ 32 →
        Inverse lib ch s message timeout select ∧ ReturnsPart lib ch s message timeout select := by
  intro h
  obtain ⟨part, hpart, hdata, -⟩ := (h .reference multicast
    (holding [0x01, 0x00, 0x5e, 0x00, 0x00, 0x05, 0x22, 0xbb, 0x22, 0xbb, 0x22, 0xbb, 0xb6, 0x2c,
      1, 2, 3, 4, 5, 6, 7]) ⟨0, 512⟩ 1000 1 (by decide +kernel)).2 (by decide +kernel)
  have hmessage : part = [1, 2, 3, 4, 5, 6, 7] := by
    apply Option.some.inj
    rw [← hpart]
    decide +kernel
  subst hmessage
  revert hdata
  decide +kernel

end Frames

end Plugin

end TsnRefSw
