import Mathlib.Tactic.Common
import TsnRefSw.Core.Bytes
import TsnRefSw.Core.Lts
import TsnRefSw.Txrx.Afxdp.Xsk

/-!
# Receiving in the AF_XDP plugin

A packet is taken off the RX ring and a slot of the fill ring is reserved by `receive`, but both
are given back by `release`, which the subscribe callback calls only when `receive` returned a
message. Between the two stand the checks of the ethertype and of the destination address: a
frame that fails them is never given back.
-/

namespace TsnRefSw

open Core

namespace Plugin

open Txrx (XskLib RxDesc)

/-- `ETHERTYPE_UADP`. -/
def ethertypeUadp : Nat := 0xb62c

/-- `ETHERTYPE_VLAN`. -/
def ethertypeVlan : Nat := 0x8100

/-- `sizeof(struct ether_header)`. -/
def etherHeaderSize : Nat := 14

/-- Swaps the two bytes. -/
def htons (n : Nat) : Nat := n % 256 * 256 + n / 256

/-- The number of descriptors in each ring, in `default_values`. -/
def noOfDesc : Nat := 2048

/-- The frame size in `default_values`. -/
def frameSize : Nat := 2048

/-- `UA_PubSubChannelDataEthernetXDP` with its connection's buffer length, as far as `receive`
looks at it. -/
structure Channel where
  vid : UInt16
  targetAddress : Vector UInt8 6

/-- `xdpsock` with its `xdp_umem`, and what the kernel holds. The user sees the RX ring from the
packet it peeks next, the fill ring up to the slot it reserves next; the kernel sees what was
released and submitted. -/
structure XdpSock where
  buffer : Memory
  rxRing : Ring RxDesc noOfDesc
  rxReleased : Nat
  fq : Ring Nat noOfDesc
  fqSubmitted : Nat
  rxNpkts : UInt64
  /-- The addresses the kernel has taken from the fill ring and not yet used. -/
  rxHeld : List Nat

/-- The fill ring of `xdp_umem_configure()`. -/
def xdpUmemConfigure (lib : XskLib) : Option (Ring Nat noOfDesc) :=
  if lib.xskRingProdReserve (.empty 0 : Ring Nat noOfDesc) noOfDesc = noOfDesc then
    some (.full fun i => i * noOfDesc)
  else none

/-- `xsk_configure()`, on a buffer with arbitrary contents. -/
def xskConfigure (lib : XskLib) (buffer : Memory) : Option XdpSock :=
  (xdpUmemConfigure lib).map fun fq =>
    { buffer := buffer
      rxRing := .empty ⟨0, 0⟩
      rxReleased := 0
      fq := fq
      fqSubmitted := noOfDesc
      rxNpkts := 0
      rxHeld := [] }

/-- The status codes of `receive`. -/
inductive Status where
  | good
  | goodNoData
  | goodNonCriticalTimeout
  | badInternalError
deriving DecidableEq, Repr

/-- `UA_ByteString`; the data is given by its address. -/
structure ByteString where
  data : Nat
  length : UInt64
deriving DecidableEq, Repr

/-- The protocol field of the packet at `pkt`, behind the VLAN tag if there may be one. -/
def pktProto (ch : Channel) (buffer : Memory) (pkt : Nat) : Nat :=
  if 0 < ch.vid ∧ buffer.readLe (pkt + 12) 2 = htons ethertypeVlan then
    buffer.readLe (pkt + 16) 2
  else buffer.readLe (pkt + 12) 2

/-- The destination of the packet is the channel's target. -/
def TargetMatches (ch : Channel) (buffer : Memory) (pkt : Nat) : Prop :=
  ∀ i : Fin 6, buffer (pkt + i) = ch.targetAddress[i]

instance (ch : Channel) (buffer : Memory) (pkt : Nat) : Decidable (TargetMatches ch buffer pkt) :=
  inferInstanceAs (Decidable (∀ _, _))

/-- The message in a packet. -/
def payload (ch : Channel) (d : RxDesc) : ByteString :=
  let data := d.addr + etherHeaderSize
  let length := UInt64.ofNat d.len - UInt64.ofNat etherHeaderSize
  if 0 < ch.vid then ⟨data + 4, length - 4⟩ else ⟨data, length⟩

/-- `UA_PubSubChannelEthernetXDP_receive()`; `select` is what `UA_select()` returns. -/
def receive (lib : XskLib) (ch : Channel) (s : XdpSock) (message : ByteString) (timeout : Nat)
    (select : Int) : Status × ByteString × XdpSock :=
  let message := { message with length := 0 }
  if 0 < timeout ∧ select = 0 then (.goodNonCriticalTimeout, message, s)
  else if 0 < timeout ∧ select = -1 then (.badInternalError, message, s)
  else if hp : lib.xskRingConsPeek s.rxRing 1 = 1 then
    let d := s.rxRing.entry s.rxRing.cons
    let peeked := { s with rxRing := s.rxRing.pop (lib.peek_one_iff.mp hp) }
    if hr : lib.xskRingProdReserve s.fq 1 = 1 then
      let reserved := { peeked with fq := s.fq.advance (lib.reserve_one_iff.mp hr) }
      if pktProto ch s.buffer d.addr ≠ htons ethertypeUadp then (.goodNoData, message, reserved)
      else if ¬ TargetMatches ch s.buffer d.addr then (.goodNoData, message, reserved)
      else (.good, payload ch d, reserved)
    else (.badInternalError, message, peeked)
  else (.goodNoData, message, s)

/-- `UA_PubSubChannelEthernetXDP_release()`. -/
def release (s : XdpSock) : XdpSock :=
  { s with
    fqSubmitted := s.fqSubmitted + 1
    rxReleased := s.rxReleased + 1
    rxNpkts := s.rxNpkts + 1 }

/-- `UA_ReaderGroup_subscribeCallback()` for a channel with a `release`; `allocated` tells
whether the buffer could be allocated. -/
def subscribeCallback (lib : XskLib) (ch : Channel) (s : XdpSock) (allocated : Bool)
    (select : Int) : XdpSock :=
  if allocated then
    let r := receive lib ch s ⟨0, 512⟩ 1000 select
    if 0 < r.2.1.length then release r.2.2 else r.2.2
  else s

inductive Act where
  /-- A run of the subscribe callback. -/
  | callback (allocated : Bool) (select : Int)
  /-- The kernel takes the next address off the fill ring. -/
  | rxTake
  /-- The kernel stores a packet in the frame of the `j`-th of the addresses it holds, `offset`
  bytes behind its start, and hands it over. -/
  | rxDeliver (j offset : Nat) (packet : List UInt8)

/-- A run of the callback or a step of the kernel. -/
def step (lib : XskLib) (ch : Channel) (s : XdpSock) : Act → Option XdpSock
  | .callback allocated select => some (subscribeCallback lib ch s allocated select)
  -- what the kernel takes is free for the next reservation at once: a consumer index that the
  -- user reads later would let the reservation fail with a packet at hand
  | .rxTake =>
    if h : 0 < s.fq.used then
      if s.fq.cons < s.fqSubmitted then
        some { s with
          fq := s.fq.pop h
          rxHeld := s.rxHeld ++ [s.fq.entry s.fq.cons] }
      else none
    else none
  | .rxDeliver j offset packet =>
    match s.rxHeld[j]? with
    | none      => none
    | some addr =>
      if h : s.rxRing.used < noOfDesc then
        if s.rxRing.prod < s.rxReleased + noOfDesc ∧ offset + packet.length ≤ frameSize then
          some { s with
            rxHeld := s.rxHeld.eraseIdx j
            buffer := s.buffer.copyTo (addr + offset) packet
            rxRing := s.rxRing.push ⟨addr + offset, packet.length⟩ h }
        else none
      else none

/-- A connection of the plugin, from the moment its socket was set up. -/
def receiveLts (lib : XskLib) (ch : Channel) : Lts XdpSock Act where
  init s := ∃ buffer, xskConfigure lib buffer = some s
  step := step lib ch

/-! ### The balance -/

/-- All packets peeked were released and all slots reserved were submitted. -/
structure Balanced (s : XdpSock) : Prop where
  rx : s.rxReleased = s.rxRing.cons
  fq : s.fqSubmitted = s.fq.prod

/-- The plugin takes the packet: its ethertype and its destination are right, and it carries a
message. -/
def Accepts (ch : Channel) (buffer : Memory) (d : RxDesc) : Prop :=
  pktProto ch buffer d.addr = htons ethertypeUadp ∧ TargetMatches ch buffer d.addr ∧
    (payload ch d).length ≠ 0

instance (ch : Channel) (buffer : Memory) (d : RxDesc) : Decidable (Accepts ch buffer d) :=
  inferInstanceAs (Decidable (_ ∧ _ ∧ _))

/-- The callback comes to look at the ring. -/
def Looks (a : Act) : Prop :=
  ∃ select, a = .callback true select ∧ select ≠ 0 ∧ select ≠ -1

/-- A packet that the callback finds is accepted. -/
def FindsAccepted (ch : Channel) (s : XdpSock) (a : Act) : Prop :=
  Looks a → 0 < s.rxRing.used → Accepts ch s.buffer (s.rxRing.entry s.rxRing.cons)

/-- The rings are balanced when the callback returns. -/
def ReturnsBalanced (lib : XskLib) (ch : Channel) (s : XdpSock) (a : Act) : Prop :=
  ∀ allocated select, a = .callback allocated select →
    Balanced (subscribeCallback lib ch s allocated select)

section
variable {lib : XskLib} {ch : Channel} {s s' : XdpSock}

/-- What `receive` returns: nothing, or the message of the packet it peeked. -/
inductive ReceiveCase (ch : Channel) (s : XdpSock) (select : Int) : UInt64 → XdpSock → Prop where
  | idle (h : select = 0 ∨ select = -1 ∨ ¬ 0 < s.rxRing.used) : ReceiveCase ch s select 0 s
  | noSlot (h₀ : select ≠ 0) (h₁ : select ≠ -1) (hp : 0 < s.rxRing.used)
      (hr : ¬ s.fq.used < noOfDesc) :
      ReceiveCase ch s select 0 { s with rxRing := s.rxRing.pop hp }
  | reject (h₀ : select ≠ 0) (h₁ : select ≠ -1) (hp : 0 < s.rxRing.used)
      (hr : s.fq.used < noOfDesc)
      (hd : ¬ Accepts ch s.buffer (s.rxRing.entry s.rxRing.cons)) :
      ReceiveCase ch s select 0 { s with rxRing := s.rxRing.pop hp, fq := s.fq.advance hr }
  | good (h₀ : select ≠ 0) (h₁ : select ≠ -1) (hp : 0 < s.rxRing.used)
      (hr : s.fq.used < noOfDesc)
      (hproto : pktProto ch s.buffer (s.rxRing.entry s.rxRing.cons).addr = htons ethertypeUadp)
      (htarget : TargetMatches ch s.buffer (s.rxRing.entry s.rxRing.cons).addr) :
      ReceiveCase ch s select (payload ch (s.rxRing.entry s.rxRing.cons)).length
        { s with rxRing := s.rxRing.pop hp, fq := s.fq.advance hr }

lemma receive_spec (lib : XskLib) (ch : Channel) (s : XdpSock) (message : ByteString)
    (select : Int) :
    ReceiveCase ch s select (receive lib ch s message 1000 select).2.1.length
      (receive lib ch s message 1000 select).2.2 := by
  rw [receive]
  dsimp only
  split_ifs with h₀ h₁ hp hr hproto htarget
  · exact .idle (.inl h₀.2)
  · exact .idle (.inr (.inl h₁.2))
  all_goals have hselect₀ : select ≠ 0 := fun h => h₀ ⟨by decide, h⟩
  all_goals have hselect₁ : select ≠ -1 := fun h => h₁ ⟨by decide, h⟩
  · exact .reject hselect₀ hselect₁ _ _ fun hd => hproto hd.1
  · exact .good hselect₀ hselect₁ _ _ (not_not.mp hproto) htarget
  · exact .reject hselect₀ hselect₁ _ _ fun hd => htarget hd.2.1
  · exact .noSlot hselect₀ hselect₁ _ fun h => hr (lib.reserve_one_iff.mpr h)
  · exact .idle (.inr (.inr fun h => hp (lib.peek_one_iff.mpr h)))

/-- The callback finds nothing, fails to reserve a slot, takes a packet or drops one. Only in
the first and the third case it gives back all it took. -/
inductive CallbackCase (ch : Channel) (s : XdpSock) (a : Act) : XdpSock → Prop where
  | idle (h : ¬ (Looks a ∧ 0 < s.rxRing.used)) : CallbackCase ch s a s
  | noSlot (h : Looks a) (hp : 0 < s.rxRing.used) (hr : ¬ s.fq.used < noOfDesc) :
      CallbackCase ch s a { s with rxRing := s.rxRing.pop hp }
  | accept (h : Looks a) (hp : 0 < s.rxRing.used) (hr : s.fq.used < noOfDesc)
      (hd : Accepts ch s.buffer (s.rxRing.entry s.rxRing.cons)) :
      CallbackCase ch s a (release { s with rxRing := s.rxRing.pop hp, fq := s.fq.advance hr })
  | drop (h : Looks a) (hp : 0 < s.rxRing.used) (hr : s.fq.used < noOfDesc)
      (hd : ¬ Accepts ch s.buffer (s.rxRing.entry s.rxRing.cons)) :
      CallbackCase ch s a { s with rxRing := s.rxRing.pop hp, fq := s.fq.advance hr }

lemma subscribeCallback_spec (lib : XskLib) (ch : Channel) (s : XdpSock) (allocated : Bool)
    (select : Int) :
    CallbackCase ch s (.callback allocated select)
      (subscribeCallback lib ch s allocated select) := by
  cases allocated with
  | false => exact .idle fun ⟨⟨_, h, _⟩, _⟩ => by cases h
  | true =>
    rw [subscribeCallback, if_pos rfl]
    dsimp only
    have hzero : ¬ (0 : UInt64) < 0 := by decide
    have hspec := receive_spec lib ch s ⟨0, 512⟩ select
    generalize (receive lib ch s ⟨0, 512⟩ 1000 select).2.1.length = length at hspec ⊢
    generalize (receive lib ch s ⟨0, 512⟩ 1000 select).2.2 = t at hspec ⊢
    cases hspec with
    | idle h =>
      rw [if_neg hzero]
      apply CallbackCase.idle
      rintro ⟨⟨_, ⟨⟩, h₀, h₁⟩, hp⟩
      rcases h with h | h | h
      · exact h₀ h
      · exact h₁ h
      · exact h hp
    | noSlot h₀ h₁ hp hr =>
      rw [if_neg hzero]
      exact .noSlot ⟨select, rfl, h₀, h₁⟩ hp hr
    | reject h₀ h₁ hp hr hd =>
      rw [if_neg hzero]
      exact .drop ⟨select, rfl, h₀, h₁⟩ hp hr hd
    | good h₀ h₁ hp hr hproto htarget =>
      by_cases hlength : (payload ch (s.rxRing.entry s.rxRing.cons)).length = 0
      · rw [hlength, if_neg hzero]
        exact .drop ⟨select, rfl, h₀, h₁⟩ hp hr fun hd => hd.2.2 hlength
      · rw [if_pos (UInt64.pos_iff_ne_zero.mpr hlength)]
        exact .accept ⟨select, rfl, h₀, h₁⟩ hp hr ⟨hproto, htarget, hlength⟩

/-- A packet lies in a frame that was taken from the fill ring, and a slot was reserved for each
one peeked. -/
structure Settled (s : XdpSock) : Prop where
  balanced : Balanced s
  exchange : s.fq.prod = noOfDesc + s.rxRing.cons
  taken : s.rxRing.prod + s.rxHeld.length = s.fq.cons

/-- In a balanced socket there is a slot for each packet. -/
lemma Settled.slot (h : Settled s) (hp : 0 < s.rxRing.used) : s.fq.used < noOfDesc := by
  have hexchange := h.exchange
  have htaken := h.taken
  have hfq := s.fq.prod_eq
  have hrx := s.rxRing.prod_eq
  omega

lemma settled_init (h : (receiveLts lib ch).init s) : Settled s := by
  obtain ⟨buffer, h⟩ := h
  obtain ⟨fq, hfq, rfl⟩ := Option.map_eq_some_iff.mp h
  obtain ⟨-, rfl⟩ := of_guard hfq
  exact ⟨⟨rfl, rfl⟩, rfl, rfl⟩

/-- A callback that accepts what it finds takes one packet and one slot and gives back both, or
does nothing. -/
lemma Settled.callback (h : Settled s) {allocated : Bool} {select : Int}
    (hfinds : FindsAccepted ch s (.callback allocated select)) :
    Settled (subscribeCallback lib ch s allocated select) := by
  obtain ⟨⟨hrx, hfq⟩, hexchange, htaken⟩ := id h
  have hspec := subscribeCallback_spec lib ch s allocated select
  generalize subscribeCallback lib ch s allocated select = t at hspec
  cases hspec with
  | idle _ => exact h
  | noSlot _ hp hr => exact absurd (h.slot hp) hr
  | accept _ _ _ _ =>
    exact ⟨⟨congrArg Nat.succ hrx, congrArg Nat.succ hfq⟩, congrArg Nat.succ hexchange, htaken⟩
  | drop hlooks hp _ hd => exact absurd (hfinds hlooks hp) hd

/-- What the callback leaves is balanced just when it accepted what it found. -/
lemma Settled.returnsBalanced_iff (h : Settled s) (a : Act) :
    ReturnsBalanced lib ch s a ↔ FindsAccepted ch s a := by
  constructor
  · rintro hreturns ⟨select, rfl, h₀, h₁⟩ hp
    have hafter := hreturns true select rfl
    have hspec := subscribeCallback_spec lib ch s true select
    generalize subscribeCallback lib ch s true select = t at hafter hspec
    cases hspec with
    | idle hidle => exact absurd ⟨⟨select, rfl, h₀, h₁⟩, hp⟩ hidle
    | noSlot _ _ hr => exact absurd (h.slot hp) hr
    | accept _ _ _ hd => exact hd
    | drop _ _ _ _ =>
      have hrx : s.rxReleased = s.rxRing.cons + 1 := hafter.rx
      rw [h.balanced.rx] at hrx
      exact absurd hrx.symm (Nat.succ_ne_self _)
  · rintro hfinds allocated select rfl
    exact (h.callback hfinds).balanced

lemma Settled.step {a : Act} (h : Settled s) (hfinds : FindsAccepted ch s a)
    (hs : (receiveLts lib ch).step s a = some s') : Settled s' := by
  obtain ⟨hbalanced, hexchange, htaken⟩ := id h
  replace hs : Plugin.step lib ch s a = some s' := hs
  cases a with
  | callback allocated select =>
    cases hs
    exact h.callback hfinds
  | rxTake =>
    simp only [Plugin.step] at hs
    split_ifs at hs with hu hsub
    cases hs
    refine ⟨⟨hbalanced.rx, hbalanced.fq⟩, hexchange, ?_⟩
    show s.rxRing.prod + (s.rxHeld ++ [_]).length = s.fq.cons + 1
    rw [List.length_append, List.length_singleton, ← htaken, Nat.add_assoc]
  | rxDeliver j offset packet =>
    simp only [Plugin.step] at hs
    split at hs
    · cases hs
    · next addr hj =>
      split_ifs at hs with hu hroom
      cases hs
      have hlt := (List.getElem?_eq_some_iff.mp hj).1
      refine ⟨⟨hbalanced.rx, hbalanced.fq⟩, hexchange, ?_⟩
      show s.rxRing.prod + 1 + (s.rxHeld.eraseIdx j).length = s.fq.cons
      rw [List.length_eraseIdx_of_lt hlt, ← htaken]
      omega

/-- Whenever the callback returns the rings are balanced, if and only if it accepts every packet
it finds. -/
theorem receive_balanced_iff {tr : List (XdpSock × Act)} (h : (receiveLts lib ch).Run tr s) :
    (∀ x ∈ tr, ReturnsBalanced lib ch x.1 x.2) ↔ ∀ x ∈ tr, FindsAccepted ch x.1 x.2 :=
  h.forall_iff (I := Settled) (fun _ => settled_init) (fun _ _ _ hI hC hs => hI.step hC hs)
    fun _ a _ hI _ => hI.returnsBalanced_iff a

end

section OneFrame

/-- A connection with a VLAN. -/
private def tagged : Channel := ⟨5, #v[0x01, 0x00, 0x5e, 0x7f, 0x00, 0x01]⟩

/-- The socket as it was set up. -/
private def connected : XdpSock where
  buffer := fun _ => 0
  rxRing := .empty ⟨0, 0⟩
  rxReleased := 0
  fq := .full fun i => i * noOfDesc
  fqSubmitted := noOfDesc
  rxNpkts := 0
  rxHeld := []

private lemma connected_init : (receiveLts .reference tagged).init connected := by
  refine ⟨fun _ => 0, ?_⟩
  rw [xskConfigure, xdpUmemConfigure, if_pos]
  · rfl
  · exact (XskLib.reference.reserve_eq_iff _ (by decide)).mpr le_rfl

/-- A packet delivered to the first frame the kernel holds. -/
private lemma step_rxDeliver {s : XdpSock} {packet : List UInt8} {addr : Nat}
    (hj : s.rxHeld[0]? = some addr) (h : s.rxRing.used < noOfDesc)
    (hroom : s.rxRing.prod < s.rxReleased + noOfDesc ∧ 256 + packet.length ≤ frameSize) :
    (receiveLts .reference tagged).step s (.rxDeliver 0 256 packet) = some { s with
      rxHeld := s.rxHeld.eraseIdx 0
      buffer := s.buffer.copyTo (addr + 256) packet
      rxRing := s.rxRing.push ⟨addr + 256, packet.length⟩ h } := by
  simp only [receiveLts, step, hj, dif_pos h, if_pos hroom]

/-- A tagged frame of the right protocol comes, and the callback runs. -/
theorem receive_balanced_iff_tagged :
    ∃ tr s, (receiveLts .reference tagged).Run tr s ∧
      (∃ x ∈ tr, Looks x.2 ∧ 0 < x.1.rxRing.used) ∧
      ∀ x ∈ tr, ReturnsBalanced .reference tagged x.1 x.2 := by
  have h₁ := (Lts.Run.init connected_init).step (a := .rxTake) rfl
  have h₂ := h₁.step (a := .rxDeliver 0 256 [0x01, 0x00, 0x5e, 0x7f, 0x00, 0x01,
    0x22, 0xbb, 0x22, 0xbb, 0x22, 0xbb, 0x81, 0x00, 0x60, 0x05, 0xb6, 0x2c, 7, 7, 7])
    (step_rxDeliver rfl (by decide +kernel) (by decide +kernel))
  have h₃ := h₂.step (a := .callback true 1) rfl
  refine ⟨_, _, h₃, ⟨(_, .callback true 1), List.mem_append_right _ (List.mem_singleton_self _),
    ⟨1, rfl, by decide, by decide⟩, by decide⟩, (receive_balanced_iff h₃).mpr fun x hx => ?_⟩
  simp only [List.nil_append, List.cons_append, List.mem_cons, List.not_mem_nil, or_false] at hx
  rcases hx with rfl | rfl | rfl
  · rintro ⟨_, ⟨⟩, _⟩
  · rintro ⟨_, ⟨⟩, _⟩
  · intro _ _
    decide +kernel

/-- A frame of another protocol comes, and the callback runs: the packet and the slot are
gone. -/
theorem not_receive_balanced :
    ¬ ∀ (lib : XskLib) (ch : Channel) (tr : List (XdpSock × Act)) (s : XdpSock),
      (receiveLts lib ch).Run tr s → ∀ x ∈ tr, ReturnsBalanced lib ch x.1 x.2 := by
  intro h
  have h₁ := (Lts.Run.init connected_init).step (a := .rxTake) rfl
  have h₂ := h₁.step (a := .rxDeliver 0 256 [0x01, 0x00, 0x5e, 0x7f, 0x00, 0x01,
    0x22, 0xbb, 0x22, 0xbb, 0x22, 0xbb, 0x08, 0x00, 7, 7, 7])
    (step_rxDeliver rfl (by decide +kernel) (by decide +kernel))
  have h₃ := h₂.step (a := .callback true 1) rfl
  have hbalanced := h _ _ _ _ h₃ (_, .callback true 1)
    (List.mem_append_right _ (List.mem_singleton_self _)) true 1 rfl
  have hrx := hbalanced.rx
  revert hrx
  decide +kernel

end OneFrame

end Plugin

end TsnRefSw
