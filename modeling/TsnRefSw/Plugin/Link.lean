import TsnRefSw.Core.Lossy
import TsnRefSw.Plugin.XdpMessages

/-!
# From one AF_XDP plugin to another

A publisher submits its messages as frames; its kernel transmits them in the order of their
descriptors, straight from the packet memory. The wire between may lose frames. The kernel of
the subscriber stores what arrives in frames of its own, where the subscribe callback finds it.

The publisher's socket has a fill ring too, on which all frames are posted, those it sends from
among them.
-/

namespace TsnRefSw

open Core

namespace Plugin

open Txrx (XskLib TxDesc RxDesc)

/-- A connection that sends, with the descriptors that its kernel has taken off the TX ring and
not completed, given with their numbers. -/
structure Publisher where
  sock : SendSock
  txHeld : List (Nat × TxDesc)

inductive PublisherAct where
  /-- A call of `send`. -/
  | send (settings : EtfSettings) (buf : List UInt8) (error : Option Errno)
  /-- The kernel takes the next descriptor off the TX ring. -/
  | txTake
  /-- The kernel reports the `j`-th of the descriptors it holds as completed. -/
  | txComplete (j : Nat)
  /-- What happens on the receiving side of the same socket. -/
  | reception (a : Act)

/-- A publisher, the number of frames it transmitted, those on the wire, and a subscriber. -/
structure Link where
  publisher : Publisher
  sent : Nat
  wire : List (List UInt8)
  subscriber : XdpSock

inductive LinkAct where
  | publisher (a : PublisherAct)
  /-- The kernel transmits the frame of the next descriptor. -/
  | transmit
  /-- The `i`-th of the frames on the wire is lost. -/
  | lose (i : Nat)
  | subscriber (a : Act)

lemma frameSize_pos : 0 < frameSize := by decide

/-- `xsk_configure()`, with what only `send` uses. -/
def xskConfigureSend (lib : XskLib) (buffer : Memory) : Option SendSock :=
  (xskConfigure lib buffer).map fun s =>
    { s with
      txRing := .empty ⟨0, 0, none⟩
      cq := .empty 0
      curTx := 0
      outstandingTx := 0
      txNpkts := 0
      curTx_lt := frameSize_pos }

namespace Publisher

def step (lib : XskLib) (ch : SendChannel) (p : Publisher) : PublisherAct → Option Publisher
  | .send settings buf error =>
    some { p with sock := (Plugin.send lib ch p.sock settings buf error).2 }
  | .txTake =>
    if h : 0 < p.sock.txRing.used then
      some {
        sock := { p.sock with txRing := p.sock.txRing.pop h }
        txHeld := p.txHeld ++ [(p.sock.txRing.cons, p.sock.txRing.entry p.sock.txRing.cons)] }
    else none
  | .txComplete j =>
    match p.txHeld[j]? with
    | none   => none
    | some d =>
      if h : p.sock.cq.used < noOfDesc then
        some {
          sock := { p.sock with cq := p.sock.cq.push d.2.addr h }
          txHeld := p.txHeld.eraseIdx j }
      else none
  | .reception a =>
    (Plugin.step lib ch.toChannel p.sock.toXdpSock a).map fun s =>
      { p with sock := { p.sock with toXdpSock := s } }

/-- Descriptor `n` waits on the TX ring or is held by the kernel. -/
def InFlight (p : Publisher) (n : Nat) (d : TxDesc) : Prop :=
  (p.sock.txRing.Holds n ∧ p.sock.txRing.entry n = d) ∨ (n, d) ∈ p.txHeld

end Publisher

/-- A publisher, from the moment its socket was set up. -/
def publisherLts (lib : XskLib) (ch : SendChannel) : Lts Publisher PublisherAct where
  init p := (∃ buffer, xskConfigureSend lib buffer = some p.sock) ∧ p.txHeld = []
  step := Publisher.step lib ch

namespace Link

/-- A descriptor is reported as completed only if its frame was transmitted. -/
def MayStep (s : Link) : PublisherAct → Prop
  | .txComplete j => ∀ d ∈ s.publisher.txHeld[j]?, d.1 < s.sent
  | _             => True

instance (s : Link) (a : PublisherAct) : Decidable (s.MayStep a) := by
  unfold MayStep
  split <;> infer_instance

/-- What is delivered to the subscriber is what comes first on the wire. -/
def step (lib : XskLib) (ch : SendChannel) (s : Link) : LinkAct → Option Link
  | .publisher a =>
    if s.MayStep a then
      (s.publisher.step lib ch a).map fun publisher => { s with publisher := publisher }
    else none
  | .transmit =>
    (s.publisher.txHeld.find? fun d => d.1 = s.sent).map fun d =>
      { s with
        sent := s.sent + 1
        wire := s.wire ++ [s.publisher.sock.buffer.bytes d.2.addr d.2.len] }
  | .lose i =>
    if i < s.wire.length then some { s with wire := s.wire.eraseIdx i } else none
  | .subscriber (.rxDeliver j offset packet) =>
    if s.wire.head? = some packet then
      (Plugin.step lib ch.toChannel s.subscriber (.rxDeliver j offset packet)).map
        fun subscriber => { s with subscriber := subscriber, wire := s.wire.tail }
    else none
  | .subscriber a =>
    (Plugin.step lib ch.toChannel s.subscriber a).map
      fun subscriber => { s with subscriber := subscriber }

end Link

/-- A publisher and a subscriber whose channels are configured alike, on one wire. -/
def linkLts (lib : XskLib) (ch : SendChannel) : Lts Link LinkAct where
  init s := (publisherLts lib ch).init s.publisher ∧
    (receiveLts lib ch.toChannel).init s.subscriber ∧ s.sent = 0 ∧ s.wire = []
  step := Link.step lib ch

/-- The message that a run of the subscribe callback finds, if it finds one. -/
def subscribed (lib : XskLib) (ch : Channel) (s : XdpSock) : Act → Option (List UInt8)
  | .callback true select =>
    let message := (receive lib ch s ⟨0, 512⟩ 1000 select).2.1
    if 0 < message.length then some (s.buffer.bytes message.data message.length.toNat) else none
  | _ => none

/-- The frame an address belongs to. -/
def frameOf (addr : Nat) : Nat := addr / frameSize

namespace Link

/-- What a step does to the messages that are on the way: a descriptor was submitted for one, one
was lost on the wire, or the callback found one. -/
def seen (lib : XskLib) (ch : SendChannel) (s : Link) : LinkAct → Option (Lossy.Act (List UInt8))
  | .publisher (.send settings buf error) =>
    if s.publisher.sock.txRing.prod <
        (Plugin.send lib ch s.publisher.sock settings buf error).2.txRing.prod then
      some (.send buf)
    else none
  | .lose i       => some (.lose (s.subscriber.rxRing.used + i))
  | .subscriber a => (subscribed lib ch.toChannel s.subscriber a).map .receive
  | _             => none

/-- A message is sent only when the frame it is written to was transmitted before; it is not
empty, and its length does not wrap. What is stored at the publisher spares the frames that are
still to be transmitted, and the kernel of the subscriber uses its frames in order. -/
def Smooth (s : Link) : LinkAct → Prop
  | .publisher (.send _ buf _) =>
    s.publisher.sock.txRing.prod < s.sent + noOfDesc ∧ buf ≠ [] ∧ buf.length + 18 < 2 ^ 64
  | .publisher (.reception (.rxDeliver j _ _)) =>
    ∀ addr ∈ s.publisher.sock.rxHeld[j]?, ∀ n, s.sent ≤ n → n < s.publisher.sock.txRing.prod →
      frameOf addr ≠ n % noOfDesc
  | .subscriber (.rxDeliver j _ _) => j = 0
  | _ => True

end Link

/-! ### One step of a socket -/

section

variable {lib : XskLib} {ch : Channel} {s s' : XdpSock} {a : Act}

lemma step_cases (h : step lib ch s a = some s') :
    (∃ allocated select, a = .callback allocated select ∧
      s' = subscribeCallback lib ch s allocated select) ∨
    (a = .rxTake ∧ ∃ hu : 0 < s.fq.used, s' = { s with
      fq := s.fq.pop hu
      rxHeld := s.rxHeld ++ [s.fq.entry s.fq.cons] }) ∨
    (∃ j offset packet addr, a = .rxDeliver j offset packet ∧ s.rxHeld[j]? = some addr ∧
      offset + packet.length ≤ frameSize ∧ ∃ hu : s.rxRing.used < noOfDesc, s' = { s with
        rxHeld := s.rxHeld.eraseIdx j
        buffer := s.buffer.copyTo (addr + offset) packet
        rxRing := s.rxRing.push ⟨addr + offset, packet.length⟩ hu }) := by
  cases a with
  | callback allocated select => exact .inl ⟨allocated, select, rfl, (Option.some.inj h).symm⟩
  | rxTake =>
    simp only [step] at h
    split_ifs at h with hu hsub
    exact .inr (.inl ⟨rfl, hu, (Option.some.inj h).symm⟩)
  | rxDeliver j offset packet =>
    simp only [step] at h
    split at h
    · cases h
    · next addr hj =>
      split_ifs at h with hu hroom
      exact .inr (.inr ⟨j, offset, packet, addr, rfl, hj, hroom.2, hu,
        (Option.some.inj h).symm⟩)

lemma step_deliver (lib : XskLib) (ch : Channel) {j offset addr : Nat} {packet : List UInt8}
    (hj : s.rxHeld[j]? = some addr) (hu : s.rxRing.used < noOfDesc)
    (hroom : s.rxRing.prod < s.rxReleased + noOfDesc ∧ offset + packet.length ≤ frameSize) :
    (receiveLts lib ch).step s (.rxDeliver j offset packet) = some { s with
      rxHeld := s.rxHeld.eraseIdx j
      buffer := s.buffer.copyTo (addr + offset) packet
      rxRing := s.rxRing.push ⟨addr + offset, packet.length⟩ hu } := by
  simp only [receiveLts, step, hj, dif_pos hu, if_pos hroom]

/-- The slots of the fill ring contain what `xdp_umem_configure()` wrote, and what the kernel took
from them are the addresses of whole frames. -/
structure Posted (s : XdpSock) : Prop where
  slot : ∀ i, s.fq.slot i = i * frameSize
  held : ∀ addr ∈ s.rxHeld, ∃ n, addr = n * frameSize

lemma posted_init {buffer : Memory} (h : xskConfigure lib buffer = some s) : Posted s := by
  obtain ⟨fq, hfq, rfl⟩ := Option.map_eq_some_iff.mp h
  obtain ⟨-, rfl⟩ := of_guard hfq
  exact ⟨fun _ => rfl, nofun⟩

lemma subscribeCallback_frame (lib : XskLib) (ch : Channel) (s : XdpSock) (allocated : Bool)
    (select : Int) :
    (subscribeCallback lib ch s allocated select).fq.slot = s.fq.slot ∧
      (subscribeCallback lib ch s allocated select).rxHeld = s.rxHeld ∧
      (subscribeCallback lib ch s allocated select).buffer = s.buffer := by
  have hspec := subscribeCallback_spec lib ch s allocated select
  generalize subscribeCallback lib ch s allocated select = t at hspec
  cases hspec with
  | idle _ => exact ⟨rfl, rfl, rfl⟩
  | noSlot _ _ _ => exact ⟨rfl, rfl, rfl⟩
  | accept _ _ _ _ => exact ⟨rfl, rfl, rfl⟩
  | drop _ _ _ _ => exact ⟨rfl, rfl, rfl⟩

lemma Posted.step (h : Posted s) (hs : Plugin.step lib ch s a = some s') : Posted s' := by
  obtain ⟨allocated, select, -, rfl⟩ | ⟨-, hu, rfl⟩ |
      ⟨j, offset, packet, addr, -, hj, -, hu, rfl⟩ := step_cases hs
  · obtain ⟨hslot, hheld, -⟩ := subscribeCallback_frame lib ch s allocated select
    exact ⟨hslot ▸ h.slot, hheld ▸ h.held⟩
  · refine ⟨h.slot, fun addr haddr => ?_⟩
    rcases List.mem_append.mp haddr with haddr | haddr
    · exact h.held addr haddr
    · rw [List.mem_singleton.mp haddr]
      exact ⟨_, h.slot _⟩
  · exact ⟨h.slot, fun addr haddr => h.held addr (List.mem_of_mem_eraseIdx haddr)⟩

lemma frameOf_add {n o : Nat} (h : o < frameSize) : frameOf (n * frameSize + o) = n := by
  simp only [frameOf, frameSize] at *
  omega

/-- Storing a packet in a frame leaves what is in another one alone. -/
lemma contains_of_ne {m : Memory} {addr offset n : Nat} {l packet : List UInt8}
    (hc : m.Contains addr l) (hl : addr % frameSize + l.length ≤ frameSize)
    (hne : n ≠ frameOf addr) (hroom : offset + packet.length ≤ frameSize) :
    (m.copyTo (n * frameSize + offset) packet).Contains addr l := by
  apply hc.copyTo
  rw [frameOf] at hne
  rcases Nat.lt_or_gt_of_ne hne with hlt | hgt
  · simp only [frameSize] at *
    omega
  · simp only [frameSize] at *
    omega

end

end Plugin

end TsnRefSw
