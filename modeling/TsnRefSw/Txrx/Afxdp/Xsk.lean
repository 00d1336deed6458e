import Mathlib.Data.List.Perm.Basic
import TsnRefSw.Core.Ring
import TsnRefSw.Core.Lts
import TsnRefSw.Txrx.Options

/-!
# AF_XDP sockets

The four rings a socket shares with the kernel, the packet memory, and the frames the kernel
holds: those it has been told to transmit and has not reported as completed, and those it took
to receive packets in. What the kernel does next is its own choice.

The ring helpers belong to libbpf. They enter as parameters, with what they are documented to
return.
-/

namespace TsnRefSw

open Core

namespace Txrx

/-- What the program is built with: libbpf's `xsk_ring_prod__reserve()` and
`xsk_ring_cons__peek()`, the number of slots or entries they return when asked for `n`, and
whether `WITH_XDPTBS` is defined, as for kernels whose descriptors carry a launch time. -/
structure XskLib where
  withXdptbs : Bool
  xskRingProdReserve : {α : Type} → {size : Nat} → Ring α size → Nat → Nat
  xskRingConsPeek : {α : Type} → {size : Nat} → Ring α size → Nat → Nat
  /-- All slots asked for, if there is room for them. -/
  reserve_eq_iff {α : Type} {size : Nat} (r : Ring α size) {n : Nat} (hn : 0 < n) :
    xskRingProdReserve r n = n ↔ r.used + n ≤ size
  peek_le {α : Type} {size : Nat} (r : Ring α size) (n : Nat) : xskRingConsPeek r n ≤ n
  /-- At least one entry, if there is one. -/
  peek_pos_iff {α : Type} {size : Nat} (r : Ring α size) {n : Nat} (hn : 0 < n) :
    0 < xskRingConsPeek r n ↔ 0 < r.used

namespace XskLib

variable {α : Type} {size : Nat} (lib : XskLib) {r : Ring α size}

lemma reserve_one_iff : lib.xskRingProdReserve r 1 = 1 ↔ r.used < size :=
  lib.reserve_eq_iff r Nat.one_pos

lemma peek_one_iff : lib.xskRingConsPeek r 1 = 1 ↔ 0 < r.used := by
  have := lib.peek_le r 1
  rw [← lib.peek_pos_iff r Nat.one_pos]
  omega

/-- The helpers as the headers of libbpf have them, and descriptors with a launch time. -/
def reference : XskLib where
  withXdptbs := true
  xskRingProdReserve {_ size} r n := if r.used + n ≤ size then n else 0
  xskRingConsPeek r n := min n r.used
  reserve_eq_iff r n hn := by split_ifs <;> omega
  peek_le r n := Nat.min_le_left _ _
  peek_pos_iff r n hn := by omega

end XskLib

/-- `struct xdp_desc` on the TX ring. -/
structure TxDesc where
  addr : Nat
  len : Nat
  /-- Only with `WITH_XDPTBS`. -/
  txtime : Option Nat
deriving DecidableEq, Repr

/-- `struct xdp_desc` on the RX ring. -/
structure RxDesc where
  addr : Nat
  len : Nat
deriving DecidableEq, Repr

/-- The frame an address belongs to. -/
def frameOf (addr : Nat) : Nat := addr / frameSize

lemma frameOf_add {n o : Nat} (h : o < frameSize) : frameOf (n * frameSize + o) = n := by
  simp only [frameOf, frameSize] at *
  omega

@[simp] lemma frameOf_mul (n : Nat) : frameOf (n * frameSize) = n :=
  Nat.mul_div_cancel n (by decide)

/-- Copying to one frame leaves the others alone. -/
lemma copyTo_frame_of_ne {m : Memory} {n o a : Nat} {l : List UInt8} (hne : frameOf a ≠ n)
    (hl : o + l.length ≤ frameSize) : m.copyTo (n * frameSize + o) l a = m a := by
  have hout : a < n * frameSize + o ∨ n * frameSize + o + l.length ≤ a := by
    unfold frameOf frameSize at *
    omega
  rcases hout with hlt | hge
  · exact Memory.copyTo_of_lt _ _ hlt
  · exact Memory.copyTo_of_le _ _ hge

/-- `struct xsk_info` with its `struct pkt_buffer`, and what the kernel holds. -/
structure Xsk (N : Nat) where
  buffer : Memory
  rxFillRing : Ring Nat N
  txCompRing : Ring Nat N
  txRing : Ring TxDesc N
  rxRing : Ring RxDesc N
  /-- The TX descriptors the kernel has taken and not completed, with their numbers. -/
  txHeld : List (Nat × TxDesc)
  /-- The addresses the kernel has taken from the fill ring and not yet used. -/
  rxHeld : List Nat
  curTx : Nat
  outstandingTx : Nat
  txNpkts : Nat
  rxNpkts : Nat

/-! ### Setting up a socket -/

/-- The fill ring `create_umem()` sets up: every frame is posted for reception. -/
def createUmem (lib : XskLib) (N : Nat) : Option (Ring Nat N) :=
  if lib.xskRingProdReserve (.empty 0 : Ring Nat N) N = N then
    some (.full fun i => i * frameSize)
  else none

lemma createUmem_eq (lib : XskLib) {N : Nat} (hN : 0 < N) :
    createUmem lib N = some (.full fun i => i * frameSize) := by
  rw [createUmem, if_pos]
  exact (lib.reserve_eq_iff _ hN).mpr (Nat.zero_add N).le

/-- `init_xdp_socket()`, on a buffer with arbitrary contents. -/
def initXdpSocket (lib : XskLib) (N : Nat) (buffer : Memory) : Option (Xsk N) :=
  (createUmem lib N).map fun rxFillRing =>
    { buffer := buffer
      rxFillRing := rxFillRing
      txCompRing := .empty 0
      txRing := .empty ⟨0, 0, none⟩
      rxRing := .empty ⟨0, 0⟩
      txHeld := []
      rxHeld := []
      curTx := 0
      outstandingTx := 0
      txNpkts := 0
      rxNpkts := 0 }

/-- The socket that is set up. -/
def Xsk.initial (N : Nat) (buffer : Memory) : Xsk N where
  buffer := buffer
  rxFillRing := .full fun i => i * frameSize
  txCompRing := .empty 0
  txRing := .empty ⟨0, 0, none⟩
  rxRing := .empty ⟨0, 0⟩
  txHeld := []
  rxHeld := []
  curTx := 0
  outstandingTx := 0
  txNpkts := 0
  rxNpkts := 0

lemma initXdpSocket_eq (lib : XskLib) {N : Nat} (hN : 0 < N) (buffer : Memory) :
    initXdpSocket lib N buffer = some (.initial N buffer) := by
  rw [initXdpSocket, createUmem_eq lib hN]
  rfl

/-! ### The kernel -/

/-- The room the kernel leaves in front of a packet, `XDP_PACKET_HEADROOM`. -/
def packetHeadroom : Nat := 256

inductive KernelAct where
  /-- Take the next descriptor off the TX ring. -/
  | txTake
  /-- Report the `j`-th of the descriptors held as completed. -/
  | txComplete (j : Nat)
  /-- Take the next address off the fill ring. -/
  | rxTake
  /-- Store a packet in the frame of the `j`-th of the addresses held and hand it over. -/
  | rxDeliver (j offset : Nat) (packet : List UInt8)

namespace Xsk

variable {N : Nat}

/-- A step of the kernel. -/
def kernelStep (s : Xsk N) : KernelAct → Option (Xsk N)
  | .txTake =>
    if h : 0 < s.txRing.used then
      some { s with
        txRing := s.txRing.pop h
        txHeld := s.txHeld ++ [(s.txRing.cons, s.txRing.entry s.txRing.cons)] }
    else none
  | .txComplete j =>
    match s.txHeld[j]? with
    | none   => none
    | some d =>
      if h : s.txCompRing.used < N then
        some { s with
          txHeld := s.txHeld.eraseIdx j
          txCompRing := s.txCompRing.push d.2.addr h }
      else none
  | .rxTake =>
    if h : 0 < s.rxFillRing.used then
      some { s with
        rxFillRing := s.rxFillRing.pop h
        rxHeld := s.rxHeld ++ [s.rxFillRing.entry s.rxFillRing.cons] }
    else none
  | .rxDeliver j offset packet =>
    match s.rxHeld[j]? with
    | none      => none
    | some addr =>
      if h : s.rxRing.used < N then
        if packetHeadroom ≤ offset ∧ offset + packet.length ≤ frameSize ∧
            offset < frameSize then
          some { s with
            rxHeld := s.rxHeld.eraseIdx j
            buffer := s.buffer.copyTo (addr + offset) packet
            rxRing := s.rxRing.push ⟨addr + offset, packet.length⟩ h }
        else none
      else none

/-- What a kernel step leaves alone, and what it does to the rings. -/
lemma kernelStep_cases {s s' : Xsk N} {k : KernelAct} (h : s.kernelStep k = some s') :
    (k = .txTake ∧ ∃ hu : 0 < s.txRing.used, s' = { s with
        txRing := s.txRing.pop hu
        txHeld := s.txHeld ++ [(s.txRing.cons, s.txRing.entry s.txRing.cons)] }) ∨
    (∃ j d, k = .txComplete j ∧ s.txHeld[j]? = some d ∧ ∃ hu : s.txCompRing.used < N,
      s' = { s with
        txHeld := s.txHeld.eraseIdx j
        txCompRing := s.txCompRing.push d.2.addr hu }) ∨
    (k = .rxTake ∧ ∃ hu : 0 < s.rxFillRing.used, s' = { s with
        rxFillRing := s.rxFillRing.pop hu
        rxHeld := s.rxHeld ++ [s.rxFillRing.entry s.rxFillRing.cons] }) ∨
    (∃ j offset packet addr, k = .rxDeliver j offset packet ∧ s.rxHeld[j]? = some addr ∧
      offset < frameSize ∧ offset + packet.length ≤ frameSize ∧
      ∃ hu : s.rxRing.used < N, s' = { s with
        rxHeld := s.rxHeld.eraseIdx j
        buffer := s.buffer.copyTo (addr + offset) packet
        rxRing := s.rxRing.push ⟨addr + offset, packet.length⟩ hu }) := by
  cases k with
  | txTake =>
    simp only [kernelStep] at h
    split_ifs at h with hu
    exact .inl ⟨rfl, hu, (Option.some.inj h).symm⟩
  | txComplete j =>
    simp only [kernelStep] at h
    split at h
    · cases h
    · next d hd =>
      split_ifs at h with hu
      exact .inr (.inl ⟨j, d, rfl, hd, hu, (Option.some.inj h).symm⟩)
  | rxTake =>
    simp only [kernelStep] at h
    split_ifs at h with hu
    exact .inr (.inr (.inl ⟨rfl, hu, (Option.some.inj h).symm⟩))
  | rxDeliver j offset packet =>
    simp only [kernelStep] at h
    split at h
    · cases h
    · next addr hj =>
      split_ifs at h with hu ho
      exact .inr (.inr (.inr ⟨j, offset, packet, addr, rfl, hj, ho.2.2, ho.2.1, hu,
        (Option.some.inj h).symm⟩))

/-! ### Where the frames are -/

/-- The frames on the fill ring. -/
def fillFrames (s : Xsk N) : List Nat := s.rxFillRing.entries.map frameOf

/-- The frames the kernel took to receive packets in. -/
def heldFrames (s : Xsk N) : List Nat := s.rxHeld.map frameOf

/-- The frames of the packets on the RX ring. -/
def rxFrames (s : Xsk N) : List Nat := s.rxRing.entries.map fun d => frameOf d.addr

/-- The fill ring's slots still contain what `create_umem()` wrote, and what the kernel has
taken from them are addresses of whole frames. -/
structure Posted (s : Xsk N) : Prop where
  slot : ∀ i, s.rxFillRing.slot i = i * frameSize
  held : ∀ a ∈ s.rxHeld, ∃ n, a = n * frameSize

/-- Each frame is in exactly one place: on the fill ring, with the kernel or on the RX ring. -/
def Partition (s : Xsk N) : Prop :=
  (s.fillFrames ++ (s.heldFrames ++ s.rxFrames)).Perm (List.range N)

lemma posted_initial (buffer : Memory) : (initial N buffer).Posted := by
  constructor
  · intro i
    rfl
  · intro a ha
    cases ha

lemma partition_initial (buffer : Memory) : (initial N buffer).Partition := by
  have hfill : (initial N buffer).fillFrames = List.range N := by
    rw [fillFrames, initial, Ring.entries_full, List.map_map]
    exact (List.map_congr_left fun n _ => frameOf_mul n).trans (List.map_id _)
  rw [Partition, hfill]
  exact .of_eq (List.append_nil _)

lemma Posted.entry {s : Xsk N} (h : s.Posted) (n : Nat) :
    s.rxFillRing.entry n = n % N * frameSize := h.slot _

lemma Posted.kernelStep {s s' : Xsk N} {k : KernelAct} (h : s.Posted)
    (hs : s.kernelStep k = some s') : s'.Posted := by
  obtain ⟨-, hu, rfl⟩ | ⟨j, d, -, hj, hu, rfl⟩ | ⟨-, hu, rfl⟩ |
    ⟨j, o, p, a, -, hj, -, -, hu, rfl⟩ := kernelStep_cases hs
  · exact ⟨h.slot, h.held⟩
  · exact ⟨h.slot, h.held⟩
  · refine ⟨h.slot, fun a ha => ?_⟩
    rcases List.mem_append.mp ha with ha | ha
    · exact h.held a ha
    · rw [List.mem_singleton.mp ha, h.entry]
      exact ⟨_, rfl⟩
  · exact ⟨h.slot, fun a ha => h.held a (List.mem_of_mem_eraseIdx ha)⟩

/-- A kernel step moves frames from one place to the next, and loses none. -/
lemma frames_kernelStep {s s' : Xsk N} {k : KernelAct} (h : s.Posted)
    (hs : s.kernelStep k = some s') :
    (s'.fillFrames ++ (s'.heldFrames ++ s'.rxFrames)).Perm
      (s.fillFrames ++ (s.heldFrames ++ s.rxFrames)) := by
  obtain ⟨-, hu, rfl⟩ | ⟨j, d, -, hj, hu, rfl⟩ | ⟨-, hu, rfl⟩ |
    ⟨j, o, p, a, -, hj, ho, -, hu, rfl⟩ := kernelStep_cases hs
  · rfl
  · rfl
  · simp only [fillFrames, heldFrames, rxFrames, Ring.entries_pop hu, List.map_append,
      List.map_cons, List.map_nil, List.append_assoc, List.cons_append, List.nil_append]
    rw [← List.append_assoc]
    exact List.perm_middle.trans (.of_eq (by rw [List.append_assoc]))
  · obtain ⟨hlt, rfl⟩ := List.getElem?_eq_some_iff.mp hj
    obtain ⟨n, hn⟩ := h.held _ (List.getElem_mem hlt)
    have hheld : (frameOf s.rxHeld[j] :: (s.rxHeld.eraseIdx j).map frameOf).Perm
        (s.rxHeld.map frameOf) := (List.getElem_cons_eraseIdx_perm hlt).map frameOf
    have hframe : frameOf (s.rxHeld[j] + o) = frameOf s.rxHeld[j] := by
      rw [hn, frameOf_add ho, frameOf_mul]
    simp only [fillFrames, heldFrames, rxFrames, Ring.entries_push hu, List.map_append,
      List.map_cons, List.map_nil, hframe]
    apply List.Perm.append_left
    rw [← List.append_assoc]
    exact (List.perm_append_singleton _ _).trans (hheld.append_right _)

lemma Partition.kernelStep {s s' : Xsk N} {k : KernelAct} (h : s.Partition) (hp : s.Posted)
    (hs : s.kernelStep k = some s') : s'.Partition := (frames_kernelStep hp hs).trans h

/-- In a partition, a frame is on the RX ring exactly if it is in no other place. -/
lemma Partition.mem_rxFrames_iff {s : Xsk N} (h : s.Partition) {f : Nat} (hf : f < N) :
    f ∈ s.rxFrames ↔ f ∉ s.fillFrames ∧ f ∉ s.heldFrames := by
  have hmem : f ∈ s.fillFrames ∨ f ∈ s.heldFrames ∨ f ∈ s.rxFrames := by
    rw [← List.mem_append, ← List.mem_append]
    exact h.mem_iff.mpr (List.mem_range.mpr hf)
  have hnodup := h.nodup_iff.mpr List.nodup_range
  rw [List.nodup_append, List.nodup_append] at hnodup
  obtain ⟨-, ⟨-, -, hrx⟩, hfill⟩ := hnodup
  constructor
  · intro hr
    exact ⟨fun hm => hfill f hm f (List.mem_append_right _ hr) rfl, fun hm => hrx f hm f hr rfl⟩
  · rintro ⟨h₁, h₂⟩
    exact (hmem.resolve_left h₁).resolve_left h₂

/-- The kernel writes to frames it holds for reception only. -/
lemma buffer_kernelStep {s s' : Xsk N} {k : KernelAct} (h : s.Posted)
    (hs : s.kernelStep k = some s') {a : Nat} (ha : frameOf a ∉ s.heldFrames) :
    s'.buffer a = s.buffer a := by
  obtain ⟨-, hu, rfl⟩ | ⟨j, d, -, hj, hu, rfl⟩ | ⟨-, hu, rfl⟩ |
    ⟨j, o, p, b, -, hj, ho, hlen, hu, rfl⟩ := kernelStep_cases hs
  · rfl
  · rfl
  · rfl
  · obtain ⟨hlt, rfl⟩ := List.getElem?_eq_some_iff.mp hj
    obtain ⟨n, hn⟩ := h.held _ (List.getElem_mem hlt)
    have hne : frameOf a ≠ n := by
      rintro rfl
      apply ha
      have hmem := List.mem_map_of_mem (f := frameOf) (List.getElem_mem hlt)
      rwa [hn, frameOf_mul] at hmem
    show s.buffer.copyTo (s.rxHeld[j] + o) p a = _
    rw [hn]
    exact copyTo_frame_of_ne hne hlen

end Xsk

end Txrx

end TsnRefSw
