import TsnRefSw.Txrx.Afpkt.EndToEnd
import TsnRefSw.Txrx.Afxdp.EndToEnd

/-!
# When the packets were read

Each line of a receiver shows, beside what the sender has put into the packet, when the packet
was read. In both socket modes these are the times of the calls that found a packet, in the order
of the calls.
-/

namespace TsnRefSw

open Core

namespace Txrx

/-- The line is about a packet that was read at the time `now`. -/
def RxLine.ReadAt (l : RxLine) (now : Nat) : Prop :=
  l.rxTimestampD = now ∧ l.latency = (now + 2 ^ 64 - l.txTimestampA) % 2 ^ 64

/-- One line was added, with this time, for a call that found a packet. -/
lemma readAt_concat {out : List RxLine} {times : List Nat} {l : RxLine} {now : Nat}
    (h : List.Forall₂ RxLine.ReadAt out times) (hl : l.ReadAt now) :
    List.Forall₂ RxLine.ReadAt (out ++ [l]) (times ++ [now]) :=
  List.rel_append h (.cons hl .nil)

/-! ### AF_PACKET -/

lemma parseBuffer_readAt {buffer : Memory} {rxTimestampC rxTimestampD : Nat} {l : RxLine}
    (h : parseBuffer buffer rxTimestampC rxTimestampD = some l) : l.ReadAt rxTimestampD := by
  simp only [parseBuffer] at h
  split_ifs at h
  obtain rfl := Option.some.inj h
  exact ⟨rfl, rfl⟩

/-- A call prints a line with its own time, or nothing. -/
lemma AfpktReceiver.recvPkt_readAt (opt : Options) (s : AfpktReceiver) (buffer : Memory)
    (packet : Option (List UInt8)) (rxTimestampC rxTimestampD : Nat) :
    s.recvPkt opt buffer packet rxTimestampC rxTimestampD = s ∨ ∃ l, l.ReadAt rxTimestampD ∧
      (s.recvPkt opt buffer packet rxTimestampC rxTimestampD).out = s.out ++ [l] := by
  cases packet with
  | none => exact .inl rfl
  | some bytes =>
    by_cases hbytes : bytes = []
    · exact .inl (if_pos hbytes)
    · simp only [recvPkt, if_neg hbytes]
      split
      · next l hl => exact .inr ⟨l, parseBuffer_readAt hl, rfl⟩
      · exact .inl rfl

namespace AfpktLink

variable {thread : AfpktThread} {opt rxOpt : Options} {hwAddr : Vector UInt8 6}
  {s s' : AfpktLink}

/-- The time of a call that finds a packet. -/
def reading (s : AfpktLink) : AfpktLinkAct → Option Nat
  | .recv _ _ rxTimestampD => s.link.head?.map fun _ => rxTimestampD
  | .sender _              => none

/-- The times of the calls that found a packet. -/
def readings (tr : List (AfpktLink × AfpktLinkAct)) : List Nat :=
  tr.filterMap fun x => x.1.reading x.2

lemma readings_concat (tr : List (AfpktLink × AfpktLinkAct)) (s : AfpktLink)
    (a : AfpktLinkAct) : readings (tr ++ [(s, a)]) = readings tr ++ (s.reading a).toList := by
  rw [readings, List.filterMap_append, ← readings]
  congr 1

lemma readAt_step {tr : List (AfpktLink × AfpktLinkAct)} {a : AfpktLinkAct} {times : List Nat}
    (h : List.Forall₂ RxLine.ReadAt s.receiver.out (readings tr)) (harr : Arrives opt times s)
    (hs : (afpktLinkLts thread opt rxOpt hwAddr).step s a = some s') :
    List.Forall₂ RxLine.ReadAt s'.receiver.out (readings (tr ++ [(s, a)])) := by
  replace hs : AfpktLink.step thread opt rxOpt hwAddr s a = some s' := hs
  rw [readings_concat]
  cases a with
  | sender a =>
    obtain ⟨t, -, rfl⟩ := Option.map_eq_some_iff.mp hs
    show List.Forall₂ _ s.receiver.out (readings tr ++ [])
    rwa [List.append_nil]
  | recv buffer rxTimestampC rxTimestampD =>
    obtain ⟨-, rfl⟩ := of_guard hs
    have hafter := harr.conveys.recv rxOpt buffer rxTimestampC rxTimestampD
    cases hlink : s.link with
    | nil =>
      rw [reading, hlink]
      show List.Forall₂ _ s.receiver.out (readings tr ++ [])
      rwa [List.append_nil]
    | cons f link =>
      have hreading : s.reading (.recv buffer rxTimestampC rxTimestampD) =
          some rxTimestampD := by
        rw [reading, hlink]
        rfl
      rw [hreading]
      obtain hsame | ⟨l, hl, hout⟩ := s.receiver.recvPkt_readAt rxOpt buffer (socketReceives f)
        rxTimestampC rxTimestampD
      · -- a packet of the sender leaves a line
        have hlines := harr.conveys.link.length_eq
        have hlines' := hafter.link.length_eq
        have hreceived := harr.conveys.received
        rw [hlink] at hlines hlines'
        change _ = (List.drop (s.receiver.recvPkt rxOpt buffer (socketReceives f) _ _).out.length
          _).length at hlines'
        rw [hsame] at hlines'
        simp only [List.length_cons, List.tail_cons, List.length_drop, List.length_zipIdx]
          at hlines hlines'
        omega
      · show List.Forall₂ _ (s.receiver.recvPkt rxOpt buffer (socketReceives f) _ _).out _
        rw [hout]
        exact readAt_concat h hl

/-- The lines show when the calls were made that found their packets. -/
theorem readAt_readings {tr : List (AfpktLink × AfpktLinkAct)}
    (h : (afpktLinkLts thread opt rxOpt hwAddr).Run tr s) (htakes : ∀ x ∈ tr, Takes x.2) :
    List.Forall₂ RxLine.ReadAt s.receiver.out (readings tr) := by
  refine h.induct_of (P := fun tr s => List.Forall₂ RxLine.ReadAt s.receiver.out (readings tr))
    (C := fun _ a => Takes a) ?_ ?_ htakes
  · rintro s ⟨-, -, hreceiver⟩
    rw [hreceiver]
    exact .nil
  · intro tr s a s' hrun hbefore hread _ hs
    exact readAt_step hread (arrives hrun hbefore) hs

end AfpktLink

/-! ### AF_XDP -/

lemma parsePacket_readAt {umem : Memory} {pkt now : Nat} {l : RxLine}
    (h : parsePacket umem pkt now = some l) : l.ReadAt now := by
  simp only [parsePacket] at h
  split_ifs at h
  obtain rfl := Option.some.inj h
  exact ⟨rfl, rfl⟩

/-- The loop body prints a line with the time of the call, or nothing. -/
lemma Receiver.consume_readAt {N : Nat} (s : Receiver N) (d : RxDesc) (now : Nat) :
    s.consume d now = s ∨ ∃ l, l.ReadAt now ∧ (s.consume d now).out = s.out ++ [l] := by
  simp only [consume]
  split_ifs
  · exact .inl rfl
  · split
    · next l hl => exact .inr ⟨l, parsePacket_readAt hl, rfl⟩
    · exact .inl rfl

namespace AfxdpLink

variable {lib : XskLib} {opt rxOpt : UserOpt}
  {s s' : AfxdpLink opt.framesPerRing rxOpt.framesPerRing}

/-- The time of a call that finds a packet. -/
def reading (s : AfxdpLink opt.framesPerRing rxOpt.framesPerRing) : AfxdpLinkAct → Option Nat
  | .receiver (.recv now) => if 0 < s.receiver.xsk.rxRing.used then some now else none
  | _                     => none

/-- The times of the calls that found a packet. -/
def readings (tr : List (AfxdpLink opt.framesPerRing rxOpt.framesPerRing × AfxdpLinkAct)) :
    List Nat :=
  tr.filterMap fun x => x.1.reading x.2

lemma readings_concat (tr : List (AfxdpLink opt.framesPerRing rxOpt.framesPerRing × AfxdpLinkAct))
    (s : AfxdpLink opt.framesPerRing rxOpt.framesPerRing) (a : AfxdpLinkAct) :
    readings (tr ++ [(s, a)]) = readings tr ++ (s.reading a).toList := by
  rw [readings, List.filterMap_append, ← readings]
  congr 1

/-- The packets read are counted by the ring, and those after the first have a line. -/
structure Read (times : List Nat) (s : AfxdpLink opt.framesPerRing rxOpt.framesPerRing) :
    Prop where
  count : times.length = s.receiver.xsk.rxRing.cons
  lines : List.Forall₂ RxLine.ReadAt s.receiver.out times.tail

/-- A call that finds a packet takes it off the ring. -/
lemma recvPkt_of_used (lib : XskLib) (hpos : 0 < s.receiver.xsk.rxRing.used)
    (hroom : s.receiver.xsk.rxFillRing.used < rxOpt.framesPerRing) (now : Nat) :
    (s.receiver.recvPkt lib now).xsk.rxRing.cons = s.receiver.xsk.rxRing.cons + 1 ∧
      (s.receiver.recvPkt lib now).out = (s.receiver.consume
        (s.receiver.xsk.rxRing.entry s.receiver.xsk.rxRing.cons) now).out := by
  rw [Receiver.recvPkt, dif_pos (lib.peek_one_iff.mpr hpos),
    dif_pos (lib.reserve_one_iff.mpr hroom)]
  exact ⟨rfl, rfl⟩

lemma Read.recv {times stored : List Nat} (h : Read times s) (hflows : Flows stored s)
    (hcount : rxOpt.framesToSend = opt.framesToSend) {now : Nat}
    (hs : (afxdpLinkLts lib opt rxOpt).step s (.receiver (.recv now)) = some s')
    (hused : 0 < s.receiver.xsk.rxRing.used) : Read (times ++ [now]) s' := by
  obtain ⟨r, hr, rfl⟩ := Option.map_eq_some_iff.mp hs
  obtain ⟨hlt, rfl⟩ := of_guard hr
  have hroom : s.receiver.xsk.rxFillRing.used < rxOpt.framesPerRing := by
    have hframes := hflows.gets.frames
    omega
  obtain ⟨hcons, hout⟩ := recvPkt_of_used lib hused hroom now
  have hlength := hflows.gets.length_eq
  have hafter : Receiver.Gets opt stored s.sent s.link (s.receiver.recvPkt lib now) :=
    hflows.gets.recv (hcount ▸ hlt) now
  have hlength' := hafter.length_eq
  rw [hcons, hout] at hlength'
  refine ⟨?_, ?_⟩
  · show _ = (s.receiver.recvPkt lib now).xsk.rxRing.cons
    rw [hcons, List.length_append, List.length_singleton, h.count]
  · show List.Forall₂ _ (s.receiver.recvPkt lib now).out _
    rw [hout]
    obtain hsame | ⟨l, hl, hgrown⟩ := s.receiver.consume_readAt
      (s.receiver.xsk.rxRing.entry s.receiver.xsk.rxRing.cons) now
    · -- only the first packet leaves no line
      rw [hsame] at hlength' ⊢
      have hnone : times = [] := List.eq_nil_of_length_eq_zero (by rw [h.count]; omega)
      subst hnone
      exact h.lines
    · rw [hgrown, List.length_append, List.length_singleton] at hlength'
      rw [hgrown]
      obtain ⟨time, rest, rfl⟩ := List.exists_cons_of_length_pos (l := times) (by
        rw [h.count]
        omega)
      exact readAt_concat h.lines hl

/-- Whatever is no call that finds a packet changes neither the lines nor how many packets were
read. -/
lemma Read.other {times : List Nat} {a : AfxdpLinkAct} (h : Read times s)
    (ha : s.reading a = none) (hs : (afxdpLinkLts lib opt rxOpt).step s a = some s') :
    Read times s' := by
  by_cases hrecv : ∃ b, a = .receiver b
  · obtain ⟨b, rfl⟩ := hrecv
    have hb := receiver_step hs
    obtain ⟨now, rfl, hp, -⟩ | ⟨now, rfl, -, hsame⟩ | ⟨k, rfl, hk⟩ := Receiver.step_cases hb
    · rw [reading, if_pos hp] at ha
      cases ha
    · exact ⟨hsame ▸ h.count, hsame ▸ h.lines⟩
    · obtain ⟨xsk, -, he⟩ := Option.map_eq_some_iff.mp hb
      refine ⟨(Receiver.rings_kernelStep hk).2 ▸ h.count, ?_⟩
      rw [← he]
      exact h.lines
  · have hsame := receiver_eq (fun b hb => hrecv ⟨b, hb⟩) hs
    exact ⟨hsame ▸ h.count, hsame ▸ h.lines⟩

lemma Read.step {tr : List (AfxdpLink opt.framesPerRing rxOpt.framesPerRing × AfxdpLinkAct)}
    {a : AfxdpLinkAct} (h : Read (readings tr) s) (hflows : Flows (stored tr) s)
    (hcount : rxOpt.framesToSend = opt.framesToSend)
    (hs : (afxdpLinkLts lib opt rxOpt).step s a = some s') :
    Read (readings (tr ++ [(s, a)])) s' := by
  rw [readings_concat]
  cases hreading : s.reading a with
  | none =>
    rw [Option.toList_none, List.append_nil]
    exact h.other hreading hs
  | some now =>
    obtain ⟨rfl, hused⟩ : a = .receiver (.recv now) ∧ 0 < s.receiver.xsk.rxRing.used := by
      unfold reading at hreading
      split at hreading
      · split_ifs at hreading with hused
        exact ⟨by rw [Option.some.inj hreading], hused⟩
      · cases hreading
    exact h.recv hflows hcount hs hused

/-- The lines show when the calls were made that found their packets, all but the first. -/
theorem readAt_readings
    {tr : List (AfxdpLink opt.framesPerRing rxOpt.framesPerRing × AfxdpLinkAct)}
    (h : (afxdpLinkLts lib opt rxOpt).Run tr s)
    (hcount : rxOpt.framesToSend = opt.framesToSend) (hsmooth : ∀ x ∈ tr, Smooth x.1 x.2) :
    List.Forall₂ RxLine.ReadAt s.receiver.out (readings tr).tail := by
  have hread : Read (readings tr) s := by
    refine h.induct_of (P := fun tr s => Read (readings tr) s) (C := Smooth) ?_ ?_ hsmooth
    · intro s hinit
      obtain ⟨-, ⟨buffer, xsk, hx, hr⟩, -⟩ := hinit
      rw [initXdpSocket_eq lib rxOpt.framesPerRing_pos] at hx
      obtain rfl := Option.some.inj hx
      refine ⟨?_, ?_⟩
      · rw [hr]
        rfl
      · rw [hr]
        exact .nil
    · intro tr s a s' hrun hbefore hI hC hs
      exact hI.step (flows hrun hcount hbefore) hcount hs
  exact hread.lines

end AfxdpLink

end Txrx

end TsnRefSw
