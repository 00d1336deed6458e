import TsnRefSw.Plugin.Subscriber

/-!
# Messages between two plugins

As long as the publisher overwrites no frame that is in use, and the kernel of the subscriber uses
its frames in order, publisher, wire and subscriber together are a queue that may lose messages on
the wire: the callback finds messages that were submitted, in their order, and each at most once.
-/

namespace TsnRefSw

open Core

namespace Plugin

open Txrx (XskLib RxDesc)

/-- The messages on the way: those that wait at the subscriber, those on the wire and those that
are still to be transmitted. -/
structure Carries (ch : SendChannel) (s : Link) (rx wire tx : List (List UInt8)) : Prop where
  finds : Finds ch s.subscriber rx
  aligned : Aligned s.subscriber
  frames : s.wire = wire.map (frame ch)
  proper : ∀ m ∈ wire, Proper ch m
  sends : Sends ch s.publisher s.sent tx

/-- The messages on the way, oldest first. -/
def OnTheWay (ch : SendChannel) (s : Link) (q : List (List UInt8)) : Prop :=
  ∃ rx wire tx, q = rx ++ (wire ++ tx) ∧ Carries ch s rx wire tx

/-- What is seen of a step is a step of the queue. -/
def Matches (lib : XskLib) (ch : SendChannel) (s s' : Link) (a : LinkAct)
    (q : List (List UInt8)) : Prop :=
  match s.seen lib ch a with
  | some b => ∃ q', (Lossy.lts _).step q b = some q' ∧ OnTheWay ch s' q'
  | none   => OnTheWay ch s' q

section

variable {lib : XskLib} {ch : SendChannel} {s s' : Link} {rx wire tx q : List (List UInt8)}
  {tr : List (Link × LinkAct)}

lemma onTheWay_init (h : (linkLts lib ch).init s) : OnTheWay ch s [] := by
  obtain ⟨hpublisher, hsubscriber, hsent, hwire⟩ := h
  refine ⟨[], [], [], rfl, finds_init hsubscriber, aligned_init hsubscriber, hwire, nofun, ?_⟩
  rw [hsent]
  exact sends_init hpublisher

lemma Matches.of_send {a : LinkAct} {m : List UInt8}
    (hseen : s.seen lib ch a = some (.send m)) (h : OnTheWay ch s' (q ++ [m])) :
    Matches lib ch s s' a q := by
  rw [Matches, hseen]
  exact ⟨q ++ [m], rfl, h⟩

lemma Matches.of_receive {a : LinkAct} {m : List UInt8}
    (hseen : s.seen lib ch a = some (.receive m)) (h : OnTheWay ch s' q) :
    Matches lib ch s s' a (m :: q) := by
  rw [Matches, hseen]
  exact ⟨q, if_pos rfl, h⟩

lemma Matches.of_quiet {a : LinkAct} (hseen : s.seen lib ch a = none) (h : OnTheWay ch s' q) :
    Matches lib ch s s' a q := by
  rw [Matches, hseen]
  exact h

lemma Matches.exists {a : LinkAct} (h : Matches lib ch s s' a q) : ∃ q', OnTheWay ch s' q' := by
  rw [Matches] at h
  cases hseen : s.seen lib ch a with
  | none =>
    rw [hseen] at h
    exact ⟨q, h⟩
  | some b =>
    rw [hseen] at h
    obtain ⟨q', -, hway⟩ := h
    exact ⟨q', hway⟩

lemma Carries.publisher (h : Carries ch s rx wire tx) {a : PublisherAct}
    (hsmooth : s.Smooth (.publisher a))
    (hs : (linkLts lib ch).step s (.publisher a) = some s') :
    Matches lib ch s s' (.publisher a) (rx ++ (wire ++ tx)) := by
  replace hs : Link.step lib ch s (.publisher a) = some s' := hs
  simp only [Link.step] at hs
  split_ifs at hs
  obtain ⟨p, hp, rfl⟩ := Option.map_eq_some_iff.mp hs
  obtain ⟨settings, buf, error, rfl, rfl⟩ | ⟨hsend, hquiet, hrx⟩ | ⟨b, rfl, hquiet, hrx⟩ :=
    Publisher.step_cases hp
  · obtain ⟨hroom, hne, hlen⟩ := hsmooth
    have hsends := h.sends.send lib settings error hroom hne hlen
    by_cases hlt : s.publisher.sock.txRing.prod <
        (Plugin.send lib ch s.publisher.sock settings buf error).2.txRing.prod
    · rw [if_pos hlt] at hsends
      refine .of_send (if_pos hlt) ⟨rx, wire, tx ++ [buf], ?_, h.finds, h.aligned, h.frames,
        h.proper, hsends⟩
      simp only [List.append_assoc]
    · rw [if_neg hlt] at hsends
      exact .of_quiet (if_neg hlt) ⟨rx, wire, tx, rfl, h.finds, h.aligned, h.frames, h.proper,
        hsends⟩
  · have hseen : s.seen lib ch (.publisher a) = none := by
      cases a with
      | send settings buf error => exact absurd rfl (hsend settings buf error)
      | txTake => rfl
      | txComplete _ => rfl
      | reception _ => rfl
    have hnumbered := h.sends.numbered.quiet hquiet (hrx ▸ h.sends.numbered.posted)
    have hsends := h.sends.quiet hquiet hnumbered fun i m hm => hrx ▸ (h.sends.stored i m hm).2
    exact .of_quiet hseen ⟨rx, wire, tx, rfl, h.finds, h.aligned, h.frames, h.proper, hsends⟩
  · have hsends := h.sends.reception hquiet hrx fun j offset packet hb => by
      subst hb
      exact hsmooth
    exact .of_quiet rfl ⟨rx, wire, tx, rfl, h.finds, h.aligned, h.frames, h.proper, hsends⟩

/-- A frame that is transmitted is that of the oldest message at the publisher. -/
lemma Carries.transmit (h : Carries ch s rx wire tx)
    (hs : (linkLts lib ch).step s .transmit = some s') :
    Matches lib ch s s' .transmit (rx ++ (wire ++ tx)) := by
  replace hs : Link.step lib ch s .transmit = some s' := hs
  obtain ⟨d, hd, rfl⟩ := Option.map_eq_some_iff.mp hs
  have hnumber : d.1 = s.sent := by simpa using List.find?_some hd
  have hmem : (s.sent, d.2) ∈ s.publisher.txHeld := by
    rw [← hnumber]
    exact List.mem_of_find?_eq_some hd
  obtain ⟨m, rest, rfl, hproper, hbytes, hsends⟩ := h.sends.transmit hmem
  refine .of_quiet rfl ⟨rx, wire ++ [m], rest, ?_, h.finds, h.aligned, ?_, ?_, hsends⟩
  · simp only [List.append_assoc, List.cons_append, List.nil_append]
  · rw [List.map_append, ← h.frames, List.map_singleton, ← hbytes]
  · rw [List.forall_mem_append, List.forall_mem_singleton]
    exact ⟨h.proper, hproper⟩

lemma Carries.lose (h : Carries ch s rx wire tx) {i : Nat}
    (hs : (linkLts lib ch).step s (.lose i) = some s') :
    Matches lib ch s s' (.lose i) (rx ++ (wire ++ tx)) := by
  replace hs : Link.step lib ch s (.lose i) = some s' := hs
  obtain ⟨hi, rfl⟩ := of_guard hs
  have hwire : i < wire.length := by
    rw [h.frames, List.length_map] at hi
    exact hi
  have hlt : rx.length + i < (rx ++ (wire ++ tx)).length := by
    simp only [List.length_append]
    omega
  refine ⟨rx ++ (wire.eraseIdx i ++ tx), ?_, rx, wire.eraseIdx i, tx, rfl, h.finds, h.aligned, ?_,
    ?_, h.sends⟩
  · show (if s.subscriber.rxRing.used + i < _ then some _ else none) = _
    rw [h.finds.used, if_pos hlt, List.eraseIdx_append_of_length_le (Nat.le_add_right _ _),
      Nat.add_sub_cancel_left, List.eraseIdx_append_of_lt_length hwire]
  · rw [h.frames, List.eraseIdx_map]
  · exact fun m hm => h.proper m (List.mem_of_mem_eraseIdx hm)

lemma Carries.subscriber (h : Carries ch s rx wire tx) {a : Act}
    (hsmooth : s.Smooth (.subscriber a))
    (hs : (linkLts lib ch).step s (.subscriber a) = some s') :
    Matches lib ch s s' (.subscriber a) (rx ++ (wire ++ tx)) := by
  replace hs : Link.step lib ch s (.subscriber a) = some s' := hs
  cases a with
  | callback allocated select =>
    simp only [Link.step] at hs
    obtain ⟨x, hx, rfl⟩ := Option.map_eq_some_iff.mp hs
    have hstep : (receiveLts lib ch.toChannel).step s.subscriber (.callback allocated select) =
        some x := hx
    have haligned := h.aligned.step (a := .callback allocated select) trivial hstep
    obtain rfl := Option.some.inj hx
    obtain ⟨m, rest, rfl, hfound, hfinds⟩ | ⟨hfound, hfinds⟩ :=
      h.finds.callback lib allocated select
    · exact .of_receive (congrArg (Option.map _) hfound)
        ⟨rest, wire, tx, rfl, hfinds, haligned, h.frames, h.proper, h.sends⟩
    · exact .of_quiet (congrArg (Option.map _) hfound)
        ⟨rx, wire, tx, rfl, hfinds, haligned, h.frames, h.proper, h.sends⟩
  | rxTake =>
    simp only [Link.step] at hs
    obtain ⟨x, hx, rfl⟩ := Option.map_eq_some_iff.mp hs
    have hstep : (receiveLts lib ch.toChannel).step s.subscriber .rxTake = some x := hx
    have haligned := h.aligned.step (a := .rxTake) trivial hstep
    exact .of_quiet rfl ⟨rx, wire, tx, rfl, h.finds.take hx, haligned, h.frames, h.proper, h.sends⟩
  | rxDeliver j offset packet =>
    simp only [Link.step] at hs
    split_ifs at hs with hhead
    obtain ⟨x, hx, rfl⟩ := Option.map_eq_some_iff.mp hs
    obtain ⟨m, rest, rfl, rfl⟩ : ∃ m rest, wire = m :: rest ∧ frame ch m = packet := by
      rw [h.frames, List.head?_map] at hhead
      obtain ⟨m, hm, he⟩ := Option.map_eq_some_iff.mp hhead
      exact ⟨m, wire.tail, (List.cons_head?_tail hm).symm, he⟩
    have hproper := h.proper m List.mem_cons_self
    obtain rfl : j = 0 := hsmooth
    have hne : frame ch m ≠ [] := List.ne_nil_of_length_pos (length_frame_pos ch m)
    have hstep : (receiveLts lib ch.toChannel).step s.subscriber
        (.rxDeliver 0 offset (frame ch m)) = some x := hx
    have haligned := h.aligned.step (a := .rxDeliver 0 offset (frame ch m)) ⟨rfl, hne⟩ hstep
    have hspares : ∀ addr ∈ s.subscriber.rxHeld[0]?, ∀ d ∈ s.subscriber.rxRing.entries,
        frameOf addr ≠ frameOf d.addr := by
      obtain ⟨_, _, ha, -⟩ | ⟨ha, -⟩ | ⟨_, _, _, _, -, -, -, hu, -⟩ := step_cases hx
      · cases ha
      · cases ha
      · exact fun addr haddr => h.aligned.spares haddr hu
    refine .of_quiet rfl ⟨rx ++ [m], rest, tx, ?_, h.finds.deliver hproper hx hspares, haligned, ?_,
      fun m hm => h.proper m (List.mem_cons_of_mem _ hm), h.sends⟩
    · simp only [List.append_assoc, List.cons_append, List.nil_append]
    · rw [h.frames]
      rfl

lemma OnTheWay.step (h : OnTheWay ch s q) {a : LinkAct} (hsmooth : s.Smooth a)
    (hs : (linkLts lib ch).step s a = some s') : Matches lib ch s s' a q := by
  obtain ⟨rx, wire, tx, rfl, hcarries⟩ := h
  cases a with
  | publisher _ => exact hcarries.publisher hsmooth hs
  | transmit => exact hcarries.transmit hs
  | lose _ => exact hcarries.lose hs
  | subscriber _ => exact hcarries.subscriber hsmooth hs

/-- The messages that a descriptor was submitted for. -/
def submitted (lib : XskLib) (ch : SendChannel) (tr : List (Link × LinkAct)) :
    List (List UInt8) :=
  tr.filterMap fun x => match x.2 with
    | .publisher (.send settings buf error) =>
      if x.1.publisher.sock.txRing.prod <
          (send lib ch x.1.publisher.sock settings buf error).2.txRing.prod then some buf else none
    | _ => none

/-- The messages that the subscribe callback found. -/
def found (lib : XskLib) (ch : SendChannel) (tr : List (Link × LinkAct)) : List (List UInt8) :=
  tr.filterMap fun x => match x.2 with
    | .subscriber a => subscribed lib ch.toChannel x.1.subscriber a
    | _             => none

/-- The number of messages on the way. -/
def Link.pending (s : Link) : Nat :=
  s.subscriber.rxRing.used + s.wire.length + (s.publisher.sock.txRing.prod - s.sent)

lemma OnTheWay.length_eq (h : OnTheWay ch s q) : q.length = s.pending := by
  obtain ⟨rx, wire, tx, rfl, hcarries⟩ := h
  rw [Link.pending, hcarries.finds.used, hcarries.frames, hcarries.sends.prod, List.length_append,
    List.length_append, List.length_map, Nat.add_sub_cancel_left, Nat.add_assoc]

/-- Each callback gives back all it took. -/
theorem link_balanced (h : (linkLts lib ch).Run tr s) (hsmooth : ∀ x ∈ tr, x.1.Smooth x.2) :
    ∀ x ∈ tr, ∀ a, x.2 = .subscriber a → ReturnsBalanced lib ch.toChannel x.1.subscriber a := by
  have hboth : (∃ q, OnTheWay ch s q) ∧
      ∀ x ∈ tr, ∀ a, x.2 = .subscriber a → ReturnsBalanced lib ch.toChannel x.1.subscriber a := by
    induction h with
    | init h => exact ⟨⟨[], onTheWay_init h⟩, nofun⟩
    | @step tr s s' a h hs ih =>
      rw [List.forall_mem_append, List.forall_mem_singleton] at hsmooth ⊢
      obtain ⟨⟨q, hway⟩, hbefore⟩ := ih hsmooth.1
      refine ⟨(hway.step hsmooth.2 hs).exists, hbefore, ?_⟩
      rintro _ rfl allocated select rfl
      obtain ⟨rx, wire, tx, -, hcarries⟩ := hway
      obtain ⟨m, rest, -, -, hfinds⟩ | ⟨-, hfinds⟩ :=
        hcarries.finds.callback lib allocated select
      · exact hfinds.settled.balanced
      · exact hfinds.settled.balanced
  exact hboth.2

end

section OneMessage

private def uadp : SendChannel where
  vid := 0
  targetAddress := #v[0x01, 0x00, 0x5e, 0x00, 0x00, 0x08]
  prio := 0
  ifAddress := #v[0x22, 0xbb, 0x22, 0xbb, 0x22, 0x08]

private def sock : XdpSock where
  buffer := fun _ => 0
  rxRing := .empty ⟨0, 0⟩
  rxReleased := 0
  fq := .full fun i => i * noOfDesc
  fqSubmitted := noOfDesc
  rxNpkts := 0
  rxHeld := []

/-- Both sockets as they were set up. -/
private def linked : Link where
  publisher := {
    sock := { sock with
      txRing := .empty ⟨0, 0, none⟩
      cq := .empty 0
      curTx := 0
      outstandingTx := 0
      txNpkts := 0
      curTx_lt := frameSize_pos }
    txHeld := [] }
  sent := 0
  wire := []
  subscriber := sock

private lemma linked_init : (linkLts .reference uadp).init linked := by
  have hsock : xskConfigure .reference (fun _ => 0) = some sock := by
    rw [xskConfigure, xdpUmemConfigure, if_pos]
    · rfl
    · exact (XskLib.reference.reserve_eq_iff _ (by decide)).mpr le_rfl
  refine ⟨⟨⟨fun _ => 0, ?_⟩, rfl⟩, ⟨fun _ => 0, hsock⟩, rfl, rfl⟩
  rw [xskConfigureSend, hsock]
  rfl

/-- A frame delivered to the first address the kernel holds. -/
private lemma step_head {s : Link} {addr : Nat} {packet : List UInt8}
    (hhead : s.wire.head? = some packet) (hj : s.subscriber.rxHeld[0]? = some addr)
    (hu : s.subscriber.rxRing.used < noOfDesc)
    (hroom : s.subscriber.rxRing.prod < s.subscriber.rxReleased + noOfDesc ∧
      256 + packet.length ≤ frameSize) :
    (linkLts .reference uadp).step s (.subscriber (.rxDeliver 0 256 packet)) = some { s with
      wire := s.wire.tail
      subscriber := { s.subscriber with
        rxHeld := s.subscriber.rxHeld.eraseIdx 0
        buffer := s.subscriber.buffer.copyTo (addr + 256) packet
        rxRing := s.subscriber.rxRing.push ⟨addr + 256, packet.length⟩ hu } } :=
  (if_pos hhead).trans (congrArg (Option.map _)
    (step_deliver .reference uadp.toChannel hj hu hroom))

/-- A message is sent, transmitted, delivered and found. -/
private lemma exists_run : ∃ tr s, (linkLts .reference uadp).Run tr s ∧
    (∀ x ∈ tr, x.1.Smooth x.2) ∧ (∀ x ∈ tr, ∀ i, x.2 ≠ .lose i) ∧
    found .reference uadp tr = [[7, 7, 7]] ∧ s.pending = 0 := by
  have h₁ := (Lts.Run.init linked_init).step
    (a := .publisher (.send ⟨false, 0⟩ [7, 7, 7] none)) rfl
  have h₂ := h₁.step (a := .publisher .txTake) rfl
  have h₃ := h₂.step (a := .transmit) rfl
  have h₄ := h₃.step (a := .subscriber .rxTake) rfl
  have h₅ := h₄.step (a := .subscriber (.rxDeliver 0 256 (frame uadp [7, 7, 7])))
    (step_head (by decide +kernel) rfl (by decide +kernel) (by decide +kernel))
  have h₆ := h₅.step (a := .subscriber (.callback true 1)) rfl
  refine ⟨_, _, h₆, fun x hx => ?_, ?_, ?_, ?_⟩
  · simp only [List.nil_append, List.cons_append, List.mem_cons, List.not_mem_nil, or_false] at hx
    rcases hx with rfl | rfl | rfl | rfl | rfl | rfl
    · exact ⟨by decide +kernel, by simp, by decide⟩
    · trivial
    · trivial
    · trivial
    · rfl
    · trivial
  · simp
  · decide +kernel
  · decide +kernel

theorem link_balanced_one : ∃ tr s, (linkLts .reference uadp).Run tr s ∧
    found .reference uadp tr = [[7, 7, 7]] ∧ ∀ x ∈ tr, ∀ a, x.2 = .subscriber a →
      ReturnsBalanced .reference uadp.toChannel x.1.subscriber a := by
  obtain ⟨tr, s, hrun, hsmooth, -, hfound, -⟩ := exists_run
  exact ⟨tr, s, hrun, hfound, link_balanced hrun hsmooth⟩

end OneMessage

end Plugin

end TsnRefSw
