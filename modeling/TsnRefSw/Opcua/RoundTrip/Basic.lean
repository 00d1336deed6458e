import TsnRefSw.Core.Lts
import TsnRefSw.Opcua.DataSource

/-!
# The round trip

Process A publishes samples and receives them back, process B receives them and publishes them
again. Each process has a publisher thread and a subscriber thread that loop while the
process's `g_running` is set. The four threads are cut into pieces, so that the flags, the queue
and the links are reached in separate pieces, and any interleaving of the pieces is a run.
-/

namespace TsnRefSw

open Core

namespace Opcua

/-- What a link may do to the messages on it. -/
inductive LinkKind where
  /-- Messages are lost, repeated and overtaken at will, but not altered. -/
  | lossy
  /-- Every message arrives once, in the order of sending. -/
  | ordered
deriving DecidableEq, Repr

/-- The `j`-th message on the link arrives. On a lossy link it may arrive again. -/
def LinkKind.take : LinkKind → List Variant → Nat → Option (Variant × List Variant)
  | .lossy,   l,      j => l[j]?.map fun v => (v, l)
  | .ordered, v :: l, 0 => some (v, l)
  | .ordered, _,      _ => none

lemma LinkKind.mem_of_take {k : LinkKind} {l l' : List Variant} {j : Nat} {v : Variant}
    (h : k.take l j = some (v, l')) : v ∈ l ∧ ∀ w ∈ l', w ∈ l := by
  cases k with
  | lossy =>
    obtain ⟨w, hw, he⟩ := Option.map_eq_some_iff.mp h
    cases he
    exact ⟨List.mem_of_getElem? hw, fun _ => id⟩
  | ordered =>
    unfold take at h
    split at h
    · next heq => cases heq
    · cases h
      exact ⟨List.mem_cons_self .., fun _ => List.mem_cons_of_mem _⟩
    · cases h

lemma LinkKind.eq_of_take {l l' : List Variant} {j : Nat} {v : Variant}
    (h : LinkKind.ordered.take l j = some (v, l')) : l = v :: l' := by
  unfold take at h
  split at h
  · next heq => cases heq
  · cases h
    rfl
  · cases h

/-- Where `pub_thread()` is. -/
inductive PubPc where
  /-- At the head of the loop. -/
  | test
  /-- About to look at `g_roundtrip_pubReturn`. -/
  | gate
  /-- In the callback, about to read the data source. -/
  | send
  /-- In the data source of the return publisher, with what was read from the queue. -/
  | forward (m : MsgqBuf)
  /-- In the callback, about to put the message on the link. -/
  | emit (v : Variant)
  | left
deriving DecidableEq, Repr

/-- What is about to be put on the link. -/
@[simp] def PubPc.emitting : PubPc → List Variant
  | .emit v => [v]
  | _       => []

/-- What was read from the queue and not yet made a message of. -/
@[simp] def PubPc.forwarding : PubPc → List MsgqBuf
  | .forward m => [m]
  | _          => []

/-- Where `sub_thread()` is. -/
inductive SubPc where
  /-- At the head of the loop. -/
  | test
  /-- In the callback, waiting for messages. -/
  | receive
  /-- In the callback, about to store the values of a message. -/
  | store (v : Variant)
  /-- In the callback, about to look whether the sample was the last one. -/
  | finish (rxSequence : UInt64)
  | left
deriving DecidableEq, Repr

/-- What was taken from the link and not yet stored. -/
@[simp] def SubPc.storing : SubPc → List Variant
  | .store v => [v]
  | _        => []

/-- What the two processes are configured with. `setupReads` is how often the PubSub stack
reads the data source of A's publisher while it is set up. -/
structure Config where
  packetCount : PacketCount
  cap : Nat
  link : LinkKind
  setupReads : Nat
  idA : Int32
  idB : Int32

/-- The two processes, the links from A to B and back, and the four threads. -/
structure RoundTrip (cap : Nat) where
  a : Server cap
  b : Server cap
  ab : List Variant
  ba : List Variant
  aPub : PubPc
  bSub : SubPc
  bPub : PubPc
  aSub : SubPc

inductive Thread where
  | aPub
  | bSub
  | bPub
  | aSub
deriving DecidableEq, Repr

inductive Action where
  /-- `while (g_running)` -/
  | test (t : Thread)
  /-- `if (!g_roundtrip_pubReturn)` -/
  | gateA
  | gateB
  /-- A's publisher reads its data source. -/
  | publish (now : UInt64)
  | emit
  /-- B's subscriber is handed a message. -/
  | receive (j : Nat)
  | store (now : UInt64)
  | finish
  /-- B's return publisher reads the queue. -/
  | fetch
  | forward (now : UInt64)
  | emitReturn
  /-- A's return subscriber is handed a message. -/
  | receiveReturn (j : Nat) (now : UInt64)
  /-- A subscriber's callback returns. -/
  | idleB
  | idleA
deriving DecidableEq

/-- A piece that takes no sample from one place to another. -/
def Action.Quiet : Action → Prop
  | .test _ | .gateA | .gateB | .finish | .idleB | .idleA => True
  | _ => False

namespace RoundTrip

/-- The data source is read while the publisher is set up. Reading B's data source changes
nothing, the queue being empty. -/
def setUp (c : Config) (s : Server c.cap) : Nat → Server c.cap
  | 0     => s
  | k + 1 => ((setUp c s k).pubGetDataToTransmit c.packetCount 0).1

def start (c : Config) : RoundTrip c.cap where
  a := setUp c (.initial c.idA) c.setupReads
  b := .initialReturn c.idB
  ab := []
  ba := []
  aPub := .test
  bSub := .test
  bPub := .test
  aSub := .test

def step (c : Config) (s : RoundTrip c.cap) : Action → Option (RoundTrip c.cap)
  | .test .aPub =>
    if s.aPub = .test then some { s with aPub := if s.a.gRunning then .gate else .left } else none
  | .test .bSub =>
    if s.bSub = .test then some { s with bSub := if s.b.gRunning then .receive else .left }
    else none
  | .test .bPub =>
    if s.bPub = .test then some { s with bPub := if s.b.gRunning then .gate else .left } else none
  | .test .aSub =>
    if s.aSub = .test then some { s with aSub := if s.a.gRunning then .receive else .left }
    else none
  | .gateA =>
    if s.aPub = .gate then
      some { s with aPub := if s.a.gRoundtripPubReturn then .send else .test }
    else none
  | .gateB =>
    if s.bPub = .gate then
      some { s with bPub := if s.b.gRoundtripPubReturn then .send else .test }
    else none
  | .publish now =>
    if s.aPub = .send then
      let r := s.a.pubGetDataToTransmit c.packetCount now
      some { s with a := r.1, aPub := .emit r.2 }
    else none
  | .emit =>
    match s.aPub with
    | .emit v => some { s with ab := s.ab ++ [v], aPub := .test }
    | _ => none
  | .receive j =>
    if s.bSub = .receive then
      (c.link.take s.ab j).map fun r => { s with b := s.b.raise, ab := r.2, bSub := .store r.1 }
    else none
  | .store now =>
    match s.bSub with
    | .store v =>
      (Server.decode v now).map fun m =>
        { s with b := s.b.store m, bSub := .finish m.rxSequence }
    | _ => none
  | .finish =>
    match s.bSub with
    | .finish n => some { s with b := s.b.finish c.packetCount n, bSub := .receive }
    | _ => none
  | .fetch =>
    if s.bPub = .send then some { s with b := s.b.msgrcv.2, bPub := .forward s.b.msgrcv.1 }
    else none
  | .forward now =>
    match s.bPub with
    | .forward m =>
      let r := s.b.forward c.packetCount m now
      some { s with b := r.1, bPub := .emit r.2.2 }
    | _ => none
  | .emitReturn =>
    match s.bPub with
    | .emit v => some { s with ba := s.ba ++ [v], bPub := .test }
    | _ => none
  | .receiveReturn j now =>
    if s.aSub = .receive then
      (c.link.take s.ba j).bind fun r =>
        (s.a.subReturnStoreDataReceived c.packetCount (some r.1) now).map fun a =>
          { s with a := a, ba := r.2 }
    else none
  | .idleB => if s.bSub = .receive then some { s with bSub := .test } else none
  | .idleA => if s.aSub = .receive then some { s with aSub := .test } else none

end RoundTrip

/-- The round trip under any interleaving of the four threads. -/
def roundTripLts (c : Config) : Lts (RoundTrip c.cap) Action where
  init s := s = RoundTrip.start c
  step := RoundTrip.step c

/-! ### What one step can do -/

/-- The steps of the threads, case by case. -/
inductive RoundTripStep (c : Config) (s : RoundTrip c.cap) : Action → RoundTrip c.cap → Prop where
  | testAPub (hpc : s.aPub = .test) : RoundTripStep c s (.test .aPub)
      { s with aPub := if s.a.gRunning then .gate else .left }
  | testBSub (hpc : s.bSub = .test) : RoundTripStep c s (.test .bSub)
      { s with bSub := if s.b.gRunning then .receive else .left }
  | testBPub (hpc : s.bPub = .test) : RoundTripStep c s (.test .bPub)
      { s with bPub := if s.b.gRunning then .gate else .left }
  | testASub (hpc : s.aSub = .test) : RoundTripStep c s (.test .aSub)
      { s with aSub := if s.a.gRunning then .receive else .left }
  | gateA (hpc : s.aPub = .gate) : RoundTripStep c s .gateA
      { s with aPub := if s.a.gRoundtripPubReturn then .send else .test }
  | gateB (hpc : s.bPub = .gate) : RoundTripStep c s .gateB
      { s with bPub := if s.b.gRoundtripPubReturn then .send else .test }
  | publish (now : UInt64) (hpc : s.aPub = .send) : RoundTripStep c s (.publish now)
      { s with
        a := (s.a.pubGetDataToTransmit c.packetCount now).1
        aPub := .emit (s.a.pubGetDataToTransmit c.packetCount now).2 }
  | emit (v : Variant) (hpc : s.aPub = .emit v) : RoundTripStep c s .emit
      { s with ab := s.ab ++ [v], aPub := .test }
  | receive (j : Nat) (v : Variant) (ab : List Variant) (hpc : s.bSub = .receive)
      (hv : c.link.take s.ab j = some (v, ab)) : RoundTripStep c s (.receive j)
      { s with b := s.b.raise, ab := ab, bSub := .store v }
  | store (now : UInt64) (v : Variant) (m : MsgqBuf) (hpc : s.bSub = .store v)
      (hm : Server.decode v now = some m) : RoundTripStep c s (.store now)
      { s with b := s.b.store m, bSub := .finish m.rxSequence }
  | finish (n : UInt64) (hpc : s.bSub = .finish n) : RoundTripStep c s .finish
      { s with b := s.b.finish c.packetCount n, bSub := .receive }
  | fetch (hpc : s.bPub = .send) : RoundTripStep c s .fetch
      { s with b := s.b.msgrcv.2, bPub := .forward s.b.msgrcv.1 }
  | forward (now : UInt64) (m : MsgqBuf) (hpc : s.bPub = .forward m) :
      RoundTripStep c s (.forward now)
      { s with
        b := (s.b.forward c.packetCount m now).1
        bPub := .emit (s.b.forward c.packetCount m now).2.2 }
  | emitReturn (v : Variant) (hpc : s.bPub = .emit v) : RoundTripStep c s .emitReturn
      { s with ba := s.ba ++ [v], bPub := .test }
  | receiveReturn (j : Nat) (now : UInt64) (v : Variant) (ba : List Variant) (a : Server c.cap)
      (hpc : s.aSub = .receive) (hv : c.link.take s.ba j = some (v, ba))
      (ha : s.a.subReturnStoreDataReceived c.packetCount (some v) now = some a) :
      RoundTripStep c s (.receiveReturn j now) { s with a := a, ba := ba }
  | idleB (hpc : s.bSub = .receive) : RoundTripStep c s .idleB { s with bSub := .test }
  | idleA (hpc : s.aSub = .receive) : RoundTripStep c s .idleA { s with aSub := .test }

namespace RoundTrip

variable {c : Config}

theorem step_spec {s s' : RoundTrip c.cap} {a : Action}
    (h : (roundTripLts c).step s a = some s') : RoundTripStep c s a s' := by
  replace h : RoundTrip.step c s a = some s' := h
  cases a with
  | test t =>
    cases t with
    | aPub =>
      obtain ⟨hpc, rfl⟩ := of_guard h
      exact .testAPub hpc
    | bSub =>
      obtain ⟨hpc, rfl⟩ := of_guard h
      exact .testBSub hpc
    | bPub =>
      obtain ⟨hpc, rfl⟩ := of_guard h
      exact .testBPub hpc
    | aSub =>
      obtain ⟨hpc, rfl⟩ := of_guard h
      exact .testASub hpc
  | gateA =>
    obtain ⟨hpc, rfl⟩ := of_guard h
    exact .gateA hpc
  | gateB =>
    obtain ⟨hpc, rfl⟩ := of_guard h
    exact .gateB hpc
  | publish now =>
    obtain ⟨hpc, rfl⟩ := of_guard h
    exact .publish now hpc
  | emit =>
    simp only [step] at h
    split at h
    · next v hpc =>
      cases h
      exact .emit v hpc
    · cases h
  | receive j =>
    obtain ⟨hpc, he⟩ := Option.ite_none_right_eq_some.mp h
    obtain ⟨⟨v, ab⟩, hv, rfl⟩ := Option.map_eq_some_iff.mp he
    exact .receive j v ab hpc hv
  | store now =>
    simp only [step] at h
    split at h
    · next v hpc =>
      obtain ⟨m, hm, rfl⟩ := Option.map_eq_some_iff.mp h
      exact .store now v m hpc hm
    · cases h
  | finish =>
    simp only [step] at h
    split at h
    · next n hpc =>
      cases h
      exact .finish n hpc
    · cases h
  | fetch =>
    obtain ⟨hpc, rfl⟩ := of_guard h
    exact .fetch hpc
  | forward now =>
    simp only [step] at h
    split at h
    · next m hpc =>
      cases h
      exact .forward now m hpc
    · cases h
  | emitReturn =>
    simp only [step] at h
    split at h
    · next v hpc =>
      cases h
      exact .emitReturn v hpc
    · cases h
  | receiveReturn j now =>
    obtain ⟨hpc, he⟩ := Option.ite_none_right_eq_some.mp h
    obtain ⟨⟨v, ba⟩, hv, he⟩ := Option.bind_eq_some_iff.mp he
    obtain ⟨a, ha, rfl⟩ := Option.map_eq_some_iff.mp he
    exact .receiveReturn j now v ba a hpc hv ha
  | idleB =>
    obtain ⟨hpc, rfl⟩ := of_guard h
    exact .idleB hpc
  | idleA =>
    obtain ⟨hpc, rfl⟩ := of_guard h
    exact .idleA hpc

/-! ### The pieces of a callback

Run without interruption, the pieces do what the callback does. -/

section
variable {s : RoundTrip c.cap}

lemma replay_subStore (hpc : s.bSub = .receive) {j : Nat} {p : UInt64 × UInt64}
    {ab : List Variant} (hv : c.link.take s.ab j = some (Server.sample p, ab)) (now : UInt64) :
    ((roundTripLts c).replay s [.receive j, .store now, .finish]).map Prod.snd =
      (s.b.subStoreDataReceived c.packetCount (some (Server.sample p)) now).map fun b =>
        { s with b := b, ab := ab } := by
  rw [Server.subStoreDataReceived_sample]
  simp [Lts.replay, roundTripLts, step, hpc, hv]

lemma replay_pubReturn (hpc : s.bPub = .send) (now : UInt64) :
    ((roundTripLts c).replay s [.fetch, .forward now, .emitReturn]).map Prod.snd =
      some (let r := s.b.pubReturnGetDataToTransmit c.packetCount now
        { s with b := r.1, ba := s.ba ++ [r.2.2], bPub := .test }) := by
  simp [Lts.replay, roundTripLts, step, hpc, Server.pubReturnGetDataToTransmit]

end

/-! ### Histories -/

/-- The sample A's publisher takes from its data source in a step, if any: its number and its
time. -/
def publishedAt (s : RoundTrip c.cap) : Action → List (UInt64 × UInt64)
  | .publish now => [((s.a.txSequence + 1).toUInt64, now)]
  | _            => []

/-- The sample B's subscriber stores in a step, if any, with the time of its arrival. -/
def storedAt (s : RoundTrip c.cap) : Action → List MsgqBuf
  | .store now =>
    match s.bSub with
    | .store v => (Server.decode v now).toList
    | _ => []
  | _ => []

/-- The message B's return publisher takes from its data source in a step, if any, with its
verdict. -/
def returnedAt (s : RoundTrip c.cap) : Action → List (Server.Verdict × Variant)
  | .forward now =>
    match s.bPub with
    | .forward m => [(s.b.forward c.packetCount m now).2]
    | _ => []
  | _ => []

/-- The message delivered to A in a step while its output is open, if any, with the time of its
arrival. -/
def deliveredAt (s : RoundTrip c.cap) : Action → List (Variant × UInt64)
  | .receiveReturn j now =>
    if s.a.fpSubscriberOutput then
      match c.link.take s.ba j with
      | some (v, _) => [(v, now)]
      | none        => []
    else []
  | _ => []

section
variable (tr : List (RoundTrip c.cap × Action))

def published : List (UInt64 × UInt64) := tr.flatMap fun x => publishedAt x.1 x.2
def stored : List MsgqBuf := tr.flatMap fun x => storedAt x.1 x.2
def returned : List (Server.Verdict × Variant) := tr.flatMap fun x => returnedAt x.1 x.2
def delivered : List (Variant × UInt64) := tr.flatMap fun x => deliveredAt x.1 x.2

variable (s : RoundTrip c.cap) (a : Action)

@[simp] lemma published_append :
    published (tr ++ [(s, a)]) = published tr ++ publishedAt s a := by simp [published]

@[simp] lemma stored_append :
    stored (tr ++ [(s, a)]) = stored tr ++ storedAt s a := by simp [stored]

@[simp] lemma returned_append :
    returned (tr ++ [(s, a)]) = returned tr ++ returnedAt s a := by simp [returned]

@[simp] lemma delivered_append :
    delivered (tr ++ [(s, a)]) = delivered tr ++ deliveredAt s a := by simp [delivered]

end

/-! ### Steps that move nothing -/

/-- All samples are where they were, and B's counters are what they were. -/
structure Rests (s : RoundTrip c.cap) (a : Action) (s' : RoundTrip c.cap) : Prop where
  published : publishedAt s a = []
  stored : storedAt s a = []
  returned : returnedAt s a = []
  delivered : deliveredAt s a = []
  a : s'.a = s.a
  emitting : s'.aPub.emitting = s.aPub.emitting
  ab : s'.ab = s.ab
  storing : s'.bSub.storing = s.bSub.storing
  msgq : s'.b.msgq = s.b.msgq
  forwarding : s'.bPub.forwarding = s.bPub.forwarding
  txSequence : s'.b.txSequence = s.b.txSequence
  prevRxSequence : s'.b.prevRxSequence = s.b.prevRxSequence
  emittingReturn : s'.bPub.emitting = s.bPub.emitting
  ba : s'.ba = s.ba

theorem rests {s s' : RoundTrip c.cap} {a : Action} (h : (roundTripLts c).step s a = some s')
    (ha : a.Quiet) : Rests s a s' := by
  obtain ⟨hp, hst, hr, hd⟩ : publishedAt s a = [] ∧ storedAt s a = [] ∧ returnedAt s a = [] ∧
      deliveredAt s a = [] := by
    cases a with
    | publish | emit | receive | store | fetch | forward | emitReturn | receiveReturn => cases ha
    | _ => exact ⟨rfl, rfl, rfl, rfl⟩
  cases step_spec h with
  | publish | emit | receive | store | fetch | forward | emitReturn | receiveReturn => cases ha
  | testAPub hpc | gateA hpc =>
    refine ⟨hp, hst, hr, hd, rfl, ?_, rfl, rfl, rfl, rfl, rfl, rfl, rfl, rfl⟩
    rw [hpc]
    split_ifs
    · rfl
    · rfl
  | testBSub hpc =>
    refine ⟨hp, hst, hr, hd, rfl, rfl, rfl, ?_, rfl, rfl, rfl, rfl, rfl, rfl⟩
    rw [hpc]
    split_ifs
    · rfl
    · rfl
  | testBPub hpc | gateB hpc =>
    refine ⟨hp, hst, hr, hd, rfl, rfl, rfl, rfl, rfl, ?_, rfl, rfl, ?_, rfl⟩
    · rw [hpc]
      split_ifs
      · rfl
      · rfl
    · rw [hpc]
      split_ifs
      · rfl
      · rfl
  | finish n hpc =>
    refine ⟨hp, hst, hr, hd, rfl, rfl, rfl, ?_, ?_, rfl, ?_, ?_, rfl, rfl⟩
    · rw [hpc]
      rfl
    · exact (Server.finish_frame c.packetCount s.b n).1
    · exact (Server.finish_frame c.packetCount s.b n).2.1
    · exact (Server.finish_frame c.packetCount s.b n).2.2
  | idleB hpc =>
    refine ⟨hp, hst, hr, hd, rfl, rfl, rfl, ?_, rfl, rfl, rfl, rfl, rfl, rfl⟩
    rw [hpc]
    rfl
  | _ => exact ⟨hp, hst, hr, hd, rfl, rfl, rfl, rfl, rfl, rfl, rfl, rfl, rfl, rfl⟩

end RoundTrip

end Opcua

end TsnRefSw
