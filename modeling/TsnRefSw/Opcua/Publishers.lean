import TsnRefSw.Opcua.RoundTrip.Numbers

/-!
# One process with any number of publishers

The configuration admits several publishers and subscribers, each with its thread. They have
the counter, the flags and the queue of their process in common, and the data set of every
publisher refers to one node, `payload-datasource`, that is read with the callback it was added
with. The main thread reads this node as well, while the library adds it and later for clients.
-/

namespace TsnRefSw

open Core

namespace Opcua

/-- `pub->readFunc`. -/
inductive ReadFunc where
  | pubGetDataToTransmit
  | pubReturnGetDataToTransmit
deriving DecidableEq, Repr

/-- `sub->writeFunc`. -/
inductive WriteFunc where
  | subStoreDataReceived
  | subReturnStoreDataReceived
deriving DecidableEq, Repr

/-- What `configureServer()` assigns. -/
def writeFunc (twoWayData : Bool) : WriteFunc :=
  if twoWayData = false then .subStoreDataReceived else .subReturnStoreDataReceived

/-- What a process is configured with: `twoWayData` of its publishers and of its subscribers,
and the callback the node was added with. -/
structure ProcessConfig where
  packetCount : PacketCount
  cap : Nat
  id : Int32
  publishers : List Bool
  subscribers : List Bool
  node : ReadFunc

/-- A process with its threads. The main thread is always about to read the node, or has begun
to. -/
structure Process (cap : Nat) where
  server : Server cap
  pubs : List PubPc
  subs : List SubPc
  main : PubPc

inductive ProcessAct where
  /-- `while (g_running)` -/
  | test (i : Nat)
  /-- `if (!g_roundtrip_pubReturn)` -/
  | gate (i : Nat)
  /-- A publisher's thread or the main thread reads the node. -/
  | read (k : Option Nat) (now : UInt64)
  | forward (k : Option Nat) (now : UInt64)
  /-- The sample is published, or handed to the client. -/
  | emit (k : Option Nat)
  /-- `while (g_running)` -/
  | subTest (j : Nat)
  /-- A subscriber is handed a message. -/
  | receive (j : Nat) (data : Option Variant) (now : UInt64)
  | store (j : Nat) (now : UInt64)
  | finish (j : Nat)
  /-- A subscriber's callback returns. -/
  | idle (j : Nat)
  /-- `stopHandler()` -/
  | stop
deriving DecidableEq

namespace ProcessConfig

variable (c : ProcessConfig)

/-- What `configureServer()` leaves: with a return publisher the threads are paused and there is
a queue. -/
def startServer : Server c.cap :=
  if true ∈ c.publishers then .initialReturn c.id else .initial c.id

/-- The first piece of a read of the node. -/
def readNode (s : Server c.cap) (now : UInt64) : Server c.cap × PubPc :=
  match c.node with
  | .pubGetDataToTransmit =>
    ((s.pubGetDataToTransmit c.packetCount now).1,
      .emit (s.pubGetDataToTransmit c.packetCount now).2)
  | .pubReturnGetDataToTransmit => (s.msgrcv.2, .forward s.msgrcv.1)

/-- The first piece of a subscriber's callback. -/
def receive (twoWayData : Bool) (s : Server c.cap) (data : Option Variant) (now : UInt64) :
    Option (Server c.cap × SubPc) :=
  match writeFunc twoWayData with
  | .subStoreDataReceived =>
    match data with
    | none => some (s, .receive)
    | some v =>
      if v.arrayLength = noLength ∧ v.data = none then some (s, .receive)
      else if v.arrayLength = noLength ∨ 0 < v.arrayLength then some (s.raise, .store v)
      else some (s, .finish 999)
  | .subReturnStoreDataReceived =>
    (s.subReturnStoreDataReceived c.packetCount data now).map fun s => (s, .receive)

end ProcessConfig

namespace Process

variable {c : ProcessConfig}

/-- Where a publisher's thread is, or the main thread. -/
def pc {cap : Nat} (s : Process cap) : Option Nat → Option PubPc
  | none   => some s.main
  | some i => s.pubs[i]?

def setPc {cap : Nat} (s : Process cap) (k : Option Nat) (p : PubPc) : Process cap :=
  match k with
  | none   => { s with main := p }
  | some i => { s with pubs := s.pubs.set i p }

/-- Where a thread goes on when it has put a sample out. -/
def afterEmit : Option Nat → PubPc
  | none   => .send
  | some _ => .test

def start (c : ProcessConfig) : Process c.cap where
  server := c.startServer
  pubs := c.publishers.map fun _ => .test
  subs := c.subscribers.map fun _ => .test
  main := .send

/-- A piece of one of the threads. -/
def step (c : ProcessConfig) (s : Process c.cap) : ProcessAct → Option (Process c.cap)
  | .test i =>
    if s.pc (some i) = some .test then
      some (s.setPc (some i) (if s.server.gRunning then .gate else .left))
    else none
  | .gate i =>
    if s.pc (some i) = some .gate then
      some (s.setPc (some i) (if s.server.gRoundtripPubReturn then .send else .test))
    else none
  | .read k now =>
    if s.pc k = some .send then
      some { s.setPc k (c.readNode s.server now).2 with server := (c.readNode s.server now).1 }
    else none
  | .forward k now =>
    match s.pc k with
    | some (.forward m) =>
      let r := s.server.forward c.packetCount m now
      some { s.setPc k (.emit r.2.2) with server := r.1 }
    | _ => none
  | .emit k =>
    match s.pc k with
    | some (.emit _) => some (s.setPc k (afterEmit k))
    | _ => none
  | .subTest j =>
    if s.subs[j]? = some .test then
      some { s with subs := s.subs.set j (if s.server.gRunning then .receive else .left) }
    else none
  | .receive j data now =>
    if s.subs[j]? = some .receive then
      (c.subscribers[j]?.bind fun twoWayData => c.receive twoWayData s.server data now).map
        fun r => { s with server := r.1, subs := s.subs.set j r.2 }
    else none
  | .store j now =>
    match s.subs[j]? with
    | some (.store v) =>
      (Server.decode v now).map fun m =>
        { s with server := s.server.store m, subs := s.subs.set j (.finish m.rxSequence) }
    | _ => none
  | .finish j =>
    match s.subs[j]? with
    | some (.finish n) =>
      some { s with server := s.server.finish c.packetCount n, subs := s.subs.set j .receive }
    | _ => none
  | .idle j =>
    if s.subs[j]? = some .receive then some { s with subs := s.subs.set j .test } else none
  | .stop => some { s with server := { s.server with gRunning := false } }

end Process

/-- A process under any interleaving of its threads. -/
def processLts (c : ProcessConfig) : Lts (Process c.cap) ProcessAct where
  init s := s = Process.start c
  step := Process.step c

/-! ### What one step can do -/

/-- The pieces of the threads, case by case. -/
inductive ProcessStep (c : ProcessConfig) (s : Process c.cap) :
    ProcessAct → Process c.cap → Prop where
  | test (i : Nat) (hpc : s.pc (some i) = some .test) :
      ProcessStep c s (.test i) (s.setPc (some i) (if s.server.gRunning then .gate else .left))
  | gate (i : Nat) (hpc : s.pc (some i) = some .gate) :
      ProcessStep c s (.gate i)
        (s.setPc (some i) (if s.server.gRoundtripPubReturn then .send else .test))
  | read (k : Option Nat) (now : UInt64) (hpc : s.pc k = some .send) :
      ProcessStep c s (.read k now)
        { s.setPc k (c.readNode s.server now).2 with server := (c.readNode s.server now).1 }
  | forward (k : Option Nat) (now : UInt64) (m : MsgqBuf) (hpc : s.pc k = some (.forward m)) :
      ProcessStep c s (.forward k now)
        { s.setPc k (.emit (s.server.forward c.packetCount m now).2.2) with
          server := (s.server.forward c.packetCount m now).1 }
  | emit (k : Option Nat) (v : Variant) (hpc : s.pc k = some (.emit v)) :
      ProcessStep c s (.emit k) (s.setPc k (Process.afterEmit k))
  | subTest (j : Nat) (hpc : s.subs[j]? = some .test) :
      ProcessStep c s (.subTest j)
        { s with subs := s.subs.set j (if s.server.gRunning then .receive else .left) }
  | receive (j : Nat) (data : Option Variant) (now : UInt64) (twoWayData : Bool)
      (server : Server c.cap) (pc : SubPc) (hpc : s.subs[j]? = some .receive)
      (hsub : c.subscribers[j]? = some twoWayData)
      (hr : c.receive twoWayData s.server data now = some (server, pc)) :
      ProcessStep c s (.receive j data now) { s with server := server, subs := s.subs.set j pc }
  | store (j : Nat) (now : UInt64) (v : Variant) (m : MsgqBuf)
      (hpc : s.subs[j]? = some (.store v)) (hm : Server.decode v now = some m) :
      ProcessStep c s (.store j now)
        { s with server := s.server.store m, subs := s.subs.set j (.finish m.rxSequence) }
  | finish (j : Nat) (n : UInt64) (hpc : s.subs[j]? = some (.finish n)) :
      ProcessStep c s (.finish j)
        { s with server := s.server.finish c.packetCount n, subs := s.subs.set j .receive }
  | idle (j : Nat) (hpc : s.subs[j]? = some .receive) :
      ProcessStep c s (.idle j) { s with subs := s.subs.set j .test }
  | stop : ProcessStep c s .stop { s with server := { s.server with gRunning := false } }

namespace Process

variable {c : ProcessConfig} {s s' : Process c.cap}

theorem step_spec {a : ProcessAct} (h : (processLts c).step s a = some s') :
    ProcessStep c s a s' := by
  replace h : Process.step c s a = some s' := h
  cases a with
  | test i =>
    obtain ⟨hpc, rfl⟩ := of_guard h
    exact .test i hpc
  | gate i =>
    obtain ⟨hpc, rfl⟩ := of_guard h
    exact .gate i hpc
  | read k now =>
    obtain ⟨hpc, rfl⟩ := of_guard h
    exact .read k now hpc
  | forward k now =>
    simp only [step] at h
    split at h
    · next m hpc =>
      cases h
      exact .forward k now m hpc
    · cases h
  | emit k =>
    simp only [step] at h
    split at h
    · next v hpc =>
      cases h
      exact .emit k v hpc
    · cases h
  | subTest j =>
    obtain ⟨hpc, rfl⟩ := of_guard h
    exact .subTest j hpc
  | receive j data now =>
    obtain ⟨hpc, he⟩ := Option.ite_none_right_eq_some.mp h
    obtain ⟨⟨server, pc⟩, hr, rfl⟩ := Option.map_eq_some_iff.mp he
    obtain ⟨twoWayData, hsub, hr⟩ := Option.bind_eq_some_iff.mp hr
    exact .receive j data now twoWayData server pc hpc hsub hr
  | store j now =>
    simp only [step] at h
    split at h
    · next v hpc =>
      obtain ⟨m, hm, rfl⟩ := Option.map_eq_some_iff.mp h
      exact .store j now v m hpc hm
    · cases h
  | finish j =>
    simp only [step] at h
    split at h
    · next n hpc =>
      cases h
      exact .finish j n hpc
    · cases h
  | idle j =>
    obtain ⟨hpc, rfl⟩ := of_guard h
    exact .idle j hpc
  | stop =>
    cases h
    exact .stop

end Process

/-- The pieces of a subscriber's callback, run one after the other, are the callback. -/
lemma ProcessConfig.subStoreDataReceived_eq (c : ProcessConfig) (s : Server c.cap)
    (data : Option Variant) (now : UInt64) :
    s.subStoreDataReceived c.packetCount data now =
      (c.receive false s data now).bind fun r => match r.2 with
        | .store v  => (Server.decode v now).map fun m =>
            (r.1.store m).finish c.packetCount m.rxSequence
        | .finish n => some (r.1.finish c.packetCount n)
        | _         => some r.1 := by
  cases data with
  | none => rfl
  | some v =>
    simp only [Server.subStoreDataReceived, receive, writeFunc, if_true]
    split_ifs
    · rfl
    · rfl
    · rfl

end Opcua

end TsnRefSw
