import Mathlib.Data.List.Chain
import TsnRefSw.Opcua.Duplicates
import TsnRefSw.Opcua.Publishers

/-!
# Forwarding in time

Process B with its subscriber and its return publisher, where the callback of the publisher
looks up to 15 times into the queue. A cycle of the publisher is either paused, which it decides
when it looks at `g_roundtrip_pubReturn`, or decided by the look that finds a message, or else by
the 15th. As long as no second sample is stored before the next cycle, that cycle takes it.
-/

namespace TsnRefSw

open Core

namespace Opcua

/-- Where B's return publisher is. -/
inductive RetryPc where
  | test
  | gate
  /-- In the data source, where `i` looks into the queue have found nothing. -/
  | look (i : Nat)
  | forward (m : MsgqBuf)
  | emit (v : Variant)
  | left
deriving DecidableEq, Repr

/-- The number of times `pubReturnGetDataToTransmit()` looks into the queue. -/
def attempts : Nat := 15

/-- What is about to be published. -/
def RetryPc.emitting : RetryPc → List Variant
  | .emit v => [v]
  | _ => []

/-- Process B with its two threads. -/
structure Forwarder (cap : Nat) where
  server : Server cap
  pub : RetryPc
  sub : SubPc

inductive ForwarderAct where
  /-- `while (g_running)` -/
  | test
  /-- `if (!g_roundtrip_pubReturn)` -/
  | gate
  /-- One `msgrcv()` with `IPC_NOWAIT`. -/
  | look
  | forward (now : UInt64)
  /-- The message is published. -/
  | emit
  /-- `while (g_running)` -/
  | subTest
  | receive (data : Option Variant) (now : UInt64)
  | store (now : UInt64)
  | finish
  /-- The subscriber's callback returns. -/
  | idle
  /-- `stopHandler()` -/
  | stop

/-- B: one return publisher and one subscriber. -/
def returnConfig (packetCount : PacketCount) (cap : Nat) (id : Int32) : ProcessConfig where
  packetCount := packetCount
  cap := cap
  id := id
  publishers := [true]
  subscribers := [false]
  node := .pubReturnGetDataToTransmit

namespace Forwarder

variable (packetCount : PacketCount) {cap : Nat} (id : Int32)

/-- A piece of one of the two threads. -/
def step (s : Forwarder cap) : ForwarderAct → Option (Forwarder cap)
  | .test =>
    if s.pub = .test then some { s with pub := if s.server.gRunning then .gate else .left }
    else none
  | .gate =>
    if s.pub = .gate then
      some { s with pub := if s.server.gRoundtripPubReturn then .look 0 else .test }
    else none
  | .look =>
    match s.pub with
    | .look i =>
      match s.server.msgq.bind Fifo.receive with
      | some (m, q) => some { s with server := { s.server with msgq := some q }, pub := .forward m }
      | none =>
        some { s with pub := if i + 1 < attempts then .look (i + 1) else .forward Server.noMessage }
    | _ => none
  | .forward now =>
    match s.pub with
    | .forward m =>
      let r := s.server.forward packetCount m now
      some { s with server := r.1, pub := .emit r.2.2 }
    | _ => none
  | .emit =>
    match s.pub with
    | .emit _ => some { s with pub := .test }
    | _ => none
  | .subTest =>
    if s.sub = .test then some { s with sub := if s.server.gRunning then .receive else .left }
    else none
  | .receive data now =>
    if s.sub = .receive then
      ((returnConfig packetCount cap id).receive false s.server data now).map
        fun r => { s with server := r.1, sub := r.2 }
    else none
  | .store now =>
    match s.sub with
    | .store v =>
      (Server.decode v now).map fun m =>
        { s with server := s.server.store m, sub := .finish m.rxSequence }
    | _ => none
  | .finish =>
    match s.sub with
    | .finish n => some { s with server := s.server.finish packetCount n, sub := .receive }
    | _ => none
  | .idle => if s.sub = .receive then some { s with sub := .test } else none
  | .stop => some { s with server := { s.server with gRunning := false } }

end Forwarder

/-- B under any interleaving of its two threads, the queue being empty at first. -/
def forwarderLts (packetCount : PacketCount) (cap : Nat) (id : Int32) :
    Lts (Forwarder cap) ForwarderAct where
  init s := s = ⟨.initialReturn id, .test, .test⟩
  step := Forwarder.step packetCount id

/-! ### What one step can do -/

/-- The pieces of the two threads, case by case. -/
inductive ForwarderStep (packetCount : PacketCount) {cap : Nat} (id : Int32)
    (s : Forwarder cap) : ForwarderAct → Forwarder cap → Prop where
  | test (hpc : s.pub = .test) : ForwarderStep packetCount id s .test
      { s with pub := if s.server.gRunning then .gate else .left }
  | paused (hpc : s.pub = .gate) (hflag : s.server.gRoundtripPubReturn = false) :
      ForwarderStep packetCount id s .gate { s with pub := .test }
  | callback (hpc : s.pub = .gate) (hflag : s.server.gRoundtripPubReturn = true) :
      ForwarderStep packetCount id s .gate { s with pub := .look 0 }
  | found (i : Nat) (hpc : s.pub = .look i) (m : MsgqBuf) (q q' : Fifo MsgqBuf cap)
      (hq : s.server.msgq = some q) (hr : q.receive = some (m, q')) :
      ForwarderStep packetCount id s .look
        { s with server := { s.server with msgq := some q' }, pub := .forward m }
  | again (i : Nat) (hpc : s.pub = .look i) (hr : s.server.oldest = none)
      (hi : i + 1 < attempts) :
      ForwarderStep packetCount id s .look { s with pub := .look (i + 1) }
  | missed (i : Nat) (hpc : s.pub = .look i) (hr : s.server.oldest = none)
      (hi : ¬ i + 1 < attempts) :
      ForwarderStep packetCount id s .look { s with pub := .forward Server.noMessage }
  | forward (now : UInt64) (m : MsgqBuf) (hpc : s.pub = .forward m) :
      ForwarderStep packetCount id s (.forward now) { s with
        server := (s.server.forward packetCount m now).1
        pub := .emit (s.server.forward packetCount m now).2.2 }
  | emit (v : Variant) (hpc : s.pub = .emit v) :
      ForwarderStep packetCount id s .emit { s with pub := .test }
  | subTest (hpc : s.sub = .test) : ForwarderStep packetCount id s .subTest
      { s with sub := if s.server.gRunning then .receive else .left }
  | receive (data : Option Variant) (now : UInt64) (server : Server cap) (pc : SubPc)
      (hpc : s.sub = .receive)
      (hr : (returnConfig packetCount cap id).receive false s.server data now =
        some (server, pc)) :
      ForwarderStep packetCount id s (.receive data now) { s with server := server, sub := pc }
  | store (now : UInt64) (v : Variant) (m : MsgqBuf) (hpc : s.sub = .store v)
      (hm : Server.decode v now = some m) :
      ForwarderStep packetCount id s (.store now)
        { s with server := s.server.store m, sub := .finish m.rxSequence }
  | finish (n : UInt64) (hpc : s.sub = .finish n) : ForwarderStep packetCount id s .finish
      { s with server := s.server.finish packetCount n, sub := .receive }
  | idle (hpc : s.sub = .receive) : ForwarderStep packetCount id s .idle { s with sub := .test }
  | stop : ForwarderStep packetCount id s .stop
      { s with server := { s.server with gRunning := false } }

theorem Forwarder.step_spec {packetCount : PacketCount} {cap : Nat} {id : Int32}
    {s s' : Forwarder cap} {a : ForwarderAct}
    (h : (forwarderLts packetCount cap id).step s a = some s') :
    ForwarderStep packetCount id s a s' := by
  replace h : Forwarder.step packetCount id s a = some s' := h
  cases a with
  | test =>
    obtain ⟨hpc, rfl⟩ := of_guard h
    exact .test hpc
  | gate =>
    obtain ⟨hpc, rfl⟩ := of_guard h
    split_ifs with hflag
    · exact .callback hpc hflag
    · exact .paused hpc (Bool.eq_false_iff.mpr hflag)
  | look =>
    simp only [Forwarder.step] at h
    split at h
    · next i hpc =>
      split at h
      · next m q' hr =>
        cases h
        obtain ⟨q, hq, hr⟩ := Option.bind_eq_some_iff.mp hr
        exact .found i hpc m q q' hq hr
      · next hr =>
        have hnone : s.server.oldest = none := by rw [Server.oldest, hr]; rfl
        cases h
        split_ifs with hi
        · exact .again i hpc hnone hi
        · exact .missed i hpc hnone hi
    · cases h
  | forward now =>
    simp only [Forwarder.step] at h
    split at h
    · next m hpc =>
      cases h
      exact .forward now m hpc
    · cases h
  | emit =>
    simp only [Forwarder.step] at h
    split at h
    · next v hpc =>
      cases h
      exact .emit v hpc
    · cases h
  | subTest =>
    obtain ⟨hpc, rfl⟩ := of_guard h
    exact .subTest hpc
  | receive data now =>
    obtain ⟨hpc, he⟩ := Option.ite_none_right_eq_some.mp h
    obtain ⟨⟨server, pc⟩, hr, rfl⟩ := Option.map_eq_some_iff.mp he
    exact .receive data now server pc hpc hr
  | store now =>
    simp only [Forwarder.step] at h
    split at h
    · next v hpc =>
      obtain ⟨m, hm, rfl⟩ := Option.map_eq_some_iff.mp h
      exact .store now v m hpc hm
    · cases h
  | finish =>
    simp only [Forwarder.step] at h
    split at h
    · next n hpc =>
      cases h
      exact .finish n hpc
    · cases h
  | idle =>
    obtain ⟨hpc, rfl⟩ := of_guard h
    exact .idle hpc
  | stop =>
    cases h
    exact .stop

/-- The first piece of the subscriber's callback: only a sample raises the flag. -/
lemma ProcessConfig.receive_oneWay {c : ProcessConfig} {t t' : Server c.cap}
    {data : Option Variant} {now : UInt64} {p : SubPc}
    (h : c.receive false t data now = some (t', p)) :
    (t' = t ∧ ∀ v, p ≠ .store v) ∨ (t' = t.raise ∧ ∃ v, p = .store v) := by
  cases data with
  | none =>
    cases h
    exact .inl ⟨rfl, by simp⟩
  | some v =>
    simp only [ProcessConfig.receive, writeFunc, if_true] at h
    split_ifs at h
    · cases h
      exact .inl ⟨rfl, by simp⟩
    · cases h
      exact .inr ⟨rfl, v, rfl⟩
    · cases h
      exact .inl ⟨rfl, by simp⟩

/-! ### Samples and cycles -/

/-- What counts for the timing. -/
inductive Beat where
  /-- A sample is put in the queue. -/
  | received (m : MsgqBuf)
  /-- A cycle is paused. -/
  | paused
  /-- A cycle takes the message off the queue, or ends its looks without one. -/
  | took (m : Option MsgqBuf)
deriving DecidableEq

/-- There is a cycle between any two samples. -/
def Spaced (es : List Beat) : Prop :=
  es.IsChain fun e e' => ∀ m m', e = .received m → e' ≠ .received m'

/-- A cycle takes a message exactly if a sample came right before it, and that sample; no other
cycle comes right behind a sample. -/
def Prompt (e : Option Beat) (e' : Beat) : Prop :=
  ∀ m, e = some (.received m) ↔ e' = .took (some m)

/-- Every sample is taken by the next cycle, and by no other. -/
def Timely (es : List Beat) : Prop :=
  ∀ l e r, es = l ++ e :: r → Prompt l.getLast? e

/-- What a cycle is to publish: the sample it found or the duplicate marker in its place, and the
copy error if it found none. -/
def Answers (o : Option MsgqBuf) (v : Variant) : Prop :=
  ∃ seqB now, match o with
    | some m => v = Server.reply m seqB now ∨
        v = Server.reply ⟨errorDuplicate, errorDuplicate, errorDuplicate⟩ seqB now
    | none => v = Server.reply ⟨errorMsgqCopy, errorMsgqCopy, errorMsgqCopy⟩ seqB now

lemma timely_concat {es : List Beat} {e : Beat} :
    Timely (es ++ [e]) ↔ Timely es ∧ Prompt es.getLast? e := by
  constructor
  · intro h
    refine ⟨fun l e' r he => ?_, h es e [] rfl⟩
    apply h l e' (r ++ [e])
    rw [he]
    simp
  · rintro ⟨h, hlast⟩ l e' r he
    rcases List.eq_nil_or_concat r with rfl | ⟨r, b, rfl⟩
    · obtain ⟨rfl, hb⟩ := List.append_inj' he rfl
      cases hb
      exact hlast
    · have he' : es ++ [e] = (l ++ e' :: r) ++ [b] := by simpa using he
      exact h l e' r (List.append_inj' he' rfl).1

lemma Spaced.of_append {es es' : List Beat} (h : Spaced (es ++ es')) : Spaced es :=
  (List.isChain_append.mp h).1

namespace Forwarder

variable {packetCount : PacketCount} {cap : Nat} {id : Int32}

/-- The sample the subscriber is about to store. -/
def arriving (s : Forwarder cap) (now : UInt64) : Option MsgqBuf :=
  match s.sub with
  | .store v => Server.decode v now
  | _ => none

def beatAt (s : Forwarder cap) : ForwarderAct → Option Beat
  | .gate => if s.server.gRoundtripPubReturn then none else some .paused
  | .look =>
    match s.server.oldest, s.pub with
    | some m, _ => some (.took (some m))
    | none, .look i => if i + 1 < attempts then none else some (.took none)
    | none, _ => none
  | .store now =>
    (s.arriving now).bind fun m =>
      if ((s.server.msgq.bind fun q => q.send m).isSome) then some (.received m) else none
  | _ => none

/-- The samples received and the cycles of a run, in order. -/
def beats (tr : List (Forwarder cap × ForwarderAct)) : List Beat :=
  tr.filterMap fun x => x.1.beatAt x.2

/-- The unpaused cycles, with what they found. -/
def cycles (tr : List (Forwarder cap × ForwarderAct)) : List (Option MsgqBuf) :=
  (beats tr).filterMap fun e => match e with
    | .took m => some m
    | _ => none

/-- What was published. -/
def published (tr : List (Forwarder cap × ForwarderAct)) : List Variant :=
  tr.filterMap fun x => match x.2, x.1.pub with
    | .emit, .emit v => some v
    | _, _ => none

/-- The samples a run stores have real times. -/
def RealTimes (s : Forwarder cap) : ForwarderAct → Prop
  | .store now => ∀ m ∈ s.arriving now, m.Real
  | _ => True

/-! ### One sample, one cycle -/

lemma beats_concat (tr : List (Forwarder cap × ForwarderAct)) (s : Forwarder cap)
    (a : ForwarderAct) : beats (tr ++ [(s, a)]) = beats tr ++ (s.beatAt a).toList := by
  unfold beats
  rw [List.filterMap_append]
  cases h : s.beatAt a <;> simp [h]

/-- The sample that no cycle has taken yet. -/
def waiting (es : List Beat) : List MsgqBuf :=
  match es.getLast? with
  | some (.received m) => [m]
  | _ => []

lemma waiting_eq_nil_iff {es : List Beat} :
    waiting es = [] ↔ ∀ m, es.getLast? ≠ some (.received m) := by
  unfold waiting
  split
  · next m h => simp [h]
  · next h => simpa using h

lemma waiting_eq_singleton {es : List Beat} {m : MsgqBuf} {l : List MsgqBuf}
    (h : waiting es = m :: l) : es.getLast? = some (.received m) ∧ l = [] := by
  unfold waiting at h
  split at h
  · next m' hm =>
    cases h
    exact ⟨hm, rfl⟩
  · cases h

@[simp] lemma waiting_received (es : List Beat) (m : MsgqBuf) :
    waiting (es ++ [.received m]) = [m] := by
  simp [waiting]

@[simp] lemma waiting_paused (es : List Beat) : waiting (es ++ [.paused]) = [] := by
  simp [waiting]

@[simp] lemma waiting_took (es : List Beat) (o : Option MsgqBuf) :
    waiting (es ++ [.took o]) = [] := by
  simp [waiting]

lemma length_waiting_le (es : List Beat) : (waiting es).length ≤ 1 := by
  unfold waiting
  split
  · simp
  · simp

/-- What the timing of samples and cycles means for the state. -/
structure Orderly (es : List Beat) (s : Forwarder cap) : Prop where
  queue : ∃ q, s.server.msgq = some q ∧ q.items = waiting es
  real : ∀ m ∈ waiting es, m.Real
  forwarding : ∀ m, s.pub = .forward m → m = Server.noMessage ∨ m.Real
  /-- The flag is raised before the sample is stored. -/
  storing : ∀ v, s.sub = .store v → s.server.gRoundtripPubReturn = true
  raised : waiting es ≠ [] → s.server.gRoundtripPubReturn = true
  timely : Timely es

/-- Neither a sample nor a missing message makes the return publisher pause. -/
lemma flag_forward {s : Server cap} {m : MsgqBuf} (hm : m = Server.noMessage ∨ m.Real)
    (now : UInt64) :
    (s.forward packetCount m now).1.gRoundtripPubReturn = s.gRoundtripPubReturn := by
  have hv : Server.verdict s.prevRxSequence m ≠ .earlyInvalid ∧
      Server.verdict s.prevRxSequence m ≠ .earlyMissed := by
    rcases hm with rfl | hm
    · simp
    · rw [Server.verdict_eq_of_real hm]
      split_ifs <;> simp
  simp [Server.forward, hv]

variable {s s' : Forwarder cap} {es : List Beat}

/-- A step that is no beat. -/
lemma Orderly.frame (h : Orderly es s) (hq : s'.server.msgq = s.server.msgq)
    (hflag : s.server.gRoundtripPubReturn = true → s'.server.gRoundtripPubReturn = true)
    (hpub : ∀ m, s'.pub = .forward m → m = Server.noMessage ∨ m.Real)
    (hsub : ∀ v, s'.sub = .store v → s'.server.gRoundtripPubReturn = true) : Orderly es s' where
  queue := by
    rw [hq]
    exact h.queue
  real := h.real
  forwarding := hpub
  storing := hsub
  raised hw := hflag (h.raised hw)
  timely := h.timely

/-- A cycle is paused only while nothing waits. -/
lemma Orderly.paused (h : Orderly es s) (hflag : s.server.gRoundtripPubReturn = false) :
    Orderly (es ++ [.paused]) { s with pub := .test } := by
  have hw : waiting es = [] := by
    by_contra hne
    rw [h.raised hne] at hflag
    cases hflag
  obtain ⟨q, hq, hitems⟩ := h.queue
  refine ⟨⟨q, hq, ?_⟩, ?_, by simp, h.storing, by simp, timely_concat.mpr ⟨h.timely, ?_⟩⟩
  · rw [hitems, hw, waiting_paused]
  · simp
  · intro m
    simpa using waiting_eq_nil_iff.mp hw m

lemma Orderly.waiting_of_receive (h : Orderly es s) {m : MsgqBuf} {q q' : Fifo MsgqBuf cap}
    (hq : s.server.msgq = some q) (hr : q.receive = some (m, q')) :
    es.getLast? = some (.received m) ∧ q'.items = [] ∧ m.Real := by
  obtain ⟨q₁, hq₁, hitems⟩ := h.queue
  obtain rfl : q = q₁ := Option.some.inj (hq.symm.trans hq₁)
  rw [Fifo.items_of_receive hr] at hitems
  obtain ⟨hlast, hrest⟩ := waiting_eq_singleton hitems.symm
  refine ⟨hlast, hrest, h.real m ?_⟩
  rw [← hitems]
  exact List.mem_cons_self ..

/-- The message found is the sample that waited. -/
lemma Orderly.found (h : Orderly es s) {m : MsgqBuf} {q q' : Fifo MsgqBuf cap}
    (hq : s.server.msgq = some q) (hr : q.receive = some (m, q')) :
    Orderly (es ++ [.took (some m)])
      { s with server := { s.server with msgq := some q' }, pub := .forward m } := by
  obtain ⟨hlast, hrest, hreal⟩ := h.waiting_of_receive hq hr
  refine ⟨⟨q', rfl, ?_⟩, ?_, ?_, h.storing, by simp, timely_concat.mpr ⟨h.timely, ?_⟩⟩
  · rw [hrest, waiting_took]
  · simp
  · intro m' hm'
    cases hm'
    exact .inr hreal
  · intro m'
    simp [hlast]

/-- No message is found only while nothing waits. -/
lemma Orderly.missed (h : Orderly es s) (hr : s.server.oldest = none) :
    Orderly (es ++ [.took none]) { s with pub := .forward Server.noMessage } := by
  obtain ⟨q, hq, hitems⟩ := h.queue
  have hw : waiting es = [] := by
    rw [← hitems]
    apply Fifo.receive_eq_none.mp
    simpa [Server.oldest, hq] using hr
  refine ⟨⟨q, hq, ?_⟩, ?_, ?_, h.storing, by simp, timely_concat.mpr ⟨h.timely, ?_⟩⟩
  · rw [hitems, hw, waiting_took]
  · simp
  · intro m hm
    cases hm
    exact .inl rfl
  · intro m
    simpa using waiting_eq_nil_iff.mp hw m

/-- A sample is put in an empty queue, with the flag raised. -/
lemma Orderly.received (h : Orderly es s) {m : MsgqBuf} {v : Variant} {q q' : Fifo MsgqBuf cap}
    (hpc : s.sub = .store v) (hreal : m.Real) (hq : s.server.msgq = some q)
    (hsend : q.send m = some q') (hspaced : Spaced (es ++ [.received m])) :
    Orderly (es ++ [.received m])
      { s with server := s.server.store m, sub := .finish m.rxSequence } := by
  have hw : waiting es = [] := by
    apply waiting_eq_nil_iff.mpr
    intro m' hm'
    have hrel := (List.isChain_append.mp hspaced).2.2 _ hm' (.received m) rfl
    exact hrel m' m rfl rfl
  obtain ⟨q₁, hq₁, hitems⟩ := h.queue
  obtain rfl : q = q₁ := Option.some.inj (hq.symm.trans hq₁)
  refine ⟨⟨q', ?_, ?_⟩, ?_, h.forwarding, by simp, fun _ => h.storing v hpc,
    timely_concat.mpr ⟨h.timely, ?_⟩⟩
  · simp [Server.store, Server.msgsnd, hq, hsend]
  · rw [Fifo.items_of_send hsend, hitems, hw, waiting_received]
    rfl
  · simpa using hreal
  · intro m'
    simpa using waiting_eq_nil_iff.mp hw m'

lemma Orderly.step {a : ForwarderAct} (h : Orderly es s) (hreal : RealTimes s a)
    (hspaced : Spaced (es ++ (s.beatAt a).toList))
    (hs : ForwarderStep packetCount id s a s') : Orderly (es ++ (s.beatAt a).toList) s' := by
  have hframe : s.beatAt a = none → Orderly es s' → Orderly (es ++ (s.beatAt a).toList) s' := by
    intro hb hI
    rwa [hb, Option.toList_none, List.append_nil]
  cases hs with
  | test hpc =>
    apply hframe rfl
    refine h.frame rfl (fun hf => hf) (fun m hm => ?_) h.storing
    dsimp only at hm
    split_ifs at hm
  | paused hpc hflag =>
    have hb : s.beatAt .gate = some .paused := by simp [beatAt, hflag]
    rw [hb]
    exact h.paused hflag
  | callback hpc hflag =>
    apply hframe (by simp [beatAt, hflag])
    exact h.frame rfl (fun hf => hf) (by simp) h.storing
  | found i hpc m q q' hq hr =>
    have hb : s.beatAt .look = some (.took (some m)) := by
      simp [beatAt, Server.oldest, hq, hr]
    rw [hb]
    exact h.found hq hr
  | again i hpc hr hi =>
    apply hframe (by simp [beatAt, hr, hpc, hi])
    exact h.frame rfl (fun hf => hf) (by simp) h.storing
  | missed i hpc hr hi =>
    have hb : s.beatAt .look = some (.took none) := by simp [beatAt, hr, hpc, hi]
    rw [hb]
    exact h.missed hr
  | forward now m hpc =>
    have hf : (s.server.forward packetCount m now).1.gRoundtripPubReturn =
        s.server.gRoundtripPubReturn := flag_forward (h.forwarding m hpc) now
    apply hframe rfl
    refine h.frame rfl (fun hflag => hf.trans hflag) (by simp) (fun v hv => hf.trans ?_)
    exact h.storing v hv
  | emit v hpc =>
    apply hframe rfl
    exact h.frame rfl (fun hf => hf) (by simp) h.storing
  | subTest hpc =>
    apply hframe rfl
    refine h.frame rfl (fun hf => hf) h.forwarding (fun v hv => ?_)
    dsimp only at hv
    split_ifs at hv
  | receive data now server pc hpc hr =>
    apply hframe rfl
    obtain ⟨rfl, hpc'⟩ | ⟨rfl, v, rfl⟩ := ProcessConfig.receive_oneWay hr
    · exact h.frame rfl (fun hf => hf) h.forwarding (fun v hv => absurd hv (hpc' v))
    · exact h.frame rfl (fun _ => rfl) h.forwarding (fun _ _ => rfl)
  | store now v m hpc hm =>
    obtain ⟨q, hq, hitems⟩ := h.queue
    cases hsend : q.send m with
    | none =>
      have hb : s.beatAt (.store now) = none := by simp [beatAt, arriving, hpc, hm, hq, hsend]
      apply hframe hb
      refine h.frame ?_ (fun hf => hf) h.forwarding (by simp)
      simp [Server.store, Server.msgsnd, hq, hsend]
    | some q' =>
      have hb : s.beatAt (.store now) = some (.received m) := by
        simp [beatAt, arriving, hpc, hm, hq, hsend]
      rw [hb] at hspaced ⊢
      refine h.received hpc (hreal m ?_) hq hsend hspaced
      simp [arriving, hpc, hm]
  | finish n hpc =>
    apply hframe rfl
    refine h.frame (Server.finish_frame _ _ _).1 (fun hflag => ?_) h.forwarding (by simp)
    unfold Server.finish
    split_ifs
    · exact hflag
    · exact hflag
  | idle hpc =>
    apply hframe rfl
    exact h.frame rfl (fun hf => hf) h.forwarding (by simp)
  | stop =>
    apply hframe rfl
    exact h.frame rfl (fun hf => hf) h.forwarding h.storing

/-- The samples and cycles of a run are orderly if they are spaced. -/
theorem orderly {tr : List (Forwarder cap × ForwarderAct)}
    (h : (forwarderLts packetCount cap id).Run tr s)
    (hreal : ∀ x ∈ tr, x.1.RealTimes x.2) (hspaced : Spaced (beats tr)) :
    Orderly (beats tr) s := by
  induction h with
  | init h =>
    cases h
    refine ⟨⟨.empty, rfl, rfl⟩, by simp [beats, waiting], by simp, by simp, ?_, ?_⟩
    · intro hne
      exact absurd rfl hne
    · intro l e r he
      simp [beats] at he
  | @step tr s s' a h hs ih =>
    simp only [List.mem_append, List.mem_singleton, or_imp, forall_and, forall_eq] at hreal
    rw [beats_concat] at hspaced ⊢
    have hI := ih hreal.1 hspaced.of_append
    exact hI.step hreal.2 hspaced (step_spec hs)

/-- No step lowers the flag. -/
lemma flag_step {a : ForwarderAct} (h : Orderly es s)
    (hs : ForwarderStep packetCount id s a s') (hflag : s.server.gRoundtripPubReturn = true) :
    s'.server.gRoundtripPubReturn = true := by
  cases hs with
  | forward now m hpc => exact (flag_forward (h.forwarding m hpc) now).trans hflag
  | receive data now server pc hpc hr =>
    obtain ⟨rfl, -⟩ | ⟨rfl, -⟩ := ProcessConfig.receive_oneWay hr
    · exact hflag
    · rfl
  | finish n hpc =>
    simp only [Server.finish]
    split_ifs
    · exact hflag
    · exact hflag
  | _ => exact hflag

/-- The flag is set once and for all. -/
theorem flag_run {tr : List (Forwarder cap × ForwarderAct)}
    (h : (forwarderLts packetCount cap id).Run tr s)
    (hreal : ∀ x ∈ tr, x.1.RealTimes x.2) (hspaced : Spaced (beats tr)) :
    ∀ x ∈ tr, x.1.server.gRoundtripPubReturn = true → s.server.gRoundtripPubReturn = true := by
  induction h with
  | init h => simp
  | @step tr s s' a h hs ih =>
    simp only [List.mem_append, List.mem_singleton, or_imp, forall_and, forall_eq] at hreal
    rw [beats_concat] at hspaced
    have hI := orderly h hreal.1 hspaced.of_append
    have hlast := flag_step hI (step_spec hs)
    intro x hx hflag
    rcases List.mem_append.mp hx with hx | hx
    · exact hlast (ih hreal.1 hspaced.of_append x hx hflag)
    · rw [List.mem_singleton.mp hx] at hflag
      exact hlast hflag

/-! ### One cycle, one message published -/

/-- The cycle whose message is still to be put together. -/
def InHand (o : List (Option MsgqBuf)) : RetryPc → Prop
  | .forward m => ∃ x, o = [x] ∧ m = x.getD Server.noMessage ∧ ∀ m' ∈ x, m'.Real
  | _ => o = []

lemma InHand.length_le {o : List (Option MsgqBuf)} {pub : RetryPc} (h : InHand o pub) :
    o.length ≤ 1 := by
  cases pub with
  | forward m =>
    obtain ⟨x, rfl, -⟩ := h
    simp
  | _ =>
    obtain rfl : o = [] := h
    simp

lemma InHand.eq_nil {o : List (Option MsgqBuf)} {pub : RetryPc} (h : InHand o pub)
    (hpub : ∀ m, pub ≠ .forward m) : o = [] := by
  cases pub with
  | forward m => exact absurd rfl (hpub m)
  | _ => exact h

/-- All cycles but the one in hand have been answered, in order. -/
def Answered (tr : List (Forwarder cap × ForwarderAct)) (s : Forwarder cap) : Prop :=
  ∃ done rest, cycles tr = done ++ rest ∧ InHand rest s.pub ∧
    List.Forall₂ Answers done (published tr ++ s.pub.emitting)

lemma cycles_concat (tr : List (Forwarder cap × ForwarderAct)) (s : Forwarder cap)
    (a : ForwarderAct) : cycles (tr ++ [(s, a)]) = cycles tr ++
      match s.beatAt a with
      | some (.took m) => [m]
      | _ => [] := by
  unfold cycles
  rw [beats_concat, List.filterMap_append]
  cases h : s.beatAt a with
  | none => simp
  | some e => cases e <;> simp

lemma published_concat (tr : List (Forwarder cap × ForwarderAct)) (s : Forwarder cap)
    (a : ForwarderAct) : published (tr ++ [(s, a)]) = published tr ++
      match a with
      | .emit => s.pub.emitting
      | _ => [] := by
  unfold published
  rw [List.filterMap_append]
  cases a with
  | emit => cases h : s.pub <;> simp [h, RetryPc.emitting]
  | _ => simp

variable {tr : List (Forwarder cap × ForwarderAct)} {a : ForwarderAct}

/-- What is forwarded answers the cycle in hand. -/
lemma answers_forward {x : Option MsgqBuf} (hx : ∀ m ∈ x, m.Real) (server : Server cap)
    (now : UInt64) :
    Answers x (server.forward packetCount (x.getD Server.noMessage) now).2.2 := by
  cases x with
  | none => exact ⟨_, now, congrArg Prod.snd (Server.forward_noMessage server now).2⟩
  | some m =>
    have hm : m.Real := hx m rfl
    by_cases hrep : Server.Repeats server.prevRxSequence m
    · exact ⟨_, now, .inr (congrArg Prod.snd (Server.forward_of_repeats hm hrep now).2)⟩
    · exact ⟨_, now, .inl (congrArg Prod.snd (Server.forward_of_not_repeats hm hrep now).2)⟩

/-- A step that neither ends the looks of a cycle nor works on what it found. -/
lemma Answered.frame (h : Answered tr s) (hc : cycles (tr ++ [(s, a)]) = cycles tr)
    (hp : published (tr ++ [(s, a)]) = published tr) (he : s'.pub.emitting = s.pub.emitting)
    (hhand : ∀ o, InHand o s.pub → InHand o s'.pub) : Answered (tr ++ [(s, a)]) s' := by
  obtain ⟨done, rest, hcycles, hrest, hans⟩ := h
  refine ⟨done, rest, hc.trans hcycles, hhand rest hrest, ?_⟩
  rw [hp, he]
  exact hans

/-- A cycle has ended its looks. -/
lemma Answered.ended (h : Answered tr s) {i : Nat} (hpc : s.pub = .look i) {x : Option MsgqBuf}
    (hb : s.beatAt .look = some (.took x)) (hx : ∀ m ∈ x, m.Real)
    (hpub : s'.pub = .forward (x.getD Server.noMessage)) :
    Answered (tr ++ [(s, .look)]) s' := by
  obtain ⟨done, rest, hcycles, hrest, hans⟩ := h
  rw [hpc] at hrest hans
  obtain rfl : rest = [] := hrest
  refine ⟨done, [x], ?_, ?_, ?_⟩
  · rw [cycles_concat, hb, hcycles, List.append_nil]
  · rw [hpub]
    exact ⟨x, rfl, rfl, hx⟩
  · rw [published_concat, hpub]
    simpa [RetryPc.emitting] using hans

lemma Answered.step (h : Answered tr s) (hI : Orderly es s)
    (hs : ForwarderStep packetCount id s a s') : Answered (tr ++ [(s, a)]) s' := by
  cases hs with
  | test hpc =>
    refine h.frame (by simp [cycles_concat, beatAt]) (by simp [published_concat]) ?_ ?_
    · rw [hpc]
      dsimp only
      split_ifs <;> rfl
    · rw [hpc]
      dsimp only
      split_ifs <;> exact fun o ho => ho
  | paused hpc hflag =>
    refine h.frame ?_ (by simp [published_concat]) (by rw [hpc]; rfl) ?_
    · simp [cycles_concat, beatAt, hflag]
    · rw [hpc]
      exact fun o ho => ho
  | callback hpc hflag =>
    refine h.frame ?_ (by simp [published_concat]) (by rw [hpc]; rfl) ?_
    · simp [cycles_concat, beatAt, hflag]
    · rw [hpc]
      exact fun o ho => ho
  | found i hpc m q q' hq hr =>
    refine h.ended (x := some m) hpc ?_ ?_ rfl
    · simp [beatAt, Server.oldest, hq, hr]
    · intro m' hm'
      cases hm'
      exact (hI.waiting_of_receive hq hr).2.2
  | again i hpc hr hi =>
    refine h.frame ?_ (by simp [published_concat]) (by rw [hpc]; rfl) ?_
    · simp [cycles_concat, beatAt, hr, hpc, hi]
    · rw [hpc]
      exact fun o ho => ho
  | missed i hpc hr hi =>
    refine h.ended (x := none) hpc ?_ (by simp) rfl
    simp [beatAt, hr, hpc, hi]
  | forward now m hpc =>
    obtain ⟨done, rest, hcycles, hrest, hans⟩ := h
    rw [hpc] at hrest hans
    obtain ⟨x, rfl, rfl, hx⟩ := hrest
    refine ⟨done ++ [x], [], ?_, rfl, ?_⟩
    · simp [cycles_concat, beatAt, hcycles]
    · rw [published_concat]
      simp only [RetryPc.emitting, List.append_nil] at hans ⊢
      exact List.rel_append hans (.cons (answers_forward hx s.server now) .nil)
  | emit v hpc =>
    obtain ⟨done, rest, hcycles, hrest, hans⟩ := h
    refine ⟨done, rest, ?_, ?_, ?_⟩
    · simp [cycles_concat, beatAt, hcycles]
    · rw [hpc] at hrest
      exact hrest
    · rw [published_concat]
      simpa [RetryPc.emitting] using hans
  | store now v m hpc hm =>
    refine h.frame ?_ (by simp [published_concat]) rfl (fun o ho => ho)
    rw [cycles_concat]
    simp only [beatAt]
    cases s.arriving now with
    | none => simp
    | some m =>
      dsimp only [Option.bind_some]
      split_ifs <;> simp
  | _ =>
    apply h.frame _ _ rfl (fun o ho => ho)
    · simp [cycles_concat, beatAt]
    · simp [published_concat]

/-- Each unpaused cycle has published one message. -/
theorem answered (h : (forwarderLts packetCount cap id).Run tr s)
    (hreal : ∀ x ∈ tr, x.1.RealTimes x.2) (hspaced : Spaced (beats tr)) : Answered tr s := by
  induction h with
  | init h =>
    cases h
    exact ⟨[], [], rfl, rfl, .nil⟩
  | @step tr s s' a h hs ih =>
    simp only [List.mem_append, List.mem_singleton, or_imp, forall_and, forall_eq] at hreal
    rw [beats_concat] at hspaced
    have hI := orderly h hreal.1 hspaced.of_append
    exact (ih hreal.1 hspaced.of_append).step hI (step_spec hs)

/-! ### The looks of a cycle as one read of the node -/

end Forwarder

/-- In `ProcessConfig`, all looks are one piece. -/
def RetryPc.toPubPc : RetryPc → PubPc
  | .test => .test
  | .gate => .gate
  | .look _ => .send
  | .forward m => .forward m
  | .emit v => .emit v
  | .left => .left

namespace Forwarder

variable (packetCount : PacketCount) {cap : Nat} (id : Int32)

def toProcess (s : Forwarder cap) : Process (returnConfig packetCount cap id).cap where
  server := s.server
  pubs := [s.pub.toPubPc]
  subs := [s.sub]
  main := .send

lemma toProcess_pc (s : Forwarder cap) :
    (s.toProcess packetCount id).pc (some 0) = some s.pub.toPubPc := rfl

lemma toProcess_subs (s : Forwarder cap) :
    (s.toProcess packetCount id).subs[0]? = some s.sub := rfl

/-- A look after which there is another one is no step of the process. -/
def processAct (s : Forwarder cap) : ForwarderAct → Option ProcessAct
  | .test => some (.test 0)
  | .gate => some (.gate 0)
  | .look => (s.beatAt .look).map fun _ => .read (some 0) 0
  | .forward now => some (.forward (some 0) now)
  | .emit => some (.emit (some 0))
  | .subTest => some (.subTest 0)
  | .receive data now => some (.receive 0 data now)
  | .store now => some (.store 0 now)
  | .finish => some (.finish 0)
  | .idle => some (.idle 0)
  | .stop => some .stop

/-- A step of B is one of the process, or none where the process sees no difference. -/
lemma processStep {s s' : Forwarder cap} {a : ForwarderAct}
    (hs : (forwarderLts packetCount cap id).step s a = some s') :
    match s.processAct a with
    | some b => (processLts (returnConfig packetCount cap id)).step (s.toProcess packetCount id) b =
        some (s'.toProcess packetCount id)
    | none   => s'.toProcess packetCount id = s.toProcess packetCount id := by
  cases step_spec hs with
  | test hpc =>
    simp only [processAct, processLts, Process.step, toProcess_pc, hpc, RetryPc.toPubPc,
      reduceIte]
    cases hrun : s.server.gRunning with
    | false =>
      simp only [toProcess, hrun]
      rfl
    | true =>
      simp only [toProcess, hrun]
      rfl
  | paused hpc hflag =>
    simp only [processAct, processLts, Process.step, toProcess_pc, hpc, RetryPc.toPubPc,
      reduceIte]
    simp only [toProcess, hflag]
    rfl
  | callback hpc hflag =>
    simp only [processAct, processLts, Process.step, toProcess_pc, hpc, RetryPc.toPubPc,
      reduceIte]
    simp only [toProcess, hflag]
    rfl
  | found i hpc m q q' hq hr =>
    have hb : s.beatAt .look = some (.took (some m)) := by simp [beatAt, Server.oldest, hq, hr]
    have hm : s.server.msgrcv = (m, { s.server with msgq := some q' }) := by
      simp [Server.msgrcv, hq, hr]
    simp only [processAct, hb, Option.map_some, processLts, Process.step, toProcess_pc, hpc,
      RetryPc.toPubPc, reduceIte, ProcessConfig.readNode]
    simp only [toProcess, returnConfig, hm]
    rfl
  | again i hpc hr hi =>
    simp [processAct, beatAt, hr, hpc, hi, toProcess, RetryPc.toPubPc]
  | missed i hpc hr hi =>
    have hb : s.beatAt .look = some (.took none) := by simp [beatAt, hr, hpc, hi]
    have hm := Server.msgrcv_of_oldest_eq_none hr
    simp only [processAct, hb, Option.map_some, processLts, Process.step, toProcess_pc, hpc,
      RetryPc.toPubPc, reduceIte, ProcessConfig.readNode]
    simp only [toProcess, returnConfig, hm]
    rfl
  | forward now m hpc =>
    simp only [processAct, processLts, Process.step, toProcess_pc, hpc, RetryPc.toPubPc]
    rfl
  | emit v hpc =>
    simp only [processAct, processLts, Process.step, toProcess_pc, hpc, RetryPc.toPubPc]
    rfl
  | subTest hpc =>
    simp only [processAct, processLts, Process.step, toProcess_subs, hpc, reduceIte]
    rfl
  | receive data now server pc hpc hr =>
    simp only [processAct, processLts, Process.step, toProcess_subs, hpc, reduceIte]
    exact Option.map_eq_some_iff.mpr ⟨(server, pc), hr, rfl⟩
  | store now v m hpc hm =>
    simp only [processAct, processLts, Process.step, toProcess_subs, hpc, hm]
    rfl
  | finish n hpc =>
    simp only [processAct, processLts, Process.step, toProcess_subs, hpc]
    rfl
  | idle hpc =>
    simp only [processAct, processLts, Process.step, toProcess_subs, hpc, reduceIte]
    rfl
  | stop => rfl

/-- What B does look by look is what it does as a process. -/
theorem processRun {tr : List (Forwarder cap × ForwarderAct)} {s : Forwarder cap}
    (h : (forwarderLts packetCount cap id).Run tr s) :
    (processLts (returnConfig packetCount cap id)).Run
      (tr.filterMap fun x => (x.1.processAct x.2).map (Prod.mk (x.1.toProcess packetCount id)))
      (s.toProcess packetCount id) := by
  apply h.simulates (toProcess packetCount id) processAct
  · rintro s rfl
    rfl
  · intro s a s' hs
    have hstep := processStep packetCount id hs
    cases hb : s.processAct a with
    | none => simpa only [hb] using hstep
    | some b => simpa only [hb] using hstep

end Forwarder

/-- As long as there is a cycle between any two samples, the queue holds at most one message, the
flag stays set once it is set, a sample is taken by the very next cycle, which is not paused, and
a cycle that is not paused goes without a message exactly if no sample came since the cycle
before it. The cycles put out what they found, in order: the sample unchanged or the duplicate
marker, or the copy error for none. -/
theorem forward_in_time {packetCount : PacketCount} {cap : Nat} {id : Int32}
    {tr : List (Forwarder cap × ForwarderAct)} {s : Forwarder cap}
    (h : (forwarderLts packetCount cap id).Run tr s)
    (hreal : ∀ x ∈ tr, x.1.RealTimes x.2) (hspaced : Spaced (Forwarder.beats tr)) :
    (∃ q, s.server.msgq = some q ∧ q.items.length ≤ 1) ∧
    (∀ x ∈ tr, x.1.server.gRoundtripPubReturn = true → s.server.gRoundtripPubReturn = true) ∧
    Timely (Forwarder.beats tr) ∧
    ∃ done rest, Forwarder.cycles tr = done ++ rest ∧ rest.length ≤ 1 ∧
      ((∀ m, s.pub ≠ .forward m) → rest = []) ∧
      List.Forall₂ Answers done (Forwarder.published tr ++ s.pub.emitting) := by
  have hI := Forwarder.orderly h hreal hspaced
  obtain ⟨q, hq, hitems⟩ := hI.queue
  obtain ⟨done, rest, hcycles, hrest, hans⟩ := Forwarder.answered h hreal hspaced
  refine ⟨⟨q, hq, ?_⟩, Forwarder.flag_run h hreal hspaced, hI.timely, done, rest, hcycles,
    hrest.length_le, hrest.eq_nil, hans⟩
  rw [hitems]
  exact Forwarder.length_waiting_le _

section OneSample

/-- A paused cycle, the sample 7, and the cycle that publishes it. -/
private def oneInTime : List ForwarderAct :=
  [.test, .gate, .subTest, .receive (some (.ofArray [7, 5])) 6, .store 6, .test, .gate, .look,
    .forward 8, .emit]

theorem forward_in_time_one :
    ∃ tr s, (forwarderLts .thousand 120 0).Run tr s ∧
      Forwarder.beats tr = [.paused, .received ⟨7, 5, 6⟩, .took (some ⟨7, 5, 6⟩)] ∧
      Timely (Forwarder.beats tr) ∧ Forwarder.published tr = [Server.reply ⟨7, 5, 6⟩ (-1) 8] := by
  have hr : ∃ r, (forwarderLts .thousand 120 0).replay ⟨.initialReturn 0, .test, .test⟩ oneInTime =
      some r ∧ Forwarder.beats r.1 = [.paused, .received ⟨7, 5, 6⟩, .took (some ⟨7, 5, 6⟩)] ∧
      Forwarder.published r.1 = [Server.reply ⟨7, 5, 6⟩ (-1) 8] ∧
      ∀ x ∈ r.1, x.1.RealTimes x.2 := by
    refine ⟨_, rfl, by decide, by decide, ?_⟩
    simp [Forwarder.RealTimes, Forwarder.arriving, Variant.ofArray, Server.decode, MsgqBuf.Real]
  obtain ⟨⟨tr, s⟩, hreplay, hbeats, hpub, hreal⟩ := hr
  have hrun := Lts.Run.of_replay (A := forwarderLts .thousand 120 0) rfl hreplay
  have hspaced : Spaced (Forwarder.beats tr) := by
    rw [hbeats]
    simp [Spaced]
  exact ⟨tr, s, hrun, hbeats, (forward_in_time hrun hreal hspaced).2.2.1, hpub⟩

end OneSample

end Opcua

end TsnRefSw
