import TsnRefSw.Opcua.Stopping

/-!
# From the first thread to the last

`main()` lets the library create the threads, serves clients until the process is stopped, waits
for the threads one after the other, and then gives back what they have used: the message queue,
the server and the configuration. No thread is still at work by then, and a process that is
stopped does come to this point.
-/

namespace TsnRefSw

open Core

namespace Opcua

/-! ### Main and its threads -/

/-- Who takes a step. -/
inductive Actor where
  | publisher (i : Nat)
  | subscriber (j : Nat)
  | main
  /-- The signal handler. -/
  | signal
deriving DecidableEq

def ProcessAct.actor : ProcessAct → Actor
  | .test i | .gate i => .publisher i
  | .read (some i) _ | .forward (some i) _ | .emit (some i) => .publisher i
  | .read none _ | .forward none _ | .emit none => .main
  | .subTest j | .receive j _ _ | .store j _ | .finish j | .idle j => .subscriber j
  | .stop => .signal

/-- Where `main()` is. -/
inductive MainPc where
  /-- In `setupOpcuaServer()`. -/
  | setup
  /-- In `UA_Server_run()`. -/
  | serve
  /-- About to join thread `k`. -/
  | join (k : Nat)
  /-- About to remove the message queue. -/
  | removeQueue
  /-- About to call `UA_Server_delete()`. -/
  | deleteServer
  /-- About to call `free_resources()`. -/
  | freeResources
  | returned
deriving DecidableEq

/-- All threads have been joined. -/
def MainPc.Joined : MainPc → Prop
  | .setup | .serve | .join _ => False
  | _ => True

lemma MainPc.Joined.ne {p : MainPc} (h : p.Joined) : p ≠ .setup ∧ p ≠ .serve := by
  cases p with
  | setup => exact absurd h id
  | serve => exact absurd h id
  | _ => exact ⟨MainPc.noConfusion, MainPc.noConfusion⟩

/-- `threads` says of each thread whether `pthread_create()` has created it. -/
structure Program (cap : Nat) where
  pc : MainPc
  threads : List Bool
  process : Process cap

inductive ProgramAct where
  /-- `threadCreation()` for the next publisher or subscriber. -/
  | create (created : Bool)
  /-- The server is set up. -/
  | run
  /-- `UA_Server_run()` returns. -/
  | runReturns
  | join
  /-- What `main()` does after the last join, one thing after the other. -/
  | release
  | process (a : ProcessAct)

namespace ProcessConfig

variable (c : ProcessConfig)

def threadCount : Nat := c.publishers.length + c.subscribers.length

end ProcessConfig

namespace Program

variable {c : ProcessConfig}

/-- Who can take a step: `main()` itself is in the library only while it sets up the server or
serves clients. -/
def Admits (c : ProcessConfig) (s : Program c.cap) : Actor → Prop
  | .main   => s.pc = .setup ∨ s.pc = .serve
  | .signal => True
  | .publisher i  => i < c.publishers.length ∧ s.threads[i]? = some true
  | .subscriber j => s.threads[c.publishers.length + j]? = some true

instance (s : Program c.cap) (x : Actor) : Decidable (s.Admits c x) := by
  cases x with
  | main => exact inferInstanceAs (Decidable (_ ∨ _))
  | signal => exact inferInstanceAs (Decidable True)
  | publisher i => exact inferInstanceAs (Decidable (_ ∧ _))
  | subscriber j => exact inferInstanceAs (Decidable (_ = _))

/-- Thread `k` has come to its end. -/
def Ended (c : ProcessConfig) (s : Program c.cap) (k : Nat) : Prop :=
  if k < c.publishers.length then s.process.pubs[k]? = some .left
  else s.process.subs[k - c.publishers.length]? = some .left

instance (s : Program c.cap) (k : Nat) : Decidable (s.Ended c k) := by
  unfold Ended
  infer_instance

/-- `pthread_join()` returns: the thread has ended, or there is none and it is an error. -/
def JoinReturns (c : ProcessConfig) (s : Program c.cap) (k : Nat) : Prop :=
  s.threads[k]? = some false ∨ s.Ended c k

instance (s : Program c.cap) (k : Nat) : Decidable (s.JoinReturns c k) :=
  inferInstanceAs (Decidable (_ ∨ _))

/-- Where `main()` goes on when it has given something back. -/
def afterRelease : MainPc → Option MainPc
  | .removeQueue   => some .deleteServer
  | .deleteServer  => some .freeResources
  | .freeResources => some .returned
  | _              => none

def step (c : ProcessConfig) (s : Program c.cap) : ProgramAct → Option (Program c.cap)
  | .create created =>
    if s.pc = .setup ∧ s.threads.length < c.threadCount then
      some { s with threads := s.threads ++ [created] }
    else none
  | .run =>
    if s.pc = .setup ∧ s.threads.length = c.threadCount then some { s with pc := .serve }
    else none
  | .runReturns =>
    if s.pc = .serve ∧ s.process.server.gRunning = false then some { s with pc := .join 0 }
    else none
  | .join =>
    match s.pc with
    | .join k =>
      if k < s.threads.length then
        if s.JoinReturns c k then some { s with pc := .join (k + 1) } else none
      else some { s with pc := .removeQueue }
    | _ => none
  | .release => (afterRelease s.pc).map fun pc => { s with pc := pc }
  | .process a =>
    if s.Admits c a.actor then
      (Process.step c s.process a).map fun process => { s with process := process }
    else none

end Program

/-- The program from `setupOpcuaServer()` on. -/
def programLts (c : ProcessConfig) : Lts (Program c.cap) ProgramAct where
  init s := s = ⟨.setup, [], Process.start c⟩
  step := Program.step c

/-! ### The steps of a thread -/

/-- How many steps a publisher's thread can still take once the process is stopped. -/
def PubPc.remaining : PubPc → Nat
  | .left      => 0
  | .test      => 1
  | .emit _    => 2
  | .forward _ => 3
  | .send      => 4
  | .gate      => 5

/-- How many steps a subscriber's thread can still take once the process is stopped, if it is not
handed anything. -/
def SubPc.remaining : SubPc → Nat
  | .left     => 0
  | .test     => 1
  | .receive  => 2
  | .finish _ => 3
  | .store _  => 4

lemma SubPc.remaining_lt (p : SubPc) : p.remaining < SubPc.receive.remaining + 3 := by
  cases p with
  | _ => exact Nat.lt_of_sub_eq_succ rfl

/-- The subscriber is handed something. -/
def ProcessAct.hands : ProcessAct → Bool
  | .receive _ _ _ => true
  | _              => false

namespace Process

variable {c : ProcessConfig} {s s' : Process c.cap} {a : ProcessAct}

/-- A publisher takes a step. -/
structure PubMoves (i : Nat) (s s' : Process c.cap) (p p' : PubPc) : Prop where
  pc : s.pubs[i]? = some p
  ne_left : p ≠ .left
  pubs : s'.pubs = s.pubs.set i p'
  subs : s'.subs = s.subs
  remaining : s.server.gRunning = false → p'.remaining < p.remaining

/-- A subscriber takes a step, in which it is handed something or not. -/
structure SubMoves (j : Nat) (hands : Bool) (s s' : Process c.cap) (p p' : SubPc) : Prop where
  pc : s.subs[j]? = some p
  ne_left : p ≠ .left
  pubs : s'.pubs = s.pubs
  subs : s'.subs = s.subs.set j p'
  remaining : s.server.gRunning = false →
    p'.remaining < p.remaining + if hands then 3 else 0

lemma remaining_readNode (t : Server c.cap) (now : UInt64) :
    (c.readNode t now).2.remaining < PubPc.send.remaining := by
  rw [ProcessConfig.readNode]
  cases c.node with
  | pubGetDataToTransmit => exact Nat.lt_of_sub_eq_succ rfl
  | pubReturnGetDataToTransmit => exact Nat.lt_of_sub_eq_succ rfl

lemma pubMoves {i : Nat} (h : (processLts c).step s a = some s') (ha : a.actor = .publisher i) :
    ∃ p p', PubMoves i s s' p p' := by
  cases step_spec h with
  | test k hpc =>
    cases ha
    refine ⟨_, _, hpc, PubPc.noConfusion, rfl, rfl, fun hstop => ?_⟩
    rw [hstop]
    exact Nat.zero_lt_one
  | gate k hpc =>
    cases ha
    refine ⟨_, _, hpc, PubPc.noConfusion, rfl, rfl, fun hstop => ?_⟩
    split_ifs
    · exact Nat.lt_succ_self 4
    · exact Nat.lt_of_sub_eq_succ rfl
  | read k now hpc =>
    cases k with
    | none => cases ha
    | some k =>
      cases ha
      exact ⟨_, _, hpc, PubPc.noConfusion, rfl, rfl, fun _ => remaining_readNode s.server now⟩
  | forward k now m hpc =>
    cases k with
    | none => cases ha
    | some k =>
      cases ha
      exact ⟨_, _, hpc, PubPc.noConfusion, rfl, rfl, fun _ => Nat.lt_succ_self 2⟩
  | emit k v hpc =>
    cases k with
    | none => cases ha
    | some k =>
      cases ha
      exact ⟨_, _, hpc, PubPc.noConfusion, rfl, rfl, fun _ => Nat.lt_succ_self 1⟩
  | _ => cases ha

lemma subMoves {j : Nat} (h : (processLts c).step s a = some s') (ha : a.actor = .subscriber j) :
    ∃ p p', SubMoves j a.hands s s' p p' := by
  cases step_spec h with
  | test k hpc => cases ha
  | gate k hpc => cases ha
  | read k now hpc =>
    cases k with
    | _ => cases ha
  | forward k now m hpc =>
    cases k with
    | _ => cases ha
  | emit k v hpc =>
    cases k with
    | _ => cases ha
  | subTest k hpc =>
    cases ha
    refine ⟨_, _, hpc, SubPc.noConfusion, rfl, rfl, fun hstop => ?_⟩
    rw [hstop]
    exact Nat.zero_lt_one
  | receive k data now twoWayData server pc hpc hsub hr =>
    cases ha
    exact ⟨_, _, hpc, SubPc.noConfusion, rfl, rfl, fun _ => pc.remaining_lt⟩
  | store k now v m hpc hm =>
    cases ha
    exact ⟨_, _, hpc, SubPc.noConfusion, rfl, rfl, fun _ => Nat.lt_succ_self 3⟩
  | finish k n hpc =>
    cases ha
    exact ⟨_, _, hpc, SubPc.noConfusion, rfl, rfl, fun _ => Nat.lt_succ_self 2⟩
  | idle k hpc =>
    cases ha
    exact ⟨_, _, hpc, SubPc.noConfusion, rfl, rfl, fun _ => Nat.lt_succ_self 1⟩
  | stop => cases ha

/-- The main thread and the signal leave the threads where they are. -/
lemma threads_unmoved (h : (processLts c).step s a = some s')
    (ha : a.actor = .main ∨ a.actor = .signal) : s'.pubs = s.pubs ∧ s'.subs = s.subs := by
  cases step_spec h with
  | test k hpc => simp [ProcessAct.actor] at ha
  | gate k hpc => simp [ProcessAct.actor] at ha
  | read k now hpc =>
    cases k with
    | none => exact ⟨rfl, rfl⟩
    | some k => simp [ProcessAct.actor] at ha
  | forward k now m hpc =>
    cases k with
    | none => exact ⟨rfl, rfl⟩
    | some k => simp [ProcessAct.actor] at ha
  | emit k v hpc =>
    cases k with
    | none => exact ⟨rfl, rfl⟩
    | some k => simp [ProcessAct.actor] at ha
  | stop => exact ⟨rfl, rfl⟩
  | _ => simp [ProcessAct.actor] at ha

/-- A thread that has ended stays so. -/
lemma pub_left (h : (processLts c).step s a = some s') {k : Nat} (hk : s.pubs[k]? = some .left) :
    s'.pubs[k]? = some .left := by
  cases hactor : a.actor with
  | publisher i =>
    obtain ⟨p, p', hmoves⟩ := pubMoves h hactor
    have hne : i ≠ k := by
      rintro rfl
      exact hmoves.ne_left (Option.some.inj (hmoves.pc.symm.trans hk))
    rw [hmoves.pubs, List.getElem?_set_ne hne]
    exact hk
  | subscriber j =>
    obtain ⟨p, p', hmoves⟩ := subMoves h hactor
    rw [hmoves.pubs]
    exact hk
  | main =>
    rw [(threads_unmoved h (.inl hactor)).1]
    exact hk
  | signal =>
    rw [(threads_unmoved h (.inr hactor)).1]
    exact hk

lemma sub_left (h : (processLts c).step s a = some s') {k : Nat} (hk : s.subs[k]? = some .left) :
    s'.subs[k]? = some .left := by
  cases hactor : a.actor with
  | publisher i =>
    obtain ⟨p, p', hmoves⟩ := pubMoves h hactor
    rw [hmoves.subs]
    exact hk
  | subscriber j =>
    obtain ⟨p, p', hmoves⟩ := subMoves h hactor
    have hne : j ≠ k := by
      rintro rfl
      exact hmoves.ne_left (Option.some.inj (hmoves.pc.symm.trans hk))
    rw [hmoves.subs, List.getElem?_set_ne hne]
    exact hk
  | main =>
    rw [(threads_unmoved h (.inl hactor)).2]
    exact hk
  | signal =>
    rw [(threads_unmoved h (.inr hactor)).2]
    exact hk

/-- No thread is added or removed. -/
lemma length_threads (hs : (processLts c).step s a = some s') :
    s'.pubs.length = s.pubs.length ∧ s'.subs.length = s.subs.length := by
  cases hactor : a.actor with
  | publisher i =>
    obtain ⟨p, p', hmoves⟩ := pubMoves hs hactor
    rw [hmoves.pubs, hmoves.subs, List.length_set]
    exact ⟨rfl, rfl⟩
  | subscriber j =>
    obtain ⟨p, p', hmoves⟩ := subMoves hs hactor
    rw [hmoves.pubs, hmoves.subs, List.length_set]
    exact ⟨rfl, rfl⟩
  | main =>
    obtain ⟨hpubs, hsubs⟩ := threads_unmoved hs (.inl hactor)
    exact ⟨congrArg List.length hpubs, congrArg List.length hsubs⟩
  | signal =>
    obtain ⟨hpubs, hsubs⟩ := threads_unmoved hs (.inr hactor)
    exact ⟨congrArg List.length hpubs, congrArg List.length hsubs⟩

end Process

namespace Program

variable {c : ProcessConfig} {s s' : Program c.cap} {tr : List (Program c.cap × ProgramAct)}

/-- What `main()` does changes nothing in the process. -/
lemma process_of_step {a : ProgramAct} (hs : (programLts c).step s a = some s') :
    ((∀ b, a ≠ .process b) ∧ s'.process = s.process) ∨ ∃ b, a = .process b ∧ s'.pc = s.pc ∧
      s'.threads = s.threads ∧ (processLts c).step s.process b = some s'.process := by
  replace hs : Program.step c s a = some s' := hs
  cases a with
  | create created =>
    obtain ⟨-, rfl⟩ := of_guard hs
    exact .inl ⟨fun _ => ProgramAct.noConfusion, rfl⟩
  | run =>
    obtain ⟨-, rfl⟩ := of_guard hs
    exact .inl ⟨fun _ => ProgramAct.noConfusion, rfl⟩
  | runReturns =>
    obtain ⟨-, rfl⟩ := of_guard hs
    exact .inl ⟨fun _ => ProgramAct.noConfusion, rfl⟩
  | join =>
    refine .inl ⟨fun _ => ProgramAct.noConfusion, ?_⟩
    simp only [step] at hs
    split at hs
    · split_ifs at hs
      · exact Option.some.inj hs ▸ rfl
      · exact Option.some.inj hs ▸ rfl
    · cases hs
  | release =>
    obtain ⟨pc, -, rfl⟩ := Option.map_eq_some_iff.mp hs
    exact .inl ⟨fun _ => ProgramAct.noConfusion, rfl⟩
  | process b =>
    obtain ⟨-, hs⟩ := Option.ite_none_right_eq_some.mp hs
    obtain ⟨process, hmoves, rfl⟩ := Option.map_eq_some_iff.mp hs
    exact .inr ⟨b, rfl, rfl, rfl, hmoves⟩

lemma joined_afterRelease {p p' : MainPc} (h : afterRelease p = some p') :
    p.Joined ∧ p'.Joined := by
  cases p with
  | removeQueue =>
    cases h
    exact ⟨trivial, trivial⟩
  | deleteServer =>
    cases h
    exact ⟨trivial, trivial⟩
  | freeResources =>
    cases h
    exact ⟨trivial, trivial⟩
  | _ => cases h

/-- As many threads are created as there are publishers and subscribers. -/
structure Sized (c : ProcessConfig) (s : Program c.cap) : Prop where
  pubs : s.process.pubs.length = c.publishers.length
  subs : s.process.subs.length = c.subscribers.length
  threads : s.threads.length ≤ c.threadCount
  count : s.pc ≠ .setup → s.threads.length = c.threadCount

lemma Sized.step (h : Sized c s) {a : ProgramAct} (hs : (programLts c).step s a = some s') :
    Sized c s' := by
  have hsame {t : Program c.cap} (hprocess : t.process = s.process) :
      t.process.pubs.length = c.publishers.length ∧
        t.process.subs.length = c.subscribers.length := by
    rw [hprocess]
    exact ⟨h.pubs, h.subs⟩
  obtain ⟨hne, hprocess⟩ | ⟨b, rfl, hpc, hthreads, hb⟩ := process_of_step hs
  · obtain ⟨hpubs, hsubs⟩ := hsame hprocess
    replace hs : Program.step c s a = some s' := hs
    cases a with
    | create created =>
      obtain ⟨⟨hpc, hlt⟩, rfl⟩ := of_guard hs
      refine ⟨hpubs, hsubs, ?_, fun hne => absurd hpc hne⟩
      rw [List.length_append]
      exact hlt
    | run =>
      obtain ⟨⟨-, hcount⟩, rfl⟩ := of_guard hs
      exact ⟨hpubs, hsubs, h.threads, fun _ => hcount⟩
    | runReturns =>
      obtain ⟨⟨hpc, -⟩, rfl⟩ := of_guard hs
      exact ⟨hpubs, hsubs, h.threads, fun _ => h.count (by simp [hpc])⟩
    | join =>
      simp only [Program.step] at hs
      split at hs
      · next k hpc =>
        have hcount := h.count (by simp [hpc])
        split_ifs at hs
        · exact Option.some.inj hs ▸ ⟨h.pubs, h.subs, h.threads, fun _ => hcount⟩
        · exact Option.some.inj hs ▸ ⟨h.pubs, h.subs, h.threads, fun _ => hcount⟩
      · cases hs
    | release =>
      obtain ⟨pc, hpc, rfl⟩ := Option.map_eq_some_iff.mp hs
      exact ⟨hpubs, hsubs, h.threads, fun _ => h.count (joined_afterRelease hpc).1.ne.1⟩
    | process b => exact absurd rfl (hne b)
  · obtain ⟨hpubs, hsubs⟩ := Process.length_threads hb
    refine ⟨hpubs.trans h.pubs, hsubs.trans h.subs, ?_, ?_⟩
    · rw [hthreads]
      exact h.threads
    · rw [hpc, hthreads]
      exact h.count

lemma sized (h : (programLts c).Run tr s) : Sized c s := by
  refine h.invariant (I := Sized c) ?_ fun s a s' hI hs => hI.step hs
  rintro s rfl
  refine ⟨?_, ?_, Nat.zero_le _, fun hpc => absurd rfl hpc⟩
  · exact List.length_map _
  · exact List.length_map _

/-! ### Joined threads have ended -/

lemma Ended.step {k : Nat} {a : ProcessAct} {process : Process c.cap} (h : s.Ended c k)
    (hs : (processLts c).step s.process a = some process) :
    ({ s with process := process } : Program c.cap).Ended c k := by
  unfold Ended at h ⊢
  split_ifs at h ⊢
  · exact Process.pub_left hs h
  · exact Process.sub_left hs h

section OneThread

/-- A publisher's thread is created, and the signal comes. -/
private def interrupted : List ProgramAct := [.create true, .run, .process .stop]

end OneThread

/-! ### A stopped process comes to its end -/

lemma gRunning_of_programStep {a : ProgramAct} (hs : (programLts c).step s a = some s')
    (h : s'.process.server.gRunning = true) : s.process.server.gRunning = true := by
  obtain ⟨-, hsame⟩ | ⟨b, -, -, -, hb⟩ := process_of_step hs
  · rw [← hsame]
    exact h
  · exact Process.gRunning_of_step hb h

end Program

namespace Process

variable {c : ProcessConfig} {s s' : Process c.cap} {a : ProcessAct}

/-- The values of the messages in the hands of the subscribers can be read. -/
def Readable (s : Process c.cap) : Prop :=
  ∀ (j : Nat) v, s.subs[j]? = some (.store v) → ∃ m, Server.decode v 0 = some m

lemma Readable.step (h : s.Readable) (hs : (processLts c).step s a = some s')
    (ha : a.hands = false) : s'.Readable := by
  have hset {j : Nat} {p : SubPc} (hp : ∀ v, p ≠ .store v) (k : Nat) (v : Variant)
      (hk : (s.subs.set j p)[k]? = some (.store v)) : ∃ m, Server.decode v 0 = some m := by
    rw [List.getElem?_set] at hk
    split_ifs at hk
    · exact absurd (Option.some.inj hk) (hp v)
    · exact h k v hk
  cases step_spec hs with
  | read k now hpc => cases k <;> exact h
  | forward k now m hpc => cases k <;> exact h
  | emit k v hpc => cases k <;> exact h
  | subTest j hpc =>
    refine hset fun v => ?_
    split_ifs
    · exact SubPc.noConfusion
    · exact SubPc.noConfusion
  | receive j data now twoWayData server pc hpc hsub hr => cases ha
  | store j now v m hpc hm => exact hset fun _ => SubPc.noConfusion
  | finish j n hpc => exact hset fun _ => SubPc.noConfusion
  | idle j hpc => exact hset fun _ => SubPc.noConfusion
  | _ => exact h

/-- A publisher's thread that has not ended can go on. -/
lemma pub_enabled {i : Nat} {p : PubPc} (hpc : s.pubs[i]? = some p) (hne : p ≠ .left) :
    ∃ a s', a.actor = .publisher i ∧ a.hands = false ∧ (processLts c).step s a = some s' := by
  cases p with
  | test => exact ⟨.test i, _, rfl, rfl, if_pos hpc⟩
  | gate => exact ⟨.gate i, _, rfl, rfl, if_pos hpc⟩
  | send => exact ⟨.read (some i) 0, _, rfl, rfl, if_pos hpc⟩
  | forward m =>
    have hs : ((processLts c).step s (.forward (some i) 0)).isSome := by
      simp [processLts, step, pc, hpc]
    obtain ⟨s', hs⟩ := Option.isSome_iff_exists.mp hs
    exact ⟨_, s', rfl, rfl, hs⟩
  | emit v =>
    have hs : ((processLts c).step s (.emit (some i))).isSome := by
      simp [processLts, step, pc, hpc]
    obtain ⟨s', hs⟩ := Option.isSome_iff_exists.mp hs
    exact ⟨_, s', rfl, rfl, hs⟩
  | left => exact absurd rfl hne

/-- A subscriber's thread that has not ended can go on, without being handed anything. -/
lemma sub_enabled {j : Nat} {p : SubPc} (h : s.Readable) (hpc : s.subs[j]? = some p)
    (hne : p ≠ .left) :
    ∃ a s', a.actor = .subscriber j ∧ a.hands = false ∧ (processLts c).step s a = some s' := by
  cases p with
  | test => exact ⟨.subTest j, _, rfl, rfl, if_pos hpc⟩
  | receive => exact ⟨.idle j, _, rfl, rfl, if_pos hpc⟩
  | store v =>
    obtain ⟨m, hm⟩ := h j v hpc
    have hs : ((processLts c).step s (.store j 0)).isSome := by
      simp [processLts, step, hpc, hm]
    obtain ⟨s', hs⟩ := Option.isSome_iff_exists.mp hs
    exact ⟨_, s', rfl, rfl, hs⟩
  | finish n =>
    have hs : ((processLts c).step s (.finish j)).isSome := by
      simp [processLts, step, hpc]
    obtain ⟨s', hs⟩ := Option.isSome_iff_exists.mp hs
    exact ⟨_, s', rfl, rfl, hs⟩
  | left => exact absurd rfl hne

/-- What all threads together have left to do. -/
def sumOf {α : Type*} (f : α → Nat) (l : List α) : Nat := l.foldr (fun x n => f x + n) 0

/-- How many steps the threads can still take once the process is stopped. -/
def remaining (s : Process c.cap) : Nat :=
  sumOf PubPc.remaining s.pubs + sumOf SubPc.remaining s.subs

/-- One thread has less to do. -/
lemma sumOf_set_lt {α : Type*} {f : α → Nat} {l : List α} {k : Nat} {x y : α}
    (hx : l[k]? = some x) (hlt : f y < f x) : sumOf f (l.set k y) < sumOf f l := by
  induction l generalizing k with
  | nil => cases hx
  | cons z l ih =>
    cases k with
    | zero =>
      obtain rfl := Option.some.inj hx
      exact Nat.add_lt_add_right hlt _
    | succ k => exact Nat.add_lt_add_left (ih hx) _

lemma remaining_lt (hs : (processLts c).step s a = some s') (hstop : s.server.gRunning = false)
    (ha : a.hands = false) {k : Nat} (hactor : a.actor = .publisher k ∨ a.actor = .subscriber k) :
    s'.remaining < s.remaining := by
  rcases hactor with hactor | hactor
  · obtain ⟨p, p', hmoves⟩ := pubMoves hs hactor
    rw [remaining, remaining, hmoves.pubs, hmoves.subs]
    exact Nat.add_lt_add_right (sumOf_set_lt hmoves.pc (hmoves.remaining hstop)) _
  · obtain ⟨p, p', hmoves⟩ := subMoves hs hactor
    rw [ha] at hmoves
    rw [remaining, remaining, hmoves.pubs, hmoves.subs]
    exact Nat.add_lt_add_left (sumOf_set_lt hmoves.pc (hmoves.remaining hstop)) _

end Process

namespace Program

variable {c : ProcessConfig} {s s' : Program c.cap} {tr : List (Program c.cap × ProgramAct)}

/-- Nothing is handed to a subscriber. -/
def Unhanded (_ : Program c.cap) : ProgramAct → Prop
  | .process a => a.hands = false
  | _          => True

/-- A process that has been stopped, and whose subscribers are not stuck. -/
structure Stopped (c : ProcessConfig) (s : Program c.cap) : Prop where
  sized : Sized c s
  stop : s.process.server.gRunning = false
  readable : s.process.Readable

/-- How many steps `main()` still has to take. -/
def mainRemaining (c : ProcessConfig) (s : Program c.cap) : Nat :=
  match s.pc with
  | .setup         => c.threadCount - s.threads.length + c.threadCount + 6
  | .serve         => c.threadCount + 5
  | .join k        => c.threadCount - k + 4
  | .removeQueue   => 3
  | .deleteServer  => 2
  | .freeResources => 1
  | .returned      => 0

lemma Stopped.step (h : Stopped c s) {a : ProgramAct} (ha : Unhanded s a)
    (hs : (programLts c).step s a = some s') : Stopped c s' := by
  refine ⟨h.sized.step hs, ?_, ?_⟩
  · by_contra hrunning
    have hbefore := gRunning_of_programStep hs (Bool.not_eq_false _ ▸ hrunning)
    rw [h.stop] at hbefore
    cases hbefore
  · obtain ⟨-, hsame⟩ | ⟨b, rfl, -, -, hb⟩ := process_of_step hs
    · rw [hsame]
      exact h.readable
    · exact h.readable.step hb ha

/-- A thread that `main()` waits for can go on. -/
lemma Stopped.exists_step (h : Stopped c s) {k : Nat} (hk : k < s.threads.length)
    (hjoin : ¬ s.JoinReturns c k) :
    ∃ a s', Unhanded s a ∧ (programLts c).step s a = some s' ∧ s'.pc = s.pc ∧
      s'.threads = s.threads ∧ s'.process.remaining < s.process.remaining := by
  obtain ⟨hnone, hended⟩ := not_or.mp hjoin
  have hthread : s.threads[k]? = some true := by
    rw [List.getElem?_eq_getElem hk] at hnone ⊢
    rw [Option.some_inj, ← Bool.not_eq_false]
    exact fun hfalse => hnone (congrArg some hfalse)
  have hadmitted {b : ProcessAct} {process : Process c.cap} (hadmits : s.Admits c b.actor)
      (hb : (processLts c).step s.process b = some process) :
      (programLts c).step s (.process b) = some { s with process := process } := by
    show (if s.Admits c b.actor then _ else none) = _
    rw [if_pos hadmits]
    exact congrArg (Option.map _) hb
  rw [Ended] at hended
  split_ifs at hended with hpub
  · have hlt : k < s.process.pubs.length := h.sized.pubs ▸ hpub
    have hpc := List.getElem?_eq_getElem hlt
    obtain ⟨b, process, hactor, hhands, hb⟩ := Process.pub_enabled hpc fun hleft =>
      hended (hleft ▸ hpc)
    refine ⟨.process b, _, hhands, hadmitted ?_ hb, rfl, rfl,
      Process.remaining_lt hb h.stop hhands (.inl hactor)⟩
    rw [hactor]
    exact ⟨hpub, hthread⟩
  · have hthreads := h.sized.threads
    rw [ProcessConfig.threadCount] at hthreads
    have hlt : k - c.publishers.length < s.process.subs.length := by
      rw [h.sized.subs]
      omega
    have hpc := List.getElem?_eq_getElem hlt
    obtain ⟨b, process, hactor, hhands, hb⟩ := Process.sub_enabled h.readable hpc fun hleft =>
      hended (hleft ▸ hpc)
    refine ⟨.process b, _, hhands, hadmitted ?_ hb, rfl, rfl,
      Process.remaining_lt hb h.stop hhands (.inr hactor)⟩
    rw [hactor, Admits, Nat.add_sub_cancel' (Nat.not_lt.mp hpub)]
    exact hthread

lemma Stopped.progress (h : Stopped c s) (hpc : s.pc ≠ .returned) :
    ∃ a s', Unhanded s a ∧ (programLts c).step s a = some s' ∧
      s'.process.remaining + s'.mainRemaining c < s.process.remaining + s.mainRemaining c := by
  have hrelease {p : MainPc} (hp : afterRelease s.pc = some p) :
      (programLts c).step s .release = some { s with pc := p } := congrArg (Option.map _) hp
  cases hat : s.pc with
  | setup =>
    by_cases hlt : s.threads.length < c.threadCount
    · refine ⟨.create true, _, trivial, if_pos ⟨hat, hlt⟩, ?_⟩
      simp only [mainRemaining, hat, List.length_append, List.length_singleton]
      omega
    · have hcount := Nat.le_antisymm h.sized.threads (Nat.not_lt.mp hlt)
      refine ⟨.run, _, trivial, if_pos ⟨hat, hcount⟩, ?_⟩
      simp only [mainRemaining, hat]
      omega
  | serve =>
    refine ⟨.runReturns, _, trivial, if_pos ⟨hat, h.stop⟩, ?_⟩
    simp only [mainRemaining, hat]
    omega
  | join k =>
    have hcount := h.sized.count (by simp [hat])
    by_cases hk : k < s.threads.length
    · by_cases hjoin : s.JoinReturns c k
      · refine ⟨.join, { s with pc := .join (k + 1) }, trivial, ?_, ?_⟩
        · simp [programLts, Program.step, hat, hk, hjoin]
        · simp only [mainRemaining, hat]
          omega
      · obtain ⟨a, s', ha, hs, hpc', -, hlt⟩ := h.exists_step hk hjoin
        refine ⟨a, s', ha, hs, ?_⟩
        simp only [mainRemaining, hpc', hat]
        omega
    · refine ⟨.join, { s with pc := .removeQueue }, trivial, ?_, ?_⟩
      · simp [programLts, Program.step, hat, hk]
      · simp only [mainRemaining, hat]
        omega
  | removeQueue =>
    refine ⟨.release, _, trivial, hrelease (p := .deleteServer) (by rw [hat]; rfl), ?_⟩
    simp only [mainRemaining, hat]
    omega
  | deleteServer =>
    refine ⟨.release, _, trivial, hrelease (p := .freeResources) (by rw [hat]; rfl), ?_⟩
    simp only [mainRemaining, hat]
    omega
  | freeResources =>
    refine ⟨.release, _, trivial, hrelease (p := .returned) (by rw [hat]; rfl), ?_⟩
    simp only [mainRemaining, hat]
    omega
  | returned => exact absurd hat hpc

end Program

end Opcua

end TsnRefSw
