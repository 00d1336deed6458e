import TsnRefSw.Tsq.Framing.Soundness

/-!
# The start of a measurement

The listener accepts two connections, in the order in which they were made, and reads a greeting
from each; then it tells both talkers to start, and enters its loop. A talker introduces itself
and waits for the command. A signal may end the accepting early; the command is sent nevertheless,
and where there is no connection it goes to descriptor 0.

What comes after a talker has left its loop is not modelled.
-/

namespace TsnRefSw

open Core
open scoped List

namespace Tsq

/-- How far a talker has come. -/
inductive TalkerPhase where
  | waiting
  | connected
  /-- The greeting was sent, and the command is to be read. -/
  | greeted
  | running
  | ended
deriving DecidableEq, Repr

/-- A talker, and the two directions of its connection: what was written to it so far. -/
structure Client where
  phase : TalkerPhase
  seq : Int32
  up : List UInt8
  down : List UInt8

/-- Where the listener is. -/
inductive ListenerPhase (ι : Type*) where
  /-- At the condition of the loop that accepts connections. -/
  | check (i : Nat)
  | accept (i : Slot)
  /-- The greeting of a connection is to be read. -/
  | greet (i : Slot) (c : ι)
  /-- The command is to be sent to this and the following slots. -/
  | broadcast (i : Nat)
  | loop
  | ended

/-- All talkers, the connections that wait to be accepted, and the listener. -/
structure World (ι : Type*) where
  clients : ι → Client
  queue : List ι
  phase : ListenerPhase ι
  /-- `cli_conns`, where 0 stands for none. -/
  conns : Slot → Option ι
  cliIds : Slot → Int32
  /-- How much was read from each of the connections. -/
  pos : Slot → Nat
  listener : Listener
  haltSig : Bool

inductive WorldAct (ι : Type*) where
  | connect (c : ι)
  | introduce (c : ι)
  /-- The talker reads `k` bytes. -/
  | command (c : ι) (k : Nat)
  | talk (c : ι) (io : Talker.Io)
  /-- A call of the talker fails before it runs. -/
  | fail (c : ι)
  /-- The listener's signal handler runs. -/
  | signal
  | check
  | accept (ok : Bool)
  /-- The listener reads `k` bytes of the greeting. -/
  | greet (k : Nat)
  | broadcast
  | listen (activity : Listener.Activity) (avail : Slot → Option Nat)
  | leave
  /-- A call of the listener fails. -/
  | abort

/-- `"start\n"`. -/
def startText : List UInt8 := [115, 116, 97, 114, 116, 10]

/-- `strcmp(send_buff, "start\n") == 0`, after these bytes were read to the zeroed buffer. -/
def isStart (bytes : List UInt8) : Bool := bytes.takeWhile (· ≠ 0) = startText

namespace World

variable {ι : Type*}

/-- The two connections and the listener, as its loop sees them. -/
def toState (s : World ι) : State where
  seq := fun i => ((s.conns i).map fun c => (s.clients c).seq).getD 0
  conn := fun i => ⟨((s.conns i).map fun c => (s.clients c).up).getD [], s.pos i⟩
  listener := s.listener

variable [DecidableEq ι] (uids : ι → TalkerUid)

def setClient (s : World ι) (c : ι) (client : Client) : World ι :=
  { s with clients := Function.update s.clients c client }

def step (s : World ι) : WorldAct ι → Option (World ι)
  | .connect c =>
    if (s.clients c).phase = .waiting then
      some { s.setClient c { s.clients c with phase := .connected } with queue := s.queue ++ [c] }
    else none
  | .introduce c =>
    if (s.clients c).phase = .connected then
      some (s.setClient c { s.clients c with
        phase := .greeted
        up := Talker.greeting (uids c) })
    else none
  | .command c k =>
    if (s.clients c).phase = .greeted ∧ 0 < k ∧ k ≤ (s.clients c).down.length then
      some (s.setClient c { s.clients c with
        phase :=
          if isStart ((s.clients c).down.take (min k (bufferSize - 1))) then .running
          else .ended })
    else none
  | .talk c io =>
    if (s.clients c).phase = .running then
      match Talker.iterate (uids c).toInt32 (s.clients c).seq io with
      | .error _          => none
      | .ok (none, seq)   => some (s.setClient c { s.clients c with seq := seq })
      | .ok (some p, seq) => some (s.setClient c { s.clients c with
          seq := seq
          up := (s.clients c).up ++ Talker.message p })
    else none
  | .fail c =>
    if (s.clients c).phase = .connected ∨ (s.clients c).phase = .greeted then
      some (s.setClient c { s.clients c with phase := .ended })
    else none
  | .signal => some { s with haltSig := true }
  | .check =>
    match s.phase with
    | .check i =>
      if h : i < clientCount ∧ s.haltSig = false then some { s with phase := .accept ⟨i, h.1⟩ }
      else some { s with phase := .broadcast 0, listener := .start s.cliIds }
    | _ => none
  | .accept ok =>
    match s.phase, ok, s.queue with
    | .accept i, true, c :: queue => some { s with phase := .greet i c, queue := queue }
    | .accept i, false, _         => some { s with phase := .check i }
    | _, _, _                     => none
  | .greet k =>
    match s.phase with
    | .greet i c =>
      if (0 < k ∧ k ≤ (s.clients c).up.length) ∨ (k = 0 ∧ (s.clients c).phase = .ended) then
        some { s with
          phase := .check (i + 1)
          conns := Function.update s.conns i (some c)
          cliIds := Function.update s.cliIds i
            (atoi ((s.clients c).up.take (min k (bufferSize - 1))))
          pos := Function.update s.pos i (min k (bufferSize - 1)) }
      else none
    | _ => none
  | .broadcast =>
    match s.phase with
    | .broadcast i =>
      if h : i < clientCount then
        match s.conns ⟨i, h⟩ with
        | some c => some { s.setClient c { s.clients c with
              down := (s.clients c).down ++ Talker.sendBuff startText } with
            phase := .broadcast (i + 1) }
        | none => some { s with phase := .broadcast (i + 1) }
      else some { s with phase := .loop }
    | _ => none
  | .listen activity avail =>
    match s.phase with
    | .loop =>
      if s.haltSig = false ∧ s.toState.Enabled avail then
        match s.listener.iterate (s.toState.listenerIo activity avail) with
        | .error _     => none
        | .ok listener => some { s with
            listener := listener
            pos := fun i => (s.toState.advance avail i).pos }
      else none
    | _ => none
  | .leave =>
    match s.phase with
    | .loop => if s.haltSig then some { s with phase := .ended } else none
    | _     => none
  | .abort =>
    match s.phase with
    | .greet _ _ | .broadcast _ | .loop => some { s with phase := .ended }
    | _                                 => none

end World

/-- Talkers that are about to connect, and a listener that is about to accept. -/
def worldLts {ι : Type*} [DecidableEq ι] (uids : ι → TalkerUid) : Lts (World ι) (WorldAct ι) where
  init s := (∀ c, s.clients c = ⟨.waiting, 0, [], []⟩) ∧ s.queue = [] ∧ s.phase = .check 0 ∧
    (∀ i, s.conns i = none) ∧ s.haltSig = false
  step := World.step uids

/-- No talker has connected. -/
def World.initial {ι : Type*} : World ι where
  clients := fun _ => ⟨.waiting, 0, [], []⟩
  queue := []
  phase := .check 0
  conns := fun _ => none
  cliIds := fun _ => 0
  pos := fun _ => 0
  listener := .start fun _ => 0
  haltSig := false

lemma World.init_initial {ι : Type*} [DecidableEq ι] (uids : ι → TalkerUid) :
    (worldLts uids).init .initial :=
  ⟨fun _ => rfl, rfl, rfl, fun _ => rfl, rfl⟩

/-! ### Who may talk -/

/-- The connection that was accepted last, while its greeting is to be read. -/
def ListenerPhase.pending {ι : Type*} : ListenerPhase ι → List ι
  | .greet _ c => [c]
  | _          => []

namespace World

variable {ι : Type*} (s : World ι)

/-- The connections made, each once. -/
def made : List ι := s.queue ++ (s.phase.pending ++ ((s.conns 0).toList ++ (s.conns 1).toList))

/-- Exactly the slots below `i` have a connection. -/
def Filled (i : Nat) : Prop := ∀ j : Slot, (s.conns j).isSome ↔ j.1 < i

/-- No command was sent. -/
def Silent : Prop := ∀ c, (s.clients c).down = []

/-- The command was sent to connections in slots only, and to begin with only when two talkers had
introduced themselves or a signal had come. -/
def Released : Prop :=
  (s.haltSig = true ∨ s.Filled clientCount) ∧
    ∀ c, (s.clients c).down ≠ [] → ∃ j, s.conns j = some c

/-- What the phase of the listener says. -/
def InPhase : Prop :=
  match s.phase with
  | .check i              => i ≤ clientCount ∧ s.Filled i ∧ s.Silent
  | .accept i             => s.Filled i ∧ s.Silent
  | .greet i _            => s.Filled i ∧ s.Silent
  | .broadcast _ | .loop  => s.Released
  | .ended                => s.Silent ∨ s.Released

end World

/-- A talker that has not read the command yet. -/
structure Fresh (uid : TalkerUid) (client : Client) : Prop where
  phase : client.phase ≠ .running
  seq : client.seq = 0
  up : client.up = [] ∨ client.up = Talker.greeting uid

structure Sound {ι : Type*} (uids : ι → TalkerUid) (s : World ι) : Prop where
  fresh : ∀ c, (s.clients c).down = [] → Fresh (uids c) (s.clients c)
  nodup : s.made.Nodup
  connected : ∀ c ∈ s.made, (s.clients c).phase ≠ .waiting
  inPhase : s.InPhase

section

variable {ι : Type*} {s s' : World ι}

/-- What is done to the talkers does not matter to the listener, as long as no command is sent. -/
lemma World.InPhase.congr (h : s.InPhase) (hphase : s'.phase = s.phase)
    (hconns : s'.conns = s.conns) (hhalt : s.haltSig = true → s'.haltSig = true)
    (hdown : ∀ c, (s'.clients c).down = (s.clients c).down) : s'.InPhase := by
  have hfilled {i : Nat} (hi : s.Filled i) : s'.Filled i := by
    rw [World.Filled, hconns]
    exact hi
  have hsilent (hi : s.Silent) : s'.Silent := fun c => (hdown c).trans (hi c)
  have hreleased (hi : s.Released) : s'.Released := by
    refine ⟨hi.1.imp hhalt hfilled, fun c hc => ?_⟩
    rw [hdown] at hc
    rw [hconns]
    exact hi.2 c hc
  rw [World.InPhase] at h ⊢
  rw [hphase]
  cases hp : s.phase with
  | check i =>
    rw [hp] at h
    exact ⟨h.1, hfilled h.2.1, hsilent h.2.2⟩
  | accept i =>
    rw [hp] at h
    exact ⟨hfilled h.1, hsilent h.2⟩
  | greet i c =>
    rw [hp] at h
    exact ⟨hfilled h.1, hsilent h.2⟩
  | broadcast i =>
    rw [hp] at h
    exact hreleased h
  | loop =>
    rw [hp] at h
    exact hreleased h
  | ended =>
    rw [hp] at h
    exact h.imp hsilent hreleased

variable {uids : ι → TalkerUid}

/-- A connection is made. -/
lemma Sound.enqueue (h : Sound uids s) {c : ι} (hnew : c ∉ s.made)
    (hc : (s.clients c).phase ≠ .waiting) : Sound uids { s with queue := s.queue ++ [c] } := by
  have hmade : ({ s with queue := s.queue ++ [c] } : World ι).made.Perm (c :: s.made) := by
    rw [World.made, World.made, List.append_assoc]
    exact List.perm_middle
  refine ⟨h.fresh, hmade.nodup_iff.mpr (List.nodup_cons.mpr ⟨hnew, h.nodup⟩), fun c' hc' => ?_,
    h.inPhase⟩
  rcases List.mem_cons.mp (hmade.mem_iff.mp hc') with rfl | hc'
  · exact hc
  · exact h.connected c' hc'

/-- A talker that runs was sent the command. -/
lemma Sound.talker (h : Sound uids s) {c : ι} (hc : (s.clients c).phase = .running) :
    (s.clients c).down ≠ [] := fun hdown => (h.fresh c hdown).phase hc

/-- The listener moves connections on, or drops one. -/
lemma Sound.of_made (h : Sound uids s) (hclients : s'.clients = s.clients)
    (hmade : s'.made <+~ s.made) (hphase : s'.InPhase) : Sound uids s' := by
  obtain ⟨l, hl, hsub⟩ := id hmade
  refine ⟨hclients ▸ h.fresh, hl.nodup_iff.mp (hsub.nodup h.nodup), fun c hc => ?_, hphase⟩
  rw [hclients]
  exact h.connected c (hmade.subset hc)

lemma Sound.of_phase (h : Sound uids s) (hclients : s'.clients = s.clients)
    (hqueue : s'.queue = s.queue) (hconns : s'.conns = s.conns)
    (hpending : s'.phase.pending = s.phase.pending) (hphase : s'.InPhase) : Sound uids s' := by
  refine h.of_made hclients ?_ hphase
  rw [World.made, World.made, hqueue, hconns, hpending]

/-- The command was sent to two talkers that had introduced themselves, or a signal had come. -/
lemma Sound.released (h : Sound uids s) {c : ι} (hc : (s.clients c).down ≠ []) : s.Released := by
  have hphase := h.inPhase
  rw [World.InPhase] at hphase
  cases hp : s.phase with
  | check i =>
    rw [hp] at hphase
    exact absurd (hphase.2.2 c) hc
  | accept i =>
    rw [hp] at hphase
    exact absurd (hphase.2 c) hc
  | greet i c' =>
    rw [hp] at hphase
    exact absurd (hphase.2 c) hc
  | broadcast i =>
    rw [hp] at hphase
    exact hphase
  | loop =>
    rw [hp] at hphase
    exact hphase
  | ended =>
    rw [hp] at hphase
    exact hphase.resolve_left fun hsilent => hc (hsilent c)

variable [DecidableEq ι]

lemma sound_init (h : (worldLts uids).init s) : Sound uids s := by
  obtain ⟨hclients, hqueue, hphase, hconns, -⟩ := h
  have hmade : s.made = [] := by
    rw [World.made, hqueue, hphase, hconns, hconns]
    rfl
  refine ⟨fun c _ => ?_, hmade ▸ List.nodup_nil, fun c hc => ?_, ?_⟩
  · rw [hclients]
    exact ⟨nofun, rfl, .inl rfl⟩
  · rw [hmade] at hc
    cases hc
  · rw [World.InPhase, hphase]
    refine ⟨Nat.zero_le _, fun j => ?_, fun c => ?_⟩
    · rw [hconns]
      exact ⟨nofun, nofun⟩
    · rw [hclients]

/-- A talker does something. -/
lemma Sound.setClient (h : Sound uids s) {c : ι} {client : Client}
    (hdown : client.down = (s.clients c).down)
    (hfresh : client.down = [] → Fresh (uids c) client) (hphase : client.phase ≠ .waiting) :
    Sound uids (s.setClient c client) := by
  refine ⟨fun c' hc' => ?_, h.nodup, fun c' hc' => ?_, h.inPhase.congr rfl rfl id fun c' => ?_⟩
  · rcases eq_or_ne c' c with rfl | hne
    · simp only [World.setClient, Function.update_self] at hc' ⊢
      exact hfresh hc'
    · simp only [World.setClient, Function.update_of_ne hne] at hc' ⊢
      exact h.fresh c' hc'
  · rcases eq_or_ne c' c with rfl | hne
    · simpa only [World.setClient, Function.update_self] using hphase
    · simpa only [World.setClient, Function.update_of_ne hne] using h.connected c' hc'
  · rcases eq_or_ne c' c with rfl | hne
    · simpa only [World.setClient, Function.update_self] using hdown
    · simp only [World.setClient, Function.update_of_ne hne]

lemma Sound.connect (h : Sound uids s) {c : ι} (hc : (s.clients c).phase = .waiting) :
    Sound uids { s.setClient c { s.clients c with phase := .connected } with
      queue := s.queue ++ [c] } := by
  have hset : Sound uids (s.setClient c { s.clients c with phase := .connected }) :=
    h.setClient rfl (fun hdown => ⟨nofun, (h.fresh c hdown).seq, (h.fresh c hdown).up⟩) nofun
  apply hset.enqueue
  · exact fun hmem => h.connected c hmem hc
  · simp [World.setClient]

/-- A talker's step. -/
lemma Sound.talker_step (h : Sound uids s) {c : ι} {a : WorldAct ι}
    (ha : a = .introduce c ∨ (∃ k, a = .command c k) ∨ (∃ io, a = .talk c io) ∨ a = .fail c)
    (hs : (worldLts uids).step s a = some s') : Sound uids s' := by
  replace hs : World.step uids s a = some s' := hs
  rcases ha with rfl | ⟨k, rfl⟩ | ⟨io, rfl⟩ | rfl
  · obtain ⟨-, rfl⟩ := of_guard hs
    exact h.setClient rfl (fun hdown => ⟨nofun, (h.fresh c hdown).seq, .inr rfl⟩) nofun
  · obtain ⟨⟨-, hk, hle⟩, rfl⟩ := of_guard hs
    refine h.setClient rfl (fun hdown => ?_) ?_
    · rw [show (s.clients c).down = [] from hdown] at hle
      exact absurd hle (Nat.not_le.mpr hk)
    · dsimp only
      split_ifs <;> nofun
  · simp only [World.step] at hs
    split_ifs at hs with hrun
    split at hs
    · cases hs
    · obtain rfl := Option.some.inj hs
      refine h.setClient rfl (fun hdown => absurd hdown (h.talker hrun)) ?_
      rw [hrun]
      nofun
    · obtain rfl := Option.some.inj hs
      refine h.setClient rfl (fun hdown => absurd hdown (h.talker hrun)) ?_
      rw [hrun]
      nofun
  · obtain ⟨-, rfl⟩ := of_guard hs
    exact h.setClient rfl (fun hdown => ⟨nofun, (h.fresh c hdown).seq, (h.fresh c hdown).up⟩) nofun

/-- The condition of the loop that accepts connections. -/
lemma Sound.check (h : Sound uids s) (hs : (worldLts uids).step s .check = some s') :
    Sound uids s' := by
  replace hs : World.step uids s .check = some s' := hs
  have hphase := h.inPhase
  simp only [World.step] at hs
  split at hs
  · next i hp =>
    rw [World.InPhase, hp] at hphase
    obtain ⟨hle, hfilled, hsilent⟩ := hphase
    split_ifs at hs with hi
    · obtain rfl := Option.some.inj hs
      exact h.of_phase rfl rfl rfl (by rw [hp]; rfl) ⟨hfilled, hsilent⟩
    · obtain rfl := Option.some.inj hs
      refine h.of_phase rfl rfl rfl (by rw [hp]; rfl) ⟨?_, fun c hc => ?_⟩
      · by_cases hhalt : s.haltSig = true
        · exact .inl hhalt
        · refine .inr ?_
          obtain rfl : i = clientCount := by
            by_contra hne
            exact hi ⟨by omega, by simpa using hhalt⟩
          exact hfilled
      · exact absurd (hsilent c) hc
  · cases hs

/-- A connection is accepted, or not. -/
lemma Sound.accept (h : Sound uids s) {ok : Bool}
    (hs : (worldLts uids).step s (.accept ok) = some s') : Sound uids s' := by
  replace hs : World.step uids s (.accept ok) = some s' := hs
  have hphase := h.inPhase
  simp only [World.step] at hs
  split at hs
  · next i c queue hp hq =>
    rw [World.InPhase, hp] at hphase
    obtain rfl := Option.some.inj hs
    refine h.of_made rfl ?_ hphase
    simp only [World.made, hp, hq, ListenerPhase.pending, List.nil_append, List.cons_append]
    exact List.perm_middle.subperm
  · next i hp =>
    rw [World.InPhase, hp] at hphase
    obtain rfl := Option.some.inj hs
    refine h.of_phase rfl rfl rfl (by rw [hp]; rfl)
      ⟨i.isLt.le, hphase.1, hphase.2⟩
  · cases hs

/-- The greeting of a connection was read. -/
lemma Sound.greet (h : Sound uids s) {k : Nat}
    (hs : (worldLts uids).step s (.greet k) = some s') : Sound uids s' := by
  replace hs : World.step uids s (.greet k) = some s' := hs
  have hphase := h.inPhase
  simp only [World.step] at hs
  split at hs
  · next i c hp =>
    rw [World.InPhase, hp] at hphase
    obtain ⟨hfilled, hsilent⟩ := hphase
    obtain ⟨-, rfl⟩ := of_guard hs
    have hnone (j : Slot) (hj : i ≤ j) : s.conns j = none :=
      Option.not_isSome_iff_eq_none.mp fun hsome =>
        absurd ((hfilled j).mp hsome) (Nat.not_lt.mpr hj)
    refine h.of_made rfl ?_ ⟨i.isLt, fun j => ?_, hsilent⟩
    · match i with
      | 0 =>
        simp only [World.made, hp, ListenerPhase.pending, hnone 0 le_rfl, Function.update_self,
          Function.update_of_ne (show (1 : Slot) ≠ 0 by decide), Option.toList_none,
          Option.toList_some, List.nil_append]
        exact List.Subperm.refl _
      | 1 =>
        have hother : Function.update s.conns 1 (some c) 0 = s.conns 0 :=
          Function.update_of_ne (by decide) _ _
        simp only [World.made, hp, ListenerPhase.pending, hnone 1 le_rfl, hother,
          Function.update_self, Option.toList_none, Option.toList_some, List.append_nil,
          List.nil_append, List.cons_append]
        exact ((List.perm_append_singleton c _).append_left s.queue).subperm
    · show ((Function.update s.conns i (some c)) j).isSome ↔ j.1 < i.1 + 1
      rcases eq_or_ne j i with rfl | hne
      · simp
      · rw [Function.update_of_ne hne, hfilled j]
        have := Fin.val_ne_of_ne hne
        omega
  · cases hs

lemma length_startCommand : (Talker.sendBuff startText).length = bufferSize :=
  Talker.length_sendBuff (by decide)

/-- The command is sent to a talker. -/
lemma Sound.tell (h : Sound uids s) {i : Nat} (hp : s.phase = .broadcast i) {j : Slot} {c : ι}
    (hc : s.conns j = some c) :
    Sound uids { s.setClient c { s.clients c with
        down := (s.clients c).down ++ Talker.sendBuff startText } with
      phase := .broadcast (i + 1) } := by
  have hphase := h.inPhase
  rw [World.InPhase, hp] at hphase
  refine ⟨fun c' hdown => ?_, ?_, fun c' hc' => ?_, hphase.1, fun c' hdown => ?_⟩
  · rcases eq_or_ne c' c with rfl | hne
    · simp only [World.setClient, Function.update_self] at hdown
      have hlength := congrArg List.length hdown
      rw [List.length_append, length_startCommand] at hlength
      exact absurd hlength (by simp [bufferSize])
    · simp only [World.setClient, Function.update_of_ne hne] at hdown ⊢
      exact h.fresh c' hdown
  · simpa [World.made, hp, ListenerPhase.pending, World.setClient] using h.nodup
  · have hmem : c' ∈ s.made := by
      simpa [World.made, hp, ListenerPhase.pending, World.setClient] using hc'
    rcases eq_or_ne c' c with rfl | hne
    · simpa only [World.setClient, Function.update_self] using h.connected c' hmem
    · simpa only [World.setClient, Function.update_of_ne hne] using h.connected c' hmem
  · rcases eq_or_ne c' c with rfl | hne
    · exact ⟨j, hc⟩
    · simp only [World.setClient, Function.update_of_ne hne] at hdown
      exact hphase.2 c' hdown

/-- The command is sent to a connection, if there is one. -/
lemma Sound.broadcast (h : Sound uids s) (hs : (worldLts uids).step s .broadcast = some s') :
    Sound uids s' := by
  replace hs : World.step uids s .broadcast = some s' := hs
  have hphase := h.inPhase
  simp only [World.step] at hs
  split at hs
  · next i hp =>
    rw [World.InPhase, hp] at hphase
    split_ifs at hs with hi
    · split at hs
      · next c hc =>
        obtain rfl := Option.some.inj hs
        exact h.tell hp hc
      · obtain rfl := Option.some.inj hs
        exact h.of_phase rfl rfl rfl (by rw [hp]; rfl) hphase
    · obtain rfl := Option.some.inj hs
      exact h.of_phase rfl rfl rfl (by rw [hp]; rfl) hphase
  · cases hs

lemma Sound.step (h : Sound uids s) {a : WorldAct ι} (hs : (worldLts uids).step s a = some s') :
    Sound uids s' := by
  cases a with
  | connect c =>
    obtain ⟨hc, rfl⟩ := of_guard hs
    exact h.connect hc
  | introduce c => exact h.talker_step (.inl rfl) hs
  | command c k => exact h.talker_step (.inr (.inl ⟨k, rfl⟩)) hs
  | talk c io => exact h.talker_step (.inr (.inr (.inl ⟨io, rfl⟩))) hs
  | fail c => exact h.talker_step (.inr (.inr (.inr rfl))) hs
  | signal =>
    obtain rfl := Option.some.inj hs
    exact h.of_phase rfl rfl rfl rfl (h.inPhase.congr rfl rfl (fun _ => rfl) fun _ => rfl)
  | check => exact h.check hs
  | accept ok => exact h.accept hs
  | greet k => exact h.greet hs
  | broadcast => exact h.broadcast hs
  | listen activity avail =>
    replace hs : World.step uids s (.listen activity avail) = some s' := hs
    have hphase := h.inPhase
    simp only [World.step] at hs
    split at hs
    · next hp =>
      rw [World.InPhase, hp] at hphase
      split_ifs at hs
      split at hs
      · cases hs
      · obtain rfl := Option.some.inj hs
        exact h.of_phase rfl rfl rfl rfl (by rw [World.InPhase, hp]; exact hphase)
    · cases hs
  | leave =>
    replace hs : World.step uids s .leave = some s' := hs
    have hphase := h.inPhase
    simp only [World.step] at hs
    split at hs
    · next hp =>
      rw [World.InPhase, hp] at hphase
      split_ifs at hs
      obtain rfl := Option.some.inj hs
      exact h.of_phase rfl rfl rfl (by rw [hp]; rfl) (.inr hphase)
    · cases hs
  | abort =>
    replace hs : World.step uids s .abort = some s' := hs
    have hphase := h.inPhase
    simp only [World.step] at hs
    split at hs
    · next i c hp =>
      rw [World.InPhase, hp] at hphase
      obtain rfl := Option.some.inj hs
      refine h.of_made rfl (List.Sublist.subperm ?_) (.inl hphase.2)
      simp only [World.made, hp, ListenerPhase.pending]
      exact ((List.nil_sublist [c]).append_right _).append_left s.queue
    · next i hp =>
      rw [World.InPhase, hp] at hphase
      obtain rfl := Option.some.inj hs
      exact h.of_phase rfl rfl rfl (by rw [hp]; rfl) (.inr hphase)
    · next hp =>
      rw [World.InPhase, hp] at hphase
      obtain rfl := Option.some.inj hs
      exact h.of_phase rfl rfl rfl (by rw [hp]; rfl) (.inr hphase)
    · cases hs

theorem sound {tr : List (World ι × WorldAct ι)} (h : (worldLts uids).Run tr s) :
    Sound uids s :=
  h.invariant (fun _ => sound_init) (fun _ _ _ hI hs => hI.step hs)

/-- No talker reports a pulse before both slots have a talker, unless a signal ended the accepting;
and only the talkers in the slots ever do. -/
theorem talks_released {tr : List (World ι × WorldAct ι)} (h : (worldLts uids).Run tr s) :
    ∀ x ∈ tr, ∀ c io, x.2 = .talk c io → (∃ i, x.1.conns i = some c) ∧
      (x.1.haltSig = true ∨ ∀ i, (x.1.conns i).isSome) := by
  intro x hx c io ha
  obtain ⟨tr', s', hrun, hs⟩ := h.of_mem hx
  have hsound := sound hrun
  have hrunning : (x.1.clients c).phase = .running := by
    rw [ha] at hs
    replace hs : World.step uids x.1 (.talk c io) = some s' := hs
    simp only [World.step] at hs
    split_ifs at hs with hphase
    exact hphase
  obtain ⟨hfilled, hslot⟩ := hsound.released (hsound.talker hrunning)
  exact ⟨hslot c (hsound.talker hrunning), hfilled.imp_right fun hf i => (hf i).mpr i.isLt⟩

end

section Both

/-- Two talkers introduce themselves, and one of them reports a pulse. -/
private def introduced : List (WorldAct Slot) :=
  [.connect 1, .connect 0, .introduce 1, .introduce 0, .check, .accept true, .greet 256, .check,
    .accept true, .greet 256, .check, .broadcast, .command 1 256,
    .talk 1 ⟨.ok (some (5, 7)), false, false⟩]

/-- Both slots have a talker by then. -/
theorem talks_released_both : ∃ tr s, (worldLts talkers).Run tr s ∧
    (∃ x ∈ tr, ∃ c io, x.2 = .talk c io) ∧ ∀ x ∈ tr, ∀ c io, x.2 = .talk c io →
      (∃ i, x.1.conns i = some c) ∧ (x.1.haltSig = true ∨ ∀ i, (x.1.conns i).isSome) := by
  have hrun : ((worldLts talkers).replay .initial introduced).map (fun r =>
      r.1.any fun x => match x.2 with
        | .talk _ _ => true
        | _         => false) = some true := by decide +kernel
  obtain ⟨⟨tr, s⟩, hr, hany⟩ := Option.map_eq_some_iff.mp hrun
  obtain ⟨⟨s₁, a⟩, hx, ha⟩ := List.any_eq_true.mp hany
  have hrun := Lts.Run.of_replay (World.init_initial talkers) hr
  refine ⟨tr, s, hrun, ⟨_, hx, ?_⟩, talks_released hrun⟩
  cases a with
  | talk c io => exact ⟨c, io, rfl⟩
  | _ => cases ha

end Both

end Tsq

end TsnRefSw
