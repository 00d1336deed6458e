import TsnRefSw.Tsq.Startup

/-!
# A measurement from its start

Once two talkers are in the slots, what they and the listener do is a run of the two talkers and
the listener joined by TCP, each talker in the slot it was accepted in. What was shown of these
runs so holds of the whole program, whichever talker came first, and although a talker may report
pulses before the other one was told to start.
-/

namespace TsnRefSw

open Core
open scoped List

namespace Tsq

variable {ι : Type*} [DecidableEq ι]

namespace World

/-- The listener is still accepting connections. -/
def Joining (s : World ι) : Prop :=
  match s.phase with
  | .check _ | .accept _ | .greet _ _ => True
  | .broadcast _ | .loop | .ended     => False

/-- The slot of a talker. -/
def slotOf (s : World ι) (c : ι) : Slot := if s.conns 0 = some c then 0 else 1

/-- What a step is for the two talkers in the slots and the listener. -/
def seen (s : World ι) : WorldAct ι → Option Action
  | .talk c io             => some (.talk (s.slotOf c) io)
  | .listen activity avail => some (.listen activity avail)
  | _                      => none

/-- The reading of a greeting brings something. -/
def Greets : WorldAct ι → Prop
  | .greet k => 0 < k
  | _        => True

instance : (a : WorldAct ι) → Decidable (Greets a)
  | .greet k => inferInstanceAs (Decidable (0 < k))
  | .connect _ | .introduce _ | .command _ _ | .talk _ _ | .fail _ | .signal | .check | .accept _
  | .broadcast | .listen _ _ | .leave | .abort => inferInstanceAs (Decidable True)

/-- All reads of a step bring whole samples. -/
def ReadsWhole (s : World ι) : WorldAct ι → Prop
  | .listen _ avail => ∀ i, ∀ k ∈ avail i, s.toState.ReadsWhole i k
  | _               => True

instance (s : World ι) : (a : WorldAct ι) → Decidable (s.ReadsWhole a)
  | .listen _ avail => inferInstanceAs (Decidable (∀ i, ∀ k ∈ avail i, s.toState.ReadsWhole i k))
  | .connect _ | .introduce _ | .command _ _ | .talk _ _ | .fail _ | .signal | .check | .accept _
  | .greet _ | .broadcast | .leave | .abort => inferInstanceAs (Decidable True)

end World

/-- The part of a run that is about the talkers in the slots and the listener. -/
def seenTrace (tr : List (World ι × WorldAct ι)) : List (State × Action) :=
  tr.filterMap fun x => (x.1.seen x.2).map (Prod.mk x.1.toState)

/-- The sample that a talker writes in a step, if any. -/
def wroteAt (uids : ι → TalkerUid) (c : ι) (s : World ι) : WorldAct ι → List Payload
  | .talk c' io =>
    match Talker.iterate (uids c').toInt32 (s.clients c').seq io with
    | .ok (some p, _) => if c' = c then [p] else []
    | _               => []
  | _ => []

/-- The samples that a talker wrote. -/
def wrote (uids : ι → TalkerUid) (c : ι) (tr : List (World ι × WorldAct ι)) : List Payload :=
  tr.flatMap fun x => wroteAt uids c x.1 x.2

/-- The iterations of the listener's loop. -/
def heard (tr : List (World ι × WorldAct ι)) : List (Listener × Listener.Io) :=
  listenerTrace (seenTrace tr)

/-- The greetings were read from the beginning, and nothing else was. -/
structure Introducing (uids : ι → TalkerUid) (tr : List (World ι × WorldAct ι)) (s : World ι) :
    Prop where
  quiet : seenTrace tr = []
  silent : ∀ c, wrote uids c tr = []
  greeted : ∀ i c, s.conns i = some c → (s.clients c).up = Talker.greeting (uids c) ∧
    s.cliIds i = atoi ((Talker.greeting (uids c)).take (s.pos i)) ∧
    0 < s.pos i ∧ s.pos i ≤ bufferSize - 1

/-- The talkers in the slots and the listener are in a run of their own. -/
structure Measuring (uids : ι → TalkerUid) (tr : List (World ι × WorldAct ι)) (s : World ι) :
    Prop where
  idle : ∀ i, s.conns i = none → heard tr = []
  run : ∀ cs : Slot → ι, (∀ i, s.conns i = some (cs i)) →
    ∃ first, (tsqLts (fun i => uids (cs i)) first).Run (seenTrace tr) s.toState ∧
      ∀ i, written (fun i => uids (cs i)) i (seenTrace tr) = wrote uids (cs i) tr

/-- A talker that has not introduced itself has written nothing, those in the slots have. -/
structure Heard (s : World ι) : Prop where
  unheard : ∀ c, (s.clients c).phase = .waiting ∨ (s.clients c).phase = .connected →
    (s.clients c).up = []
  slots : ∀ i c, s.conns i = some c → (s.clients c).up ≠ []

section

variable {uids : ι → TalkerUid} {tr : List (World ι × WorldAct ι)} {s s' : World ι}
  {a : WorldAct ι}

lemma seenTrace_append (tr : List (World ι × WorldAct ι)) (s : World ι) (a : WorldAct ι) :
    seenTrace (tr ++ [(s, a)]) =
      seenTrace tr ++ ((s.seen a).map (Prod.mk s.toState)).toList := by
  rw [seenTrace, List.filterMap_append]
  cases h : s.seen a <;> simp [h, seenTrace]

lemma wrote_append (c : ι) (tr : List (World ι × WorldAct ι)) (s : World ι) (a : WorldAct ι) :
    wrote uids c (tr ++ [(s, a)]) = wrote uids c tr ++ wroteAt uids c s a := by
  simp [wrote]

/-- A step that is not seen writes no sample. -/
lemma wroteAt_of_unseen (h : s.seen a = none) (c : ι) : wroteAt uids c s a = [] := by
  cases a with
  | talk c' io => cases h
  | _ => rfl

lemma Introducing.unseen (h : Introducing uids tr s) (ha : s.seen a = none)
    (hgreeted : ∀ i c, s'.conns i = some c → (s'.clients c).up = Talker.greeting (uids c) ∧
      s'.cliIds i = atoi ((Talker.greeting (uids c)).take (s'.pos i)) ∧
      0 < s'.pos i ∧ s'.pos i ≤ bufferSize - 1) : Introducing uids (tr ++ [(s, a)]) s' := by
  refine ⟨?_, fun c => ?_, hgreeted⟩
  · rw [seenTrace_append, h.quiet, ha]
    rfl
  · rw [wrote_append, h.silent, wroteAt_of_unseen ha]
    rfl

lemma Measuring.unseen (h : Measuring uids tr s) (ha : s.seen a = none)
    (hconns : s'.conns = s.conns) (hstate : s'.toState = s.toState) :
    Measuring uids (tr ++ [(s, a)]) s' := by
  have htrace : seenTrace (tr ++ [(s, a)]) = seenTrace tr := by
    rw [seenTrace_append, ha]
    exact List.append_nil _
  refine ⟨fun i hi => ?_, fun cs hcs => ?_⟩
  · rw [heard, htrace]
    exact h.idle i (hconns ▸ hi)
  · obtain ⟨first, hrun, hwritten⟩ := h.run cs (hconns ▸ hcs)
    rw [htrace, hstate]
    refine ⟨first, hrun, fun i => ?_⟩
    rw [wrote_append, wroteAt_of_unseen ha, List.append_nil]
    exact hwritten i

omit [DecidableEq ι] in
/-- Each talker is in one slot at most. -/
lemma Sound.conns_inj (h : Sound uids s) {i j : Slot} {c : ι} (hi : s.conns i = some c)
    (hj : s.conns j = some c) : i = j := by
  have hnodup := (List.nodup_append.mp (List.nodup_append.mp h.nodup).2.1).2.1
  have hne {c' : ι} (h₀ : s.conns 0 = some c') (h₁ : s.conns 1 = some c') : False := by
    rw [h₀, h₁] at hnodup
    simp at hnodup
  match i, j with
  | 0, 0 => rfl
  | 0, 1 => exact (hne hi hj).elim
  | 1, 0 => exact (hne hj hi).elim
  | 1, 1 => rfl

lemma Sound.slotOf_eq (h : Sound uids s) {j : Slot} {c : ι} (hj : s.conns j = some c) :
    s.slotOf c = j := by
  rw [World.slotOf]
  split_ifs with h₀
  · exact h.conns_inj h₀ hj
  · match j with
    | 0 => exact absurd hj h₀
    | 1 => rfl

/-- What a talker does is seen in its slot. -/
lemma Sound.toState_setClient (h : Sound uids s) {j : Slot} {c : ι} (hj : s.conns j = some c)
    (client : Client) : (s.setClient c client).toState = { s.toState with
      seq := Function.update s.toState.seq j client.seq
      conn := Function.update s.toState.conn j ⟨client.up, s.pos j⟩ } := by
  have hclient (i : Slot) (c' : ι) (hi : s.conns i = some c') :
      (s.setClient c client).clients c' = if i = j then client else s.clients c' := by
    by_cases hij : i = j
    · subst hij
      obtain rfl := Option.some.inj (hi.symm.trans hj)
      simp [World.setClient]
    · rw [if_neg hij]
      apply Function.update_of_ne
      rintro rfl
      exact hij (h.conns_inj hi hj)
  have hslot (i : Slot) : (s.setClient c client).toState.seq i =
      Function.update s.toState.seq j client.seq i ∧ (s.setClient c client).toState.conn i =
        Function.update s.toState.conn j ⟨client.up, s.pos j⟩ i := by
    rcases eq_or_ne i j with rfl | hij
    · simp [World.toState, World.setClient, hj]
    · rw [Function.update_of_ne hij, Function.update_of_ne hij]
      cases hi : s.conns i with
      | none => simp [World.toState, World.setClient, hi]
      | some c' =>
        have hc' := hclient i c' hi
        rw [if_neg hij] at hc'
        have hconns : (s.setClient c client).conns i = some c' := hi
        simp only [World.toState, hconns, hi, Option.map_some, hc']
        exact ⟨trivial, rfl⟩
  rw [show (s.setClient c client).toState = ⟨(s.setClient c client).toState.seq,
    (s.setClient c client).toState.conn, s.listener⟩ from rfl]
  congr 1
  · exact funext fun i => (hslot i).1
  · exact funext fun i => (hslot i).2

/-- A talker in a slot writes or does not write a sample. -/
lemma Measuring.talk (h : Measuring uids tr s) (hsound : Sound uids s) {c : ι} {io : Talker.Io}
    (hs : (worldLts uids).step s (.talk c io) = some s') :
    Measuring uids (tr ++ [(s, .talk c io)]) s' := by
  replace hs : World.step uids s (.talk c io) = some s' := hs
  simp only [World.step] at hs
  split_ifs at hs with hrunning
  have hdown := hsound.talker hrunning
  obtain ⟨j, hj⟩ := (hsound.released hdown).2 c hdown
  have hslot := hsound.slotOf_eq hj
  have htrace : seenTrace (tr ++ [(s, .talk c io)]) =
      seenTrace tr ++ [(s.toState, .talk j io)] := by
    rw [seenTrace_append, World.seen, hslot]
    rfl
  have hseq : s.toState.seq j = (s.clients c).seq := by simp [World.toState, hj]
  have hup : s.toState.conn j = ⟨(s.clients c).up, s.pos j⟩ := by simp [World.toState, hj]
  have hconns : s'.conns = s.conns := by
    split at hs
    · cases hs
    · exact (Option.some.inj hs) ▸ rfl
    · exact (Option.some.inj hs) ▸ rfl
  refine ⟨fun i hi => ?_, fun cs hcs => ?_⟩
  · rw [heard, htrace, listenerTrace_append, listenerAt, List.append_nil]
    exact h.idle i (hconns ▸ hi)
  · rw [hconns] at hcs
    obtain ⟨first, hrun, hwritten⟩ := h.run cs hcs
    obtain rfl : cs j = c := Option.some.inj ((hcs j).symm.trans hj)
    have hinj (i : Slot) : cs j = cs i ↔ j = i :=
      ⟨fun he => hsound.conns_inj hj (he ▸ hcs i), fun he => he ▸ rfl⟩
    rw [htrace]
    refine ⟨first, hrun.step ?_, fun i => ?_⟩
    · rw [tsqLts_step]
      cases hit : Talker.iterate (uids (cs j)).toInt32 (s.clients (cs j)).seq io with
      | error _ =>
        simp only [hit] at hs
        cases hs
      | ok r =>
        obtain ⟨_ | p, seq⟩ := r
        · simp only [hit] at hs
          obtain rfl := Option.some.inj hs
          simp only [Tsq.step, hseq, hit]
          rw [hsound.toState_setClient hj, ← hup, Function.update_eq_self]
        · simp only [hit] at hs
          obtain rfl := Option.some.inj hs
          simp only [Tsq.step, hseq, hit]
          rw [hsound.toState_setClient hj]
          simp only [State.write, hup]
    · rw [written_append, wrote_append, hwritten]
      cases hit : Talker.iterate (uids (cs j)).toInt32 (s.clients (cs j)).seq io with
      | error _ => simp only [writtenAt, wroteAt, hseq, hit]
      | ok r =>
        obtain ⟨_ | p, seq⟩ := r
        · simp only [writtenAt, wroteAt, hseq, hit]
        · simp only [writtenAt, wroteAt, hseq, hinj, hit]

/-- The listener runs through an iteration of its loop. -/
lemma Measuring.listen (h : Measuring uids tr s) (hsound : Sound uids s)
    {activity : Listener.Activity} {avail : Slot → Option Nat}
    (hs : (worldLts uids).step s (.listen activity avail) = some s') :
    Measuring uids (tr ++ [(s, .listen activity avail)]) s' := by
  replace hs : World.step uids s (.listen activity avail) = some s' := hs
  have hphase := hsound.inPhase
  simp only [World.step] at hs
  split at hs
  · next hp =>
    rw [World.InPhase, hp] at hphase
    split_ifs at hs with hguard
    obtain ⟨hhalt, henabled⟩ := hguard
    have hfilled : s.Filled clientCount := hphase.1.resolve_left (by rw [hhalt]; decide)
    split at hs
    · cases hs
    · next listener hit =>
      obtain rfl := Option.some.inj hs
      refine ⟨fun i hi => ?_, fun cs hcs => ?_⟩
      · have hsome := (hfilled i).mpr i.isLt
        rw [show s.conns i = none from hi] at hsome
        cases hsome
      · obtain ⟨first, hrun, hwritten⟩ := h.run cs hcs
        have htrace : seenTrace (tr ++ [(s, .listen activity avail)]) =
            seenTrace tr ++ [(s.toState, .listen activity avail)] := by
          rw [seenTrace_append]
          rfl
        rw [htrace]
        refine ⟨first, hrun.step ?_, fun i => ?_⟩
        · rw [tsqLts_step]
          simp only [Tsq.step, if_pos henabled]
          have hit' : s.toState.listener.iterate (s.toState.listenerIo activity avail) =
              .ok listener := hit
          rw [hit', Option.some_inj]
          congr 1
          funext i
          cases ha : avail i <;> simp [State.advance, World.toState, ha, Conn.advance]
        · rw [written_append, wrote_append, hwritten]
          rfl
  · cases hs

/-! ### What is not seen -/

lemma heard_init (h : (worldLts uids).init s) : Heard s := by
  obtain ⟨hclients, -, -, hconns, -⟩ := h
  refine ⟨fun c _ => ?_, fun i c hi => ?_⟩
  · rw [hclients]
  · rw [hconns] at hi
    cases hi

lemma Heard.setClient (h : Heard s) {c : ι} {client : Client}
    (hunheard : client.phase = .waiting ∨ client.phase = .connected → client.up = [])
    (hup : (s.clients c).up ≠ [] → client.up ≠ []) : Heard (s.setClient c client) := by
  refine ⟨fun c' hc' => ?_, fun i c' hi => ?_⟩
  · rcases eq_or_ne c' c with rfl | hne
    · simp only [World.setClient, Function.update_self] at hc' ⊢
      exact hunheard hc'
    · simp only [World.setClient, Function.update_of_ne hne] at hc' ⊢
      exact h.unheard c' hc'
  · rcases eq_or_ne c' c with rfl | hne
    · simp only [World.setClient, Function.update_self]
      exact hup (h.slots i c' hi)
    · simp only [World.setClient, Function.update_of_ne hne]
      exact h.slots i c' hi

lemma greeting_ne_nil (uid : TalkerUid) : Talker.greeting uid ≠ [] := by
  intro h
  have hlength := congrArg List.length h
  rw [Talker.length_greeting] at hlength
  cases hlength

/-- The steps of the listener, but for the reading of a greeting. -/
def WorldAct.OfListener : WorldAct ι → Prop
  | .signal | .check | .accept _ | .broadcast | .listen _ _ | .leave | .abort => True
  | _                                                                         => False

/-- The slots, and what the talkers have done, are as before. -/
structure Kept (s s' : World ι) : Prop where
  conns : s'.conns = s.conns
  phase : ∀ c, (s'.clients c).phase = (s.clients c).phase
  seq : ∀ c, (s'.clients c).seq = (s.clients c).seq
  up : ∀ c, (s'.clients c).up = (s.clients c).up

omit [DecidableEq ι] in
lemma Kept.of_clients (hconns : s'.conns = s.conns) (hclients : s'.clients = s.clients) :
    Kept s s' :=
  ⟨hconns, fun _ => hclients ▸ rfl, fun _ => hclients ▸ rfl, fun _ => hclients ▸ rfl⟩

lemma Kept.setClient {c : ι} {client : Client} (hphase : client.phase = (s.clients c).phase)
    (hseq : client.seq = (s.clients c).seq) (hup : client.up = (s.clients c).up) :
    Kept s (s.setClient c client) := by
  refine ⟨rfl, fun c' => ?_, fun c' => ?_, fun c' => ?_⟩
  all_goals
    rcases eq_or_ne c' c with rfl | hne
  · simpa only [World.setClient, Function.update_self] using hphase
  · simp only [World.setClient, Function.update_of_ne hne]
  · simpa only [World.setClient, Function.update_self] using hseq
  · simp only [World.setClient, Function.update_of_ne hne]
  · simpa only [World.setClient, Function.update_self] using hup
  · simp only [World.setClient, Function.update_of_ne hne]

lemma kept_of_listener (ha : a.OfListener) (hs : (worldLts uids).step s a = some s') :
    Kept s s' := by
  replace hs : World.step uids s a = some s' := hs
  cases a with
  | connect _ | introduce _ | command _ _ | talk _ _ | fail _ | greet _ => exact ha.elim
  | signal => exact (Option.some.inj hs) ▸ .of_clients rfl rfl
  | check =>
    simp only [World.step] at hs
    split at hs
    · split_ifs at hs
      · exact (Option.some.inj hs) ▸ .of_clients rfl rfl
      · exact (Option.some.inj hs) ▸ .of_clients rfl rfl
    · cases hs
  | accept ok =>
    simp only [World.step] at hs
    split at hs
    · exact (Option.some.inj hs) ▸ .of_clients rfl rfl
    · exact (Option.some.inj hs) ▸ .of_clients rfl rfl
    · cases hs
  | broadcast =>
    simp only [World.step] at hs
    split at hs
    · split_ifs at hs
      · split at hs
        · next c hc =>
          obtain rfl := Option.some.inj hs
          have hkept : Kept s (s.setClient c { s.clients c with
              down := (s.clients c).down ++ Talker.sendBuff startText }) := .setClient rfl rfl rfl
          exact ⟨hkept.conns, hkept.phase, hkept.seq, hkept.up⟩
        · exact (Option.some.inj hs) ▸ .of_clients rfl rfl
      · exact (Option.some.inj hs) ▸ .of_clients rfl rfl
    · cases hs
  | listen activity avail =>
    simp only [World.step] at hs
    split at hs
    · split_ifs at hs
      split at hs
      · cases hs
      · exact (Option.some.inj hs) ▸ .of_clients rfl rfl
    · cases hs
  | leave =>
    simp only [World.step] at hs
    split at hs
    · split_ifs at hs
      exact (Option.some.inj hs) ▸ .of_clients rfl rfl
    · cases hs
  | abort =>
    simp only [World.step] at hs
    split at hs
    · exact (Option.some.inj hs) ▸ .of_clients rfl rfl
    · exact (Option.some.inj hs) ▸ .of_clients rfl rfl
    · exact (Option.some.inj hs) ▸ .of_clients rfl rfl
    · cases hs

lemma Heard.step (h : Heard s) (hgreets : World.Greets a)
    (hs : (worldLts uids).step s a = some s') : Heard s' := by
  have hlistener (ha : a.OfListener) : Heard s' := by
    obtain ⟨hconns, hphase, -, hup⟩ := kept_of_listener ha hs
    refine ⟨fun c hc => ?_, fun i c hi => ?_⟩
    · rw [hphase] at hc
      rw [hup]
      exact h.unheard c hc
    · rw [hconns] at hi
      rw [hup]
      exact h.slots i c hi
  cases a with
  | signal | check | accept _ | broadcast | listen _ _ | leave | abort => exact hlistener trivial
  | connect c =>
    obtain ⟨hc, rfl⟩ := of_guard hs
    have hset : Heard (s.setClient c { s.clients c with phase := .connected }) :=
      h.setClient (fun _ => h.unheard c (.inl hc)) id
    exact ⟨hset.unheard, hset.slots⟩
  | introduce c =>
    obtain ⟨-, rfl⟩ := of_guard hs
    exact h.setClient (by simp) fun _ => greeting_ne_nil _
  | command c k =>
    obtain ⟨-, rfl⟩ := of_guard hs
    refine h.setClient (fun hc => ?_) id
    dsimp only at hc
    split_ifs at hc <;> simp at hc
  | talk c io =>
    replace hs : World.step uids s (.talk c io) = some s' := hs
    simp only [World.step] at hs
    split_ifs at hs with hrunning
    split at hs
    · cases hs
    · exact (Option.some.inj hs) ▸ h.setClient (by simp [hrunning]) id
    · exact (Option.some.inj hs) ▸ h.setClient (by simp [hrunning])
        fun hne => List.append_ne_nil_of_left_ne_nil hne _
  | fail c =>
    obtain ⟨-, rfl⟩ := of_guard hs
    exact h.setClient (by simp) id
  | greet k =>
    replace hs : World.step uids s (.greet k) = some s' := hs
    simp only [World.step] at hs
    split at hs
    · next i c hp =>
      obtain ⟨hread, rfl⟩ := of_guard hs
      refine ⟨h.unheard, fun j c' hj => ?_⟩
      rcases eq_or_ne j i with rfl | hne
      · obtain rfl : c = c' := by simpa using hj
        intro hup
        have hlt : 0 < k := hgreets
        dsimp only at hup
        simp only [hup, List.length_nil] at hread
        omega
      · simp only [Function.update_of_ne hne] at hj
        exact h.slots j c' hj
    · cases hs

/-! ### Whole runs -/

/-- Where the run stands, as the listener's phase says. -/
def Phased (uids : ι → TalkerUid) (tr : List (World ι × WorldAct ι)) (s : World ι) : Prop :=
  (s.Joining → Introducing uids tr s) ∧ (¬ s.Joining → Measuring uids tr s)

omit [DecidableEq ι] in
lemma toState_congr (hconns : s'.conns = s.conns) (hpos : s'.pos = s.pos)
    (hlistener : s'.listener = s.listener) (hclients : ∀ i c, s.conns i = some c →
      (s'.clients c).seq = (s.clients c).seq ∧ (s'.clients c).up = (s.clients c).up) :
    s'.toState = s.toState := by
  rw [World.toState, World.toState, hconns, hpos, hlistener]
  congr 1
  · funext i
    cases hi : s.conns i with
    | none => rfl
    | some c => simp [(hclients i c hi).1]
  · funext i
    cases hi : s.conns i with
    | none => rfl
    | some c => simp [(hclients i c hi).2]

/-- Nothing happens to what the listener knows. -/
lemma Phased.unseen (h : Phased uids tr s) (ha : s.seen a = none)
    (hjoining : s'.Joining ↔ s.Joining) (hconns : s'.conns = s.conns)
    (hcliIds : s'.cliIds = s.cliIds) (hpos : s'.pos = s.pos) (hlistener : s'.listener = s.listener)
    (hclients : ∀ i c, s.conns i = some c →
      (s'.clients c).seq = (s.clients c).seq ∧ (s'.clients c).up = (s.clients c).up) :
    Phased uids (tr ++ [(s, a)]) s' := by
  refine ⟨fun hj => (h.1 (hjoining.mp hj)).unseen ha fun i c hi => ?_,
    fun hj => (h.2 (mt hjoining.mpr hj)).unseen ha hconns
      (toState_congr hconns hpos hlistener hclients)⟩
  rw [hconns] at hi
  rw [(hclients i c hi).2, hcliIds, hpos]
  exact (h.1 (hjoining.mp hj)).greeted i c hi

/-- A talker does something that the listener does not see. -/
lemma Phased.setClient (h : Phased uids tr s) (ha : s.seen a = none) (queue : List ι) {c : ι}
    {client : Client} (hc : (∃ i, s.conns i = some c) →
      client.seq = (s.clients c).seq ∧ client.up = (s.clients c).up) :
    Phased uids (tr ++ [(s, a)]) { s.setClient c client with queue := queue } := by
  refine h.unseen ha .rfl rfl rfl rfl rfl fun i c' hi => ?_
  rcases eq_or_ne c' c with rfl | hne
  · simpa only [World.setClient, Function.update_self] using hc ⟨i, hi⟩
  · simp only [World.setClient, Function.update_of_ne hne]
    exact ⟨trivial, trivial⟩

omit [DecidableEq ι] in
lemma Sound.not_joining (h : Sound uids s) {c : ι} (hc : (s.clients c).down ≠ []) :
    ¬ s.Joining := by
  have hphase := h.inPhase
  rw [World.InPhase] at hphase
  rw [World.Joining]
  cases hp : s.phase with
  | check i =>
    rw [hp] at hphase
    exact absurd (hphase.2.2 c) hc
  | accept i =>
    rw [hp] at hphase
    exact absurd (hphase.2 c) hc
  | greet i c' =>
    rw [hp] at hphase
    exact absurd (hphase.2 c) hc
  | broadcast _ | loop | ended => exact id

/-- The listener stops accepting connections. -/
lemma Introducing.broadcast (h : Introducing uids tr s) (hsound : Sound uids s)
    (hsilent : s.Silent) : Measuring uids (tr ++ [(s, .check)])
      { s with phase := .broadcast 0, listener := .start s.cliIds } := by
  have htrace : seenTrace (tr ++ [(s, .check)]) = [] := by
    rw [seenTrace_append, h.quiet]
    rfl
  refine ⟨fun i _ => by rw [heard, htrace]; rfl, fun cs hcs => ⟨s.pos, ?_, fun i => ?_⟩⟩
  · rw [htrace]
    refine .init ⟨fun i => (h.greeted i _ (hcs i)).2.2, ?_⟩
    have hgreeted (i : Slot) := h.greeted i (cs i) (hcs i)
    have hfresh (i : Slot) := hsound.fresh (cs i) (hsilent (cs i))
    have hconns (i : Slot) : s.conns i = some (cs i) := hcs i
    simp only [World.toState, hconns, Option.map_some, Option.getD_some, start,
      fun i => (hfresh i).seq, fun i => (hgreeted i).1, ← fun i => (hgreeted i).2.1]
  · rw [htrace, wrote_append, h.silent]
    rfl

/-- A greeting was read, from its beginning. -/
lemma Introducing.greet (h : Introducing uids tr s) (hsound : Sound uids s) (hsilent : s.Silent)
    {i : Slot} {c : ι} {k : Nat} (hk : 0 < k ∧ k ≤ (s.clients c).up.length) :
    Introducing uids (tr ++ [(s, .greet k)]) { s with
      phase := .check (i + 1)
      conns := Function.update s.conns i (some c)
      cliIds := Function.update s.cliIds i
        (atoi ((s.clients c).up.take (min k (bufferSize - 1))))
      pos := Function.update s.pos i (min k (bufferSize - 1)) } := by
  apply h.unseen rfl
  intro j c' hj
  rcases eq_or_ne j i with rfl | hne
  · obtain rfl : c = c' := by simpa using hj
    have hup : (s.clients c).up = Talker.greeting (uids c) := by
      rcases (hsound.fresh c (hsilent c)).up with hnil | hup
      · rw [hnil] at hk
        exact absurd hk.2 (Nat.not_le.mpr hk.1)
      · exact hup
    simp only [Function.update_self]
    refine ⟨hup, by rw [hup], ?_, Nat.min_le_right _ _⟩
    exact Nat.lt_min.mpr ⟨hk.1, by decide⟩
  · simp only [Function.update_of_ne hne] at hj ⊢
    exact h.greeted j c' hj

lemma Phased.step (h : Phased uids tr s) (hsound : Sound uids s) (hheard : Heard s)
    (hgreets : World.Greets a) (hs : (worldLts uids).step s a = some s') :
    Phased uids (tr ++ [(s, a)]) s' := by
  replace hs : World.step uids s a = some s' := hs
  have hphase := hsound.inPhase
  cases a with
  | connect c =>
    obtain ⟨-, rfl⟩ := of_guard hs
    exact h.setClient rfl _ fun _ => ⟨rfl, rfl⟩
  | introduce c =>
    obtain ⟨hc, rfl⟩ := of_guard hs
    -- a talker in a slot has introduced itself before
    exact h.setClient rfl s.queue fun ⟨i, hi⟩ =>
      absurd (hheard.unheard c (.inr hc)) (hheard.slots i c hi)
  | command c k =>
    obtain ⟨-, rfl⟩ := of_guard hs
    exact h.setClient rfl s.queue fun _ => ⟨rfl, rfl⟩
  | talk c io =>
    have hmeasuring (hj : ¬ s.Joining) := (h.2 hj).talk hsound hs
    simp only [World.step] at hs
    split_ifs at hs with hrunning
    have hj := hsound.not_joining (hsound.talker hrunning)
    have hj' : ¬ s'.Joining := by
      split at hs
      · cases hs
      · exact (Option.some.inj hs) ▸ hj
      · exact (Option.some.inj hs) ▸ hj
    exact ⟨fun hjoining => absurd hjoining hj', fun _ => hmeasuring hj⟩
  | fail c =>
    obtain ⟨-, rfl⟩ := of_guard hs
    exact h.setClient rfl s.queue fun _ => ⟨rfl, rfl⟩
  | signal =>
    obtain rfl := Option.some.inj hs
    exact h.unseen rfl .rfl rfl rfl rfl rfl fun _ _ _ => ⟨rfl, rfl⟩
  | check =>
    simp only [World.step] at hs
    split at hs
    · next i hp =>
      rw [World.InPhase, hp] at hphase
      have hj : s.Joining := by rw [World.Joining, hp]; trivial
      split_ifs at hs with hi
      · obtain rfl := Option.some.inj hs
        exact h.unseen rfl ⟨fun _ => hj, fun _ => trivial⟩ rfl rfl rfl rfl fun _ _ _ => ⟨rfl, rfl⟩
      · obtain rfl := Option.some.inj hs
        exact ⟨False.elim, fun _ => (h.1 hj).broadcast hsound hphase.2.2⟩
    · cases hs
  | accept ok =>
    simp only [World.step] at hs
    split at hs
    · next i c queue hp hq =>
      have hj : s.Joining := by rw [World.Joining, hp]; trivial
      obtain rfl := Option.some.inj hs
      exact h.unseen rfl ⟨fun _ => hj, fun _ => trivial⟩ rfl rfl rfl rfl fun _ _ _ => ⟨rfl, rfl⟩
    · next i hp =>
      have hj : s.Joining := by rw [World.Joining, hp]; trivial
      obtain rfl := Option.some.inj hs
      exact h.unseen rfl ⟨fun _ => hj, fun _ => trivial⟩ rfl rfl rfl rfl fun _ _ _ => ⟨rfl, rfl⟩
    · cases hs
  | greet k =>
    simp only [World.step] at hs
    split at hs
    · next i c hp =>
      rw [World.InPhase, hp] at hphase
      have hj : s.Joining := by rw [World.Joining, hp]; trivial
      obtain ⟨hread, rfl⟩ := of_guard hs
      have hk := hread.resolve_right fun hend => (Nat.ne_of_gt hgreets) hend.1
      exact ⟨fun _ => (h.1 hj).greet hsound hphase.2 hk, fun hn => absurd trivial hn⟩
    · cases hs
  | broadcast =>
    simp only [World.step] at hs
    split at hs
    · next i hp =>
      have hj : ¬ s.Joining := by rw [World.Joining, hp]; exact id
      split_ifs at hs with hi
      · split at hs
        · next c hc =>
          obtain rfl := Option.some.inj hs
          have hkept : Kept s (s.setClient c { s.clients c with
              down := (s.clients c).down ++ Talker.sendBuff startText }) := .setClient rfl rfl rfl
          exact h.unseen rfl ⟨False.elim, fun hjoining => hj hjoining⟩ rfl rfl rfl rfl
            fun _ c' _ => ⟨hkept.seq c', hkept.up c'⟩
        · obtain rfl := Option.some.inj hs
          exact h.unseen rfl ⟨False.elim, fun hjoining => hj hjoining⟩ rfl rfl rfl rfl
            fun _ _ _ => ⟨rfl, rfl⟩
      · obtain rfl := Option.some.inj hs
        exact h.unseen rfl ⟨False.elim, fun hjoining => hj hjoining⟩ rfl rfl rfl rfl
          fun _ _ _ => ⟨rfl, rfl⟩
    · cases hs
  | listen activity avail =>
    have hmeasuring (hj : ¬ s.Joining) := (h.2 hj).listen hsound hs
    simp only [World.step] at hs
    split at hs
    · next hp =>
      have hj : ¬ s.Joining := by rw [World.Joining, hp]; exact id
      split_ifs at hs
      split at hs
      · cases hs
      · obtain rfl := Option.some.inj hs
        exact ⟨fun hjoining => absurd hjoining hj, fun _ => hmeasuring hj⟩
    · cases hs
  | leave =>
    simp only [World.step] at hs
    split at hs
    · next hp =>
      have hj : ¬ s.Joining := by rw [World.Joining, hp]; exact id
      split_ifs at hs
      obtain rfl := Option.some.inj hs
      exact h.unseen rfl ⟨False.elim, fun hjoining => hj hjoining⟩ rfl rfl rfl rfl
        fun _ _ _ => ⟨rfl, rfl⟩
    · cases hs
  | abort =>
    simp only [World.step] at hs
    split at hs
    · next i c hp =>
      -- the slot of the greeting has no connection
      rw [World.InPhase, hp] at hphase
      have hj : s.Joining := by rw [World.Joining, hp]; trivial
      obtain rfl := Option.some.inj hs
      have htrace : seenTrace (tr ++ [(s, .abort)]) = [] := by
        rw [seenTrace_append, (h.1 hj).quiet]
        rfl
      refine ⟨False.elim, fun _ => ⟨fun _ _ => by rw [heard, htrace]; rfl, fun cs hcs => ?_⟩⟩
      have hsome := (hphase.1 i).mp (by rw [show s.conns i = some (cs i) from hcs i]; rfl)
      exact absurd hsome (Nat.lt_irrefl _)
    · next i hp =>
      have hj : ¬ s.Joining := by rw [World.Joining, hp]; exact id
      obtain rfl := Option.some.inj hs
      exact h.unseen rfl ⟨False.elim, fun hjoining => hj hjoining⟩ rfl rfl rfl rfl
        fun _ _ _ => ⟨rfl, rfl⟩
    · next hp =>
      have hj : ¬ s.Joining := by rw [World.Joining, hp]; exact id
      obtain rfl := Option.some.inj hs
      exact h.unseen rfl ⟨False.elim, fun hjoining => hj hjoining⟩ rfl rfl rfl rfl
        fun _ _ _ => ⟨rfl, rfl⟩
    · cases hs

lemma introducing_init (h : (worldLts uids).init s) : Introducing uids [] s := by
  obtain ⟨-, -, -, hconns, -⟩ := h
  refine ⟨rfl, fun _ => rfl, fun i c hi => ?_⟩
  rw [hconns] at hi
  cases hi

lemma phased (h : (worldLts uids).Run tr s) (hgreets : ∀ x ∈ tr, World.Greets x.2) :
    Heard s ∧ Phased uids tr s := by
  refine h.induct_of (P := fun tr s => Heard s ∧ Phased uids tr s)
    (C := fun _ a => World.Greets a) (fun s hinit => ⟨heard_init hinit, ?_⟩)
    (fun tr s a s' hrun _ hP hC hs => ?_) hgreets
  · refine ⟨fun _ => introducing_init hinit, fun hj => absurd ?_ hj⟩
    rw [World.Joining, hinit.2.2.1]
    trivial
  · exact ⟨hP.1.step hC hs, hP.2.step (sound hrun) hP.1 hC hs⟩

lemma readsWhole_seen (hwhole : ∀ x ∈ tr, x.1.ReadsWhole x.2) :
    ∀ y ∈ seenTrace tr, ReadsWhole y.1 y.2 := by
  intro y hy
  obtain ⟨⟨s, a⟩, hx, hseen⟩ := List.mem_filterMap.mp hy
  cases a with
  | talk c io =>
    obtain rfl := Option.some.inj hseen
    trivial
  | listen activity avail =>
    obtain rfl := Option.some.inj hseen
    exact hwhole _ hx
  | _ => cases hseen

/-- From the start of all programs on, the samples that the listener accepts on a connection are
samples that the talker accepted there wrote, unaltered and in order, as long as every read that a
sample is accepted from brings a whole one. -/
theorem accepted_sublist_wrote (h : (worldLts uids).Run tr s)
    (hgreets : ∀ x ∈ tr, World.Greets x.2) (hwhole : ∀ x ∈ tr, x.1.ReadsWhole x.2) {i : Slot}
    {c : ι} (hc : s.conns i = some c) :
    Listener.accepted i (heard tr) <+ wrote uids c tr := by
  obtain ⟨-, hjoining, hmeasuring⟩ := phased h hgreets
  by_cases hj : s.Joining
  · rw [heard, (hjoining hj).quiet]
    exact List.nil_sublist _
  · by_cases hall : ∀ j, (s.conns j).isSome
    · choose cs hcs using fun j => Option.isSome_iff_exists.mp (hall j)
      obtain ⟨first, hrun, hwritten⟩ := (hmeasuring hj).run cs hcs
      obtain rfl : cs i = c := Option.some.inj ((hcs i).symm.trans hc)
      rw [← hwritten]
      exact (accepted_sublist hrun (readsWhole_seen hwhole) i).trans (List.take_sublist _ _)
    · obtain ⟨j, hnone⟩ := not_forall.mp hall
      rw [(hmeasuring hj).idle j (Option.not_isSome_iff_eq_none.mp hnone)]
      exact List.nil_sublist _

end

section SecondFirst

/-- Talker 1001 connects before talker 1000, and reports a pulse before that one was told to
start. -/
private def secondFirst : List (WorldAct Slot) :=
  [.connect 1, .connect 0, .introduce 1, .introduce 0, .check, .accept true, .greet 256, .check,
    .accept true, .greet 256, .check, .broadcast, .command 1 256,
    .talk 1 ⟨.ok (some (5, 16777217)), false, false⟩, .broadcast, .broadcast,
    .listen .ready ![some 1, none], .listen .ready ![some 256, none]]

/-- The sample is accepted in slot 0 and is the one that talker 1001 wrote. -/
theorem accepted_sublist_wrote_second :
    ∃ tr s, (worldLts talkers).Run tr s ∧
      Listener.accepted 0 (heard tr) = [⟨1001, 0, 5, 16777217⟩] ∧
      Listener.accepted 0 (heard tr) <+ wrote talkers 1 tr := by
  have hrun : ((worldLts talkers).replay .initial secondFirst).map (fun r =>
      decide ((∀ x ∈ r.1, World.Greets x.2) ∧ (∀ x ∈ r.1, x.1.ReadsWhole x.2) ∧
        r.2.conns 0 = some 1 ∧ Listener.accepted 0 (heard r.1) = [⟨1001, 0, 5, 16777217⟩]))
      = some true := by decide +kernel
  obtain ⟨⟨tr, s⟩, hr, hC⟩ := Option.map_eq_some_iff.mp hrun
  obtain ⟨hgreets, hwhole, hconns, haccepted⟩ := of_decide_eq_true hC
  have hrun := Lts.Run.of_replay (World.init_initial talkers) hr
  exact ⟨tr, s, hrun, haccepted, accepted_sublist_wrote hrun hgreets hwhole hconns⟩

end SecondFirst

end Tsq

end TsnRefSw
