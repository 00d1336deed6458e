import TsnRefSw.Opcua.Alone

/-!
# A publisher among others

A run of a process with several publishers is compared with the run of the process that has but
one of them, where the main thread, the subscribers and the signal do the same.
-/

namespace TsnRefSw

open Core Core.Lts

namespace Opcua

namespace Process

variable {c : ProcessConfig} {i : Nat} {s s' : Process c.cap} {a a' : ProcessAct}

/-- Publisher `i` does what it does alone, with the other threads going on as they do. -/
def Undisturbed (c : ProcessConfig) (i : Nat) (tr : List (Process c.cap × ProcessAct)) : Prop :=
  ∃ tr' s', (processLts c.alone).Run tr' s' ∧
    tr'.map Prod.snd = (tr.map Prod.snd).filterMap (ProcessAct.alone i) ∧
    history c.alone 0 tr' = history c i tr

/-- How often publisher `i` and the main thread have read the node. -/
def ownReads (i : Nat) (tr : List (Process c.cap × ProcessAct)) : Nat :=
  tr.countP fun x => x.2.ownRead i

/-- The other publishers have not got in the way: where publisher `i` finds the process stopped,
it would be so without them; where it looks at the flag, the flag is up; and where it reads the
node, only the reads of its own and the main thread's have moved the counter. -/
def Apart (c : ProcessConfig) (i : Nat) (tr : List (Process c.cap × ProcessAct))
    (s : Process c.cap) : ProcessAct → Prop
  | .test k   => k = i → s.server.gRunning = true ∨ Halted c tr ∨
      c.packetCount.val.toNat + 2 ≤ ownReads i tr
  | .gate k   => k = i → s.server.gRoundtripPubReturn = true
  | .read k _ => k = some i → count c tr % 2 ^ 64 = ownReads i tr % 2 ^ 64
  | _         => True

/-- In every step of the run. -/
def LeftAlone (c : ProcessConfig) (i : Nat) (tr : List (Process c.cap × ProcessAct)) : Prop :=
  ∀ tr' s a, tr' ++ [(s, a)] <+: tr → Apart c i tr' s a

lemma leftAlone_concat {tr : List (Process c.cap × ProcessAct)} :
    LeftAlone c i (tr ++ [(s, a)]) ↔ LeftAlone c i tr ∧ Apart c i tr s a := by
  constructor
  · intro h
    refine ⟨?_, h tr s a (List.prefix_refl _)⟩
    intro tr' t b hpre
    exact h tr' t b (hpre.trans (List.prefix_append _ _))
  · rintro ⟨htr, ha⟩ tr' t b hpre
    rcases List.prefix_concat_iff.mp hpre with he | hpre
    · obtain ⟨rfl, hlast⟩ := List.append_inj' he rfl
      cases hlast
      exact ha
    · exact htr tr' t b hpre

lemma apart_of_alone_eq_none {tr : List (Process c.cap × ProcessAct)} (ha : a.alone i = none) :
    Apart c i tr s a := by
  cases a with
  | test k =>
    intro hk
    exact absurd hk (ProcessAct.ne_of_alone_test ha)
  | gate k =>
    intro hk
    exact absurd hk (ProcessAct.ne_of_alone_gate ha)
  | read k now =>
    rintro rfl
    simp [ProcessAct.alone, thread] at ha
  | _ => trivial

/-! ### The two runs side by side -/

/-- The run of the process with publisher `i` alone in which the other threads do the same. -/
structure Shadows (i : Nat) (tr : List (Process c.cap × ProcessAct)) (s : Process c.cap)
    (tr' : List (Process c.alone.cap × ProcessAct)) (t : Process c.alone.cap) : Prop where
  run : (processLts c.alone).Run tr' t
  actions : tr'.map Prod.snd = (tr.map Prod.snd).filterMap (ProcessAct.alone i)
  alike : Alike i s t
  count : count c.alone tr' = ownReads i tr
  halted : Halted c.alone tr' ↔ Halted c tr

variable {t : Process c.alone.cap} {tr : List (Process c.cap × ProcessAct)}
  {tr' : List (Process c.alone.cap × ProcessAct)}

lemma ownReads_le_count (hnode : c.node = .pubGetDataToTransmit) : ownReads i tr ≤ count c tr := by
  refine List.countP_mono_left ?_
  rintro ⟨s, a⟩ - hown
  cases a with
  | read k now => simp [counts, hnode]
  | _ => cases hown

lemma ownReads_concat :
    ownReads i (tr ++ [(s, a)]) = ownReads i tr + if a.ownRead i then 1 else 0 := by
  simp [ownReads, List.countP_append, List.countP_cons]

/-- The process alone runs until it is halted, or its own reads have counted up to the last
number. -/
lemma Shadows.running_iff (h : Shadows i tr s tr' t) : t.server.gRunning = true ↔
    ¬ Halted c tr ∧ ownReads i tr < c.packetCount.val.toNat + 2 := by
  rw [Process.running_iff h.run, h.halted, h.count]

lemma Shadows.running (h : Shadows i tr s tr' t) (hnode : c.node = .pubGetDataToTransmit)
    (hrun : (processLts c).Run tr s) (hs : s.server.gRunning = true) :
    t.server.gRunning = true := by
  obtain ⟨hhalted, hlt⟩ := (Process.running_iff hrun).mp hs
  exact h.running_iff.mpr ⟨hhalted, (ownReads_le_count hnode).trans_lt hlt⟩

/-- Publisher `i` finds the same in both exactly where the others have not got in the way. -/
lemma Shadows.eventAt_iff (h : Shadows i tr s tr' t) (hnode : c.node = .pubGetDataToTransmit)
    (hrun : (processLts c).Run tr s) (hs : (processLts c).step s a = some s')
    (ha : a.alone i = some a') :
    eventAt c.alone 0 t a' = eventAt c i s a ↔ Apart c i tr s a := by
  cases a with
  | test k =>
    obtain ⟨rfl, he⟩ := Option.ite_none_right_eq_some.mp ha
    cases he
    simp only [eventAt, if_true, Option.some.injEq, Event.turn.injEq, Apart, forall_const]
    by_cases hr : s.server.gRunning = true
    · simp [hr, h.running hnode hrun hr]
    · rw [Bool.not_eq_true] at hr
      rw [hr, ← Bool.not_eq_true, h.running_iff]
      simp only [Bool.false_eq_true, false_or]
      rw [← not_lt, not_and_or, not_not]
  | gate k =>
    obtain ⟨rfl, he⟩ := Option.ite_none_right_eq_some.mp ha
    cases he
    simp only [eventAt, if_true, Option.some.injEq, Event.cycle.injEq, Apart, forall_const,
      h.alike.flag]
    exact eq_comm
  | read k now =>
    obtain ⟨k', hk, rfl⟩ := Option.map_eq_some_iff.mp ha
    rw [eventAt_read hnode, eventAt_read rfl]
    rcases thread_eq_some hk with ⟨rfl, rfl⟩ | ⟨rfl, rfl⟩
    · simp [Apart]
    · have hnext : ∀ n m : Nat, UInt64.ofNat (n + 1) - 2 = UInt64.ofNat (m + 1) - 2 ↔
          m % 2 ^ 64 = n % 2 ^ 64 := by
        intro n m
        rw [← UInt64.toNat_inj, toNat_ofNat_sub_two, toNat_ofNat_sub_two]
        omega
      simp only [if_true, Option.some.injEq, Event.sample.injEq, Apart, forall_const]
      rw [(numbered (i := i) hrun).txSequence, (numbered (i := 0) h.run).txSequence,
        toUInt64_succ, toUInt64_succ, h.count, hnext]
  | forward k now =>
    cases step_spec hs with | forward _ _ m hpc =>
    exact absurd hpc (no_forward hnode hrun k m)
  | emit k =>
    obtain ⟨k', hk, rfl⟩ := Option.map_eq_some_iff.mp ha
    exact iff_of_true rfl trivial
  | _ =>
    cases ha
    exact iff_of_true rfl trivial

lemma shadows_start (hpub : c.publishers[i]? = some false) :
    Shadows i [] (start c) [] (start c.alone) where
  run := .init rfl
  actions := rfl
  alike := alike_start hpub
  count := rfl
  halted := by simp [Halted]

/-- While another publisher goes on, the process alone stays where it is. -/
lemma Shadows.other (h : Shadows i tr s tr' t) (hs : (processLts c).step s a = some s')
    (ha : a.alone i = none) : Shadows i (tr ++ [(s, a)]) s' tr' t := by
  have hown : a.ownRead i = false ∧ halts c s a = false := by
    cases a with
    | read k now =>
      rw [ProcessAct.ownRead, Option.map_eq_none_iff.mp ha]
      exact ⟨rfl, rfl⟩
    | test k | gate k | forward k now | emit k => exact ⟨rfl, rfl⟩
    | _ => cases ha
  refine ⟨h.run, ?_, h.alike.other hs ha, ?_, ?_⟩
  · simp [h.actions, ha]
  · rw [h.count, ownReads_concat, hown.1]
    rfl
  · simp [h.halted, halted_concat, hown.2]

/-- Any other step is taken in both, if publisher `i` finds the same in both. -/
lemma Shadows.own (h : Shadows i tr s tr' t) (hnode : c.node = .pubGetDataToTransmit)
    (hrun : (processLts c).Run tr s) (hs : (processLts c).step s a = some s')
    (ha : a.alone i = some a') (hev : eventAt c.alone 0 t a' = eventAt c i s a) :
    ∃ t', Shadows i (tr ++ [(s, a)]) s' (tr' ++ [(t, a')]) t' := by
  obtain ⟨t', hs', halike, hcounts, hhalts⟩ :=
    h.alike.own hnode (h.running hnode hrun) hs ha hev
  refine ⟨t', h.run.step hs', ?_, halike, ?_, ?_⟩
  · simp [h.actions, ha]
  · rw [count_concat, ownReads_concat, h.count, hcounts]
  · rw [halted_concat, halted_concat, h.halted, hhalts]

/-- As long as the others do not get in the way, the process alone can do the same, and
publisher `i` does the same there. -/
lemma exists_shadows (hpub : c.publishers[i]? = some false)
    (hnode : c.node = .pubGetDataToTransmit) (h : (processLts c).Run tr s)
    (hleft : LeftAlone c i tr) :
    ∃ tr' t, Shadows i tr s tr' t ∧ history c.alone 0 tr' = history c i tr := by
  refine h.induct (P := fun tr s => LeftAlone c i tr →
    ∃ tr' t, Shadows i tr s tr' t ∧ history c.alone 0 tr' = history c i tr) ?_ ?_ hleft
  · rintro s rfl -
    exact ⟨[], start c.alone, shadows_start hpub, rfl⟩
  · intro tr s a s' hrun hI hs hleft
    obtain ⟨hleft, hapart⟩ := leftAlone_concat.mp hleft
    obtain ⟨tr', t, hshadows, hhist⟩ := hI hleft
    cases ha : a.alone i with
    | none =>
      refine ⟨tr', t, hshadows.other hs ha, ?_⟩
      rw [history_concat, eventAt_of_alone_eq_none ha, hhist]
      exact (List.append_nil _).symm
    | some a' =>
      have hev := (hshadows.eventAt_iff hnode hrun hs ha).mpr hapart
      obtain ⟨t', hshadows'⟩ := hshadows.own hnode hrun hs ha hev
      refine ⟨_, t', hshadows', ?_⟩
      rw [history_concat, history_concat, hhist, hev]

/-- If publisher `i` does the same in both, the others have not got in the way. -/
lemma leftAlone_of_undisturbed (hpub : c.publishers[i]? = some false)
    (hnode : c.node = .pubGetDataToTransmit) (h : (processLts c).Run tr s)
    (hsame : Undisturbed c i tr) : LeftAlone c i tr := by
  refine h.induct (P := fun tr _ => Undisturbed c i tr → LeftAlone c i tr) ?_ ?_ hsame
  · rintro s rfl - tr' t a hpre
    exact absurd (List.prefix_nil.mp hpre) (by simp)
  · rintro tr s a s' hrun hI hs ⟨tr', t', hrun', hacts, hhist⟩
    rw [List.map_append, List.filterMap_append] at hacts
    rw [history_concat] at hhist
    cases ha : a.alone i with
    | none =>
      rw [eventAt_of_alone_eq_none ha] at hhist
      refine leftAlone_concat.mpr ⟨hI ⟨tr', t', hrun', ?_, ?_⟩, ?_⟩
      · simpa [ha] using hacts
      · simpa using hhist
      · exact apart_of_alone_eq_none ha
    | some a' =>
      have hlast : List.filterMap (ProcessAct.alone i) (List.map Prod.snd [(s, a)]) = [a'] := by
        simp [ha]
      rw [hlast] at hacts
      obtain ⟨l, last, rfl, hl, hlast⟩ := List.map_eq_append_iff.mp hacts
      obtain ⟨⟨t, b⟩, rfl, rfl⟩ := List.map_eq_singleton_iff.mp hlast
      obtain ⟨hrunl, hst⟩ := hrun'.of_concat
      rw [history_concat] at hhist
      obtain ⟨hhist, hev⟩ := append_toList_inj (eventAt_isSome hnode hrun hs ha t) hhist
      have hleft := hI ⟨l, t, hrunl, hl, hhist⟩
      obtain ⟨tr₁, t₁, hshadows, -⟩ := exists_shadows hpub hnode hrun hleft
      obtain ⟨rfl, rfl⟩ := Run.unique (by rintro _ _ rfl rfl; rfl) hrunl hshadows.run
        (hl.trans hshadows.actions.symm)
      exact leftAlone_concat.mpr ⟨hleft, (hshadows.eventAt_iff hnode hrun hs ha).mp hev⟩

/-- Where the node is read with the callback of a return publisher, a one-way publisher can
publish nothing that it would publish alone. -/
lemma published_eq_nil_of_undisturbed (hnode : c.node = .pubReturnGetDataToTransmit)
    (h : Undisturbed c i tr) : published c i tr = [] := by
  rw [published, List.filterMap_eq_nil_iff]
  rintro ⟨s, a⟩ hx
  rw [numberAt_eq]
  refine if_neg ?_
  rintro ⟨hcounts, hby⟩
  cases a with
  | read k now => simp [counts, hnode] at hcounts
  | forward k now =>
    obtain ⟨tr', t, hrun, hacts, -⟩ := h
    have hk : k = some i := by simpa [ProcessAct.By] using hby
    have hmem : .forward (some 0) now ∈ tr'.map Prod.snd := by
      rw [hacts, List.mem_filterMap]
      refine ⟨.forward k now, List.mem_map_of_mem hx, ?_⟩
      rw [hk, ProcessAct.alone, thread_self]
      rfl
    obtain ⟨y, hy, he⟩ := List.mem_map.mp hmem
    exact ne_forward rfl hrun y hy _ _ he
  | _ => cases hby

/-- A one-way publisher does what it does alone exactly as long as the others do not get in its
way; where the node was added for a return publisher, this is as long as it publishes nothing. -/
theorem undisturbed_iff (c : ProcessConfig) (i : Nat) (hpub : c.publishers[i]? = some false)
    (tr : List (Process c.cap × ProcessAct)) (s : Process c.cap) (h : (processLts c).Run tr s) :
    (c.node = .pubGetDataToTransmit → (Undisturbed c i tr ↔ LeftAlone c i tr)) ∧
    (c.node = .pubReturnGetDataToTransmit → Undisturbed c i tr → published c i tr = []) := by
  constructor
  · intro hnode
    constructor
    · intro hsame
      exact leftAlone_of_undisturbed hpub hnode h hsame
    · intro hleft
      obtain ⟨tr', t, hshadows, hhist⟩ := exists_shadows hpub hnode h hleft
      exact ⟨tr', t, hshadows.run, hshadows.actions, hhist⟩
  · intro hnode hsame
    exact published_eq_nil_of_undisturbed hnode hsame

/-- A one-way publisher, and a return publisher that pauses the process. -/
def withReturn : ProcessConfig :=
  { lonePublisher with publishers := [false, true], subscribers := [false] }

/-- A sample arrives at the subscriber, and the one-way publisher publishes. -/
def arrivalThenSample : List ProcessAct :=
  [.subTest 0, .receive 0 (some (Server.sample (0, 5))) 7, .test 0, .read none 8, .gate 0,
    .read (some 0) 9]

theorem undisturbed_iff_withReturn : ∃ tr s, (processLts withReturn).Run tr s ∧
    history withReturn 0 tr = [.turn true, .cycle true, .sample 0] ∧
    (Undisturbed withReturn 0 tr ↔ LeftAlone withReturn 0 tr) := by
  have hrun : ((processLts withReturn).replay (start withReturn) arrivalThenSample).map
      (fun r => history withReturn 0 r.1) = some [.turn true, .cycle true, .sample 0] := by
    decide +kernel
  obtain ⟨⟨tr, s⟩, hr, hhist⟩ := Option.map_eq_some_iff.mp hrun
  have h := Run.of_replay (A := processLts withReturn) rfl hr
  exact ⟨tr, s, h, hhist, (undisturbed_iff withReturn 0 rfl tr s h).1 rfl⟩

/-- Before the first sample arrives, the one-way publisher skips its cycles. -/
theorem not_undisturbed : ¬ ∀ (c : ProcessConfig) (i : Nat)
    (tr : List (Process c.cap × ProcessAct)) (s : Process c.cap), 2 ≤ c.publishers.length →
    c.publishers[i]? = some false → (processLts c).Run tr s → Undisturbed c i tr := by
  intro h
  have hrun : ((processLts withReturn).replay (start withReturn) [.test 0, .gate 0]).map
      (fun r => (r.1.map Prod.snd, history withReturn 0 r.1)) =
        some ([.test 0, .gate 0], [.turn true, .cycle false]) := by
    decide +kernel
  have halone : ((processLts withReturn.alone).replay (start withReturn.alone)
      [.test 0, .gate 0]).map (fun r => (r.1.map Prod.snd, history withReturn.alone 0 r.1)) =
        some ([.test 0, .gate 0], [.turn true, .cycle true]) := by
    decide +kernel
  obtain ⟨⟨tr, s⟩, hr, he⟩ := Option.map_eq_some_iff.mp hrun
  obtain ⟨⟨tr₁, t⟩, hr₁, he₁⟩ := Option.map_eq_some_iff.mp halone
  obtain ⟨hacts, hhist⟩ := Prod.mk.inj he
  obtain ⟨hacts₁, hhist₁⟩ := Prod.mk.inj he₁
  obtain ⟨tr', t', hrun', hacts', hhist'⟩ := h withReturn 0 tr s (by decide) rfl
    (.of_replay rfl hr)
  rw [hacts] at hacts'
  obtain ⟨rfl, -⟩ := Run.unique (by rintro _ _ rfl rfl; rfl) hrun'
    (.of_replay (A := processLts withReturn.alone) rfl hr₁) (hacts'.trans hacts₁.symm)
  rw [hhist₁, hhist] at hhist'
  cases hhist'

end Process

end Opcua

end TsnRefSw
