import TsnRefSw.Opcua.Stopping

/-!
# A publisher alone

The counter and the flags belong to the process. Beside a process with several publishers there
is the one that has but one of them, a one-way publisher, with the same main thread and the same
subscribers. A step of the first that is not another publisher's is a step of the second, as
long as the publisher finds the same in both.
-/

namespace TsnRefSw

open Core Core.Lts

namespace Opcua

/-- The thread, in the process with publisher `i` alone. -/
def thread (i : Nat) : Option Nat → Option (Option Nat)
  | none   => some none
  | some k => if k = i then some (some 0) else none

lemma thread_eq_some {i : Nat} {k k' : Option Nat} (h : thread i k = some k') :
    (k = none ∧ k' = none) ∨ (k = some i ∧ k' = some 0) := by
  cases k with
  | none =>
    cases h
    exact .inl ⟨rfl, rfl⟩
  | some k =>
    obtain ⟨rfl, he⟩ := Option.ite_none_right_eq_some.mp h
    cases he
    exact .inr ⟨rfl, rfl⟩

lemma thread_self (i : Nat) : thread i (some i) = some (some 0) := if_pos rfl

lemma thread_eq_none {i : Nat} {k : Option Nat} (h : thread i k = none) :
    ∃ l, l ≠ i ∧ k = some l := by
  cases k with
  | none => cases h
  | some l =>
    refine ⟨l, ?_, rfl⟩
    rintro rfl
    simp [thread] at h

/-- The action, in the process with publisher `i` alone. -/
def ProcessAct.alone (i : Nat) : ProcessAct → Option ProcessAct
  | .test k        => if k = i then some (.test 0) else none
  | .gate k        => if k = i then some (.gate 0) else none
  | .read k now    => (thread i k).map fun k => .read k now
  | .forward k now => (thread i k).map fun k => .forward k now
  | .emit k        => (thread i k).map .emit
  | a              => some a

namespace ProcessAct

lemma ne_of_alone_test {i k : Nat} (h : (test k).alone i = none) : k ≠ i := by
  rintro rfl
  simp [alone] at h

lemma ne_of_alone_gate {i k : Nat} (h : (gate k).alone i = none) : k ≠ i := by
  rintro rfl
  simp [alone] at h

end ProcessAct

/-- A read by publisher `i` or by the main thread. -/
def ProcessAct.ownRead (i : Nat) : ProcessAct → Bool
  | .read k _ => (thread i k).isSome
  | _         => false

/-- The process with a single one-way publisher. -/
abbrev ProcessConfig.alone (c : ProcessConfig) : ProcessConfig :=
  { c with publishers := [false], node := .pubGetDataToTransmit }

/-- What a publisher does, as far as it shows: whether it goes round its loop once more, whether
it publishes in this cycle, and with which number. -/
inductive Event where
  | turn (running : Bool)
  | cycle (publishes : Bool)
  | sample (number : UInt64)
deriving DecidableEq, Repr

namespace Process

variable {c : ProcessConfig} {i : Nat} {s s' : Process c.cap} {a a' : ProcessAct}

def eventAt (c : ProcessConfig) (i : Nat) (s : Process c.cap) (a : ProcessAct) : Option Event :=
  match a with
  | .test k => if k = i then some (.turn s.server.gRunning) else none
  | .gate k => if k = i then some (.cycle s.server.gRoundtripPubReturn) else none
  | a       => (numberAt c i s a).map .sample

/-- What publisher `i` has done. -/
def history (c : ProcessConfig) (i : Nat) (tr : List (Process c.cap × ProcessAct)) :
    List Event :=
  tr.filterMap fun x => eventAt c i x.1 x.2

/-! ### The two processes side by side -/

/-- Two threads are at the same place, whatever is about to be put out there. -/
inductive SamePlace : PubPc → PubPc → Prop where
  | test : SamePlace .test .test
  | gate : SamePlace .gate .gate
  | send : SamePlace .send .send
  | emit (v v' : Variant) : SamePlace (.emit v) (.emit v')
  | left : SamePlace .left .left

/-- The process and the one with publisher `i` alone. A subscriber that has left its loop has
nothing more to compare. -/
structure Alike (i : Nat) (s : Process c.cap) (t : Process c.alone.cap) : Prop where
  pcs : ∀ k k', thread i k = some k' →
    ∃ p p', s.pc k = some p ∧ t.pc k' = some p' ∧ SamePlace p p'
  subs : ∀ j : Nat, s.subs[j]? = some .left ∨ t.subs[j]? = s.subs[j]?
  flag : t.server.gRoundtripPubReturn = true

variable {t : Process c.alone.cap}

lemma alike_start (hpub : c.publishers[i]? = some false) :
    Alike i (start c) (start c.alone) := by
  refine ⟨?_, fun _ => .inr rfl, rfl⟩
  intro k k' hk
  rcases thread_eq_some hk with ⟨rfl, rfl⟩ | ⟨rfl, rfl⟩
  · exact ⟨_, _, rfl, rfl, .send⟩
  · refine ⟨.test, .test, ?_, rfl, .test⟩
    show (c.publishers.map fun _ => PubPc.test)[i]? = _
    rw [List.getElem?_map, hpub]
    rfl

lemma Alike.place (h : Alike i s t) {k k' : Option Nat} (hk : thread i k = some k') {p : PubPc}
    (hp : s.pc k = some p) : ∃ p', t.pc k' = some p' ∧ SamePlace p p' := by
  obtain ⟨q, p', hq, hp', hplace⟩ := h.pcs k k' hk
  obtain rfl : q = p := Option.some.inj (hq.symm.trans hp)
  exact ⟨p', hp', hplace⟩

/-- Both threads go on, to the same place. -/
lemma Alike.setPc (h : Alike i s t) {k k' : Option Nat} (hk : thread i k = some k')
    {p p' : PubPc} (hp : SamePlace p p') : Alike i (s.setPc k p) (t.setPc k' p') := by
  obtain ⟨q, q', hq, hq', -⟩ := h.pcs k k' hk
  refine ⟨?_, ?_, ?_⟩
  · intro l l' hl
    by_cases hlk : l = k
    · subst hlk
      obtain rfl : k' = l' := Option.some.inj (hk.symm.trans hl)
      refine ⟨p, p', ?_, ?_, hp⟩
      · rw [pc_setPc hq, if_pos rfl]
      · rw [pc_setPc hq', if_pos rfl]
    · have hlk' : l' ≠ k' := by
        rcases thread_eq_some hk with ⟨rfl, rfl⟩ | ⟨rfl, rfl⟩
        · rcases thread_eq_some hl with ⟨rfl, rfl⟩ | ⟨rfl, rfl⟩
          · exact absurd rfl hlk
          · nofun
        · rcases thread_eq_some hl with ⟨rfl, rfl⟩ | ⟨rfl, rfl⟩
          · nofun
          · exact absurd rfl hlk
      rw [pc_setPc hq, pc_setPc hq', if_neg hlk, if_neg hlk']
      exact h.pcs l l' hl
  · cases k <;> cases k' <;> exact h.subs
  · cases k' <;> exact h.flag

/-- Another publisher's thread goes on. -/
lemma Alike.setPc_other (h : Alike i s t) {k : Nat} (hk : k ≠ i) {p q : PubPc}
    (hq : s.pc (some k) = some q) : Alike i (s.setPc (some k) p) t := by
  refine ⟨?_, h.subs, h.flag⟩
  intro l l' hl
  have hlk : l ≠ some k := by
    rcases thread_eq_some hl with ⟨rfl, -⟩ | ⟨rfl, -⟩
    · nofun
    · intro he
      exact hk (Option.some.inj he).symm
  rw [pc_setPc hq, if_neg hlk]
  exact h.pcs l l' hl

/-- The server of the process may be any, and that of the other with its flag up. -/
lemma Alike.setServer (h : Alike i s t) (u : Server c.cap) {u' : Server c.alone.cap}
    (hu : u'.gRoundtripPubReturn = true) :
    Alike i { s with server := u } { t with server := u' } := by
  refine ⟨?_, h.subs, hu⟩
  intro k k' hk
  have hpcs := h.pcs k k' hk
  cases k <;> cases k' <;> exact hpcs

/-- What another publisher does, makes no difference. -/
lemma Alike.other (h : Alike i s t) (hs : (processLts c).step s a = some s')
    (ha : a.alone i = none) : Alike i s' t := by
  cases step_spec hs with
  | test k hpc => exact h.setPc_other (ProcessAct.ne_of_alone_test ha) hpc
  | gate k hpc => exact h.setPc_other (ProcessAct.ne_of_alone_gate ha) hpc
  | read k now hpc =>
    obtain ⟨l, hl, rfl⟩ := thread_eq_none (Option.map_eq_none_iff.mp ha)
    exact (h.setPc_other hl hpc).setServer _ h.flag
  | forward k now m hpc =>
    obtain ⟨l, hl, rfl⟩ := thread_eq_none (Option.map_eq_none_iff.mp ha)
    exact (h.setPc_other hl hpc).setServer _ h.flag
  | emit k v hpc =>
    obtain ⟨l, hl, rfl⟩ := thread_eq_none (Option.map_eq_none_iff.mp ha)
    exact h.setPc_other hl hpc
  | _ => cases ha

/-- A subscriber goes on in both, to the same place unless it leaves. -/
lemma Alike.setSub (h : Alike i s t) (j : Nat) (hj : t.subs[j]? = s.subs[j]?) {p p' : SubPc}
    (hp : p = .left ∨ p' = p) :
    Alike i { s with subs := s.subs.set j p } { t with subs := t.subs.set j p' } := by
  refine ⟨?_, ?_, h.flag⟩
  · intro k k' hk
    have hpcs := h.pcs k k' hk
    cases k <;> cases k' <;> exact hpcs
  · intro l
    by_cases hl : j = l
    · subst hl
      simp only [List.getElem?_set_self', hj]
      cases s.subs[j]? with
      | none => exact .inr rfl
      | some q => simpa using hp
    · simp only [List.getElem?_set_ne hl]
      exact h.subs l

/-- A subscriber that has not left is at the same place. -/
lemma Alike.sub (h : Alike i s t) {j : Nat} {p : SubPc} (hj : s.subs[j]? = some p)
    (hp : p ≠ .left) : t.subs[j]? = some p := by
  rcases h.subs j with hleft | hsame
  · exact absurd (Option.some.inj (hj.symm.trans hleft)) hp
  · exact hsame.trans hj

/-- Whether a message can be taken is up to the message. -/
lemma exists_subReturn {cap cap' : Nat} {packetCount : PacketCount} {u v : Server cap}
    (w : Server cap') {data : Option Variant} {now : UInt64}
    (h : u.subReturnStoreDataReceived packetCount data now = some v) :
    ∃ w', w.subReturnStoreDataReceived packetCount data now = some w' := by
  cases data with
  | none => exact ⟨w, rfl⟩
  | some x =>
    simp only [Server.subReturnStoreDataReceived] at h ⊢
    split_ifs at h ⊢
    · exact ⟨w, rfl⟩
    · unfold Server.returnReceived at h ⊢
      split at h
      · exact ⟨_, rfl⟩
      · cases h
    · exact ⟨_, rfl⟩
    · exact ⟨_, rfl⟩

/-- A subscriber's callback takes a message alike in both. -/
lemma receive_alone {u v : Server c.cap} {w : Server c.alone.cap} {twoWayData : Bool}
    {data : Option Variant} {now : UInt64} {p : SubPc}
    (h : c.receive twoWayData u data now = some (v, p)) (hw : w.gRoundtripPubReturn = true) :
    ∃ w', c.alone.receive twoWayData w data now = some (w', p) ∧
      w'.gRoundtripPubReturn = true := by
  cases twoWayData with
  | false =>
    cases data with
    | none =>
      cases h
      exact ⟨w, rfl, hw⟩
    | some x =>
      simp only [ProcessConfig.receive, writeFunc, if_true] at h ⊢
      split_ifs at h ⊢
      · cases h
        exact ⟨w, rfl, hw⟩
      · cases h
        exact ⟨w.raise, rfl, rfl⟩
      · cases h
        exact ⟨w, rfl, hw⟩
  | true =>
    obtain ⟨v', hv, he⟩ := Option.map_eq_some_iff.mp h
    cases he
    obtain ⟨w', hw'⟩ := exists_subReturn w hv
    refine ⟨w', ?_, ?_⟩
    · exact Option.map_eq_some_iff.mpr ⟨w', hw', rfl⟩
    · rw [(Server.subReturnStoreDataReceived_frame hw').gRoundtripPubReturn, hw]

/-- A step that is not another publisher's is one of the other process as well, if publisher `i`
finds the same in both. -/
lemma Alike.own (h : Alike i s t) (hnode : c.node = .pubGetDataToTransmit)
    (hrun : s.server.gRunning = true → t.server.gRunning = true)
    (hs : (processLts c).step s a = some s') (ha : a.alone i = some a')
    (hev : eventAt c.alone 0 t a' = eventAt c i s a) :
    ∃ t', (processLts c.alone).step t a' = some t' ∧ Alike i s' t' ∧
      counts c.alone t a' = a.ownRead i ∧ halts c.alone t a' = halts c s a := by
  cases step_spec hs with
  | test k hpc =>
    obtain ⟨rfl, he⟩ := Option.ite_none_right_eq_some.mp ha
    cases he
    obtain ⟨p', hp', hplace⟩ := h.place (thread_self k) hpc
    cases hplace
    simp only [eventAt, if_true, Option.some.injEq, Event.turn.injEq] at hev
    refine ⟨_, if_pos hp', ?_, rfl, rfl⟩
    rw [hev]
    refine h.setPc (thread_self _) ?_
    split_ifs
    · exact .gate
    · exact .left
  | gate k hpc =>
    obtain ⟨rfl, he⟩ := Option.ite_none_right_eq_some.mp ha
    cases he
    obtain ⟨p', hp', hplace⟩ := h.place (thread_self k) hpc
    cases hplace
    simp only [eventAt, if_true, Option.some.injEq, Event.cycle.injEq] at hev
    refine ⟨_, if_pos hp', ?_, rfl, rfl⟩
    rw [hev]
    refine h.setPc (thread_self _) ?_
    split_ifs
    · exact .send
    · exact .test
  | read k now hpc =>
    obtain ⟨k', hk, rfl⟩ := Option.map_eq_some_iff.mp ha
    obtain ⟨p', hp', hplace⟩ := h.place hk hpc
    cases hplace
    refine ⟨_, if_pos hp', ?_, ?_, rfl⟩
    · have hsame : SamePlace (c.readNode s.server now).2 (c.alone.readNode t.server now).2 := by
        simp only [ProcessConfig.readNode, hnode]
        exact .emit _ _
      exact (h.setPc hk hsame).setServer _ h.flag
    · simp [counts, ProcessAct.ownRead, hk]
  | forward k now m hpc =>
    obtain ⟨k', hk, rfl⟩ := Option.map_eq_some_iff.mp ha
    obtain ⟨p', hp', hplace⟩ := h.place hk hpc
    cases hplace
  | emit k v hpc =>
    obtain ⟨k', hk, rfl⟩ := Option.map_eq_some_iff.mp ha
    obtain ⟨p', hp', hplace⟩ := h.place hk hpc
    cases hplace with | emit _ v' =>
    refine ⟨t.setPc k' (afterEmit k'), ?_, ?_, rfl, rfl⟩
    · show Process.step c.alone t (.emit k') = _
      simp only [Process.step, hp']
    · refine h.setPc hk ?_
      rcases thread_eq_some hk with ⟨rfl, rfl⟩ | ⟨rfl, rfl⟩
      · exact .send
      · exact .test
  | subTest j hpc =>
    cases ha
    have hpc' := h.sub hpc (by simp)
    refine ⟨_, if_pos hpc', ?_, rfl, rfl⟩
    refine h.setSub j (hpc'.trans hpc.symm) ?_
    by_cases hr : s.server.gRunning = true
    · rw [if_pos hr, if_pos (hrun hr)]
      exact .inr rfl
    · rw [if_neg hr]
      exact .inl rfl
  | receive j data now twoWayData server pc hpc hsub hr =>
    cases ha
    have hpc' := h.sub hpc (by simp)
    obtain ⟨w, hw, hflag⟩ := receive_alone hr h.flag
    refine ⟨{ t with server := w, subs := t.subs.set j pc }, ?_, ?_, rfl, rfl⟩
    · show Process.step c.alone t (.receive j data now) = _
      simp only [Process.step, hpc', if_true, hsub, Option.bind_some, hw, Option.map_some]
    · exact (h.setSub j (hpc'.trans hpc.symm) (.inr rfl)).setServer _ hflag
  | store j now v m hpc hm =>
    cases ha
    have hpc' := h.sub hpc (by simp)
    refine ⟨{ t with server := t.server.store m, subs := t.subs.set j (.finish m.rxSequence) },
      ?_, ?_, rfl, rfl⟩
    · show Process.step c.alone t (.store j now) = _
      simp only [Process.step, hpc', hm, Option.map_some]
    · exact (h.setSub j (hpc'.trans hpc.symm) (.inr rfl)).setServer _ h.flag
  | finish j n hpc =>
    cases ha
    have hpc' := h.sub hpc (by simp)
    refine ⟨{ t with server := t.server.finish c.packetCount n, subs := t.subs.set j .receive },
      ?_, ?_, rfl, ?_⟩
    · show Process.step c.alone t (.finish j) = _
      simp only [Process.step, hpc']
    · refine (h.setSub j (hpc'.trans hpc.symm) (.inr rfl)).setServer _ ?_
      simp only [Server.finish]
      split_ifs <;> exact h.flag
    · simp only [halts, hpc, hpc']
  | idle j hpc =>
    cases ha
    have hpc' := h.sub hpc (by simp)
    exact ⟨_, if_pos hpc', h.setSub j (hpc'.trans hpc.symm) (.inr rfl), rfl, rfl⟩
  | stop =>
    cases ha
    exact ⟨_, rfl, h.setServer _ h.flag, rfl, rfl⟩

/-! ### Events -/

lemma history_concat {tr : List (Process c.cap × ProcessAct)} :
    history c i (tr ++ [(s, a)]) = history c i tr ++ (eventAt c i s a).toList := by
  simp only [history, List.filterMap_append, List.filterMap_cons, List.filterMap_nil]
  cases eventAt c i s a <;> rfl

/-- Other threads leave no event. -/
lemma eventAt_of_alone_eq_none (ha : a.alone i = none) : eventAt c i s a = none := by
  have hthread : ∀ k, thread i k = none → k ≠ some i := by
    intro k hk
    obtain ⟨l, hl, rfl⟩ := thread_eq_none hk
    intro he
    exact hl (Option.some.inj he)
  cases a with
  | test k => exact if_neg (ProcessAct.ne_of_alone_test ha)
  | gate k => exact if_neg (ProcessAct.ne_of_alone_gate ha)
  | read k now =>
    have hk := hthread k (Option.map_eq_none_iff.mp ha)
    simp [eventAt, numberAt_eq, ProcessAct.By, hk]
  | forward k now =>
    have hk := hthread k (Option.map_eq_none_iff.mp ha)
    simp [eventAt, numberAt_eq, ProcessAct.By, hk]
  | emit k => rfl
  | _ => cases ha

/-- A read by publisher `i` shows the number after the one where the counter stands. -/
lemma eventAt_read (hnode : c.node = .pubGetDataToTransmit) (k : Option Nat) (now : UInt64) :
    eventAt c i s (.read k now) =
      if k = some i then some (.sample (s.server.txSequence + 1).toUInt64) else none := by
  have hcounts : counts c s (.read k now) = true := by simp [counts, hnode]
  by_cases hk : k = some i
  · simp only [eventAt, numberAt_eq, hcounts]
    simp [ProcessAct.By, hk]
  · simp [eventAt, numberAt_eq, ProcessAct.By, hk]

/-- The same actions leave events. -/
lemma eventAt_isSome (hnode : c.node = .pubGetDataToTransmit)
    {tr : List (Process c.cap × ProcessAct)} (h : (processLts c).Run tr s)
    (hs : (processLts c).step s a = some s') (ha : a.alone i = some a')
    (t : Process c.alone.cap) :
    (eventAt c.alone 0 t a').isSome = (eventAt c i s a).isSome := by
  cases a with
  | test k =>
    obtain ⟨rfl, he⟩ := Option.ite_none_right_eq_some.mp ha
    cases he
    simp [eventAt]
  | gate k =>
    obtain ⟨rfl, he⟩ := Option.ite_none_right_eq_some.mp ha
    cases he
    simp [eventAt]
  | read k now =>
    obtain ⟨k', hk, rfl⟩ := Option.map_eq_some_iff.mp ha
    rw [eventAt_read hnode, eventAt_read rfl]
    rcases thread_eq_some hk with ⟨rfl, rfl⟩ | ⟨rfl, rfl⟩
    · rfl
    · simp
  | forward k now =>
    cases step_spec hs with | forward _ _ m hpc =>
    exact absurd hpc (no_forward hnode h k m)
  | emit k =>
    obtain ⟨k', hk, rfl⟩ := Option.map_eq_some_iff.mp ha
    rfl
  | _ =>
    cases ha
    rfl

end Process

end Opcua

end TsnRefSw
