import Mathlib.Data.List.Sort
import TsnRefSw.Core.Lossy
import TsnRefSw.Opcua.Stopping

/-!
# From a publisher to a subscriber

A test in one direction: a publisher of process A, a network that may lose samples, and the
subscriber of process B, which prints a line for each sample until the last has come. What is
printed is, in order, what was published and not lost.
-/

namespace TsnRefSw

open Core

namespace Opcua

/-- Number and time of a sample. -/
abbrev Sample := UInt64 × UInt64

/-- The sample a line is about. -/
def SubLine.sample (l : SubLine) : Sample := (l.rxSequence, l.txTime)

/-! ### Two processes and a network -/

/-- Process A, the samples that are on their way, and process B. -/
structure Trip (cA cB : ProcessConfig) where
  a : Process cA.cap
  network : List Variant
  b : Process cB.cap

inductive TripAct where
  | a (x : ProcessAct)
  | b (x : ProcessAct)
  /-- The network loses a sample. -/
  | lose (k : Nat)

namespace Process

variable {cap : Nat}

/-- What publisher `i` hands to the network. -/
def emitted (i : Nat) (s : Process cap) : ProcessAct → Option Variant
  | .emit k =>
    if k = some i then
      match s.pc (some i) with
      | some (.emit v) => some v
      | _              => none
    else none
  | _       => none

/-- What the subscriber is handed. -/
def taken : ProcessAct → Option Variant
  | .receive _ data _ => data
  | _                 => none

end Process

namespace Trip

variable {cA cB : ProcessConfig}

/-- What a step is for the network. -/
def onNetwork (i : Nat) (s : Trip cA cB) : TripAct → Option (Lossy.Act Variant)
  | .a x    => (s.a.emitted i x).map .send
  | .b x    => (Process.taken x).map .receive
  | .lose k => some (.lose k)

/-- The network after a step. -/
def networkStep (i : Nat) (s : Trip cA cB) (x : TripAct) : Option (List Variant) :=
  match s.onNetwork i x with
  | some l => Lossy.step s.network l
  | none   => some s.network

/-- A step of one of the processes or of the network. -/
def step (i : Nat) (s : Trip cA cB) (x : TripAct) : Option (Trip cA cB) :=
  (s.networkStep i x).bind fun network =>
    match x with
    | .a x    => (Process.step cA s.a x).map fun a => ⟨a, network, s.b⟩
    | .b x    => (Process.step cB s.b x).map fun b => ⟨s.a, network, b⟩
    | .lose _ => some ⟨s.a, network, s.b⟩

end Trip

/-- Publisher `i` of a process and the subscriber of another that are about to start. -/
def tripLts (cA cB : ProcessConfig) (i : Nat) : Lts (Trip cA cB) TripAct where
  init s := s = ⟨Process.start cA, [], Process.start cB⟩
  step := Trip.step i

namespace Trip

variable {cA cB : ProcessConfig} {i : Nat} {s s' : Trip cA cB} {tr : List (Trip cA cB × TripAct)}

/-- What a run is for A. -/
def aTrace (tr : List (Trip cA cB × TripAct)) : List (Process cA.cap × ProcessAct) :=
  tr.filterMap fun x => match x.2 with
    | .a y => some (x.1.a, y)
    | _    => none

/-- What a run is for B. -/
def bTrace (tr : List (Trip cA cB × TripAct)) : List (Process cB.cap × ProcessAct) :=
  tr.filterMap fun x => match x.2 with
    | .b y => some (x.1.b, y)
    | _    => none

lemma aTrace_concat (s : Trip cA cB) (x : TripAct) : aTrace (tr ++ [(s, x)]) =
    match x with
    | .a y => aTrace tr ++ [(s.a, y)]
    | _    => aTrace tr := by
  rw [aTrace, List.filterMap_append]
  cases x with
  | a y => rfl
  | b y => exact List.append_nil _
  | lose k => exact List.append_nil _

lemma bTrace_concat (s : Trip cA cB) (x : TripAct) : bTrace (tr ++ [(s, x)]) =
    match x with
    | .b y => bTrace tr ++ [(s.b, y)]
    | _    => bTrace tr := by
  rw [bTrace, List.filterMap_append]
  cases x with
  | a y => exact List.append_nil _
  | b y => rfl
  | lose k => exact List.append_nil _

/-- What a run is for the network. -/
def networkActs (i : Nat) (tr : List (Trip cA cB × TripAct)) : List (Lossy.Act Variant) :=
  tr.filterMap fun x => x.1.onNetwork i x.2

/-- The number of samples lost. -/
def lost (tr : List (Trip cA cB × TripAct)) : Nat :=
  tr.countP fun x => match x.2 with
    | .lose _ => true
    | _       => false

/-- What a step does to the three parts. -/
lemma step_cases {x : TripAct} (h : (tripLts cA cB i).step s x = some s') :
    s.networkStep i x = some s'.network ∧
      ((∃ y, x = .a y ∧ (processLts cA).step s.a y = some s'.a ∧ s'.b = s.b) ∨
        (∃ y, x = .b y ∧ (processLts cB).step s.b y = some s'.b ∧ s'.a = s.a) ∨
        (∃ k, x = .lose k ∧ s'.a = s.a ∧ s'.b = s.b)) := by
  obtain ⟨network, hnetwork, h⟩ := Option.bind_eq_some_iff.mp h
  cases x with
  | a y =>
    obtain ⟨a, ha, rfl⟩ := Option.map_eq_some_iff.mp h
    exact ⟨hnetwork, .inl ⟨y, rfl, ha, rfl⟩⟩
  | b y =>
    obtain ⟨b, hb, rfl⟩ := Option.map_eq_some_iff.mp h
    exact ⟨hnetwork, .inr (.inl ⟨y, rfl, hb, rfl⟩)⟩
  | lose k =>
    obtain rfl := Option.some.inj h
    exact ⟨hnetwork, .inr (.inr ⟨k, rfl, rfl, rfl⟩)⟩

/-- The run of process A. -/
lemma aRun (h : (tripLts cA cB i).Run tr s) : (processLts cA).Run (aTrace tr) s.a := by
  induction h with
  | init h =>
    rw [h]
    exact .init rfl
  | @step tr s s' x h hs ih =>
    obtain ⟨-, ⟨y, rfl, hy, -⟩ | ⟨y, rfl, -, ha⟩ | ⟨k, rfl, ha, -⟩⟩ := step_cases hs
    · rw [aTrace_concat]
      exact ih.step hy
    · rw [aTrace_concat, ha]
      exact ih
    · rw [aTrace_concat, ha]
      exact ih

/-- The run of process B. -/
lemma bRun (h : (tripLts cA cB i).Run tr s) : (processLts cB).Run (bTrace tr) s.b := by
  induction h with
  | init h =>
    rw [h]
    exact .init rfl
  | @step tr s s' x h hs ih =>
    obtain ⟨-, ⟨y, rfl, -, hb⟩ | ⟨y, rfl, hy, -⟩ | ⟨k, rfl, -, hb⟩⟩ := step_cases hs
    · rw [bTrace_concat, hb]
      exact ih
    · rw [bTrace_concat]
      exact ih.step hy
    · rw [bTrace_concat, hb]
      exact ih

/-- The run of the network. -/
lemma networkRun (h : (tripLts cA cB i).Run tr s) :
    ∃ tr', (Lossy.lts Variant).Run tr' s.network ∧ tr'.map Prod.snd = networkActs i tr := by
  have hrun := h.simulates (B := Lossy.lts Variant) (fun s => s.network)
    (fun s x => s.onNetwork i x) ?_ ?_
  · refine ⟨_, hrun, ?_⟩
    rw [networkActs, List.map_filterMap]
    simp only [Option.map_map, Function.comp_def, Option.map_id']
  · rintro s rfl
    rfl
  · intro s x s' hs
    obtain ⟨hnetwork, -⟩ := step_cases hs
    rw [networkStep] at hnetwork
    cases hl : s.onNetwork i x with
    | some l =>
      rw [hl] at hnetwork
      exact hnetwork
    | none =>
      rw [hl] at hnetwork
      exact (Option.some.inj hnetwork).symm

end Trip

/-! ### What A publishes -/

namespace Process

variable {c : ProcessConfig} {i : Nat} {s s' : Process c.cap}
  {tr : List (Process c.cap × ProcessAct)}

/-- The sample publisher `i` takes from the node. -/
def sampleAt (i : Nat) {cap : Nat} (s : Process cap) : ProcessAct → Option Sample
  | .read k now => if k = some i then some ((s.server.txSequence + 1).toUInt64, now) else none
  | _           => none

/-- The samples publisher `i` has taken from the node. -/
def samples {cap : Nat} (i : Nat) (tr : List (Process cap × ProcessAct)) : List Sample :=
  tr.filterMap fun x => x.1.sampleAt i x.2

/-- What publisher `i` has handed to the network. -/
def emissions {cap : Nat} (i : Nat) (tr : List (Process cap × ProcessAct)) : List Variant :=
  tr.filterMap fun x => x.1.emitted i x.2

/-- What publisher `i` is about to hand to the network. -/
def pending {cap : Nat} (i : Nat) (s : Process cap) : List Variant :=
  ((s.pc (some i)).map PubPc.emitting).getD []

lemma samples_concat (a : ProcessAct) :
    samples i (tr ++ [(s, a)]) = samples i tr ++ (s.sampleAt i a).toList := by
  rw [samples, List.filterMap_append, ← samples]
  cases h : s.sampleAt i a with
  | none => simp [h]
  | some p => simp [h]

lemma emissions_concat (a : ProcessAct) :
    emissions i (tr ++ [(s, a)]) = emissions i tr ++ (s.emitted i a).toList := by
  rw [emissions, List.filterMap_append, ← emissions]
  cases h : s.emitted i a with
  | none => simp [h]
  | some v => simp [h]

lemma pending_of_pc {cap : Nat} {s : Process cap} {p : PubPc} (h : s.pc (some i) = some p) :
    s.pending i = p.emitting := by
  rw [pending, h]
  rfl

/-- A thread that neither had a sample nor gets one. -/
lemma pending_setPc {k : Option Nat} {p q : PubPc} (h : s.pc k = some q) (hq : q.emitting = [])
    (hp : p.emitting = []) : (s.setPc k p).pending i = s.pending i := by
  have hpc := pc_setPc (p := p) h (some i)
  by_cases hk : some i = k
  · subst hk
    rw [if_pos rfl] at hpc
    rw [pending_of_pc hpc, pending_of_pc h, hp, hq]
  · rw [if_neg hk] at hpc
    rw [pending, hpc, pending]

/-- What publisher `i` has taken from the node it has handed to the network, but for the sample
it has in hand. -/
lemma emissions_append (hnode : c.node = .pubGetDataToTransmit) (h : (processLts c).Run tr s) :
    emissions i tr ++ s.pending i = (samples i tr).map Server.sample := by
  refine h.induct (P := fun tr s => emissions i tr ++ s.pending i =
    (samples i tr).map Server.sample) ?_ ?_
  · rintro s rfl
    have hidle : (start c).pending i = [] := by
      rw [pending, pc, start, List.getElem?_map]
      cases c.publishers[i]? with
      | none => rfl
      | some b => rfl
    rw [hidle]
    rfl
  · intro tr s a s' hrun ih hs
    have hquiet (he : s.emitted i a = none) (hsample : s.sampleAt i a = none)
        (hpending : s'.pending i = s.pending i) : emissions i (tr ++ [(s, a)]) ++ s'.pending i =
          (samples i (tr ++ [(s, a)])).map Server.sample := by
      rw [emissions_concat, samples_concat, he, hsample, hpending, Option.toList_none,
        Option.toList_none, List.append_nil, List.append_nil]
      exact ih
    cases step_spec hs with
    | test k hpc =>
      refine hquiet rfl rfl (pending_setPc hpc rfl ?_)
      split_ifs
      · rfl
      · rfl
    | gate k hpc =>
      refine hquiet rfl rfl (pending_setPc hpc rfl ?_)
      split_ifs
      · rfl
      · rfl
    | read k now hpc =>
      have hnext : ({ s.setPc k (c.readNode s.server now).2 with
          server := (c.readNode s.server now).1 } : Process c.cap).pc (some i) =
            if some i = k then
              some (.emit (Server.sample ((s.server.txSequence + 1).toUInt64, now)))
            else s.pc (some i) := by
        rw [ProcessConfig.readNode, hnode]
        exact pc_setPc hpc (some i)
      by_cases hk : k = some i
      · subst hk
        rw [if_pos rfl] at hnext
        rw [pending_of_pc hpc] at ih
        rw [pending_of_pc hnext, emissions_concat, samples_concat, sampleAt, if_pos rfl,
          List.map_append, ← ih]
        simp [emitted, PubPc.emitting]
      · refine hquiet rfl (if_neg hk) ?_
        rw [if_neg (Ne.symm hk)] at hnext
        rw [pending, hnext, pending]
    | forward k now m hpc => exact absurd hpc (no_forward hnode hrun k m)
    | emit k v hpc =>
      have hnext := pc_setPc (p := afterEmit k) hpc (some i)
      by_cases hk : k = some i
      · subst hk
        rw [if_pos rfl] at hnext
        rw [pending_of_pc hpc] at ih
        rw [pending_of_pc hnext, emissions_concat, samples_concat, emitted, if_pos rfl, hpc,
          List.map_append, ← ih]
        simp [sampleAt, afterEmit, PubPc.emitting]
      · refine hquiet (if_neg hk) rfl ?_
        rw [if_neg (Ne.symm hk)] at hnext
        rw [pending, hnext, pending]
    | subTest j hpc => exact hquiet rfl rfl rfl
    | receive j data now twoWayData server pc hpc hsub hr => exact hquiet rfl rfl rfl
    | store j now v m hpc hm => exact hquiet rfl rfl rfl
    | finish j n hpc => exact hquiet rfl rfl rfl
    | idle j hpc => exact hquiet rfl rfl rfl
    | stop => exact hquiet rfl rfl rfl

/-! ### The numbers of the samples -/

/-- When publisher `i` reads the node, the process has not been stopped, and the node was read
before. -/
def Timely (i : Nat) {cap : Nat} (s : Process cap) (a : ProcessAct) : Prop :=
  a.By i = true → s.server.gRunning = true ∧ s.server.txSequence ≠ -2

instance (i : Nat) {cap : Nat} (s : Process cap) (a : ProcessAct) : Decidable (Timely i s a) :=
  inferInstanceAs (Decidable (_ → _))

/-- How often others have read the node before the process was stopped. -/
def others {cap : Nat} (i : Nat) (tr : List (Process cap × ProcessAct)) : Nat :=
  tr.countP fun x => match x.2 with
    | .read k _ => k ≠ some i ∧ x.1.server.gRunning
    | _         => false

/-- Each read of the node takes the next number, until the last is taken. -/
structure Counted (c : ProcessConfig) (i : Nat) (tr : List (Process c.cap × ProcessAct))
    (s : Process c.cap) : Prop where
  running : s.server.gRunning = true → (samples i tr).length + others i tr = count c tr
  le : (samples i tr).length + others i tr ≤ c.packetCount.val.toNat + 2
  numbers : ∀ p ∈ samples i tr, p.1.toNat + 2 ≤ (samples i tr).length + others i tr
  increasing : (samples i tr).Pairwise fun p q => p.1 < q.1

lemma others_concat (a : ProcessAct) : others i (tr ++ [(s, a)]) = others i tr +
    match a with
    | .read k _ => if k ≠ some i ∧ s.server.gRunning then 1 else 0
    | _         => 0 := by
  rw [others, List.countP_append, ← others, List.countP_singleton]
  cases a with
  | read k now => simp
  | _ => rfl

/-- The number on the sample that is taken while the process runs. -/
lemma toNat_number {n : Nat} (hpos : 1 ≤ n) (hn : n ≤ 10000002) :
    (-2 + Int64.ofNat n + 1).toUInt64.toNat + 2 = n + 1 := by
  rw [toUInt64_succ, toNat_ofNat_sub_two]
  omega

lemma Counted.read (h : Counted c i tr s) (hnode : c.node = .pubGetDataToTransmit)
    (hrun : (processLts c).Run tr s) {k : Option Nat} {now : UInt64}
    (htimely : Timely i s (.read k now))
    (hs : (processLts c).step s (.read k now) = some s') :
    Counted c i (tr ++ [(s, .read k now)]) s' := by
  have hcount : count c (tr ++ [(s, .read k now)]) = count c tr + 1 := by
    rw [count_concat, counts, if_pos (decide_eq_true hnode)]
  by_cases hrunning : s.server.gRunning = true
  · have hreads := h.running hrunning
    have hlt := ((running_iff hrun).mp hrunning).2
    have hle := c.packetCount.toNat_le
    by_cases hk : k = some i
    · subst hk
      obtain ⟨-, hread⟩ := htimely (decide_eq_true rfl)
      have htx := (numbered (i := 0) hrun).txSequence
      have hpos : 1 ≤ count c tr := by
        by_contra hzero
        rw [htx, Nat.lt_one_iff.mp (Nat.not_le.mp hzero)] at hread
        exact hread rfl
      have hsamples : samples i (tr ++ [(s, .read (some i) now)]) =
          samples i tr ++ [((-2 + Int64.ofNat (count c tr) + 1).toUInt64, now)] := by
        rw [samples_concat, sampleAt, if_pos rfl, htx]
        rfl
      have hothers : others i (tr ++ [(s, .read (some i) now)]) = others i tr := by
        rw [others_concat]
        simp
      have hnumber := toNat_number hpos (by omega)
      rw [← hreads] at hcount hnumber
      constructor
      · rw [hcount, hsamples, hothers, List.length_append, List.length_singleton]
        omega
      · rw [hsamples, hothers, List.length_append, List.length_singleton]
        omega
      · rw [hsamples, hothers, List.length_append, List.length_singleton, List.forall_mem_append,
          List.forall_mem_singleton, ← hreads]
        refine ⟨fun p hp => ?_, ?_⟩
        · have hold := h.numbers p hp
          omega
        · rw [hnumber]
          omega
      · rw [hsamples, List.pairwise_append]
        refine ⟨h.increasing, List.pairwise_singleton _ _, fun p hp q hq => ?_⟩
        have hold := h.numbers p hp
        obtain rfl := List.mem_singleton.mp hq
        rw [UInt64.lt_iff_toNat_lt, ← hreads]
        exact Nat.lt_of_add_lt_add_right ((Nat.lt_succ_of_le hold).trans_eq hnumber.symm)
    · have hsamples : samples i (tr ++ [(s, .read k now)]) = samples i tr := by
        rw [samples_concat, sampleAt, if_neg hk, Option.toList_none, List.append_nil]
      have hothers : others i (tr ++ [(s, .read k now)]) = others i tr + 1 := by
        rw [others_concat]
        simp [hk, hrunning]
      constructor
      · rw [hcount, hsamples, hothers, ← hreads]
        omega
      · rw [hsamples, hothers]
        omega
      · rw [hsamples, hothers]
        intro p hp
        have hold := h.numbers p hp
        omega
      · rw [hsamples]
        exact h.increasing
  · have hk : k ≠ some i := by
      rintro rfl
      exact hrunning (htimely (decide_eq_true rfl)).1
    have hsamples : samples i (tr ++ [(s, .read k now)]) = samples i tr := by
      rw [samples_concat, sampleAt, if_neg hk, Option.toList_none, List.append_nil]
    have hothers : others i (tr ++ [(s, .read k now)]) = others i tr := by
      rw [others_concat]
      simp [hrunning]
    refine ⟨fun hrunning' => absurd (gRunning_of_step hs hrunning') hrunning, ?_, ?_, ?_⟩
    · rw [hsamples, hothers]
      exact h.le
    · rw [hsamples, hothers]
      exact h.numbers
    · rw [hsamples]
      exact h.increasing

lemma Counted.step (h : Counted c i tr s) (hnode : c.node = .pubGetDataToTransmit)
    (hrun : (processLts c).Run tr s) {a : ProcessAct} (htimely : Timely i s a)
    (hs : (processLts c).step s a = some s') : Counted c i (tr ++ [(s, a)]) s' := by
  by_cases hread : ∃ k now, a = .read k now
  · obtain ⟨k, now, rfl⟩ := hread
    exact h.read hnode hrun htimely hs
  · have hsamples : samples i (tr ++ [(s, a)]) = samples i tr := by
      rw [samples_concat]
      cases a with
      | read k now => exact absurd ⟨k, now, rfl⟩ hread
      | _ => exact List.append_nil _
    have hothers : others i (tr ++ [(s, a)]) = others i tr := by
      rw [others_concat]
      cases a with
      | read k now => exact absurd ⟨k, now, rfl⟩ hread
      | _ => rfl
    have hcount : count c (tr ++ [(s, a)]) = count c tr := by
      rw [count_concat]
      cases a with
      | read k now => exact absurd ⟨k, now, rfl⟩ hread
      | forward k now =>
        exact absurd rfl (ne_forward hnode (hrun.step hs) (s, .forward k now) (by simp) k now)
      | _ => rfl
    constructor
    · rw [hsamples, hothers, hcount]
      exact fun hrunning => h.running (gRunning_of_step hs hrunning)
    · rw [hsamples, hothers]
      exact h.le
    · rw [hsamples, hothers]
      exact h.numbers
    · rw [hsamples]
      exact h.increasing

theorem counted (hnode : c.node = .pubGetDataToTransmit) (h : (processLts c).Run tr s)
    (htimely : ∀ x ∈ tr, Timely i x.1 x.2) : Counted c i tr s := by
  refine h.induct_of (P := fun tr s => Counted c i tr s) (C := Timely i) ?_ ?_ htimely
  · rintro s rfl
    exact ⟨fun _ => rfl, Nat.zero_le _, nofun, .nil⟩
  · intro tr s a s' hrun _ hI hC hs
    exact hI.step hnode hrun hC hs

/-- With the last number among the samples, all numbers have been taken. -/
lemma Counted.all (h : Counted c i tr s) (hlast : c.packetCount.val ∈ (samples i tr).map Prod.fst) :
    (samples i tr).length + others i tr = c.packetCount.val.toNat + 2 := by
  obtain ⟨p, hp, he⟩ := List.mem_map.mp hlast
  have hnumber := h.numbers p hp
  have hle := h.le
  rw [he] at hnumber
  omega

/-! ### What B prints -/

/-- What B's subscriber was handed. -/
def takings {cap : Nat} (tr : List (Process cap × ProcessAct)) : List Variant :=
  tr.filterMap fun x => taken x.2

lemma takings_concat (a : ProcessAct) :
    takings (tr ++ [(s, a)]) = takings tr ++ (taken a).toList := by
  rw [takings, List.filterMap_append, ← takings]
  cases h : taken a with
  | none => simp [h]
  | some v => simp [h]

end Process

/-- The sample a subscriber is about to store. -/
def SubPc.inHand : SubPc → List Sample
  | .store v => (Server.decode v 0).toList.map fun m => (m.rxSequence, m.txTime)
  | _        => []

/-- The samples a subscriber was handed are printed, but for the one it has in hand; the output
is closed after the last. -/
structure Logs (last : UInt64) (ps : List Sample) (pc : SubPc) {cap : Nat} (t : Server cap) :
    Prop where
  lines : t.subOut.map SubLine.sample ++ pc.inHand = ps
  finish : ∀ n, pc = .finish n → n ∈ t.subOut.map SubLine.rxSequence
  closed : t.fpSubscriberOutput = false → last ∈ t.subOut.map SubLine.rxSequence

namespace Logs

variable {last : UInt64} {ps : List Sample} {pc pc' : SubPc} {cap : Nat} {t t' : Server cap}

/-- A piece that neither prints nor closes. -/
lemma of_eq (h : Logs last ps pc t) (hout : t'.subOut = t.subOut)
    (hfp : t'.fpSubscriberOutput = t.fpSubscriberOutput) (hhand : pc'.inHand = pc.inHand)
    (hfinish : ∀ n, pc' = .finish n → pc = .finish n) : Logs last ps pc' t' := by
  refine ⟨?_, fun n hn => ?_, fun hclosed => ?_⟩
  · rw [hout, hhand]
    exact h.lines
  · rw [hout]
    exact h.finish n (hfinish n hn)
  · rw [hout]
    exact h.closed (hfp ▸ hclosed)

lemma rxSequence_eq (ls : List SubLine) :
    ls.map SubLine.rxSequence = (ls.map SubLine.sample).map Prod.fst := by
  rw [List.map_map]
  rfl

/-- A sample is handed over. -/
lemma receive (h : Logs last ps .receive t) (p : Sample) :
    Logs last (ps ++ [p]) (.store (Server.sample p)) t.raise := by
  refine ⟨?_, nofun, h.closed⟩
  have hlines : t.subOut.map SubLine.sample ++ [] = ps := h.lines
  rw [List.append_nil] at hlines
  rw [← hlines]
  rfl

lemma inHand_store {v : Variant} {now : UInt64} {m : MsgqBuf}
    (hm : Server.decode v now = some m) :
    (SubPc.store v).inHand = [(m.rxSequence, m.txTime)] := by
  rw [SubPc.inHand]
  simp only [Server.decode] at hm ⊢
  split at hm
  · cases hm
    rfl
  · cases hm

/-- A sample is printed: nothing comes after the last. -/
lemma store {v : Variant} {now : UInt64} {m : MsgqBuf} (h : Logs last ps (.store v) t)
    (hm : Server.decode v now = some m) (hincreasing : ps.Pairwise fun p q => p.1 < q.1)
    (hle : ∀ p ∈ ps, p.1 ≤ last) : Logs last ps (.finish m.rxSequence) (t.store m) := by
  have hlines := h.lines
  rw [inHand_store hm] at hlines
  subst hlines
  have hopen : t.fpSubscriberOutput = true := by
    by_contra hclosed
    have hlast := h.closed (Bool.not_eq_true _ ▸ hclosed)
    rw [rxSequence_eq] at hlast
    obtain ⟨q, hq, he⟩ := List.mem_map.mp hlast
    have hlt := (List.pairwise_append.mp hincreasing).2.2 q hq _ (List.mem_singleton_self _)
    have hbound := hle _ (List.mem_append_right _ (List.mem_singleton_self _))
    rw [he] at hlt
    exact absurd (UInt64.lt_of_lt_of_le hlt hbound) (UInt64.lt_irrefl last)
  have hout : (t.store m).subOut = t.subOut ++
      [⟨(m.rxTime - m.txTime).toInt64, m.rxSequence, t.id, m.txTime, 0, m.rxTime⟩] := if_pos hopen
  refine ⟨?_, fun n hn => ?_, fun hclosed => ?_⟩
  · rw [hout, List.map_append]
    exact List.append_nil _
  · rw [hout, List.map_append]
    cases hn
    exact List.mem_append_right _ (List.mem_singleton_self _)
  · rw [hout, List.map_append]
    exact List.mem_append_left _ (h.closed hclosed)

/-- The output is closed with the last sample. -/
lemma finished {packetCount : PacketCount} {n : UInt64}
    (h : Logs packetCount.val ps (.finish n) t) :
    Logs packetCount.val ps .receive (t.finish packetCount n) := by
  have hn := h.finish n rfl
  by_cases hlast : n = packetCount.val
  · rw [Server.finish, if_pos hlast]
    exact ⟨h.lines, fun _ => SubPc.noConfusion, fun _ => hlast ▸ hn⟩
  · rw [Server.finish, if_neg hlast]
    exact h.of_eq rfl rfl rfl fun _ => SubPc.noConfusion

end Logs

namespace Process

variable {c : ProcessConfig} {s s' : Process c.cap} {tr : List (Process c.cap × ProcessAct)}

/-- Reading the node prints nothing. -/
lemma readNode_frame (t : Server c.cap) (now : UInt64) :
    (c.readNode t now).1.subOut = t.subOut ∧
      (c.readNode t now).1.fpSubscriberOutput = t.fpSubscriberOutput := by
  rw [ProcessConfig.readNode]
  cases c.node with
  | pubGetDataToTransmit => exact ⟨rfl, rfl⟩
  | pubReturnGetDataToTransmit =>
    simp only [Server.msgrcv]
    split
    · exact ⟨rfl, rfl⟩
    · exact ⟨rfl, rfl⟩

/-- A publisher's step leaves the subscribers where they are. -/
lemma setPc_frame (k : Option Nat) (p : PubPc) :
    (s.setPc k p).subs = s.subs ∧ (s.setPc k p).server = s.server := by
  cases k with
  | none => exact ⟨rfl, rfl⟩
  | some k => exact ⟨rfl, rfl⟩

/-- The subscriber prints the samples it is handed, as long as their numbers increase and do not
pass the last. -/
def Prints (c : ProcessConfig) (tr : List (Process c.cap × ProcessAct)) (s : Process c.cap)
    (pc : SubPc) : Prop :=
  s.subs = [pc] ∧ ∀ ps, takings tr = ps.map Server.sample → (ps.Pairwise fun p q => p.1 < q.1) →
    (∀ p ∈ ps, p.1 ≤ c.packetCount.val) → Logs c.packetCount.val ps pc s.server

/-- A piece in which the subscriber is not handed anything. -/
lemma Prints.quiet {a : ProcessAct} {pc pc' : SubPc} (h : Prints c tr s pc) (ha : taken a = none)
    (hsubs : s'.subs = [pc']) (hkeep : ∀ ps, (ps.Pairwise fun p q => p.1 < q.1) →
      (∀ p ∈ ps, p.1 ≤ c.packetCount.val) → Logs c.packetCount.val ps pc s.server →
      Logs c.packetCount.val ps pc' s'.server) : Prints c (tr ++ [(s, a)]) s' pc' := by
  refine ⟨hsubs, fun ps hps hincreasing hle => hkeep ps hincreasing hle ?_⟩
  rw [takings_concat, ha, Option.toList_none, List.append_nil] at hps
  exact h.2 ps hps hincreasing hle

/-- The subscriber is handed a sample. -/
lemma Prints.receive (hsub : c.subscribers = [false]) (h : Prints c tr s .receive) {v : Variant}
    {now : UInt64} (hs : (processLts c).step s (.receive 0 (some v) now) = some s') :
    ∃ pc, Prints c (tr ++ [(s, .receive 0 (some v) now)]) s' pc := by
  cases step_spec hs with | receive _ _ _ twoWayData server pc hpc hj hr =>
  have hone : twoWayData = false := by
    rw [hsub] at hj
    exact (Option.some.inj hj).symm
  refine ⟨pc, by rw [h.1]; rfl, fun ps hps hincreasing hle => ?_⟩
  rw [takings_concat] at hps
  obtain ⟨ps, qs, rfl, htr, hv⟩ := List.map_eq_append_iff.mp hps.symm
  obtain ⟨p, rfl, hp⟩ := List.map_eq_singleton_iff.mp hv
  obtain rfl : Server.sample p = v := hp
  have hlogs := h.2 ps htr.symm (List.pairwise_append.mp hincreasing).1
    fun q hq => hle q (List.mem_append_left _ hq)
  rw [hone] at hr
  obtain ⟨rfl, rfl⟩ := Prod.mk.inj (Option.some.inj hr)
  exact hlogs.receive p

lemma Prints.step (hsub : c.subscribers = [false]) {a : ProcessAct} {pc : SubPc}
    (h : Prints c tr s pc) (hs : (processLts c).step s a = some s') :
    ∃ pc', Prints c (tr ++ [(s, a)]) s' pc' := by
  have hone {j : Nat} {p : SubPc} (hj : s.subs[j]? = some p) : j = 0 ∧ pc = p := by
    rw [h.1] at hj
    cases j with
    | zero => exact ⟨rfl, Option.some.inj hj⟩
    | succ j => cases hj
  have hset (p : SubPc) : s.subs.set 0 p = [p] := by
    rw [h.1]
    rfl
  have hkeep (k : Option Nat) (p : PubPc) : (s.setPc k p).subs = [pc] :=
    (setPc_frame k p).1.trans h.1
  cases step_spec hs with
  | test k hpc => exact ⟨pc, h.quiet rfl h.1 fun _ _ _ hlogs => hlogs⟩
  | gate k hpc => exact ⟨pc, h.quiet rfl h.1 fun _ _ _ hlogs => hlogs⟩
  | read k now hpc =>
    obtain ⟨hout, hfp⟩ := readNode_frame (c := c) s.server now
    exact ⟨pc, h.quiet rfl (hkeep k _) fun _ _ _ hlogs =>
      hlogs.of_eq hout hfp rfl fun _ hn => hn⟩
  | forward k now m hpc =>
    exact ⟨pc, h.quiet rfl (hkeep k _) fun _ _ _ hlogs => hlogs.of_eq rfl rfl rfl fun _ hn => hn⟩
  | emit k v hpc =>
    refine ⟨pc, h.quiet rfl (hkeep k _) fun _ _ _ hlogs => ?_⟩
    rw [(setPc_frame k (afterEmit k)).2]
    exact hlogs
  | subTest j hpc =>
    obtain ⟨rfl, rfl⟩ := hone hpc
    refine ⟨_, h.quiet rfl (hset _) fun _ _ _ hlogs => hlogs.of_eq rfl rfl ?_ ?_⟩
    · split_ifs
      · rfl
      · rfl
    · split_ifs
      · exact nofun
      · exact nofun
  | receive j data now twoWayData server p hpc hj hr =>
    obtain ⟨rfl, rfl⟩ := hone hpc
    cases data with
    | some v => exact h.receive hsub hs
    | none =>
      have hfalse : twoWayData = false := by
        rw [hsub] at hj
        exact (Option.some.inj hj).symm
      rw [hfalse] at hr
      obtain ⟨rfl, rfl⟩ := Prod.mk.inj (Option.some.inj hr)
      exact ⟨_, h.quiet rfl (hset _) fun _ _ _ hlogs => hlogs⟩
  | store j now v m hpc hm =>
    obtain ⟨rfl, rfl⟩ := hone hpc
    exact ⟨_, h.quiet rfl (hset _) fun _ hincreasing hle hlogs =>
      hlogs.store hm hincreasing hle⟩
  | finish j n hpc =>
    obtain ⟨rfl, rfl⟩ := hone hpc
    exact ⟨_, h.quiet rfl (hset _) fun _ _ _ hlogs => hlogs.finished⟩
  | idle j hpc =>
    obtain ⟨rfl, rfl⟩ := hone hpc
    exact ⟨_, h.quiet rfl (hset _) fun _ _ _ hlogs => hlogs.of_eq rfl rfl rfl nofun⟩
  | stop => exact ⟨pc, h.quiet rfl h.1 fun _ _ _ hlogs => hlogs.of_eq rfl rfl rfl fun _ hn => hn⟩

theorem prints (hsub : c.subscribers = [false]) (h : (processLts c).Run tr s) :
    ∃ pc, Prints c tr s pc := by
  refine h.induct (P := fun tr s => ∃ pc, Prints c tr s pc) ?_ ?_
  · rintro s rfl
    have hsubs : (start c).subs = [.test] := by
      rw [start, hsub]
      rfl
    refine ⟨.test, hsubs, fun ps hps _ _ => ?_⟩
    obtain rfl := List.map_eq_nil_iff.mp hps.symm
    have hfresh : (start c).server.subOut = [] ∧
        (start c).server.fpSubscriberOutput = true := by
      simp only [start, ProcessConfig.startServer]
      split_ifs
      · exact ⟨rfl, rfl⟩
      · exact ⟨rfl, rfl⟩
    refine ⟨?_, fun _ => SubPc.noConfusion, fun hclosed => ?_⟩
    · rw [hfresh.1]
      rfl
    · rw [hfresh.2] at hclosed
      cases hclosed
  · rintro tr s a s' - ⟨pc, hI⟩ hs
    exact hI.step hsub hs

end Process

/-! ### From A to B -/

namespace Trip

variable {cA cB : ProcessConfig} {i : Nat} {s : Trip cA cB} {tr : List (Trip cA cB × TripAct)}

/-- The samples on B's lines. -/
def logged (s : Trip cA cB) : List Sample := s.b.server.subOut.map SubLine.sample

lemma sent_networkActs :
    Lossy.sent (networkActs i tr) = Process.emissions i (aTrace tr) := by
  rw [Lossy.sent, networkActs, Process.emissions, aTrace, List.filterMap_filterMap,
    List.filterMap_filterMap]
  congr 1
  funext x
  obtain ⟨s, x⟩ := x
  cases x with
  | a y =>
    simp only [onNetwork, Option.bind_some]
    cases s.a.emitted i y with
    | none => rfl
    | some v => rfl
  | b y =>
    simp only [onNetwork, Option.bind_none]
    cases Process.taken y with
    | none => rfl
    | some v => rfl
  | lose k => rfl

lemma received_networkActs :
    Lossy.received (networkActs i tr) = Process.takings (bTrace tr) := by
  rw [Lossy.received, networkActs, Process.takings, bTrace, List.filterMap_filterMap,
    List.filterMap_filterMap]
  congr 1
  funext x
  obtain ⟨s, x⟩ := x
  cases x with
  | a y =>
    simp only [onNetwork, Option.bind_none]
    cases s.a.emitted i y with
    | none => rfl
    | some v => rfl
  | b y =>
    simp only [onNetwork, Option.bind_some]
    cases Process.taken y with
    | none => rfl
    | some v => rfl
  | lose k => rfl

lemma losses_networkActs : Lossy.losses (networkActs i tr) = lost tr := by
  rw [Lossy.losses, networkActs, lost, List.countP_filterMap]
  congr 1
  funext x
  obtain ⟨s, x⟩ := x
  cases x with
  | a y =>
    simp only [onNetwork]
    cases s.a.emitted i y with
    | none => rfl
    | some v => rfl
  | b y =>
    simp only [onNetwork]
    cases Process.taken y with
    | none => rfl
    | some v => rfl
  | lose k => rfl

/-- Of the samples taken from A's node some are printed by B, in order, some are on their way,
and the others are lost. -/
structure Conveys (i : Nat) (tr : List (Trip cA cB × TripAct)) (s : Trip cA cB)
    (under : List Sample) : Prop where
  sublist : (s.logged ++ under).Sublist (Process.samples i (aTrace tr))
  length : s.logged.length + under.length + lost tr = (Process.samples i (aTrace tr)).length
  closed : s.b.server.fpSubscriberOutput = false →
    cB.packetCount.val ∈ s.logged.map Prod.fst

lemma conveys (hnode : cA.node = .pubGetDataToTransmit) (hsub : cB.subscribers = [false])
    (hcount : cB.packetCount = cA.packetCount) (h : (tripLts cA cB i).Run tr s)
    (hcounted : Process.Counted cA i (aTrace tr) s.a) : ∃ under, Conveys i tr s under := by
  obtain ⟨tr', hnetwork, hacts⟩ := networkRun h
  have hemissions := Process.emissions_append (i := i) hnode (aRun h)
  have hpart := Lossy.received_append_sublist hnetwork
  have hlength := Lossy.length_sent hnetwork
  rw [hacts, sent_networkActs, received_networkActs] at hpart hlength
  rw [losses_networkActs] at hlength
  -- what was taken from the node and not lost was handed over or is on its way
  have hpart' := hpart.append (List.Sublist.refl (s.a.pending i))
  rw [hemissions, List.append_assoc] at hpart'
  obtain ⟨ps, hps, he⟩ := List.sublist_map_iff.mp hpart'
  obtain ⟨ps, qs, rfl, htakings, hqs⟩ := List.map_eq_append_iff.mp he.symm
  obtain ⟨pc, -, hprints⟩ := Process.prints hsub (bRun h)
  have hlogs := hprints ps htakings.symm
    ((hcounted.increasing.sublist hps).sublist (List.sublist_append_left ps qs)) ?_
  · refine ⟨pc.inHand ++ qs, ?_, ?_, fun hclosed => ?_⟩
    · rw [← List.append_assoc, logged, hlogs.lines]
      exact hps
    · have hlines := congrArg List.length hlogs.lines
      replace hqs := congrArg List.length hqs
      replace htakings := congrArg List.length htakings
      replace hemissions := congrArg List.length hemissions
      simp only [List.length_append, List.length_map] at hlines hqs htakings hemissions ⊢
      rw [logged, List.length_map]
      omega
    · rw [logged, ← Logs.rxSequence_eq]
      exact hlogs.closed hclosed
  · intro p hp
    have hnumber := hcounted.numbers p (hps.subset (List.mem_append_left _ hp))
    have hle := hcounted.le
    rw [hcount, UInt64.le_iff_toNat_le]
    omega

end Trip

end Opcua

end TsnRefSw
