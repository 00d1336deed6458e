import TsnRefSw.Opcua.Setup

/-!
# Transport layers and threads

`setupOpcuaServer()` has room for two transport layers and `g_thread` for six threads. The size of
the first array grows with each subscriber that needs a connection of its own beside a
publisher, although there is only one slot for it to fill; the number of threads is checked in 16
bits.
-/

namespace TsnRefSw

namespace Opcua

/-- `MAX_OPCUA_THREAD`, the length of `g_thread`. -/
def maxOpcuaThread : Nat := 6

/-- The transport layers there is room for. -/
def maxTransportLayers : Nat := 2

/-! ### Threads -/

/-- A thread with the index of its publisher or subscriber. -/
inductive OpcuaThread where
  | pubThread (dataIndex : UInt16)
  | subThread (dataIndex : UInt16)
deriving DecidableEq, Repr

/-- The globals that count the threads. -/
structure ThreadTable where
  /-- The slots of `g_thread` in the order they were written, `maxOpcuaThread` being the first
  one behind the array. -/
  gThread : List (Nat × OpcuaThread)
  gThreadRun : UInt16
  gIndexPub : UInt16
  gIndexSub : UInt16

namespace ThreadTable

/-- `main()` has set `g_threadRun`. -/
def empty : ThreadTable := ⟨[], 0, 0, 0⟩

/-- `UA_PubSubManager_addRepeatedCallback()`, which the library calls once for each writer group
and for each reader group. -/
def addRepeatedCallback (t : ThreadTable) (isWriterGroup : Bool) : ThreadTable :=
  if isWriterGroup then
    { t with
      gThread := t.gThread ++ [(t.gThreadRun.toNat, .pubThread t.gIndexPub)]
      gIndexPub := t.gIndexPub + 1
      gThreadRun := t.gThreadRun + 1 }
  else
    { t with
      gThread := t.gThread ++ [(t.gThreadRun.toNat, .subThread t.gIndexSub)]
      gIndexSub := t.gIndexSub + 1
      gThreadRun := t.gThreadRun + 1 }

end ThreadTable

section
variable (sdata : ServerData)

/-- The writer groups come before the reader groups. -/
def groups : List Bool := sdata.pubData.map (fun _ => true) ++ sdata.subData.map (fun _ => false)

/-- The threads when the groups `gs` were added. -/
def threads (gs : List Bool) : ThreadTable := gs.foldl .addRepeatedCallback .empty

/-- `threadCount` in `main()`. -/
def threadCount : UInt16 := UInt16.ofNat (sdata.pubData.length + sdata.subData.length)

/-- The check of `main()`. -/
def Accepted : Prop := (threadCount sdata).toNat ≤ maxOpcuaThread

/-! ### Transport layers -/

/-- The transport layers that were initialised. -/
def Setup.layers (s : Setup) : List TransportLayer := s.layer0.toList ++ s.layer1.toList

/-- The server when the subscribers `subs` were set up. -/
def setupSubscribers (env : Environment) (subs : List (SubscriberData sdata.useXDP)) : Setup :=
  (subs.foldl (setupSubscriber env sdata sdata.pubData.getLast?)
    (sdata.pubData.foldl (setupPublisher sdata) (newServer sdata, none))).1

lemma setupOpcuaServer_eq (env : Environment) :
    setupOpcuaServer env sdata = setupSubscribers sdata env sdata.subData := rfl

/-- The subscribers beside a publisher that do not share its socket. -/
def ownLayer (sub : SubscriberData sdata.useXDP) : Bool :=
  sdata.pubData.getLast?.isSome ∧ ¬ Shares sdata sdata.pubData.getLast? sub

/-- All the time, the arrays have room for the transport layers, each of which is initialised,
and for the threads. -/
structure InsideArrays (env : Environment) : Prop where
  size_le : ∀ subs, subs <+: sdata.subData →
    (setupSubscribers sdata env subs).pubsubTransportLayersSize ≤ maxTransportLayers
  size_eq : ∀ subs, subs <+: sdata.subData →
    (setupSubscribers sdata env subs).pubsubTransportLayersSize =
      (setupSubscribers sdata env subs).layers.length
  threads_le : ∀ gs, gs <+: groups sdata → (threads gs).gThread.length ≤ maxOpcuaThread
  slot_lt : ∀ x ∈ (threads (groups sdata)).gThread, x.1 < maxOpcuaThread

end

/-! ### What the loops count -/

namespace ThreadTable

/-- One thread more in the slot that `g_threadRun` names. -/
lemma addRepeatedCallback_spec (t : ThreadTable) (isWriterGroup : Bool) :
    ∃ thread, (t.addRepeatedCallback isWriterGroup).gThread =
        t.gThread ++ [(t.gThreadRun.toNat, thread)] ∧
      (t.addRepeatedCallback isWriterGroup).gThreadRun = t.gThreadRun + 1 := by
  cases isWriterGroup with
  | false => exact ⟨.subThread t.gIndexSub, rfl, rfl⟩
  | true => exact ⟨.pubThread t.gIndexPub, rfl, rfl⟩

/-- The slots are filled in order, until the counter wraps around. -/
structure Numbered (t : ThreadTable) : Prop where
  run : t.gThreadRun.toNat = t.gThread.length % 2 ^ 16
  slot : ∀ x ∈ t.gThread, x.1 < t.gThread.length

lemma Numbered.addRepeatedCallback {t : ThreadTable} (h : t.Numbered) (isWriterGroup : Bool) :
    (t.addRepeatedCallback isWriterGroup).Numbered := by
  obtain ⟨thread, hthread, hrun⟩ := t.addRepeatedCallback_spec isWriterGroup
  have hlen : (t.gThread ++ [(t.gThreadRun.toNat, thread)]).length = t.gThread.length + 1 := by
    simp
  constructor
  · rw [hthread, hrun, hlen, UInt16.toNat_add, h.run, Nat.mod_add_mod]
    rfl
  · rw [hthread, hlen]
    intro x hx
    rcases List.mem_append.mp hx with hx | hx
    · exact Nat.lt_succ_of_lt (h.slot x hx)
    · rw [List.mem_singleton.mp hx, h.run]
      exact Nat.lt_succ_of_le (Nat.mod_le _ _)

end ThreadTable

lemma threads_foldl (gs : List Bool) {t : ThreadTable} (h : t.Numbered) :
    (gs.foldl .addRepeatedCallback t).Numbered ∧
      (gs.foldl .addRepeatedCallback t).gThread.length = t.gThread.length + gs.length := by
  induction gs generalizing t with
  | nil => exact ⟨h, rfl⟩
  | cons g gs ih =>
    obtain ⟨hnum, hlen⟩ := ih (h.addRepeatedCallback g)
    obtain ⟨thread, hthread, -⟩ := t.addRepeatedCallback_spec g
    refine ⟨hnum, hlen.trans ?_⟩
    rw [hthread, List.length_append, List.length_singleton, List.length_cons]
    omega

/-- Each group has its thread. -/
lemma threads_spec (gs : List Bool) : (threads gs).Numbered ∧
    (threads gs).gThread.length = gs.length := by
  obtain ⟨hnum, hlen⟩ := threads_foldl gs (t := .empty) ⟨rfl, by simp [ThreadTable.empty]⟩
  exact ⟨hnum, hlen.trans (Nat.zero_add _)⟩

/-- The size counts `k` layers beside the first, which share one slot. -/
structure Setup.Layered (k : Nat) (s : Setup) : Prop where
  layer0 : s.layer0.isSome
  layer1 : s.layer1.isSome ↔ 0 < k
  size : s.pubsubTransportLayersSize = 1 + k

section
variable {sdata : ServerData} (env : Environment)

lemma layered_setupPublishers (pubs : List (PublisherData sdata.useXDP)) {r : Setup × ConnId}
    (h : r.1.Layered 0) : (pubs.foldl (setupPublisher sdata) r).1.Layered 0 := by
  induction pubs generalizing r with
  | nil => exact h
  | cons pub pubs ih => exact ih ⟨h.layer0, h.layer1, h.size⟩

/-- A subscriber that needs a layer of its own is counted. -/
lemma layered_setupSubscriber (sub : SubscriberData sdata.useXDP) {r : Setup × ConnId} {k : Nat}
    (h : r.1.Layered k) :
    (setupSubscriber env sdata sdata.pubData.getLast? r sub).1.Layered
      (if ownLayer sdata sub then k + 1 else k) := by
  have hadd : ∀ layer, (r.1.addLayer layer).Layered (k + 1) := fun layer =>
    ⟨h.layer0, by simp [Setup.addLayer], by simp [Setup.addLayer, h.size, Nat.add_assoc]⟩
  by_cases hs : Shares sdata sdata.pubData.getLast? sub
  · simp only [setupSubscriber, hs, if_true, ownLayer, not_true, and_false, decide_false]
    exact ⟨h.layer0, h.layer1, h.size⟩
  · by_cases hp : sdata.pubData.getLast?.isSome
    · by_cases hx : sdata.useXDP
      · simp only [setupSubscriber, hs, hp, hx, if_true, if_false, and_self, ownLayer,
          not_false_iff, decide_true]
        exact ⟨(hadd .ethernetXDP).layer0, (hadd .ethernetXDP).layer1, (hadd .ethernetXDP).size⟩
      · simp only [setupSubscriber, hs, hp, hx, if_true, if_false, ownLayer,
          not_false_iff, and_self, decide_true]
        exact ⟨(hadd .ethernetETF).layer0, (hadd .ethernetETF).layer1, (hadd .ethernetETF).size⟩
    · simp only [setupSubscriber, hs, hp, if_false, ownLayer]
      exact ⟨h.layer0, h.layer1, h.size⟩

lemma layered_foldl (subs : List (SubscriberData sdata.useXDP)) {r : Setup × ConnId} {k : Nat}
    (h : r.1.Layered k) :
    (subs.foldl (setupSubscriber env sdata sdata.pubData.getLast?) r).1.Layered
      (k + subs.countP (ownLayer sdata)) := by
  induction subs generalizing r k with
  | nil => exact h
  | cons sub subs ih =>
    have hrest := ih (layered_setupSubscriber env sub h)
    rw [List.foldl_cons, List.countP_cons]
    convert hrest using 1
    split_ifs
    · rw [Nat.add_comm (subs.countP _), Nat.add_assoc]
    · rw [Nat.add_zero]

lemma layered_setupSubscribers (subs : List (SubscriberData sdata.useXDP)) :
    (setupSubscribers sdata env subs).Layered (subs.countP (ownLayer sdata)) := by
  have hnew : (newServer sdata).Layered 0 := ⟨rfl, by simp [newServer], rfl⟩
  have hpubs := layered_setupPublishers sdata.pubData (r := (newServer sdata, none)) hnew
  have hsubs := layered_foldl env subs hpubs
  rwa [Nat.zero_add] at hsubs

lemma Setup.Layered.length_layers {k : Nat} {s : Setup} (h : s.Layered k) :
    s.layers.length = 1 + min k 1 := by
  obtain ⟨l₀, hl₀⟩ := Option.isSome_iff_exists.mp h.layer0
  have hlayer1 := h.layer1
  rw [Setup.layers, hl₀]
  cases hl₁ : s.layer1 with
  | none =>
    have hk : ¬ 0 < k := by simpa [hl₁] using hlayer1
    simp [Nat.eq_zero_of_not_pos hk]
  | some l₁ =>
    have hk : 0 < k := by simpa [hl₁] using hlayer1
    simp [Nat.min_eq_right hk]

/-- The setup of a configuration that is accepted stays inside its arrays if and only if at most
one subscriber needs a transport layer of its own, beside a publisher whose socket it does not
share, and there are less than `2 ^ 16` publishers and subscribers. -/
theorem insideArrays_iff (h : Accepted sdata) :
    InsideArrays sdata env ↔ sdata.subData.countP (ownLayer sdata) ≤ 1 ∧
      sdata.pubData.length + sdata.subData.length < 2 ^ 16 := by
  have hgroups : (groups sdata).length = sdata.pubData.length + sdata.subData.length := by
    simp [groups]
  have hcount : (sdata.pubData.length + sdata.subData.length) % 2 ^ 16 ≤ 6 := h
  constructor
  · intro hin
    constructor
    · have hsize := hin.size_le sdata.subData List.prefix_rfl
      rw [(layered_setupSubscribers env sdata.subData).size] at hsize
      exact Nat.le_of_add_le_add_left hsize
    · have hthreads := hin.threads_le _ List.prefix_rfl
      rw [(threads_spec _).2, hgroups] at hthreads
      exact Nat.lt_of_le_of_lt hthreads (by decide)
  · rintro ⟨hlayers, hlt⟩
    rw [Nat.mod_eq_of_lt hlt] at hcount
    refine ⟨fun subs hsubs => ?_, fun subs hsubs => ?_, fun gs hgs => ?_, fun x hx => ?_⟩
    · rw [(layered_setupSubscribers env subs).size]
      exact Nat.add_le_add_left (Nat.le_trans hsubs.countP_le hlayers) 1
    · have hlayered := layered_setupSubscribers env subs
      rw [hlayered.size, hlayered.length_layers,
        Nat.min_eq_left (Nat.le_trans hsubs.countP_le hlayers)]
    · rw [(threads_spec gs).2]
      exact Nat.le_trans hgs.length_le (Nat.le_trans (Nat.le_of_eq hgroups) hcount)
    · have hslot := (threads_spec (groups sdata)).1.slot x hx
      rw [(threads_spec (groups sdata)).2, hgroups] at hslot
      exact Nat.lt_of_lt_of_le hslot hcount

end

section Configurations

private def anyEnvironment : Environment := ⟨fun _ => 1⟩

/-- Two publishers of AF_XDP, two subscribers that share the queue of the second, and one that
needs a transport layer of its own. -/
theorem insideArrays_iff_one :
    ∃ sdata, parseJson (fun _ => true)
        (.opcuaServer true 1000000 [.publisher 1 2234 3 false, .publisher 2 2235 3 false]
          [.subscriber 2 2236 false, .subscriber 2 2237 false, .subscriber 3 2238 false]) =
          .ok sdata ∧ InsideArrays sdata anyEnvironment := by
  refine ⟨_, rfl, (insideArrays_iff _ ?_).mpr ⟨?_, ?_⟩⟩
  · exact Nat.le_of_ble_eq_true rfl
  · decide
  · decide

/-- With a second subscriber, there are three transport layers. -/
theorem not_insideArrays :
    ∃ sdata, parseJson (fun _ => true)
        (.opcuaServer false 300000 [.publisher 0 2234 3 false]
          [.subscriber 0 2234 false, .subscriber 0 2234 false]) = .ok sdata ∧
      Accepted sdata ∧ ¬ InsideArrays sdata anyEnvironment ∧
      (setupOpcuaServer anyEnvironment sdata).pubsubTransportLayersSize = 3 := by
  refine ⟨_, rfl, Nat.le_of_ble_eq_true rfl, ?_, rfl⟩
  intro h
  exact absurd (h.size_le _ List.prefix_rfl) (by decide)

end Configurations

end Opcua

end TsnRefSw
