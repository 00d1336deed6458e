import Mathlib.Data.List.Nodup
import Mathlib.Data.List.Forall2
import TsnRefSw.Opcua.Setup

/-!
# Which connection a subscriber gets

With AF_XDP a socket is bound to a queue of an interface. A subscriber shares the socket of the
last publisher where both use the same queue, but what it is given is the connection that was
opened last. Both are the same only as long as no subscriber before it opened one of its own.
-/

namespace TsnRefSw

namespace Opcua

section
variable {env : Environment} {sdata : ServerData}

/-! ### The publishers -/

/-- The connections a loop starts from are kept, and the current one is among them. -/
def Setup.Current (r : Setup × ConnId) : Prop := ∀ i ∈ r.2, i < r.1.connections.length

lemma Setup.connection_append {s : Setup} {c : ConnId} {cs : List ConnectionConfig}
    (h : ∀ i ∈ c, i < s.connections.length) {s' : Setup}
    (hs : s'.connections = s.connections ++ cs) : s'.connection c = s.connection c := by
  cases c with
  | none => rfl
  | some i =>
    have hlt := h i rfl
    simp [connection, hs, List.getElem?_append_left hlt]

lemma Setup.connection_length {s : Setup} {c : ConnectionConfig} {cs : List ConnectionConfig}
    (hs : s.connections = cs ++ [c]) : s.connection (some cs.length) = some c := by
  simp [connection, hs]

variable (env) in
/-- Each publisher gets a connection of its own, and the last one's stays the current one. -/
lemma setupPublisher_foldl (pubs : List (PublisherData sdata.useXDP)) (r : Setup × ConnId)
    (hr : Setup.Current r) :
    (pubs.foldl (setupPublisher sdata) r).1.connections =
        r.1.connections ++ pubs.map (pubConnectionConfig sdata) ∧
      (pubs.foldl (setupPublisher sdata) r).1.readers = r.1.readers ∧
      Setup.Current (pubs.foldl (setupPublisher sdata) r) ∧
      ∀ p ∈ pubs.getLast?, (pubs.foldl (setupPublisher sdata) r).1.connection
        (pubs.foldl (setupPublisher sdata) r).2 = some (pubConnectionConfig sdata p) := by
  induction pubs generalizing r with
  | nil => exact ⟨by simp, rfl, hr, by simp⟩
  | cons pub pubs ih =>
    have hr' : Setup.Current (setupPublisher sdata r pub) := by
      rintro i ⟨⟩
      simp [setupPublisher, addPubSubConnection, Setup.addConnection, createPublisher]
    obtain ⟨hconns, hreaders, hcurrent, hlast⟩ := ih _ hr'
    refine ⟨?_, hreaders, hcurrent, ?_⟩
    · rw [List.foldl_cons, hconns]
      simp [setupPublisher, addPubSubConnection, Setup.addConnection, createPublisher]
    · cases pubs with
      | nil =>
        rintro p ⟨⟩
        exact Setup.connection_length rfl
      | cons q qs =>
        rw [List.getLast?_cons_cons]
        exact hlast

/-! ### The subscribers -/

/-- The binding a subscriber needs. -/
def needs (sub : SubscriberData sdata.useXDP) : String × Int :=
  (sdata.subInterface, sub.xdpQueue.1)

/-- The reader is attached to a connection with the binding its subscriber needs. -/
def Attached (s : Setup) (sub : SubscriberData sdata.useXDP) (reader : Reader) : Prop :=
  (s.connection reader.connection).map ConnectionConfig.binding = some (needs sub)

/-- The binding of the connection a subscriber is given, `current` being that of the current
connection before. -/
def given (pub : Option (PublisherData sdata.useXDP)) (current : Option (String × Int))
    (sub : SubscriberData sdata.useXDP) : Option (String × Int) :=
  if Shares sdata pub sub then current else some (needs sub)

/-- Every subscriber is given the binding it needs. -/
def Follows (pub : Option (PublisherData sdata.useXDP)) :
    Option (String × Int) → List (SubscriberData sdata.useXDP) → Prop
  | _, [] => True
  | current, sub :: subs =>
    given pub current sub = some (needs sub) ∧ Follows pub (given pub current sub) subs

section
variable (hx : sdata.useXDP = true)
include hx

lemma binding_pubConnectionConfig (p : PublisherData sdata.useXDP) :
    (pubConnectionConfig sdata p).binding = (sdata.pubInterface, p.xdpQueue.1) := by
  simp [pubConnectionConfig, ConnectionConfig.binding, hx]

lemma binding_subConnectionConfig (random : UInt32) (sub : SubscriberData sdata.useXDP) :
    (subConnectionConfig sdata random sub).binding = needs sub := by
  simp [subConnectionConfig, ConnectionConfig.binding, needs, hx]

variable (env) in
/-- What the setup of one subscriber adds: a connection unless it shares, and a reader. -/
lemma setupSubscriber_spec (pub : Option (PublisherData sdata.useXDP)) (r : Setup × ConnId)
    (sub : SubscriberData sdata.useXDP) (hr : Setup.Current r) :
    ∃ cs, (setupSubscriber env sdata pub r sub).1.connections = r.1.connections ++ cs ∧
      cs.map ConnectionConfig.binding = (if Shares sdata pub sub then [] else [needs sub]) ∧
      (setupSubscriber env sdata pub r sub).1.readers =
        r.1.readers ++ [addDataSetReader sub (setupSubscriber env sdata pub r sub).2] ∧
      Setup.Current (setupSubscriber env sdata pub r sub) ∧
      ((setupSubscriber env sdata pub r sub).1.connection
        (setupSubscriber env sdata pub r sub).2).map ConnectionConfig.binding =
        given pub ((r.1.connection r.2).map ConnectionConfig.binding) sub := by
  obtain ⟨hs, he⟩ | ⟨hs, s, hconns, hreaders, -, he⟩ :=
    setupSubscriber_cases env pub r sub
  · rw [he, given, if_pos hs, if_pos hs]
    exact ⟨[], by simp [createSubscriber], rfl, rfl, hr, rfl⟩
  · have hnew : (createSubscriber (addSubConnection env sdata s sub).1 sub
        (some r.1.connections.length)).connections = r.1.connections ++ [_] :=
      congrArg (· ++ [_]) hconns
    rw [he, given, if_neg hs, if_neg hs]
    refine ⟨[_], hnew, ?_, ?_, ?_, ?_⟩
    · rw [List.map_singleton, binding_subConnectionConfig hx]
    · exact congrArg (· ++ [_]) hreaders
    · rintro i ⟨⟩
      rw [hnew]
      simp
    · rw [Setup.connection_length hnew, Option.map_some, binding_subConnectionConfig hx]

variable (env) in
/-- What the loop over the subscribers adds: a connection for each that does not share, and for
every one a reader. -/
lemma setupSubscriber_foldl (pub : Option (PublisherData sdata.useXDP))
    (subs : List (SubscriberData sdata.useXDP)) (r : Setup × ConnId) (hr : Setup.Current r) :
    ∃ cs rs, (subs.foldl (setupSubscriber env sdata pub) r).1.connections =
        r.1.connections ++ cs ∧
      cs.map ConnectionConfig.binding = (subs.filter (¬ Shares sdata pub ·)).map needs ∧
      (subs.foldl (setupSubscriber env sdata pub) r).1.readers = r.1.readers ++ rs ∧
      (List.Forall₂ (Attached (subs.foldl (setupSubscriber env sdata pub) r).1) subs rs ↔
        Follows pub ((r.1.connection r.2).map ConnectionConfig.binding) subs) := by
  induction subs generalizing r with
  | nil => exact ⟨[], [], by simp, rfl, by simp, by simp [Follows]⟩
  | cons sub subs ih =>
    obtain ⟨c, hc, hcbind, hcreader, hr', hgiven⟩ :=
      setupSubscriber_spec env hx pub r sub hr
    obtain ⟨cs, rs, hcs, hbind, hrs, hiff⟩ := ih _ hr'
    rw [List.foldl_cons]
    refine ⟨c ++ cs, addDataSetReader sub (setupSubscriber env sdata pub r sub).2 :: rs,
      ?_, ?_, ?_, ?_⟩
    · rw [hcs, hc, List.append_assoc]
    · rw [List.map_append, hcbind, hbind, List.filter_cons]
      split_ifs with hs <;> simp_all
    · rw [hrs, hcreader, List.append_assoc, List.singleton_append]
    · rw [List.forall₂_cons, hiff, Follows, ← hgiven, Attached, addDataSetReader_connection,
        Setup.connection_append hr' hcs]

end

/-! ### Which configurations work -/

lemma Shares.of_eq {pub : Option (PublisherData sdata.useXDP)}
    {sub sub' : SubscriberData sdata.useXDP} (h : Shares sdata pub sub)
    (hq : sub'.xdpQueue.1 = sub.xdpQueue.1) : Shares sdata pub sub' := by
  obtain ⟨p, hp, hx, hqueue, hif⟩ := h
  exact ⟨p, hp, hx, hq.trans hqueue, hif⟩

/-- Behind a subscriber with a connection of its own none may share. -/
lemma follows_of_not_shares {pub : Option (PublisherData sdata.useXDP)}
    {owner : SubscriberData sdata.useXDP} (ho : ¬ Shares sdata pub owner)
    (subs : List (SubscriberData sdata.useXDP)) :
    Follows pub (some (needs owner)) subs ↔ ∀ t ∈ subs, ¬ Shares sdata pub t := by
  induction subs generalizing owner with
  | nil => simp [Follows]
  | cons sub subs ih =>
    rw [Follows, given]
    split_ifs with hs
    · constructor
      · rintro ⟨hneeds, -⟩
        refine absurd (hs.of_eq ?_) ho
        exact (Prod.mk.inj (Option.some.inj hneeds)).2
      · intro h
        exact absurd hs (h sub (List.mem_cons_self ..))
    · rw [ih hs, List.forall_mem_cons]
      exact (and_iff_right rfl).trans (and_iff_right hs).symm

/-- The subscribers that share come before those that do not. -/
lemma follows_iff {pub : Option (PublisherData sdata.useXDP)} {current : Option (String × Int)}
    (subs : List (SubscriberData sdata.useXDP))
    (hcurrent : ∀ t, Shares sdata pub t → current = some (needs t)) :
    Follows pub current subs ↔
      subs.Pairwise fun s t => Shares sdata pub t → Shares sdata pub s := by
  induction subs with
  | nil => simp [Follows]
  | cons sub subs ih =>
    rw [Follows, given, List.pairwise_cons]
    split_ifs with hs
    · rw [ih]
      exact and_congr (iff_of_true (hcurrent sub hs) fun _ _ _ => hs) Iff.rfl
    · rw [follows_of_not_shares hs, and_iff_right rfl]
      constructor
      · intro h
        exact ⟨fun t ht hst => absurd hst (h t ht),
          List.pairwise_of_forall_mem_list fun s _ t ht hst => absurd hst (h t ht)⟩
      · rintro ⟨h, -⟩ t ht hst
        exact hs (h t ht hst)

lemma nodup_pair_iff {α β : Type*} (a : α) (f : β → Int) (l : List β) :
    (l.map fun x => (a, f x)).Nodup ↔ (l.map f).Nodup := by
  have hinj : Function.Injective fun n : Int => (a, n) := fun _ _ h => (Prod.mk.inj h).2
  rw [← List.nodup_map_iff hinj, List.map_map]
  rfl

variable (sdata)

/-- The subscribers that get a connection of their own. -/
def owners : List (SubscriberData sdata.useXDP) :=
  sdata.subData.filter (¬ Shares sdata sdata.pubData.getLast? ·)

/-- The configurations for which the setup works. -/
structure Separated : Prop where
  /-- No two publishers use the same queue. -/
  publishers : (sdata.pubData.map (·.xdpQueue.1)).Nodup
  /-- No two subscribers that do not use the last publisher's queue use the same one. -/
  subscribers : ((owners sdata).map (·.xdpQueue.1)).Nodup
  /-- On one interface these subscribers use none of the publishers' queues. -/
  apart : sdata.pubInterface = sdata.subInterface →
    ∀ p ∈ sdata.pubData, ∀ s ∈ owners sdata, p.xdpQueue.1 ≠ s.xdpQueue.1
  /-- The subscribers on the last publisher's queue are listed first. -/
  order : sdata.subData.Pairwise fun s t =>
    Shares sdata sdata.pubData.getLast? t → Shares sdata sdata.pubData.getLast? s

/-- Every subscriber's reader group is attached to a connection bound to the subscriber
interface and the subscriber's queue, and no two connections are bound to the same. -/
structure Assigned (s : Setup) : Prop where
  attached : List.Forall₂ (Attached s) sdata.subData s.readers
  distinct : (s.connections.map ConnectionConfig.binding).Nodup

/-- The bindings of all connections, in the order in which they are opened. -/
lemma bindings_setupOpcuaServer (env : Environment) (hx : sdata.useXDP = true) :
    (setupOpcuaServer env sdata).connections.map ConnectionConfig.binding =
      sdata.pubData.map (fun p => (sdata.pubInterface, p.xdpQueue.1)) ++
        (owners sdata).map needs := by
  obtain ⟨hconns, -, hcurrent, -⟩ := setupPublisher_foldl
    sdata.pubData (newServer sdata, none) nofun
  obtain ⟨cs, rs, hcs, hbind, -, -⟩ := setupSubscriber_foldl env hx
    sdata.pubData.getLast? sdata.subData _ hcurrent
  have hpubs : sdata.pubData.map (ConnectionConfig.binding ∘ pubConnectionConfig sdata) = _ :=
    List.map_congr_left fun p _ => binding_pubConnectionConfig hx p
  rw [setupOpcuaServer, hcs, hconns, List.map_append, List.map_append, List.map_map, hbind, hpubs]
  rfl

lemma attached_iff (env : Environment) (hx : sdata.useXDP = true) :
    List.Forall₂ (Attached (setupOpcuaServer env sdata)) sdata.subData
        (setupOpcuaServer env sdata).readers ↔
      sdata.subData.Pairwise fun s t =>
        Shares sdata sdata.pubData.getLast? t → Shares sdata sdata.pubData.getLast? s := by
  obtain ⟨-, hreaders, hcurrent, hlast⟩ := setupPublisher_foldl
    sdata.pubData (newServer sdata, none) nofun
  obtain ⟨cs, rs, -, -, hrs, hiff⟩ := setupSubscriber_foldl env hx
    sdata.pubData.getLast? sdata.subData _ hcurrent
  rw [follows_iff] at hiff
  · rw [setupOpcuaServer, hrs, hreaders]
    exact hiff
  · rintro t ⟨p, hp, -, hq, hif⟩
    rw [hlast p hp, Option.map_some, binding_pubConnectionConfig hx, needs, hq, hif]

/-- The setup assigns the connections as it should if and only if the queues are distinct and
the subscribers that share the last publisher's queue come first. -/
theorem setupOpcuaServer_assigned_iff (env : Environment) (hx : sdata.useXDP = true) :
    Assigned sdata (setupOpcuaServer env sdata) ↔ Separated sdata := by
  have hdistinct : ((setupOpcuaServer env sdata).connections.map
      ConnectionConfig.binding).Nodup ↔ (sdata.pubData.map (·.xdpQueue.1)).Nodup ∧
        ((owners sdata).map (·.xdpQueue.1)).Nodup ∧
        (sdata.pubInterface = sdata.subInterface →
          ∀ p ∈ sdata.pubData, ∀ s ∈ owners sdata, p.xdpQueue.1 ≠ s.xdpQueue.1) := by
    rw [bindings_setupOpcuaServer sdata env hx, List.nodup_append, nodup_pair_iff]
    refine and_congr_right fun _ => and_congr (nodup_pair_iff _ _ _) ?_
    simp only [List.forall_mem_map, needs, ne_eq, Prod.mk.injEq, not_and]
    exact ⟨fun h hif p hp s hs => h p hp s hs hif, fun h p hp s hs hif => h hif p hp s hs⟩
  constructor
  · rintro ⟨hatt, hdist⟩
    obtain ⟨hpubs, hsubs, hapart⟩ := hdistinct.mp hdist
    exact ⟨hpubs, hsubs, hapart, (attached_iff sdata env hx).mp hatt⟩
  · rintro ⟨hpubs, hsubs, hapart, horder⟩
    exact ⟨(attached_iff sdata env hx).mpr horder, hdistinct.mpr ⟨hpubs, hsubs, hapart⟩⟩

end

/-- Two publishers, two subscribers that share the queue of the second, and one on a queue of its
own. -/
theorem setupOpcuaServer_assigned_iff_shared :
    ∃ sdata, parseJson (fun _ => true)
        (.opcuaServer true 1000000 [.publisher 1 2234 3 false, .publisher 2 2235 3 false]
          [.subscriber 2 2236 false, .subscriber 2 2237 false, .subscriber 3 2238 false]) =
          .ok sdata ∧
      ∀ env, Assigned sdata (setupOpcuaServer env sdata) :=
  ⟨_, rfl, fun env => (setupOpcuaServer_assigned_iff _ env rfl).mpr
    ⟨by decide, by decide, by decide, by decide⟩⟩

/-- The second subscriber shares the socket of the publisher, and is given the one that was
opened for the first. -/
theorem not_setupOpcuaServer_assigned :
    ¬ ∀ (env : Environment) (fopen : String → Bool) (json : Json) (sdata : ServerData),
      parseJson fopen json = .ok sdata → sdata.useXDP = true →
      Assigned sdata (setupOpcuaServer env sdata) := by
  intro h
  have haccepted : ∃ sdata, parseJson (fun _ => true)
        (.opcuaServer true 1000000 [.publisher 1 2234 3 false]
          [.subscriber 2 2235 false, .subscriber 1 2236 false]) = .ok sdata ∧
      sdata.useXDP = true ∧ ¬ sdata.subData.Pairwise fun s t =>
        Shares sdata sdata.pubData.getLast? t → Shares sdata sdata.pubData.getLast? s :=
    ⟨_, rfl, rfl, by decide⟩
  obtain ⟨sdata, hparse, hx, horder⟩ := haccepted
  have hassigned := h ⟨fun _ => 0⟩ _ _ sdata hparse hx
  exact horder ((attached_iff sdata _ hx).mp hassigned.attached)

end Opcua

end TsnRefSw
