import TsnRefSw.Opcua.Resources.Owned

/-!
# What the parser acquires is reachable

Wherever `parseJson()` returns or goes to the label `error`, all resources are reachable. A string
or a file is assigned to a field that was still `NULL`, so that no pointer is lost.
-/

namespace TsnRefSw

open Core

namespace Opcua

namespace Resources

open Prog Memory

/-- Where the parser goes to the label `error`, `free_resources()` releases everything. -/
def Releasable (e : ParseError) (m : Memory) : Prop :=
  ∀ message, e = .failed message → Ledger.Account m.freeResources.log []

lemma Memory.Holding.releasable {m : Memory} (h : Holding [] m) (e : ParseError) :
    Releasable e m := fun _ _ => h.account_freeResources

/-- Where everything is reachable, any field may be rejected. -/
lemma triple_lift {α β : Type} {P : Memory → Prop} {e : Except ParseError α} {f : α → Parser β}
    {Q : β → Memory → Prop}
    (hf : ∀ a, Triple (fun m => Holding [] m ∧ P m) (f a) Q Releasable) :
    Triple (fun m => Holding [] m ∧ P m) (lift e >>= f) Q Releasable :=
  .lift_bind (fun _ x _ h => h.1.releasable x) hf

/-! ### Strings -/

/-- The copy of a string is assigned to a field that is free. -/
lemma triple_getString {P Q : Memory → Prop} {set : Nat → Memory → Memory}
    (hP : ∀ m, P m → P m.malloc.2)
    (hset : ∀ p m, Holding [.memory p] m → P m → Holding [] (set p m) ∧ Q (set p m))
    (json : Json) (key : String) :
    Triple (fun m => Holding [] m ∧ P m) (getString set json key)
      (fun _ m => Holding [] m ∧ Q m) Releasable := by
  unfold getString
  refine triple_lift fun s => ?_
  refine .bind (Q := fun p m => Holding [.memory p] m ∧ P m) (.act fun m h => ?_) fun p => ?_
  · exact ⟨h.1.malloc, hP m h.2⟩
  refine .bind (Q := fun _ m => Holding [] m ∧ Q m) (.update fun m h => ?_) fun _ => ?_
  · exact hset p m h.1 h.2
  · exact .pure fun m h => h

/-! ### The publishers -/

/-- The array of the publishers before round `i`. -/
def PublishersAt (n i : Nat) (m : Memory) : Prop := Filling ⟨none⟩ n i (· = ⟨none⟩) m.publishers

/-- The array of the subscribers, where the entry of round `j` is as `p` says. -/
def SubscribersAt (n j : Nat) (p : SubscriberEntry → Prop) (m : Memory) : Prop :=
  Filling ⟨none, none, none⟩ n j p m.subscribers

section
variable {n n' i j : Nat} {useXDP : Bool}

lemma setPublisher_url (hi : i < n) {R : List SubscriberEntry → Prop} {p : Nat} {m : Memory}
    (h : Holding [.memory p] m) (hm : PublishersAt n i m ∧ R m.subscribers) :
    Holding [] (m.setPublisher i fun e => { e with url := some p }) ∧
      PublishersAt n (i + 1) (m.setPublisher i fun e => { e with url := some p }) ∧
      R (m.setPublisher i fun e => { e with url := some p }).subscribers := by
  obtain ⟨e, he, rfl⟩ := hm.1.exists_here hi
  have hperm : (PublisherEntry.owned ⟨none⟩ ++ [Resource.memory p]).Perm
      (PublisherEntry.owned ⟨some p⟩ ++ []) := .refl _
  obtain ⟨hholding, hpubs, hsubs⟩ :=
    h.setPublisher (f := fun e => { e with url := some p }) he hperm
  refine ⟨hholding, ?_, hsubs ▸ hm.2⟩
  unfold PublishersAt
  rw [hpubs]
  exact (hm.1.set (q := fun _ => True) trivial).next

lemma triple_parsePublisher (hi : i < n) (R : List SubscriberEntry → Prop) (json : Json) :
    Triple (fun m => Holding [] m ∧ PublishersAt n i m ∧ R m.subscribers)
      (parsePublisher useXDP i json)
      (fun _ m => Holding [] m ∧ PublishersAt n (i + 1) m ∧ R m.subscribers) Releasable := by
  unfold parsePublisher
  iterate 9 refine triple_lift fun _ => ?_
  apply Triple.bind
  · exact triple_getString (Q := fun m => PublishersAt n (i + 1) m ∧ R m.subscribers)
      (fun m h => h) (fun p m => setPublisher_url hi) json "url"
  · intro url
    iterate 9 refine triple_lift fun _ => ?_
    exact .pure fun m h => h

lemma triple_parsePublishers (jsons : List Json) (hn : i + jsons.length = n)
    (R : List SubscriberEntry → Prop) :
    Triple (fun m => Holding [] m ∧ PublishersAt n i m ∧ R m.subscribers)
      (parsePublishers useXDP i jsons) (fun _ m => Holding [] m ∧ R m.subscribers)
      Releasable := by
  induction jsons generalizing i with
  | nil => exact .pure fun m h => ⟨h.1, h.2.2⟩
  | cons json jsons ih =>
    rw [List.length_cons] at hn
    apply Triple.bind (triple_parsePublisher (by omega) R json)
    intro pdata
    apply Triple.bind (ih (by omega))
    intro rest
    exact .pure fun m h => h

/-! ### The subscribers -/

lemma setSubscriber_at (hj : j < n) {p q : SubscriberEntry → Prop} {r : Resource} {m : Memory}
    (h : Holding [r] m) (hm : SubscribersAt n j p m) {f : SubscriberEntry → SubscriberEntry}
    (hf : ∀ e, p e → (e.owned ++ [r]).Perm ((f e).owned ++ []) ∧ q (f e)) :
    Holding [] (m.setSubscriber j f) ∧ SubscribersAt n j q (m.setSubscriber j f) := by
  obtain ⟨e, he, hp⟩ := hm.exists_here hj
  obtain ⟨hperm, hq⟩ := hf e hp
  obtain ⟨hholding, hsubs⟩ := h.setSubscriber he hperm
  refine ⟨hholding, ?_⟩
  unfold SubscribersAt
  rw [hsubs]
  exact hm.set hq

lemma triple_openOutput (hj : j < n) (fopen : String → Bool) (name : String) :
    Triple (fun m => Holding [] m ∧ SubscribersAt n j (·.fpSubscriberOutput = none) m)
      (openOutput fopen j name) (fun _ m => Holding [] m ∧ SubscribersAt n j (fun _ => True) m)
      Releasable := by
  unfold openOutput
  split_ifs with hopen
  · refine .bind (Q := fun p m => Holding [.file p] m ∧
      SubscribersAt n j (·.fpSubscriberOutput = none) m) (.act fun m h => ?_) fun p => ?_
    · exact ⟨h.1.fopen, h.2⟩
    · refine .update fun m h => setSubscriber_at hj h.1 h.2 fun e he => ⟨?_, trivial⟩
      simp [SubscriberEntry.owned, he, Pointer.file]
  · exact .stop fun m h => h.1.releasable _

lemma triple_parseSubscriber (hj : j < n) (fopen : String → Bool) (json : Json) :
    Triple (fun m => Holding [] m ∧ SubscribersAt n j (· = ⟨none, none, none⟩) m)
      (parseSubscriber fopen useXDP j json)
      (fun _ m => Holding [] m ∧ SubscribersAt n (j + 1) (· = ⟨none, none, none⟩) m)
      Releasable := by
  unfold parseSubscriber
  iterate 3 refine triple_lift fun _ => ?_
  refine .bind (triple_getString (Q := SubscribersAt n j fun e =>
    e.subscriberOutputFileName = none ∧ e.fpSubscriberOutput = none) (fun m h => h)
    (fun p m h hm => setSubscriber_at hj h hm fun e he => ?_) json "url") fun url => ?_
  · subst he
    exact ⟨.refl _, rfl, rfl⟩
  iterate 11 refine triple_lift fun _ => ?_
  refine .bind (triple_getString (Q := SubscribersAt n j (·.fpSubscriberOutput = none))
    (fun m h => h) (fun p m h hm => setSubscriber_at hj h hm fun e he => ?_)
    json "subscriber_output_file") fun name => ?_
  · obtain ⟨hname, hfile⟩ := he
    simp [SubscriberEntry.owned, hname, hfile, Pointer.memory, Pointer.file]
  apply Triple.bind (triple_openOutput hj fopen name)
  intro _
  exact .pure fun m h => ⟨h.1, h.2.next⟩

lemma triple_parseSubscribers (fopen : String → Bool) (jsons : List Json)
    (hn : j + jsons.length = n) :
    Triple (fun m => Holding [] m ∧ SubscribersAt n j (· = ⟨none, none, none⟩) m)
      (parseSubscribers fopen useXDP j jsons)
      (fun subs m => Holding [] m ∧ m.subscribers.length = j + subs.length) Releasable := by
  induction jsons generalizing j with
  | nil => exact .pure fun m h => ⟨h.1, h.2.length.trans hn.symm⟩
  | cons json jsons ih =>
    rw [List.length_cons] at hn
    apply Triple.bind (triple_parseSubscriber (by omega) fopen json)
    intro sub
    apply Triple.bind (ih (by omega))
    intro rest
    refine .pure fun m h => ⟨h.1, ?_⟩
    rw [h.2, List.length_cons]
    omega

end

/-! ### The arrays -/

/-- Before the two arrays are allocated. -/
structure Unallocated (m : Memory) : Prop where
  pubData : m.pubData = none
  publishers : m.publishers = []
  subData : m.subData = none
  subscribers : m.subscribers = []

lemma Json.getValue_ne_failed {json : Json} {key message : String} :
    json.getValue key ≠ .error (.failed message) := by
  unfold Json.getValue
  split
  · simp
  · simp

lemma Json.children_ne_failed {json : Json} {message : String} :
    json.children ≠ .error (.failed message) := by
  unfold Json.children
  split
  · simp
  · simp

/-- The two arrays are assigned when both are there. -/
lemma holding_allocated {m : Memory} {p p' : Nat}
    (h : Holding [.memory p', .memory p] m) (hm : Unallocated m) (n n' : Nat) :
    Holding [] { m with
      pubCount := n
      subCount := n'
      pubData := some p
      publishers := List.replicate n ⟨none⟩
      subData := some p'
      subscribers := List.replicate n' ⟨none, none, none⟩ } := by
  refine h.assign ⟨rfl, rfl, rfl⟩ List.length_replicate.symm List.length_replicate.symm
    fun r => ?_
  simp only [owned, hm.pubData, hm.publishers, hm.subData, hm.subscribers,
    flatMap_replicate_eq_nil (f := PublisherEntry.owned) (a := ⟨none⟩) rfl,
    flatMap_replicate_eq_nil (f := SubscriberEntry.owned) (a := ⟨none, none, none⟩) rfl,
    List.flatMap_nil, Pointer.memory, Option.map_none, Option.map_some, Option.toList,
    List.count_append, List.count_cons, List.count_nil]
  omega

lemma triple_allocate (alloc : Allocator) (json : Json) :
    Triple (fun m => Holding [] m ∧ Unallocated m) (allocate alloc json)
      (fun jsons m => Holding [] m ∧ PublishersAt jsons.1.length 0 m ∧
        SubscribersAt jsons.2.length 0 (· = ⟨none, none, none⟩) m) Releasable := by
  unfold allocate
  refine triple_lift fun _ => ?_
  refine triple_lift fun pubs => ?_
  by_cases hpub : alloc.pubData
  · simp only [hpub, not_true_eq_false, if_false]
    refine .bind (Q := fun p m => Holding [.memory p] m ∧ Unallocated m) (.act fun m h => ?_)
      fun pubData => ?_
    · exact ⟨h.1.malloc, ⟨h.2.pubData, h.2.publishers, h.2.subData, h.2.subscribers⟩⟩
    -- an entry `subscribers` that is missing ends the process, with the first array in hand
    refine .lift_bind (fun m e he _ message hmessage => ?_) fun _ => ?_
    · exact absurd (hmessage ▸ he) Json.getValue_ne_failed
    refine .lift_bind (fun m e he _ message hmessage => ?_) fun subs => ?_
    · exact absurd (hmessage ▸ he) Json.children_ne_failed
    by_cases hsub : alloc.subData
    · simp only [hsub, not_true_eq_false, if_false]
      refine .bind (Q := fun p m => Holding [.memory p, .memory pubData] m ∧ Unallocated m)
        (.act fun m h => ?_) fun subData => ?_
      · exact ⟨h.1.malloc, ⟨h.2.pubData, h.2.publishers, h.2.subData, h.2.subscribers⟩⟩
      apply Triple.bind (Q := fun _ m => Holding [] m ∧ PublishersAt pubs.length 0 m ∧
        SubscribersAt subs.length 0 (· = ⟨none, none, none⟩) m)
      · refine .update fun m h => ⟨holding_allocated h.1 h.2 _ _, ?_, ?_⟩
        · exact .replicate _ _
        · exact .replicate _ _
      · intro _
        exact .pure fun m h => h
    · rw [if_pos hsub]
      refine .bind (Q := fun _ m => Holding [] m) (.update fun m h => h.1.free) fun _ => ?_
      exact .stop_bind fun m h => h.releasable _
  · rw [if_pos hpub]
    exact .stop_bind fun m h => h.1.releasable _

/-! ### The server -/

/-- After `s` was allocated, with every other pointer `NULL`. -/
structure Untouched (m : Memory) : Prop extends Unallocated m where
  pubInterface : m.pubInterface = none
  subInterface : m.subInterface = none

lemma holding_server (s : Nat) (h : Memory.initial.malloc.1 = s) :
    Holding [] { Memory.initial.malloc.2 with server := some s } := by
  subst h
  refine ⟨(Ledger.Account.nil.acquire (by simp)).perm (.refl _), fun n hn => ?_, ⟨_, rfl⟩, rfl, rfl⟩
  have hne : n ≠ 0 := Nat.ne_of_gt hn
  simp [Memory.initial, malloc, Memory.record, hne]

lemma setPubInterface {p : Nat} {m : Memory} (h : Holding [.memory p] m) (hm : Untouched m) :
    Holding [] { m with pubInterface := some p } := by
  refine h.assign ⟨rfl, rfl, rfl⟩ h.pubCount h.subCount fun r => ?_
  simp only [owned, hm.pubInterface, Pointer.memory, Option.map_none, Option.map_some,
    Option.toList, List.count_append, List.count_nil]
  omega

lemma setSubInterface {p : Nat} {m : Memory} (h : Holding [.memory p] m)
    (hm : m.subInterface = none) : Holding [] { m with subInterface := some p } := by
  refine h.assign ⟨rfl, rfl, rfl⟩ h.pubCount h.subCount fun r => ?_
  simp only [owned, hm, Pointer.memory, Option.map_none, Option.map_some,
    Option.toList, List.count_append, List.count_nil]
  omega

theorem triple_parseServer (alloc : Allocator) (fopen : String → Bool) (json : Json) :
    Triple (· = .initial) (parseServer alloc fopen json)
      (fun sdata m => Holding [] m ∧ m.subscribers.length = sdata.subData.length) Releasable := by
  unfold parseServer
  by_cases hserver : alloc.server
  · simp only [hserver, not_true_eq_false, if_false]
    refine .bind (Q := fun s m => Memory.initial.malloc.1 = s ∧ m = Memory.initial.malloc.2)
      (.act ?_) fun s => ?_
    · rintro m rfl
      exact ⟨rfl, rfl⟩
    refine .bind (Q := fun _ m => Holding [] m ∧ Untouched m) (.update ?_) fun _ => ?_
    · rintro m ⟨hs, rfl⟩
      exact ⟨holding_server s hs, ⟨⟨rfl, rfl, rfl, rfl⟩, rfl, rfl⟩⟩
    refine .bind (triple_getString (Q := fun m => Unallocated m ∧ m.subInterface = none)
      (fun m h => ⟨⟨h.pubData, h.publishers, h.subData, h.subscribers⟩, h.pubInterface,
        h.subInterface⟩) (fun p m h hm => ⟨setPubInterface h hm, ?_⟩)
      json "publisher_interface") fun pubInterface => ?_
    · exact ⟨⟨hm.pubData, hm.publishers, hm.subData, hm.subscribers⟩, hm.subInterface⟩
    refine .bind (triple_getString (Q := Unallocated)
      (fun m h => ⟨⟨h.1.pubData, h.1.publishers, h.1.subData, h.1.subscribers⟩, h.2⟩)
      (fun p m h hm => ⟨setSubInterface h hm.2, ?_⟩) json "subscriber_interface")
      fun subInterface => ?_
    · exact ⟨hm.1.pubData, hm.1.publishers, hm.1.subData, hm.1.subscribers⟩
    iterate 9 refine triple_lift fun _ => ?_
    apply Triple.bind (triple_allocate alloc json)
    rintro ⟨pubs, subs⟩
    apply Triple.bind (triple_parsePublishers pubs (Nat.zero_add _)
      (Filling ⟨none, none, none⟩ subs.length 0 (· = ⟨none, none, none⟩)))
    intro pubData
    apply Triple.bind (triple_parseSubscribers fopen subs (Nat.zero_add _))
    intro subData
    exact .pure fun m h => ⟨h.1, h.2.trans (Nat.zero_add _)⟩
  · rw [if_pos hserver]
    refine .stop_bind ?_
    rintro m rfl message -
    exact .nil

end Resources

end Opcua

end TsnRefSw
