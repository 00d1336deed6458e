import TsnRefSw.Core.Ledger
import TsnRefSw.Core.Prog
import TsnRefSw.Opcua.Configuration
import TsnRefSw.Opcua.Publishers
import TsnRefSw.Opcua.Shapes

/-!
# What the parser acquires

`parseJson()` copies strings, allocates two arrays and opens the output files of the subscribers.
Whatever it has acquired is reachable from the `ServerData` when it is left by `goto error`, and
`free_resources()` releases what it finds there. The callbacks of the subscribers write to an
output file and close it after the last sample.

The functions here have the names of the source and, but for the resources, do what the ones of
`Configuration` and `DataSource` do.
-/

namespace TsnRefSw

open Core

namespace Opcua

namespace Resources

/-- What `calloc()` and `strndup()` return, and what `fopen()` does. -/
inductive Resource where
  | memory (n : Nat)
  | file (n : Nat)
deriving DecidableEq, Repr

/-- A pointer to memory or to a file, or `NULL`. -/
abbrev Pointer := Option Nat

/-- The pointers of `struct PublisherData`. -/
structure PublisherEntry where
  url : Pointer

/-- The pointers of `struct SubscriberData`. -/
structure SubscriberEntry where
  url : Pointer
  subscriberOutputFileName : Pointer
  fpSubscriberOutput : Pointer

/-- The pointers of `struct ServerData` and what happened to resources so far. -/
structure Memory where
  log : List (LedgerEvent Resource)
  /-- The number of the next resource. -/
  next : Nat
  /-- `s` -/
  server : Pointer
  pubInterface : Pointer
  subInterface : Pointer
  pubCount : Nat
  subCount : Nat
  pubData : Pointer
  /-- The array that `pubData` points to. -/
  publishers : List PublisherEntry
  subData : Pointer
  /-- The array that `subData` points to. -/
  subscribers : List SubscriberEntry

/-- Which calls of `calloc()` find memory; nobody asks whether `strndup()` does. -/
structure Allocator where
  server : Bool
  pubData : Bool
  subData : Bool

namespace Memory

def initial : Memory := ⟨[], 0, none, none, none, 0, 0, none, [], none, []⟩

/-- `r` happens. -/
def record (m : Memory) (es : List (LedgerEvent Resource)) : Memory := { m with log := m.log ++ es }

/-- Memory is handed out. -/
def malloc (m : Memory) : Nat × Memory :=
  (m.next, { m.record [.acquire (.memory m.next)] with next := m.next + 1 })

/-- A file is opened. -/
def fopen (m : Memory) : Nat × Memory :=
  (m.next, { m.record [.acquire (.file m.next)] with next := m.next + 1 })

/-- `if (p) free(p)` -/
def free (m : Memory) (p : Pointer) : Memory :=
  match p with
  | some n => m.record [.release (.memory n)]
  | none   => m

/-- `if (p != NULL) fprintf(p, ...)` -/
def fprintf (m : Memory) (p : Pointer) : Memory :=
  match p with
  | some n => m.record [.use (.file n)]
  | none   => m

/-- `if (p != NULL) { fflush(p); fclose(p); }` -/
def fclose (m : Memory) (p : Pointer) : Memory :=
  match p with
  | some n => m.record [.use (.file n), .release (.file n)]
  | none   => m

/-- An assignment to a field of `pubData[i]`. -/
def setPublisher (m : Memory) (i : Nat) (f : PublisherEntry → PublisherEntry) : Memory :=
  match m.publishers[i]? with
  | some e => { m with publishers := m.publishers.set i (f e) }
  | none   => m.record [.fault]

/-- An assignment to a field of `subData[j]`. -/
def setSubscriber (m : Memory) (j : Nat) (f : SubscriberEntry → SubscriberEntry) : Memory :=
  match m.subscribers[j]? with
  | some e => { m with subscribers := m.subscribers.set j (f e) }
  | none   => m.record [.fault]

end Memory

/-! ### The parser -/

/-- A piece of `parseJson()`. -/
abbrev Parser := Prog Memory ParseError

open Prog

/-- `getString()`, the copy being assigned to a field. -/
def getString (set : Nat → Memory → Memory) (json : Json) (key : String) : Parser String := do
  let s ← lift (json.getString key)
  let p ← act Memory.malloc
  update (set p)
  return s

/-- The body of the loop over the publishers. -/
def parsePublisher (useXDP : Bool) (i : Nat) (pubJson : Json) : Parser (PublisherData useXDP) := do
  let earlyOffsetNs ←
    lift (bounded "Invalid early_offset_ns" _ _ (← lift (pubJson.getInt "early_offset_ns")))
  let publishOffsetNs ←
    lift (bounded "Invalid publish_offset_ns" _ _ (← lift (pubJson.getInt "publish_offset_ns")))
  let publishDelaySec ←
    lift (bounded "Invalid publish_delay_sec" _ _ (← lift (pubJson.getInt "publish_delay_sec")))
  let socketPriority ←
    lift (bounded "Invalid socket_prio" _ _ (← lift (pubJson.getInt "socket_prio")))
  let xdpQueue ← lift (parseXdpQueue pubJson useXDP)
  let url ← getString (fun p m => m.setPublisher i fun e => { e with url := some p }) pubJson "url"
  let id ← lift (bounded "Invalid pub_id" _ _ (← lift (pubJson.getInt "pub_id")))
  let dataSetWriterId ←
    lift (bounded "Invalid dataset_writer_id" _ _ (← lift (pubJson.getInt "dataset_writer_id")))
  let writerGroupId ←
    lift (bounded "Invalid writerGroupId" _ _ (← lift (pubJson.getInt "writer_group_id")))
  let twoWayData ← lift (pubJson.getBool "two_way_data")
  let cpuAffinity ←
    lift (bounded "Invalid iperf_cpu_affinity" _ _ (← lift (pubJson.getInt "iperf_cpu_affinity")))
  return ⟨socketPriority, xdpQueue, earlyOffsetNs, publishOffsetNs, publishDelaySec, url, id,
    dataSetWriterId, writerGroupId, twoWayData, cpuAffinity⟩

/-- `fopen()` of the output file of subscriber `j`; `fopen` says which files can be written. -/
def openOutput (fopen : String → Bool) (j : Nat) (name : String) : Parser Unit := do
  if fopen name then
    let p ← act Memory.fopen
    update fun m => m.setSubscriber j fun e => { e with fpSubscriberOutput := some p }
  else lift (throw (.failed "Error in opening output file"))

/-- The body of the loop over the subscribers. -/
def parseSubscriber (fopen : String → Bool) (useXDP : Bool) (j : Nat) (subJson : Json) :
    Parser (SubscriberData useXDP) := do
  let offsetNs ← lift (bounded "Invalid offset_ns" _ _ (← lift (subJson.getInt "offset_ns")))
  let xdpQueue ← lift (parseXdpQueue subJson useXDP)
  let url ← getString (fun p m => m.setSubscriber j fun e => { e with url := some p }) subJson "url"
  let id ← lift (bounded "Invalid sub_id" _ _ (← lift (subJson.getInt "sub_id")))
  let subscribedPubId ←
    lift (bounded "Invalid subscribed_pub_id" _ _ (← lift (subJson.getInt "subscribed_pub_id")))
  let subscribedDSWriterId ← lift (bounded "Invalid subscribed_dataset_writer_id" _ _
    (← lift (subJson.getInt "subscribed_dataset_writer_id")))
  let subscribedWGId ← lift (bounded "Invalid subscribed_writer_group_id" _ _
    (← lift (subJson.getInt "subscribed_writer_group_id")))
  let twoWayData ← lift (subJson.getBool "two_way_data")
  let cpuAffinity ←
    lift (bounded "Invalid iperf_cpu_affinity" _ _ (← lift (subJson.getInt "iperf_cpu_affinity")))
  let subscriberOutputFileName ← getString
    (fun p m => m.setSubscriber j fun e => { e with subscriberOutputFileName := some p })
    subJson "subscriber_output_file"
  openOutput fopen j subscriberOutputFileName
  return ⟨xdpQueue, offsetNs, url, id, subscribedPubId, subscribedDSWriterId, subscribedWGId,
    subscriberOutputFileName, twoWayData, cpuAffinity⟩

/-- The loop over the publishers, from entry `i` on. -/
def parsePublishers (useXDP : Bool) : Nat → List Json → Parser (List (PublisherData useXDP))
  | _, [] => return []
  | i, json :: jsons => do
    let pdata ← parsePublisher useXDP i json
    let rest ← parsePublishers useXDP (i + 1) jsons
    return pdata :: rest

/-- The loop over the subscribers, from entry `j` on. -/
def parseSubscribers (fopen : String → Bool) (useXDP : Bool) :
    Nat → List Json → Parser (List (SubscriberData useXDP))
  | _, [] => return []
  | j, json :: jsons => do
    let sub ← parseSubscriber fopen useXDP j json
    let rest ← parseSubscribers fopen useXDP (j + 1) jsons
    return sub :: rest

/-- The two arrays are allocated, all zero, and assigned with their lengths. -/
def allocate (alloc : Allocator) (json : Json) : Parser (List Json × List Json) := do
  let pubs ← lift (← lift (json.getValue "publishers")).children
  if ¬ alloc.pubData then lift (throw (.failed "PubData - Out of memory"))
  let pubData ← act Memory.malloc
  let subs ← lift (← lift (json.getValue "subscribers")).children
  if ¬ alloc.subData then
    update (·.free (some pubData))
    lift (throw (.failed "PubData - Out of memory"))
  let subData ← act Memory.malloc
  update fun m => { m with
    pubCount := pubs.length
    subCount := subs.length
    pubData := some pubData
    publishers := List.replicate pubs.length ⟨none⟩
    subData := some subData
    subscribers := List.replicate subs.length ⟨none, none, none⟩ }
  return (pubs, subs)

/-- `parseJson()` up to its `return` or to the label `error`. -/
def parseServer (alloc : Allocator) (fopen : String → Bool) (json : Json) : Parser ServerData := do
  if ¬ alloc.server then lift (throw (.failed "ServerData - Out of memory"))
  let s ← act Memory.malloc
  update fun m => { m with server := some s }
  let pubInterface ←
    getString (fun p m => { m with pubInterface := some p }) json "publisher_interface"
  let subInterface ←
    getString (fun p m => { m with subInterface := some p }) json "subscriber_interface"
  let useXDP ← lift (json.getBool "use_xdp")
  let useXDPZC ← lift (if useXDP then json.getBool "use_xdp_zc" else pure false)
  let useXDPSKB ← lift (if useXDP then json.getBool "use_xdp_skb" else pure false)
  let pollingDurationNs ←
    lift (bounded "Invalid polling_duration_ns" _ _ (← lift (json.getInt "polling_duration_ns")))
  let packetCount ←
    lift (bounded "Invalid packet_count" _ _ (← lift (json.getInt64 "packet_count")))
  let cycleTimeNs ←
    lift (bounded "Invalid cycle_time_ns" _ _ (← lift (json.getInt64 "cycle_time_ns")))
  let (pubs, subs) ← allocate alloc json
  let pubData ← parsePublishers useXDP 0 pubs
  let subData ← parseSubscribers fopen useXDP 0 subs
  return ⟨pubInterface, subInterface, cycleTimeNs, pollingDurationNs, useXDP, useXDPZC, useXDPSKB,
    packetCount, pubData, subData⟩

/-! ### Releasing -/

namespace Memory

/-- The body of the loop over the publishers in `free_resources()`. -/
def freePublisher (m : Memory) (i : Nat) : Memory :=
  match m.publishers[i]? with
  | some e => m.free e.url
  | none   => m.record [.fault]

/-- The body of the loop over the subscribers. -/
def freeSubscriber (m : Memory) (j : Nat) : Memory :=
  match m.subscribers[j]? with
  | some e => ((m.free e.url).free e.subscriberOutputFileName).fclose e.fpSubscriberOutput
  | none   => m.record [.fault]

/-- `free_resources()`. -/
def freeResources (m : Memory) : Memory :=
  match m.server with
  | none   => m
  | some s =>
    let m := (List.range m.pubCount).foldl freePublisher m
    let m := m.free m.pubData
    let m := (List.range m.subCount).foldl freeSubscriber m
    (((m.free m.subData).free m.subInterface).free m.pubInterface).free (some s)

end Memory

/-- How `parseJson()` ends. -/
inductive Outcome where
  | returned (sdata : ServerData)
  /-- It returns `NULL`. -/
  | null
  /-- A key is missing or its value has the wrong type: `exit(EXIT_FAILURE)`. -/
  | exited

/-- `parseJson()`. -/
def parseJson (alloc : Allocator) (fopen : String → Bool) (json : Json) : Outcome × Memory :=
  match (parseServer alloc fopen json).exec .initial with
  | (.ok sdata, m)           => (.returned sdata, m)
  | (.error (.failed _), m)  => (.null, m.freeResources)
  | (.error _, m)            => (.exited, m)

/-! ### The callbacks of the subscribers -/

/-- What the callbacks do with the output file of subscriber `j`: a line is written where a value
was accepted, and the file is closed after the last one. -/
def Memory.output (m : Memory) (j : Nat) (accepted last : Bool) : Memory :=
  match m.subscribers[j]? with
  | some e =>
    let m := if accepted then m.fprintf e.fpSubscriberOutput else m
    if last then
      { m.fclose e.fpSubscriberOutput with
        subscribers := m.subscribers.set j { e with fpSubscriberOutput := none } }
    else m
  | none => m.record [.fault]

/-- `subStoreDataReceived()`. -/
def subStoreDataReceived (packetCount : PacketCount) (j : Nat) (a : Delivery) (m : Memory) :
    Memory :=
  match a.data with
  | none => m
  | some v =>
    if v.arrayLength = noLength ∧ v.data = none then m
    else if v.arrayLength = noLength ∨ 0 < v.arrayLength then
      m.output j true (v.read a.beyond 0 = packetCount.val)
    else m.output j false (999 = packetCount.val)

/-- `subReturnStoreDataReceived()`. -/
def subReturnStoreDataReceived (packetCount : PacketCount) (j : Nat) (a : Delivery) (m : Memory) :
    Memory :=
  match a.data with
  | none => m
  | some v =>
    if v.arrayLength = noLength ∧ v.data = none then m
    else if v.arrayLength = noLength ∨ 0 < v.arrayLength then
      m.output j true (Server.Final packetCount (v.read a.beyond 0))
    else m.output j false (Server.Final packetCount 0)

/-- A call of one of the callbacks, for one of `n` subscribers. -/
structure Call (n : Nat) where
  j : Fin n
  writeFunc : WriteFunc
  delivery : Delivery

def Memory.call (packetCount : PacketCount) {n : Nat} (m : Memory) (c : Call n) : Memory :=
  match c.writeFunc with
  | .subStoreDataReceived       => subStoreDataReceived packetCount c.j c.delivery m
  | .subReturnStoreDataReceived => subReturnStoreDataReceived packetCount c.j c.delivery m

/-! ### The results are those of the parser -/

/-- The errors for which it is the allocator that is to blame. -/
inductive OutOfMemory (alloc : Allocator) : ParseError → Prop where
  | server (h : alloc.server = false) : OutOfMemory alloc (.failed "ServerData - Out of memory")
  | pubData (h : alloc.pubData = false) : OutOfMemory alloc (.failed "PubData - Out of memory")
  | subData (h : alloc.subData = false) : OutOfMemory alloc (.failed "PubData - Out of memory")

section
variable (alloc : Allocator) (fopen : String → Bool) (useXDP : Bool)

lemma computes_getString (set : Nat → Memory → Memory) (json : Json) (key : String) :
    Computes (OutOfMemory alloc) (getString set json key) (json.getString key) := by
  have h : Computes (OutOfMemory alloc) (getString set json key) (json.getString key >>= pure) :=
    .bind (.lift _) fun s => .act_bind fun _ => .act_bind fun _ => .pure s
  rwa [bind_pure] at h

lemma computes_openOutput {α : Type} (j : Nat) (name : String) (a : α) :
    Computes (OutOfMemory alloc) (openOutput fopen j name >>= fun _ => pure a)
      (if fopen name then pure a else throw (.failed "Error in opening output file")) := by
  unfold openOutput
  split_ifs
  · exact fun _ => .inl rfl
  · exact fun _ => .inl rfl

lemma computes_parsePublisher (i : Nat) (json : Json) :
    Computes (OutOfMemory alloc) (parsePublisher useXDP i json)
      (Opcua.parsePublisher useXDP json) := by
  unfold parsePublisher Opcua.parsePublisher
  repeat
    refine Computes.bind ?_ fun _ => ?_
    · first
      | exact .lift _
      | exact computes_getString alloc _ _ _
  exact .pure _

lemma computes_parseSubscriber (j : Nat) (json : Json) :
    Computes (OutOfMemory alloc) (parseSubscriber fopen useXDP j json)
      (Opcua.parseSubscriber fopen useXDP json) := by
  unfold parseSubscriber Opcua.parseSubscriber
  iterate 16
    refine Computes.bind ?_ fun _ => ?_
    · first
      | exact .lift _
      | exact computes_getString alloc _ _ _
  exact computes_openOutput alloc fopen j _ _

lemma computes_parsePublishers (i : Nat) (jsons : List Json) :
    Computes (OutOfMemory alloc) (parsePublishers useXDP i jsons)
      (jsons.mapM (Opcua.parsePublisher useXDP)) := by
  induction jsons generalizing i with
  | nil => exact .pure []
  | cons json jsons ih =>
    rw [List.mapM_cons]
    apply Computes.bind (computes_parsePublisher alloc useXDP i json)
    intro _
    exact .bind (ih (i + 1)) fun _ => .pure _

lemma computes_parseSubscribers (j : Nat) (jsons : List Json) :
    Computes (OutOfMemory alloc) (parseSubscribers fopen useXDP j jsons)
      (jsons.mapM (Opcua.parseSubscriber fopen useXDP)) := by
  induction jsons generalizing j with
  | nil => exact .pure []
  | cons json jsons ih =>
    rw [List.mapM_cons]
    apply Computes.bind (computes_parseSubscriber alloc fopen useXDP j json)
    intro _
    exact .bind (ih (j + 1)) fun _ => .pure _

lemma computes_allocate {α : Type} {f : List Json × List Json → Parser α}
    {g : List Json → List Json → Except ParseError α}
    (h : ∀ pubs subs, Computes (OutOfMemory alloc) (f (pubs, subs)) (g pubs subs)) (json : Json) :
    Computes (OutOfMemory alloc) (allocate alloc json >>= f) (do
      let pubs ← (← json.getValue "publishers").children
      let subs ← (← json.getValue "subscribers").children
      g pubs subs) := by
  unfold allocate
  simp only [bind_assoc]
  refine .bind (.lift _) fun _ => .bind (.lift _) fun pubs => ?_
  by_cases hpub : alloc.pubData
  · simp only [hpub, not_true_eq_false, if_false, bind_assoc]
    refine .act_bind fun _ => .bind (.lift _) fun _ => .bind (.lift _) fun subs => ?_
    by_cases hsub : alloc.subData
    · simp only [hsub, not_true_eq_false, if_false, bind_assoc, pure_bind]
      exact .act_bind fun _ => .act_bind fun _ => h pubs subs
    · rw [if_pos hsub]
      simp only [bind_assoc]
      refine .act_bind fun _ => ?_
      exact .stop_bind (.subData (Bool.eq_false_of_not_eq_true hsub))
  · rw [if_pos hpub]
    simp only [bind_assoc]
    exact .stop_bind (.pubData (Bool.eq_false_of_not_eq_true hpub))

/-- The parser here returns what the one of `Configuration` does, or there is no memory. -/
theorem computes_parseServer (json : Json) :
    Computes (OutOfMemory alloc) (parseServer alloc fopen json) (Opcua.parseJson fopen json) := by
  unfold parseServer Opcua.parseJson
  by_cases hserver : alloc.server
  · simp only [hserver, not_true_eq_false, if_false]
    refine .act_bind fun _ => .act_bind fun _ => .bind (computes_getString alloc _ _ _) fun _ =>
      .bind (computes_getString alloc _ _ _) fun _ => .bind (.lift _) fun useXDP => ?_
    cases useXDP
    all_goals
      simp only [Bool.false_eq_true, if_false, if_true]
      iterate 8 refine .bind (.lift _) fun _ => ?_
      apply computes_allocate
      intro pubs subs
      exact .bind (computes_parsePublishers alloc _ _ _) fun _ =>
        .bind (computes_parseSubscribers alloc _ _ _ _) fun _ => .pure _
  · rw [if_pos hserver]
    exact .stop_bind (.server (Bool.eq_false_of_not_eq_true hserver))

/-- How `parseJson()` ends where there is memory. -/
def Outcome.of : Except ParseError ServerData → Outcome
  | .ok sdata          => .returned sdata
  | .error (.failed _) => .null
  | .error _           => .exited

theorem parseJson_outcome (json : Json) :
    (parseJson ⟨true, true, true⟩ fopen json).1 = .of (Opcua.parseJson fopen json) := by
  have hresult := computes_parseServer ⟨true, true, true⟩ fopen json .initial
  unfold parseJson
  generalize (parseServer ⟨true, true, true⟩ fopen json).exec .initial = o at hresult ⊢
  obtain ⟨e, m⟩ := o
  obtain he | ⟨x, hx, -⟩ := hresult
  · rw [← he]
    cases e with
    | ok sdata => rfl
    | error e => cases e <;> rfl
  · cases hx with
    | server h => cases h
    | pubData h => cases h
    | subData h => cases h

end

/-! ### The files are those of the callbacks -/

section
variable {m : Memory} {j : Nat} {cap : Nat} {s s' : Server cap} {packetCount : PacketCount}

lemma Memory.subscribers_fprintf (m : Memory) (p : Pointer) :
    (m.fprintf p).subscribers = m.subscribers := by
  cases p with
  | none => rfl
  | some n => rfl

lemma Memory.subscribers_output {e : SubscriberEntry} (he : m.subscribers[j]? = some e)
    (accepted last : Bool) : (m.output j accepted last).subscribers =
      if last then m.subscribers.set j { e with fpSubscriberOutput := none }
      else m.subscribers := by
  simp only [Memory.output, he]
  cases accepted with
  | false =>
    cases last with
    | false => rfl
    | true => rfl
  | true =>
    cases last with
    | false => exact subscribers_fprintf m _
    | true => simp [subscribers_fprintf]

/-- `fpSubscriberOutput` of subscriber `j` is not `NULL` exactly if `isOpen` is set. -/
def Memory.Output (m : Memory) (j : Nat) (isOpen : Bool) : Prop :=
  ∃ e, m.subscribers[j]? = some e ∧ e.fpSubscriberOutput.isSome = isOpen

lemma Memory.Output.output {isOpen : Bool} (h : m.Output j isOpen) (accepted last : Bool) :
    (m.output j accepted last).Output j (if last then false else isOpen) := by
  obtain ⟨e, he, rfl⟩ := h
  have hj : j < m.subscribers.length := (List.getElem?_eq_some_iff.mp he).1
  unfold Memory.Output
  rw [subscribers_output he]
  cases last with
  | false => exact ⟨e, he, rfl⟩
  | true => exact ⟨_, List.getElem?_set_self hj, rfl⟩

/-- The callbacks close the file where those of `DataSource` do. -/
theorem output_subStoreDataReceived (h : m.Output j s.fpSubscriberOutput) (a : Delivery) :
    (subStoreDataReceived packetCount j a m).Output j
      (s.subStoreDataReceivedIn packetCount a).fpSubscriberOutput := by
  obtain ⟨data, rxTime, beyond⟩ := a
  have hfinish : ∀ (t : Server cap) (n : UInt64), (t.finish packetCount n).fpSubscriberOutput =
      if n = packetCount.val then false else t.fpSubscriberOutput := by
    intro t n
    unfold Server.finish
    split_ifs
    · rfl
    · rfl
  cases data with
  | none => exact h
  | some v =>
    simp only [subStoreDataReceived, Server.subStoreDataReceivedIn]
    split_ifs
    · exact h
    · rw [hfinish]
      simpa [Server.store, Server.msgsnd, Server.raise]
        using h.output true (v.read beyond 0 = packetCount.val)
    · rw [hfinish]
      simpa using h.output false (999 = packetCount.val)

theorem output_subReturnStoreDataReceived (h : m.Output j s.fpSubscriberOutput) {a : Delivery}
    (hs : s.subReturnStoreDataReceived packetCount a.data a.rxTime = some s') :
    (subReturnStoreDataReceived packetCount j a m).Output j s'.fpSubscriberOutput := by
  obtain ⟨data, rxTime, beyond⟩ := a
  cases data with
  | none =>
    cases hs
    exact h
  | some v =>
    simp only [Server.subReturnStoreDataReceived] at hs
    simp only [subReturnStoreDataReceived]
    split_ifs at hs ⊢ with hempty haccepted hfinal
    · cases hs
      exact h
    · unfold Server.returnReceived at hs
      split at hs
      · next seqA txPubA rxSubB seqB txPubB d hd =>
        have hread : v.read beyond 0 = seqA := by simp [Variant.read, hd]
        have hlast := h.output true (Server.Final packetCount seqA)
        rw [hread, ← Option.some.inj hs]
        by_cases hseq : Server.Final packetCount seqA
        · rw [if_pos (decide_eq_true hseq)] at hlast
          rw [if_pos hseq]
          exact hlast
        · rw [if_neg (by simpa using hseq)] at hlast
          rw [if_neg hseq]
          exact hlast
      · cases hs
    · cases hs
      simpa [hfinal, Server.stop] using h.output false (Server.Final packetCount 0)
    · cases hs
      simpa [hfinal] using h.output false (Server.Final packetCount 0)

end

end Resources

end Opcua

end TsnRefSw
