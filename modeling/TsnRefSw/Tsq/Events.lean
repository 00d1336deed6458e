import TsnRefSw.Tsq.Talker

/-!
# External timestamps on their way to the listener

What the transmit loop of `talker()` sends for a whole sequence of results of `poll()`. An event
is left out if one half of its timestamp is zero: it would not be told from a timeout, and the
listener would not take it.
-/

namespace TsnRefSw

namespace Talker

/-- An external timestamp: seconds and nanoseconds. -/
abbrev Event := Int64 × UInt32

/-- The timestamps a clock reports. -/
def Event.Valid (e : Event) : Prop := 0 < e.1.toInt ∧ e.2.toNat < 10 ^ 9

instance (e : Event) : Decidable e.Valid := inferInstanceAs (Decidable (_ ∧ _))

/-- The transmit loop: the samples sent until it ends, with number `seq` next. -/
def transmit (uid seq : Int32) : List Io → List Payload
  | []        => []
  | io :: ios =>
    match iterate uid seq io with
    | .error _       => []
    | .ok (p, seq') => p.toList ++ transmit uid seq' ios

/-- The event read in an iteration. -/
def Io.event (io : Io) : Option Event :=
  match io.poll with
  | .error _ => none
  | .ok e    => e

/-- No system call of the iteration reports an error: a short read counts if there is something
to be read, and a failing write if there is something to be sent. -/
def Io.Succeeds (io : Io) : Prop :=
  match io.poll with
  | .error _     => False
  | .ok none     => True
  | .ok (some e) => io.shortRead = false ∧ (e.2 = 0 ∨ io.writeFailed = false)

instance (io : Io) : Decidable io.Succeeds := by
  unfold Io.Succeeds
  split <;> infer_instance

/-- The events read until a system call fails. -/
def eventsRead (ios : List Io) : List Event :=
  (ios.takeWhile fun io => decide io.Succeeds).filterMap Io.event

/-- A message for each event, numbered from `k`. -/
def messages (uid : Int32) (k : Nat) (es : List Event) : List Payload :=
  (es.zipIdx k).map fun e => data uid (Int32.ofNat e.2) (some e.1)

/-- The events that the talker passes on. -/
def sendable (es : List Event) : List Event := es.filter fun e => e.2 != 0

/-! ### One iteration -/

lemma secs_ne_zero {e : Event} (h : e.Valid) : e.1 ≠ 0 := by
  intro he
  have hpos := h.1
  rw [he] at hpos
  exact absurd hpos (by decide)

lemma nsecs_ne_zero_iff {n : UInt32} : Int64.ofNat n.toNat ≠ 0 ↔ n ≠ 0 := by
  have hlt : n.toNat < 2 ^ 63 := lt_trans n.toNat_lt (by decide)
  rw [not_iff_not]
  constructor
  · intro h
    have hint := congrArg Int64.toInt h
    rw [Int64.toInt_ofNat_of_lt hlt] at hint
    apply UInt32.toNat_inj.mp
    simpa using hint
  · rintro rfl
    rfl

/-- An iteration that reads an event which is passed on. -/
lemma iterate_sendable {uid seq : Int32} {io : Io} {e : Event} (he : io.event = some e)
    (hvalid : e.Valid) (hn : e.2 ≠ 0) (h : io.Succeeds) :
    iterate uid seq io = .ok (some (data uid seq (some e)), seq + 1) := by
  obtain ⟨poll, shortRead, writeFailed⟩ := io
  cases poll with
  | error _ => cases he
  | ok event =>
    obtain rfl : event = some e := he
    obtain ⟨hshort, hwrite⟩ : shortRead = false ∧ (e.2 = 0 ∨ writeFailed = false) := h
    have hset : (data uid seq (some e)).secs ≠ 0 ∧ (data uid seq (some e)).nsecs ≠ 0 :=
      ⟨secs_ne_zero hvalid, nsecs_ne_zero_iff.mpr hn⟩
    simp only [iterate, hshort, hwrite.resolve_left hn, if_pos hset]
    rfl

/-- An iteration that has nothing to send. -/
lemma iterate_silent {uid seq : Int32} {io : Io} (he : ∀ e ∈ io.event, e.2 = 0)
    (h : io.Succeeds) : iterate uid seq io = .ok (none, seq) := by
  obtain ⟨poll, shortRead, writeFailed⟩ := io
  cases poll with
  | error _ => exact h.elim
  | ok event =>
    have hunset : ¬ ((data uid seq event).secs ≠ 0 ∧ (data uid seq event).nsecs ≠ 0) := by
      rintro ⟨-, hnsecs⟩
      cases event with
      | none => exact hnsecs rfl
      | some e => exact nsecs_ne_zero_iff.mp hnsecs (he e rfl)
    cases event with
    | none => simp only [iterate, if_neg hunset]; rfl
    | some e =>
      have hshort : shortRead = false := h.1
      simp only [iterate, if_neg hunset, hshort]
      rfl

/-- An iteration in which a system call fails ends the loop before anything is sent. -/
lemma iterate_failed (uid seq : Int32) {io : Io} (he : ∀ e ∈ io.event, e.Valid)
    (h : ¬ io.Succeeds) : ∃ text, iterate uid seq io = .error text := by
  obtain ⟨poll, shortRead, writeFailed⟩ := io
  cases poll with
  | error _ => exact ⟨_, rfl⟩
  | ok event =>
    cases event with
    | none => exact absurd trivial h
    | some e =>
      cases shortRead with
      | true => exact ⟨_, rfl⟩
      | false =>
        obtain ⟨hn, hwrite⟩ := not_or.mp fun hor => h ⟨rfl, hor⟩
        have hset : (data uid seq (some e)).secs ≠ 0 ∧ (data uid seq (some e)).nsecs ≠ 0 :=
          ⟨secs_ne_zero (he e rfl), nsecs_ne_zero_iff.mpr hn⟩
        have hfailed : writeFailed = true := Bool.eq_true_of_not_eq_false hwrite
        refine ⟨"[TSQ-T] Erorr writing to socket.\n", ?_⟩
        simp only [iterate, if_pos hset, hfailed]
        rfl

/-! ### The whole loop -/

lemma messages_cons (uid : Int32) (k : Nat) (e : Event) (es : List Event) :
    messages uid k (e :: es) = data uid (Int32.ofNat k) (some e) :: messages uid (k + 1) es := rfl

lemma transmit_messages {uid : Int32} {ios : List Io}
    (h : ∀ io ∈ ios, ∀ e ∈ io.event, e.Valid) (k : Nat) :
    transmit uid (Int32.ofNat k) ios = messages uid k (sendable (eventsRead ios)) := by
  induction ios generalizing k with
  | nil => rfl
  | cons io ios ih =>
    obtain ⟨hio, hios⟩ := List.forall_mem_cons.mp h
    by_cases hok : io.Succeeds
    · have hread : eventsRead (io :: ios) = io.event.toList ++ eventsRead ios := by
        simp only [eventsRead, List.takeWhile_cons, hok, decide_true, if_true, List.filterMap_cons]
        cases io.event <;> rfl
      rw [hread, transmit]
      cases he : io.event with
      | none =>
        rw [iterate_silent (by simp [he]) hok]
        exact ih hios k
      | some e =>
        by_cases hn : e.2 = 0
        · rw [iterate_silent (by simp [he, hn]) hok]
          simpa [sendable, hn] using ih hios k
        · rw [iterate_sendable he (hio e he) hn hok]
          have hnext : Int32.ofNat k + 1 = Int32.ofNat (k + 1) := (Int32.ofNat_add k 1).symm
          have hsend : sendable (e :: eventsRead ios) = e :: sendable (eventsRead ios) :=
            List.filter_cons_of_pos (bne_iff_ne.mpr hn)
          show data uid (Int32.ofNat k) (some e) :: transmit uid (Int32.ofNat k + 1) ios =
            messages uid k (sendable (e :: eventsRead ios))
          rw [hsend, messages_cons, hnext, ih hios (k + 1)]
    · obtain ⟨text, herror⟩ := iterate_failed uid (Int32.ofNat k) hio hok
      have hread : eventsRead (io :: ios) = [] := by
        simp [eventsRead, hok]
      rw [hread, transmit, herror]
      rfl

/-- A listener that knows the talker takes the messages. -/
lemma validatePayload_data {uid : TalkerUid} {e : Event} (hvalid : e.Valid) (hn : e.2 ≠ 0)
    (seq : Int32) {cliIds : Slot → Int32} {i : Slot} (hi : cliIds i = uid.toInt32) :
    validatePayload (data uid.toInt32 seq (some e)) cliIds = true := by
  have hsecs : e.1 ≠ 0 := secs_ne_zero hvalid
  have hnsecs : Int64.ofNat e.2.toNat ≠ 0 := nsecs_ne_zero_iff.mpr hn
  have hknown : (List.finRange clientCount).any (fun i => cliIds i == uid.toInt32) = true :=
    List.any_eq_true.mpr ⟨i, List.mem_finRange i, beq_iff_eq.mpr hi⟩
  simp [validatePayload, data, uid.toInt32_ne_zero, hsecs, hnsecs, hknown]

/-- The talker sends one message for each event read whose nanoseconds are not zero, in order and
numbered from zero, and nothing else, and a listener that knows the talker takes them all. -/
theorem transmit_eq_messages (uid : TalkerUid) {ios : List Io}
    (h : ∀ io ∈ ios, ∀ e ∈ io.event, e.Valid) :
    transmit uid.toInt32 0 ios = messages uid.toInt32 0 (sendable (eventsRead ios)) ∧
    ∀ p ∈ transmit uid.toInt32 0 ios, ∀ (cliIds : Slot → Int32) (i : Slot),
      cliIds i = uid.toInt32 → validatePayload p cliIds = true := by
  have hsent : transmit uid.toInt32 0 ios = messages uid.toInt32 0 (sendable (eventsRead ios)) :=
    transmit_messages h 0
  refine ⟨hsent, fun p hp cliIds i hi => ?_⟩
  rw [hsent, messages, List.mem_map] at hp
  obtain ⟨⟨e, k⟩, he, rfl⟩ := hp
  have hmem := List.mem_of_getElem? (List.mk_mem_zipIdx_iff_getElem?.mp he)
  obtain ⟨hread, hn⟩ := List.mem_filter.mp hmem
  obtain ⟨io, hio, hevent⟩ := List.mem_filterMap.mp hread
  have hvalid := h io ((List.takeWhile_sublist _).subset hio) e hevent
  exact validatePayload_data hvalid (bne_iff_ne.mp hn) _ hi

/-- An iteration in which no system call fails. -/
private def answered (event : Option Event) : Io := ⟨.ok event, false, false⟩

/-- Two events, a timeout, and an event on the full second. -/
theorem transmit_eq_messages_mixed :
    transmit (Int32.ofNat 1000) 0 [answered (some (5, 7)), answered none, answered (some (6, 0)),
        answered (some (7, 9))] =
      [⟨1000, 0, 5, 7⟩, ⟨1000, 1, 7, 9⟩] :=
  (transmit_eq_messages ⟨1000, by decide, by decide⟩ (by
    intro io hio e he
    simp only [List.mem_cons, List.not_mem_nil, or_false] at hio
    rcases hio with rfl | rfl | rfl | rfl
    · cases he
      decide
    · cases he
    · cases he
      decide
    · cases he
      decide)).1

/-- An edge on the full second is read and not passed on. -/
theorem not_transmit_eq_messages :
    ¬ ∀ (uid : TalkerUid) (ios : List Io), (∀ io ∈ ios, ∀ e ∈ io.event, e.Valid) →
      transmit uid.toInt32 0 ios = messages uid.toInt32 0 (eventsRead ios) ∧
      ∀ p ∈ transmit uid.toInt32 0 ios, ∀ (cliIds : Slot → Int32) (i : Slot),
        cliIds i = uid.toInt32 → validatePayload p cliIds = true := by
  intro h
  have hsent := (h ⟨1000, by decide, by decide⟩ [answered (some (1, 0))] ?_).1
  · revert hsent
    decide
  · intro io hio e he
    cases List.mem_singleton.mp hio
    cases he
    decide

end Talker

end TsnRefSw
