import TsnRefSw.Tsq.Listener.History
import TsnRefSw.Tsq.Talker

/-!
# What becomes of two talkers that began in different seconds

A comparison that finds one sample a second newer keeps it. A sample that the connection of the
kept one delivers meanwhile is read and dropped, so that the comparison after the next is one
second off again. Where no sample is lost, the first correction is the only one.
-/

namespace TsnRefSw

open Core

namespace Listener

/-! ### What the connections deliver -/

/-- The sample a read brings, if any: the last byte of a message, read on its own, brings none. -/
def deliveredBy (cliIds : Slot → Int32) : SlotIo → List Payload
  | .got bytes _ =>
    if bytes ≠ [] ∧ validatePayload (window bytes) cliIds = true then [window bytes] else []
  | _            => []

/-- The samples read on connection `i` in the course of a run, those dropped included. -/
def delivered (cliIds : Slot → Int32) (i : Slot) (tr : List (Listener × Io)) : List Payload :=
  tr.flatMap fun x => deliveredBy cliIds (x.2.slots i)

/-- A read brings the first 255 bytes of a sample's message, or the byte that is left. -/
def ReadsMessage : SlotIo → Prop
  | .got bytes _ => ∃ p : Payload, bytes = (Talker.message p).take (bufferSize - 1) ∨
      bytes = (Talker.message p).drop (bufferSize - 1)
  | _            => True

/-- The samples of a connection are one second apart. -/
def Talks (cliIds : Slot → Int32) (first : Slot → Int64) (tr : List (Listener × Io)) : Prop :=
  ∀ i, (delivered cliIds i tr).map Payload.secs =
    (List.range (delivered cliIds i tr).length).map fun k => first i + Int64.ofNat k

/-- The numbers of samples delivered, `m` before an iteration, after it. -/
def counted (cliIds : Slot → Int32) (m : Slot → Nat) (io : Io) (i : Slot) : Nat :=
  m i + (deliveredBy cliIds (io.slots i)).length

/-- Each connection delivers its next sample only when the other has delivered as many; `m`
counts what they have delivered before. -/
def Alternates (cliIds : Slot → Int32) : (Slot → Nat) → List Io → Prop
  | _, []        => True
  | m, io :: ios =>
    (deliveredBy cliIds (io.slots 0) ≠ [] → m 0 ≤ m 1) ∧
      (deliveredBy cliIds (io.slots 1) ≠ [] → m 1 ≤ counted cliIds m io 0) ∧
      Alternates cliIds (counted cliIds m io) ios

/-- `d` is at most one apart on the two connections. -/
def Near (d : Slot → Int64) : Prop := d 0 = d 1 ∨ d 0 = d 1 + 1 ∨ d 1 = d 0 + 1

/-- `secs_error` is not 0. -/
def misaligned (p : Slot → Payload) : Bool := (p 0).secs - (p 1).secs != 0

/-- At most one comparison finds the samples misaligned, and all others are recorded. -/
structure Sticks (tr : List (Listener × Io)) (st : Listener) : Prop where
  once : (compared tr).countP misaligned ≤ 1
  out : st.out = ((compared tr).filter fun p => !misaligned p).mapIdx lineOf

/-! ### When no sample is lost -/

/-- The second of the sample that connection `i` contributes to the next comparison, `m` counting
those delivered so far: of the one that waits, else of the one kept, else of the next. -/
def due (first : Slot → Int64) (m : Slot → Nat) (st : Listener) (i : Slot) : Int64 :=
  if st.plValidFlag i then (st.cliData i).secs
  else if st.Keeping i then st.keepData.secs
  else first i + Int64.ofNat (m i)

/-- No sample is read where the one before it is kept, and none over one that waits, unless it is
of the second that the other connection contributes next. -/
def Spares (cliIds : Slot → Int32) (first : Slot → Int64) (m : Slot → Nat) (st : Listener)
    (io : Io) : Prop :=
  ∀ i, ∀ p ∈ deliveredBy cliIds (io.slots i),
    ¬ st.Keeping i ∧ (st.plValidFlag i = true → p.secs = due first m st (1 - i))

/-- The same for all iterations of a run. -/
def SparesAll (cliIds : Slot → Int32) (first : Slot → Int64) (tr : List (Listener × Io)) : Prop :=
  ∀ k (h : k < tr.length),
    Spares cliIds first (fun i => (delivered cliIds i (tr.take k)).length) tr[k].1 tr[k].2

section
variable (cliIds : Slot → Int32) (first : Slot → Int64)

instance (tr : List (Listener × Io)) : Decidable (Talks cliIds first tr) :=
  inferInstanceAs (Decidable (∀ _, _ = _))

instance (d : Slot → Int64) : Decidable (Near d) := inferInstanceAs (Decidable (_ ∨ _))

instance (m : Slot → Nat) (st : Listener) (io : Io) :
    Decidable (Spares cliIds first m st io) :=
  inferInstanceAs (Decidable (∀ _, ∀ _ ∈ _, _))

instance (tr : List (Listener × Io)) : Decidable (SparesAll cliIds first tr) :=
  inferInstanceAs (Decidable (∀ _, ∀ _, _))

instance : (m : Slot → Nat) → (ios : List Io) → Decidable (Alternates cliIds m ios)
  | _, []        => .isTrue trivial
  | m, io :: ios =>
    have := instDecidableAlternates (counted cliIds m io) ios
    inferInstanceAs (Decidable (_ ∧ _ ∧ _))

end

section
variable {cliIds : Slot → Int32} {first : Slot → Int64} {m : Slot → Nat} {st st' : Listener}

lemma delivered_append (i : Slot) (tr : List (Listener × Io)) (st : Listener) (io : Io) :
    delivered cliIds i (tr ++ [(st, io)]) =
      delivered cliIds i tr ++ deliveredBy cliIds (io.slots i) := by
  simp [delivered]

lemma misaligned_iff {p : Slot → Payload} : misaligned p = true ↔ (p 0).secs ≠ (p 1).secs := by
  simp only [misaligned, bne_iff_ne, ne_eq]
  grind

/-- Each sample is one second later than the one before it. -/
lemma Talks.secs {tr : List (Listener × Io)} (h : Talks cliIds first tr) {i : Slot} {k : Nat}
    {p : Payload} (hk : (delivered cliIds i tr)[k]? = some p) :
    p.secs = first i + Int64.ofNat k := by
  obtain ⟨hlt, rfl⟩ := List.getElem?_eq_some_iff.mp hk
  have hmap := congrArg (·[k]?) (h i)
  simpa [hlt] using hmap

lemma talks_of_forall {tr : List (Listener × Io)}
    (h : ∀ i k p, (delivered cliIds i tr)[k]? = some p → p.secs = first i + Int64.ofNat k) :
    Talks cliIds first tr := by
  intro i
  apply List.ext_getElem (by simp)
  intro k hk _
  rw [List.length_map] at hk
  rw [List.getElem_map, List.getElem_map, List.getElem_range]
  exact h i k _ (List.getElem?_eq_getElem hk)

lemma Talks.left {tr : List (Listener × Io)} {io : Io}
    (h : Talks cliIds first (tr ++ [(st, io)])) : Talks cliIds first tr := by
  apply talks_of_forall
  intro i k p hk
  apply h.secs
  rw [delivered_append]
  exact Lts.getElem?_append_of_some hk _

lemma sparesAll_concat {tr : List (Listener × Io)} {io : Io}
    (h : SparesAll cliIds first (tr ++ [(st, io)])) :
    SparesAll cliIds first tr ∧
      Spares cliIds first (fun i => (delivered cliIds i tr).length) st io := by
  constructor
  · intro k hk
    have hstep := h k (by rw [List.length_append]; omega)
    rwa [List.getElem_append_left hk, List.take_append_of_le_length hk.le] at hstep
  · have hstep := h tr.length (by simp)
    rwa [List.getElem_concat_length rfl, List.take_left] at hstep

/-! ### Reading a connection -/

/-- What a slot holds, waiting or kept, is the last sample its connection delivered. -/
structure Latest (cliIds : Slot → Int32) (first : Slot → Int64) (m : Slot → Nat)
    (st : Listener) : Prop where
  cliIds : st.cliIds = cliIds
  waiting : ∀ i, st.plValidFlag i = true → (st.cliData i).secs + 1 = first i + Int64.ofNat (m i)
  kept : ∀ i, st.Keeping i → st.keepData.secs + 1 = first i + Int64.ofNat (m i)

lemma due_of_waiting {i : Slot} (h : st.plValidFlag i = true) :
    due first m st i = (st.cliData i).secs := if_pos h

lemma due_of_keeping {i : Slot} (h : st.plValidFlag i = false) (hk : st.Keeping i) :
    due first m st i = st.keepData.secs := by
  rw [due, h, if_neg Bool.false_ne_true, if_pos hk]

lemma due_of_empty {i : Slot} (h : st.plValidFlag i = false) (hk : ¬ st.Keeping i) :
    due first m st i = first i + Int64.ofNat (m i) := by
  rw [due, h, if_neg Bool.false_ne_true, if_neg hk]

/-- One pass of the loop over the connections changes nothing about the other connection. -/
lemma slotStep_frame (first : Slot → Int64) (m : Slot → Nat) {i j : Slot} {io : SlotIo}
    (hne : j ≠ i) (hs : st.slotStep i io = .ok st') :
    (st'.Keeping j ↔ st.Keeping j) ∧ st'.plValidFlag j = st.plValidFlag j ∧
      ∀ n, due first (Function.update m i n) st' j = due first m st j := by
  obtain ⟨-, rfl⟩ | ⟨bytes, -, -, rfl⟩ := slotStep_cases hs
  · refine ⟨.rfl, rfl, fun n => ?_⟩
    rw [due, due, Function.update_of_ne hne]
  · obtain ⟨hdata, hflag⟩ := @readSlot_of_ne st i j bytes hne
    refine ⟨keeping_readSlot, hflag, fun n => ?_⟩
    simp only [due, hdata, hflag, keeping_readSlot, readSlot_keepData, Function.update_of_ne hne]

/-- A read that brings no sample refills a slot whose sample is kept. -/
lemma Latest.refill (h : Latest cliIds first m st) {i : Slot} {bytes : List UInt8}
    (hnone : ¬ st.Presents bytes) :
    Latest cliIds first m (st.readSlot i bytes) ∧
      due first m (st.readSlot i bytes) i = due first m st i := by
  by_cases hk : st.Keeping i
  · have hheld : ((st.readSlot i bytes).cliData i).secs = st.keepData.secs := by
      rw [readSlot_of_keeping hk]
      exact congrArg Payload.secs (Function.update_self ..)
    have hflag : (st.readSlot i bytes).plValidFlag i = true := by
      rw [readSlot_of_keeping hk]
      exact Function.update_self ..
    refine ⟨⟨(readSlot_cliIds ..).trans h.cliIds, fun j hj => ?_, fun j hj => ?_⟩, ?_⟩
    · by_cases hij : j = i
      · rw [hij, hheld]
        exact h.kept i hk
      · rw [(readSlot_of_ne hij).2] at hj
        rw [(readSlot_of_ne hij).1]
        exact h.waiting j hj
    · rw [readSlot_keepData]
      exact h.kept j (keeping_readSlot.mp hj)
    · rw [due_of_waiting hflag, hheld]
      cases hf : st.plValidFlag i with
      | false => exact (due_of_keeping hf hk).symm
      | true =>
        rw [due_of_waiting hf]
        have hw := h.waiting i hf
        rw [← h.kept i hk] at hw
        grind
  · rw [readSlot_of_not_presents hk hnone]
    exact ⟨h, rfl⟩

/-- A sample read where none is kept is the next one of its connection. -/
lemma Latest.store (h : Latest cliIds first m st) {i : Slot} {bytes : List UInt8}
    (hk : ¬ st.Keeping i) (hsome : st.Presents bytes)
    (hsecs : (window bytes).secs = first i + Int64.ofNat (m i)) :
    Latest cliIds first (Function.update m i (m i + 1)) (st.readSlot i bytes) ∧
      due first (Function.update m i (m i + 1)) (st.readSlot i bytes) i =
        (window bytes).secs := by
  have hheld : (st.readSlot i bytes).cliData i = window bytes := by
    rw [readSlot_of_presents hk hsome]
    exact Function.update_self ..
  have hflag : (st.readSlot i bytes).plValidFlag i = true := by
    rw [readSlot_of_presents hk hsome]
    exact Function.update_self ..
  refine ⟨⟨(readSlot_cliIds ..).trans h.cliIds, fun j hj => ?_, fun j hj => ?_⟩, ?_⟩
  · by_cases hij : j = i
    · rw [hij, hheld, hsecs, Function.update_self, Int64.ofNat_add]
      grind
    · rw [(readSlot_of_ne hij).2] at hj
      rw [(readSlot_of_ne hij).1, Function.update_of_ne hij]
      exact h.waiting j hj
  · rw [keeping_readSlot] at hj
    have hij : j ≠ i := fun hij => hk (hij ▸ hj)
    rw [readSlot_keepData, Function.update_of_ne hij]
    exact h.kept j hj
  · rw [due_of_waiting hflag, hheld]

/-- What one pass of the loop over the connections does to the sample due on its own: nothing,
unless a sample is read over one that waits. -/
lemma Latest.slotStep (h : Latest cliIds first m st) {i : Slot} {io : SlotIo} {n : Nat}
    (hn : n = m i + (deliveredBy cliIds io).length)
    (hfree : ∀ p ∈ deliveredBy cliIds io, ¬ st.Keeping i)
    (hsecs : ∀ p ∈ deliveredBy cliIds io, p.secs = first i + Int64.ofNat (m i))
    (hs : st.slotStep i io = .ok st') :
    Latest cliIds first (Function.update m i n) st' ∧
      (due first (Function.update m i n) st' i = due first m st i ∨
        st.plValidFlag i = true ∧ ∃ p ∈ deliveredBy cliIds io,
          due first (Function.update m i n) st' i = p.secs) := by
  subst hn
  obtain ⟨rfl, rfl⟩ | ⟨bytes, hb, rfl, rfl⟩ := slotStep_cases hs
  · rw [deliveredBy, List.length_nil, Nat.add_zero, Function.update_eq_self]
    · exact ⟨h, .inl rfl⟩
    · simp
  by_cases hsome : st.Presents bytes
  · have hone : deliveredBy cliIds (.got bytes hb) = [window bytes] := by
      rw [Presents, h.cliIds] at hsome
      exact if_pos hsome
    rw [hone] at hfree hsecs ⊢
    have hk := hfree _ (List.mem_singleton_self _)
    have hnext := hsecs _ (List.mem_singleton_self _)
    obtain ⟨hlatest, hdue⟩ := h.store hk hsome hnext
    refine ⟨hlatest, ?_⟩
    cases hf : st.plValidFlag i with
    | false => exact .inl (hdue.trans (hnext.trans (due_of_empty hf hk).symm))
    | true => exact .inr ⟨rfl, _, List.mem_singleton_self _, hdue⟩
  · have hnone : deliveredBy cliIds (.got bytes hb) = [] := by
      rw [Presents, h.cliIds] at hsome
      exact if_neg hsome
    rw [hnone, List.length_nil, Nat.add_zero, Function.update_eq_self]
    obtain ⟨hlatest, hdue⟩ := h.refill hsome
    exact ⟨hlatest, .inl hdue⟩

/-- Where no sample is lost, the reads of an iteration leave the samples due as they are, or
bring them to the same second. -/
lemma Latest.reads (h : Latest cliIds first m st) {io : Io}
    (hidle : dataReady st.plValidFlag = false) (hspares : Spares cliIds first m st io)
    (hsecs : ∀ i, ∀ p ∈ deliveredBy cliIds (io.slots i), p.secs = first i + Int64.ofNat (m i))
    (hr : st.reads io = .ok st') :
    Latest cliIds first (counted cliIds m io) st' ∧
      (due first (counted cliIds m io) st' = due first m st ∨
        due first (counted cliIds m io) st' 0 = due first (counted cliIds m io) st' 1) := by
  obtain ⟨-, st₁, h₀, h₁⟩ := reads_cases hr
  obtain ⟨hkeeping, hflag, hother₁⟩ := slotStep_frame first m (show (1 : Slot) ≠ 0 by decide) h₀
  obtain ⟨hlatest, hdue₀⟩ := h.slotStep (n := counted cliIds m io 0) rfl
    (fun p hp => (hspares 0 p hp).1) (hsecs 0) h₀
  obtain ⟨-, -, hother₀⟩ :=
    slotStep_frame first (Function.update m 0 (counted cliIds m io 0))
      (show (0 : Slot) ≠ 1 by decide) h₁
  obtain ⟨hlatest, hdue₁⟩ := hlatest.slotStep (n := counted cliIds m io 1) rfl
    (fun p hp hk => (hspares 1 p hp).1 (hkeeping.mp hk)) (hsecs 1) h₁
  have hcounted : Function.update (Function.update m 0 (counted cliIds m io 0)) 1
      (counted cliIds m io 1) = counted cliIds m io := by
    funext i
    match i with
    | 0 => rfl
    | 1 => rfl
  specialize hother₁ (counted cliIds m io 0)
  specialize hother₀ (counted cliIds m io 1)
  rw [hcounted] at hlatest hdue₁ hother₀
  refine ⟨hlatest, ?_⟩
  rw [hother₀]
  rcases hdue₀ with hsame₀ | ⟨hf₀, p, hp, hread₀⟩ <;>
    rcases hdue₁ with hsame₁ | ⟨hf₁, q, hq, hread₁⟩
  · left
    funext i
    match i with
    | 0 => exact hother₀.trans hsame₀
    | 1 => exact hsame₁.trans hother₁
  · right
    rw [hsame₀, hread₁]
    exact ((hspares 1 q hq).2 (hflag ▸ hf₁)).symm
  · right
    rw [hread₀, hsame₁, hother₁]
    exact (hspares 0 p hp).2 hf₀
  · have hboth : dataReady st.plValidFlag = true := by
      rw [dataReady_iff]
      intro i
      match i with
      | 0 => exact hf₀
      | 1 => exact hflag ▸ hf₁
    rw [hidle] at hboth
    cases hboth

/-! ### Comparing -/

/-- After a comparison both connections contribute the next second. -/
lemma Latest.record (h : Latest cliIds first m st) (hready : ∀ i, st.plValidFlag i = true)
    (heq : (st.cliData 0).secs = (st.cliData 1).secs) :
    Latest cliIds first m st.record.clear ∧
      due first m st.record.clear 0 = due first m st.record.clear 1 := by
  have hkeeping : ∀ i, ¬ st.record.clear.Keeping i := nofun
  refine ⟨⟨h.cliIds, nofun, fun i hi => absurd hi (hkeeping i)⟩, ?_⟩
  rw [due_of_empty rfl (hkeeping 0), due_of_empty rfl (hkeeping 1), ← h.waiting 0 (hready 0),
    ← h.waiting 1 (hready 1), heq]

/-- The sample that is ahead is kept for the next of the other connection. -/
lemma Latest.keep (h : Latest cliIds first m st) (hready : ∀ i, st.plValidFlag i = true)
    {i j : Slot} (hne : i ≠ j) (hahead : (st.cliData i).secs = (st.cliData j).secs + 1) :
    Latest cliIds first m (st.keep i).clear ∧
      due first m (st.keep i).clear i = due first m (st.keep i).clear j := by
  have hkeeping : ∀ k, (st.keep i).clear.Keeping k ↔ i = k := fun k => and_iff_right rfl
  refine ⟨⟨h.cliIds, nofun, fun k hk => ?_⟩, ?_⟩
  · obtain rfl := (hkeeping k).mp hk
    exact h.waiting i (hready i)
  · rw [due_of_keeping rfl ((hkeeping i).mpr rfl), due_of_empty rfl (hne ∘ (hkeeping j).mp),
      ← h.waiting j (hready j), ← hahead]
    rfl

/-- Samples at most a second apart are followed by two of the same second. -/
lemma Latest.compare (h : Latest cliIds first m st) (hready : dataReady st.plValidFlag = true)
    (hnear : Near (due first m st)) :
    Latest cliIds first m st.compare ∧
      due first m st.compare 0 = due first m st.compare 1 := by
  have hflags := dataReady_iff.mp hready
  have herror : st.secsError = (st.cliData 0).secs - (st.cliData 1).secs := rfl
  rw [compare_of_ready hready, switch]
  rw [Near, due_of_waiting (hflags 0), due_of_waiting (hflags 1)] at hnear
  rcases hnear with heq | hahead | hahead
  · rw [if_neg (by grind), if_neg (by grind), if_pos (secsError_eq_zero.mpr heq)]
    exact h.record hflags heq
  · rw [if_pos (by grind)]
    exact h.keep hflags (by decide) hahead
  · rw [if_neg (by grind), if_pos (by grind)]
    have hkept := h.keep hflags (by decide) hahead
    exact ⟨hkept.1, hkept.2.symm⟩

/-! ### Whole runs -/

/-- The comparisons so far, and what the connections contribute to the next: as long as that is of
different seconds, no comparison was misaligned. -/
structure Corrected (cliIds : Slot → Int32) (first : Slot → Int64) (tr : List (Listener × Io))
    (st : Listener) : Prop where
  latest : Latest cliIds first (fun i => (delivered cliIds i tr).length) st
  idle : dataReady st.plValidFlag = false
  near : Near (due first (fun i => (delivered cliIds i tr).length) st)
  before : due first (fun i => (delivered cliIds i tr).length) st 0 ≠
    due first (fun i => (delivered cliIds i tr).length) st 1 →
      (compared tr).countP misaligned = 0
  once : (compared tr).countP misaligned ≤ 1

lemma corrected_start (hnear : Near first) : Corrected cliIds first [] (start cliIds) := by
  have hkeeping : ∀ i, ¬ (start cliIds).Keeping i := nofun
  have hdue : due first (fun i => (delivered cliIds i []).length) (start cliIds) = first := by
    funext i
    rw [due_of_empty rfl (hkeeping i)]
    exact Int64.add_zero _
  refine ⟨⟨rfl, nofun, nofun⟩, rfl, ?_, fun _ => rfl, Nat.zero_le 1⟩
  rw [hdue]
  exact hnear

/-- The sample an iteration reads is the next of its connection. -/
lemma Talks.next {tr : List (Listener × Io)} {io : Io}
    (h : Talks cliIds first (tr ++ [(st, io)])) {i : Slot} {p : Payload}
    (hp : p ∈ deliveredBy cliIds (io.slots i)) :
    p.secs = first i + Int64.ofNat (delivered cliIds i tr).length := by
  apply h.secs
  rw [delivered_append]
  cases hio : io.slots i with
  | got bytes hb =>
    rw [hio, deliveredBy] at hp
    split at hp
    · next hsome =>
      rw [List.mem_singleton.mp hp, deliveredBy, if_pos hsome]
      exact List.getElem?_concat_length
    · cases hp
  | _ =>
    rw [hio] at hp
    cases hp

lemma Corrected.iterate {tr : List (Listener × Io)} {io : Io} (h : Corrected cliIds first tr st)
    (htalks : Talks cliIds first (tr ++ [(st, io)]))
    (hspares : Spares cliIds first (fun i => (delivered cliIds i tr).length) st io)
    (hr : st.reads io = .ok st') : Corrected cliIds first (tr ++ [(st, io)]) st'.compare := by
  have hcounted : (fun i => (delivered cliIds i (tr ++ [(st, io)])).length) =
      counted cliIds (fun i => (delivered cliIds i tr).length) io := by
    funext i
    rw [delivered_append, List.length_append, counted]
  obtain ⟨hlatest, hdue⟩ := h.latest.reads h.idle hspares (fun _ _ hp => htalks.next hp) hr
  rw [← hcounted] at hlatest hdue
  have hnear := hdue.elim (fun hsame => hsame ▸ h.near) .inl
  have hbefore := fun hne => h.before (hdue.elim (fun hsame => hsame ▸ hne) (absurd · hne))
  cases hready : dataReady st'.plValidFlag with
  | false =>
    have hcompared : compared (tr ++ [(st, io)]) = compared tr := by
      simp [comparedAt, hr, hready]
    rw [compare_of_not_ready hready]
    refine ⟨hlatest, hready, hnear, ?_, ?_⟩
    · rw [hcompared]
      exact hbefore
    · rw [hcompared]
      exact h.once
  | true =>
    have hcompared : compared (tr ++ [(st, io)]) = compared tr ++ [st'.cliData] := by
      simp [comparedAt, hr, hready]
    obtain ⟨hnext, heq⟩ := hlatest.compare hready hnear
    refine ⟨hnext, ?_, .inl heq, absurd heq, ?_⟩
    · rw [compare_of_ready hready]
      rfl
    rw [hcompared, List.countP_append, List.countP_singleton]
    have hflags := dataReady_iff.mp hready
    rw [due_of_waiting (hflags 0), due_of_waiting (hflags 1), ← misaligned_iff] at hbefore
    cases hmis : misaligned st'.cliData with
    | false => exact h.once
    | true =>
      rw [hbefore hmis]
      exact le_rfl

theorem corrected_of_run {tr : List (Listener × Io)} (h : (listenerLts cliIds).Run tr st)
    (hnear : Near first) (htalks : Talks cliIds first tr)
    (hspares : SparesAll cliIds first tr) : Corrected cliIds first tr st := by
  induction h with
  | init h =>
    obtain rfl : _ = start cliIds := h
    exact corrected_start hnear
  | step h hs ih =>
    obtain ⟨hold, hlast⟩ := sparesAll_concat hspares
    obtain ⟨st₁, hr, rfl⟩ := iterate_eq_ok.mp (listenerLts_step.mp hs)
    exact (ih htalks.left hold).iterate htalks hlast hr

end

end Listener

open Listener

/-- Where no sample is lost, at most one comparison of a run is misaligned, and all others are
recorded. -/
theorem realignment_sticks {cliIds : Slot → Int32} {first : Slot → Int64}
    {tr : List (Listener × Io)} {st : Listener} (h : (listenerLts cliIds).Run tr st)
    (hnear : Near first) (htalks : Talks cliIds first tr)
    (hspares : SparesAll cliIds first tr) : Sticks tr st := by
  refine ⟨(corrected_of_run h hnear htalks hspares).once, ?_⟩
  have hrecorded : ((compared tr).filter fun p => !misaligned p) = recorded tr := by
    apply List.filter_congr
    intro p _
    rw [Bool.eq_iff_iff, Bool.not_eq_true', ← Bool.not_eq_true, misaligned_iff, not_not,
      decide_eq_true_iff]
  rw [hrecorded]
  exact (history h).out

section Pulses

/-- The sample of second `s` on connection `i`. -/
private def ofSecond (i : Slot) (s : Int64) : Payload := ⟨![1000, 1001] i, 0, s, 15⟩

/-- The first 255 bytes of its message are read. -/
private def sampleRead (i : Slot) (s : Int64) : SlotIo :=
  .got ((Talker.message (ofSecond i s)).take (bufferSize - 1)) (by simp)

/-- The byte that is left is read. -/
private def restRead (i : Slot) (s : Int64) : SlotIo :=
  .got ((Talker.message (ofSecond i s)).drop (bufferSize - 1)) (by simp [bufferSize])

private def bothReady (a b : SlotIo) : Io := ⟨.ready, ![a, b]⟩

/-- Connection 0 began in second 6, connection 1 in second 5: the sample 6 is kept, and the byte
left of its message fills the slot again before connection 1 delivers its own. -/
private def corrects : List Io :=
  [bothReady (sampleRead 0 6) (sampleRead 1 5), bothReady (restRead 0 6) (restRead 1 5),
    bothReady .notReady (sampleRead 1 6), bothReady .notReady (restRead 1 6),
    bothReady (sampleRead 0 7) (sampleRead 1 7), bothReady (restRead 0 7) (restRead 1 7),
    bothReady (sampleRead 0 8) .notReady, bothReady (restRead 0 8) (sampleRead 1 8)]

/-- Both connections deliver at every pulse. -/
private def pulses : List Io :=
  [bothReady (sampleRead 0 6) (sampleRead 1 5), bothReady (restRead 0 6) (restRead 1 5),
    bothReady (sampleRead 0 7) (sampleRead 1 6), bothReady (restRead 0 7) (restRead 1 6),
    bothReady (sampleRead 0 8) (sampleRead 1 7)]

/-- Four comparisons, the first of them misaligned. -/
theorem realignment_sticks_corrects :
    ∃ tr st, (listenerLts ![1000, 1001]).Run tr st ∧ (compared tr).length = 4 ∧ Sticks tr st := by
  have hrun : ((listenerLts ![1000, 1001]).replay (start ![1000, 1001]) corrects).map (fun r =>
      decide (Talks ![1000, 1001] ![6, 5] r.1 ∧ SparesAll ![1000, 1001] ![6, 5] r.1 ∧
        (compared r.1).length = 4)) = some true := by decide +kernel
  obtain ⟨⟨tr, st⟩, hr, hC⟩ := Option.map_eq_some_iff.mp hrun
  obtain ⟨htalks, hspares, hlen⟩ := of_decide_eq_true hC
  have hrun := Lts.Run.of_replay (A := listenerLts ![1000, 1001]) rfl hr
  exact ⟨tr, st, hrun, hlen, realignment_sticks hrun (by decide) htalks hspares⟩

private lemma readsMessage_bothReady {a b : SlotIo} (ha : ReadsMessage a) (hb : ReadsMessage b) :
    ∀ i, ReadsMessage ((bothReady a b).slots i)
  | 0 => ha
  | 1 => hb

private lemma readsMessage_pulses : ∀ io ∈ pulses, ∀ i, ReadsMessage (io.slots i) := by
  have hsample : ∀ i s, ReadsMessage (sampleRead i s) := fun i s => ⟨_, .inl rfl⟩
  have hrest : ∀ i s, ReadsMessage (restRead i s) := fun i s => ⟨_, .inr rfl⟩
  simp only [pulses, List.forall_mem_cons]
  exact ⟨readsMessage_bothReady (hsample ..) (hsample ..),
    readsMessage_bothReady (hrest ..) (hrest ..),
    readsMessage_bothReady (hsample ..) (hsample ..),
    readsMessage_bothReady (hrest ..) (hrest ..),
    readsMessage_bothReady (hsample ..) (hsample ..), nofun⟩

/-- The sample 7 of connection 0 is dropped, and 8 is compared with 7. -/
theorem not_realignment_sticks :
    ¬ ∀ (cliIds : Slot → Int32) (first : Slot → Int64) (tr : List (Listener × Io))
      (st : Listener), (listenerLts cliIds).Run tr st → Near first → Talks cliIds first tr →
      (∀ x ∈ tr, ∀ i, ReadsMessage (x.2.slots i)) →
      Alternates cliIds (fun _ => 0) (tr.map Prod.snd) → Sticks tr st := by
  intro h
  have hrun : ((listenerLts ![1000, 1001]).replay (start ![1000, 1001]) pulses).map (fun r =>
      decide (Talks ![1000, 1001] ![6, 5] r.1 ∧
        Alternates ![1000, 1001] (fun _ => 0) (r.1.map Prod.snd) ∧
        (compared r.1).countP misaligned = 2)) = some true := by decide +kernel
  obtain ⟨⟨tr, st⟩, hr, hC⟩ := Option.map_eq_some_iff.mp hrun
  obtain ⟨htalks, halternates, htwice⟩ := of_decide_eq_true hC
  have hrun := Lts.Run.of_replay (A := listenerLts ![1000, 1001]) rfl hr
  have hreads : ∀ x ∈ tr, ∀ i, ReadsMessage (x.2.slots i) := by
    intro x hx
    apply readsMessage_pulses
    rw [← Lts.map_snd_of_replay hr]
    exact List.mem_map_of_mem hx
  have honce := (h _ _ _ _ hrun (by decide) htalks hreads halternates).once
  rw [htwice] at honce
  exact absurd honce (by decide)

end Pulses

end TsnRefSw
