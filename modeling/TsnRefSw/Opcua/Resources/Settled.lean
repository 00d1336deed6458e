import TsnRefSw.Opcua.Resources.Acquired

/-!
# Every resource is released once

A callback writes to the output file of its subscriber and closes it only while the pointer to it
is there, and forgets the pointer when it closes the file. So whatever the callbacks do,
`free_resources()` finds what is still to be released.
-/

namespace TsnRefSw

open Core

namespace Opcua

namespace Resources

open Memory

/-! ### The callbacks -/

section
variable {m : Memory} {j : Nat}

lemma Memory.Holding.fprintf (h : Holding [] m) {e : SubscriberEntry}
    (he : m.subscribers[j]? = some e) : Holding [] (m.fprintf e.fpSubscriberOutput) := by
  rcases hfile : e.fpSubscriberOutput with _ | n
  · exact h
  · apply h.record
    · apply h.account.use
      have hmem : .file n ∈ m.subscribers.flatMap SubscriberEntry.owned := by
        rw [List.mem_flatMap]
        refine ⟨e, List.mem_of_getElem? he, ?_⟩
        simp [SubscriberEntry.owned, hfile, Pointer.file]
      simp [owned, hmem]
    · simp

lemma Memory.Holding.fclose {p : Pointer} (h : Holding (Pointer.file p) m) :
    Holding [] (m.fclose p) := by
  cases p with
  | none => exact h
  | some n =>
    apply h.record
    · rw [List.append_nil]
      exact (releases_fclose m (some n)).account _ (h.account.perm List.perm_append_comm)
    · simp

/-- The file is closed and its pointer forgotten. -/
lemma Memory.Holding.forget (h : Holding [] m) {e : SubscriberEntry}
    (he : m.subscribers[j]? = some e) :
    Holding [] { m.fclose e.fpSubscriberOutput with
      subscribers := m.subscribers.set j { e with fpSubscriberOutput := none } } := by
  have hp : (e.owned ++ []).Perm
      (SubscriberEntry.owned { e with fpSubscriberOutput := none } ++
        Pointer.file e.fpSubscriberOutput) := by
    simp [SubscriberEntry.owned, Pointer.file]
  obtain ⟨hholding, -⟩ :=
    h.setSubscriber (f := fun e => { e with fpSubscriberOutput := none }) he hp
  have hclose := hholding.fclose
  rcases hfile : e.fpSubscriberOutput with _ | n
  · simpa [Memory.setSubscriber, he, hfile, Memory.fclose] using hclose
  · simpa [Memory.setSubscriber, he, hfile, Memory.fclose, Memory.record] using hclose

/-- A callback leaves everything it does not release reachable. -/
lemma Memory.Holding.output (h : Holding [] m) (hj : j < m.subscribers.length)
    (accepted last : Bool) : Holding [] (m.output j accepted last) ∧
      (m.output j accepted last).subscribers.length = m.subscribers.length := by
  have he : m.subscribers[j]? = some m.subscribers[j] := List.getElem?_eq_getElem hj
  unfold Memory.output
  rw [he]
  dsimp only
  generalize m.subscribers[j] = e at he
  -- the line is written before the file is closed
  obtain ⟨m₁, hm₁⟩ : ∃ m₁, m₁ = if accepted then m.fprintf e.fpSubscriberOutput else m := ⟨_, rfl⟩
  have hsubs : m₁.subscribers = m.subscribers := by
    rw [hm₁]
    split_ifs
    · exact subscribers_fprintf m _
    · rfl
  have h₁ : Holding [] m₁ := by
    rw [hm₁]
    split_ifs
    · exact h.fprintf he
    · exact h
  rw [← hm₁]
  split_ifs
  · refine ⟨h₁.forget (hsubs ▸ he), ?_⟩
    rw [List.length_set, hsubs]
  · exact ⟨h₁, congrArg _ hsubs⟩

variable {n : Nat}

/-- Every call of a callback. -/
lemma Memory.Holding.call (h : Holding [] m) (hn : m.subscribers.length = n)
    (packetCount : PacketCount) (c : Call n) : Holding [] (m.call packetCount c) ∧
      (m.call packetCount c).subscribers.length = n := by
  obtain ⟨j, writeFunc, data, rxTime, beyond⟩ := c
  have houtput : ∀ accepted last, Holding [] (m.output j accepted last) ∧
      (m.output j accepted last).subscribers.length = n := by
    intro accepted last
    have hj : j.val < m.subscribers.length := by
      rw [hn]
      exact j.isLt
    obtain ⟨hholding, hlength⟩ := h.output hj accepted last
    exact ⟨hholding, hlength.trans hn⟩
  cases data with
  | none =>
    cases writeFunc with
    | subStoreDataReceived => exact ⟨h, hn⟩
    | subReturnStoreDataReceived => exact ⟨h, hn⟩
  | some v =>
    cases writeFunc with
    | subStoreDataReceived =>
      simp only [Memory.call, subStoreDataReceived]
      split_ifs
      · exact ⟨h, hn⟩
      · exact houtput _ _
      · exact houtput _ _
    | subReturnStoreDataReceived =>
      simp only [Memory.call, subReturnStoreDataReceived]
      split_ifs
      · exact ⟨h, hn⟩
      · exact houtput _ _
      · exact houtput _ _

/-- Every sequence of calls. -/
lemma Memory.Holding.calls (h : Holding [] m) (hn : m.subscribers.length = n)
    (packetCount : PacketCount) (calls : List (Call n)) :
    Holding [] (calls.foldl (Memory.call packetCount) m) := by
  induction calls generalizing m with
  | nil => exact h
  | cons c calls ih =>
    obtain ⟨hcall, hlength⟩ := h.call hn packetCount c
    exact ih hcall hlength

end

/-! ### The parser, the callbacks and `free_resources()` -/

/-- Nothing stays behind, however `parseJson()` ends: either there is a structure, and after any
calls of the callbacks `free_resources()` has released everything; or it returned `NULL` and has
released everything itself; or it came to a key that is missing or of the wrong type and ended the
process. -/
def Balanced (fopen : String → Bool) (json : Json) : Outcome × Memory → Prop
  | (.returned sdata, m) =>
    Opcua.parseJson fopen json = .ok sdata ∧
      ∀ calls : List (Call sdata.subData.length),
        Ledger.Settled (freeResources (calls.foldl (Memory.call sdata.count) m)).log
  | (.null, m) => Ledger.Settled m.log
  | (.exited, _) =>
    ∃ e, Opcua.parseJson fopen json = .error e ∧ ∀ message, e ≠ .failed message

theorem balanced_parseJson (alloc : Allocator) (fopen : String → Bool) (json : Json) :
    Balanced fopen json (parseJson alloc fopen json) := by
  have hresult := computes_parseServer alloc fopen json .initial
  have hmemory := triple_parseServer alloc fopen json .initial rfl
  unfold parseJson
  rcases hexec : (parseServer alloc fopen json).exec .initial with ⟨e | sdata, m⟩
  · rw [hexec] at hresult hmemory
    cases e with
    | failed message => exact (hmemory message rfl).settled
    | _ =>
      obtain he | ⟨x, hx, he⟩ := hresult
      · exact ⟨_, he.symm, by simp⟩
      · cases he
        cases hx
  · rw [hexec] at hresult hmemory
    obtain ⟨hholding, hlength⟩ := hmemory
    obtain he | ⟨x, hx, he⟩ := hresult
    · refine ⟨he.symm, fun calls => ?_⟩
      exact (hholding.calls hlength sdata.count calls).account_freeResources.settled
    · cases he

/-- The callback closes the only output file, number 8, after the last sample; `free_resources()`
leaves it alone. -/
example :
    let m := (parseJson ⟨true, true, true⟩ (fun _ => true)
      (.opcuaServer false 500000 [.publisher 0 1 0 false] [.subscriber 0 1 false])).2
    let call : Call 1 := ⟨0, .subStoreDataReceived, some (.ofArray [1000, 5]), 9, fun _ => 0⟩
    (m.call .thousand call).log.count (.release (.file 8)) = 1 ∧
      (m.call .thousand call).freeResources.log.count (.release (.file 8)) = 1 := by
  decide

/-- A publisher without its entries ends the process: neither a structure nor `NULL` is returned. -/
theorem not_balanced_parseJson :
    ¬ ∀ (alloc : Allocator) (fopen : String → Bool) (json : Json),
      match parseJson alloc fopen json with
      | (.returned sdata, m) => ∀ calls : List (Call sdata.subData.length),
          Ledger.Settled (freeResources (calls.foldl (Memory.call sdata.count) m)).log
      | (.null, m) => Ledger.Settled m.log
      | (.exited, _) => False := by
  intro h
  have hjson := h ⟨true, true, true⟩ (fun _ => true) (.opcuaServer false 500000 [.object []] [])
  exact hjson

end Resources

end Opcua

end TsnRefSw
