import Mathlib.Logic.Function.Iterate
import TsnRefSw.Tsq.Listener.Basic

/-!
# A talker that goes away

A connection that its peer has closed is readable for good, and every read brings nothing. The
receive loop takes that for a read like any other: with a signal it would end, without one it
goes on for ever, and after two iterations nothing changes any more.
-/

namespace TsnRefSw

open Core

namespace Listener

/-- An iteration without a signal in which connection `i`, which is closed, is readable, and the
other one is not, or is closed as well: no byte comes. -/
def Idle (i : Slot) (io : Io) : Prop :=
  io.activity = .ready ∧ (∃ h, io.slots i = .got [] h) ∧
    ∀ j ≠ i, io.slots j = .notReady ∨ ∃ h, io.slots j = .got [] h

/-- What the system calls report if connection `i` alone is closed. -/
def closedIo (i : Slot) : Io where
  activity := .ready
  slots := fun j => if j = i then .got [] (Nat.zero_le _) else .notReady

lemma idle_closedIo (i : Slot) : Idle i (closedIo i) :=
  ⟨rfl, ⟨_, if_pos rfl⟩, fun _ hj => .inl (if_neg hj)⟩

/-- An iteration that reads the closed connection. -/
def idle (i : Slot) (st : Listener) : Listener := (st.readSlot i []).compare

lemma iterate_closedIo (st : Listener) (i : Slot) : st.iterate (closedIo i) = .ok (st.idle i) := by
  match i with
  | 0 => rfl
  | 1 => rfl

/-- An idle iteration does not leave the loop. -/
lemma iterate_of_idle {i : Slot} {io : Io} (h : Idle i io) (st : Listener) :
    ∃ st', st.iterate io = .ok st' := by
  obtain ⟨hactivity, hi, hother⟩ := h
  have hslot : ∀ j st, ∃ st', slotStep st j (io.slots j) = .ok st' := by
    intro j st
    by_cases hj : j = i
    · obtain ⟨_, hgot⟩ := hi
      rw [hj, hgot]
      exact ⟨_, rfl⟩
    · rcases hother j hj with hready | ⟨_, hgot⟩
      · rw [hready]
        exact ⟨_, rfl⟩
      · rw [hgot]
        exact ⟨_, rfl⟩
  obtain ⟨st₁, h₀⟩ := hslot 0 st
  obtain ⟨st₂, h₁⟩ := hslot 1 st₁
  refine ⟨st₂.compare, iterate_eq_ok.mpr ⟨st₂, ?_, rfl⟩⟩
  simp [reads, hactivity, h₀, h₁, bind, Except.bind]

/-! ### Nothing changes any more -/

variable {st : Listener} {i j : Slot}

lemma not_presents_nil : ¬ st.Presents [] := fun h => h.1 rfl

lemma compare_of_empty (h : st.plValidFlag j = false) : st.compare = st := by
  apply compare_of_not_ready
  rw [Bool.eq_false_iff]
  intro hready
  rw [dataReady_iff.mp hready j] at h
  cases h

/-- As long as the other slot is empty, the closed one is at most refilled. -/
lemma idle_of_empty (hij : j ≠ i) (h : st.plValidFlag j = false) :
    st.idle i = st.readSlot i [] ∧ (st.idle i).plValidFlag j = false := by
  have hempty : (st.readSlot i []).plValidFlag j = false := by
    rw [(readSlot_of_ne hij).2]
    exact h
  have hidle : st.idle i = st.readSlot i [] := compare_of_empty hempty
  exact ⟨hidle, hidle ▸ hempty⟩

lemma readSlot_readSlot_nil : (st.readSlot i []).readSlot i [] = st.readSlot i [] := by
  by_cases hk : st.Keeping i
  · rw [readSlot_of_keeping (keeping_readSlot.mpr hk), readSlot_of_keeping hk]
    simp
  · rw [readSlot_of_not_presents hk not_presents_nil]
    exact readSlot_of_not_presents hk not_presents_nil

lemma idle_idle_of_empty (hij : j ≠ i) (h : st.plValidFlag j = false) :
    (st.idle i).idle i = st.idle i := by
  obtain ⟨hidle, hempty⟩ := idle_of_empty hij h
  rw [(idle_of_empty hij hempty).1, hidle, readSlot_readSlot_nil]

lemma exists_other (i : Slot) : ∃ j : Slot, j ≠ i ∧ ∀ k, k = i ∨ k = j := by
  revert i
  decide

/-- The other slot is empty, or it is emptied by a comparison, or the closed one is empty and
stays so. -/
lemma idle_idle_idle (st : Listener) (i : Slot) :
    ((st.idle i).idle i).idle i = (st.idle i).idle i := by
  obtain ⟨j, hij, hall⟩ := exists_other i
  by_cases hj : st.plValidFlag j = false
  · rw [idle_idle_of_empty hij hj, idle_idle_of_empty hij hj]
  · by_cases hready : dataReady (st.readSlot i []).plValidFlag = true
    · have hcleared : (st.idle i).plValidFlag j = false := by
        rw [idle, compare_of_ready hready]
        rfl
      exact idle_idle_of_empty hij hcleared
    · have hkeep : ¬ st.Keeping i := by
        intro hk
        refine hready (dataReady_iff.mpr fun k => ?_)
        rcases hall k with rfl | rfl
        · rw [readSlot_of_keeping hk]
          exact Function.update_self ..
        · rw [(readSlot_of_ne hij).2]
          exact Bool.eq_true_of_not_eq_false hj
      have hread := readSlot_of_not_presents hkeep not_presents_nil
      rw [hread, Bool.not_eq_true] at hready
      have hsame : st.idle i = st := by
        rw [idle, hread]
        exact compare_of_not_ready hready
      simp only [hsame]

/-! ### The loop -/

/-- In a state with connection `i` closed, the loop is left or some connection delivers a byte:
there is no run of idle iterations without end. -/
def Ends (cliIds : Slot → Int32) (st : Listener) (i : Slot) : Prop :=
  ¬ ∃ run : Nat → Listener, run 0 = st ∧
    ∀ n, ∃ io, Idle i io ∧ (listenerLts cliIds).step (run n) io = some (run (n + 1))

/-- Idle iterations, in whatever order the connections are readable in them, go on for ever. -/
lemma exists_run_of_idle (cliIds : Slot → Int32) (st : Listener) {ios : Nat → Io}
    (h : ∀ n, Idle i (ios n)) :
    ∃ run : Nat → Listener, run 0 = st ∧
      ∀ n, (listenerLts cliIds).step (run n) (ios n) = some (run (n + 1)) := by
  choose next hnext using fun n st => iterate_of_idle (h n) st
  exact ⟨fun n => Nat.rec st next n, rfl, fun n => listenerLts_step.mpr (hnext n _)⟩

/-- The listener does not end when a talker goes away, whichever it is and wherever the loop
is. -/
theorem not_ends (cliIds : Slot → Int32) (st : Listener) (i : Slot) : ¬ st.Ends cliIds i := by
  obtain ⟨run, hrun, hstep⟩ := exists_run_of_idle cliIds st fun _ => idle_closedIo i
  exact not_not.mpr ⟨run, hrun, fun n => ⟨closedIo i, idle_closedIo i, hstep n⟩⟩

/-- The talker of connection 0 goes away before it has sent anything. -/
theorem exists_not_ends :
    ¬ ∀ (cliIds : Slot → Int32) (tr : List (Listener × Io)) (st : Listener),
      (listenerLts cliIds).Run tr st → ∀ i, st.Ends cliIds i := by
  intro h
  obtain ⟨run, hrun, hstep⟩ := exists_run_of_idle (fun _ => 1000) (start fun _ => 1000) fun _ =>
    idle_closedIo 0
  exact h (fun _ => 1000) [] _ (.init rfl) 0
    ⟨run, hrun, fun n => ⟨closedIo 0, idle_closedIo 0, hstep n⟩⟩

/-- From the second of these iterations on the loop stays in one state. -/
theorem iterate_idle_eq (st : Listener) (i : Slot) {n : Nat} (hn : 2 ≤ n) :
    (idle i)^[n] st = (idle i)^[2] st := by
  induction n, hn using Nat.le_induction with
  | base => rfl
  | succ n hn ih =>
    rw [Function.iterate_succ_apply', ih]
    exact idle_idle_idle st i

end Listener

end TsnRefSw
