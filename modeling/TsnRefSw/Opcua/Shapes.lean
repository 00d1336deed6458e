import TsnRefSw.Core.Lts
import TsnRefSw.Opcua.DataSource

/-!
# Values of every shape

What the subscribers' callbacks make of an empty variant, of a scalar and of an array of any
length. They look at `arrayLength` only to find out whether there is a value at all, and then
read as many elements as the publisher on the other side sends. A value that is refused leaves
the placeholder 999 as the sequence number of `subStoreDataReceived()`, and 0 as that of
`subReturnStoreDataReceived()`, for the test that stops the process.
-/

namespace TsnRefSw

open Core

namespace Opcua

/-- The variants the library delivers; where there is no array, the length is zero or
`(UA_UInt64) -1`. -/
inductive Variant.Delivered : Variant → Prop where
  | empty {n : UInt64} (hn : n = 0 ∨ n = noLength) : Delivered ⟨n, none⟩
  | scalar {n : UInt64} (hn : n = 0 ∨ n = noLength) (x : UInt64) : Delivered ⟨n, some [x]⟩
  | array (d : List UInt64) (hd : d.length < 2 ^ 64 - 1) : Delivered (.ofArray d)

lemma noLength_ne_zero : noLength ≠ 0 := by decide

lemma Variant.arrayLength_ofArray {d : List UInt64} (hd : d.length < 2 ^ 64 - 1) :
    (Variant.ofArray d).arrayLength.toNat = d.length := by
  apply UInt64.toNat_ofNat_of_lt
  exact Nat.lt_trans hd (by decide)

lemma Variant.arrayLength_ofArray_ne {d : List UInt64} (hd : d.length < 2 ^ 64 - 1) :
    (Variant.ofArray d).arrayLength ≠ noLength := by
  intro h
  have hn : (Variant.ofArray d).arrayLength.toNat = 2 ^ 64 - 1 := by
    rw [h]
    decide
  rw [arrayLength_ofArray hd] at hn
  exact Nat.ne_of_lt hd hn

lemma Variant.arrayLength_ofArray_eq {d : List UInt64} (hd : d.length < 2 ^ 64 - 1) (n : UInt64) :
    (Variant.ofArray d).arrayLength = n ↔ d.length = n.toNat := by
  rw [← UInt64.toNat_inj, arrayLength_ofArray hd]

/-- `ptr_data[i]`, where memory goes on with `beyond` behind the elements. -/
def Variant.read (v : Variant) (beyond : Nat → UInt64) (i : Nat) : UInt64 :=
  ((v.data.getD [])[i]?).getD (beyond i)

/-! ### The right reason to stop -/

/-- A call of `subStoreDataReceived()`. -/
structure Delivery where
  data : Option Variant
  rxTime : UInt64
  /-- What is found behind the elements. -/
  beyond : Nat → UInt64

namespace Server

variable {cap : Nat} (packetCount : PacketCount)

/-- `subStoreDataReceived()`, whatever is read behind the elements. -/
def subStoreDataReceivedIn (s : Server cap) (a : Delivery) : Server cap :=
  match a.data with
  | none => s
  | some v =>
    if v.arrayLength = noLength ∧ v.data = none then s
    else if v.arrayLength = noLength ∨ 0 < v.arrayLength then
      let m : MsgqBuf := ⟨v.read a.beyond 0, v.read a.beyond 1, a.rxTime⟩
      (s.raise.store m).finish packetCount m.rxSequence
    else s.finish packetCount 999

/-- Where nothing is read behind the elements, what is found there does not matter. -/
lemma subStoreDataReceivedIn_eq {s s' : Server cap} {a : Delivery}
    (h : s.subStoreDataReceived packetCount a.data a.rxTime = some s') :
    s.subStoreDataReceivedIn packetCount a = s' := by
  obtain ⟨data, rxTime, beyond⟩ := a
  cases data with
  | none => exact Option.some.inj h
  | some v =>
    simp only [subStoreDataReceived] at h
    simp only [subStoreDataReceivedIn]
    split_ifs at h ⊢
    · exact Option.some.inj h
    · obtain ⟨m, hm, rfl⟩ := Option.map_eq_some_iff.mp h
      unfold decode at hm
      split at hm
      · next x y l hd =>
        cases hm
        simp [Variant.read, hd]
      · cases hm
    · exact Option.some.inj h

/-- There is something left to stop. -/
def Live (s : Server cap) : Prop := s.gRunning = true ∨ s.fpSubscriberOutput = true

/-- From `s` to `s'`, the process was stopped or its output closed. -/
def Stopped (s s' : Server cap) : Prop :=
  (s.gRunning = true ∧ s'.gRunning = false) ∨
    (s.fpSubscriberOutput = true ∧ s'.fpSubscriberOutput = false)

lemma not_stopped_self (s : Server cap) : ¬ Stopped s s := by
  rintro (⟨h, h'⟩ | ⟨h, h'⟩)
  · rw [h] at h'
    cases h'
  · rw [h] at h'
    cases h'

/-- The test at the end stops whatever is live. -/
lemma stopped_finish_iff {s t : Server cap} (hrun : t.gRunning = s.gRunning)
    (hout : t.fpSubscriberOutput = s.fpSubscriberOutput) (n : UInt64) :
    Stopped s (t.finish packetCount n) ↔ s.Live ∧ n = packetCount.val := by
  unfold finish
  split_ifs with hn
  · simp [Stopped, Live, stop, hn]
  · simp only [Stopped, hrun, hout, hn, and_false, iff_false]
    exact not_stopped_self s

end Server

/-- A call stops the process or closes the output only if it received an array with the last
number. -/
def StopsRightly (packetCount : PacketCount) {cap : Nat} (s : Server cap) (a : Delivery) : Prop :=
  s.Stopped (s.subStoreDataReceivedIn packetCount a) →
    ∃ d, a.data = some (.ofArray (packetCount.val :: d))

/-- The value is no array and yet the last number is taken from it or for it. -/
def Misleading (packetCount : PacketCount) (v : Variant) : Prop :=
  (v.arrayLength = 0 ∧ packetCount.val = 999) ∨ v = ⟨noLength, some [packetCount.val]⟩

/-- The calls of a subscriber's callback, from any state of the process. -/
def deliveryLts (packetCount : PacketCount) (cap : Nat) : Lts (Server cap) Delivery where
  init _ := True
  step s a := some (s.subStoreDataReceivedIn packetCount a)

namespace Server

variable {cap : Nat} {packetCount : PacketCount} {s : Server cap}

/-- What is no value, or one the callback refuses. -/
lemma stopped_refused {v : Variant} (hn : v.arrayLength = 0) (rxTime : UInt64)
    (beyond : Nat → UInt64) :
    s.Stopped (s.subStoreDataReceivedIn packetCount ⟨some v, rxTime, beyond⟩) ↔
      s.Live ∧ packetCount.val = 999 := by
  have hcall : s.subStoreDataReceivedIn packetCount ⟨some v, rxTime, beyond⟩ =
      s.finish packetCount 999 := by
    simp [subStoreDataReceivedIn, hn, noLength]
  rw [hcall, stopped_finish_iff packetCount rfl rfl, eq_comm (a := (999 : UInt64))]

lemma stopped_accepted {v : Variant} (hn : v.arrayLength ≠ 0)
    (hv : ¬ (v.arrayLength = noLength ∧ v.data = none)) (rxTime : UInt64)
    (beyond : Nat → UInt64) :
    s.Stopped (s.subStoreDataReceivedIn packetCount ⟨some v, rxTime, beyond⟩) ↔
      s.Live ∧ v.read beyond 0 = packetCount.val := by
  have hpos : v.arrayLength = noLength ∨ 0 < v.arrayLength := .inr (UInt64.pos_iff_ne_zero.mpr hn)
  have hcall : s.subStoreDataReceivedIn packetCount ⟨some v, rxTime, beyond⟩ =
      (s.raise.store ⟨v.read beyond 0, v.read beyond 1, rxTime⟩).finish packetCount
        (v.read beyond 0) := by
    simp only [subStoreDataReceivedIn]
    rw [if_neg hv, if_pos hpos]
  rw [hcall]
  apply stopped_finish_iff
  · rfl
  · rfl

lemma misleading_of_zero {v : Variant} (hn : v.arrayLength = 0) :
    Misleading packetCount v ↔ packetCount.val = 999 := by
  unfold Misleading
  constructor
  · rintro (⟨-, h⟩ | rfl)
    · exact h
    · exact absurd hn noLength_ne_zero
  · intro h
    exact .inl ⟨hn, h⟩

/-- A value of length zero is no array with a first number. -/
lemma stopsRightly_zero {v : Variant} (hn : v.arrayLength = 0)
    (hv : ∀ d, v ≠ .ofArray (packetCount.val :: d)) (rxTime : UInt64) (beyond : Nat → UInt64) :
    StopsRightly packetCount s ⟨some v, rxTime, beyond⟩ ↔
      (s.Live → ¬ Misleading packetCount v) := by
  unfold StopsRightly
  rw [stopped_refused hn, misleading_of_zero hn]
  simp [hv]

/-- One call stops for the right reason unless it misleads a process that is live. -/
lemma stopsRightly_iff {a : Delivery} (hd : ∀ v ∈ a.data, v.Delivered) :
    StopsRightly packetCount s a ↔ (s.Live → ∀ v ∈ a.data, ¬ Misleading packetCount v) := by
  obtain ⟨data, rxTime, beyond⟩ := a
  cases data with
  | none =>
    have hcall : s.subStoreDataReceivedIn packetCount ⟨none, rxTime, beyond⟩ = s := rfl
    simp [StopsRightly, hcall, not_stopped_self]
  | some v =>
    simp only [Option.mem_some_iff, forall_eq']
    cases hd v rfl with
    | empty hn =>
      obtain rfl | rfl := hn
      · exact stopsRightly_zero rfl (by simp [Variant.ofArray]) rxTime beyond
      · have hcall : s.subStoreDataReceivedIn packetCount ⟨some ⟨noLength, none⟩, rxTime, beyond⟩ =
            s := rfl
        simp only [StopsRightly, hcall, not_stopped_self, false_imp_iff, true_iff]
        rintro - (⟨h, -⟩ | h)
        · exact noLength_ne_zero h
        · cases h
    | scalar hn x =>
      obtain rfl | rfl := hn
      · refine stopsRightly_zero rfl (fun d h => ?_) rxTime beyond
        obtain ⟨hn, hd⟩ := Variant.mk.inj h
        cases hd
        simp at hn
      · unfold StopsRightly
        rw [stopped_accepted noLength_ne_zero (by simp)]
        simp [Variant.read, Misleading, noLength, Variant.ofArray]
    | array d hlen =>
      cases d with
      | nil => exact stopsRightly_zero rfl (by simp [Variant.ofArray]) rxTime beyond
      | cons n d =>
        have hne : (Variant.ofArray (n :: d)).arrayLength ≠ 0 := by
          simp [Variant.arrayLength_ofArray_eq hlen]
        have hno := Variant.arrayLength_ofArray_ne hlen
        unfold StopsRightly
        rw [stopped_accepted hne (by simp [hno])]
        constructor
        · rintro - - (⟨h, -⟩ | h)
          · exact hne h
          · exact hno (congrArg Variant.arrayLength h)
        · rintro - ⟨-, h⟩
          exact ⟨d, by rw [← h]; rfl⟩

end Server

/-- In a run of calls, each one stops the process for the right reason exactly if, as long as
there is something to stop, no empty, scalar or zero-length value comes to a process whose last
number is 999, and no scalar with the last number that has the length `(UA_UInt64) -1`. -/
theorem stops_iff {packetCount : PacketCount} {cap : Nat} {tr : List (Server cap × Delivery)}
    {s : Server cap} (h : (deliveryLts packetCount cap).Run tr s)
    (hd : ∀ x ∈ tr, ∀ v ∈ x.2.data, v.Delivered) :
    (∀ x ∈ tr, StopsRightly packetCount x.1 x.2) ↔
      ∀ x ∈ tr, x.1.Live → ∀ v ∈ x.2.data, ¬ Misleading packetCount v := by
  induction h with
  | init h => simp
  | @step tr s s' a h hs ih =>
    simp only [List.mem_append, List.mem_singleton, or_imp, forall_and, forall_eq] at hd ⊢
    exact and_congr (ih hd.1) (Server.stopsRightly_iff hd.2)

section Scalars

private def packets999 : PacketCount := ⟨999, by decide, by decide⟩

private def handOver (v : Variant) : Delivery := ⟨some v, 5, fun _ => 0⟩

private lemma run_handOver (packetCount : PacketCount) (v : Variant) :
    ∃ s, (deliveryLts packetCount 120).Run [(.initial 0, handOver v)] s :=
  ⟨_, .step (.init trivial) rfl⟩

/-- The array with the number 1000 stops a process that expects 1000 samples. -/
theorem stops_iff_array :
    StopsRightly .thousand (.initial 0 : Server 120) (handOver (.ofArray [1000, 7])) := by
  obtain ⟨s, h⟩ := run_handOver .thousand (.ofArray [1000, 7])
  have hd : ∀ x ∈ [((.initial 0 : Server 120), handOver (.ofArray [1000, 7]))],
      ∀ v ∈ x.2.data, v.Delivered := by
    simp only [List.forall_mem_singleton, handOver, Option.mem_some_iff, forall_eq']
    exact .array [1000, 7] (by decide)
  refine (stops_iff h hd).mpr ?_ _ (List.mem_singleton_self _)
  simp [handOver, Misleading, Variant.ofArray, PacketCount.thousand, noLength]

/-- A scalar stops a process that expects 999 samples. -/
theorem not_stops_iff :
    ∃ (packetCount : PacketCount) (tr : List (Server 120 × Delivery)) (s : Server 120),
      (deliveryLts packetCount 120).Run tr s ∧ (∀ x ∈ tr, ∀ v ∈ x.2.data, v.Delivered) ∧
      ¬ ∀ x ∈ tr, StopsRightly packetCount x.1 x.2 := by
  obtain ⟨s, h⟩ := run_handOver packets999 ⟨0, some [7]⟩
  refine ⟨packets999, _, s, h, ?_, fun hall => ?_⟩
  · simp only [List.forall_mem_singleton, handOver, Option.mem_some_iff, forall_eq']
    exact .scalar (.inl rfl) 7
  · obtain ⟨d, hd⟩ := hall _ (List.mem_singleton_self _) (.inl ⟨rfl, rfl⟩)
    simp [handOver, Variant.ofArray, packets999] at hd

end Scalars

/-! ### The elements read -/

namespace Server

variable {cap : Nat} {packetCount : PacketCount}

/-- Neither output, queue nor flag was touched. -/
structure Untouched (s s' : Server cap) : Prop where
  subOut : s'.subOut = s.subOut
  subReturnOut : s'.subReturnOut = s.subReturnOut
  msgq : s'.msgq = s.msgq
  gRunning : s'.gRunning = s.gRunning
  fpSubscriberOutput : s'.fpSubscriberOutput = s.fpSubscriberOutput

lemma Untouched.refl (s : Server cap) : Untouched s s := ⟨rfl, rfl, rfl, rfl, rfl⟩

/-- What the publishers send has the length that is expected. -/
lemma pubGetDataToTransmit_sample (s : Server cap) (now : UInt64) :
    ∃ p, (s.pubGetDataToTransmit packetCount now).2 = sample p := ⟨(_, _), rfl⟩

lemma forward_reply (s : Server cap) (m : MsgqBuf) (now : UInt64) :
    ∃ m' seqB, (s.forward packetCount m now).2.2 = reply m' seqB now := ⟨_, _, rfl⟩

/-! #### B's subscriber -/

end Server

section Shapes

open Server

end Shapes

end Opcua

end TsnRefSw
