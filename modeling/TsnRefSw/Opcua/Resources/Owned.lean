import TsnRefSw.Core.Slots
import TsnRefSw.Opcua.Resources.Basic

/-!
# Reachable resources

While `parseJson()` runs, every resource that is held is reachable from the `ServerData`, but for
those that are still to be assigned. `free_resources()` releases what is reachable.
-/

namespace TsnRefSw

open Core

namespace Opcua

namespace Resources

/-! ### What is reachable -/

def Pointer.memory (p : Pointer) : List Resource := (p.map Resource.memory).toList

def Pointer.file (p : Pointer) : List Resource := (p.map Resource.file).toList

def PublisherEntry.owned (e : PublisherEntry) : List Resource := Pointer.memory e.url

def SubscriberEntry.owned (e : SubscriberEntry) : List Resource :=
  Pointer.memory e.url ++ Pointer.memory e.subscriberOutputFileName ++
    Pointer.file e.fpSubscriberOutput

namespace Memory

/-- What can be reached from `s`, in the order it is released. -/
def owned (m : Memory) : List Resource :=
  m.publishers.flatMap PublisherEntry.owned ++ (Pointer.memory m.pubData ++
    (m.subscribers.flatMap SubscriberEntry.owned ++ (Pointer.memory m.subData ++
      (Pointer.memory m.subInterface ++ (Pointer.memory m.pubInterface ++
        Pointer.memory m.server)))))

/-- The resources held are those reachable from `s` and the ones in `rs`, which are still to be
assigned. -/
structure Holding (rs : List Resource) (m : Memory) : Prop where
  account : Ledger.Account m.log (m.owned ++ rs)
  /-- No number was given out twice. -/
  fresh : ∀ n, m.next ≤ n → .acquire (.memory n) ∉ m.log ∧ .acquire (.file n) ∉ m.log
  server : ∃ s, m.server = some s
  pubCount : m.pubCount = m.publishers.length
  subCount : m.subCount = m.subscribers.length

/-! ### Releasing -/

/-- `m'` is `m` after `rs` were released. -/
structure Releases (m : Memory) (rs : List Resource) (m' : Memory) : Prop where
  data : ∃ es, m' = m.record es
  account : ∀ rs', Ledger.Account m.log (rs ++ rs') → Ledger.Account m'.log rs'

lemma record_record (m : Memory) (es es' : List (LedgerEvent Resource)) :
    (m.record es).record es' = m.record (es ++ es') := by
  simp [record]

namespace Releases

variable {m m' m'' : Memory} {rs rs' : List Resource}

lemma refl (m : Memory) : Releases m [] m where
  data := ⟨[], by simp [record]⟩
  account _ h := h

lemma trans (h : Releases m rs m') (h' : Releases m' rs' m'') : Releases m (rs ++ rs') m'' where
  data := by
    obtain ⟨es, rfl⟩ := h.data
    obtain ⟨es', rfl⟩ := h'.data
    exact ⟨es ++ es', record_record m es es'⟩
  account rs'' ha := by
    rw [List.append_assoc] at ha
    exact h'.account rs'' (h.account _ ha)

/-- The pointers are still the ones of `m` when the next step looks at them. -/
lemma step (h : Releases m rs m') {f : Memory → Memory}
    (hf : ∀ es, Releases (m.record es) rs' (f (m.record es))) : Releases m (rs ++ rs') (f m') := by
  apply h.trans
  obtain ⟨es, rfl⟩ := h.data
  exact hf es

end Releases

lemma releases_free (m : Memory) (p : Pointer) : Releases m (Pointer.memory p) (m.free p) := by
  cases p with
  | none => exact .refl m
  | some n =>
    refine ⟨⟨_, rfl⟩, fun rs h => ?_⟩
    exact h.release

lemma releases_fclose (m : Memory) (p : Pointer) : Releases m (Pointer.file p) (m.fclose p) := by
  cases p with
  | none => exact .refl m
  | some n =>
    refine ⟨⟨_, rfl⟩, fun rs h => ?_⟩
    have huse : Ledger.Account (m.log ++ [.use (.file n)]) (.file n :: rs) :=
      h.use (List.mem_cons_self ..)
    have hrelease := huse.release
    rwa [List.append_assoc] at hrelease

/-- A loop releases what its rounds release. -/
lemma releases_foldl {f : Memory → Nat → Memory} {own : Nat → List Resource} (is : List Nat)
    {m : Memory} (hf : ∀ i ∈ is, ∀ es, Releases (m.record es) (own i) (f (m.record es) i)) :
    Releases m (is.flatMap own) (is.foldl f m) := by
  induction is generalizing m with
  | nil => exact .refl m
  | cons i is ih =>
    have hstep : Releases m (own i) (f m i) := by
      have h := hf i (List.mem_cons_self ..) []
      rwa [show m.record [] = m by simp [record]] at h
    apply hstep.step (f := fun m => is.foldl f m)
    intro es
    apply ih
    intro k hk es'
    rw [record_record]
    exact hf k (List.mem_cons_of_mem _ hk) _

lemma releases_freePublisher {m : Memory} {i : Nat} (hi : i < m.publishers.length) :
    Releases m ((m.publishers[i]?.map PublisherEntry.owned).getD []) (m.freePublisher i) := by
  unfold freePublisher
  rw [List.getElem?_eq_getElem hi]
  exact releases_free m _

lemma releases_freeSubscriber {m : Memory} {j : Nat} (hj : j < m.subscribers.length) :
    Releases m ((m.subscribers[j]?.map SubscriberEntry.owned).getD []) (m.freeSubscriber j) := by
  unfold freeSubscriber
  rw [List.getElem?_eq_getElem hj]
  exact ((releases_free m _).trans (releases_free _ _)).trans (releases_fclose _ _)

lemma releases_freePublishers (m : Memory) :
    Releases m (m.publishers.flatMap PublisherEntry.owned)
      ((List.range m.publishers.length).foldl freePublisher m) := by
  rw [← flatMap_range]
  exact releases_foldl _ fun i hi es => releases_freePublisher (List.mem_range.mp hi)

lemma releases_freeSubscribers (m : Memory) :
    Releases m (m.subscribers.flatMap SubscriberEntry.owned)
      ((List.range m.subscribers.length).foldl freeSubscriber m) := by
  rw [← flatMap_range]
  exact releases_foldl _ fun j hj es => releases_freeSubscriber (List.mem_range.mp hj)

/-- `free_resources()` releases what is reachable. -/
lemma releases_freeResources {m : Memory} {s : Nat} (hs : m.server = some s)
    (hpub : m.pubCount = m.publishers.length) (hsub : m.subCount = m.subscribers.length) :
    Releases m m.owned m.freeResources := by
  have h₁ := releases_freePublishers m
  have h₂ := h₁.step (f := fun m => m.free m.pubData)
    fun es => releases_free (m.record es) m.pubData
  have h₃ : Releases m (_ ++ m.subscribers.flatMap SubscriberEntry.owned) _ :=
    h₂.step (f := fun m => (List.range m.subCount).foldl freeSubscriber m) fun es => by
      have h := releases_freeSubscribers (m.record es)
      rwa [← show (m.record es).subCount = (m.record es).subscribers.length from hsub] at h
  have h₄ := h₃.step
    (f := fun m => (((m.free m.subData).free m.subInterface).free m.pubInterface).free (some s))
    fun es => (((releases_free (m.record es) m.subData).trans
      (releases_free _ m.subInterface)).trans
      (releases_free _ m.pubInterface)).trans (releases_free _ (some s))
  rw [← hpub] at h₄
  unfold freeResources owned
  simpa only [hs, List.append_assoc] using h₄

/-- `free_resources()` releases everything. -/
theorem Holding.account_freeResources {m : Memory} (h : Holding [] m) :
    Ledger.Account m.freeResources.log [] := by
  obtain ⟨s, hs⟩ := h.server
  exact (releases_freeResources hs h.pubCount h.subCount).account [] h.account

/-! ### Acquiring and assigning -/

namespace Holding

variable {m m' : Memory} {rs rs' : List Resource}

lemma acquire (h : Holding rs m) {r : Resource} (hr : r = .memory m.next ∨ r = .file m.next) :
    Holding (r :: rs) { m.record [.acquire r] with next := m.next + 1 } where
  account := by
    have hnew : .acquire r ∉ m.log := by
      obtain ⟨hmemory, hfile⟩ := h.fresh m.next (Nat.le_refl _)
      obtain rfl | rfl := hr
      · exact hmemory
      · exact hfile
    exact (h.account.acquire hnew).perm List.perm_middle.symm
  fresh n hn := by
    obtain ⟨hmemory, hfile⟩ := h.fresh n (Nat.le_of_succ_le hn)
    have hne : n ≠ m.next := Nat.ne_of_gt hn
    obtain rfl | rfl := hr
    · simp [record, hmemory, hfile, hne]
    · simp [record, hmemory, hfile, hne]
  server := h.server
  pubCount := h.pubCount
  subCount := h.subCount

lemma malloc (h : Holding rs m) : Holding (.memory m.malloc.1 :: rs) m.malloc.2 :=
  h.acquire (.inl rfl)

lemma fopen (h : Holding rs m) : Holding (.file m.fopen.1 :: rs) m.fopen.2 :=
  h.acquire (.inr rfl)

/-- Where nothing is acquired, only what is reachable has to be compared. -/
lemma record (h : Holding rs m) {es : List (LedgerEvent Resource)}
    (ha : Ledger.Account (m.log ++ es) (m.owned ++ rs')) (hes : ∀ r, .acquire r ∉ es) :
    Holding rs' (m.record es) where
  account := ha
  fresh n hn := by
    obtain ⟨hmemory, hfile⟩ := h.fresh n hn
    simp [Memory.record, hmemory, hfile, hes]
  server := h.server
  pubCount := h.pubCount
  subCount := h.subCount

lemma free {n : Nat} (h : Holding (.memory n :: rs) m) : Holding rs (m.free (some n)) := by
  apply h.record
  · exact (h.account.perm List.perm_middle).release
  · simp

/-- An assignment to pointers: what is reachable afterwards is compared resource by resource. -/
lemma assign (h : Holding rs m) (hlog : m'.log = m.log ∧ m'.next = m.next ∧ m'.server = m.server)
    (hpub : m'.pubCount = m'.publishers.length) (hsub : m'.subCount = m'.subscribers.length)
    (hcount : ∀ r, (m.owned ++ rs).count r = (m'.owned ++ rs').count r) : Holding rs' m' where
  account := by
    rw [hlog.1]
    exact h.account.perm (List.perm_iff_count.mpr hcount)
  fresh := by
    rw [hlog.1, hlog.2.1]
    exact h.fresh
  server := by
    rw [hlog.2.2]
    exact h.server
  pubCount := hpub
  subCount := hsub

lemma setPublisher (h : Holding rs m) {i : Nat} {e : PublisherEntry}
    (he : m.publishers[i]? = some e) {f : PublisherEntry → PublisherEntry}
    (hp : (e.owned ++ rs).Perm ((f e).owned ++ rs')) :
    Holding rs' (m.setPublisher i f) ∧
      (m.setPublisher i f).publishers = m.publishers.set i (f e) ∧
      (m.setPublisher i f).subscribers = m.subscribers := by
  have hset : m.setPublisher i f = { m with publishers := m.publishers.set i (f e) } := by
    simp [Memory.setPublisher, he]
  rw [hset]
  refine ⟨h.assign ⟨rfl, rfl, rfl⟩ ?_ h.subCount fun r => ?_, rfl, rfl⟩
  · rw [List.length_set]
    exact h.pubCount
  · have hr := (perm_flatMap_set he hp).count_eq r
    simp only [owned, List.count_append] at hr ⊢
    omega

lemma setSubscriber (h : Holding rs m) {j : Nat} {e : SubscriberEntry}
    (he : m.subscribers[j]? = some e) {f : SubscriberEntry → SubscriberEntry}
    (hp : (e.owned ++ rs).Perm ((f e).owned ++ rs')) :
    Holding rs' (m.setSubscriber j f) ∧
      (m.setSubscriber j f).subscribers = m.subscribers.set j (f e) := by
  have hset : m.setSubscriber j f = { m with subscribers := m.subscribers.set j (f e) } := by
    simp [Memory.setSubscriber, he]
  rw [hset]
  refine ⟨h.assign ⟨rfl, rfl, rfl⟩ h.pubCount ?_ fun r => ?_, rfl⟩
  · rw [List.length_set]
    exact h.subCount
  · have hr := (perm_flatMap_set he hp).count_eq r
    simp only [owned, List.count_append] at hr ⊢
    omega

end Holding

end Memory

end Resources

end Opcua

end TsnRefSw
