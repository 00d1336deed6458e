import Mathlib.Data.List.Perm.Basic
import TsnRefSw.Core.Ledger
import TsnRefSw.Core.Lts
import TsnRefSw.Core.Prog

/-!
# What the channels of the AF_XDP plugin acquire

A channel is opened with memory of its own, memory for frames, and two objects of the library. It
can fail at every call, and is closed in any order with others. The frames are pointed to by the
`xdp_umem` alone, which is given back without them.

What `open` and `close` do besides, with the channel and its data, is left out.
-/

namespace TsnRefSw

open Core

namespace Plugin

namespace Channels

/-! ### Resources -/

inductive Kind where
  /-- `UA_calloc()` -/
  | memory
  /-- `posix_memalign()` -/
  | frames
  /-- `xsk_umem__create()` -/
  | xskUmem
  /-- `xsk_socket__create()` -/
  | xskSocket
deriving DecidableEq, Repr

structure Resource where
  kind : Kind
  number : Nat
deriving DecidableEq, Repr

/-- What happened to resources so far. -/
structure Heap where
  log : List (LedgerEvent Resource)
  /-- The number of the next resource. -/
  next : Nat

/-- `xdp_umem` -/
structure XdpUmem where
  self : Nat
  buffer : Nat
  umem : Nat

/-- `xdpsock` -/
structure Xdpsock where
  self : Nat
  umem : XdpUmem
  xskfd : Nat

namespace Heap

def record (h : Heap) (e : LedgerEvent Resource) : Heap := { h with log := h.log ++ [e] }

def acquire (h : Heap) (k : Kind) : Heap :=
  { h.record (.acquire ⟨k, h.next⟩) with next := h.next + 1 }

end Heap

/-- A program that acquires and releases resources; a pointer it returns may be `NULL`. -/
abbrev Program := Prog Heap Empty

open Prog

/-- A call that finds what it is asked for. -/
def allocate (k : Kind) : Program Nat := act fun h => (h.next, h.acquire k)

def access (k : Kind) (n : Nat) : Program Unit := update fun h => h.record (.use ⟨k, n⟩)

def release (k : Kind) (n : Nat) : Program Unit := update fun h => h.record (.release ⟨k, n⟩)

/-- The calls that can fail. -/
inductive Call where
  /-- `xskparam = UA_calloc(...)` -/
  | xskparam
  /-- `xdp_socket = UA_calloc(...)` -/
  | xdpSocket
  /-- `umem = UA_calloc(...)` -/
  | umem
  | posixMemalign
  | xskUmemCreate
  | xskRingProdReserve
  | xskSocketCreate
  | bpfGetLinkXdpId
deriving DecidableEq, Repr

/-! ### Opening and closing -/

/-- `xdp_umem_configure()`; `failing` is the first call to fail, if there is one. -/
def xdpUmemConfigure (failing : Option Call) (xskparam : Nat) : Program (Option XdpUmem) := do
  access .memory xskparam
  if failing = some .umem then return none
  let umem ← allocate .memory
  if failing = some .posixMemalign then
    release .memory umem
    return none
  let buffer ← allocate .frames
  if failing = some .xskUmemCreate then
    release .memory umem
    return none
  let xskUmem ← allocate .xskUmem
  if failing = some .xskRingProdReserve then
    release .memory umem
    return none
  return some ⟨umem, buffer, xskUmem⟩

/-- What follows the label `error` in `xsk_configure()`, with the fields of the socket. -/
def error (xskparam xdpSocket : Nat) (umem xskfd : Option Nat) : Program (Option Xdpsock) := do
  access .memory xdpSocket
  -- Of a socket the descriptor is closed, but it is not deleted.
  if let some xskfd := xskfd then access .xskSocket xskfd
  release .memory xskparam
  if let some umem := umem then release .memory umem
  release .memory xdpSocket
  return none

/-- `xsk_configure()`. -/
def xskConfigure (failing : Option Call) : Program (Option Xdpsock) := do
  if failing = some .xskparam then return none
  let xskparam ← allocate .memory
  if failing = some .xdpSocket then
    release .memory xskparam
    return none
  let xdpSocket ← allocate .memory
  match ← xdpUmemConfigure failing xskparam with
  | none      => error xskparam xdpSocket none none
  | some umem =>
    access .xskUmem umem.umem
    if failing = some .xskSocketCreate then error xskparam xdpSocket umem.self none
    else
      let xskfd ← allocate .xskSocket
      if failing = some .bpfGetLinkXdpId then error xskparam xdpSocket umem.self xskfd
      else
        release .memory xskparam
        return some ⟨xdpSocket, umem, xskfd⟩

/-- `UA_PubSubChannelEthernetXDP_close()`. -/
def close (s : Xdpsock) : Program Unit := do
  access .memory s.self
  release .xskSocket s.xskfd
  access .memory s.umem.self
  release .xskUmem s.umem.umem
  release .memory s.umem.self
  release .memory s.self

/-- The channels that are open, and what happened to resources. -/
structure OpenChannels where
  heap : Heap
  socks : List Xdpsock

inductive ChannelAct where
  | open (failing : Option Call)
  /-- The `i`-th of the open channels is closed. -/
  | close (i : Nat)
deriving DecidableEq

def OpenChannels.step (c : OpenChannels) : ChannelAct → Option OpenChannels
  | .open failing =>
    match (xskConfigure failing).exec c.heap with
    | (.ok p, heap) => some ⟨heap, c.socks ++ p.toList⟩
    | (.error e, _) => e.elim
  | .close i =>
    match c.socks[i]? with
    | some s => some ⟨((close s).exec c.heap).2, c.socks.eraseIdx i⟩
    | none   => none

/-- What is left behind where a call fails. -/
def Call.lost : Call → List Kind
  | .xskparam | .xdpSocket | .umem | .posixMemalign => []
  | .xskUmemCreate                                  => [.frames]
  | .xskRingProdReserve | .xskSocketCreate          => [.frames, .xskUmem]
  | .bpfGetLinkXdpId                                => [.frames, .xskUmem, .xskSocket]

def ChannelAct.lost : ChannelAct → List Kind
  | .open none        => []
  | .open (some call) => call.lost
  | .close _          => [.frames]

/-- What an open channel holds. -/
def Xdpsock.owned (s : Xdpsock) : List Resource :=
  [⟨.xskSocket, s.xskfd⟩, ⟨.xskUmem, s.umem.umem⟩, ⟨.memory, s.umem.self⟩, ⟨.memory, s.self⟩,
    ⟨.frames, s.umem.buffer⟩]

/-- The resources held are `rs`, and no number was given out twice. -/
structure Heap.Holding (rs : List Resource) (h : Heap) : Prop where
  account : Ledger.Account h.log rs
  fresh : ∀ r : Resource, h.next ≤ r.number → .acquire r ∉ h.log

namespace Heap.Holding

variable {rs rs' : List Resource} {r : Resource} {h : Heap}

lemma perm (hh : h.Holding rs) (hp : rs.Perm rs') : h.Holding rs' := ⟨hh.account.perm hp, hh.fresh⟩

lemma acquire (hh : h.Holding rs) (k : Kind) : (h.acquire k).Holding (⟨k, h.next⟩ :: rs) where
  account := hh.account.acquire (hh.fresh _ (Nat.le_refl _))
  fresh r hr := by
    have hlt : h.next < r.number := hr
    intro hmem
    rcases List.mem_append.mp hmem with hold | hnew
    · exact hh.fresh r (Nat.le_of_lt hlt) hold
    · cases List.mem_singleton.mp hnew
      exact Nat.lt_irrefl _ hlt

lemma fresh_record (hh : h.Holding rs) {e : LedgerEvent Resource} (he : ∀ r, e ≠ .acquire r)
    (r : Resource) (hr : h.next ≤ r.number) : .acquire r ∉ (h.record e).log := by
  intro hmem
  rcases List.mem_append.mp hmem with hold | hnew
  · exact hh.fresh r hr hold
  · exact he r (List.mem_singleton.mp hnew).symm

lemma use (hh : h.Holding rs) (hr : r ∈ rs) : (h.record (.use r)).Holding rs :=
  ⟨hh.account.use hr, hh.fresh_record (fun _ he => by cases he)⟩

lemma release (hh : h.Holding (r :: rs)) : (h.record (.release r)).Holding rs :=
  ⟨hh.account.release, hh.fresh_record (fun _ he => by cases he)⟩

end Heap.Holding

/-! ### The programs -/

section
variable {rs : List Resource} {k : Kind} {n : Nat} {α : Type} {E : Empty → Heap → Prop}

lemma triple_allocate : Triple (Heap.Holding rs) (allocate k)
    (fun n h => h.Holding (⟨k, n⟩ :: rs)) E :=
  .act fun _ hh => hh.acquire k

lemma triple_access (hr : ⟨k, n⟩ ∈ rs) :
    Triple (Heap.Holding rs) (access k n) (fun _ h => h.Holding rs) E :=
  .update fun _ hh => hh.use hr

lemma triple_release (l : List Resource) :
    Triple (Heap.Holding (l ++ ⟨k, n⟩ :: rs)) (release k n) (fun _ h => h.Holding (l ++ rs)) E :=
  .update fun _ hh => (hh.perm List.perm_middle).release

end

/-- What `xdp_umem_configure()` leaves. -/
def UmemConfigured (failing : Option Call) (rs : List Resource) (p : Option XdpUmem) (h : Heap) :
    Prop :=
  match p with
  | some u => h.Holding (⟨.xskUmem, u.umem⟩ :: ⟨.frames, u.buffer⟩ :: ⟨.memory, u.self⟩ :: rs) ∧
      ∀ c ∈ failing, c ∈ [Call.xskparam, .xdpSocket, .xskSocketCreate, .bpfGetLinkXdpId]
  | none => ∃ c lost, failing = some c ∧ lost.map Resource.kind = c.lost ∧ h.Holding (lost ++ rs)

lemma triple_xdpUmemConfigure {failing : Option Call} {rs : List Resource} {xskparam : Nat}
    {E : Empty → Heap → Prop} (hx : ⟨.memory, xskparam⟩ ∈ rs) :
    Triple (Heap.Holding rs) (xdpUmemConfigure failing xskparam) (UmemConfigured failing rs) E := by
  unfold xdpUmemConfigure
  refine .bind (triple_access hx) fun _ => ?_
  by_cases humem : failing = some .umem
  · rw [if_pos humem]
    exact .pure fun h hh => ⟨_, [], humem, rfl, hh⟩
  rw [if_neg humem]
  refine .bind triple_allocate fun umem => ?_
  by_cases hbuffer : failing = some .posixMemalign
  · rw [if_pos hbuffer]
    refine .bind (triple_release []) fun _ => ?_
    exact .pure fun h hh => ⟨_, [], hbuffer, rfl, hh⟩
  rw [if_neg hbuffer]
  refine .bind triple_allocate fun buffer => ?_
  by_cases hcreate : failing = some .xskUmemCreate
  · rw [if_pos hcreate]
    refine .bind (triple_release [_]) fun _ => ?_
    exact .pure fun h hh => ⟨_, [⟨.frames, buffer⟩], hcreate, rfl, hh⟩
  rw [if_neg hcreate]
  refine .bind triple_allocate fun xskUmem => ?_
  by_cases hreserve : failing = some .xskRingProdReserve
  · rw [if_pos hreserve]
    refine .bind (triple_release [_, _]) fun _ => ?_
    exact .pure fun h hh => ⟨_, [⟨.frames, buffer⟩, ⟨.xskUmem, xskUmem⟩], hreserve, rfl,
      hh.perm (.swap ..)⟩
  rw [if_neg hreserve]
  refine .pure fun h hh => ⟨hh, ?_⟩
  rintro c rfl
  cases c with
  | umem => exact absurd rfl humem
  | posixMemalign => exact absurd rfl hbuffer
  | xskUmemCreate => exact absurd rfl hcreate
  | xskRingProdReserve => exact absurd rfl hreserve
  | _ => simp

/-- What follows `error` gives back the memory; the library's objects and the frames are left. -/
lemma triple_error {l : List Resource} (rs : List Resource) {xskparam xdpSocket : Nat}
    {umem xskfd : Option Nat} {E : Empty → Heap → Prop} (hxskfd : ∀ n ∈ xskfd, ⟨.xskSocket, n⟩ ∈ l) :
    Triple
      (Heap.Holding (⟨.memory, xskparam⟩ :: (umem.toList.map (Resource.mk .memory) ++
        ⟨.memory, xdpSocket⟩ :: (l ++ rs))))
      (error xskparam xdpSocket umem xskfd) (fun p h => p = none ∧ h.Holding (l ++ rs)) E := by
  unfold error
  refine .bind (triple_access (by simp)) fun _ => ?_
  have hrest : Triple
      (Heap.Holding (⟨.memory, xskparam⟩ :: (umem.toList.map (Resource.mk .memory) ++
        ⟨.memory, xdpSocket⟩ :: (l ++ rs))))
      (do
        release .memory xskparam
        if let some umem := umem then release .memory umem
        release .memory xdpSocket
        return (none : Option Xdpsock))
      (fun p h => p = none ∧ h.Holding (l ++ rs)) E := by
    refine .bind (triple_release []) fun _ => ?_
    cases umem with
    | none =>
      refine .bind (triple_release []) fun _ => ?_
      exact .pure fun h hh => ⟨rfl, hh⟩
    | some umem =>
      refine .bind (triple_release []) fun _ => ?_
      refine .bind (triple_release []) fun _ => ?_
      exact .pure fun h hh => ⟨rfl, hh⟩
  cases xskfd with
  | none => exact hrest
  | some xskfd =>
    refine .bind (triple_access ?_) fun _ => hrest
    have hmem := hxskfd xskfd rfl
    simp [hmem]

/-- What `xsk_configure()` leaves: an open channel, or what the failed call leaves behind. -/
def Configured (failing : Option Call) (rs : List Resource) (p : Option Xdpsock) (h : Heap) :
    Prop :=
  match p with
  | some s => failing = none ∧ h.Holding (s.owned ++ rs)
  | none   => ∃ c lost, failing = some c ∧ lost.map Resource.kind = c.lost ∧ h.Holding (lost ++ rs)

lemma triple_error_of_count {failing : Option Call} {c : Call} (hc : failing = some c)
    (lost : List Resource) {rs held : List Resource} (hlost : lost.map Resource.kind = c.lost)
    {xskparam xdpSocket : Nat} {umem xskfd : Option Nat} {E : Empty → Heap → Prop}
    (hxskfd : ∀ n ∈ xskfd, ⟨.xskSocket, n⟩ ∈ lost)
    (hheld : ∀ r, held.count r = (⟨.memory, xskparam⟩ :: (umem.toList.map (Resource.mk .memory) ++
      ⟨.memory, xdpSocket⟩ :: (lost ++ rs))).count r) :
    Triple (Heap.Holding held) (error xskparam xdpSocket umem xskfd) (Configured failing rs) E := by
  have hperm := List.perm_iff_count.mpr hheld
  refine (triple_error rs hxskfd).consequence (fun h hh => hh.perm hperm) fun p h hh => ?_
  obtain ⟨rfl, hh⟩ := hh
  exact ⟨c, lost, hc, hlost, hh⟩

/-- No call fails, if none of those that are left does. -/
lemma none_failing {failing : Option Call} {left : List Call} (hleft : ∀ c ∈ failing, c ∈ left)
    (hne : ∀ c ∈ left, failing ≠ some c) : failing = none := by
  rw [Option.eq_none_iff_forall_not_mem]
  intro c hc
  exact hne c (hleft c hc) hc

lemma triple_xskConfigure (failing : Option Call) {rs : List Resource} {E : Empty → Heap → Prop} :
    Triple (Heap.Holding rs) (xskConfigure failing) (Configured failing rs) E := by
  unfold xskConfigure
  by_cases hxskparam : failing = some .xskparam
  · rw [if_pos hxskparam]
    exact .pure fun h hh => ⟨_, [], hxskparam, rfl, hh⟩
  rw [if_neg hxskparam]
  refine .bind triple_allocate fun xskparam => ?_
  by_cases hsocket : failing = some .xdpSocket
  · rw [if_pos hsocket]
    refine .bind (triple_release []) fun _ => ?_
    exact .pure fun h hh => ⟨_, [], hsocket, rfl, hh⟩
  rw [if_neg hsocket]
  refine .bind triple_allocate fun xdpSocket => ?_
  refine .bind (triple_xdpUmemConfigure (by simp)) fun p => ?_
  intro h hh
  cases p with
  | none =>
    obtain ⟨c, lost, hc, hlost, hh⟩ := hh
    refine (?_ : Triple (Heap.Holding _) (error xskparam xdpSocket none none) _ E) h hh
    refine triple_error_of_count hc lost hlost nofun fun r => ?_
    simp only [List.count_append, List.count_cons, Option.toList_none, List.map_nil,
      List.nil_append]
    omega
  | some umem =>
    obtain ⟨hh, hlate⟩ := hh
    refine (?_ : Triple (Heap.Holding _) _ _ E) h hh
    refine .bind (triple_access (by simp)) fun _ => ?_
    by_cases hcreate : failing = some .xskSocketCreate
    · rw [if_pos hcreate]
      refine triple_error_of_count hcreate
        [⟨.frames, umem.buffer⟩, ⟨.xskUmem, umem.umem⟩] rfl nofun fun r => ?_
      simp only [List.count_append, List.count_cons, Option.toList_some, List.map_cons,
        List.map_nil, List.count_nil]
      omega
    rw [if_neg hcreate]
    refine .bind triple_allocate fun xskfd => ?_
    by_cases hprogram : failing = some .bpfGetLinkXdpId
    · rw [if_pos hprogram]
      refine triple_error_of_count hprogram
        [⟨.frames, umem.buffer⟩, ⟨.xskUmem, umem.umem⟩, ⟨.xskSocket, xskfd⟩] rfl (by simp)
        fun r => ?_
      simp only [List.count_append, List.count_cons, Option.toList_some, List.map_cons,
        List.map_nil, List.count_nil]
      omega
    rw [if_neg hprogram]
    have hnone := none_failing hlate (by simp [hxskparam, hsocket, hcreate, hprogram])
    refine .bind (triple_release [_, _, _, _, _]) fun _ => ?_
    refine .pure fun h hh => ⟨hnone, hh.perm ?_⟩
    rw [List.perm_iff_count]
    intro r
    simp only [Xdpsock.owned, List.count_append, List.count_cons, List.count_nil]
    omega

/-- What is closed gives back all it held but the frames. -/
lemma triple_close {s : Xdpsock} {rs : List Resource} {E : Empty → Heap → Prop} :
    Triple (Heap.Holding (s.owned ++ rs)) (close s)
      (fun _ h => h.Holding (⟨.frames, s.umem.buffer⟩ :: rs)) E := by
  unfold close
  refine .bind (triple_access (by simp [Xdpsock.owned])) fun _ => ?_
  refine .bind (triple_release []) fun _ => ?_
  refine .bind (triple_access (by simp)) fun _ => ?_
  refine .bind (triple_release []) fun _ => ?_
  refine .bind (triple_release []) fun _ => ?_
  exact triple_release []

/-! ### Whole runs -/

/-- What an action adds to the resources that are lost. -/
lemma step_cases {c c' : OpenChannels} {a : ChannelAct} (h : c.step a = some c')
    {lost : List Resource} (hh : c.heap.Holding (c.socks.flatMap Xdpsock.owned ++ lost)) :
    ∃ lost', lost'.map Resource.kind = a.lost ∧
      c'.heap.Holding (c'.socks.flatMap Xdpsock.owned ++ (lost ++ lost')) := by
  rcases a with failing | i
  · have hopen := triple_xskConfigure failing (E := fun e _ => e.elim) c.heap hh
    rw [OpenChannels.step] at h
    split at h
    · next p heap hexec =>
      rw [hexec] at hopen
      cases h
      cases p with
      | some s =>
        obtain ⟨rfl, hh⟩ := hopen
        refine ⟨[], rfl, hh.perm ?_⟩
        rw [Option.toList_some, List.flatMap_append, List.flatMap_singleton, List.append_nil,
          ← List.append_assoc]
        exact List.perm_append_comm.append_right lost
      | none =>
        obtain ⟨call, lost', rfl, hlost, hh⟩ := hopen
        refine ⟨lost', hlost, hh.perm ?_⟩
        rw [Option.toList_none, List.append_nil]
        exact List.perm_append_comm.trans (.of_eq (List.append_assoc ..))
    · next e heap hexec => exact e.elim
  · rw [OpenChannels.step] at h
    split at h
    · next s hs =>
      cases h
      obtain ⟨hi, rfl⟩ := List.getElem?_eq_some_iff.mp hs
      have hsocks : (c.socks.flatMap Xdpsock.owned ++ lost).Perm
          (c.socks[i].owned ++ ((c.socks.eraseIdx i).flatMap Xdpsock.owned ++ lost)) := by
        rw [← List.append_assoc, ← List.flatMap_cons]
        exact (List.getElem_cons_eraseIdx_perm hi).symm.flatMap_right _ |>.append_right lost
      have hclose := triple_close (E := fun e _ => e.elim) c.heap (hh.perm hsocks)
      refine ⟨[⟨.frames, c.socks[i].umem.buffer⟩], rfl, ?_⟩
      refine Heap.Holding.perm hclose ?_
      rw [← List.append_assoc]
      exact (List.perm_append_singleton _ _).symm
    · cases h

end Channels

end Plugin

end TsnRefSw
