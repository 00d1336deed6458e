import TsnRefSw.Plugin.Publisher

/-!
# The subscriber

The callback takes the oldest of the messages that wait, as long as packets are stored in other
frames than theirs.
-/

namespace TsnRefSw

open Core

namespace Plugin

open Txrx (XskLib RxDesc)

/-- The packet of `d` is the frame of `m`, and lies within one frame of the packet memory. -/
structure Waits (ch : SendChannel) (s : XdpSock) (d : RxDesc) (m : List UInt8) : Prop where
  proper : Proper ch m
  len : d.len = (frame ch m).length
  stored : s.buffer.Contains d.addr (frame ch m)
  within : d.addr % frameSize + d.len ≤ frameSize

/-- `rx` are the messages that wait to be read. -/
structure Finds (ch : SendChannel) (s : XdpSock) (rx : List (List UInt8)) : Prop where
  settled : Settled s
  posted : Posted s
  used : s.rxRing.used = rx.length
  waits : ∀ i m, rx[i]? = some m → Waits ch s (s.rxRing.entry (s.rxRing.cons + i)) m

section

variable {lib : XskLib} {ch : SendChannel} {s s' : XdpSock} {rx : List (List UInt8)}

lemma finds_init (h : (receiveLts lib ch.toChannel).init s) : Finds ch s [] := by
  obtain ⟨buffer, hs⟩ := id h
  obtain ⟨fq, -, rfl⟩ := Option.map_eq_some_iff.mp hs
  exact ⟨settled_init h, posted_init hs, rfl, nofun⟩

/-- The callback accepts the frame of a message. -/
lemma Waits.accepts {d : RxDesc} {m : List UInt8} (h : Waits ch s d m) :
    Accepts ch.toChannel s.buffer d := by
  have hpasses : Passes ch.toChannel { s with rxRing := (Ring.empty d : Ring RxDesc noOfDesc) } :=
    passes_of_frame (s := { s with rxRing := (Ring.empty d : Ring RxDesc noOfDesc) }) h.stored
  refine ⟨hpasses.1, hpasses.2, fun hzero => h.proper.2 ?_⟩
  have hfits : headerSize ch.toChannel + m.length ≤ 2048 := h.proper.1
  have hlen := h.len
  rw [length_frame] at hlen
  have hpayload : (payload ch.toChannel d).length.toNat = d.len - headerSize ch.toChannel :=
    toNat_length_payload (by omega) (by omega)
  rw [hzero, hlen, Nat.add_sub_cancel_left] at hpayload
  exact List.eq_nil_of_length_eq_zero hpayload.symm

/-- Nothing is found if there is nothing or the callback does not look. -/
lemma subscribed_idle {ch : Channel} {a : Act} (h : ¬ (Looks a ∧ 0 < s.rxRing.used)) :
    subscribed lib ch s a = none := by
  match a with
  | .callback false _ => rfl
  | .callback true select =>
    rw [subscribed]
    have hspec := receive_spec lib ch s ⟨0, 512⟩ select
    generalize (receive lib ch s ⟨0, 512⟩ 1000 select).2.2 = t at hspec
    generalize (receive lib ch s ⟨0, 512⟩ 1000 select).2.1.length = length at hspec ⊢
    cases hspec with
    | idle _ => exact if_neg (by decide)
    | noSlot h₀ h₁ hp _ => exact absurd ⟨⟨select, rfl, h₀, h₁⟩, hp⟩ h
    | reject h₀ h₁ hp _ _ => exact absurd ⟨⟨select, rfl, h₀, h₁⟩, hp⟩ h
    | good h₀ h₁ hp _ _ _ => exact absurd ⟨⟨select, rfl, h₀, h₁⟩, hp⟩ h
  | .rxTake => rfl
  | .rxDeliver _ _ _ => rfl

/-- The callback finds the oldest message. -/
lemma Finds.subscribed {m : List UInt8} (h : Finds ch s (m :: rx)) {a : Act} (ha : Looks a) :
    subscribed lib ch.toChannel s a = some m := by
  obtain ⟨select, rfl, h₀, h₁⟩ := ha
  have hwaits : Waits ch s s.next m := h.waits 0 m rfl
  have hp : 0 < s.rxRing.used := by
    rw [h.used]
    exact Nat.succ_pos _
  have hgood : (receive lib ch.toChannel s ⟨0, 512⟩ 1000 select).1 = .good :=
    receive_good_iff.mpr ⟨⟨fun hc => h₀ hc.2, fun hc => h₁ hc.2, hp, h.settled.slot hp⟩,
      passes_of_frame hwaits.stored⟩
  have hpositive := hwaits.accepts.2.2
  have hfits : headerSize ch.toChannel + m.length ≤ 2048 := hwaits.proper.1
  have hlen := hwaits.len
  rw [length_frame] at hlen
  have hstored := hwaits.stored
  rw [frame, ← List.append_assoc] at hstored
  have hmessage := hstored.right
  rw [length_ethertypes, ← payload_data] at hmessage
  rw [Plugin.subscribed, receive_message hgood, if_pos (UInt64.pos_iff_ne_zero.mpr hpositive),
    toNat_length_payload (by omega) (by omega), hlen, Nat.add_sub_cancel_left, hmessage.bytes_eq]

/-- A run of the callback finds the oldest message, if there is one and it looks. -/
lemma Finds.callback (h : Finds ch s rx) (lib : XskLib) (allocated : Bool) (select : Int) :
    (∃ m rest, rx = m :: rest ∧
        Plugin.subscribed lib ch.toChannel s (.callback allocated select) = some m ∧
        Finds ch (subscribeCallback lib ch.toChannel s allocated select) rest) ∨
      (Plugin.subscribed lib ch.toChannel s (.callback allocated select) = none ∧
        Finds ch (subscribeCallback lib ch.toChannel s allocated select) rx) := by
  have haccepts (hp : 0 < s.rxRing.used) :
      Accepts ch.toChannel s.buffer (s.rxRing.entry s.rxRing.cons) := by
    obtain ⟨m, rest, rfl⟩ := List.exists_cons_of_length_pos (h.used ▸ hp)
    exact (h.waits 0 m rfl).accepts
  have hsettled : Settled (subscribeCallback lib ch.toChannel s allocated select) :=
    h.settled.callback fun _ hp => haccepts hp
  have hstep : Plugin.step lib ch.toChannel s (.callback allocated select) =
      some (subscribeCallback lib ch.toChannel s allocated select) := rfl
  have hposted := h.posted.step hstep
  have hspec := subscribeCallback_spec lib ch.toChannel s allocated select
  generalize subscribeCallback lib ch.toChannel s allocated select = t at *
  cases hspec with
  | idle hidle => exact .inr ⟨subscribed_idle hidle, h⟩
  | noSlot _ hp hr => exact absurd (h.settled.slot hp) hr
  | drop _ hp _ hd => exact absurd (haccepts hp) hd
  | accept hlooks hp hr _ =>
    obtain ⟨m, rest, rfl⟩ := List.exists_cons_of_length_pos (h.used ▸ hp)
    refine .inl ⟨m, rest, rfl, h.subscribed hlooks, hsettled, hposted, ?_, fun i m' hm' => ?_⟩
    · show (s.rxRing.pop hp).used = rest.length
      rw [Ring.used_pop, h.used]
      rfl
    · obtain ⟨hproper, hlen, hstored, hwithin⟩ := h.waits (i + 1) m' hm'
      rw [Nat.add_comm i, ← Nat.add_assoc] at hlen hstored hwithin
      exact ⟨hproper, hlen, hstored, hwithin⟩

/-- The frame of a message that is stored spares those that wait. -/
lemma Finds.deliver (h : Finds ch s rx) {m : List UInt8} (hm : Proper ch m) {j offset : Nat}
    (hs : Plugin.step lib ch.toChannel s (.rxDeliver j offset (frame ch m)) = some s')
    (hspares : ∀ addr ∈ s.rxHeld[j]?, ∀ d ∈ s.rxRing.entries, frameOf addr ≠ frameOf d.addr) :
    Finds ch s' (rx ++ [m]) := by
  have hlooks : FindsAccepted ch.toChannel s (.rxDeliver j offset (frame ch m)) :=
    fun ⟨_, ha, _⟩ => nomatch ha
  have hstep : (receiveLts lib ch.toChannel).step s (.rxDeliver j offset (frame ch m)) =
      some s' := hs
  have hsettled : Settled s' := h.settled.step hlooks hstep
  have hposted := h.posted.step hs
  obtain ⟨_, _, ha, -⟩ | ⟨ha, -⟩ | ⟨j', offset', packet, addr, ha, hj, hroom, hu, rfl⟩ :=
    step_cases hs
  · cases ha
  · cases ha
  cases ha
  obtain ⟨n, rfl⟩ := h.posted.held addr (List.mem_of_getElem? hj)
  have hoffset : offset < frameSize := by
    have hpos := length_frame_pos ch m
    omega
  refine ⟨hsettled, hposted, ?_, fun i m' hm' => ?_⟩
  · show (s.rxRing.push _ hu).used = _
    rw [Ring.used_push, h.used, List.length_append, List.length_singleton]
  · rcases Lts.getElem?_concat hm' with hm' | ⟨rfl, rfl⟩
    · -- a packet that was there before
      have hi := (List.getElem?_eq_some_iff.mp hm').1
      have hholds : s.rxRing.Holds (s.rxRing.cons + i) := by
        refine ⟨Nat.le_add_right _ _, ?_⟩
        rw [Ring.prod_eq, h.used]
        omega
      have hne := hspares _ hj _ (Ring.entry_mem_entries hholds)
      rw [frameOf, Nat.mul_div_cancel _ (by decide)] at hne
      obtain ⟨hproper, hlen, hstored, hwithin⟩ := h.waits i m' hm'
      show Waits ch _ ((s.rxRing.push _ hu).entry (s.rxRing.cons + i)) m'
      rw [Ring.entry_push_of_holds hu hholds]
      exact ⟨hproper, hlen, contains_of_ne hstored (hlen ▸ hwithin) hne hroom, hwithin⟩
    · -- the packet that was stored
      show Waits ch _ ((s.rxRing.push _ hu).entry (s.rxRing.cons + rx.length)) m'
      rw [← h.used, ← Ring.prod_eq, Ring.entry_push_self]
      refine ⟨hm, rfl, Memory.contains_copyTo _ _ _, ?_⟩
      rw [Nat.mul_add_mod_self_right, Nat.mod_eq_of_lt hoffset]
      exact hroom

/-- The kernel takes an address. -/
lemma Finds.take (h : Finds ch s rx)
    (hs : Plugin.step lib ch.toChannel s .rxTake = some s') : Finds ch s' rx := by
  have hlooks : FindsAccepted ch.toChannel s .rxTake := fun ⟨_, ha, _⟩ => nomatch ha
  have hstep : (receiveLts lib ch.toChannel).step s .rxTake = some s' := hs
  have hsettled : Settled s' := h.settled.step hlooks hstep
  have hposted := h.posted.step hs
  obtain ⟨_, _, ha, -⟩ | ⟨-, hu, rfl⟩ | ⟨_, _, _, _, ha, -⟩ := step_cases hs
  · cases ha
  · refine ⟨hsettled, hposted, h.used, fun i m hm => ?_⟩
    obtain ⟨hproper, hlen, hstored, hwithin⟩ := h.waits i m hm
    exact ⟨hproper, hlen, hstored, hwithin⟩
  · cases ha

end

/-! ### Kernels that keep the order -/

/-- Packets are stored in the frames in the order in which these were taken, and are not
empty. -/
def InOrder : Act → Prop
  | .rxDeliver j _ packet => j = 0 ∧ packet ≠ []
  | _                     => True

/-- The packet `n` is stored in frame `n % 2048`. -/
structure Aligned (s : XdpSock) : Prop where
  posted : Posted s
  taken : s.rxRing.prod + s.rxHeld.length = s.fq.cons
  held : ∀ k addr, s.rxHeld[k]? = some addr →
    addr = (s.rxRing.prod + k) % noOfDesc * frameSize
  frame : ∀ n, s.rxRing.Holds n → frameOf (s.rxRing.entry n).addr = n % noOfDesc ∧
    (s.rxRing.entry n).addr % frameSize + (s.rxRing.entry n).len ≤ frameSize

section

variable {lib : XskLib} {ch : Channel} {s s' : XdpSock} {a : Act}

lemma aligned_init (h : (receiveLts lib ch).init s) : Aligned s := by
  obtain ⟨buffer, hs⟩ := h
  have hposted := posted_init hs
  obtain ⟨fq, hfq, rfl⟩ := Option.map_eq_some_iff.mp hs
  obtain ⟨-, rfl⟩ := of_guard hfq
  exact ⟨hposted, rfl, nofun, fun n hn => absurd hn.2 (Nat.not_lt_zero n)⟩

/-- A run of the callback stores nothing and takes no frame. -/
lemma subscribeCallback_rings (lib : XskLib) (ch : Channel) (s : XdpSock) (allocated : Bool)
    (select : Int) :
    (subscribeCallback lib ch s allocated select).rxRing.prod = s.rxRing.prod ∧
      (subscribeCallback lib ch s allocated select).fq.cons = s.fq.cons ∧
      ∀ n, (subscribeCallback lib ch s allocated select).rxRing.Holds n → s.rxRing.Holds n ∧
        (subscribeCallback lib ch s allocated select).rxRing.entry n = s.rxRing.entry n := by
  have hspec := subscribeCallback_spec lib ch s allocated select
  generalize subscribeCallback lib ch s allocated select = t at hspec
  cases hspec with
  | idle _ => exact ⟨rfl, rfl, fun n hn => ⟨hn, rfl⟩⟩
  | noSlot _ hp _ => exact ⟨rfl, rfl, fun n hn => ⟨((Ring.holds_pop hp).mp hn).1, rfl⟩⟩
  | accept _ hp _ _ => exact ⟨rfl, rfl, fun n hn => ⟨((Ring.holds_pop hp).mp hn).1, rfl⟩⟩
  | drop _ hp _ _ => exact ⟨rfl, rfl, fun n hn => ⟨((Ring.holds_pop hp).mp hn).1, rfl⟩⟩

lemma Aligned.step (h : Aligned s) (horder : InOrder a)
    (hs : (receiveLts lib ch).step s a = some s') : Aligned s' := by
  have hposted := h.posted.step hs
  obtain ⟨allocated, select, -, rfl⟩ | ⟨-, hu, rfl⟩ |
    ⟨j, offset, packet, addr, rfl, hj, hroom, hu, rfl⟩ := step_cases hs
  · obtain ⟨-, hheld, -⟩ := subscribeCallback_frame lib ch s allocated select
    obtain ⟨hprod, hcons, hentries⟩ := subscribeCallback_rings lib ch s allocated select
    refine ⟨hposted, ?_, ?_, fun n hn => ?_⟩
    · rw [hprod, hcons, hheld]
      exact h.taken
    · rw [hprod, hheld]
      exact h.held
    · obtain ⟨hholds, hentry⟩ := hentries n hn
      rw [hentry]
      exact h.frame n hholds
  · refine ⟨hposted, ?_, fun k addr haddr => ?_, h.frame⟩
    · show s.rxRing.prod + (s.rxHeld ++ [_]).length = s.fq.cons + 1
      rw [List.length_append, List.length_singleton, ← Nat.add_assoc, h.taken]
    · rcases Lts.getElem?_concat haddr with haddr | ⟨rfl, rfl⟩
      · exact h.held k addr haddr
      · rw [h.taken]
        exact h.posted.slot _
  · obtain ⟨rfl, hne⟩ := horder
    obtain rfl := h.held 0 addr hj
    have hoffset : offset < frameSize := by
      have hpos := List.length_pos_of_ne_nil hne
      omega
    have hlt := (List.getElem?_eq_some_iff.mp hj).1
    refine ⟨hposted, ?_, fun k addr haddr => ?_, fun n hn => ?_⟩
    · show s.rxRing.prod + 1 + (s.rxHeld.eraseIdx 0).length = s.fq.cons
      rw [List.length_eraseIdx_of_lt hlt, ← h.taken]
      omega
    · show addr = (s.rxRing.prod + 1 + k) % noOfDesc * frameSize
      rw [Nat.add_assoc, Nat.add_comm 1]
      apply h.held (k + 1)
      rw [List.getElem?_eraseIdx_of_ge (Nat.zero_le k)] at haddr
      exact haddr
    · rcases (Ring.holds_push hu).mp hn with hn | rfl
      · show frameOf ((s.rxRing.push _ hu).entry n).addr = _ ∧
          ((s.rxRing.push _ hu).entry n).addr % frameSize + ((s.rxRing.push _ hu).entry n).len ≤ _
        rw [Ring.entry_push_of_holds hu hn]
        exact h.frame n hn
      · show frameOf ((s.rxRing.push _ hu).entry s.rxRing.prod).addr = _ ∧
          ((s.rxRing.push _ hu).entry s.rxRing.prod).addr % frameSize +
            ((s.rxRing.push _ hu).entry s.rxRing.prod).len ≤ _
        rw [Ring.entry_push_self]
        refine ⟨frameOf_add hoffset, ?_⟩
        rw [Nat.mul_add_mod_self_right, Nat.mod_eq_of_lt hoffset]
        exact hroom

/-- The next frame to store a packet in is none of those that wait to be read. -/
lemma Aligned.spares (h : Aligned s) {addr : Nat} (hj : s.rxHeld[0]? = some addr)
    (hu : s.rxRing.used < noOfDesc) : ∀ d ∈ s.rxRing.entries, frameOf addr ≠ frameOf d.addr := by
  intro d hd
  obtain ⟨n, hn, rfl⟩ := List.mem_map.mp hd
  rw [List.mem_range'_1, ← Ring.prod_eq] at hn
  obtain rfl := h.held 0 addr hj
  rw [(h.frame n hn).1, frameOf, Nat.mul_div_cancel _ (by decide)]
  apply (Ring.mod_ne_mod hn.2 _).symm
  rw [Ring.prod_eq]
  omega

/-- A kernel that keeps the order never overwrites a packet that waits to be read, whatever the
callback did with those before. -/
theorem deliver_spares {tr : List (XdpSock × Act)} (h : (receiveLts lib ch).Run tr s)
    (horder : ∀ x ∈ tr, InOrder x.2) {a : Act} (ha : InOrder a)
    (hs : (receiveLts lib ch).step s a = some s') :
    ∀ d ∈ s.rxRing.entries, s'.buffer.bytes d.addr d.len = s.buffer.bytes d.addr d.len := by
  have haligned : Aligned s := h.invariant_of (C := fun _ a => InOrder a)
    (fun _ => aligned_init) (fun _ _ _ hI hC hs => hI.step hC hs) horder
  intro d hd
  obtain ⟨allocated, select, -, rfl⟩ | ⟨-, -, rfl⟩ |
    ⟨j, offset, packet, addr, rfl, hj, hroom, hu, rfl⟩ := step_cases hs
  · rw [(subscribeCallback_frame lib ch s allocated select).2.2]
  · rfl
  · obtain ⟨rfl, -⟩ := ha
    have hne := haligned.spares hj hu d hd
    obtain ⟨n, hn, rfl⟩ := List.mem_map.mp hd
    rw [List.mem_range'_1, ← Ring.prod_eq] at hn
    obtain rfl := haligned.held 0 addr hj
    rw [frameOf, Nat.mul_div_cancel _ (by decide)] at hne
    have hstored := contains_of_ne
      (Memory.contains_bytes s.buffer (s.rxRing.entry n).addr (s.rxRing.entry n).len)
      (by rw [Memory.length_bytes]; exact (haligned.frame n hn).2) hne hroom
    have hbytes := hstored.bytes_eq
    rw [Memory.length_bytes] at hbytes
    exact hbytes

end

section Two

private def anyChannel : Channel := ⟨0, #v[0x01, 0x00, 0x5e, 0x00, 0x00, 0x07]⟩

/-- The subscriber as it was set up. -/
private def listening : XdpSock where
  buffer := fun _ => 0
  rxRing := .empty ⟨0, 0⟩
  rxReleased := 0
  fq := .full fun i => i * noOfDesc
  fqSubmitted := noOfDesc
  rxNpkts := 0
  rxHeld := []

private lemma listening_init : (receiveLts .reference anyChannel).init listening := by
  refine ⟨fun _ => 0, ?_⟩
  rw [xskConfigure, xdpUmemConfigure, if_pos]
  · rfl
  · exact (XskLib.reference.reserve_eq_iff _ (by decide)).mpr le_rfl

/-- Two packets are stored, and the first one is still there. -/
theorem deliver_spares_second :
    ∃ tr s s', (receiveLts .reference anyChannel).Run tr s ∧
      (receiveLts .reference anyChannel).step s (.rxDeliver 0 256 [2]) = some s' ∧
      ∀ d ∈ s.rxRing.entries, s'.buffer.bytes d.addr d.len = [1] := by
  have h₁ := (Lts.Run.init listening_init).step (a := .rxTake) rfl
  have h₂ := h₁.step (a := .rxTake) rfl
  have h₃ := h₂.step (a := .rxDeliver 0 256 [1])
    (step_deliver _ _ rfl (by decide +kernel) (by decide +kernel))
  refine ⟨_, _, _, h₃, step_deliver _ _ rfl (by decide +kernel) (by decide +kernel), fun d hd => ?_⟩
  rw [deliver_spares h₃ (by simp [InOrder]) (a := .rxDeliver 0 256 [2]) ⟨rfl, by simp⟩
    (step_deliver _ _ rfl (by decide +kernel) (by decide +kernel)) d hd]
  revert d
  decide +kernel

end Two

end Plugin

end TsnRefSw
