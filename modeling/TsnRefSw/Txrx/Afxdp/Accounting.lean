import TsnRefSw.Txrx.Afxdp.Send

/-!
# What the send thread counts

`afxdp_send_pkt()` and `update_txstats()` once more, statement by statement where they touch
the rings and the counters: a descriptor is written, submitted and then counted, and a
completion is looked at, released and then counted, with the kernel free to run between any
two of the statements. The counters agree with the rings at the end of each of the two
sequences. Inside of them they are behind by what is still to be counted.
-/

namespace TsnRefSw

open Core

namespace Txrx

/-- Where the send thread is within the two sequences of statements. -/
inductive Within where
  /-- In neither of them. -/
  | outside
  /-- A descriptor was reserved. -/
  | reserved
  | written
  | submitted
  /-- `outstanding_tx` was incremented. -/
  | counted
  /-- `cur_tx` was incremented, but not yet reduced. -/
  | advanced
  /-- A completion was found. -/
  | peeked
  | released
  /-- `outstanding_tx` was decremented. -/
  | subtracted
deriving DecidableEq, Repr

/-- The send thread and its place within a sequence of statements. -/
structure Accountant (N : Nat) extends Sender N where
  within : Within

inductive AccountAct where
  /-- A piece of the thread that needs no cutting, the first statement of one that is cut, or a
  step of the kernel, which may run at any time. -/
  | act (a : SendAct)
  /-- The next statement of a piece that is cut. -/
  | statement

namespace Accountant

variable (opt : UserOpt)

/-- Behind a call of `update_txstats()`. -/
def leave (s : Sender opt.framesPerRing) : Accountant opt.framesPerRing :=
  ⟨if s.pc = .stats then s.next opt else { s with pc := .done }, .outside⟩

/-- The statement the thread is about to run. -/
def statement (lib : XskLib) (s : Accountant opt.framesPerRing) :
    Option (Accountant opt.framesPerRing) :=
  match s.within with
  | .outside => none
  | .reserved =>
    some { s with
      xsk := { s.xsk with txRing := s.xsk.txRing.write (s.txDesc opt lib) }
      within := .written }
  | .written =>
    if h : s.xsk.txRing.used < opt.framesPerRing then
      some { s with xsk := { s.xsk with txRing := s.xsk.txRing.advance h }, within := .submitted }
    else none
  | .submitted =>
    some { s with
      xsk := { s.xsk with outstandingTx := (s.xsk.outstandingTx + 1) % 2 ^ 32 }
      within := .counted }
  | .counted =>
    some { s with
      xsk := { s.xsk with curTx := (s.xsk.curTx + 1) % 2 ^ 32 }
      within := .advanced }
  | .advanced =>
    some { s with
      pc := .sendto
      xsk := { s.xsk with curTx := s.xsk.curTx % opt.framesPerRing }
      within := .outside }
  | .peeked =>
    if h : 0 < s.xsk.txCompRing.used then
      some { s with
        xsk := { s.xsk with txCompRing := s.xsk.txCompRing.pop h }
        within := .released }
    else none
  | .released =>
    some { s with
      xsk := { s.xsk with outstandingTx := (s.xsk.outstandingTx + (2 ^ 32 - 1)) % 2 ^ 32 }
      within := .subtracted }
  | .subtracted =>
    some (leave opt { s.toSender with
      xsk := { s.xsk with txNpkts := (s.xsk.txNpkts + 1) % 2 ^ 64 } })

/-- The thread begins a piece. -/
def begin (lib : XskLib) (s : Sender opt.framesPerRing) :
    SendAct → Option (Accountant opt.framesPerRing)
  | .reserve =>
    if s.pc = .reserve then
      some (if lib.xskRingProdReserve s.xsk.txRing 1 = 1 then ⟨s, .reserved⟩
        else ⟨s.next opt, .outside⟩)
    else none
  | .stats =>
    if s.pc = .stats ∨ s.pc = .finish then
      some (if s.xsk.outstandingTx ≠ 0 ∧ lib.xskRingConsPeek s.xsk.txCompRing 1 = 1 then
        ⟨s, .peeked⟩ else leave opt s)
    else none
  | .kernel _ => none
  | a => (Sender.step opt lib s a).map fun t => ⟨t, .outside⟩

def step (lib : XskLib) (s : Accountant opt.framesPerRing) :
    AccountAct → Option (Accountant opt.framesPerRing)
  | .act (.kernel k) => (s.xsk.kernelStep k).map fun xsk => { s with xsk := xsk }
  | .act a => if s.within = .outside then begin opt lib s.toSender a else none
  | .statement => s.statement opt lib

end Accountant

/-- The socket and the send thread, statement by statement. -/
def accountLts (lib : XskLib) (opt : UserOpt) : Lts (Accountant opt.framesPerRing) AccountAct where
  init s := (senderLts lib opt).init s.toSender ∧ s.within = .outside
  step := Accountant.step opt lib

/-! ### What one step can do -/

/-- The steps, case by case. A piece that is not cut changes nothing of the socket but the
packet memory. -/
inductive AccountStep (lib : XskLib) (opt : UserOpt) (s : Accountant opt.framesPerRing) :
    AccountAct → Accountant opt.framesPerRing → Prop where
  | kernel (k : KernelAct) (xsk : Xsk opt.framesPerRing) (hx : s.xsk.kernelStep k = some xsk) :
      AccountStep lib opt s (.act (.kernel k)) { s with xsk := xsk }
  | piece (a : SendAct) (t : Sender opt.framesPerRing) (hw : s.within = .outside)
      (h : SendStep lib opt s.toSender a t)
      (hx : t.xsk = { s.xsk with buffer := t.xsk.buffer }) :
      AccountStep lib opt s (.act a) ⟨t, .outside⟩
  | reserve (hw : s.within = .outside) (hpc : s.pc = .reserve)
      (hu : s.xsk.txRing.used < opt.framesPerRing) :
      AccountStep lib opt s (.act .reserve) ⟨s.toSender, .reserved⟩
  | peek (hw : s.within = .outside) (hpc : s.pc = .stats ∨ s.pc = .finish)
      (hu : 0 < s.xsk.txCompRing.used) : AccountStep lib opt s (.act .stats) ⟨s.toSender, .peeked⟩
  | skip (hw : s.within = .outside) (hpc : s.pc = .stats ∨ s.pc = .finish) :
      AccountStep lib opt s (.act .stats) (Accountant.leave opt s.toSender)
  | statement (t : Accountant opt.framesPerRing) (h : s.statement opt lib = some t) :
      AccountStep lib opt s .statement t

variable {lib : XskLib} {opt : UserOpt} {s s' : Accountant opt.framesPerRing}

namespace Accountant

private lemma sendStep_of_step {s t : Sender opt.framesPerRing} {a : SendAct}
    (h : Sender.step opt lib s a = some t) : SendStep lib opt s a t := Sender.step_spec h

lemma begin_spec {a : SendAct} (hw : s.within = .outside)
    (h : begin opt lib s.toSender a = some s') : AccountStep lib opt s (.act a) s' := by
  cases a with
  | reserve =>
    obtain ⟨hpc, rfl⟩ := of_guard h
    split_ifs with hr
    · exact .reserve hw hpc (lib.reserve_one_iff.mp hr)
    · have hfull : ¬ s.xsk.txRing.used < opt.framesPerRing :=
        fun hu => hr (lib.reserve_one_iff.mpr hu)
      exact .piece .reserve _ hw (.full hpc hfull) rfl
  | stats =>
    obtain ⟨hpc, rfl⟩ := of_guard h
    split_ifs with hr
    · exact .peek hw hpc (lib.peek_one_iff.mp hr.2)
    · exact .skip hw hpc
  | kernel k => cases h
  | _ =>
    obtain ⟨t, ht, rfl⟩ := Option.map_eq_some_iff.mp h
    have hs := sendStep_of_step ht
    refine .piece _ t hw hs ?_
    cases hs <;> rfl

theorem step_spec {a : AccountAct} (h : (accountLts lib opt).step s a = some s') :
    AccountStep lib opt s a s' := by
  replace h : Accountant.step opt lib s a = some s' := h
  cases a with
  | statement => exact .statement s' h
  | act a =>
    cases a with
    | kernel k =>
      obtain ⟨xsk, hx, rfl⟩ := Option.map_eq_some_iff.mp h
      exact .kernel k xsk hx
    | _ =>
      obtain ⟨hw, hb⟩ := Option.ite_none_right_eq_some.mp h
      exact begin_spec hw hb

end Accountant

/-! ### The books -/

/-- Descriptors submitted that are in neither of the two counters: not yet counted as
outstanding, or no longer outstanding and not yet counted as completed. -/
def Within.owed : Within → Nat
  | .submitted | .subtracted => 1
  | _ => 0

/-- Completions taken off the ring that `tx_npkts` does not count yet. -/
def Within.settling : Within → Nat
  | .released | .subtracted => 1
  | _ => 0

/-- By how much `cur_tx` is behind. -/
def Within.lag : Within → Nat
  | .submitted | .counted => 1
  | _ => 0

/-- What the next statement relies on. -/
def Within.Ready (packetSize : Nat) {N : Nat} (x : Xsk N) : Within → Prop
  | .reserved => x.txRing.used < N
  | .written => x.txRing.used < N ∧
      (x.txRing.entry x.txRing.prod).addr = x.curTx * frameSize ∧
      (x.txRing.entry x.txRing.prod).len = packetSize
  | .peeked => 0 < x.txCompRing.used
  | _ => True

/-- The kernel makes room on the TX ring and finds it on the completion ring. -/
lemma Within.Ready.mono {packetSize N : Nat} {x x' : Xsk N} {w : Within}
    (h : w.Ready packetSize x) (hused : x'.txRing.used ≤ x.txRing.used)
    (hprod : x'.txRing.prod = x.txRing.prod) (hslot : x'.txRing.slot = x.txRing.slot)
    (hcur : x'.curTx = x.curTx) (hcomp : x.txCompRing.used ≤ x'.txCompRing.used) :
    w.Ready packetSize x' := by
  cases w with
  | reserved => exact hused.trans_lt h
  | written =>
    obtain ⟨hu, haddr, hlen⟩ := h
    rw [Within.Ready, Ring.entry, hprod, hslot, hcur]
    exact ⟨hused.trans_lt hu, haddr, hlen⟩
  | peeked => exact lt_of_lt_of_le h hcomp
  | _ => trivial

/-- The counters and the rings agree. -/
structure Books (packetSize : Nat) {N : Nat} (x : Xsk N) (w : Within) : Prop where
  /-- Every descriptor taken is held or was completed once. -/
  taken : x.txRing.cons = x.txHeld.length + x.txCompRing.prod
  sum : x.txRing.prod = x.outstandingTx + x.txNpkts + w.owed
  released : x.txCompRing.cons = x.txNpkts + w.settling
  curTx : (x.curTx + w.lag) % N = x.txRing.prod % N
  curTx_lt : w ≠ .advanced → x.curTx < N
  ready : w.Ready packetSize x

namespace Books

variable {packetSize N : Nat} {x x' : Xsk N} {w : Within}

lemma initial (hN : 0 < N) (buffer : Memory) : Books packetSize (.initial N buffer) .outside where
  taken := rfl
  sum := rfl
  released := rfl
  curTx := rfl
  curTx_lt _ := hN
  ready := trivial

/-- Between the two places one completion is taken off the ring, and none but those counted is
on it. -/
lemma completions_le (h : Books packetSize x w) :
    x.txCompRing.used + w.settling ≤ x.outstandingTx + w.owed := by
  have htaken := h.taken
  have hsum := h.sum
  have hreleased := h.released
  have hcomp := x.txCompRing.prod_eq
  have htx := x.txRing.cons_le
  omega

/-- The kernel moves descriptors from the TX ring to those it holds, and from there to the
completion ring. -/
lemma kernelStep (h : Books packetSize x w) {k : KernelAct} (hk : x.kernelStep k = some x') :
    Books packetSize x' w := by
  obtain ⟨-, hu, rfl⟩ | ⟨j, d, -, hj, hu, rfl⟩ | ⟨-, hu, rfl⟩ |
    ⟨j, o, p, a, -, hj, -, -, hu, rfl⟩ := Xsk.kernelStep_cases hk
  · refine { h with
      taken := ?_
      ready := h.ready.mono (by simp) rfl rfl rfl le_rfl }
    have htaken := h.taken
    simp only [Ring.pop_cons, List.length_append, List.length_singleton]
    omega
  · have hlt := (List.getElem?_eq_some_iff.mp hj).1
    refine { h with
      taken := ?_
      ready := h.ready.mono le_rfl rfl rfl rfl (by simp) }
    have htaken := h.taken
    simp only [List.length_eraseIdx_of_lt hlt, Ring.push_prod]
    omega
  · exact { h with }
  · exact { h with }

end Books

/-! ### One descriptor a turn -/

/-- A turn of the loop is under way. -/
def SendPc.turn : SendPc → Nat
  | .poll | .fill | .reserve | .sendto | .stats | .exited => 1
  | _ => 0

/-- The turn has submitted its descriptor. -/
def SendPc.sent : SendPc → Within → Nat
  | .sendto, _ | .stats, _ | .exited, _ => 1
  | .reserve, .submitted | .reserve, .counted | .reserve, .advanced => 1
  | _, _ => 0

/-- The places the two sequences of statements have in the thread. -/
def Within.Fits (pc : SendPc) : Within → Prop
  | .outside => True
  | .reserved | .written | .submitted | .counted | .advanced => pc = .reserve
  | .peeked | .released | .subtracted => pc = .stats ∨ pc = .finish

/-- Each turn of the loop submits one descriptor at most. -/
structure Paced (s : Accountant opt.framesPerRing) : Prop where
  fits : s.within.Fits s.pc
  turn : s.i + s.pc.turn ≤ Sender.total opt
  prod_le : s.xsk.txRing.prod ≤ s.i + s.pc.sent s.within

namespace Paced

lemma sent_le_turn (pc : SendPc) (w : Within) : pc.sent w ≤ pc.turn := by
  cases pc with
  | reserve => cases w <;> simp [SendPc.sent, SendPc.turn]
  | _ => simp [SendPc.sent, SendPc.turn]

/-- The counters of 32 bits have room for all descriptors. -/
lemma prod_lt (h : Paced s) : s.xsk.txRing.prod + 1 < 2 ^ 32 := by
  have hturn := h.turn
  have hprod := h.prod_le
  have hsent := sent_le_turn s.pc s.within
  have htotal := opt.framesToSend_le
  unfold Sender.total numFlushPackets at hturn
  omega

lemma init (h : (accountLts lib opt).init s) : Paced s := by
  obtain ⟨hpc, hi, buffer, hx⟩ := Sender.init_eq h.1
  refine ⟨?_, ?_, ?_⟩
  · rw [h.2]
    trivial
  · simp [hi, hpc, SendPc.turn]
  · rw [hx]
    exact Nat.zero_le _

lemma leave (h : Paced s) (hpc : s.pc = .stats ∨ s.pc = .finish)
    {x : Xsk opt.framesPerRing} (hx : x.txRing.prod = s.xsk.txRing.prod) :
    Paced (Accountant.leave opt { s.toSender with xsk := x }) := by
  have hturn := h.turn
  have hprod := h.prod_le
  rcases hpc with hpc | hpc
  · simp only [hpc, SendPc.turn, SendPc.sent] at hturn hprod
    refine ⟨trivial, ?_, ?_⟩
    · simpa [Accountant.leave, hpc, Sender.next, SendPc.turn] using hturn
    · simpa [Accountant.leave, hpc, Sender.next, SendPc.sent, hx] using hprod
  · simp only [hpc, SendPc.turn, SendPc.sent] at hturn hprod
    refine ⟨trivial, ?_, ?_⟩
    · simpa [Accountant.leave, hpc, SendPc.turn] using hturn
    · simpa [Accountant.leave, hpc, SendPc.sent, hx] using hprod

/-- A statement that changes a counter only. -/
lemma outstandingTx (h : Paced s) (n : Nat) {w : Within} (hfits : w.Fits s.pc)
    (hsent : s.pc.sent w = s.pc.sent s.within) :
    Paced ({ s with xsk := { s.xsk with outstandingTx := n }, within := w } :
      Accountant opt.framesPerRing) :=
  ⟨hfits, h.turn, hsent ▸ h.prod_le⟩

lemma curTx (h : Paced s) (n : Nat) {w : Within} (hfits : w.Fits s.pc)
    (hsent : s.pc.sent w = s.pc.sent s.within) :
    Paced ({ s with xsk := { s.xsk with curTx := n }, within := w } :
      Accountant opt.framesPerRing) :=
  ⟨hfits, h.turn, hsent ▸ h.prod_le⟩

lemma statement (h : Paced s) (hs : s.statement opt lib = some s') : Paced s' := by
  have hfits := h.fits
  have hturn := h.turn
  have hprod := h.prod_le
  unfold Accountant.statement at hs
  split at hs
  · cases hs
  · next hw =>
    cases hs
    simp only [hw, Within.Fits] at hfits
    exact ⟨hfits, hturn, by simpa [hw, hfits, SendPc.sent] using hprod⟩
  · next hw =>
    obtain ⟨hu, he⟩ := Option.dite_none_right_eq_some.mp hs
    cases he
    simp only [hw, Within.Fits] at hfits
    exact ⟨hfits, hturn, by simpa [hw, hfits, SendPc.sent] using hprod⟩
  · next hw =>
    simp only [hw, Within.Fits] at hfits
    rw [← Option.some.inj hs]
    exact h.outstandingTx _ hfits (by simp [hw, hfits, SendPc.sent])
  · next hw =>
    simp only [hw, Within.Fits] at hfits
    rw [← Option.some.inj hs]
    exact h.curTx _ hfits (by simp [hw, hfits, SendPc.sent])
  · next hw =>
    cases hs
    simp only [hw, Within.Fits] at hfits
    refine ⟨trivial, ?_, ?_⟩
    · simpa [hfits, SendPc.turn] using hturn
    · simpa [hw, hfits, SendPc.sent] using hprod
  · next hw =>
    obtain ⟨hu, he⟩ := Option.dite_none_right_eq_some.mp hs
    cases he
    simp only [hw, Within.Fits] at hfits
    rcases hfits with hpc | hpc
    · exact ⟨.inl hpc, hturn, by simpa [hw, hpc, SendPc.sent] using hprod⟩
    · exact ⟨.inr hpc, hturn, by simpa [hw, hpc, SendPc.sent] using hprod⟩
  · next hw =>
    simp only [hw, Within.Fits] at hfits
    rw [← Option.some.inj hs]
    refine h.outstandingTx _ hfits ?_
    rcases hfits with hpc | hpc
    · simp [hpc, SendPc.sent]
    · simp [hpc, SendPc.sent]
  · next hw =>
    simp only [hw, Within.Fits] at hfits
    rw [← Option.some.inj hs]
    exact h.leave hfits rfl

end Paced

/-- The turns begun are not more than there are packets, and a turn that has submitted its
descriptor ends as one that has. -/
lemma turn_of_sendStep {s t : Sender opt.framesPerRing} {a : SendAct}
    (h : SendStep lib opt s a t) (hturn : s.i + s.pc.turn ≤ Sender.total opt) :
    t.i + t.pc.turn ≤ Sender.total opt ∧
      s.i + s.pc.sent .outside ≤ t.i + t.pc.sent .outside := by
  cases h with
  | prefill now hpc => simpa [hpc, Sender.prefill, SendPc.turn, SendPc.sent] using hturn
  | enter now hpc hi =>
    simp only [Sender.enter]
    split_ifs <;> simpa [hpc, SendPc.turn, SendPc.sent] using Nat.succ_le_of_lt hi
  | leave hpc => simpa [hpc, SendPc.turn, SendPc.sent] using hturn
  | writable hpc => simpa [hpc, SendPc.turn, SendPc.sent] using hturn
  | timeout hpc => simpa [hpc, Sender.next, SendPc.turn, SendPc.sent] using hturn
  | fill hpc => simpa [hpc, Sender.fill, SendPc.turn, SendPc.sent] using hturn
  | queue hpc hu => simpa [hpc, Sender.queue, SendPc.turn, SendPc.sent] using hturn
  | full hpc hu => simpa [hpc, Sender.next, SendPc.turn, SendPc.sent] using hturn
  | sent hpc => simpa [hpc, SendPc.turn, SendPc.sent] using hturn
  | failed hpc => simpa [hpc, SendPc.turn, SendPc.sent] using hturn
  | stats hpc => simpa [hpc, Sender.next, SendPc.turn, SendPc.sent] using hturn
  | finish hpc => simpa [hpc, SendPc.turn, SendPc.sent] using hturn
  | kernel k xsk hk hx => exact ⟨hturn, le_rfl⟩

lemma Paced.step {a : AccountAct} (h : Paced s) (hs : AccountStep lib opt s a s') : Paced s' := by
  cases hs with
  | kernel k xsk hx =>
    refine ⟨h.fits, h.turn, ?_⟩
    show xsk.txRing.prod ≤ _
    rw [(Xsk.prod_of_kernelStep hx).1]
    exact h.prod_le
  | piece a t hw ht hx =>
    obtain ⟨hturn, hsent⟩ := turn_of_sendStep ht h.turn
    refine ⟨trivial, hturn, ?_⟩
    rw [hx]
    have hprod := h.prod_le
    rw [hw] at hprod
    exact hprod.trans hsent
  | reserve hw hpc hu =>
    refine ⟨hpc, h.turn, ?_⟩
    have hprod := h.prod_le
    simpa [hw, hpc, SendPc.sent] using hprod
  | peek hw hpc hu =>
    refine ⟨hpc, h.turn, ?_⟩
    have hprod := h.prod_le
    rcases hpc with hpc | hpc
    · simpa [hw, hpc, SendPc.sent] using hprod
    · simpa [hw, hpc, SendPc.sent] using hprod
  | skip hw hpc => exact h.leave hpc rfl
  | statement t ht => exact h.statement ht

namespace Books

variable {packetSize N : Nat} {x : Xsk N}

lemma buffer {w : Within} (h : Books packetSize x w) (buffer : Memory) :
    Books packetSize { x with buffer := buffer } w := { h with }

lemma reserve (h : Books packetSize x .outside) (hu : x.txRing.used < N) :
    Books packetSize x .reserved where
  taken := h.taken
  sum := h.sum
  released := h.released
  curTx := h.curTx
  curTx_lt _ := h.curTx_lt (by decide)
  ready := hu

lemma write (h : Books packetSize x .reserved) {d : TxDesc} (haddr : d.addr = x.curTx * frameSize)
    (hlen : d.len = packetSize) :
    Books packetSize { x with txRing := x.txRing.write d } .written where
  taken := h.taken
  sum := h.sum
  released := h.released
  curTx := h.curTx
  curTx_lt _ := h.curTx_lt (by decide)
  ready := ⟨h.ready, by simp [Ring.write, Ring.entry, haddr],
    by simp [Ring.write, Ring.entry, hlen]⟩

lemma submit (h : Books packetSize x .written) (hu : x.txRing.used < N) :
    Books packetSize { x with txRing := x.txRing.advance hu } .submitted where
  taken := h.taken
  sum := congrArg (· + 1) h.sum
  released := h.released
  curTx := by
    have hcur : x.curTx % N = x.txRing.prod % N := h.curTx
    show (x.curTx + 1) % N = (x.txRing.prod + 1) % N
    rw [Nat.add_mod, hcur, ← Nat.add_mod]
  curTx_lt _ := h.curTx_lt (by decide)
  ready := trivial

lemma count (h : Books packetSize x .submitted) {n : Nat} (hn : n = x.outstandingTx + 1) :
    Books packetSize { x with outstandingTx := n } .counted where
  taken := h.taken
  sum := by
    have hsum : x.txRing.prod = x.outstandingTx + x.txNpkts + 1 := h.sum
    show x.txRing.prod = n + x.txNpkts + 0
    omega
  released := h.released
  curTx := h.curTx
  curTx_lt _ := h.curTx_lt (by decide)
  ready := trivial

lemma advance (h : Books packetSize x .counted) {n : Nat} (hn : n = x.curTx + 1) :
    Books packetSize { x with curTx := n } .advanced where
  taken := h.taken
  sum := h.sum
  released := h.released
  curTx := by
    subst hn
    exact h.curTx
  curTx_lt h := absurd rfl h
  ready := trivial

lemma reduce (h : Books packetSize x .advanced) (hN : 0 < N) :
    Books packetSize { x with curTx := x.curTx % N } .outside where
  taken := h.taken
  sum := h.sum
  released := h.released
  curTx := (Nat.mod_mod _ _).trans h.curTx
  curTx_lt _ := Nat.mod_lt _ hN
  ready := trivial

lemma peek (h : Books packetSize x .outside) (hu : 0 < x.txCompRing.used) :
    Books packetSize x .peeked where
  taken := h.taken
  sum := h.sum
  released := h.released
  curTx := h.curTx
  curTx_lt _ := h.curTx_lt (by decide)
  ready := hu

lemma release (h : Books packetSize x .peeked) (hu : 0 < x.txCompRing.used) :
    Books packetSize { x with txCompRing := x.txCompRing.pop hu } .released where
  taken := h.taken
  sum := h.sum
  released := congrArg (· + 1) h.released
  curTx := h.curTx
  curTx_lt _ := h.curTx_lt (by decide)
  ready := trivial

lemma subtract (h : Books packetSize x .released) {n : Nat} (hn : n + 1 = x.outstandingTx) :
    Books packetSize { x with outstandingTx := n } .subtracted where
  taken := h.taken
  sum := by
    have hsum : x.txRing.prod = x.outstandingTx + x.txNpkts + 0 := h.sum
    show x.txRing.prod = n + x.txNpkts + 1
    omega
  released := h.released
  curTx := h.curTx
  curTx_lt _ := h.curTx_lt (by decide)
  ready := trivial

lemma add (h : Books packetSize x .subtracted) {n : Nat} (hn : n = x.txNpkts + 1) :
    Books packetSize { x with txNpkts := n } .outside where
  taken := h.taken
  sum := by
    have hsum : x.txRing.prod = x.outstandingTx + x.txNpkts + 1 := h.sum
    show x.txRing.prod = x.outstandingTx + n + 0
    omega
  released := by
    subst hn
    exact h.released
  curTx := h.curTx
  curTx_lt _ := h.curTx_lt (by decide)
  ready := trivial

end Books

namespace Accountant

lemma isSome_statement (h : Books opt.packetSize s.xsk s.within) (hw : s.within ≠ .outside) :
    (s.statement opt lib).isSome := by
  have hready := h.ready
  unfold statement
  split
  · next hw' => exact absurd hw' hw
  · rfl
  · next hw' =>
    rw [hw'] at hready
    rw [dif_pos hready.1]
    rfl
  · rfl
  · rfl
  · rfl
  · next hw' =>
    rw [hw'] at hready
    have hu : 0 < s.xsk.txCompRing.used := hready
    rw [dif_pos hu]
    rfl
  · rfl
  · rfl

lemma xsk_leave (t : Sender opt.framesPerRing) : (leave opt t).xsk = t.xsk := by
  unfold leave
  split_ifs <;> rfl

lemma books_statement (h : Books opt.packetSize s.xsk s.within) (hp : Paced s)
    (hs : s.statement opt lib = some s') : Books opt.packetSize s'.xsk s'.within := by
  have hprod := hp.prod_lt
  have hsum := h.sum
  unfold statement at hs
  split at hs
  · cases hs
  · next hw =>
    rw [hw] at h
    rw [← Option.some.inj hs]
    exact h.write (shiftLeft_frameShift _) rfl
  · next hw =>
    rw [hw] at h
    obtain ⟨hu, he⟩ := Option.dite_none_right_eq_some.mp hs
    rw [← Option.some.inj he]
    exact h.submit hu
  · next hw =>
    rw [hw] at h
    rw [← Option.some.inj hs]
    apply h.count
    apply Nat.mod_eq_of_lt
    omega
  · next hw =>
    rw [hw] at h
    rw [← Option.some.inj hs]
    have hcur := h.curTx_lt (by decide)
    have hN := opt.framesPerRing_lt
    apply h.advance
    apply Nat.mod_eq_of_lt
    omega
  · next hw =>
    rw [hw] at h
    rw [← Option.some.inj hs]
    exact h.reduce opt.framesPerRing_pos
  · next hw =>
    rw [hw] at h
    obtain ⟨hu, he⟩ := Option.dite_none_right_eq_some.mp hs
    rw [← Option.some.inj he]
    exact h.release hu
  · next hw =>
    rw [hw] at h
    rw [← Option.some.inj hs]
    -- the completion released was that of an outstanding descriptor
    have hpos : 0 < s.xsk.outstandingTx := by
      have hle := h.completions_le
      simp only [Within.settling, Within.owed] at hle
      omega
    apply h.subtract
    omega
  · next hw =>
    rw [hw] at h
    rw [← Option.some.inj hs, xsk_leave]
    apply h.add
    apply Nat.mod_eq_of_lt
    omega

lemma books_step {a : AccountAct} (h : Books opt.packetSize s.xsk s.within) (hp : Paced s)
    (hs : AccountStep lib opt s a s') : Books opt.packetSize s'.xsk s'.within := by
  cases hs with
  | kernel k xsk hx => exact h.kernelStep hx
  | piece a t hw ht hx =>
    rw [hw] at h
    rw [hx]
    exact h.buffer _
  | reserve hw hpc hu =>
    rw [hw] at h
    exact h.reserve hu
  | peek hw hpc hu =>
    rw [hw] at h
    exact h.peek hu
  | skip hw hpc =>
    rw [hw] at h
    rw [xsk_leave]
    exact h
  | statement t ht => exact books_statement h hp ht

/-- The counters, the rings and the turns agree. -/
structure Balanced (s : Accountant opt.framesPerRing) : Prop where
  books : Books opt.packetSize s.xsk s.within
  paced : Paced s

theorem balanced {tr : List (Accountant opt.framesPerRing × AccountAct)}
    (h : (accountLts lib opt).Run tr s) : Balanced s := by
  apply h.invariant
  · intro s hinit
    obtain ⟨-, -, buffer, hx⟩ := Sender.init_eq hinit.1
    refine ⟨?_, .init hinit⟩
    rw [hx, hinit.2]
    exact .initial opt.framesPerRing_pos buffer
  · intro s a s' hI hs
    have hstep := step_spec hs
    exact ⟨books_step hI.books hI.paced hstep, hI.paced.step hstep⟩

/-- A sequence of statements that was begun can be finished: the kernel takes away neither the
room on the TX ring nor the completion found. -/
theorem statement_enabled {tr : List (Accountant opt.framesPerRing × AccountAct)}
    (h : (accountLts lib opt).Run tr s) (hw : s.within ≠ .outside) :
    ∃ t, (accountLts lib opt).step s .statement = some t :=
  Option.isSome_iff_exists.mp (isSome_statement (balanced h).books hw)

/-- The descriptors a run has submitted. -/
def submissions (tr : List (Accountant opt.framesPerRing × AccountAct)) : List TxDesc :=
  tr.filterMap fun x => match x.2, x.1.within with
    | .statement, .written => some (x.1.xsk.txRing.entry x.1.xsk.txRing.prod)
    | _, _ => none

lemma submissions_concat_of_written {tr : List (Accountant opt.framesPerRing × AccountAct)}
    (hw : s.within = .written) : submissions (tr ++ [(s, .statement)]) =
      submissions tr ++ [s.xsk.txRing.entry s.xsk.txRing.prod] := by
  simp [submissions, hw]

lemma submissions_concat_of_ne {tr : List (Accountant opt.framesPerRing × AccountAct)}
    {a : AccountAct} (h : a = .statement → s.within ≠ .written) :
    submissions (tr ++ [(s, a)]) = submissions tr := by
  unfold submissions
  rw [List.filterMap_append]
  cases a with
  | act a => simp
  | statement =>
    have hne := h rfl
    cases hw : s.within with
    | written => exact absurd hw hne
    | _ => simp [hw]

/-- The counters are no part of the rings. -/
private lemma prod_outstandingTx (n : Nat) (w : Within) :
    ({ s with xsk := { s.xsk with outstandingTx := n }, within := w } :
      Accountant opt.framesPerRing).xsk.txRing.prod = s.xsk.txRing.prod := rfl

/-- A descriptor is submitted by one statement only. -/
lemma prod_step {a : AccountAct} (hs : AccountStep lib opt s a s')
    (h : a = .statement → s.within ≠ .written) : s'.xsk.txRing.prod = s.xsk.txRing.prod := by
  cases hs with
  | kernel k xsk hx => exact (Xsk.prod_of_kernelStep hx).1
  | piece a t hw ht hx => rw [hx]
  | reserve hw hpc hu => rfl
  | peek hw hpc hu => rfl
  | skip hw hpc => rw [xsk_leave]
  | statement t ht =>
    have hne := h rfl
    unfold statement at ht
    split at ht
    · cases ht
    · rw [← Option.some.inj ht]
      rfl
    · next hw => exact absurd hw hne
    · obtain rfl := Option.some.inj ht
      exact prod_outstandingTx _ _
    · rw [← Option.some.inj ht]
    · rw [← Option.some.inj ht]
    · obtain ⟨hu, he⟩ := Option.dite_none_right_eq_some.mp ht
      rw [← Option.some.inj he]
    · obtain rfl := Option.some.inj ht
      exact prod_outstandingTx _ _
    · rw [← Option.some.inj ht, xsk_leave]

lemma length_submissions {tr : List (Accountant opt.framesPerRing × AccountAct)}
    (h : (accountLts lib opt).Run tr s) : (submissions tr).length = s.xsk.txRing.prod := by
  induction h with
  | init h =>
    obtain ⟨-, -, buffer, hx⟩ := Sender.init_eq h.1
    rw [hx]
    rfl
  | @step tr s s' a h hs ih =>
    by_cases hsubmit : a = .statement ∧ s.within = .written
    · obtain ⟨rfl, hw⟩ := hsubmit
      rw [submissions_concat_of_written hw, List.length_append, ih]
      replace hs : statement opt lib s = some s' := hs
      rw [statement, hw] at hs
      obtain ⟨hu, he⟩ := Option.dite_none_right_eq_some.mp hs
      rw [← Option.some.inj he]
      rfl
    · have hne : a = .statement → s.within ≠ .written := fun ha hw => hsubmit ⟨ha, hw⟩
      rw [submissions_concat_of_ne hne, ih, prod_step (step_spec hs) hne]

/-- A whole frame lies in the packet memory, and a packet fits into it. -/
lemma frame_fits {n : Nat} (hn : n < opt.framesPerRing) :
    frameSize ∣ n * frameSize ∧
      n * frameSize + opt.packetSize ≤ opt.framesPerRing * frameSize := by
  refine ⟨Nat.dvd_mul_left _ _, ?_⟩
  have hpacket := opt.packetSize_le
  have hframe : (n + 1) * frameSize ≤ opt.framesPerRing * frameSize := Nat.mul_le_mul_right _ hn
  unfold frameSize at *
  omega

lemma submissions_fit {tr : List (Accountant opt.framesPerRing × AccountAct)}
    (h : (accountLts lib opt).Run tr s) : ∀ d ∈ submissions tr, d.len = opt.packetSize ∧
      frameSize ∣ d.addr ∧ d.addr + opt.packetSize ≤ opt.framesPerRing * frameSize := by
  induction h with
  | init h => simp [submissions]
  | @step tr s s' a h hs ih =>
    by_cases hsubmit : a = .statement ∧ s.within = .written
    · obtain ⟨rfl, hw⟩ := hsubmit
      rw [submissions_concat_of_written hw]
      intro d hd
      rcases List.mem_append.mp hd with hd | hd
      · exact ih d hd
      · have hbooks := (balanced h).books
        rw [hw] at hbooks
        obtain ⟨-, haddr, hlen⟩ := hbooks.ready
        rw [List.mem_singleton.mp hd, haddr]
        exact ⟨hlen, frame_fits (hbooks.curTx_lt (by decide))⟩
    · rw [submissions_concat_of_ne fun ha hw => hsubmit ⟨ha, hw⟩]
      exact ih

/-! The pieces of the thread are runs of their statements. -/

private lemma step_written (hw : s.within = .written) (hu : s.xsk.txRing.used < opt.framesPerRing) :
    (accountLts lib opt).step s .statement = some { s with
      xsk := { s.xsk with txRing := s.xsk.txRing.advance hu }, within := .submitted } := by
  show s.statement opt lib = _
  rw [statement, hw]
  exact dif_pos hu

private lemma step_peeked (hw : s.within = .peeked) (hu : 0 < s.xsk.txCompRing.used) :
    (accountLts lib opt).step s .statement = some { s with
      xsk := { s.xsk with txCompRing := s.xsk.txCompRing.pop hu }, within := .released } := by
  show s.statement opt lib = _
  rw [statement, hw]
  exact dif_pos hu

/-- The statements from the reservation on submit and count one descriptor. -/
lemma run_queue {tr : List (Accountant opt.framesPerRing × AccountAct)}
    {t : Sender opt.framesPerRing} (h : (accountLts lib opt).Run tr ⟨t, .outside⟩)
    (hpc : t.pc = .reserve) (hu : t.xsk.txRing.used < opt.framesPerRing) :
    ∃ tr', (accountLts lib opt).Run tr' ⟨t.queue opt lib hu, .outside⟩ := by
  have h₁ : (accountLts lib opt).Run _ ⟨t, .reserved⟩ := h.step (a := .act .reserve)
    (by simp [accountLts, step, begin, hpc, lib.reserve_one_iff.mpr hu])
  have h₂ := h₁.step (a := .statement) rfl
  have h₃ := h₂.step (step_written rfl hu)
  have h₄ := h₃.step (a := .statement) rfl
  have h₅ := h₄.step (a := .statement) rfl
  have h₆ := h₅.step (a := .statement) rfl
  exact ⟨_, h₆⟩

/-- The statements of `update_txstats()` do what the function does. -/
lemma run_updateTxstats {tr : List (Accountant opt.framesPerRing × AccountAct)}
    {t : Sender opt.framesPerRing} (h : (accountLts lib opt).Run tr ⟨t, .outside⟩)
    (hpc : t.pc = .stats ∨ t.pc = .finish) :
    ∃ tr', (accountLts lib opt).Run tr' (leave opt { t with xsk := updateTxstats lib t.xsk }) := by
  by_cases hpeek : t.xsk.outstandingTx ≠ 0 ∧ lib.xskRingConsPeek t.xsk.txCompRing 1 = 1
  · have hu := lib.peek_one_iff.mp hpeek.2
    have h₁ : (accountLts lib opt).Run _ ⟨t, .peeked⟩ :=
      h.step (a := .act .stats) (by simp [accountLts, step, begin, hpc, hpeek])
    have h₂ := h₁.step (step_peeked rfl hu)
    have h₃ := h₂.step (a := .statement) rfl
    have h₄ := h₃.step (a := .statement) rfl
    rw [updateTxstats, if_neg hpeek.1, dif_pos hpeek.2]
    exact ⟨_, h₄⟩
  · have h₁ : (accountLts lib opt).Run _ (leave opt t) :=
      h.step (a := .act .stats) (by simp [accountLts, step, begin, hpc, hpeek])
    have hsame : updateTxstats lib t.xsk = t.xsk := by
      unfold updateTxstats
      split_ifs with h₁ h₂
      · rfl
      · exact absurd ⟨h₁, h₂⟩ hpeek
      · rfl
    rw [hsame]
    exact ⟨_, h₁⟩

private lemma act_of_step {t t' : Sender opt.framesPerRing} {a : SendAct}
    (h : (senderLts lib opt).step t a = some t') (hr : a ≠ .reserve) (hs : a ≠ .stats)
    (hk : ∀ k, a ≠ .kernel k) :
    (accountLts lib opt).step ⟨t, .outside⟩ (.act a) = some ⟨t', .outside⟩ := by
  replace h : Sender.step opt lib t a = some t' := h
  cases a with
  | reserve => exact absurd rfl hr
  | stats => exact absurd rfl hs
  | kernel k => exact absurd rfl (hk k)
  | _ => simp [accountLts, step, begin, h]

/-- Whatever the thread does piece by piece, it does statement by statement. -/
theorem run_of_senderRun {tr : List (Sender opt.framesPerRing × SendAct)}
    {t : Sender opt.framesPerRing} (h : (senderLts lib opt).Run tr t) :
    ∃ tr', (accountLts lib opt).Run tr' ⟨t, .outside⟩ := by
  induction h with
  | init h => exact ⟨[], .init ⟨h, rfl⟩⟩
  | @step tr t t' a h hs ih =>
    obtain ⟨tr', hrun⟩ := ih
    cases Sender.step_spec hs with
    | queue hpc hu => exact run_queue hrun hpc hu
    | stats hpc =>
      have hend := run_updateTxstats hrun (.inl hpc)
      rwa [leave, if_pos hpc] at hend
    | finish hpc =>
      have hend := run_updateTxstats hrun (.inr hpc)
      rwa [leave, if_neg (by simp [hpc])] at hend
    | full hpc hu =>
      have hr : ¬ lib.xskRingProdReserve t.xsk.txRing 1 = 1 :=
        fun hr => hu (lib.reserve_one_iff.mp hr)
      exact ⟨_, hrun.step (a := .act .reserve) (by simp [accountLts, step, begin, hpc, hr])⟩
    | kernel k xsk hk hx =>
      exact ⟨_, hrun.step (a := .act (.kernel k)) (by simp [accountLts, step, hx])⟩
    | _ => exact ⟨_, hrun.step (act_of_step hs (by simp) (by simp) (by simp))⟩

end Accountant

/-- At every point of every run, the descriptors submitted are those outstanding, those
completed and the one that is being counted. Outside the update of `cur_tx`, that counter is
their number modulo `frames_per_ring`. The completion ring holds no more than the outstanding
descriptors and one submitted but not counted, so that `outstanding_tx` is positive whenever
it is decremented. Every address is that of a frame in the packet memory. -/
theorem send_accounts {tr : List (Accountant opt.framesPerRing × AccountAct)}
    (h : (accountLts lib opt).Run tr s) :
    (Accountant.submissions tr).length =
      s.xsk.outstandingTx + s.xsk.txNpkts + s.within.owed ∧
    (s.within ≠ .submitted → s.within ≠ .counted → s.within ≠ .advanced →
      s.xsk.curTx = (Accountant.submissions tr).length % opt.framesPerRing) ∧
    s.xsk.txCompRing.used ≤ s.xsk.outstandingTx + (if s.within = .submitted then 1 else 0) ∧
    (s.within = .released → 0 < s.xsk.outstandingTx) ∧
    ∀ d ∈ Accountant.submissions tr, frameSize ∣ d.addr ∧
      d.addr + opt.packetSize ≤ opt.framesPerRing * frameSize := by
  have hbooks := (Accountant.balanced h).books
  rw [Accountant.length_submissions h]
  have hcomp := hbooks.completions_le
  refine ⟨hbooks.sum, fun hsub hcount hadv => ?_, ?_, fun hrel => ?_, fun d hd => ?_⟩
  · have hcur := hbooks.curTx
    have hlag : s.within.lag = 0 := by
      cases hw : s.within with
      | submitted => exact absurd hw hsub
      | counted => exact absurd hw hcount
      | _ => rfl
    rw [hlag] at hcur
    rw [← hcur]
    exact (Nat.mod_eq_of_lt (hbooks.curTx_lt hadv)).symm
  · cases hw : s.within with
    | _ =>
      simp only [hw, Within.owed, Within.settling] at hcomp
      simp
      omega
  · simp only [hrel, Within.owed, Within.settling] at hcomp
    omega
  · exact (Accountant.submissions_fit h d hd).2

section FirstPacket

/-- The send thread with the default options, its socket just set up. -/
private def unsent : Accountant UserOpt.default.framesPerRing :=
  ⟨⟨.setup, .initial UserOpt.default.framesPerRing fun _ => 0, 0, 0, 0,
    List.replicate UserOpt.default.packetSize 0⟩, .outside⟩

private lemma unsent_init : (accountLts .reference .default).init unsent :=
  ⟨⟨_, _, _, initXdpSocket_eq .reference UserOpt.default.framesPerRing_pos _,
    List.length_replicate, rfl⟩, rfl⟩

/-- The first descriptor is submitted, transmitted, completed and counted. -/
theorem send_accounts_first :
    ∃ tr s, (accountLts .reference .default).Run tr s ∧
      (Accountant.submissions tr).length = 1 ∧ s.xsk.outstandingTx = 0 ∧ s.xsk.txNpkts = 1 ∧
      s.xsk.curTx = 1 := by
  have h₁ := (Lts.Run.init unsent_init).step (a := .act (.prefill 0)) rfl
  have h₂ := h₁.step (a := .act (.enter 0)) rfl
  have h₃ := h₂.step (a := .act .fill) rfl
  have h₄ := h₃.step (a := .act .reserve) rfl
  have h₅ := h₄.step (a := .statement) rfl
  have h₆ := h₅.step (a := .statement) rfl
  have h₇ := h₆.step (a := .statement) rfl
  have h₈ := h₇.step (a := .statement) rfl
  have h₉ := h₈.step (a := .statement) rfl
  have h₁₀ := h₉.step (a := .act (.kernel .txTake)) rfl
  have h₁₁ := h₁₀.step (a := .act (.kernel (.txComplete 0))) rfl
  have h₁₂ := h₁₁.step (a := .act (.sendto true)) rfl
  have h₁₃ := h₁₂.step (a := .act .stats) rfl
  have h₁₄ := h₁₃.step (a := .statement) rfl
  have h₁₅ := h₁₄.step (a := .statement) rfl
  have h₁₆ := h₁₅.step (a := .statement) rfl
  obtain ⟨hsum, hcur, -⟩ := send_accounts h₁₆
  exact ⟨_, _, h₁₆, hsum, rfl, rfl, rfl⟩

/-- Between its submission and the increment of `outstanding_tx`, the kernel may even have
completed a descriptor: one was submitted, none is counted, `cur_tx` is still zero, and the
completion ring holds one entry. -/
theorem not_send_accounts :
    ∃ tr s, (accountLts .reference .default).Run tr s ∧
      (Accountant.submissions tr).length ≠ s.xsk.outstandingTx + s.xsk.txNpkts ∧
      s.xsk.curTx ≠ (Accountant.submissions tr).length % UserOpt.default.framesPerRing ∧
      ¬ s.xsk.txCompRing.used ≤ s.xsk.outstandingTx := by
  have h₁ := (Lts.Run.init unsent_init).step (a := .act (.prefill 0)) rfl
  have h₂ := h₁.step (a := .act (.enter 0)) rfl
  have h₃ := h₂.step (a := .act .fill) rfl
  have h₄ := h₃.step (a := .act .reserve) rfl
  have h₅ := h₄.step (a := .statement) rfl
  have h₆ := h₅.step (a := .statement) rfl
  have h₇ := h₆.step (a := .act (.kernel .txTake)) rfl
  have h₈ := h₇.step (a := .act (.kernel (.txComplete 0))) rfl
  refine ⟨_, _, h₈, ?_, ?_, ?_⟩
  · rw [Accountant.length_submissions h₈]
    decide
  · rw [Accountant.length_submissions h₈]
    decide
  · decide

end FirstPacket

end Txrx

end TsnRefSw
