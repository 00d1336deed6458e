import Mathlib.Data.List.Nodup
import Mathlib.Data.List.Perm.Basic
import TsnRefSw.Txrx.Afpkt.EndToEnd
import TsnRefSw.Txrx.Afpkt.Timestamps

/-!
# Which packet a transmit time belongs to

After each packet a send thread waits a while for the time at which the network card sent it, and
prints it or a zero. The times wait in the error queue of the socket, and a pass takes the oldest
one. What comes too late for its own pass is printed with a later packet, and so is, from then
on, every time.
-/

namespace TsnRefSw

open Core

namespace Txrx

/-- A line of a send thread. -/
structure TxLine where
  seq : Nat
  txTimestampA : Nat
  txTimestampB : Nat
deriving DecidableEq, Repr

/-- A send thread and the reports on its packets. -/
structure StampedSender where
  sender : AfpktSender
  /-- The time stored in a packet whose line is still to be printed. -/
  stored : Option Nat
  /-- The packets that the network card has not reported on. -/
  unstamped : List Nat
  errQueue : List (List Cmsg)
  out : List TxLine

inductive StampedAct where
  /-- A step of the thread; of a pass, the part up to the sending. -/
  | sender (a : AfpktAct)
  /-- The `i`-th of the packets is reported to have been sent at `time`. -/
  | stamp (i time : Nat) (ee : Vector UInt8 16)
  /-- Nothing is going to be reported on the `i`-th packet. -/
  | skip (i : Nat)
  /-- The rest of a pass: `select()` has found something or not, and the stack holds `control`. -/
  | collect (ready : Bool) (control : Memory)

namespace StampedSender

/-- The time stored by a step after which the pass goes on. -/
def storedBy (t : AfpktSender) : AfpktAct → Option Nat
  | .turn now _ => if t.pc = .exited then none else some now
  | _           => none

/-- The packet that a step hands over. -/
def handedBy (t : AfpktSender) : AfpktAct → List Nat
  | .turn _ true => [t.seq]
  | _            => []

def step (thread : AfpktThread) (opt : Options) (s : StampedSender) :
    StampedAct → Option StampedSender
  | .sender a =>
    if s.stored = none then
      (AfpktSender.step thread opt s.sender a).map fun t =>
        { s with
          sender := t
          stored := storedBy t a
          unstamped := s.unstamped ++ handedBy s.sender a }
    else none
  | .stamp i time ee =>
    if i < s.unstamped.length then
      some { s with
        unstamped := s.unstamped.eraseIdx i
        errQueue := s.errQueue ++ [txReport time ee] }
    else none
  | .skip i =>
    if i < s.unstamped.length then some { s with unstamped := s.unstamped.eraseIdx i } else none
  | .collect ready control =>
    s.stored.map fun now =>
      let found := ready && opt.enableHwts
      let txTimestampB := if found then extractTsFromCmsg control s.errQueue.head? else 0
      let line := ⟨(s.sender.seq + (2 ^ 32 - 1)) % 2 ^ 32, now, txTimestampB⟩
      { s with
        stored := none
        errQueue := if found then s.errQueue.tail else s.errQueue
        out := if opt.verbose then s.out ++ [line] else s.out }

end StampedSender

/-- A send thread that is about to start. -/
def stampedLts (thread : AfpktThread) (opt : Options) : Lts StampedSender StampedAct where
  init s := s.sender.pc = .setup ∧ s.stored = none ∧ s.unstamped = [] ∧ s.errQueue = [] ∧ s.out = []
  step := StampedSender.step thread opt

namespace StampedSender

variable {thread : AfpktThread} {opt : Options} {s s' : StampedSender}

/-! ### What was sent and what was reported -/

/-- The times stored by the passes that go on to their lines. -/
def times (thread : AfpktThread) (tr : List (StampedSender × StampedAct)) : List Nat :=
  tr.filterMap fun x => match x.2 with
    | .sender (.turn now sent) => if sent = false ∧ thread = .plain then none else some now
    | _                        => none

/-- The packets reported on, with the times. -/
def posted (tr : List (StampedSender × StampedAct)) : List (Nat × Nat) :=
  tr.filterMap fun x => match x.2 with
    | .stamp i time _ => x.1.unstamped[i]?.map fun n => (n, time)
    | _               => none

lemma times_append (tr : List (StampedSender × StampedAct)) (x : StampedSender × StampedAct) :
    times thread (tr ++ [x]) = times thread tr ++ times thread [x] := List.filterMap_append

lemma posted_append (tr : List (StampedSender × StampedAct)) (x : StampedSender × StampedAct) :
    posted (tr ++ [x]) = posted tr ++ posted [x] := List.filterMap_append

/-- The clock of the network card does not show zero. -/
def Timed : StampedAct → Prop
  | .stamp _ time _ => 0 < time ∧ time < 2 ^ 64
  | _               => True

instance : DecidablePred Timed
  | .sender _     => isTrue trivial
  | .stamp _ _ _  => inferInstanceAs (Decidable (_ ∧ _))
  | .skip _       => isTrue trivial
  | .collect _ _  => isTrue trivial

end StampedSender

/-- There is a time on the line. -/
def TxLine.Stamped (l : TxLine) : Prop := l.txTimestampB ≠ 0

instance : DecidablePred TxLine.Stamped := fun l => inferInstanceAs (Decidable (l.txTimestampB ≠ 0))

/-- The line shows a time that was reported, of its own packet or of an earlier one. -/
def TxLine.Shows (l : TxLine) (p : Nat × Nat) : Prop := l.txTimestampB = p.2 ∧ p.1 ≤ l.seq

namespace StampedSender

variable {thread : AfpktThread} {opt : Options} {s s' : StampedSender} {ts : List Nat}
  {ps : List (Nat × Nat)}

/-- The lines are those of the packets, the times on them and those in the error queue are what
was reported. -/
structure Logged (opt : Options) (ts : List Nat) (ps : List (Nat × Nat)) (s : StampedSender) :
    Prop where
  sender : (s.sender.pc = .setup ∧ ts = []) ∨
    (s.sender.pc ≠ .setup ∧ AfpktLink.Sends opt ts s.sender)
  lines : ts = s.out.map TxLine.txTimestampA ++ s.stored.toList
  seq : s.out.map TxLine.seq = List.range' 1 s.out.length
  nodup : (ps.map Prod.fst ++ s.unstamped).Nodup
  le : ∀ n ∈ ps.map Prod.fst ++ s.unstamped, n ≤ ts.length
  timed : ∀ p ∈ ps, 0 < p.2 ∧ p.2 < 2 ^ 64
  reads : ∃ shown waiting, ps = shown ++ waiting ∧
    List.Forall₂ TxLine.Shows (s.out.filter TxLine.Stamped) shown ∧
      List.Forall₂ (fun cs p => ∃ ee, cs = txReport p.2 ee) s.errQueue waiting

lemma logged_init (h : (stampedLts thread opt).init s) : Logged opt [] [] s := by
  obtain ⟨hpc, hstored, hunstamped, herrQueue, hout⟩ := h
  constructor
  · exact .inl ⟨hpc, rfl⟩
  · rw [hout, hstored]
    rfl
  · rw [hout]
    rfl
  · rw [hunstamped]
    exact .nil
  · rw [hunstamped]
    exact fun n hn => (by cases hn)
  · exact fun p hp => (by cases hp)
  · refine ⟨[], [], rfl, ?_, ?_⟩
    · rw [hout]
      exact .nil
    · rw [herrQueue]
      exact .nil

/-- The thread goes on without handing over a packet. -/
lemma Logged.move (h : Logged opt ts ps s) (hstored : s.stored = none) {t : AfpktSender}
    (ht : (t.pc = .setup ∧ ts = []) ∨ (t.pc ≠ .setup ∧ AfpktLink.Sends opt ts t)) :
    Logged opt ts ps { s with sender := t, stored := none, unstamped := s.unstamped ++ [] } := by
  refine ⟨ht, ?_, h.seq, ?_, ?_, h.timed, h.reads⟩
  · have htimes := h.lines
    rwa [hstored] at htimes
  · rw [List.append_nil]
    exact h.nodup
  · rw [List.append_nil]
    exact h.le

/-- A pass, up to the sending. -/
lemma Logged.turn (h : Logged opt ts ps s) (hstored : s.stored = none) (hpc : s.sender.pc = .loop)
    (hcount : s.sender.count ≠ 0) (now : Nat) (sent : Bool) :
    Logged opt (ts ++ [now]) ps { s with
      sender := s.sender.next opt now
      stored := some now
      unstamped := s.unstamped ++ handedBy s.sender (.turn now sent) } := by
  obtain ⟨-, hsends⟩ := h.sender.resolve_left fun hsetup => by simp [hpc] at hsetup
  have hseq := hsends.seq
  have hlength : (ts ++ [now]).length = ts.length + 1 := List.length_append
  have hnew : ∀ n ∈ handedBy s.sender (.turn now sent), n = ts.length + 1 := by
    intro n hn
    cases sent with
    | false => cases hn
    | true => exact (List.mem_singleton.mp hn).trans hseq
  have hgoes : (s.sender.next opt now).pc ≠ .setup := by simp [AfpktSender.next, hpc]
  refine ⟨.inr ⟨hgoes, hsends.turn hcount now⟩, ?_, h.seq, ?_, ?_, h.timed, h.reads⟩
  · have htimes := h.lines
    rw [hstored] at htimes
    rw [htimes]
    simp
  · rw [← List.append_assoc, List.nodup_append]
    refine ⟨h.nodup, ?_, fun a ha b hb => ?_⟩
    · cases sent with
      | false => exact .nil
      | true => exact List.nodup_singleton _
    · have hle := h.le a ha
      have hb' := hnew b hb
      omega
  · intro n hn
    rw [hlength]
    rw [← List.append_assoc] at hn
    rcases List.mem_append.mp hn with hn | hn
    · exact Nat.le_succ_of_le (h.le n hn)
    · exact Nat.le_of_eq (hnew n hn)

/-- A time is reported. -/
lemma Logged.stamp (h : Logged opt ts ps s) {i time n : Nat} (hn : s.unstamped[i]? = some n)
    (htime : 0 < time ∧ time < 2 ^ 64) (ee : Vector UInt8 16) :
    Logged opt ts (ps ++ [(n, time)]) { s with
      unstamped := s.unstamped.eraseIdx i
      errQueue := s.errQueue ++ [txReport time ee] } := by
  have hperm : ((ps ++ [(n, time)]).map Prod.fst ++ s.unstamped.eraseIdx i).Perm
      (ps.map Prod.fst ++ s.unstamped) := by
    obtain ⟨hi, rfl⟩ := List.getElem?_eq_some_iff.mp hn
    rw [List.map_append, List.append_assoc]
    exact (List.getElem_cons_eraseIdx_perm hi).append_left _
  refine ⟨h.sender, h.lines, h.seq, hperm.nodup_iff.mpr h.nodup,
    fun a ha => h.le a (hperm.mem_iff.mp ha), ?_, ?_⟩
  · intro p hp
    rcases List.mem_append.mp hp with hp | hp
    · exact h.timed p hp
    · rw [List.mem_singleton.mp hp]
      exact htime
  · obtain ⟨shown, waiting, rfl, hshown, hwaiting⟩ := h.reads
    exact ⟨shown, waiting ++ [(n, time)], List.append_assoc _ _ _, hshown,
      List.rel_append hwaiting (.cons ⟨ee, rfl⟩ .nil)⟩

/-- A packet is given up. -/
lemma Logged.skip (h : Logged opt ts ps s) (i : Nat) :
    Logged opt ts ps { s with unstamped := s.unstamped.eraseIdx i } := by
  have hsublist := (List.Sublist.refl (ps.map Prod.fst)).append (s.unstamped.eraseIdx_sublist i)
  exact ⟨h.sender, h.lines, h.seq, h.nodup.sublist hsublist,
    fun a ha => h.le a (hsublist.subset ha), h.timed, h.reads⟩

/-- What a pass finds is the oldest of the times that wait, if anything. -/
lemma reads_collect {shown waiting : List (Nat × Nat)} {n : Nat}
    (hshown : List.Forall₂ TxLine.Shows (s.out.filter TxLine.Stamped) shown)
    (hwaiting : List.Forall₂ (fun cs p => ∃ ee, cs = txReport p.2 ee) s.errQueue waiting)
    (hle : ∀ p ∈ waiting, p.1 ≤ n) (htimed : ∀ p ∈ waiting, 0 < p.2 ∧ p.2 < 2 ^ 64)
    (found : Bool) (now : Nat) (control : Memory) :
    ∃ shown' waiting', shown ++ waiting = shown' ++ waiting' ∧
      List.Forall₂ TxLine.Shows ((s.out ++ [(⟨n, now,
        if found then extractTsFromCmsg control s.errQueue.head? else 0⟩ : TxLine)]).filter
          TxLine.Stamped) shown' ∧
      List.Forall₂ (fun cs p => ∃ ee, cs = txReport p.2 ee)
        (if found then s.errQueue.tail else s.errQueue) waiting' := by
  have hnone : ∀ out : List TxLine,
      (out ++ [(⟨n, now, 0⟩ : TxLine)]).filter TxLine.Stamped = out.filter TxLine.Stamped := by
    intro out
    rw [List.filter_append]
    exact List.append_nil _
  cases found with
  | false =>
    refine ⟨shown, waiting, rfl, ?_, hwaiting⟩
    rw [if_neg Bool.false_ne_true, hnone]
    exact hshown
  | true =>
    rw [if_pos rfl, if_pos rfl]
    cases hqueue : s.errQueue with
    | nil =>
      rw [hqueue] at hwaiting
      refine ⟨shown, waiting, rfl, ?_, hwaiting⟩
      rw [List.head?_nil, extractTsFromCmsg, hnone]
      exact hshown
    | cons cs rest =>
      rw [hqueue] at hwaiting
      obtain ⟨p, waiting, ⟨ee, rfl⟩, hrest, rfl⟩ := List.forall₂_cons_left_iff.mp hwaiting
      obtain ⟨hpos, hlt⟩ := htimed p List.mem_cons_self
      refine ⟨shown ++ [p], waiting, List.append_cons _ _ _, ?_, hrest⟩
      rw [List.head?_cons, extractTsFromCmsg_txReport control hlt ee, List.filter_append]
      have hstamped : TxLine.Stamped ⟨n, now, p.2⟩ := Nat.ne_of_gt hpos
      rw [List.filter_singleton, decide_eq_true hstamped]
      exact List.rel_append hshown (.cons ⟨rfl, hle p List.mem_cons_self⟩ .nil)

/-- A line is printed. -/
lemma Logged.collect (h : Logged opt ts ps s) {now : Nat} (hstored : s.stored = some now)
    (found : Bool) (control : Memory) :
    Logged opt ts ps { s with
      stored := none
      errQueue := if found then s.errQueue.tail else s.errQueue
      out := s.out ++ [⟨(s.sender.seq + (2 ^ 32 - 1)) % 2 ^ 32, now,
        if found then extractTsFromCmsg control s.errQueue.head? else 0⟩] } := by
  have htimes := h.lines
  rw [hstored] at htimes
  have hlength : ts.length = s.out.length + 1 := by simp [htimes]
  obtain ⟨-, hsends⟩ := h.sender.resolve_left fun hsetup => by simp [hsetup.2] at hlength
  have hseq : (s.sender.seq + (2 ^ 32 - 1)) % 2 ^ 32 = ts.length := by
    have hcount := hsends.count
    have hframes := opt.framesToSend_le
    rw [hsends.seq]
    omega
  obtain ⟨shown, waiting, rfl, hshown, hwaiting⟩ := h.reads
  rw [hseq]
  refine ⟨h.sender, ?_, ?_, h.nodup, h.le, h.timed, ?_⟩
  · rw [htimes]
    simp
  · rw [List.map_append, h.seq, List.length_append, hlength]
    show _ = List.range' 1 (s.out.length + 1)
    rw [List.range'_1_concat, Nat.add_comm 1]
    rfl
  · refine reads_collect hshown hwaiting (fun p hp => ?_) (fun p hp => ?_) found now control
    · refine h.le p.1 (List.mem_append_left _ (List.mem_map_of_mem ?_))
      exact List.mem_append_right _ hp
    · exact h.timed p (List.mem_append_right _ hp)

lemma Logged.step {tr : List (StampedSender × StampedAct)} {a : StampedAct}
    (h : Logged opt (times thread tr) (posted tr) s) (hverbose : opt.verbose = true) (hat : Timed a)
    (hs : (stampedLts thread opt).step s a = some s') :
    Logged opt (times thread (tr ++ [(s, a)])) (posted (tr ++ [(s, a)])) s' := by
  replace hs : StampedSender.step thread opt s a = some s' := hs
  rw [times_append, posted_append]
  cases a with
  | sender a =>
    simp only [StampedSender.step] at hs
    split_ifs at hs with hstored
    obtain ⟨t, ht, rfl⟩ := Option.map_eq_some_iff.mp hs
    have hposted : posted [(s, .sender a)] = [] := rfl
    rw [hposted, List.append_nil]
    cases AfpktSender.step_spec ht with
    | begin sec hpc =>
      have htimes : times thread [(s, .sender (.begin sec))] = [] := rfl
      obtain ⟨-, hnil⟩ := h.sender.resolve_right fun hset => hset.1 hpc
      rw [htimes, List.append_nil]
      have hgoes : (AfpktSender.begin thread opt sec).pc ≠ .setup := by simp [AfpktSender.begin]
      refine h.move hstored (.inr ⟨hgoes, prepared_begin thread opt sec, ?_, ?_⟩)
      · rw [hnil]
        rfl
      · rw [hnil]
        rfl
    | turn now sent hpc hcount hsent =>
      have hgoes : ¬ (sent = false ∧ thread = .plain) := by
        rintro ⟨hfalse, hplain⟩
        rcases hsent with htrue | hetf
        · simp [hfalse] at htrue
        · simp [hplain] at hetf
      have htimes : times thread [(s, .sender (.turn now sent))] = [now] := by
        simp [times, hgoes]
      have hstays : storedBy (s.sender.next opt now) (.turn now sent) = some now := by
        simp [storedBy, AfpktSender.next, hpc]
      rw [htimes, hstays]
      exact h.turn hstored hpc hcount now sent
    | failed now hpc hcount hplain =>
      have htimes : times thread [(s, .sender (.turn now false))] = [] := by
        simp [times, hplain]
      obtain ⟨-, hsends⟩ := h.sender.resolve_left fun hset => by simp [hpc] at hset
      rw [htimes, List.append_nil]
      exact h.move hstored (.inr ⟨by simp, hsends.prepared, hsends.seq, hsends.count⟩)
    | leave hpc =>
      have htimes : times thread [(s, .sender .leave)] = [] := rfl
      obtain ⟨-, hsends⟩ := h.sender.resolve_left fun hset => by simp [hpc] at hset
      rw [htimes, List.append_nil]
      exact h.move hstored (.inr ⟨by simp, hsends.prepared, hsends.seq, hsends.count⟩)
  | stamp i time ee =>
    obtain ⟨hi, rfl⟩ := of_guard hs
    have htimes : times thread [(s, .stamp i time ee)] = [] := rfl
    have hn := List.getElem?_eq_getElem hi
    have hposted : posted [(s, .stamp i time ee)] = [(s.unstamped[i], time)] := by
      simp [posted, hn]
    rw [htimes, List.append_nil, hposted]
    exact h.stamp hn hat ee
  | skip i =>
    obtain ⟨-, rfl⟩ := of_guard hs
    have htimes : times thread [(s, .skip i)] = [] := rfl
    have hposted : posted [(s, .skip i)] = [] := rfl
    rw [htimes, hposted, List.append_nil, List.append_nil]
    exact h.skip i
  | collect ready control =>
    obtain ⟨now, hstored, rfl⟩ := Option.map_eq_some_iff.mp hs
    have htimes : times thread [(s, .collect ready control)] = [] := rfl
    have hposted : posted [(s, .collect ready control)] = [] := rfl
    rw [htimes, hposted, List.append_nil, List.append_nil]
    simp only [if_pos hverbose]
    exact h.collect hstored (ready && opt.enableHwts) control

theorem logged {tr : List (StampedSender × StampedAct)} (h : (stampedLts thread opt).Run tr s)
    (hverbose : opt.verbose = true) (htimed : ∀ x ∈ tr, Timed x.2) :
    Logged opt (times thread tr) (posted tr) s :=
  h.induct_of (P := fun tr => Logged opt (times thread tr) (posted tr)) (C := fun _ a => Timed a)
    (fun _ => logged_init) (fun _ _ _ _ _ _ hlogged hat hs => hlogged.step hverbose hat hs) htimed

/-! ### Late times -/

/-- The socket takes the packet, or the network card reports on the oldest of its packets. -/
def InOrder : StampedAct → Prop
  | .sender (.turn _ sent) => sent = true
  | .sender _              => True
  | .stamp i _ _           => i = 0
  | .skip _                => False
  | .collect _ _           => True

instance : DecidablePred InOrder
  | .sender (.begin _)     => isTrue trivial
  | .sender (.turn _ sent) => inferInstanceAs (Decidable (sent = true))
  | .sender .leave         => isTrue trivial
  | .stamp i _ _           => inferInstanceAs (Decidable (i = 0))
  | .skip _                => isFalse id
  | .collect _ _           => isTrue trivial

/-- How many of the lines show no time. -/
def missed (out : List TxLine) : Nat := out.countP fun l => ¬ l.Stamped

/-- What is reported on is the packets in their order. -/
lemma posted_inOrder {tr : List (StampedSender × StampedAct)}
    (h : (stampedLts thread opt).Run tr s) (hverbose : opt.verbose = true)
    (hC : ∀ x ∈ tr, Timed x.2 ∧ InOrder x.2) :
    (posted tr).map Prod.fst ++ s.unstamped = List.range' 1 (times thread tr).length := by
  refine h.induct_of (C := fun _ a => Timed a ∧ InOrder a) (P := fun tr s =>
    (posted tr).map Prod.fst ++ s.unstamped = List.range' 1 (times thread tr).length) ?_ ?_ hC
  · rintro s ⟨-, -, hunstamped, -⟩
    rw [hunstamped]
    rfl
  · rintro tr s a s' hrun htr hI ⟨-, hat⟩ hs
    have hlogged := logged hrun hverbose fun x hx => (htr x hx).1
    replace hs : StampedSender.step thread opt s a = some s' := hs
    rw [times_append, posted_append]
    cases a with
    | sender a =>
      simp only [StampedSender.step] at hs
      split_ifs at hs with hstored
      obtain ⟨t, ht, rfl⟩ := Option.map_eq_some_iff.mp hs
      have hposted : posted [(s, .sender a)] = [] := rfl
      rw [hposted, List.append_nil]
      cases AfpktSender.step_spec ht with
      | begin sec hpc =>
        have htimes : times thread [(s, .sender (.begin sec))] = [] := rfl
        rw [htimes, List.append_nil]
        exact (congrArg _ (List.append_nil _)).trans hI
      | turn now sent hpc hcount hsent =>
        obtain rfl : sent = true := hat
        have htimes : times thread [(s, .sender (.turn now true))] = [now] := rfl
        obtain ⟨-, hsends⟩ := hlogged.sender.resolve_left fun hset => by simp [hpc] at hset
        rw [htimes, List.length_append]
        show _ ++ (s.unstamped ++ [s.sender.seq]) = List.range' 1 (_ + 1)
        rw [← List.append_assoc, hI, hsends.seq, List.range'_1_concat, Nat.add_comm 1]
      | failed now hpc hcount hplain => cases hat
      | leave hpc =>
        have htimes : times thread [(s, .sender .leave)] = [] := rfl
        rw [htimes, List.append_nil]
        exact (congrArg _ (List.append_nil _)).trans hI
    | stamp i time ee =>
      obtain rfl : i = 0 := hat
      obtain ⟨hi, rfl⟩ := of_guard hs
      have htimes : times thread [(s, .stamp 0 time ee)] = [] := rfl
      have hposted : posted [(s, .stamp 0 time ee)] = [(s.unstamped[0], time)] := by
        simp [posted, List.getElem?_eq_getElem hi]
      rw [htimes, List.append_nil, hposted, List.map_append, List.append_assoc, ← hI]
      show _ ++ (s.unstamped[0] :: s.unstamped.eraseIdx 0) = _
      rw [List.eraseIdx_zero, List.getElem_zero, List.cons_head_tail]
    | skip i => cases hat
    | collect ready control =>
      obtain ⟨now, hstored, rfl⟩ := Option.map_eq_some_iff.mp hs
      have htimes : times thread [(s, .collect ready control)] = [] := rfl
      have hposted : posted [(s, .collect ready control)] = [] := rfl
      rw [htimes, hposted, List.append_nil, List.append_nil]
      exact hI

lemma length_eq_missed_add (out : List TxLine) :
    out.length = missed out + (out.filter TxLine.Stamped).length := by
  rw [List.length_eq_countP_add_countP TxLine.Stamped, Nat.add_comm, missed,
    List.countP_eq_length_filter (p := fun l => decide (TxLine.Stamped l))]
  simp only [decide_eq_true_eq]

/-- Where a line is among those with a time. -/
lemma getElem?_filter_stamped {out : List TxLine} {i : Nat} {l : TxLine} (hl : out[i]? = some l)
    (hstamped : l.Stamped) :
    missed (out.take i) ≤ i ∧ (out.filter TxLine.Stamped)[i - missed (out.take i)]? = some l := by
  obtain ⟨hi, rfl⟩ := List.getElem?_eq_some_iff.mp hl
  have hsum := length_eq_missed_add (out.take i)
  rw [List.length_take, Nat.min_eq_left (Nat.le_of_lt hi)] at hsum
  have hfilter : out.filter TxLine.Stamped = (out.take i).filter TxLine.Stamped ++
      out[i] :: (out.drop (i + 1)).filter TxLine.Stamped := by
    conv_lhs => rw [← List.take_append_drop i out, List.drop_eq_getElem_cons hi]
    rw [List.filter_append, List.filter_cons_of_pos (by simpa using hstamped)]
  have hat : i - missed (out.take i) = ((out.take i).filter TxLine.Stamped).length := by omega
  refine ⟨by omega, ?_⟩
  rw [hfilter, hat, List.getElem?_append_right (Nat.le_refl _), Nat.sub_self,
    List.getElem?_cons_zero]

lemma eq_of_numbered {l r : List Nat} {n k b : Nat} (h : l ++ r = List.range' 1 n)
    (hb : l[k]? = some b) : b = k + 1 := by
  have hat := Lts.getElem?_append_of_some hb r
  rw [h] at hat
  have hlt : k < n := by simpa using (List.getElem?_eq_some_iff.mp hat).1
  rw [List.getElem?_range' hlt] at hat
  have hsum := Option.some.inj hat
  omega

/-- The lines are those of the packets in their order. The times they show are the first of those
reported, each on one line, and none of a later packet. If the packets are reported on one after
the other, a time is that of the packet by so many earlier as lines before have shown none. -/
theorem shows_times {tr : List (StampedSender × StampedAct)} (h : (stampedLts thread opt).Run tr s)
    (hverbose : opt.verbose = true) (htimed : ∀ x ∈ tr, Timed x.2) :
    (s.out.map fun l => (l.txTimestampA, l.seq)) =
        ((times thread tr).zipIdx 1).take s.out.length ∧
      ((posted tr).map Prod.fst).Nodup ∧
      (∃ shown, shown <+: posted tr ∧
        List.Forall₂ TxLine.Shows (s.out.filter TxLine.Stamped) shown) ∧
      ((∀ x ∈ tr, InOrder x.2) → ∀ i l, s.out[i]? = some l → l.Stamped →
        (l.seq - missed (s.out.take i), l.txTimestampB) ∈ posted tr) := by
  have hlogged := logged h hverbose htimed
  obtain ⟨shown, waiting, hposted, hshown, -⟩ := hlogged.reads
  refine ⟨?_, hlogged.nodup.of_append_left, ⟨shown, ⟨waiting, hposted.symm⟩, hshown⟩, ?_⟩
  · have hlength : s.out.length = (s.out.map TxLine.txTimestampA).length := by simp
    conv_rhs => rw [hlogged.lines]
    rw [List.zipIdx_append, hlength,
      List.take_append_of_le_length (Nat.le_of_eq List.length_zipIdx.symm),
      List.take_of_length_le (Nat.le_of_eq List.length_zipIdx), List.zipIdx_eq_zip_range',
      ← hlength, ← hlogged.seq, List.zip_map']
  · intro hinOrder i l hl hstamped
    obtain ⟨hle, hfound⟩ := getElem?_filter_stamped hl hstamped
    obtain ⟨hj, hline⟩ := List.getElem?_eq_some_iff.mp hfound
    have hj' : i - missed (s.out.take i) < shown.length := hshown.length_eq ▸ hj
    obtain ⟨htime, -⟩ := (List.forall₂_iff_get.mp hshown).2 _ hj hj'
    rw [List.get_eq_getElem, List.get_eq_getElem, hline] at htime
    have hseq : l.seq = i + 1 := by
      have hat : (s.out.map TxLine.seq)[i]? = some l.seq := by simp [hl]
      exact eq_of_numbered ((List.append_nil _).trans hlogged.seq) hat
    have hnumber : shown[i - missed (s.out.take i)].1 = l.seq - missed (s.out.take i) := by
      have hnumbers := posted_inOrder h hverbose fun x hx => ⟨htimed x hx, hinOrder x hx⟩
      rw [hposted, List.map_append, List.append_assoc] at hnumbers
      have hat := eq_of_numbered hnumbers (k := i - missed (s.out.take i))
        (b := shown[i - missed (s.out.take i)].1) (by simp [hj'])
      omega
    rw [hposted, ← hnumber, htime]
    exact List.mem_append_left _ (List.getElem_mem hj')

section

private def printing : Options := { Options.default with enableHwts := true, verbose := true }

/-- The time of the first packet comes too late. -/
private def oneLate : List StampedAct :=
  [.sender (.begin 5), .sender (.turn 70 true), .collect false (fun _ => 0),
    .stamp 0 90 (.replicate 16 0), .sender (.turn 80 true), .collect true (fun _ => 0)]

/-- It is printed with the second. -/
theorem shows_times_oneLate : ∃ tr s, (stampedLts .plain printing).Run tr s ∧
    s.out = [⟨1, 70, 0⟩, ⟨2, 80, 90⟩] ∧ (1, 90) ∈ posted tr := by
  have hreplay : ((stampedLts .plain printing).replay
      ⟨⟨.setup, 0, ⟨0, 0⟩, 0, 0, []⟩, none, [], [], []⟩ oneLate).map (fun r =>
        (r.2.out, decide (∀ x ∈ r.1, Timed x.2), decide (∀ x ∈ r.1, InOrder x.2))) =
          some ([⟨1, 70, 0⟩, ⟨2, 80, 90⟩], true, true) := by
    decide +kernel
  obtain ⟨⟨tr, s⟩, hr, hsees⟩ := Option.map_eq_some_iff.mp hreplay
  simp only [Prod.mk.injEq, decide_eq_true_eq] at hsees
  obtain ⟨hout, htimed, hinOrder⟩ := hsees
  have hrun := Lts.Run.of_replay (A := stampedLts .plain printing) ⟨rfl, rfl, rfl, rfl, rfl⟩ hr
  obtain ⟨-, -, -, hlate⟩ := shows_times hrun rfl htimed
  refine ⟨tr, s, hrun, hout, ?_⟩
  rw [hout] at hlate
  exact hlate hinOrder 1 ⟨2, 80, 90⟩ rfl (by decide)

end

end StampedSender

end Txrx

end TsnRefSw
