import TsnRefSw.Txrx.Afpkt.Send
import TsnRefSw.Txrx.Afxdp.Send

/-!
# The schedule of the launch times

The AF_PACKET thread with launch times keeps the time at which it wakes up and adds the early
offset to it; the AF_XDP thread keeps the launch time and subtracts the offset. Neither drifts,
and both follow the same schedule.

The schedule is one of passes of the loop. A pass that does not get its frame sent, since the
socket refuses it, is not writable in time or has no descriptor left, uses up its launch time.
-/

namespace TsnRefSw

open Core

namespace Txrx

/-- The launch time of pass `k` where the clock shows `sec` seconds at the start. -/
def launchTime (opt : Options) (sec k : Nat) : Nat :=
  (sec + 2) * nsecPerSec + opt.offsetNs + k * opt.intervalNs

/-- Pass `k` has its launch time, and the thread sleeps until it is time for it. -/
structure OnSchedule (opt : Options) (sec k : Nat) (launch : Nat) (ts : Timespec) : Prop where
  launch_eq : launch = launchTime opt sec k
  proper : ts.Proper
  ns_eq : ts.ns = launchTime opt sec k - opt.earlyOffsetNs

section
variable {opt : Options} {sec k : Nat}

lemma launchTime_zero : launchTime opt sec 0 = (sec + 2) * nsecPerSec + opt.offsetNs := by
  rw [launchTime, Nat.zero_mul, Nat.add_zero]

lemma launchTime_succ : launchTime opt sec (k + 1) = launchTime opt sec k + opt.intervalNs := by
  simp only [launchTime, Nat.succ_mul k, Nat.add_assoc]

lemma early_le_launchTime : opt.earlyOffsetNs ≤ launchTime opt sec k := by
  have hearly := opt.earlyOffsetNs_le
  rw [launchTime, nsecPerSec]
  omega

variable (opt) in
/-- The launch times of all passes, and one more, fit into 64 bits. -/
lemma launchTime_lt (hsec : sec < 2 ^ 33) (hk : k ≤ opt.framesToSend + numFlushPackets) :
    launchTime opt sec k + opt.earlyOffsetNs < 2 ^ 63 := by
  have hframes := opt.framesToSend_le
  have hoffset := opt.offsetNs_le
  have hearly := opt.earlyOffsetNs_le
  have hspan : k * opt.intervalNs ≤ 10000010 * 50000000 := by
    apply Nat.mul_le_mul
    · rw [numFlushPackets] at hk
      omega
    · exact opt.intervalNs_le
  rw [launchTime, nsecPerSec]
  omega

lemma onSchedule_ofNs : OnSchedule opt sec k (launchTime opt sec k)
    (.ofNs (launchTime opt sec k - opt.earlyOffsetNs)) := by
  refine ⟨rfl, Timespec.proper_ofNs _, ?_⟩
  rw [Timespec.ns_ofNs, Int.ofNat_sub early_le_launchTime]

end

/-! ### Frames and passes -/

/-- A number in a strictly increasing list is at least as large as its place. -/
lemma le_of_increasing {l : List Nat} (h : l.Pairwise (· < ·)) {k n : Nat}
    (hk : l[k]? = some n) : k ≤ n := by
  induction k generalizing n with
  | zero => exact Nat.zero_le n
  | succ k ih =>
    obtain ⟨hlt, rfl⟩ := List.getElem?_eq_some_iff.mp hk
    have hle : k ≤ l[k] := ih (List.getElem?_eq_getElem (Nat.lt_of_succ_lt hlt))
    exact hle.trans_lt (List.pairwise_iff_getElem.mp h k (k + 1) _ hlt (Nat.lt_succ_self k))

/-- It is its place exactly if none of the numbers up to there is missing. -/
lemma eq_iff_of_increasing {l : List Nat} (h : l.Pairwise (· < ·)) {k n : Nat}
    (hk : l[k]? = some n) : n = k ↔ ∀ i ≤ k, i ∈ l := by
  constructor
  · rintro rfl i hi
    obtain ⟨hlt, hn⟩ := List.getElem?_eq_some_iff.mp hk
    -- from place `i` to place `n` the numbers grow by `n - i` at least
    have hgrow : ∀ d, ∀ hd : i + d < l.length, l[i] + d ≤ l[i + d] := by
      intro d
      induction d with
      | zero => exact fun _ => le_rfl
      | succ d ih =>
        intro hd
        have hstep := List.pairwise_iff_getElem.mp h (i + d) (i + (d + 1)) (by omega) hd (by omega)
        exact (Nat.succ_le_succ (ih (by omega))).trans hstep
    have hle := hgrow (n - i) (by omega)
    simp only [Nat.add_sub_cancel' hi, hn] at hle
    have hge := le_of_increasing h (List.getElem?_eq_getElem (hi.trans_lt hlt))
    have heq : l[i] = i := by omega
    exact heq ▸ List.getElem_mem (hi.trans_lt hlt)
  · intro hall
    -- each number up to `k` is found at its own place
    have hplace : ∀ i ≤ k, l[i]? = some i := by
      intro i
      induction i using Nat.strongRecOn with
      | ind i ih =>
        intro hi
        obtain ⟨m, hm⟩ := List.getElem?_of_mem (hall i hi)
        rcases (le_of_increasing h hm).lt_or_eq with hlt | rfl
        · rw [ih m hlt (by omega)] at hm
          exact absurd (Option.some.inj hm) (Nat.ne_of_lt hlt)
        · exact hm
    rw [hplace k le_rfl] at hk
    exact (Option.some.inj hk).symm

/-- The frames of a thread, each given by the pass that sent it and the launch time it carries,
follow the schedule: the `k`-th frame carries the launch time of its pass, which is the `k`-th
exactly if all passes up to the `k`-th have sent their frames. -/
def Carry (opt : Options) (sec : Nat) (frames : List (Nat × Option Nat)) : Prop :=
  ∀ k j t, frames[k]? = some (j, t) → t = some (launchTime opt sec j) ∧ k ≤ j ∧
    (t = some (launchTime opt sec k) ↔ ∀ i ≤ k, i ∈ frames.map Prod.fst)

section
variable {opt : Options} {sec : Nat}

lemma launchTime_inj {j k : Nat} : launchTime opt sec j = launchTime opt sec k ↔ j = k := by
  have hpos : 0 < opt.intervalNs := Nat.lt_of_lt_of_le (by decide) opt.intervalNs_ge
  rw [launchTime, launchTime, Nat.add_left_cancel_iff]
  exact Nat.mul_left_inj hpos.ne'

lemma carry_of_increasing {frames : List (Nat × Option Nat)}
    (hlaunch : ∀ f ∈ frames, f.2 = some (launchTime opt sec f.1))
    (hpasses : (frames.map Prod.fst).Pairwise (· < ·)) : Carry opt sec frames := by
  intro k j t hk
  obtain rfl : t = some (launchTime opt sec j) := hlaunch _ (List.mem_of_getElem? hk)
  have hpass : (frames.map Prod.fst)[k]? = some j := by
    rw [List.getElem?_map, hk]
    rfl
  refine ⟨rfl, le_of_increasing hpasses hpass, ?_⟩
  rw [Option.some_inj, launchTime_inj]
  exact eq_iff_of_increasing hpasses hpass

end

/-- One more pass has sent its frame. -/
lemma increasing_concat {l : List Nat} {n : Nat} (h : l.Pairwise (· < ·))
    (hlt : ∀ i ∈ l, i < n) : (l ++ [n]).Pairwise (· < ·) :=
  List.pairwise_append.mpr ⟨h, List.pairwise_singleton _ _,
    fun i hi _ hj => List.mem_singleton.mp hj ▸ hlt i hi⟩

/-! ### AF_PACKET -/

namespace AfpktSender

variable {opt : Options} {s s' : AfpktSender} {sec : Nat}

/-- The passes of the loop in a run, each with the state before it. -/
def turns (tr : List (AfpktSender × AfpktAct)) : List AfpktSender :=
  tr.filterMap fun x => match x.2 with
    | .turn _ _ => some x.1
    | _         => none

/-- The frames sent in a run, each with the pass that sent it and its launch time. -/
def sent (opt : Options) (tr : List (AfpktSender × AfpktAct)) : List (Nat × Option Nat) :=
  tr.filterMap fun x => match x.2 with
    | .turn now true =>
      some (opt.framesToSend - x.1.count, (x.1.msg .etf opt now).txTimestamp)
    | _              => none

/-- The clock shows `sec` seconds if the thread starts. -/
def StartsAt (sec : Nat) (a : AfpktAct) : Prop := ∀ sec', a = .begin sec' → sec' = sec

/-- No unsigned computation exceeds its type. -/
def NoWrap (opt : Options) (s : AfpktSender) : AfpktAct → Prop
  | .begin sec => sec * nsecPerSec + 2 * nsecPerSec + opt.offsetNs < 2 ^ 64 ∧
      opt.earlyOffsetNs ≤ sec * nsecPerSec + 2 * nsecPerSec + opt.offsetNs
  | .turn _ _  => s.loopingTs + opt.earlyOffsetNs < 2 ^ 64 ∧
      s.loopingTs + opt.intervalNs < 2 ^ 64 ∧ s.seq + 1 < 2 ^ 32
  | .leave     => True

/-- After `k` passes. -/
structure Turned (opt : Options) (sec k : Nat) (s : AfpktSender) : Prop where
  looping : s.loopingTs + opt.earlyOffsetNs = launchTime opt sec k
  ts : s.ts = .ofNs s.loopingTs
  count : s.count + k = opt.framesToSend
  seq : s.seq = k + 1

lemma start_etf (hsec : sec < 2 ^ 33) :
    start .etf opt sec + opt.earlyOffsetNs = launchTime opt sec 0 := by
  have hoffset := opt.offsetNs_le
  have hearly := opt.earlyOffsetNs_le
  simp only [launchTime_zero, start, getTimeSec, nsecPerSec]
  omega

lemma Turned.launch (h : Turned opt sec k s) (hlt : launchTime opt sec k < 2 ^ 64) :
    s.launch opt = launchTime opt sec k := by
  rw [AfpktSender.launch, h.looping, Nat.mod_eq_of_lt hlt]

lemma Turned.onSchedule (h : Turned opt sec k s) (hlt : launchTime opt sec k < 2 ^ 64) :
    OnSchedule opt sec k (s.launch opt) s.ts := by
  have hlooping : s.loopingTs = launchTime opt sec k - opt.earlyOffsetNs := by
    rw [← h.looping, Nat.add_sub_cancel]
  rw [h.launch hlt, h.ts, hlooping]
  exact onSchedule_ofNs

lemma Turned.noWrap (h : Turned opt sec k s) (hsec : sec < 2 ^ 33) (hk : k < opt.framesToSend)
    (now : Nat) (sent : Bool) : NoWrap opt s (.turn now sent) := by
  have hlooping := h.looping
  have hframes := opt.framesToSend_le
  have hlt := launchTime_lt opt hsec (show k + 1 ≤ _ by omega)
  rw [launchTime_succ] at hlt
  refine ⟨?_, ?_, ?_⟩
  · omega
  · omega
  · rw [h.seq]
    omega

lemma noWrap_begin (hsec : sec < 2 ^ 33) : NoWrap opt s (.begin sec) := by
  have hoffset := opt.offsetNs_le
  have hearly := opt.earlyOffsetNs_le
  simp only [NoWrap, nsecPerSec]
  omega

/-- A pass leads to the next point of the schedule. -/
lemma Turned.next (h : Turned opt sec k s) (hsec : sec < 2 ^ 33) (hcount : s.count ≠ 0)
    (now : Nat) : Turned opt sec (k + 1) (s.next opt now) := by
  have htotal := h.count
  have hframes := opt.framesToSend_le
  obtain ⟨-, hwrap, hseq⟩ := h.noWrap hsec (by omega) now true
  constructor
  · show (s.loopingTs + opt.intervalNs) % 2 ^ 64 + opt.earlyOffsetNs = _
    rw [Nat.mod_eq_of_lt hwrap, launchTime_succ, ← h.looping]
    omega
  · rfl
  · show s.count - 1 + (k + 1) = opt.framesToSend
    omega
  · show (s.seq + 1) % 2 ^ 32 = k + 1 + 1
    rw [Nat.mod_eq_of_lt hseq, h.seq]

/-- In a run, each pass is at its point of the schedule, and the thread is where the number of
passes says. -/
structure Follows (opt : Options) (sec : Nat) (tr : List (AfpktSender × AfpktAct))
    (s : AfpktSender) : Prop where
  turned : ∀ k t, (turns tr)[k]? = some t → Turned opt sec k t ∧ k < opt.framesToSend
  launches : ∀ f ∈ sent opt tr, f.2 = some (launchTime opt sec f.1)
  increasing : ((sent opt tr).map Prod.fst).Pairwise (· < ·)
  passed : ∀ i ∈ (sent opt tr).map Prod.fst, i < (turns tr).length
  noWrap : ∀ x ∈ tr, NoWrap opt x.1 x.2
  now : (s.pc = .setup ∧ turns tr = []) ∨ (s.pc ≠ .setup ∧ Turned opt sec (turns tr).length s)

lemma turns_append (tr : List (AfpktSender × AfpktAct)) (x : AfpktSender × AfpktAct) :
    turns (tr ++ [x]) = turns tr ++ turns [x] := List.filterMap_append

lemma sent_append (tr : List (AfpktSender × AfpktAct)) (x : AfpktSender × AfpktAct) :
    sent opt (tr ++ [x]) = sent opt tr ++ sent opt [x] := List.filterMap_append

lemma follows_init (h : (afpktLts .etf opt).init s) : Follows opt sec [] s :=
  ⟨by simp [turns], by simp [sent], .nil, by simp [sent], by simp, .inl ⟨h, rfl⟩⟩

/-- A step that is no pass. -/
lemma Follows.quiet {tr : List (AfpktSender × AfpktAct)} {a : AfpktAct}
    (h : Follows opt sec tr s) (hturns : turns [(s, a)] = []) (hsent : sent opt [(s, a)] = [])
    (hwrap : NoWrap opt s a)
    (hnow : s'.pc ≠ .setup ∧ Turned opt sec (turns tr).length s') :
    Follows opt sec (tr ++ [(s, a)]) s' := by
  have hturns' : turns (tr ++ [(s, a)]) = turns tr := by
    rw [turns_append, hturns, List.append_nil]
  have hsent' : sent opt (tr ++ [(s, a)]) = sent opt tr := by
    rw [sent_append, hsent, List.append_nil]
  obtain ⟨hturned, hlaunches, hincreasing, hpassed, hnoWrap, -⟩ := h
  exact ⟨hturns' ▸ hturned, hsent' ▸ hlaunches, hsent' ▸ hincreasing, hsent' ▸ hturns' ▸ hpassed,
    List.forall_mem_append.mpr ⟨hnoWrap, List.forall_mem_singleton.mpr hwrap⟩,
    .inr (hturns' ▸ hnow)⟩

/-- A pass, whether its frame is sent or not. -/
lemma Follows.turn {tr : List (AfpktSender × AfpktAct)} (h : Follows opt sec tr s)
    (hsec : sec < 2 ^ 33) (hpc : s.pc = .loop) (hcount : s.count ≠ 0) (now : Nat)
    (ok : Bool) : Follows opt sec (tr ++ [(s, .turn now ok)]) (s.next opt now) := by
  obtain ⟨hturned, hlaunches, hincreasing, hpassed, hnoWrap, hnow⟩ := h
  have hhere := (hnow.resolve_left fun h => by simp [hpc] at h).2
  have htotal := hhere.count
  have hlt : (turns tr).length < opt.framesToSend := by omega
  have hturns : turns (tr ++ [(s, .turn now ok)]) = turns tr ++ [s] := turns_append _ _
  have hlen : (turns tr ++ [s]).length = (turns tr).length + 1 := List.length_append
  have hfits := launchTime_lt opt hsec (hlt.le.trans (Nat.le_add_right _ _))
  have hframe : (s.msg .etf opt now).txTimestamp =
      some (launchTime opt sec (turns tr).length) := congrArg some (hhere.launch (by omega))
  have hpass : opt.framesToSend - s.count = (turns tr).length := by omega
  have hsent : sent opt (tr ++ [(s, .turn now ok)]) = sent opt tr ++
      if ok then [((turns tr).length, some (launchTime opt sec (turns tr).length))] else [] := by
    rw [sent_append, ← hframe, ← hpass]
    cases ok <;> rfl
  refine ⟨fun k t hk => ?_, ?_, ?_, ?_, ?_, .inr ⟨by simp [AfpktSender.next, hpc], ?_⟩⟩
  · rw [hturns] at hk
    rcases Lts.getElem?_concat hk with hk | ⟨rfl, rfl⟩
    · exact hturned k t hk
    · exact ⟨hhere, hlt⟩
  · rw [hsent]
    exact List.forall_mem_append.mpr ⟨hlaunches, by cases ok <;> simp⟩
  · rw [hsent]
    cases ok with
    | false => simpa using hincreasing
    | true =>
      rw [if_pos rfl, List.map_append]
      exact increasing_concat hincreasing hpassed
  · rw [hsent, hturns, hlen]
    intro i hi
    rw [List.map_append, List.mem_append] at hi
    rcases hi with hi | hi
    · exact Nat.lt_succ_of_lt (hpassed i hi)
    · cases ok with
      | false => simp at hi
      | true =>
        obtain rfl : i = (turns tr).length := by simpa using hi
        exact Nat.lt_succ_self _
  · exact List.forall_mem_append.mpr
      ⟨hnoWrap, List.forall_mem_singleton.mpr (hhere.noWrap hsec hlt now ok)⟩
  · rw [hturns, hlen]
    exact hhere.next hsec hcount now

theorem follows {tr : List (AfpktSender × AfpktAct)} (h : (afpktLts .etf opt).Run tr s)
    (hsec : sec < 2 ^ 33) (hstart : ∀ x ∈ tr, StartsAt sec x.2) : Follows opt sec tr s := by
  apply h.induct_of (P := Follows opt sec) (C := fun _ a => StartsAt sec a)
    (fun _ => follows_init) ?_ hstart
  intro tr s a s' _ _ hfollows hat hs
  cases step_spec hs with
  | begin sec' hpc =>
    obtain rfl := hat sec' rfl
    obtain ⟨-, hnil⟩ := hfollows.now.resolve_right fun h => h.1 hpc
    refine hfollows.quiet rfl rfl (noWrap_begin hsec) ⟨by simp [begin], ?_⟩
    rw [hnil]
    exact ⟨start_etf hsec, rfl, rfl, rfl⟩
  | turn now sent hpc hcount _ => exact hfollows.turn hsec hpc hcount now sent
  | failed _ _ _ hplain => cases hplain
  | leave hpc =>
    have hhere := (hfollows.now.resolve_left fun h => by simp [hpc] at h).2
    exact hfollows.quiet rfl rfl trivial
      ⟨by simp, hhere.looping, hhere.ts, hhere.count, hhere.seq⟩

end AfpktSender

/-! ### AF_XDP -/

namespace Sender

variable {lib : XskLib} {opt : Options} {sec : Nat}

/-- The passes of the loop in a run, each with the state before it. -/
def turns {N : Nat} (tr : List (Sender N × SendAct)) : List (Sender N) :=
  tr.filterMap fun x => match x.2 with
    | .enter _ => some x.1
    | _        => none

/-- The frames queued in a run, each with the pass that queued it and the launch time in its
descriptor. -/
def queued (lib : XskLib) (opt : Options) (tr : List (Sender opt.framesPerRing × SendAct)) :
    List (Nat × Option Nat) :=
  tr.filterMap fun x => (step opt.toUserOpt lib x.1 x.2).bind fun s' =>
    if s'.xsk.txRing.prod = x.1.xsk.txRing.prod then none
    else some (x.1.i, (s'.xsk.txRing.entry x.1.xsk.txRing.prod).txtime)

/-- The clock shows `sec` seconds if the thread starts. -/
def StartsAt (sec : Nat) (a : SendAct) : Prop := ∀ sec', a = .prefill sec' → sec' = sec

/-- `sleep_timestamp`. -/
def sleepTimestamp {N : Nat} (opt : Options) (s : Sender N) : Nat :=
  (s.txTimestamp + (2 ^ 64 - opt.earlyOffsetNs)) % 2 ^ 64

/-- The point in time the thread sleeps until in a pass. -/
def ts {N : Nat} (opt : Options) (s : Sender N) : Timespec := .ofNs (sleepTimestamp opt s)

/-- No unsigned computation exceeds its type; those behind the call of `afxdp_send_pkt()` count
for the pass as a whole. -/
def NoWrap {N : Nat} (opt : Options) (s : Sender N) : SendAct → Prop
  | .prefill sec => sec * nsecPerSec + opt.offsetNs + 2 * nsecPerSec < 2 ^ 64
  | .enter _     => opt.framesToSend + numFlushPackets < 2 ^ 32 ∧
      opt.earlyOffsetNs ≤ s.txTimestamp ∧ s.txTimestamp + opt.intervalNs < 2 ^ 64 ∧
      s.seqNum + 1 < 2 ^ 64 ∧ s.i + 1 < 2 ^ 64
  | _            => True

/-- The number of passes that have begun. -/
def begun {N : Nat} (s : Sender N) : Nat :=
  match s.pc with
  | .setup | .loop | .finish | .done => s.i
  | _                                => s.i + 1

/-- The number of passes that are past the point where their frame is queued. -/
def submitted {N : Nat} (s : Sender N) : Nat :=
  match s.pc with
  | .sendto | .stats | .exited => s.i + 1
  | _                          => s.i

/-- What a step does to the schedule: the thread starts, begins a pass, queues its frame, ends
the pass, or the step has nothing to do with it. -/
inductive ScheduleCase (lib : XskLib) (opt : Options) (s : Sender opt.framesPerRing) :
    SendAct → Sender opt.framesPerRing → Prop where
  | start (sec : Nat) (hpc : s.pc = .setup) :
      ScheduleCase lib opt s (.prefill sec) (s.prefill opt.toUserOpt sec)
  | enter (now : Nat) (hpc : s.pc = .loop) (hi : s.i < total opt.toUserOpt) :
      ScheduleCase lib opt s (.enter now) (s.enter opt.toUserOpt now)
  | queue (hpc : s.pc = .reserve) (hu : s.xsk.txRing.used < opt.framesPerRing) :
      ScheduleCase lib opt s .reserve (s.queue opt.toUserOpt lib hu)
  | next (a : SendAct) (s' : Sender opt.framesPerRing) (hpc : s.pc ≠ .setup)
      (hbegun : s.begun = s.i + 1) (hturns : turns [(s, a)] = []) (hwrap : NoWrap opt s a)
      (hprod : s'.xsk.txRing.prod = s.xsk.txRing.prod) (hpc' : s'.pc = .loop)
      (htx : s'.txTimestamp = (s.txTimestamp + opt.intervalNs) % 2 ^ 64)
      (hseq : s'.seqNum = (s.seqNum + 1) % 2 ^ 64) (hi : s'.i = s.i + 1) :
      ScheduleCase lib opt s a s'
  | keep (a : SendAct) (s' : Sender opt.framesPerRing) (hpc : s'.pc = .setup ↔ s.pc = .setup)
      (hturns : turns [(s, a)] = []) (hwrap : NoWrap opt s a)
      (hprod : s'.xsk.txRing.prod = s.xsk.txRing.prod) (htx : s'.txTimestamp = s.txTimestamp)
      (hseq : s'.seqNum = s.seqNum) (hi : s'.i = s.i) (hbegun : s'.begun = s.begun)
      (hsubmitted : s'.submitted = s.submitted) : ScheduleCase lib opt s a s'

theorem schedule_spec {s s' : Sender opt.framesPerRing} {a : SendAct}
    (h : (senderLts lib opt.toUserOpt).step s a = some s') : ScheduleCase lib opt s a s' := by
  cases step_spec h with
  | prefill now hpc => exact .start now hpc
  | enter now hpc hi => exact .enter now hpc hi
  | leave hpc =>
    exact .keep _ _ (by simp [hpc]) rfl trivial rfl rfl rfl rfl (by simp [begun, hpc])
      (by simp [submitted, hpc])
  | writable hpc =>
    exact .keep _ _ (by simp [hpc]) rfl trivial rfl rfl rfl rfl (by simp [begun, hpc])
      (by simp [submitted, hpc])
  | timeout hpc =>
    exact .next _ _ (by simp [hpc]) (by simp [begun, hpc]) rfl trivial rfl rfl rfl rfl rfl
  | fill hpc =>
    exact .keep _ _ (by simp [Sender.fill, hpc]) rfl trivial rfl rfl rfl rfl
      (by simp [Sender.fill, begun, hpc]) (by simp [Sender.fill, submitted, hpc])
  | queue hpc hu => exact .queue hpc hu
  | full hpc hu =>
    exact .next _ _ (by simp [hpc]) (by simp [begun, hpc]) rfl trivial rfl rfl rfl rfl rfl
  | sent hpc =>
    exact .keep _ _ (by simp [hpc]) rfl trivial rfl rfl rfl rfl (by simp [begun, hpc])
      (by simp [submitted, hpc])
  | failed hpc =>
    exact .keep _ _ (by simp [hpc]) rfl trivial rfl rfl rfl rfl (by simp [begun, hpc])
      (by simp [submitted, hpc])
  | stats hpc =>
    exact .next _ _ (by simp [hpc]) (by simp [begun, hpc]) rfl trivial (by simp [Sender.next])
      rfl rfl rfl rfl
  | finish hpc =>
    exact .keep _ _ (by simp [hpc]) rfl trivial (by simp) rfl rfl rfl (by simp [begun, hpc])
      (by simp [submitted, hpc])
  | kernel k xsk hk hx =>
    exact .keep _ _ Iff.rfl rfl trivial (Xsk.prod_of_kernelStep hx).1 rfl rfl rfl rfl rfl

/-- A step that queues nothing. -/
lemma queued_of_prod {s s' : Sender opt.framesPerRing} {a : SendAct}
    (h : (senderLts lib opt.toUserOpt).step s a = some s')
    (hprod : s'.xsk.txRing.prod = s.xsk.txRing.prod) : queued lib opt [(s, a)] = [] := by
  have hstep : step opt.toUserOpt lib s a = some s' := h
  simp [queued, hstep, hprod]

/-- A descriptor is queued. -/
lemma queued_queue {s : Sender opt.framesPerRing} (hpc : s.pc = .reserve)
    (hu : s.xsk.txRing.used < opt.framesPerRing) :
    queued lib opt [(s, .reserve)] = [(s.i, (s.txDesc opt.toUserOpt lib).txtime)] := by
  have hstep : step opt.toUserOpt lib s .reserve = some (s.queue opt.toUserOpt lib hu) := by
    simp [step, hpc, lib.reserve_one_iff.mpr hu]
  have hentry : (s.queue opt.toUserOpt lib hu).xsk.txRing.entry s.xsk.txRing.prod =
      s.txDesc opt.toUserOpt lib := Ring.entry_push_self hu
  have hprod : (s.queue opt.toUserOpt lib hu).xsk.txRing.prod = s.xsk.txRing.prod + 1 := rfl
  simp [queued, hstep, hentry, hprod]

/-- The launch time and the number of pass `i`. -/
structure Timed (opt : Options) (sec : Nat) (s : Sender opt.framesPerRing) : Prop where
  tx : s.txTimestamp = launchTime opt sec s.i
  seq : s.seqNum = s.i

lemma Timed.onSchedule {s : Sender opt.framesPerRing} (h : Timed opt sec s) (hsec : sec < 2 ^ 33)
    (hi : s.i < total opt.toUserOpt) :
    OnSchedule opt sec s.i s.txTimestamp (s.ts opt) := by
  have hlt := launchTime_lt opt hsec hi.le
  have hle : opt.earlyOffsetNs ≤ launchTime opt sec s.i := early_le_launchTime
  have hsleep : sleepTimestamp opt s = launchTime opt sec s.i - opt.earlyOffsetNs := by
    rw [sleepTimestamp, h.tx]
    omega
  rw [ts, hsleep, h.tx]
  exact onSchedule_ofNs

lemma timed_prefill {s : Sender opt.framesPerRing} (hsec : sec < 2 ^ 33) (hi : s.i = 0)
    (hseq : s.seqNum = 0) : Timed opt sec (s.prefill opt.toUserOpt sec) := by
  have hoffset := opt.offsetNs_le
  constructor
  · show (sec * 10 ^ 9 + opt.offsetNs + 2 * 10 ^ 9) % 2 ^ 64 = launchTime opt sec s.i
    rw [hi, launchTime_zero, nsecPerSec]
    omega
  · exact hseq.trans hi.symm

lemma noWrap_prefill {s : Sender opt.framesPerRing} (hsec : sec < 2 ^ 33) :
    NoWrap opt s (.prefill sec) := by
  have hoffset := opt.offsetNs_le
  simp only [NoWrap, nsecPerSec]
  omega

lemma Timed.noWrap {s : Sender opt.framesPerRing} (h : Timed opt sec s) (hsec : sec < 2 ^ 33)
    (hi : s.i < total opt.toUserOpt) (now : Nat) : NoWrap opt s (.enter now) := by
  have hlt := launchTime_lt opt hsec (Nat.succ_le_of_lt hi)
  rw [launchTime_succ] at hlt
  have hframes := opt.framesToSend_le
  have hle : opt.earlyOffsetNs ≤ launchTime opt sec s.i := early_le_launchTime
  simp only [total, numFlushPackets] at hi
  simp only [NoWrap, h.tx, h.seq, numFlushPackets]
  omega

/-- The end of a pass leads to the next launch time. -/
lemma Timed.next {s s' : Sender opt.framesPerRing} (h : Timed opt sec s) (hsec : sec < 2 ^ 33)
    (hi : s.i < total opt.toUserOpt)
    (htx : s'.txTimestamp = (s.txTimestamp + opt.intervalNs) % 2 ^ 64)
    (hseq : s'.seqNum = (s.seqNum + 1) % 2 ^ 64) (hi' : s'.i = s.i + 1) :
    Timed opt sec s' := by
  obtain ⟨-, -, htx', hseq', -⟩ := h.noWrap hsec hi 0
  constructor
  · rw [htx, Nat.mod_eq_of_lt htx', hi', launchTime_succ, h.tx]
  · rw [hseq, Nat.mod_eq_of_lt hseq', hi', h.seq]

/-- What a descriptor says about the launch time of pass `k`. -/
def txtime (lib : XskLib) (opt : Options) (sec k : Nat) : Option Nat :=
  if lib.withXdptbs then some (if opt.enableTxtime then launchTime opt sec k else 0) else none

/-- In a run, each pass has its launch time, and the thread is where the number of passes
says. -/
structure Follows (lib : XskLib) (opt : Options) (sec : Nat)
    (tr : List (Sender opt.framesPerRing × SendAct)) (s : Sender opt.framesPerRing) : Prop where
  turned : ∀ k t, (turns tr)[k]? = some t →
    Timed opt sec t ∧ t.i = k ∧ k < total opt.toUserOpt
  launches : ∀ f ∈ queued lib opt tr, f.2 = txtime lib opt sec f.1
  increasing : ((queued lib opt tr).map Prod.fst).Pairwise (· < ·)
  passed : ∀ i ∈ (queued lib opt tr).map Prod.fst, i < s.submitted
  noWrap : ∀ x ∈ tr, NoWrap opt x.1 x.2
  now : (s.pc = .setup ∧ turns tr = [] ∧ s.i = 0 ∧ s.seqNum = 0) ∨
    (s.pc ≠ .setup ∧ Timed opt sec s)
  passes : (turns tr).length = s.begun ∧ s.begun ≤ total opt.toUserOpt

lemma turns_append {N : Nat} (tr : List (Sender N × SendAct)) (x : Sender N × SendAct) :
    turns (tr ++ [x]) = turns tr ++ turns [x] := List.filterMap_append

lemma queued_append (tr : List (Sender opt.framesPerRing × SendAct))
    (x : Sender opt.framesPerRing × SendAct) :
    queued lib opt (tr ++ [x]) = queued lib opt tr ++ queued lib opt [x] :=
  List.filterMap_append

lemma follows_init {s : Sender opt.framesPerRing} (h : (senderLts lib opt.toUserOpt).init s) :
    Follows lib opt sec [] s := by
  obtain ⟨_, _, _, -, -, rfl⟩ := h
  exact ⟨by simp [turns], by simp [queued], .nil, by simp [queued], by simp,
    .inl ⟨rfl, rfl, rfl, rfl⟩, rfl, Nat.zero_le _⟩

section
variable {tr : List (Sender opt.framesPerRing × SendAct)} {s s' : Sender opt.framesPerRing}
  {a : SendAct}

/-- A step that queues nothing. -/
lemma Follows.unqueued (h : Follows lib opt sec tr s) (hq : queued lib opt [(s, a)] = [])
    (hsubmitted : s.submitted ≤ s'.submitted) (hwrap : NoWrap opt s a)
    (hturned : ∀ k t, (turns (tr ++ [(s, a)]))[k]? = some t →
      Timed opt sec t ∧ t.i = k ∧ k < total opt.toUserOpt)
    (hnow : s'.pc ≠ .setup ∧ Timed opt sec s' ∨
      s'.pc = .setup ∧ turns (tr ++ [(s, a)]) = [] ∧ s'.i = 0 ∧ s'.seqNum = 0)
    (hpasses : (turns (tr ++ [(s, a)])).length = s'.begun ∧ s'.begun ≤ total opt.toUserOpt) :
    Follows lib opt sec (tr ++ [(s, a)]) s' := by
  have hqueued : queued lib opt (tr ++ [(s, a)]) = queued lib opt tr := by
    rw [queued_append, hq, List.append_nil]
  exact ⟨hturned, hqueued ▸ h.launches, hqueued ▸ h.increasing,
    fun i hi => (h.passed i (hqueued ▸ hi)).trans_le hsubmitted,
    List.forall_mem_append.mpr ⟨h.noWrap, List.forall_mem_singleton.mpr hwrap⟩, hnow.symm,
    hpasses⟩

/-- The frame of a pass is queued. -/
lemma Follows.queue (h : Follows lib opt sec tr s) (hpc : s.pc = .reserve)
    (hu : s.xsk.txRing.used < opt.framesPerRing) :
    Follows lib opt sec (tr ++ [(s, .reserve)]) (s.queue opt.toUserOpt lib hu) := by
  obtain ⟨hturned, hlaunches, hincreasing, hpassed, hnoWrap, hnow, hbegun, hle⟩ := h
  have htimed := (hnow.resolve_left fun h => by simp [hpc] at h).2
  have hturns : turns (tr ++ [(s, .reserve)]) = turns tr := by
    rw [turns_append]
    exact List.append_nil _
  have hqueued : queued lib opt (tr ++ [(s, .reserve)]) =
      queued lib opt tr ++ [(s.i, txtime lib opt sec s.i)] := by
    rw [queued_append, queued_queue hpc hu, txDesc, txtime, htimed.tx]
  have hsubmitted : s.submitted = s.i := by simp only [submitted, hpc]
  rw [hsubmitted] at hpassed
  refine ⟨hturns ▸ hturned, ?_, ?_, ?_, ?_, .inr ⟨by simp [Sender.queue], htimed.tx, htimed.seq⟩,
    ?_⟩
  · rw [hqueued]
    exact List.forall_mem_append.mpr ⟨hlaunches, List.forall_mem_singleton.mpr rfl⟩
  · rw [hqueued, List.map_append]
    exact increasing_concat hincreasing hpassed
  · rw [hqueued, List.map_append]
    show ∀ i ∈ _, i < s.i + 1
    exact List.forall_mem_append.mpr ⟨fun i hi => Nat.lt_succ_of_lt (hpassed i hi),
      List.forall_mem_singleton.mpr (Nat.lt_succ_self _)⟩
  · exact List.forall_mem_append.mpr ⟨hnoWrap, List.forall_mem_singleton.mpr trivial⟩
  · rw [hturns, hbegun]
    simp only [begun, hpc] at hle
    exact ⟨by simp [Sender.queue, begun, hpc], hle⟩

lemma Follows.step (h : Follows lib opt sec tr s) (hsec : sec < 2 ^ 33) (hat : StartsAt sec a)
    (hs : (senderLts lib opt.toUserOpt).step s a = some s') :
    Follows lib opt sec (tr ++ [(s, a)]) s' := by
  have hold : turns [(s, a)] = [] → turns (tr ++ [(s, a)]) = turns tr := by
    intro hnil
    rw [turns_append, hnil, List.append_nil]
  obtain ⟨hbegun, hle⟩ := h.passes
  cases schedule_spec hs with
  | start sec' hpc =>
    obtain rfl := hat sec' rfl
    obtain ⟨-, hnil, hi, hseq⟩ := h.now.resolve_right fun h => h.1 hpc
    refine h.unqueued (queued_of_prod hs rfl) ?_ (noWrap_prefill hsec) ?_
      (.inl ⟨by simp [prefill], timed_prefill hsec hi hseq⟩) ?_
    · simp [submitted, prefill, hpc]
    · rw [hold rfl]
      exact h.turned
    · rw [hold rfl, hnil]
      exact ⟨hi.symm, hi.trans_le (Nat.zero_le _)⟩
  | enter now hpc hi =>
    have htimed := (h.now.resolve_left fun h => by simp [hpc] at h).2
    have hturns : turns (tr ++ [(s, .enter now)]) = turns tr ++ [s] := turns_append _ _
    have hlen : (turns tr).length = s.i := by
      rw [hbegun, begun, hpc]
    have hpc' : (s.enter opt.toUserOpt now).pc = .poll ∨
        (s.enter opt.toUserOpt now).pc = .fill := by
      cases hpoll : opt.enablePoll <;> simp [Sender.enter, hpoll]
    refine h.unqueued (queued_of_prod hs rfl) ?_ (htimed.noWrap hsec hi now) ?_
      (.inl ⟨?_, htimed.tx, htimed.seq⟩) ?_
    · simp only [submitted, hpc]
      rcases hpc' with hpc' | hpc' <;> simp only [hpc'] <;> exact le_rfl
    · intro k t hk
      rw [hturns] at hk
      rcases Lts.getElem?_concat hk with hk | ⟨rfl, rfl⟩
      · exact h.turned k t hk
      · rw [hlen]
        exact ⟨htimed, rfl, hi⟩
    · rcases hpc' with hpc' | hpc' <;> simp [hpc']
    · have hbegun' : (s.enter opt.toUserOpt now).begun = s.i + 1 := by
        rcases hpc' with hpc' | hpc' <;> simp only [begun, hpc'] <;> rfl
      rw [hturns, List.length_append, List.length_singleton, hlen, hbegun']
      exact ⟨rfl, hi⟩
  | queue hpc hu => exact h.queue hpc hu
  | next a s' hpc hinside hturns hquiet hprod hpc' htx hseq hi =>
    have htimed := (h.now.resolve_left fun h => hpc h.1).2
    have hlt : s.i < total opt.toUserOpt := by
      rw [hinside] at hle
      exact hle
    refine h.unqueued (queued_of_prod hs hprod) ?_ hquiet ?_
      (.inl ⟨by simp [hpc'], htimed.next hsec hlt htx hseq hi⟩) ?_
    · have hafter : s'.submitted = s.i + 1 := by
        simp only [submitted, hpc', hi]
      rw [hafter, submitted]
      split <;> omega
    · rw [hold hturns]
      exact h.turned
    · rw [hold hturns, hbegun, hinside, begun, hpc', hi]
      exact ⟨rfl, hlt⟩
  | keep a s' hpc hturns hquiet hprod htx hseq hi hbegun' hsubmitted =>
    refine h.unqueued (queued_of_prod hs hprod) hsubmitted.ge hquiet ?_ ?_ ?_
    · rw [hold hturns]
      exact h.turned
    · rcases h.now with ⟨hsetup, hnil, hi₀, hseq₀⟩ | ⟨hsetup, htimed⟩
      · exact .inr ⟨hpc.mpr hsetup, (hold hturns).trans hnil, hi.trans hi₀, hseq.trans hseq₀⟩
      · exact .inl ⟨fun h => hsetup (hpc.mp h), by rw [htx, hi, htimed.tx],
          by rw [hseq, hi, htimed.seq]⟩
    · rw [hold hturns, hbegun, hbegun']
      exact ⟨rfl, hle⟩

theorem follows (h : (senderLts lib opt.toUserOpt).Run tr s) (hsec : sec < 2 ^ 33)
    (hstart : ∀ x ∈ tr, StartsAt sec x.2) : Follows lib opt sec tr s :=
  h.induct_of (P := Follows lib opt sec) (C := fun _ a => StartsAt sec a) (fun _ => follows_init)
    (fun _ _ _ _ _ _ hfollows hat hs => hfollows.step hsec hat hs) hstart

end

end Sender

/-! ### Both threads -/

/-- Whatever the clock shows when it starts, a thread with launch times gives pass `k` the `k`-th
launch time, sleeps exactly until the early offset before it, for the first time until a point
in the future, and computes without overflow. The frames it sends carry the launch times of
their passes. -/
theorem launch_times (opt : Options) (sec : Nat) (hsec : sec < 2 ^ 33) :
    (∀ nsec < nsecPerSec, sec * nsecPerSec + nsec < launchTime opt sec 0 - opt.earlyOffsetNs) ∧
    (∀ tr s, (afpktLts .etf opt).Run tr s → (∀ x ∈ tr, AfpktSender.StartsAt sec x.2) →
      (∀ k t, (AfpktSender.turns tr)[k]? = some t →
        OnSchedule opt sec k (t.launch opt) t.ts ∧ t.seq = k + 1) ∧
      Carry opt sec (AfpktSender.sent opt tr) ∧
      ∀ x ∈ tr, AfpktSender.NoWrap opt x.1 x.2) ∧
    (∀ lib tr s, (senderLts lib opt.toUserOpt).Run tr s → (∀ x ∈ tr, Sender.StartsAt sec x.2) →
      (∀ k t, (Sender.turns tr)[k]? = some t → OnSchedule opt sec k t.txTimestamp (t.ts opt) ∧
        t.seqNum = k) ∧
      (lib.withXdptbs → opt.enableTxtime → Carry opt sec (Sender.queued lib opt tr)) ∧
      ∀ x ∈ tr, Sender.NoWrap opt x.1 x.2) := by
  have hearly := opt.earlyOffsetNs_le
  refine ⟨?_, ?_, ?_⟩
  · intro nsec hnsec
    rw [nsecPerSec] at hnsec ⊢
    rw [launchTime_zero, nsecPerSec]
    omega
  · intro tr s h hstart
    have hfollows := AfpktSender.follows h hsec hstart
    refine ⟨?_, carry_of_increasing hfollows.launches hfollows.increasing, hfollows.noWrap⟩
    intro k t hk
    obtain ⟨hturned, hlt⟩ := hfollows.turned k t hk
    have hfits := launchTime_lt opt hsec (hlt.le.trans (Nat.le_add_right _ _))
    exact ⟨hturned.onSchedule (by omega), hturned.seq⟩
  · intro lib tr s h hstart
    have hfollows := Sender.follows h hsec hstart
    refine ⟨?_, ?_, hfollows.noWrap⟩
    · intro k t hk
      obtain ⟨htimed, rfl, hlt⟩ := hfollows.turned k t hk
      exact ⟨htimed.onSchedule hsec hlt, htimed.seq⟩
    · intro htbs htxtime
      refine carry_of_increasing (fun f hf => ?_) hfollows.increasing
      rw [hfollows.launches f hf, Sender.txtime, if_pos htbs, if_pos htxtime]

section MissedTurn

/-- The default options, with launch times and polling. -/
private def usual : Options := { Options.default with enableTxtime := true, enablePoll := true }

private def afpktStart : AfpktSender := ⟨.setup, 0, ⟨0, 0⟩, 0, 0, []⟩

private def afxdpStart : Sender usual.framesPerRing :=
  ⟨.setup, .initial _ fun _ => 0, 0, 0, 0, List.replicate usual.packetSize 0⟩

private lemma afxdpStart_init (lib : XskLib) :
    (senderLts lib usual.toUserOpt).init afxdpStart :=
  ⟨_, _, _, initXdpSocket_eq lib usual.framesPerRing_pos _, List.length_replicate, rfl⟩

/-- Of two passes only the second sends its frame: the socket refuses the first, or is not
writable in time. -/
private lemma missed_turn :
    (∃ tr s, (afpktLts .etf usual).Run tr s ∧ (∀ x ∈ tr, AfpktSender.StartsAt 100 x.2) ∧
      AfpktSender.sent usual tr = [(1, some (launchTime usual 100 1))]) ∧
    (∃ tr s, (senderLts .reference usual.toUserOpt).Run tr s ∧
      (∀ x ∈ tr, Sender.StartsAt 100 x.2) ∧
      Sender.queued .reference usual tr = [(1, some (launchTime usual 100 1))]) := by
  constructor
  · have h₀ : (afpktLts .etf usual).Run [] afpktStart := .init rfl
    have h₁ := h₀.step (a := .begin 100) rfl
    have h₂ := h₁.step (a := .turn 101999900100 false) rfl
    have h₃ := h₂.step (a := .turn 102000000100 true) rfl
    exact ⟨_, _, h₃, by simp [AfpktSender.StartsAt], rfl⟩
  · have h₁ := (Lts.Run.init (afxdpStart_init .reference)).step (a := .prefill 100) rfl
    have h₂ := h₁.step (a := .enter 101999900100) rfl
    have h₃ := h₂.step (a := .poll false) rfl
    have h₄ := h₃.step (a := .enter 102000000100) rfl
    have h₅ := h₄.step (a := .poll true) rfl
    have h₆ := h₅.step (a := .fill) rfl
    have h₇ := h₆.step (a := .reserve) rfl
    exact ⟨_, _, h₇, by simp [Sender.StartsAt], rfl⟩

/-- Each thread has missed a pass. -/
theorem launch_times_missed :
    (∃ tr s, (afpktLts .etf usual).Run tr s ∧ (AfpktSender.sent usual tr).length = 1 ∧
      Carry usual 100 (AfpktSender.sent usual tr)) ∧
    ∃ tr s, (senderLts .reference usual.toUserOpt).Run tr s ∧
      (Sender.queued .reference usual tr).length = 1 ∧
      Carry usual 100 (Sender.queued .reference usual tr) := by
  obtain ⟨-, hafpkt, hafxdp⟩ := launch_times usual 100 (by decide)
  obtain ⟨⟨tr, s, h, hstart, hsent⟩, ⟨tr', s', h', hstart', hqueued⟩⟩ := missed_turn
  constructor
  · exact ⟨tr, s, h, congrArg List.length hsent, (hafpkt tr s h hstart).2.1⟩
  · exact ⟨tr', s', h', congrArg List.length hqueued, (hafxdp _ tr' s' h' hstart').2.1 rfl rfl⟩

/-- The first frame sent carries the launch time of the second pass. -/
theorem not_launch_times :
    (¬ ∀ (opt : Options) (sec : Nat) (tr : List (AfpktSender × AfpktAct)) (s : AfpktSender),
      sec < 2 ^ 33 → (afpktLts .etf opt).Run tr s →
      (∀ x ∈ tr, AfpktSender.StartsAt sec x.2) → ∀ k j t,
      (AfpktSender.sent opt tr)[k]? = some (j, t) → t = some (launchTime opt sec k)) ∧
    (¬ ∀ (opt : Options) (sec : Nat) (tr : List (Sender opt.framesPerRing × SendAct))
      (s : Sender opt.framesPerRing), sec < 2 ^ 33 → opt.enableTxtime →
      (senderLts .reference opt.toUserOpt).Run tr s → (∀ x ∈ tr, Sender.StartsAt sec x.2) →
      ∀ k j t, (Sender.queued .reference opt tr)[k]? = some (j, t) →
      t = some (launchTime opt sec k)) := by
  obtain ⟨⟨tr, s, h, hstart, hsent⟩, ⟨tr', s', h', hstart', hqueued⟩⟩ := missed_turn
  have hne : some (launchTime usual 100 1) ≠ some (launchTime usual 100 0) := by decide
  constructor
  · intro hall
    exact hne (hall _ _ tr s (by decide) h hstart 0 1 _ (hsent ▸ rfl))
  · intro hall
    exact hne (hall _ _ tr' s' (by decide) rfl h' hstart' 0 1 _ (hqueued ▸ rfl))

end MissedTurn

end Txrx

end TsnRefSw
