import TsnRefSw.Core.File
import TsnRefSw.Core.Lts

/-!
# The logs of the clocks

`ptp4l` and `phc2sys` write to logs that were opened once, when they were started. Before a test
a log is saved and emptied, by the runner and by the program; after it the program copies what
has come in, and the runner reports on it. The daemon goes on writing all the while, at the
position it has come to.
-/

namespace TsnRefSw

open Core

namespace Shell

def newline : UInt8 := 10

/-! ### One log and its copies -/

/-- What is done with a log. -/
inductive Procedure where
  /-- `ts_log_start()` of the runners. -/
  | runnerStart
  /-- `ts_log_start()` of the programs. -/
  | start
  /-- `ts_log_stop()` of the programs. -/
  | stop
deriving DecidableEq, Repr

/-- Where a procedure is. -/
inductive Job where
  /-- It has copied the first `read` bytes of the log. -/
  | copy (p : Procedure) (read : Nat)
  /-- It is about to empty the log. -/
  | clear (p : Procedure)
  /-- It is about to empty the captured log. -/
  | clearCaptured
deriving DecidableEq, Repr

/-- `/var/log/ptp4l.log` or `/var/log/phc2sys.log`, with its `total_` and `captured_` copies. -/
structure TimeLog where
  log : List UInt8
  /-- The position at which the daemon writes. -/
  pos : Nat
  total : List UInt8
  captured : List UInt8
  job : Option Job

inductive TimeLogAct where
  /-- The daemon writes. -/
  | write (bs : List UInt8)
  | begin (p : Procedure)
  /-- The procedure reads `k` bytes of the log, or what there is, and writes them to the copy. -/
  | read (k : Nat)
  /-- The procedure finds that there is nothing more to read. -/
  | eof
  /-- The log is emptied. -/
  | clear
  | clearCaptured

namespace TimeLog

/-- The copy is opened: a program empties it, a runner appends to it. -/
def openCopy (s : TimeLog) : Procedure → TimeLog
  | .runnerStart => s
  | .start       => { s with total := [] }
  | .stop        => { s with captured := [] }

def appendCopy (s : TimeLog) (bs : List UInt8) : Procedure → TimeLog
  | .runnerStart => { s with total := s.total ++ bs }
  | .start       => { s with total := s.total ++ bs }
  | .stop        => { s with captured := s.captured ++ bs }

/-- What a procedure does when all is copied. -/
def afterCopy : Procedure → Option Job
  | .runnerStart => some (.clear .runnerStart)
  | .start       => some (.clear .start)
  | .stop        => none

/-- What a procedure does when the log is emptied. -/
def afterClear : Procedure → Option Job
  | .runnerStart => some .clearCaptured
  | _            => none

def step (s : TimeLog) : TimeLogAct → Option TimeLog
  | .write bs =>
    some { s with log := File.writeAt 0 s.log s.pos bs, pos := s.pos + bs.length }
  | .begin p =>
    if s.job = none then some { s.openCopy p with job := some (.copy p 0) } else none
  | .read k =>
    match s.job with
    | some (.copy p read) =>
      let piece := (s.log.drop read).take k
      some { s.appendCopy piece p with job := some (.copy p (read + piece.length)) }
    | _ => none
  | .eof =>
    match s.job with
    | some (.copy p read) =>
      if s.log.length ≤ read then some { s with job := afterCopy p } else none
    | _ => none
  | .clear =>
    match s.job with
    | some (.clear p) => some { s with log := [], job := afterClear p }
    | _ => none
  | .clearCaptured =>
    if s.job = some .clearCaptured then some { s with captured := [], job := none } else none

/-- A line that `grep -vaP '[\0\200-\377]'` lets through. -/
def Clean (line : List UInt8) : Prop := ∀ b ∈ line, b ≠ 0 ∧ b < 128

instance (line : List UInt8) : Decidable (Clean line) :=
  inferInstanceAs (Decidable (∀ b ∈ line, _))

/-- The lines that `ts_log_stop_n_report()` reports on. -/
def reportLines (s : TimeLog) : List (List UInt8) :=
  (File.lines newline
    (if 2 < s.captured.count newline then s.captured else s.log)).filter Clean

end TimeLog

/-- A log from the start of its daemon on, where there were logs before. -/
def timeLogLts (total : List UInt8) : Lts TimeLog TimeLogAct where
  init s := s.log = [] ∧ s.pos = 0 ∧ s.total = total ∧ s.job = none
  step := TimeLog.step

/-! ### What the daemon has written -/

/-- All that the daemon has written, and how much that was when the log was last emptied; of what
was captured, and of what was appended to the total since a program last emptied that, from where
on it was in the log and how far the daemon had come. -/
structure History where
  written : List UInt8
  cleared : Nat
  caught : Option (Nat × Nat)
  saved : List (Nat × Nat)
  /-- What the total began with. -/
  before : List UInt8

namespace History

/-- What is to be seen in a copy of what the daemon wrote from `x.1` to `x.2`, the log having been
emptied at `x.1`. -/
def seen (h : History) (x : Nat × Nat) : List UInt8 :=
  File.hole 0 x.1 ((h.written.take x.2).drop x.1)

/-- What a step adds. -/
def next (h : History) (x : TimeLog × TimeLogAct) : History :=
  match x.2 with
  | .write bs => { h with written := h.written ++ bs }
  | .begin .stop => { h with caught := none }
  | .begin .start => { h with saved := [], before := [] }
  | .eof =>
    match x.1.job with
    | some (.copy .stop _) => { h with caught := some (h.cleared, h.written.length) }
    | some (.copy _ _)     => { h with saved := h.saved ++ [(h.cleared, h.written.length)] }
    | _                    => h
  | .clear => { h with cleared := h.written.length }
  | .clearCaptured => { h with caught := none }
  | _ => h

end History

namespace TimeLog

variable {total : List UInt8} {s s' : TimeLog} {tr : List (TimeLog × TimeLogAct)} {h : History}

def history (total : List UInt8) (tr : List (TimeLog × TimeLogAct)) : History :=
  tr.foldl History.next ⟨[], 0, none, [], total⟩

lemma history_concat (a : TimeLogAct) :
    history total (tr ++ [(s, a)]) = (history total tr).next (s, a) := by
  rw [history, List.foldl_concat, ← history]

/-- What a procedure has already appended to the total. -/
def inTotal (log : List UInt8) : Option Job → List UInt8
  | some (.copy .stop _)           => []
  | some (.copy .start read)       => log.take read
  | some (.copy .runnerStart read) => log.take read
  | _                              => []

lemma inTotal_congr {log log' : List UInt8} {job : Option Job}
    (htake : ∀ p read, job = some (.copy p read) → log'.take read = log.take read) :
    inTotal log' job = inTotal log job := by
  cases job with
  | none => rfl
  | some j =>
    cases j with
    | copy p read =>
      cases p with
      | stop => rfl
      | start => exact htake _ read rfl
      | runnerStart => exact htake _ read rfl
    | clear p => rfl
    | clearCaptured => rfl

/-- The log and its copies show what the daemon has written, each behind the hole that was in the
log when it was made. -/
structure Records (h : History) (s : TimeLog) : Prop where
  log : s.log = h.seen (h.cleared, h.written.length)
  pos : s.pos = h.written.length
  cleared_le : h.cleared ≤ h.written.length
  read_le : ∀ p read, s.job = some (.copy p read) → read ≤ s.log.length
  total : s.total = h.before ++ h.saved.flatMap h.seen ++ inTotal s.log s.job
  saved_le : ∀ x ∈ h.saved, x.1 ≤ x.2 ∧ x.2 ≤ h.written.length
  captured : ∀ x, h.caught = some x →
    s.captured = h.seen x ∧ x.1 ≤ x.2 ∧ x.2 ≤ h.written.length
  capturing : ∀ read, s.job = some (.copy .stop read) →
    s.captured = s.log.take read ∧ h.caught = none

/-- What was written before is seen as before. -/
lemma seen_append {x : Nat × Nat} (hx : x.2 ≤ h.written.length) (bs : List UInt8) :
    ({ h with written := h.written ++ bs } : History).seen x = h.seen x := by
  rw [History.seen, List.take_append_of_le_length hx, History.seen]

lemma seen_cleared (h : History) :
    h.seen (h.cleared, h.written.length) = File.hole 0 h.cleared (h.written.drop h.cleared) := by
  rw [History.seen, List.take_length]

lemma Records.write (hI : Records h s) (bs : List UInt8) :
    Records { h with written := h.written ++ bs }
      { s with log := File.writeAt 0 s.log s.pos bs, pos := s.pos + bs.length } := by
  have hle : h.written.length ≤ (h.written ++ bs).length := by simp
  have hlog : File.writeAt 0 s.log s.pos bs =
      File.hole 0 h.cleared (h.written.drop h.cleared ++ bs) := by
    have hpos : s.pos = h.cleared + (h.written.drop h.cleared).length := by
      rw [hI.pos, List.length_drop]
      have hcleared := hI.cleared_le
      omega
    rw [hpos, hI.log, seen_cleared, File.writeAt_hole]
  have htake : ∀ p read, s.job = some (.copy p read) →
      (File.writeAt 0 s.log s.pos bs).take read = s.log.take read := by
    intro p read hjob
    have hread := hI.read_le p read hjob
    rw [hI.log, seen_cleared] at hread
    rw [hlog, File.take_hole 0 hread, hI.log, seen_cleared]
  constructor
  · rw [hlog, seen_cleared, List.drop_append_of_le_length hI.cleared_le]
  · rw [hI.pos, List.length_append]
  · exact Nat.le_trans hI.cleared_le hle
  · intro p read hjob
    have hread := congrArg List.length (htake p read hjob)
    rw [List.length_take, List.length_take, Nat.min_eq_left (hI.read_le p read hjob)] at hread
    show read ≤ (File.writeAt 0 s.log s.pos bs).length
    omega
  · have hsaved : h.saved.flatMap ({ h with written := h.written ++ bs } : History).seen =
        h.saved.flatMap h.seen :=
      List.flatMap_congr fun x hx => seen_append (hI.saved_le x hx).2 bs
    show s.total = h.before ++ h.saved.flatMap _ ++ inTotal _ s.job
    rw [hsaved, hI.total, inTotal_congr htake]
  · exact fun x hx => ⟨(hI.saved_le x hx).1, Nat.le_trans (hI.saved_le x hx).2 hle⟩
  · intro x hx
    obtain ⟨hcaptured, hlow, hhigh⟩ := hI.captured x hx
    exact ⟨hcaptured.trans (seen_append hhigh bs).symm, hlow, Nat.le_trans hhigh hle⟩
  · intro read hjob
    obtain ⟨hcaptured, hcaught⟩ := hI.capturing read hjob
    exact ⟨hcaptured.trans (htake _ _ hjob).symm, hcaught⟩

/-- A procedure starts. -/
lemma Records.begin (hI : Records h s) (hjob : s.job = none) (p : Procedure) :
    Records (h.next (s, .begin p)) { s.openCopy p with job := some (.copy p 0) } := by
  have htotal := hI.total
  rw [hjob] at htotal
  cases p with
  | runnerStart =>
    refine ⟨hI.log, hI.pos, hI.cleared_le, ?_, htotal, hI.saved_le, hI.captured, ?_⟩
    · rintro p read he
      cases he
      exact Nat.zero_le _
    · rintro read he
      cases he
  | start =>
    refine ⟨hI.log, hI.pos, hI.cleared_le, ?_, rfl, fun x hx => (by cases hx), hI.captured, ?_⟩
    · rintro p read he
      cases he
      exact Nat.zero_le _
    · rintro read he
      cases he
  | stop =>
    refine ⟨hI.log, hI.pos, hI.cleared_le, ?_, htotal, hI.saved_le, fun x hx => (by cases hx), ?_⟩
    · rintro p read he
      cases he
      exact Nat.zero_le _
    · rintro read he
      cases he
      exact ⟨rfl, rfl⟩

/-- A piece of the log is copied. -/
lemma Records.read (hI : Records h s) {p : Procedure} {read : Nat}
    (hjob : s.job = some (.copy p read)) (k : Nat) :
    Records h { s.appendCopy ((s.log.drop read).take k) p with
      job := some (.copy p (read + ((s.log.drop read).take k).length)) } := by
  have hpiece := List.prefix_iff_eq_take.mp (List.take_prefix k (s.log.drop read))
  have htake : s.log.take (read + ((s.log.drop read).take k).length) =
      s.log.take read ++ (s.log.drop read).take k := by
    rw [List.take_add, ← hpiece]
  have hle : read + ((s.log.drop read).take k).length ≤ s.log.length := by
    have hread := hI.read_le p read hjob
    rw [List.length_take, List.length_drop]
    omega
  have htotal := hI.total
  rw [hjob] at htotal
  cases p with
  | runnerStart =>
    refine ⟨hI.log, hI.pos, hI.cleared_le, ?_, ?_, hI.saved_le, hI.captured, ?_⟩
    · rintro p read' he
      cases he
      exact hle
    · show s.total ++ _ = _ ++ s.log.take _
      rw [htake, htotal]
      exact List.append_assoc _ _ _
    · rintro read' he
      cases he
  | start =>
    refine ⟨hI.log, hI.pos, hI.cleared_le, ?_, ?_, hI.saved_le, hI.captured, ?_⟩
    · rintro p read' he
      cases he
      exact hle
    · show s.total ++ _ = _ ++ s.log.take _
      rw [htake, htotal]
      exact List.append_assoc _ _ _
    · rintro read' he
      cases he
  | stop =>
    obtain ⟨hcaptured, hcaught⟩ := hI.capturing read hjob
    refine ⟨hI.log, hI.pos, hI.cleared_le, ?_, htotal, hI.saved_le, fun x hx => ?_, ?_⟩
    · rintro p read' he
      cases he
      exact hle
    · rw [hcaught] at hx
      cases hx
    · rintro read' he
      cases he
      refine ⟨?_, hcaught⟩
      show s.captured ++ _ = s.log.take _
      rw [htake, hcaptured]

/-- All of the log is copied. -/
lemma Records.eof (hI : Records h s) {p : Procedure} {read : Nat}
    (hjob : s.job = some (.copy p read)) (hall : s.log.length ≤ read) :
    Records (h.next (s, .eof)) { s with job := afterCopy p } := by
  have htotal := hI.total
  rw [hjob] at htotal
  have hnext : h.next (s, .eof) = match p with
      | .stop => { h with caught := some (h.cleared, h.written.length) }
      | _     => { h with saved := h.saved ++ [(h.cleared, h.written.length)] } := by
    simp only [History.next, hjob]
    cases p with
    | _ => rfl
  have hsaved : ∀ x ∈ h.saved ++ [(h.cleared, h.written.length)],
      x.1 ≤ x.2 ∧ x.2 ≤ h.written.length := by
    intro x hx
    rcases List.mem_append.mp hx with hx | hx
    · exact hI.saved_le x hx
    · rw [List.mem_singleton.mp hx]
      exact ⟨hI.cleared_le, Nat.le_refl _⟩
  have hadded : s.total = h.before ++ (h.saved ++ [(h.cleared, h.written.length)]).flatMap h.seen ∨
      p = .stop := by
    cases p with
    | stop => exact .inr rfl
    | _ =>
      refine .inl ?_
      rw [htotal, List.flatMap_append, List.flatMap_singleton, ← hI.log, List.append_assoc]
      exact congrArg _ (congrArg _ (List.take_of_length_le hall))
  rw [hnext]
  cases p with
  | stop =>
    refine ⟨hI.log, hI.pos, hI.cleared_le, ?_, htotal, hI.saved_le, fun x hx => ?_, ?_⟩
    · rintro p read' he
      cases he
    · obtain rfl := Option.some.inj hx
      have hcaptured := (hI.capturing read hjob).1
      rw [List.take_of_length_le hall, hI.log] at hcaptured
      exact ⟨hcaptured, hI.cleared_le, Nat.le_refl _⟩
    · rintro read' he
      cases he
  | start =>
    refine ⟨hI.log, hI.pos, hI.cleared_le, ?_, ?_, hsaved, hI.captured, ?_⟩
    · rintro p read' he
      cases he
    · exact (hadded.resolve_right Procedure.noConfusion).trans (List.append_nil _).symm
    · rintro read' he
      cases he
  | runnerStart =>
    refine ⟨hI.log, hI.pos, hI.cleared_le, ?_, ?_, hsaved, hI.captured, ?_⟩
    · rintro p read' he
      cases he
    · exact (hadded.resolve_right Procedure.noConfusion).trans (List.append_nil _).symm
    · rintro read' he
      cases he

/-- The log is emptied: what the daemon writes next will be behind a hole. -/
lemma Records.clear (hI : Records h s) {p : Procedure} (hjob : s.job = some (.clear p)) :
    Records { h with cleared := h.written.length }
      { s with log := [], job := afterClear p } := by
  have htotal := hI.total
  rw [hjob] at htotal
  refine ⟨?_, hI.pos, Nat.le_refl _, ?_, ?_, hI.saved_le, hI.captured, ?_⟩
  · rw [seen_cleared, List.drop_length, File.hole_nil]
  · rintro p' read he
    cases p with
    | _ => cases he
  · cases p with
    | _ => exact htotal
  · rintro read he
    cases p with
    | _ => cases he

theorem records (hrun : (timeLogLts total).Run tr s) : Records (history total tr) s := by
  refine hrun.induct (P := fun tr s => Records (history total tr) s) ?_ ?_
  · rintro s ⟨hlog, hpos, htotal, hjob⟩
    refine ⟨hlog, hpos, Nat.le_refl _, ?_, ?_, fun x hx => (by cases hx),
      fun x hx => (by cases hx), ?_⟩
    · rintro p read he
      rw [hjob] at he
      cases he
    · rw [hjob]
      exact htotal.trans ((List.append_nil _).trans (List.append_nil _)).symm
    · rintro read he
      rw [hjob] at he
      cases he
  · intro tr s a s' _ hI hs
    rw [history_concat]
    replace hs : TimeLog.step s a = some s' := hs
    cases a with
    | write bs =>
      obtain rfl := Option.some.inj hs
      exact hI.write bs
    | begin p =>
      obtain ⟨hjob, rfl⟩ := of_guard hs
      exact hI.begin hjob p
    | read k =>
      simp only [step] at hs
      split at hs
      · next p read hjob =>
        obtain rfl := Option.some.inj hs
        exact hI.read hjob k
      · cases hs
    | eof =>
      simp only [step] at hs
      split at hs
      · next p read hjob =>
        obtain ⟨hall, rfl⟩ := of_guard hs
        exact hI.eof hjob hall
      · cases hs
    | clear =>
      simp only [step] at hs
      split at hs
      · next p hjob =>
        obtain rfl := Option.some.inj hs
        exact hI.clear hjob
      · cases hs
    | clearCaptured =>
      obtain ⟨hjob, rfl⟩ := of_guard hs
      have htotal := hI.total
      rw [hjob] at htotal
      refine ⟨hI.log, hI.pos, hI.cleared_le, ?_, htotal, hI.saved_le, fun x hx => (by cases hx), ?_⟩
      · rintro p read he
        cases he
      · rintro read he
        cases he

/-! ### What is reported and what is saved -/

end TimeLog

namespace History

variable {h : History} {x : Nat × Nat}

/-- What the daemon wrote from `x.1` to `x.2`. -/
def part (h : History) (x : Nat × Nat) : List UInt8 := (h.written.take x.2).drop x.1

/-- The lines of it, without the first if the log was emptied before. -/
def reported (h : History) (x : Nat × Nat) : List (List UInt8) :=
  (File.lines newline (h.part x)).drop (if x.1 = 0 then 0 else 1)

/-- The daemon writes text. -/
def Plain (h : History) : Prop := ∀ b ∈ h.written, b ≠ 0 ∧ b < 128

lemma Plain.clean (hplain : h.Plain) {line : List UInt8}
    (hline : line ∈ File.lines newline (h.part x)) : TimeLog.Clean line := by
  intro b hb
  exact hplain b (List.mem_of_mem_take (List.mem_of_mem_drop (File.mem_of_mem_lines _ hline hb)))

/-- The hole spoils the first line. -/
lemma filter_lines_seen (hplain : h.Plain) (x : Nat × Nat) :
    (File.lines newline (h.seen x)).filter TimeLog.Clean = h.reported x := by
  have hclean : ∀ line ∈ File.lines newline (h.part x), TimeLog.Clean line :=
    fun line hline => hplain.clean hline
  rw [reported]
  cases hlines : File.lines newline (h.part x) with
  | nil =>
    have hnil : h.part x = [] := (File.lines_eq_nil_iff _).mp hlines
    rw [seen, ← part, hnil, File.hole_nil, List.drop_nil]
    rfl
  | cons y ys =>
    rw [hlines] at hclean
    have hrest : ys.filter TimeLog.Clean = ys := List.filter_eq_self.mpr fun line hline =>
      decide_eq_true (hclean line (List.mem_cons_of_mem y hline))
    rw [seen, ← part, File.lines_hole _ (by decide) x.1 hlines]
    by_cases hzero : x.1 = 0
    · rw [if_pos hzero, hzero, List.replicate_zero, List.nil_append, List.drop_zero]
      exact List.filter_eq_self.mpr fun line hline => decide_eq_true (hclean line hline)
    · have hspoilt : ¬ TimeLog.Clean (List.replicate x.1 0 ++ y) := by
        intro hall
        have hmem : (0 : UInt8) ∈ List.replicate x.1 0 ++ y := by simp [hzero]
        exact (hall 0 hmem).1 rfl
      rw [if_neg hzero, List.filter_cons_of_neg (by simpa using hspoilt), hrest, List.drop_one,
        List.tail_cons]

/-- There is no end of a line in a hole. -/
lemma count_seen (h : History) (x : Nat × Nat) :
    (h.seen x).count newline = (h.part x).count newline := by
  rw [seen, ← part, File.hole]
  split_ifs with hnil
  · rw [hnil]
  · have hzero : (List.replicate x.1 (0 : UInt8)).count newline = 0 :=
      List.count_eq_zero.mpr fun hmem => absurd (List.eq_of_mem_replicate hmem) (by decide)
    rw [List.count_append, hzero, Nat.zero_add]

end History

namespace TimeLog

variable {total : List UInt8} {s s' : TimeLog} {tr : List (TimeLog × TimeLogAct)} {h : History}

/-- Nothing is saved twice. -/
structure Apart (h : History) (s : TimeLog) : Prop where
  pairwise : h.saved.Pairwise fun x y => x.2 ≤ y.1
  cleared : (∀ p, s.job ≠ some (.clear p)) → ∀ x ∈ h.saved, x.2 ≤ h.cleared

lemma apart (hrun : (timeLogLts total).Run tr s) : Apart (history total tr) s := by
  refine hrun.induct (P := fun tr s => Apart (history total tr) s) ?_ ?_
  · exact fun s _ => ⟨.nil, fun _ x hx => (by cases hx)⟩
  · intro tr s a s' hrun hI hs
    have hrecords := records hrun
    rw [history_concat]
    replace hs : TimeLog.step s a = some s' := hs
    cases a with
    | write bs =>
      obtain rfl := Option.some.inj hs
      exact ⟨hI.pairwise, hI.cleared⟩
    | begin p =>
      obtain ⟨hjob, rfl⟩ := of_guard hs
      have hcleared := hI.cleared fun p => by simp [hjob]
      cases p with
      | runnerStart => exact ⟨hI.pairwise, fun _ => hcleared⟩
      | start => exact ⟨.nil, fun _ x hx => (by cases hx)⟩
      | stop => exact ⟨hI.pairwise, fun _ => hcleared⟩
    | read k =>
      simp only [step] at hs
      split at hs
      · next p read hjob =>
        obtain rfl := Option.some.inj hs
        exact ⟨hI.pairwise, fun _ => hI.cleared fun p => by simp [hjob]⟩
      · cases hs
    | eof =>
      simp only [step] at hs
      split at hs
      · next p read hjob =>
        obtain ⟨-, rfl⟩ := of_guard hs
        have hcleared := hI.cleared fun p => by simp [hjob]
        have hadded : ((history total tr).saved ++ [((history total tr).cleared,
            (history total tr).written.length)]).Pairwise fun x y => x.2 ≤ y.1 := by
          rw [List.pairwise_append]
          refine ⟨hI.pairwise, List.pairwise_singleton _ _, fun x hx y hy => ?_⟩
          rw [List.mem_singleton.mp hy]
          exact hcleared x hx
        simp only [History.next, hjob]
        cases p with
        | stop => exact ⟨hI.pairwise, fun _ => hcleared⟩
        | start => exact ⟨hadded, fun hnone => absurd rfl (hnone .start)⟩
        | runnerStart => exact ⟨hadded, fun hnone => absurd rfl (hnone .runnerStart)⟩
      · cases hs
    | clear =>
      simp only [step] at hs
      split at hs
      · obtain rfl := Option.some.inj hs
        exact ⟨hI.pairwise, fun _ x hx => (hrecords.saved_le x hx).2⟩
      · cases hs
    | clearCaptured =>
      obtain ⟨hjob, rfl⟩ := of_guard hs
      exact ⟨hI.pairwise, fun _ => hI.cleared fun p => by simp [hjob]⟩

/-- When a log has been captured, the lines of the daemon from the last time it was emptied to the
capture are reported on, or to the present if there are two or less; but if the daemon had
written before, its first line is missing. The total is made up of parts of what the daemon wrote,
none of them twice. -/
theorem reports_records (hrun : (timeLogLts total).Run tr s) (hplain : (history total tr).Plain) :
    (∀ x, (history total tr).caught = some x → s.reportLines =
      if 2 < ((history total tr).part x).count newline then (history total tr).reported x
      else (history total tr).reported
        ((history total tr).cleared, (history total tr).written.length)) ∧
      s.total = (history total tr).before ++
        (history total tr).saved.flatMap (history total tr).seen ++ inTotal s.log s.job ∧
      (history total tr).saved.Pairwise fun x y => x.2 ≤ y.1 := by
  have hrecords := records hrun
  refine ⟨fun x hx => ?_, hrecords.total, (apart hrun).pairwise⟩
  rw [reportLines, (hrecords.captured x hx).1, History.count_seen, hrecords.log]
  split_ifs
  · exact History.filter_lines_seen hplain x
  · exact History.filter_lines_seen hplain _

/-- The daemon writes the line `a`, the log is saved and emptied, the daemon writes `b`, `c`, `d`
and `e`, and the log is captured. -/
private def oneTest : List TimeLogAct :=
  [.write [97, 10], .begin .runnerStart, .read 4096, .eof, .clear, .clearCaptured,
    .write [98, 10, 99, 10, 100, 10, 101, 10], .begin .stop, .read 1, .read 1, .read 4096, .eof]

/-- The line `b` is not reported on. -/
theorem reports_records_oneTest : ∃ tr s, (timeLogLts []).Run tr s ∧
    s.reportLines = [[99], [100], [101]] ∧ s.total = [97, 10] := by
  have hrun : ((timeLogLts []).replay ⟨[], 0, [], [], none⟩ oneTest).map (fun r =>
      (decide (r.2.job = none ∧ (history [] r.1).before = [] ∧ (history [] r.1).saved = [(0, 2)]),
        (history [] r.1).caught, (history [] r.1).written)) =
          some (true, some (2, 10), [97, 10, 98, 10, 99, 10, 100, 10, 101, 10]) := by
    decide +kernel
  obtain ⟨⟨tr, s⟩, hr, hsees⟩ := Option.map_eq_some_iff.mp hrun
  simp only [Prod.mk.injEq, decide_eq_true_eq] at hsees
  obtain ⟨⟨hjob, hbefore, hsaved⟩, hcaught, hwritten⟩ := hsees
  have hplain : (history [] tr).Plain := by
    rw [History.Plain, hwritten]
    decide +kernel
  have hrun := Lts.Run.of_replay (A := timeLogLts []) ⟨rfl, rfl, rfl, rfl⟩ hr
  obtain ⟨hreport, htotal, -⟩ := reports_records hrun hplain
  refine ⟨tr, s, hrun, ?_, ?_⟩
  · have hmore : 2 < ((history [] tr).part (2, 10)).count newline := by
      rw [History.part, hwritten]
      decide +kernel
    rw [hreport _ hcaught, if_pos hmore, History.reported, History.part, hwritten]
    decide +kernel
  · rw [htotal, hbefore, hsaved, hjob]
    show [] ++ List.flatMap _ _ ++ [] = _
    rw [List.flatMap_singleton, History.seen, hwritten]
    decide +kernel

end TimeLog

end Shell

end TsnRefSw
