import TsnRefSw.Core.Command
import TsnRefSw.GenSetup.Script

/-!
# The commands of the shapers

`set_etf()` prints a command for each entry of a list, and `set_cbs()` a single one. Both copy about
a dozen parameters from the configuration, one by one.
-/

namespace TsnRefSw

open Core

namespace GenSetup

/-- The words before the options. -/
def shaperFront : List Text := ["tc", "qdisc", "replace"]

/-! ### What an etf command says -/

/-- The keywords of an etf command. -/
def etfKeys : List Text :=
  ["dev", "parent", "etf", "clockid", "delta", "offload", "deadline_mode", "skip_sock_check"]

/-- The settings of an etf entry. -/
structure EtfSettings where
  iface : Text
  queue : Text
  delta : Text
  offload : Bool
  deadlineMode : Bool
  skipSockCheck : Bool
deriving DecidableEq, Repr

namespace EtfSettings

/-- The queue below the handle that was looked up. -/
def parent (s : EtfSettings) : Text := "$HANDLE_ID:" ++ s.queue

/-- The flags that are set. -/
def flags (offload deadlineMode skipSockCheck : Bool) : List Clause :=
  (if offload then [⟨"offload", []⟩] else []) ++
  (if deadlineMode then [⟨"deadline_mode", []⟩] else []) ++
  (if skipSockCheck then [⟨"skip_sock_check", []⟩] else [])

/-- The settings as a command should have them. -/
def clauses (s : EtfSettings) : List Clause :=
  [⟨"dev", words s.iface⟩, ⟨"parent", [s.parent]⟩, ⟨"etf", []⟩, ⟨"clockid", ["CLOCK_TAI"]⟩,
    ⟨"delta", [s.delta]⟩] ++ flags s.offload s.deadlineMode s.skipSockCheck

/-- The settings can be printed into a command and read back. -/
structure Legible (s : EtfSettings) : Prop where
  iface : Core.Legible etfKeys s.iface
  parent : LegibleWord etfKeys s.parent
  delta : LegibleWord etfKeys s.delta

/-- The command that is printed for the settings. -/
def cmd (s : EtfSettings) : Text :=
  etfCmd s.iface "CLOCK_TAI" s.delta s.queue s.offload s.deadlineMode

lemma words_flags (delta : Text) (offload deadlineMode : Bool) :
    words (delta ++ ((if offload then " offload" else "").toList ++
      ((if deadlineMode then " deadline_mode" else "").toList ++
        (if deadlineMode then " skip_sock_check" else "").toList))) =
      words delta ++ (flags offload deadlineMode deadlineMode).flatMap Clause.words := by
  cases offload with
  | false =>
    cases deadlineMode with
    | false => simp [flags]
    | true =>
      have hstart : StartsBlank (" deadline_mode".toList ++ " skip_sock_check".toList) := rfl
      exact (words_append_startsBlank hstart delta).trans (congrArg _ (by decide +kernel))
  | true =>
    have hstart : StartsBlank " offload".toList := rfl
    refine (words_append_of_startsBlank hstart delta _).trans (congrArg _ ?_)
    cases deadlineMode with
    | false => decide +kernel
    | true => decide +kernel

lemma words_cmd (s : EtfSettings) :
    words s.cmd = shaperFront ++ "dev".toList :: (words s.iface ++ "parent".toList ::
      (words s.parent ++ "etf".toList :: "clockid".toList :: "CLOCK_TAI".toList :: "delta".toList ::
        (words s.delta ++
          (flags s.offload s.deadlineMode s.deadlineMode).flatMap Clause.words))) := by
  have hdev : EndsBlank "tc qdisc replace dev ".toList := rfl
  have hsplit : " parent $HANDLE_ID:".toList = " parent ".toList ++ "$HANDLE_ID:".toList := by
    decide +kernel
  have hparent : StartsBlank " parent ".toList := rfl
  have hparent' : EndsBlank " parent ".toList := rfl
  have hetf : StartsBlank " etf ".toList := rfl
  have hetf' : EndsBlank " etf ".toList := rfl
  have hclock : EndsBlank " clockid ".toList := rfl
  have hdelta : StartsBlank " delta ".toList := rfl
  have hdelta' : EndsBlank " delta ".toList := rfl
  unfold cmd etfCmd parent
  rw [hsplit]
  simp only [List.append_assoc]
  rw [words_append_of_endsBlank hdev, words_append_of_startsBlank hparent,
    words_append_of_endsBlank hparent', ← List.append_assoc "$HANDLE_ID:".toList,
    words_append_of_startsBlank hetf, words_append_of_endsBlank hetf',
    words_append_of_endsBlank hclock, words_append_of_startsBlank hdelta,
    words_append_of_endsBlank hdelta', words_flags]
  have wdev : words "tc qdisc replace dev ".toList = shaperFront ++ ["dev".toList] := by
    decide +kernel
  have wparent : words " parent ".toList = ["parent".toList] := by decide +kernel
  have wetf : words " etf ".toList = ["etf".toList] := by decide +kernel
  have wclock : words " clockid ".toList = ["clockid".toList] := by decide +kernel
  have wtai : words "CLOCK_TAI".toList = ["CLOCK_TAI".toList] := by decide +kernel
  have wdelta : words " delta ".toList = ["delta".toList] := by decide +kernel
  rw [wdev, wparent, wetf, wclock, wtai, wdelta]
  simp only [List.append_assoc, List.cons_append, List.nil_append]

lemma newline_notMem_cmd {s : EtfSettings} :
    '\n' ∉ s.cmd ↔ '\n' ∉ s.iface ∧ '\n' ∉ s.parent ∧ '\n' ∉ s.delta := by
  have hflags : '\n' ∉ (if s.offload then " offload" else "").toList ++
      ((if s.deadlineMode then " deadline_mode" else "").toList ++
        (if s.deadlineMode then " skip_sock_check" else "").toList) := by
    cases s.offload <;> cases s.deadlineMode <;> decide +kernel
  unfold cmd etfCmd parent
  simp only [List.append_assoc, List.mem_append] at hflags ⊢
  simp [hflags]

lemma forall_mem_clauses {s : EtfSettings} {P : Clause → Prop} :
    (∀ c ∈ s.clauses, P c) ↔
      (P ⟨"dev", words s.iface⟩ ∧ P ⟨"parent", [s.parent]⟩ ∧ P ⟨"etf", []⟩ ∧
        P ⟨"clockid", ["CLOCK_TAI"]⟩ ∧ P ⟨"delta", [s.delta]⟩) ∧
      ∀ c ∈ flags s.offload s.deadlineMode s.skipSockCheck, P c := by
  rw [clauses, List.forall_mem_append]
  simp only [List.forall_mem_cons, List.not_mem_nil, false_imp_iff, implies_true, and_true]

/-- The words of the settings as they should be. -/
lemma words_clauses (s : EtfSettings) :
    s.clauses.flatMap Clause.words = "dev".toList :: (words s.iface ++ "parent".toList ::
      ([s.parent] ++ "etf".toList :: "clockid".toList :: "CLOCK_TAI".toList :: "delta".toList ::
        ([s.delta] ++
          (flags s.offload s.deadlineMode s.skipSockCheck).flatMap Clause.words))) := by
  simp only [clauses, List.flatMap_cons, Clause.words, List.cons_append, List.nil_append]

lemma flags_key_args (offload deadlineMode skipSockCheck : Bool) :
    ∀ c ∈ flags offload deadlineMode skipSockCheck, c.key ∈ etfKeys ∧ Plain etfKeys c.args := by
  cases offload <;> cases deadlineMode <;> cases skipSockCheck <;> decide +kernel

lemma flags_words_eq_iff (offload deadlineMode skipSockCheck : Bool) :
    (flags offload deadlineMode deadlineMode).flatMap Clause.words =
      (flags offload deadlineMode skipSockCheck).flatMap Clause.words ↔
      skipSockCheck = deadlineMode := by
  cases offload <;> cases deadlineMode <;> cases skipSockCheck <;> decide +kernel

/-- The command says what the settings are if and only if they can be read at all, and the last
flag is set like the one before. -/
lemma readCommand_cmd_iff {s : EtfSettings} :
    readCommand etfKeys s.cmd = some (shaperFront, s.clauses) ↔
      s.Legible ∧ s.skipSockCheck = s.deadlineMode := by
  have hwords : IsWord s.parent → IsWord s.delta →
      (words s.cmd = shaperFront ++ s.clauses.flatMap Clause.words ↔
        s.skipSockCheck = s.deadlineMode) := by
    intro hparent hdelta
    rw [words_cmd, words_clauses, words_eq_singleton_iff.mpr hparent,
      words_eq_singleton_iff.mpr hdelta, ← flags_words_eq_iff s.offload]
    simp only [List.append_cancel_left_eq, List.cons_append, List.nil_append, List.cons.injEq,
      true_and]
  constructor
  · intro h
    have hargs := legibleWord_of_readCommand h
    obtain ⟨hline, hcmd, -, -⟩ := readCommand_eq_some_iff.mp h
    simp only [forall_mem_clauses, List.forall_mem_cons, List.not_mem_nil, false_imp_iff,
      implies_true, and_true] at hargs
    obtain ⟨⟨hdev, hparent, -, -, hdelta⟩, -⟩ := hargs
    refine ⟨⟨⟨(newline_notMem_cmd.mp hline).1, fun w hw => (hdev w hw).2.2⟩, hparent, hdelta⟩, ?_⟩
    exact (hwords hparent.1 hdelta.1).mp hcmd
  · rintro ⟨hs, hskip⟩
    refine readCommand_eq_some_iff.mpr ⟨?_, (hwords hs.parent.1 hs.delta.1).mpr hskip,
      by decide +kernel, ?_⟩
    · exact newline_notMem_cmd.mpr ⟨hs.iface.1, hs.parent.2.1, hs.delta.2.1⟩
    · rw [forall_mem_clauses]
      refine ⟨?_, flags_key_args _ _ _⟩
      simp only [Plain, List.forall_mem_cons, List.not_mem_nil, false_imp_iff, implies_true,
        and_true]
      exact ⟨⟨by decide +kernel, hs.iface.2⟩, ⟨by decide +kernel, hs.parent.2.2⟩,
        by decide +kernel, by decide +kernel, by decide +kernel, hs.delta.2.2⟩

end EtfSettings

/-! ### What a cbs command says -/

/-- The keywords of a cbs command. -/
def cbsKeys : List Text :=
  ["dev", "handle", "parent", "cbs", "idleslope", "sendslope", "hicredit", "locredit", "offload"]

/-- The settings of a cbs object. -/
structure CbsSettings where
  iface : Text
  handle : Text
  parent : Text
  queue : Text
  idleslope : Text
  sendslope : Text
  hicredit : Text
  locredit : Text
  offload : Text
deriving DecidableEq, Repr

/-- The two parts of a class, before and behind the first colon. -/
def readClass (t : Text) : Text × Text := (t.takeWhile (· ≠ ':'), (t.dropWhile (· ≠ ':')).drop 1)

lemma readClass_append_iff {a b : Text} : readClass (a ++ ':' :: b) = (a, b) ↔ ':' ∉ a := by
  constructor
  · intro h hmem
    have hfront : (a ++ ':' :: b).takeWhile (· ≠ ':') = a := congrArg Prod.fst h
    have hne := List.mem_takeWhile_imp (hfront ▸ hmem)
    simp at hne
  · intro h
    have hall : ∀ c ∈ a, (decide (c ≠ ':')) = true := by
      intro c hc
      rw [decide_eq_true_eq]
      rintro rfl
      exact h hc
    rw [readClass, List.takeWhile_append_of_pos hall, List.dropWhile_append_of_pos hall]
    simp

namespace CbsSettings

/-- The class of the queue. -/
def classid (s : CbsSettings) : Text := s.parent ++ ':' :: s.queue

/-- The settings as a command should have them. -/
def clauses (s : CbsSettings) : List Clause :=
  [⟨"dev", words s.iface⟩, ⟨"handle", [s.handle]⟩, ⟨"parent", [s.classid]⟩, ⟨"cbs", []⟩,
    ⟨"idleslope", [s.idleslope]⟩, ⟨"sendslope", [s.sendslope]⟩, ⟨"hicredit", [s.hicredit]⟩,
    ⟨"locredit", [s.locredit]⟩, ⟨"offload", [s.offload]⟩]

/-- The settings can be printed into a command and read back. -/
structure Legible (s : CbsSettings) : Prop where
  iface : Core.Legible cbsKeys s.iface
  handle : LegibleWord cbsKeys s.handle
  classid : LegibleWord cbsKeys s.classid
  idleslope : LegibleWord cbsKeys s.idleslope
  sendslope : LegibleWord cbsKeys s.sendslope
  hicredit : LegibleWord cbsKeys s.hicredit
  locredit : LegibleWord cbsKeys s.locredit
  offload : LegibleWord cbsKeys s.offload
  colon : ':' ∉ s.parent

/-- The command that is printed for the settings with `hicredit` in place of theirs. -/
def cmd (s : CbsSettings) (hicredit : Text) : Text :=
  cbsCmd s.iface s.handle s.parent s.queue s.idleslope s.sendslope hicredit s.locredit s.offload

lemma words_cmd (s : CbsSettings) (hicredit : Text) :
    words (s.cmd hicredit) = shaperFront ++ "dev".toList :: (words s.iface ++ "handle".toList ::
      (words s.handle ++ "parent".toList :: (words s.classid ++ "cbs".toList ::
        "idleslope".toList :: (words s.idleslope ++ "sendslope".toList :: (words s.sendslope ++
          "hicredit".toList :: (words hicredit ++ "locredit".toList :: (words s.locredit ++
            "offload".toList :: words s.offload))))))) := by
  have hdev : EndsBlank "tc qdisc replace dev ".toList := rfl
  have hhandle : EndsBlank "handle ".toList := rfl
  have hparent : StartsBlank " parent ".toList := rfl
  have hparent' : EndsBlank " parent ".toList := rfl
  have hidle : EndsBlank "cbs idleslope ".toList := rfl
  have hsend : StartsBlank " sendslope ".toList := rfl
  have hsend' : EndsBlank " sendslope ".toList := rfl
  have hhi : EndsBlank "hicredit ".toList := rfl
  have hlo : StartsBlank " locredit ".toList := rfl
  have hlo' : EndsBlank " locredit ".toList := rfl
  have hoffload : EndsBlank "offload ".toList := rfl
  have hspace : StartsBlank " ".toList := rfl
  have hclass : ∀ rest, s.parent ++ (":".toList ++ (s.queue ++ rest)) = s.classid ++ rest := by
    intro rest
    rw [classid, List.append_assoc]
    rfl
  unfold cmd cbsCmd
  simp only [List.append_assoc]
  rw [words_append_of_endsBlank hdev, words_append_space, words_append_of_endsBlank hhandle,
    words_append_of_startsBlank hparent, words_append_of_endsBlank hparent', hclass,
    words_append_space, words_append_of_endsBlank hidle, words_append_of_startsBlank hsend,
    words_append_of_endsBlank hsend', words_append_space, words_append_of_endsBlank hhi,
    words_append_of_startsBlank hlo, words_append_of_endsBlank hlo', words_append_space,
    words_append_of_endsBlank hoffload, words_append_startsBlank hspace]
  have wdev : words "tc qdisc replace dev ".toList = shaperFront ++ ["dev".toList] := by
    decide +kernel
  have whandle : words "handle ".toList = ["handle".toList] := by decide +kernel
  have wparent : words " parent ".toList = ["parent".toList] := by decide +kernel
  have widle : words "cbs idleslope ".toList = ["cbs".toList, "idleslope".toList] := by
    decide +kernel
  have wsend : words " sendslope ".toList = ["sendslope".toList] := by decide +kernel
  have whi : words "hicredit ".toList = ["hicredit".toList] := by decide +kernel
  have wlo : words " locredit ".toList = ["locredit".toList] := by decide +kernel
  have woffload : words "offload ".toList = ["offload".toList] := by decide +kernel
  have wspace : words " ".toList = [] := by decide +kernel
  rw [wdev, whandle, wparent, widle, wsend, whi, wlo, woffload, wspace]
  simp only [List.append_assoc, List.cons_append, List.nil_append, List.append_nil]

lemma newline_notMem_cmd {s : CbsSettings} {hicredit : Text} :
    '\n' ∉ s.cmd hicredit ↔ '\n' ∉ s.iface ∧ '\n' ∉ s.handle ∧ '\n' ∉ s.classid ∧
      '\n' ∉ s.idleslope ∧ '\n' ∉ s.sendslope ∧ '\n' ∉ hicredit ∧ '\n' ∉ s.locredit ∧
      '\n' ∉ s.offload := by
  unfold cmd cbsCmd classid
  simp [and_assoc]

lemma forall_mem_clauses {s : CbsSettings} {P : Clause → Prop} :
    (∀ c ∈ s.clauses, P c) ↔
      P ⟨"dev", words s.iface⟩ ∧ P ⟨"handle", [s.handle]⟩ ∧ P ⟨"parent", [s.classid]⟩ ∧
        P ⟨"cbs", []⟩ ∧ P ⟨"idleslope", [s.idleslope]⟩ ∧ P ⟨"sendslope", [s.sendslope]⟩ ∧
        P ⟨"hicredit", [s.hicredit]⟩ ∧ P ⟨"locredit", [s.locredit]⟩ ∧
        P ⟨"offload", [s.offload]⟩ := by
  simp only [clauses, List.forall_mem_cons, List.not_mem_nil, false_imp_iff, implies_true,
    and_true]

lemma words_cmd_eq_iff {s : CbsSettings} (hhandle : IsWord s.handle) (hclass : IsWord s.classid)
    (hidle : IsWord s.idleslope) (hsend : IsWord s.sendslope) (hlo : IsWord s.locredit)
    (hoffload : IsWord s.offload) (hicredit : Text) :
    words (s.cmd hicredit) = shaperFront ++ s.clauses.flatMap Clause.words ↔
      words hicredit = [s.hicredit] := by
  rw [words_cmd, words_eq_singleton_iff.mpr hhandle, words_eq_singleton_iff.mpr hclass,
    words_eq_singleton_iff.mpr hidle, words_eq_singleton_iff.mpr hsend,
    words_eq_singleton_iff.mpr hlo, words_eq_singleton_iff.mpr hoffload]
  simp only [clauses, List.flatMap_cons, List.flatMap_nil, Clause.words, List.cons_append,
    List.nil_append, List.append_cancel_left_eq, List.cons.injEq, true_and]
  constructor
  · intro h
    exact List.append_cancel_right h
  · intro h
    rw [h]
    rfl

/-- The settings are read back if and only if they can be read at all and the credit is printed. -/
lemma readCommand_cmd_iff {s : CbsSettings} {hicredit : Text} :
    readCommand cbsKeys (s.cmd hicredit) = some (shaperFront, s.clauses) ∧
        readClass s.classid = (s.parent, s.queue) ↔
      s.Legible ∧ '\n' ∉ hicredit ∧ words hicredit = [s.hicredit] := by
  have hclassid : readClass s.classid = (s.parent, s.queue) ↔ ':' ∉ s.parent :=
    readClass_append_iff
  rw [hclassid]
  constructor
  · rintro ⟨h, hcolon⟩
    have hargs := legibleWord_of_readCommand h
    obtain ⟨hline, hcmd, -, -⟩ := readCommand_eq_some_iff.mp h
    simp only [forall_mem_clauses, List.forall_mem_cons, List.not_mem_nil, false_imp_iff,
      implies_true, and_true, true_and] at hargs
    obtain ⟨hdev, hhandle, hclass, hidle, hsend, hhi, hlo, hoffload⟩ := hargs
    obtain ⟨niface, -, -, -, -, nhi, -, -⟩ := newline_notMem_cmd.mp hline
    refine ⟨⟨⟨niface, fun w hw => (hdev w hw).2.2⟩, hhandle, hclass, hidle, hsend, hhi, hlo,
      hoffload, hcolon⟩, nhi, ?_⟩
    exact (words_cmd_eq_iff hhandle.1 hclass.1 hidle.1 hsend.1 hlo.1 hoffload.1 _).mp hcmd
  · rintro ⟨hs, nhi, hwords⟩
    refine ⟨readCommand_eq_some_iff.mpr ⟨?_, ?_, by decide +kernel, ?_⟩, hs.colon⟩
    · exact newline_notMem_cmd.mpr ⟨hs.iface.1, hs.handle.2.1, hs.classid.2.1, hs.idleslope.2.1,
        hs.sendslope.2.1, nhi, hs.locredit.2.1, hs.offload.2.1⟩
    · exact (words_cmd_eq_iff hs.handle.1 hs.classid.1 hs.idleslope.1 hs.sendslope.1 hs.locredit.1
        hs.offload.1 _).mpr hwords
    · rw [forall_mem_clauses]
      simp only [Plain, List.forall_mem_cons, List.not_mem_nil, false_imp_iff, implies_true,
        and_true]
      exact ⟨⟨by decide +kernel, hs.iface.2⟩, ⟨by decide +kernel, hs.handle.2.2⟩,
        ⟨by decide +kernel, hs.classid.2.2⟩, by decide +kernel,
        ⟨by decide +kernel, hs.idleslope.2.2⟩, ⟨by decide +kernel, hs.sendslope.2.2⟩,
        ⟨by decide +kernel, hs.hicredit.2.2⟩, ⟨by decide +kernel, hs.locredit.2.2⟩,
        by decide +kernel, hs.offload.2.2⟩

end CbsSettings

/-! ### What a configuration asks for -/

section Configuration

variable {F : Type} [Runtime F] {iface : Value F}

/-- The settings of an etf entry; the queues of a command are counted from 1. -/
def ownEtf (iface : Value F) (config : Dict F) : Option EtfSettings := do
  let delta ← config.get "delta"
  let queue ← config.get "queue"
  let next ← queue.addOne.toOption
  return {
    iface := iface.str
    queue := next.str
    delta := delta.str
    offload := (config.get "offload").any Value.isTrue
    deadlineMode := (config.get "deadline_mode").any Value.isTrue
    skipSockCheck := (config.get "skipsock").any Value.isTrue }

/-- The settings of a cbs object, with the credit that is found under `key`. -/
def cbsBy (key : String) (iface : Value F) (config : Dict F) : Option CbsSettings := do
  let handle ← config.get "handle"
  let parent ← config.get "parent"
  let queue ← config.get "queue"
  let next ← queue.addOne.toOption
  let sendslope ← config.get "sendslope"
  let idleslope ← config.get "idleslope"
  let hicredit ← config.get key
  let locredit ← config.get "locredit"
  let offload ← config.get "offload"
  return {
    iface := iface.str
    handle := handle.str
    parent := parent.str
    queue := next.str
    idleslope := idleslope.str
    sendslope := sendslope.str
    hicredit := hicredit.str
    locredit := locredit.str
    offload := offload.str }

/-- The settings of a cbs object. -/
def ownCbs (iface : Value F) (config : Dict F) : Option CbsSettings := cbsBy "hicredit" iface config

/-- What a run for an etf entry emits. -/
def etfOps (iface : Value F) (s : EtfSettings) : List FileOp :=
  [.run (handleIdCmd iface), .run s.cmd]

lemma isTrue_getD (o : Option (Value F)) :
    (o.getD (.bool false)).isTrue = o.any Value.isTrue := by
  cases o <;> rfl

lemma setEtf_eq_ok_iff {config : Dict F} {ops : List FileOp} :
    (setEtf iface "CLOCK_TAI" config.value).outcome = (.ok (), ops) ↔
      ∃ s, ownEtf iface config = some s ∧ ops = etfOps iface s := by
  have hdeadline : (config.entries.foldl EtfVars.assign .initial).deadlineMode.isTrue =
      (config.get "deadline_mode").any Value.isTrue := by
    rw [← isTrue_getD, Dict.get, ← foldl_ite_eq_lookup _ config.nodup]
    exact congrArg _ (List.foldl_hom EtfVars.deadlineMode fun _ _ => rfl).symm
  have hoffload : (config.entries.foldl EtfVars.assign .initial).offload.isTrue =
      (config.get "offload").any Value.isTrue := by
    rw [← isTrue_getD, Dict.get, ← foldl_ite_eq_lookup _ config.nodup]
    exact congrArg _ (List.foldl_hom EtfVars.offload fun _ _ => rfl).symm
  simp only [setEtf, ownEtf, shRun, Emit.outcome_lift_bind_eq_ok_iff,
    Emit.outcome_tell_bind_eq_ok_iff, Emit.outcome_tell_eq_ok_iff, bind_eq_ok_iff,
    Dict.getItem_value_eq_ok_iff, Dict.items_value, Option.bind_eq_bind, Option.bind_eq_some_iff,
    toOption_eq_some_iff, Option.pure_def, Option.some.injEq]
  rw [← hdeadline, ← hoffload]
  constructor
  · rintro ⟨delta, hdelta, next, ⟨queue, hqueue, hnext⟩, _, ⟨entries, hentries, rfl⟩, hops⟩
    obtain rfl := Except.ok.inj hentries
    exact ⟨_, ⟨delta, hdelta, queue, hqueue, next, hnext, rfl⟩, hops⟩
  · rintro ⟨_, ⟨delta, hdelta, queue, hqueue, next, hnext, rfl⟩, hops⟩
    exact ⟨delta, hdelta, next, ⟨queue, hqueue, hnext⟩, _, ⟨config.entries, rfl, rfl⟩, hops⟩

/-- What a run for a cbs object emits. -/
def cbsOps (s : CbsSettings) : List FileOp := [.run (s.cmd s.hicredit), .run "sleep 5"]

lemma setCbs_eq_ok_iff {config : Dict F} {ops : List FileOp} :
    (setCbs iface config.value).outcome = (.ok (), ops) ↔
      ∃ s, cbsBy "locredit" iface config = some s ∧ ops = cbsOps s := by
  simp only [setCbs, cbsBy, shRun, Emit.outcome_lift_bind_eq_ok_iff,
    Emit.outcome_tell_bind_eq_ok_iff, Emit.outcome_tell_eq_ok_iff, bind_eq_ok_iff,
    Dict.getItem_value_eq_ok_iff, Option.bind_eq_bind, Option.bind_eq_some_iff,
    toOption_eq_some_iff, Option.pure_def, Option.some.injEq]
  constructor
  · rintro ⟨handle, hhandle, parent, hparent, next, ⟨queue, hqueue, hnext⟩, sendslope, hsend,
      idleslope, hidle, hicredit, hhi, locredit, hlo, offload, hoffload, rest, hrest, hops⟩
    rw [hrest] at hops
    exact ⟨_, ⟨handle, hhandle, parent, hparent, queue, hqueue, next, hnext, sendslope, hsend,
      idleslope, hidle, hicredit, hhi, locredit, hlo, offload, hoffload, rfl⟩, hops⟩
  · rintro ⟨_, ⟨handle, hhandle, parent, hparent, queue, hqueue, next, hnext, sendslope, hsend,
      idleslope, hidle, hicredit, hhi, locredit, hlo, offload, hoffload, rfl⟩, hops⟩
    exact ⟨handle, hhandle, parent, hparent, next, ⟨queue, hqueue, hnext⟩, sendslope, hsend,
      idleslope, hidle, hicredit, hhi, locredit, hlo, offload, hoffload, _, rfl, hops⟩

/-- The list of a configuration. -/
def etfList (entries : List (Dict F)) : Value F := .list (entries.map Dict.value)

lemma forEach_setEtf_eq_ok_iff {entries : List (Dict F)} {ops : List FileOp} :
    (forEach (setEtf iface "CLOCK_TAI") (etfList entries)).outcome = (.ok (), ops) ↔
      ∃ owns, entries.mapM (ownEtf iface) = some owns ∧ ops = owns.flatMap (etfOps iface) := by
  have hmap : (entries.map Dict.value).forM (setEtf iface "CLOCK_TAI") =
      entries.forM fun config => setEtf iface "CLOCK_TAI" config.value := by
    induction entries with
    | nil => rfl
    | cons config entries ih => exact bind_congr fun _ => ih
  have hloop : (forEach (setEtf iface "CLOCK_TAI") (etfList entries)).outcome =
      ((entries.map Dict.value).forM (setEtf iface "CLOCK_TAI")).outcome := rfl
  rw [hloop, hmap]
  exact Emit.outcome_forM_eq_ok_iff fun _ _ => setEtf_eq_ok_iff

/-! ### Reading the commands back -/

/-- The clauses of a command that replaces a queueing discipline. -/
def readShaper (keys : List Text) (cmd : Text) : Option (List Clause) := do
  let (front, cs) ← readCommand keys cmd
  if front = shaperFront then some cs else none

lemma readShaper_eq_some_iff {keys : List Text} {cmd : Text} {cs : List Clause} :
    readShaper keys cmd = some cs ↔ readCommand keys cmd = some (shaperFront, cs) := by
  simp only [readShaper, Option.bind_eq_bind, Option.bind_eq_some_iff]
  constructor
  · rintro ⟨⟨front, cs'⟩, hread, hfront⟩
    split_ifs at hfront with h
    obtain rfl : front = shaperFront := h
    rw [hread, ← Option.some.inj hfront]
  · intro hread
    exact ⟨_, hread, if_pos rfl⟩

/-- The etf commands, each behind the command that finds the handle. -/
def readEtfs (find : Text) : List Text → Option (List (List Clause))
  | []                   => some []
  | [_]                  => none
  | first :: cmd :: cmds =>
    if first = find then do
      let cs ← readShaper etfKeys cmd
      let css ← readEtfs find cmds
      return cs :: css
    else none

/-- All commands are read back if and only if each of them is. -/
lemma readEtfs_eq_some_iff {owns : List EtfSettings} :
    readEtfs (handleIdCmd iface) (commands (owns.flatMap (etfOps iface))) =
        some (owns.map EtfSettings.clauses) ↔
      ∀ s ∈ owns, readCommand etfKeys s.cmd = some (shaperFront, s.clauses) := by
  induction owns with
  | nil => simp [commands, readEtfs]
  | cons s owns ih =>
    have hcommands : commands ((s :: owns).flatMap (etfOps iface)) =
        handleIdCmd iface :: s.cmd :: commands (owns.flatMap (etfOps iface)) := rfl
    rw [hcommands, readEtfs, if_pos rfl, List.forall_mem_cons, ← ih, ← readShaper_eq_some_iff]
    simp only [Option.bind_eq_bind, Option.bind_eq_some_iff, Option.pure_def, Option.some.injEq,
      List.map_cons, List.cons.injEq]
    constructor
    · rintro ⟨_, hcs, _, hcss, rfl, rfl⟩
      exact ⟨hcs, hcss⟩
    · rintro ⟨hcs, hcss⟩
      exact ⟨_, hcs, _, hcss, rfl, rfl⟩

/-- The commands for a list say what its entries ask for. -/
def EtfsFaithful (iface : Value F) (entries : List (Dict F)) (ops : List FileOp) : Prop :=
  ∃ owns, entries.mapM (ownEtf iface) = some owns ∧
    readEtfs (handleIdCmd iface) (commands ops) = some (owns.map EtfSettings.clauses)

/-- The command for an object says what it asks for. -/
def CbsFaithful (iface : Value F) (config : Dict F) (ops : List FileOp) : Prop :=
  ∃ s cmd, ownCbs iface config = some s ∧ commands ops = [cmd, "sleep 5".toList] ∧
    readShaper cbsKeys cmd = some s.clauses ∧ readClass s.classid = (s.parent, s.queue)

lemma etfsFaithful_iff {entries : List (Dict F)} {ops : List FileOp}
    (hops : (forEach (setEtf iface "CLOCK_TAI") (etfList entries)).outcome = (.ok (), ops)) :
    EtfsFaithful iface entries ops ↔ ∃ owns, entries.mapM (ownEtf iface) = some owns ∧
      ∀ s ∈ owns, s.Legible ∧ s.skipSockCheck = s.deadlineMode := by
  obtain ⟨owns, howns, rfl⟩ := forEach_setEtf_eq_ok_iff.mp hops
  constructor
  · rintro ⟨_, hsome, hread⟩
    obtain rfl : owns = _ := Option.some.inj (howns.symm.trans hsome)
    refine ⟨owns, howns, fun s hs => ?_⟩
    exact EtfSettings.readCommand_cmd_iff.mp (readEtfs_eq_some_iff.mp hread s hs)
  · rintro ⟨_, hsome, hall⟩
    obtain rfl : owns = _ := Option.some.inj (howns.symm.trans hsome)
    refine ⟨owns, howns, readEtfs_eq_some_iff.mpr fun s hs => ?_⟩
    exact EtfSettings.readCommand_cmd_iff.mpr (hall s hs)

/-- What is printed for an object, compared with its own settings. -/
lemma cbsBy_eq_some {config : Dict F} {s own : CbsSettings}
    (hs : cbsBy "locredit" iface config = some s) (hown : ownCbs iface config = some own) :
    s = { own with hicredit := own.locredit } := by
  simp only [ownCbs, cbsBy, Option.bind_eq_bind, Option.bind_eq_some_iff, Option.pure_def,
    Option.some.injEq] at hs hown
  obtain ⟨_, hhandle, _, hparent, _, hqueue, _, hnext, _, hsend, _, hidle, _, hhi, _, hlo, _,
    hoffload, rfl⟩ := hs
  obtain ⟨_, hhandle', _, hparent', _, hqueue', _, hnext', _, hsend', _, hidle', _, -, _, hlo', _,
    hoffload', rfl⟩ := hown
  simp_all

lemma cbsFaithful_iff {config : Dict F} {ops : List FileOp}
    (hops : (setCbs iface config.value).outcome = (.ok (), ops)) :
    CbsFaithful iface config ops ↔
      ∃ s, ownCbs iface config = some s ∧ s.Legible ∧ s.hicredit = s.locredit := by
  obtain ⟨printed, hprinted, rfl⟩ := setCbs_eq_ok_iff.mp hops
  constructor
  · rintro ⟨s, cmd, hs, hcmd, hread, hclass⟩
    obtain rfl := cbsBy_eq_some hprinted hs
    have hprinted : cmd = s.cmd s.locredit := (List.head_eq_of_cons_eq hcmd).symm
    rw [hprinted] at hread
    obtain ⟨hlegible, -, hwords⟩ := CbsSettings.readCommand_cmd_iff.mp
      ⟨readShaper_eq_some_iff.mp hread, hclass⟩
    refine ⟨s, hs, hlegible, ?_⟩
    have hlo : words s.locredit = [s.locredit] := words_eq_singleton_iff.mpr hlegible.locredit.1
    exact List.singleton_injective (hwords.symm.trans hlo)
  · rintro ⟨s, hs, hlegible, hcredit⟩
    obtain rfl := cbsBy_eq_some hprinted hs
    have hlo : words s.locredit = [s.hicredit] := by
      rw [hcredit]
      exact words_eq_singleton_iff.mpr hlegible.locredit.1
    obtain ⟨hread, hclass⟩ := CbsSettings.readCommand_cmd_iff.mpr
      ⟨hlegible, hlegible.locredit.2.1, hlo⟩
    exact ⟨s, s.cmd s.locredit, hs, rfl, readShaper_eq_some_iff.mpr hread, hclass⟩

/-- The shapers are printed faithfully if and only if all values can be read back at all, each etf
entry has `skipsock` if and only if it has `deadline_mode`, and the two credits of the cbs object
are the same. -/
theorem shapers_faithful_iff {entries : List (Dict F)} {cbs : Dict F} {etfOps cbsOps : List FileOp}
    (hetf : (forEach (setEtf iface "CLOCK_TAI") (etfList entries)).outcome = (.ok (), etfOps))
    (hcbs : (setCbs iface cbs.value).outcome = (.ok (), cbsOps)) :
    EtfsFaithful iface entries etfOps ∧ CbsFaithful iface cbs cbsOps ↔
      (∃ owns, entries.mapM (ownEtf iface) = some owns ∧
        ∀ s ∈ owns, s.Legible ∧ s.skipSockCheck = s.deadlineMode) ∧
      ∃ s, ownCbs iface cbs = some s ∧ s.Legible ∧ s.hicredit = s.locredit :=
  and_congr (etfsFaithful_iff hetf) (cbsFaithful_iff hcbs)

end Configuration

/-! ### Equal and different options -/

private def enp1s0 : Value Empty := .string "enp1s0"

/-- An etf entry with every flag. -/
private def allFlags : Dict Empty :=
  ⟨[("delta", .int 500000), ("queue", .int 1), ("offload", .bool true),
    ("deadline_mode", .bool true), ("skipsock", .bool true)], by decide⟩

private def allFlagsSettings : EtfSettings := ⟨"enp1s0", "2", "500000", true, true, true⟩

/-- An etf entry for sockets that are not checked. -/
private def skipsockOnly : Dict Empty :=
  ⟨[("delta", .int 500000), ("queue", .int 1), ("skipsock", .bool true)], by decide⟩

private def skipsockOnlySettings : EtfSettings := ⟨"enp1s0", "2", "500000", false, false, true⟩

/-- A cbs object with two credits. -/
private def credits (hicredit locredit : Int) : Dict Empty :=
  ⟨[("handle", .int 200), ("parent", .int 100), ("queue", .int 1), ("sendslope", .int (-980000)),
    ("idleslope", .int 20000), ("hicredit", .int hicredit), ("locredit", .int locredit),
    ("offload", .int 1)], by simp⟩

private def creditsSettings (hicredit locredit : Text) : CbsSettings :=
  ⟨"enp1s0", "200", "100", "2", "20000", "-980000", hicredit, locredit, "1"⟩

private lemma mapM_allFlags : [allFlags].mapM (ownEtf enp1s0) = some [allFlagsSettings] := by
  decide +kernel

private lemma mapM_skipsockOnly :
    [skipsockOnly].mapM (ownEtf enp1s0) = some [skipsockOnlySettings] := by
  decide +kernel

private lemma cbsBy_credits :
    cbsBy "locredit" enp1s0 (credits 30 (-1470)) = some (creditsSettings "-1470" "-1470") := by
  decide +kernel

theorem shapers_faithful_iff_allFlags :
    ∃ etfOps cbsOps, EtfsFaithful enp1s0 [allFlags] etfOps ∧
      CbsFaithful enp1s0 (credits 30 30) cbsOps := by
  have hcredits : ∀ key, key = "locredit" ∨ key = "hicredit" →
      cbsBy key enp1s0 (credits 30 30) = some (creditsSettings "30" "30") := by
    rintro _ (rfl | rfl) <;> decide +kernel
  have hetf := forEach_setEtf_eq_ok_iff.mpr ⟨_, mapM_allFlags, rfl⟩
  have hcbs := setCbs_eq_ok_iff.mpr ⟨_, hcredits _ (.inl rfl), rfl⟩
  refine ⟨_, _, (shapers_faithful_iff hetf hcbs).mpr ⟨?_, ?_⟩⟩
  · refine ⟨_, mapM_allFlags, ?_⟩
    rw [List.forall_mem_singleton]
    refine ⟨?_, rfl⟩
    constructor <;> decide +kernel
  · refine ⟨_, hcredits _ (.inr rfl), ?_, rfl⟩
    constructor <;> decide +kernel

/-- A flag is not printed, and of two credits only one is. -/
theorem not_shapers_faithful :
    (¬ ∀ (iface : Value Empty) (entries : List (Dict Empty)) (ops : List FileOp),
      (forEach (setEtf iface "CLOCK_TAI") (etfList entries)).outcome = (.ok (), ops) →
      EtfsFaithful iface entries ops) ∧
    ¬ ∀ (iface : Value Empty) (cbs : Dict Empty) (ops : List FileOp),
      (setCbs iface cbs.value).outcome = (.ok (), ops) → CbsFaithful iface cbs ops := by
  constructor
  · intro h
    have hetf := forEach_setEtf_eq_ok_iff.mpr ⟨_, mapM_skipsockOnly, rfl⟩
    obtain ⟨owns, howns, hall⟩ := (etfsFaithful_iff hetf).mp (h _ _ _ hetf)
    obtain rfl := Option.some.inj (mapM_skipsockOnly.symm.trans howns)
    obtain ⟨-, hflag⟩ := hall _ List.mem_cons_self
    exact absurd hflag (by decide)
  · intro h
    have hcbs := setCbs_eq_ok_iff.mpr ⟨_, cbsBy_credits, rfl⟩
    obtain ⟨s, hs, -, hcredit⟩ := (cbsFaithful_iff hcbs).mp (h _ _ _ hcbs)
    have hown : ownCbs enp1s0 (credits 30 (-1470)) = some (creditsSettings "30" "-1470") := by
      decide +kernel
    obtain rfl := Option.some.inj (hown.symm.trans hs)
    exact absurd hcredit (by decide +kernel)

end GenSetup

end TsnRefSw
