import TsnRefSw.Core.Command
import TsnRefSw.GenSetup.Script

/-!
# The taprio command

`set_taprio()` collects the options in a loop over the keys of the configuration, in the order of
the file, and prints them into one command. Reading this command, one should find the options
again.
-/

namespace TsnRefSw

open Core

namespace GenSetup

/-! ### What a command says -/

/-- The words before the options. -/
def taprioFront : List Text := ["tc", "-d", "qdisc", "replace"]

/-- The keywords of the command. -/
def taprioKeys : List Text :=
  ["dev", "parent", "handle", "taprio", "num_tc", "map", "queues", "base-time", "sched-entry",
    "flags", "txtime-delay", "clockid"]

/-- The settings of a taprio scheduler. -/
structure TaprioSettings where
  iface : Text
  handle : Text
  numTc : Text
  map : Text
  queues : Text
  baseTime : Text
  /-- Gate masks and durations. -/
  schedule : List (Text × Text)
  txtimeDelay : Option Text
deriving DecidableEq, Repr

namespace TaprioSettings

/-- A delay comes with the clock it is measured by. -/
def delayClauses : Option Text → List Clause
  | none   => []
  | some d => [⟨"txtime-delay", [d]⟩, ⟨"clockid", ["CLOCK_TAI"]⟩]

/-- The settings as a command has them, where a value stands for the arguments `arg` of it. -/
def clausesBy (arg : Text → List Text) (s : TaprioSettings) : List Clause :=
  [⟨"dev", words s.iface⟩, ⟨"parent", ["root"]⟩, ⟨"handle", arg s.handle⟩, ⟨"taprio", []⟩,
    ⟨"num_tc", arg s.numTc⟩, ⟨"map", words s.map⟩, ⟨"queues", words s.queues⟩,
    ⟨"base-time", words s.baseTime⟩] ++
  s.schedule.map (fun e => ⟨"sched-entry", "S".toList :: (arg e.1 ++ arg e.2)⟩) ++
  ⟨"flags", ["0x2"]⟩ :: delayClauses s.txtimeDelay

/-- The settings as a command should have them. -/
def clauses (s : TaprioSettings) : List Clause := s.clausesBy fun t => [t]

/-- The settings can be printed into a command and read back. -/
structure Legible (s : TaprioSettings) : Prop where
  iface : Core.Legible taprioKeys s.iface
  handle : LegibleWord taprioKeys s.handle
  numTc : LegibleWord taprioKeys s.numTc
  map : Core.Legible taprioKeys s.map
  queues : Core.Legible taprioKeys s.queues
  schedule : ∀ e ∈ s.schedule, LegibleWord taprioKeys e.1 ∧ LegibleWord taprioKeys e.2

end TaprioSettings

/-- The schedule as it is printed. -/
def schedText (schedule : List (Text × Text)) : Text :=
  schedule.flatMap fun e => "sched-entry S " ++ e.1 ++ " " ++ e.2 ++ " "

lemma words_schedText_append (schedule : List (Text × Text)) (b : Text) :
    words (schedText schedule ++ b) =
      schedule.flatMap (fun e => "sched-entry".toList :: "S".toList :: (words e.1 ++ words e.2)) ++
        words b := by
  have hentry : EndsBlank "sched-entry S ".toList := rfl
  induction schedule with
  | nil => rfl
  | cons e schedule ih =>
    rw [schedText, List.flatMap_cons, ← schedText, List.flatMap_cons]
    simp only [List.append_assoc]
    rw [words_append_of_endsBlank hentry, words_append_space, words_append_space, ih,
      show words "sched-entry S ".toList = ["sched-entry".toList, "S".toList] by decide +kernel]
    simp

/-- The words of the command. -/
lemma words_taprioCmd (iface handle numTc maps queues basetime : Text)
    (schedule : List (Text × Text)) (txtime : Bool) :
    words (taprioCmd iface handle numTc maps queues basetime (schedText schedule) txtime) =
      taprioFront ++ (TaprioSettings.clausesBy words ⟨iface, handle, numTc, maps, queues, basetime,
        schedule, if txtime then some "0".toList else none⟩).flatMap Clause.words := by
  have hdev : EndsBlank "tc -d qdisc replace dev ".toList := rfl
  have hparent : EndsBlank "parent root handle ".toList := rfl
  have hnum : EndsBlank "taprio num_tc ".toList := rfl
  have hmap : StartsBlank " map ".toList := rfl
  have hmap' : EndsBlank " map ".toList := rfl
  have hqueues : EndsBlank "queues ".toList := rfl
  have htime : StartsBlank " base-time ".toList := rfl
  have htime' : EndsBlank " base-time ".toList := rfl
  have htail : words (" ".toList ++ (if txtime then
      " flags 0x2 txtime-delay 0 clockid CLOCK_TAI" else " flags 0x2").toList) =
        "flags".toList :: "0x2".toList ::
          (TaprioSettings.delayClauses (if txtime then some "0".toList else none)).flatMap
            Clause.words := by
    cases txtime <;> decide +kernel
  unfold taprioCmd
  simp only [List.append_assoc]
  rw [words_append_of_endsBlank hdev, words_append_space, words_append_of_endsBlank hparent,
    words_append_space, words_append_of_endsBlank hnum, words_append_of_startsBlank hmap,
    words_append_of_endsBlank hmap', words_append_space, words_append_of_endsBlank hqueues,
    words_append_of_startsBlank htime, words_append_of_endsBlank htime', words_append_space,
    words_schedText_append, htail]
  have wdev : words "tc -d qdisc replace dev ".toList = taprioFront ++ ["dev".toList] := by
    decide +kernel
  have wparent : words "parent root handle ".toList =
      ["parent".toList, "root".toList, "handle".toList] := by decide +kernel
  have wnum : words "taprio num_tc ".toList = ["taprio".toList, "num_tc".toList] := by
    decide +kernel
  have wmap : words " map ".toList = ["map".toList] := by decide +kernel
  have wqueues : words "queues ".toList = ["queues".toList] := by decide +kernel
  have wtime : words " base-time ".toList = ["base-time".toList] := by decide +kernel
  rw [wdev, wparent, wnum, wmap, wqueues, wtime]
  simp only [TaprioSettings.clausesBy, List.flatMap_append, List.flatMap_cons, List.flatMap_map,
    Clause.words, List.append_assoc, List.cons_append, List.nil_append]

/-- A command is on one line if what it is made of is. -/
lemma newline_notMem_taprioCmd {iface handle numTc maps queues basetime : Text}
    {schedule : List (Text × Text)} {txtime : Bool} :
    '\n' ∉ taprioCmd iface handle numTc maps queues basetime (schedText schedule) txtime ↔
      '\n' ∉ iface ∧ '\n' ∉ handle ∧ '\n' ∉ numTc ∧ '\n' ∉ maps ∧ '\n' ∉ queues ∧
        '\n' ∉ basetime ∧ ∀ e ∈ schedule, '\n' ∉ e.1 ∧ '\n' ∉ e.2 := by
  have htail : '\n' ∉ (if txtime then
      " flags 0x2 txtime-delay 0 clockid CLOCK_TAI" else " flags 0x2").toList := by
    cases txtime <;> decide +kernel
  have hsched : '\n' ∉ schedText schedule ↔ ∀ e ∈ schedule, '\n' ∉ e.1 ∧ '\n' ∉ e.2 := by
    simp [schedText]
  unfold taprioCmd
  simp [htail, hsched]

namespace TaprioSettings

/-- The words between the handle and the delay. -/
def behindHandle (arg : Text → List Text) (s : TaprioSettings) : List Text :=
  (({ s with txtimeDelay := none }.clausesBy arg).drop 3).flatMap Clause.words

lemma clausesBy_words (arg : Text → List Text) (s : TaprioSettings) :
    (s.clausesBy arg).flatMap Clause.words =
      ("dev".toList :: (words s.iface ++ ["parent".toList, "root".toList, "handle".toList]) ++
        arg s.handle ++ s.behindHandle arg) ++
      (delayClauses s.txtimeDelay).flatMap Clause.words := by
  simp [clausesBy, behindHandle, Clause.words, delayClauses]

/-- The command that is printed for some settings with `handle` in place of theirs. -/
def cmd (s : TaprioSettings) (handle : Text) : Text :=
  taprioCmd s.iface handle s.numTc s.map s.queues s.baseTime (schedText s.schedule)
    s.txtimeDelay.isSome

lemma words_cmd (s : TaprioSettings) (handle : Text) :
    words (s.cmd handle) = taprioFront ++
      (("dev".toList :: (words s.iface ++ ["parent".toList, "root".toList, "handle".toList]) ++
        words handle ++ s.behindHandle words) ++
      (delayClauses (s.txtimeDelay.map fun _ => "0")).flatMap Clause.words) := by
  have hdelay : (if s.txtimeDelay.isSome then some "0".toList else none) =
      s.txtimeDelay.map fun _ => "0".toList := by
    cases s.txtimeDelay <;> rfl
  rw [cmd, words_taprioCmd, clausesBy_words, hdelay]
  rfl

lemma cmd_injective (s : TaprioSettings) : Function.Injective s.cmd := by
  intro a b h
  unfold cmd taprioCmd at h
  simp only [List.append_assoc, List.append_cancel_left_eq] at h
  exact List.append_cancel_right h

/-- Where all single values are words, they are printed as such. -/
lemma behindHandle_words {s : TaprioSettings} (hnum : IsWord s.numTc)
    (hsched : ∀ e ∈ s.schedule, IsWord e.1 ∧ IsWord e.2) :
    s.behindHandle words = s.behindHandle fun t => [t] := by
  have hentries : s.schedule.map (fun e : Text × Text =>
      (⟨"sched-entry", "S".toList :: (words e.1 ++ words e.2)⟩ : Clause)) =
        s.schedule.map fun e => ⟨"sched-entry", "S".toList :: ([e.1] ++ [e.2])⟩ := by
    apply List.map_congr_left
    intro e he
    rw [words_eq_singleton_iff.mpr (hsched e he).1, words_eq_singleton_iff.mpr (hsched e he).2]
  rw [behindHandle, behindHandle, clausesBy, clausesBy, hentries, words_eq_singleton_iff.mpr hnum]
  rfl

lemma delayClauses_words_eq_iff (delay : Option Text) :
    (delayClauses (delay.map fun _ => "0")).flatMap Clause.words =
      (delayClauses delay).flatMap Clause.words ↔ ∀ d ∈ delay, d = "0" := by
  cases delay with
  | none => exact iff_of_true rfl (fun d hd => absurd hd (Option.not_mem_none d))
  | some d =>
    simp only [Option.mem_some_iff, forall_eq']
    constructor
    · intro h
      exact (List.cons.inj (List.cons.inj h).2).1.symm
    · rintro rfl
      rfl

/-- Of the words of a command, what is cut out at the handle and at the end. -/
lemma words_cmd_eq_iff {s : TaprioSettings} (hnum : IsWord s.numTc)
    (hsched : ∀ e ∈ s.schedule, IsWord e.1 ∧ IsWord e.2) (handle : Text) :
    words (s.cmd handle) = taprioFront ++ s.clauses.flatMap Clause.words ↔
      words handle = [s.handle] ∧ ∀ d ∈ s.txtimeDelay, d = "0" := by
  have hlen : ((delayClauses (s.txtimeDelay.map fun _ => "0")).flatMap Clause.words).length =
      ((delayClauses s.txtimeDelay).flatMap Clause.words).length := by
    cases s.txtimeDelay <;> rfl
  rw [words_cmd, clauses, clausesBy_words, behindHandle_words hnum hsched,
    List.append_cancel_left_eq]
  constructor
  · intro h
    obtain ⟨hfront, hback⟩ := List.append_inj' h hlen
    rw [List.append_cancel_right_eq, List.append_cancel_left_eq] at hfront
    exact ⟨hfront, (delayClauses_words_eq_iff _).mp hback⟩
  · rintro ⟨hhandle, hd⟩
    rw [hhandle, (delayClauses_words_eq_iff _).mpr hd]

lemma forall_mem_clauses {s : TaprioSettings} {P : Clause → Prop} :
    (∀ c ∈ s.clauses, P c) ↔
      (P ⟨"dev", words s.iface⟩ ∧ P ⟨"parent", ["root"]⟩ ∧ P ⟨"handle", [s.handle]⟩ ∧
        P ⟨"taprio", []⟩ ∧ P ⟨"num_tc", [s.numTc]⟩ ∧ P ⟨"map", words s.map⟩ ∧
        P ⟨"queues", words s.queues⟩ ∧ P ⟨"base-time", words s.baseTime⟩) ∧
      (∀ e ∈ s.schedule, P ⟨"sched-entry", ["S", e.1, e.2]⟩) ∧ P ⟨"flags", ["0x2"]⟩ ∧
      ∀ d ∈ s.txtimeDelay, P ⟨"txtime-delay", [d]⟩ ∧ P ⟨"clockid", ["CLOCK_TAI"]⟩ := by
  have hdelay : (∀ c ∈ delayClauses s.txtimeDelay, P c) ↔
      ∀ d ∈ s.txtimeDelay, P ⟨"txtime-delay", [d]⟩ ∧ P ⟨"clockid", ["CLOCK_TAI"]⟩ := by
    cases s.txtimeDelay <;> simp [delayClauses]
  rw [clauses, clausesBy, List.forall_mem_append, List.forall_mem_append, List.forall_mem_map,
    and_assoc]
  simp only [List.forall_mem_cons, List.not_mem_nil, false_imp_iff, implies_true, and_true, hdelay,
    List.cons_append, List.nil_append]

lemma key_mem_taprioKeys {s : TaprioSettings} : ∀ c ∈ s.clauses, c.key ∈ taprioKeys := by
  rw [forall_mem_clauses]
  dsimp only
  exact ⟨by decide +kernel, fun _ _ => by decide +kernel, by decide +kernel,
    fun _ _ => by decide +kernel⟩

lemma plain_args {s : TaprioSettings} (hs : s.Legible)
    (hbase : Core.Legible taprioKeys s.baseTime) (hdelay : ∀ d ∈ s.txtimeDelay, d = "0") :
    ∀ c ∈ s.clauses, Plain taprioKeys c.args := by
  rw [forall_mem_clauses]
  simp only [Plain, List.forall_mem_cons, List.not_mem_nil, false_imp_iff, implies_true, and_true,
    true_and]
  refine ⟨⟨hs.iface.2, by decide +kernel, hs.handle.2.2, hs.numTc.2.2, hs.map.2, hs.queues.2,
    hbase.2⟩, ?_, by decide +kernel, ?_⟩
  · intro e he
    exact ⟨by decide +kernel, (hs.schedule e he).1.2.2, (hs.schedule e he).2.2.2⟩
  · intro d hd
    rw [hdelay d hd]
    decide +kernel

/-- The command says what the settings are if and only if they can be read at all, the handle is
printed, and the delay is 0. -/
lemma readCommand_cmd_iff {s : TaprioSettings} (hbase : Core.Legible taprioKeys s.baseTime)
    (handle : Text) :
    readCommand taprioKeys (s.cmd handle) = some (taprioFront, s.clauses) ↔
      s.Legible ∧ '\n' ∉ handle ∧ words handle = [s.handle] ∧ ∀ d ∈ s.txtimeDelay, d = "0" := by
  constructor
  · intro h
    have hargs := legibleWord_of_readCommand h
    obtain ⟨hline, hwords, -, -⟩ := readCommand_eq_some_iff.mp h
    rw [cmd, newline_notMem_taprioCmd] at hline
    obtain ⟨niface, nhandle, -, nmap, nqueues, -, -⟩ := hline
    simp only [forall_mem_clauses, List.forall_mem_cons, List.not_mem_nil, false_imp_iff,
      implies_true, and_true] at hargs
    obtain ⟨⟨hdev, -, hhandle, -, hnum, hmap, hqueues, -⟩, hsched, -, -⟩ := hargs
    have hentries : ∀ e ∈ s.schedule, IsWord e.1 ∧ IsWord e.2 :=
      fun e he => ⟨(hsched e he).2.1.1, (hsched e he).2.2.1⟩
    refine ⟨?_, nhandle, (words_cmd_eq_iff hnum.1 hentries handle).mp hwords⟩
    exact {
      iface := ⟨niface, fun w hw => (hdev w hw).2.2⟩
      handle := hhandle
      numTc := hnum
      map := ⟨nmap, fun w hw => (hmap w hw).2.2⟩
      queues := ⟨nqueues, fun w hw => (hqueues w hw).2.2⟩
      schedule := fun e he => (hsched e he).2 }
  · rintro ⟨hs, nhandle, hwords⟩
    have hentries : ∀ e ∈ s.schedule, IsWord e.1 ∧ IsWord e.2 :=
      fun e he => ⟨(hs.schedule e he).1.1, (hs.schedule e he).2.1⟩
    rw [readCommand_eq_some_iff, cmd, newline_notMem_taprioCmd, ← cmd]
    refine ⟨⟨hs.iface.1, nhandle, hs.numTc.2.1, hs.map.1, hs.queues.1, hbase.1, ?_⟩,
      (words_cmd_eq_iff hs.numTc.1 hentries handle).mpr hwords, ?_, ?_⟩
    · exact fun e he => ⟨(hs.schedule e he).1.2.1, (hs.schedule e he).2.2.1⟩
    · unfold Plain
      decide +kernel
    · intro c hc
      exact ⟨key_mem_taprioKeys c hc, plain_args hs hbase hwords.2 c hc⟩

end TaprioSettings

/-! ### The loop over the keys -/

section Loop

variable {F : Type}

/-- What the loop of `set_taprio()` ends up with. -/
def taprioVars (config : Dict F) : QdiscVars F :=
  config.entries.foldl QdiscVars.assignTaprio .initial

lemma numTc_taprioVars (config : Dict F) :
    (taprioVars config).numTc = (config.get "num_tc").getD (.int 0) :=
  (List.foldl_hom QdiscVars.numTc fun _ _ => rfl).symm.trans (foldl_ite_eq_lookup _ config.nodup)

lemma queues_taprioVars (config : Dict F) :
    (taprioVars config).queues = (config.get "queues").getD (.int 0) :=
  (List.foldl_hom QdiscVars.queues fun _ _ => rfl).symm.trans (foldl_ite_eq_lookup _ config.nodup)

/-- The keys whose values end up as the handle. -/
def IsHandleKey (k : String) : Prop := k = "handle" ∨ k = "txtime_delay"

lemma handle_assignTaprio_of_isHandleKey (vars : QdiscVars F) {e : String × Value F}
    (h : IsHandleKey e.1) : (vars.assignTaprio e).handle = e.2 := by
  rcases h with h | h
  · simp [QdiscVars.assignTaprio, QdiscVars.assign, h]
  · simp [QdiscVars.assignTaprio, h]

lemma handle_assignTaprio_of_not (vars : QdiscVars F) {e : String × Value F}
    (h : ¬ IsHandleKey e.1) : (vars.assignTaprio e).handle = vars.handle := by
  obtain ⟨hhandle, hdelay⟩ := not_or.mp h
  simp [QdiscVars.assignTaprio, QdiscVars.assign, hhandle, hdelay]

/-- The handle is the value of one of the two keys, or there are none. -/
lemma handle_foldl (vars : QdiscVars F) (entries : List (String × Value F)) :
    (∃ e ∈ entries, IsHandleKey e.1 ∧
      (entries.foldl QdiscVars.assignTaprio vars).handle = e.2) ∨
    ((∀ e ∈ entries, ¬ IsHandleKey e.1) ∧
      (entries.foldl QdiscVars.assignTaprio vars).handle = vars.handle) := by
  induction entries using List.reverseRecOn with
  | nil => exact .inr ⟨by simp, rfl⟩
  | append_singleton entries e ih =>
    rw [List.foldl_append, List.foldl_cons, List.foldl_nil]
    by_cases he : IsHandleKey e.1
    · exact .inl ⟨e, by simp, he, handle_assignTaprio_of_isHandleKey _ he⟩
    · rw [handle_assignTaprio_of_not _ he]
      rcases ih with ⟨d, hd, hkey, hval⟩ | ⟨hnone, hval⟩
      · exact .inl ⟨d, List.mem_append_left _ hd, hkey, hval⟩
      · refine .inr ⟨?_, hval⟩
        intro d hd
        rcases List.mem_append.mp hd with hd | hd
        · exact hnone d hd
        · rwa [List.mem_singleton.mp hd]

/-- The last of the keys decides. -/
lemma handle_taprioVars_of_append {config : Dict F} {entries : List (String × Value F)}
    {e : String × Value F} (h : config.entries = entries ++ [e]) (he : IsHandleKey e.1) :
    (taprioVars config).handle = e.2 := by
  rw [taprioVars, h, List.foldl_append]
  exact handle_assignTaprio_of_isHandleKey _ he

/-- Any key can be moved to the end. -/
lemma exists_perm_append {config : Dict F} {k : String} {x : Value F}
    (h : config.get k = some x) :
    ∃ config' : Dict F, config.entries.Perm config'.entries ∧
      ∃ entries, config'.entries = entries ++ [(k, x)] := by
  obtain ⟨as, bs, hentries⟩ := List.append_of_mem (Dict.get_eq_some_iff.mp h)
  have hperm : config.entries.Perm (as ++ bs ++ [(k, x)]) := by
    rw [hentries, List.append_assoc]
    exact (List.perm_append_singleton (k, x) bs).symm.append_left as
  exact ⟨⟨_, (hperm.map Prod.fst).nodup_iff.mp config.nodup⟩, hperm, _, rfl⟩

/-- The handle is the one of the configuration or the delay, whatever the order of the keys. -/
lemma handle_taprioVars_of_perm {config config' : Dict F}
    (hperm : config.entries.Perm config'.entries) {h : Value F}
    (hh : config.get "handle" = some h) :
    (taprioVars config').handle = h ∨
      config.get "txtime_delay" = some (taprioVars config').handle := by
  have hmem : ("handle", h) ∈ config'.entries := hperm.mem_iff.mp (Dict.get_eq_some_iff.mp hh)
  rcases handle_foldl .initial config'.entries with ⟨⟨k, x⟩, he, hkey, hval⟩ | ⟨hnone, -⟩
  · have hx : config.get k = some x := Dict.get_eq_some_iff.mpr (hperm.mem_iff.mpr he)
    rcases hkey with rfl | rfl
    · exact .inl (hval.trans (Option.some.inj (hx.symm.trans hh)))
    · exact .inr (hx.trans (congrArg some hval.symm))
  · exact absurd (.inl rfl) (hnone _ hmem)

lemma legible_baseTime (plat : Value F) : Core.Legible taprioKeys (baseTime plat) := by
  have hpresent : Core.Legible taprioKeys "$(date +%s%N)".toList :=
    ⟨by decide +kernel, by unfold Plain; decide +kernel⟩
  have hfuture : Core.Legible taprioKeys "$(expr $(date +%s) + 5)000000000".toList :=
    ⟨by decide +kernel, by unfold Plain; decide +kernel⟩
  unfold baseTime
  cases plat.isString "i225".toList
  · exact hfuture
  · exact hpresent

end Loop

/-! ### What a configuration asks for -/

section Configuration

variable {F : Type} [Runtime F]

/-- The texts of an entry of the schedule. -/
def entryTexts (each : Value F) : Except Failure (Text × Text) := do
  let gateMask ← each.getItem "gate_mask"
  let duration ← each.getItem "duration"
  return (gateMask.str, duration.str)

def ownSchedule (config : Value F) : Except Failure (List (Text × Text)) := do
  (← (← config.getItem "schedule").iter).mapM entryTexts

/-- The settings of a taprio object, with some handle. -/
def settingsWith (iface data : Value F) (config : Dict F) (handle : Text) :
    Option TaprioSettings := do
  let numTc ← config.get "num_tc"
  let queues ← config.get "queues"
  let map ← (setMapping data "taprio").toOption
  let plat ← (data.getItem "plat").toOption
  let schedule ← (ownSchedule config.value).toOption
  return {
    iface := iface.str
    handle := handle
    numTc := numTc.str
    map := map
    queues := queues.str
    baseTime := baseTime plat
    schedule := schedule
    txtimeDelay := ((config.get "txtime_delay").filter Value.truth).map Value.str }

/-- The settings of a taprio object, with its own handle. -/
def ownSettings (iface data : Value F) (config : Dict F) : Option TaprioSettings := do
  let handle ← config.get "handle"
  settingsWith iface data config handle.str

lemma foldlM_schedEntry_eq_ok_iff {xs : List (Value F)} {t r : Text} :
    xs.foldlM schedEntry t = .ok r ↔ ∃ es, xs.mapM entryTexts = .ok es ∧ r = t ++ schedText es := by
  induction xs generalizing t with
  | nil => simp [schedText, pure, Except.pure, eq_comm]
  | cons x xs ih =>
    simp only [List.foldlM_cons, List.mapM_cons, bind_eq_ok_iff, ih, schedEntry, entryTexts]
    constructor
    · rintro ⟨t', ⟨m, hm, d, hd, ⟨rfl⟩⟩, es, hes, rfl⟩
      refine ⟨(m.str, d.str) :: es, ⟨_, ⟨m, hm, d, hd, rfl⟩, es, hes, rfl⟩, ?_⟩
      simp [schedText]
    · rintro ⟨_, ⟨_, ⟨m, hm, d, hd, ⟨rfl⟩⟩, es, hes, ⟨rfl⟩⟩, rfl⟩
      refine ⟨_, ⟨m, hm, d, hd, rfl⟩, es, hes, ?_⟩
      simp [schedText]

variable {iface : Value F} {tc config config' : Dict F}

lemma exitUnless_eq_ok_iff {x : Value F} {u : Unit} : exitUnless x = .ok u ↔ x.truth := by
  rw [exitUnless]
  split_ifs with h <;> simp [h]

lemma truth_getD_iff {o : Option (Value F)} :
    (o.getD (.int 0)).truth ↔ ∃ x, o = some x ∧ x.truth := by
  cases o with
  | none => simp [Value.truth]
  | some x => simp

lemma setTaprio_eq_ok_iff {maps basetime cmd : Text} :
    setTaprio iface maps config.value basetime = .ok cmd ↔
      ∃ es, ownSchedule config.value = .ok es ∧ (taprioVars config).numTc.truth ∧
        (taprioVars config).queues.truth ∧ (taprioVars config).handle.truth ∧
        taprioCmd iface.str (taprioVars config).handle.str (taprioVars config).numTc.str maps
          (taprioVars config).queues.str basetime (schedText es)
          ((config.get "txtime_delay").any Value.truth) = cmd := by
  simp only [setTaprio, ownSchedule, bind_eq_ok_iff, foldlM_schedEntry_eq_ok_iff,
    exitUnless_eq_ok_iff, pure_eq_ok_iff, Dict.items_value, Dict.get_value, Except.ok.injEq,
    exists_eq_left']
  constructor
  · rintro ⟨x, hx, xs, hxs, _, ⟨es, hes, rfl⟩, -, hnum, -, hqueues, -, hhandle, hcmd⟩
    exact ⟨es, ⟨x, hx, xs, hxs, hes⟩, hnum, hqueues, hhandle, hcmd⟩
  · rintro ⟨es, ⟨x, hx, xs, hxs, hes⟩, hnum, hqueues, hhandle, hcmd⟩
    exact ⟨x, hx, xs, hxs, _, ⟨es, hes, rfl⟩, (), hnum, (), hqueues, (), hhandle, hcmd⟩

/-- What `set_taprio()` requires besides the settings. -/
structure Accepted (config : Dict F) : Prop where
  timeElapsed : ∃ t, config.get "time_elapsed" = some t
  numTc : ∃ n, config.get "num_tc" = some n ∧ n.truth
  queues : ∃ q, config.get "queues" = some q ∧ q.truth
  handle : (taprioVars config).handle.truth

/-- An accepted object has settings with the handle of the loop, and these are printed. -/
lemma taprioCommand_eq_ok_iff {cmd : Text} :
    taprioCommand iface (tc.set "taprio" config.value).value = .ok cmd ↔
      Accepted config ∧ ∃ s, settingsWith iface (tc.set "taprio" config.value).value config
        (taprioVars config).handle.str = some s ∧ s.cmd s.handle = cmd := by
  simp only [taprioCommand, settingsWith, bind_eq_ok_iff, setTaprio_eq_ok_iff,
    Option.bind_eq_bind, Option.bind_eq_some_iff, toOption_eq_some_iff, Dict.getItem_set_self,
    Except.ok.injEq, exists_eq_left', Dict.getItem_value_eq_ok_iff, Option.pure_def,
    Option.some.injEq]
  have hdelay : (((config.get "txtime_delay").filter Value.truth).map Value.str).isSome =
      (config.get "txtime_delay").any Value.truth := by
    cases config.get "txtime_delay" with
    | none => rfl
    | some v => by_cases hv : v.truth <;> simp [hv]
  constructor
  · rintro ⟨maps, hmaps, time, htime, plat, hplat, es, hes, hnum, hqueues, hhandle, hcmd⟩
    rw [numTc_taprioVars, truth_getD_iff] at hnum
    rw [queues_taprioVars, truth_getD_iff] at hqueues
    refine ⟨⟨⟨time, htime⟩, hnum, hqueues, hhandle⟩, ?_⟩
    obtain ⟨n, hn, -⟩ := hnum
    obtain ⟨q, hq, -⟩ := hqueues
    refine ⟨_, ⟨n, hn, q, hq, maps, hmaps, plat, hplat, es, hes, rfl⟩, ?_⟩
    rw [numTc_taprioVars, queues_taprioVars, hn, hq, ← hdelay] at hcmd
    exact hcmd
  · rintro ⟨⟨⟨time, htime⟩, hnum, hqueues, hhandle⟩, s, ⟨n, hn, q, hq, maps, hmaps, plat, hplat,
      es, hes, rfl⟩, hcmd⟩
    refine ⟨maps, hmaps, time, htime, plat, hplat, es, hes, ?_, ?_, hhandle, ?_⟩
    · rwa [numTc_taprioVars, truth_getD_iff]
    · rwa [queues_taprioVars, truth_getD_iff]
    · rw [numTc_taprioVars, queues_taprioVars, hn, hq, ← hdelay]
      exact hcmd

/-! ### The order of the keys -/

/-- The settings do not depend on the order of the keys. -/
lemma settingsWith_eq_of_perm (hperm : config.entries.Perm config'.entries) (handle : Text) :
    settingsWith iface (tc.set "taprio" config'.value).value config' handle =
      settingsWith iface (tc.set "taprio" config.value).value config handle := by
  have hget := Dict.get_eq_of_perm hperm
  have hmapping : setMapping (tc.set "taprio" config'.value).value "taprio" =
      setMapping (tc.set "taprio" config.value).value "taprio" := by
    rw [setMapping, setMapping, Dict.getItem_set_self, Dict.getItem_set_self]
    show (config'.value.getItem "mapping" >>= _) = config.value.getItem "mapping" >>= _
    rw [Dict.getItem_congr (hget "mapping")]
  have hschedule : ownSchedule config'.value = ownSchedule config.value := by
    rw [ownSchedule, ownSchedule, Dict.getItem_congr (hget "schedule")]
  have hplat : ∀ c : Dict F, (tc.set "taprio" c.value).value.getItem "plat" =
      tc.value.getItem "plat" :=
    fun c => Dict.getItem_set_of_ne (by decide) c.value
  rw [settingsWith, settingsWith, hmapping, hschedule, hplat, hplat, hget "num_tc", hget "queues",
    hget "txtime_delay"]

/-- Another handle changes nothing else. -/
lemma settingsWith_eq_some {data : Value F} {handle : Text} {s : TaprioSettings}
    (h : settingsWith iface data config handle = some s) (handle' : Text) :
    settingsWith iface data config handle' = some { s with handle := handle' } := by
  simp only [settingsWith, Option.bind_eq_bind, Option.bind_eq_some_iff, Option.pure_def,
    Option.some.injEq] at h ⊢
  obtain ⟨n, hn, q, hq, map, hmap, plat, hplat, es, hes, rfl⟩ := h
  exact ⟨n, hn, q, hq, map, hmap, plat, hplat, es, hes, rfl⟩

lemma settingsWith_spec {data : Value F} {handle : Text} {s : TaprioSettings}
    (h : settingsWith iface data config handle = some s) :
    s.handle = handle ∧ Core.Legible taprioKeys s.baseTime ∧
      s.txtimeDelay = ((config.get "txtime_delay").filter Value.truth).map Value.str := by
  simp only [settingsWith, Option.bind_eq_bind, Option.bind_eq_some_iff, Option.pure_def,
    Option.some.injEq] at h
  obtain ⟨n, hn, q, hq, map, hmap, plat, hplat, es, hes, rfl⟩ := h
  exact ⟨rfl, legible_baseTime plat, rfl⟩

/-- The command for an object with its keys in another order. -/
lemma taprioCommand_perm_iff (hperm : config.entries.Perm config'.entries)
    (haccepted : Accepted config) {handle : Text} {s : TaprioSettings}
    (hs : settingsWith iface (tc.set "taprio" config.value).value config handle = some s)
    {cmd : Text} :
    taprioCommand iface (tc.set "taprio" config'.value).value = .ok cmd ↔
      (taprioVars config').handle.truth ∧ s.cmd (taprioVars config').handle.str = cmd := by
  have hget := Dict.get_eq_of_perm hperm
  have hs' := settingsWith_eq_some hs (taprioVars config').handle.str
  rw [taprioCommand_eq_ok_iff, settingsWith_eq_of_perm hperm, hs']
  constructor
  · rintro ⟨haccepted', _, ⟨rfl⟩, hcmd⟩
    exact ⟨haccepted'.handle, hcmd⟩
  · rintro ⟨htruth, hcmd⟩
    refine ⟨⟨?_, ?_, ?_, htruth⟩, _, rfl, hcmd⟩
    · exact hget "time_elapsed" ▸ haccepted.timeElapsed
    · exact hget "num_tc" ▸ haccepted.numTc
    · exact hget "queues" ▸ haccepted.queues

/-- Whatever the order of the keys, the command is the same. -/
def OrderFree (iface : Value F) (tc config : Dict F) (cmd : Text) : Prop :=
  ∀ config' : Dict F, config.entries.Perm config'.entries →
    taprioCommand iface (tc.set "taprio" config'.value).value = .ok cmd

/-- The command says what the configuration asks for. -/
def Faithful (iface : Value F) (tc config : Dict F) (cmd : Text) : Prop :=
  ∃ s, ownSettings iface (tc.set "taprio" config.value).value config = some s ∧
    readCommand taprioKeys cmd = some (taprioFront, s.clauses)

/-- There is no delay, or it is the string `0` and so is the handle. -/
def HandleKept (config : Dict F) : Prop :=
  ∀ v, config.get "txtime_delay" = some v → (v.truth ∧ v.str = "0") ∧
    ∀ h, config.get "handle" = some h → h.truth ∧ h.str = "0"

/-- With such a handle, the loop ends up with it, or with the same text. -/
lemma HandleKept.handle_taprioVars (hkept : HandleKept config)
    (htruth : (taprioVars config).handle.truth) {h : Value F} (hh : config.get "handle" = some h)
    (hperm : config.entries.Perm config'.entries) :
    (taprioVars config').handle.truth ∧ (taprioVars config').handle.str = h.str := by
  cases hv : config.get "txtime_delay" with
  | none =>
    have hsame : ∀ {c : Dict F}, config.entries.Perm c.entries → (taprioVars c).handle = h := by
      intro c hc
      refine (handle_taprioVars_of_perm hc hh).resolve_right ?_
      rw [hv]
      exact Option.some_ne_none _ |>.symm
    rw [hsame hperm]
    exact ⟨hsame (.refl _) ▸ htruth, rfl⟩
  | some v =>
    obtain ⟨hzero, hhandle⟩ := hkept v hv
    obtain ⟨hhtruth, hhzero⟩ := hhandle h hh
    rcases handle_taprioVars_of_perm hperm hh with hsame | hdelay
    · rw [hsame]
      exact ⟨hhtruth, rfl⟩
    · obtain rfl : v = (taprioVars config').handle := Option.some.inj (hv.symm.trans hdelay)
      exact ⟨hzero.1, hzero.2.trans hhzero.symm⟩

/-- A taprio object is printed faithfully, whatever the order of its keys, if and only if its
values can be read back at all and the handle is kept: there is no `txtime_delay`, or it is the
string `0` and so is the handle. -/
theorem taprioCommand_faithful_iff {cmd : Text}
    (hcmd : taprioCommand iface (tc.set "taprio" config.value).value = .ok cmd) :
    Faithful iface tc config cmd ∧ OrderFree iface tc config cmd ↔
      (∃ s, ownSettings iface (tc.set "taprio" config.value).value config = some s ∧ s.Legible) ∧
        HandleKept config := by
  obtain ⟨haccepted, s₀, hs₀, rfl⟩ := taprioCommand_eq_ok_iff.mp hcmd
  constructor
  · rintro ⟨⟨s, hs, hread⟩, hfree⟩
    obtain ⟨h, hh, hwith⟩ := Option.bind_eq_some_iff.mp hs
    obtain ⟨-, hbase, hdelay⟩ := settingsWith_spec hwith
    obtain rfl : _ = s₀ := Option.some.inj ((settingsWith_eq_some hwith _).symm.trans hs₀)
    obtain ⟨hlegible, -, -, hzero⟩ := (TaprioSettings.readCommand_cmd_iff hbase _).mp hread
    refine ⟨⟨s, hs, hlegible⟩, ?_⟩
    -- With either key moved to the end, its value is the handle.
    have hlast : ∀ {k : String} {x : Value F}, config.get k = some x → IsHandleKey k →
        x.truth ∧ s.cmd x.str = s.cmd (taprioVars config).handle.str := by
      intro k x hx hk
      obtain ⟨config', hperm, entries, hentries⟩ := exists_perm_append hx
      have hcommand := (taprioCommand_perm_iff hperm haccepted hwith).mp (hfree config' hperm)
      rwa [handle_taprioVars_of_append hentries hk] at hcommand
    intro v hv
    obtain ⟨hvtruth, hvcmd⟩ := hlast hv (.inr rfl)
    obtain ⟨hhtruth, hhcmd⟩ := hlast hh (.inl rfl)
    have hvzero : v.str = "0" := by
      rw [hv, Option.filter_some_pos hvtruth] at hdelay
      exact hzero _ hdelay
    refine ⟨⟨hvtruth, hvzero⟩, ?_⟩
    intro h' hh'
    obtain rfl : h = h' := Option.some.inj (hh.symm.trans hh')
    exact ⟨hhtruth, (s.cmd_injective (hhcmd.trans hvcmd.symm)).trans hvzero⟩
  · rintro ⟨⟨s, hs, hlegible⟩, hkept⟩
    obtain ⟨h, hh, hwith⟩ := Option.bind_eq_some_iff.mp hs
    obtain ⟨hhandle, hbase, hdelay⟩ := settingsWith_spec hwith
    obtain rfl : _ = s₀ := Option.some.inj ((settingsWith_eq_some hwith _).symm.trans hs₀)
    have hprinted := fun {c : Dict F} (hc : config.entries.Perm c.entries) =>
      hkept.handle_taprioVars haccepted.handle hh hc
    constructor
    · refine ⟨s, hs, (TaprioSettings.readCommand_cmd_iff hbase _).mpr ⟨hlegible, ?_⟩⟩
      rw [(hprinted (.refl _)).2, ← hhandle]
      refine ⟨hlegible.handle.2.1, words_eq_singleton_iff.mpr hlegible.handle.1, ?_⟩
      intro d hd
      rw [hdelay] at hd
      obtain ⟨v, hv, rfl⟩ := Option.map_eq_some_iff.mp hd
      exact (hkept v (Option.filter_eq_some_iff.mp hv).1).1.2
    · intro config' hperm
      refine (taprioCommand_perm_iff hperm haccepted hwith).mpr ⟨(hprinted hperm).1, ?_⟩
      rw [(hprinted hperm).2, ← (hprinted (.refl _)).2]
      rfl

end Configuration

/-! ### With and without a delay -/

/-- The keys of a taprio object besides the handle. -/
private def twoQueues : List (String × Value Empty) :=
  [("num_tc", .int 2), ("queues", .string "1@0 1@1"), ("time_elapsed", .int 5),
    ("mapping", .dict [("default", .int 1), ("p1", .int 0)]),
    ("schedule", .list [.dict [("gate_mask", .string "0f"), ("duration", .int 500000)]])]

/-- Without a delay. -/
private def scheduled : Dict Empty := ⟨("handle", .int 100) :: twoQueues, by decide⟩

/-- With a delay behind the handle. -/
private def delayed : Dict Empty :=
  ⟨("handle", .int 100) :: ("txtime_delay", .int 500000) :: twoQueues, by decide⟩

/-- The rest of a configuration of the i225. -/
private def i225Tc : Dict Empty :=
  ⟨[("interface", .string "eth0"), ("plat", .string "i225")], by decide⟩

private def eth0 : Value Empty := .string "eth0"

/-- What is common to both. -/
private def twoQueuesSettings (handle : Text) (txtimeDelay : Option Text) : TaprioSettings :=
  ⟨"eth0", handle, "2", "1 0 1 1 1 1 1 1 1 1 1 1 1 1 1 1", "1@0 1@1", "$(date +%s%N)",
    [("0f".toList, "500000".toList)], txtimeDelay⟩

private lemma settingsWith_scheduled :
    settingsWith eth0 (i225Tc.set "taprio" scheduled.value).value scheduled "100" =
      some (twoQueuesSettings "100" none) := by
  decide +kernel

private lemma settingsWith_delayed :
    settingsWith eth0 (i225Tc.set "taprio" delayed.value).value delayed "500000" =
      some (twoQueuesSettings "500000" (some "500000".toList)) := by
  decide +kernel

theorem taprioCommand_faithful_iff_scheduled :
    ∃ cmd, taprioCommand eth0 (i225Tc.set "taprio" scheduled.value).value = .ok cmd ∧
      Faithful eth0 i225Tc scheduled cmd ∧ OrderFree eth0 i225Tc scheduled cmd := by
  have haccepted : Accepted scheduled :=
    ⟨⟨_, rfl⟩, ⟨_, rfl, by decide⟩, ⟨_, rfl, by decide⟩, by decide⟩
  have hcmd := taprioCommand_eq_ok_iff.mpr ⟨haccepted, _, settingsWith_scheduled, rfl⟩
  refine ⟨_, hcmd, (taprioCommand_faithful_iff hcmd).mpr ⟨?_, ?_⟩⟩
  · refine ⟨_, settingsWith_scheduled, ?_⟩
    constructor <;> decide +kernel
  · intro v hv
    have hnone : scheduled.get "txtime_delay" = none := rfl
    rw [hnone] at hv
    cases hv

/-- A delay takes the place of the handle, and none is printed. -/
theorem not_taprioCommand_faithful :
    ¬ ∀ (iface : Value Empty) (tc config : Dict Empty) (cmd : Text),
      taprioCommand iface (tc.set "taprio" config.value).value = .ok cmd →
      Faithful iface tc config cmd ∧ OrderFree iface tc config cmd := by
  intro h
  have haccepted : Accepted delayed :=
    ⟨⟨_, rfl⟩, ⟨_, rfl, by decide⟩, ⟨_, rfl, by decide⟩, by decide⟩
  have hcmd := taprioCommand_eq_ok_iff.mpr ⟨haccepted, _, settingsWith_delayed, rfl⟩
  obtain ⟨⟨s, hs, hread⟩, -⟩ := h _ _ _ _ hcmd
  have hown : twoQueuesSettings "100" (some "500000".toList) = s :=
    Option.some.inj ((settingsWith_eq_some settingsWith_delayed _).symm.trans hs)
  subst hown
  obtain ⟨-, hbase, -⟩ := settingsWith_spec settingsWith_delayed
  obtain ⟨-, -, -, hzero⟩ := (TaprioSettings.readCommand_cmd_iff
    (s := twoQueuesSettings "100" (some "500000".toList)) hbase "500000").mp hread
  exact absurd (hzero _ rfl) (by decide +kernel)

end GenSetup

end TsnRefSw
