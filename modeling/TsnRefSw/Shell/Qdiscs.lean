import TsnRefSw.Core.Command
import TsnRefSw.Core.Sort

/-!
# Queueing disciplines of the shell scripts

`setup_taprio` and `setup_mqprio` of `helpers.sh` count the traffic classes of a priority map and
list a queue for each. The list is a variable of the shell, and stays when the functions return.
-/

namespace TsnRefSw

open Core

namespace Shell

/-- `echo` puts a space between its arguments. -/
def echo (args : List Text) : Text := spaced args

/-- A variable that is empty after word splitting, which `[ -z $VAR ]` tells. -/
def unset (t : Text) : Bool := t.all fun c => isBlank c || c == '\n'

/-- `seq 0 $LAST`. -/
def seq (last : Text) : List Text :=
  (List.range (awkNumber last + 1).toNat).map fun i : Nat => decimal i

/-- The value of a map variable. -/
def mapText (classes : List Nat) : Text := spaced (classes.map fun c : Nat => decimal c)

/-- `NUM_TC=$(printf "%s\n" ${ARR[@]} | sort | tail -n 1)`. -/
def lastClass (map : Text) : Text := lastLine (sort (words map))

/-- `for i in $(seq 0 $NUM_TC)`. -/
def appendQueues (queueOffsets numTc : Text) : Text :=
  (seq numTc).foldl (fun offsets i => offsets ++ " 1@".toList ++ i) queueOffsets

/-- `NUM_TC=$(expr $NUM_TC + 1)`. -/
def exprSucc (numTc : Text) : Text := decimal (awkNumber numTc + 1)

/-! ### The two functions -/

/-- The variables that `setup_taprio` reads. -/
structure TaprioVars where
  taprioMap : List Nat
  taprioSched : List Text
  taprioFlags : Text
  plat : Text
  /-- `date +%s`. -/
  secs : Nat
  /-- `date +%N`, without leading zeros. -/
  nanos : Nat
deriving DecidableEq, Repr

/-- A function that returned: the commands it ran before the last one, the last one, and
`QUEUE_OFFSETS`. -/
structure Returned where
  before : List Text
  cmd : Text
  queueOffsets : Text
deriving DecidableEq, Repr

def TaprioVars.base (vars : TaprioVars) : Text :=
  if "i225".toList.isPrefixOf vars.plat then
    decimal vars.secs ++ List.replicate (9 - digitCount vars.nanos) '0' ++ decimal vars.nanos
  else decimal (vars.secs + 5) ++ "000000000".toList

/-- For `replace` there has to be a discipline. -/
def mqprioBase (iface : Text) : Text :=
  "tc qdisc add dev ".toList ++ iface ++ " root mqprio ".toList
    ++ "num_tc 1 map 0 0 0 0 0 0 0 0 0 0 0 0 0 0 0 0 0 queues 1@0 hw 0".toList

def taprioCmd (iface : Text) (vars : TaprioVars) (numTc queueOffsets : Text) : Text :=
  echo ([ "tc qdisc replace dev ".toList ++ iface ++ " parent root handle 100 taprio".toList,
      "num_tc ".toList ++ numTc ++ " map ".toList ++ mapText vars.taprioMap,
      "queues ".toList ++ queueOffsets ++ " ".toList,
      "base-time ".toList ++ vars.base ]
    ++ vars.taprioSched ++ [vars.taprioFlags])

/-- An error is a message before `exit 1`. -/
def setupTaprio (iface : Text) (vars : TaprioVars) (queueOffsets : Text) : Except Text Returned :=
  if unset iface then .error "Error: please specify interface.".toList
  else if mapText vars.taprioMap = [] ∨ vars.taprioSched.headD [] = [] then
    .error "Error: TAPRIO vars not defined".toList
  else
    let numTc := lastClass (mapText vars.taprioMap)
    let queueOffsets := appendQueues queueOffsets numTc
    .ok {
      before := [mqprioBase iface, "sleep 5".toList]
      cmd := taprioCmd iface vars (exprSucc numTc) queueOffsets
      queueOffsets := queueOffsets }

def mqprioCmd (iface : Text) (mqprioMap : List Nat) (numTc queueOffsets : Text) : Text :=
  echo [ "tc qdisc replace dev ".toList ++ iface ++ " parent root handle 100 mqprio".toList,
    " num_tc ".toList ++ numTc ++ " map ".toList ++ mapText mqprioMap
      ++ " queues ".toList ++ queueOffsets,
    " hw 0".toList ]

def setupMqprio (iface : Text) (mqprioMap : List Nat) (queueOffsets : Text) :
    Except Text Returned :=
  if unset iface then .error "Error: please specify interface.".toList
  else if mapText mqprioMap = [] then .error "Error: MQPRIO_MAP not defined".toList
  else
    let numTc := lastClass (mapText mqprioMap)
    let queueOffsets := appendQueues queueOffsets numTc
    .ok {
      before := []
      cmd := mqprioCmd iface mqprioMap (exprSucc numTc) queueOffsets
      queueOffsets := queueOffsets }

/-! ### Calls in one shell -/

inductive Call where
  | setupTaprio (iface : Text) (vars : TaprioVars)
  | setupMqprio (iface : Text) (mqprioMap : List Nat)
deriving DecidableEq, Repr

namespace Call

def run : Call → Text → Except Text Returned
  | setupTaprio iface vars      => Shell.setupTaprio iface vars
  | setupMqprio iface mqprioMap => Shell.setupMqprio iface mqprioMap

def classes : Call → List Nat
  | setupTaprio _ vars      => vars.taprioMap
  | setupMqprio _ mqprioMap => mqprioMap

/-- The command that a call builds around a number of classes and a list of queues. -/
def command : Call → Text → Text → Text
  | setupTaprio iface vars      => taprioCmd iface vars
  | setupMqprio iface mqprioMap => mqprioCmd iface mqprioMap

/-- The variables are there, and the map is not empty. -/
def Accepted : Call → Prop
  | setupTaprio iface vars      =>
    ¬ unset iface ∧ vars.taprioMap ≠ [] ∧ vars.taprioSched.headD [] ≠ []
  | setupMqprio iface mqprioMap => ¬ unset iface ∧ mqprioMap ≠ []

instance : DecidablePred Accepted
  | setupTaprio _ _ => inferInstanceAs (Decidable (_ ∧ _))
  | setupMqprio _ _ => inferInstanceAs (Decidable (_ ∧ _))

end Call

/-- The commands of the calls in a shell. A call that exits is its last. -/
def emitted : Text → List Call → List Text
  | _, []                       => []
  | queueOffsets, call :: calls =>
    match call.run queueOffsets with
    | .ok returned => returned.cmd :: emitted returned.queueOffsets calls
    | .error _     => []

/-- The calls up to the first that exits. -/
def accepted (calls : List Call) : List Call := calls.takeWhile fun call => call.Accepted

/-! ### What the commands should say -/

def largest (classes : List Nat) : Nat := classes.max?.getD 0

/-- `1@0`, `1@1` and so on. -/
def queuesUpTo (last : Nat) : List Text :=
  (List.range (last + 1)).map fun i : Nat => "1@".toList ++ decimal i

/-- The command is, word by word, the one with the right number of classes and the right queues. -/
def Call.Right (call : Call) (cmd : Text) : Prop :=
  words cmd = words (call.command (decimal (largest call.classes + 1 : Nat))
    (spaced (queuesUpTo (largest call.classes))))

/-- Every call that does not exit, in a shell that starts without `QUEUE_OFFSETS`, emits the right
command. -/
def EmitsClasses (calls : List Call) : Prop :=
  (accepted calls).Forall₂ Call.Right (emitted [] calls)

/-- No class is larger than the largest one when zeros are appended to it up to the same length. -/
def SortsLast (classes : List Nat) : Prop :=
  ∀ c ∈ classes, c * 10 ^ (digitCount (largest classes) - digitCount c) ≤ largest classes

instance (classes : List Nat) : Decidable (SortsLast classes) :=
  inferInstanceAs (Decidable (∀ c ∈ classes, _))

/-! ### Words -/

lemma words_mapText (classes : List Nat) :
    words (mapText classes) = classes.map fun c : Nat => decimal c := by
  apply words_spaced_of_isWord
  intro w hw
  obtain ⟨c, -, rfl⟩ := List.mem_map.mp hw
  exact isWord_decimal c

lemma mapText_eq_nil_iff {classes : List Nat} : mapText classes = [] ↔ classes = [] := by
  constructor
  · intro h
    have hwords := words_mapText classes
    rw [h] at hwords
    exact List.map_eq_nil_iff.mp hwords.symm
  · rintro rfl
    rfl

lemma isWord_queue (i : Int) : IsWord ("1@".toList ++ decimal i) := by
  have hi := isWord_decimal i
  constructor
  · exact List.cons_ne_nil _ _
  · intro c hc
    rcases List.mem_append.mp hc with hfront | hdigits
    · have hplain : "1@".toList.all (!isBlank ·) := rfl
      simpa using List.all_eq_true.mp hplain c hfront
    · exact hi.no_blank c hdigits

lemma words_queuesUpTo (last : Nat) : words (spaced (queuesUpTo last)) = queuesUpTo last := by
  apply words_spaced_of_isWord
  intro w hw
  obtain ⟨i, -, rfl⟩ := List.mem_map.mp hw
  exact isWord_queue i

lemma seq_decimal (last : Nat) :
    seq (decimal last) = (List.range (last + 1)).map fun i : Nat => decimal i := by
  rw [seq, awkNumber_decimal]
  rfl

/-- One round of the loop adds a word. -/
lemma words_append_queue (queueOffsets : Text) (i : Int) :
    words (queueOffsets ++ " 1@".toList ++ decimal i) =
      words queueOffsets ++ ["1@".toList ++ decimal i] := by
  have hspace : queueOffsets ++ " 1@".toList ++ decimal i =
      queueOffsets ++ (" ".toList ++ ("1@".toList ++ decimal i)) := by simp
  rw [hspace, words_append_space]
  exact congrArg (words queueOffsets ++ ·) (awkFields_of_isWord (isWord_queue i))

/-- The loop adds the queues to what is there. -/
lemma words_appendQueues (queueOffsets : Text) (last : Nat) :
    words (appendQueues queueOffsets (decimal last)) = words queueOffsets ++ queuesUpTo last := by
  rw [appendQueues, seq_decimal, queuesUpTo]
  induction List.range (last + 1) generalizing queueOffsets with
  | nil => simp
  | cons i rest ih =>
    rw [List.map_cons, List.foldl_cons, ih, words_append_queue, List.map_cons]
    simp

lemma queuesUpTo_ne_nil (last : Nat) : queuesUpTo last ≠ [] := by
  rw [queuesUpTo, List.range_succ, List.map_append]
  exact List.append_ne_nil_of_right_ne_nil _ (List.cons_ne_nil _ _)

/-! ### The largest class -/

lemma largest_spec {classes : List Nat} (h : classes ≠ []) :
    largest classes ∈ classes ∧ ∀ c ∈ classes, c ≤ largest classes := by
  obtain ⟨m, hm⟩ := Option.ne_none_iff_exists'.mp fun hnone => h (List.max?_eq_none_iff.mp hnone)
  rw [largest, hm]
  exact List.max?_eq_some_iff.mp hm

/-- The textual sort ends with one of the classes. -/
lemma exists_lastClass_eq {classes : List Nat} (h : classes ≠ []) :
    ∃ c ∈ classes, lastClass (mapText classes) = decimal c := by
  rw [lastClass, words_mapText]
  have hne : sort (classes.map fun c : Nat => decimal c) ≠ [] := by
    intro hnil
    obtain ⟨c, hc⟩ := List.exists_mem_of_ne_nil _ h
    exact absurd (mem_sort.mpr (List.mem_map_of_mem hc)) (hnil ▸ List.not_mem_nil)
  obtain ⟨c, hc, heq⟩ := List.mem_map.mp (mem_sort.mp (lastLine_mem hne))
  exact ⟨c, hc, heq.symm⟩

lemma lastClass_eq_iff {classes : List Nat} (h : classes ≠ []) :
    lastClass (mapText classes) = decimal (largest classes) ↔ SortsLast classes := by
  obtain ⟨hmem, hle⟩ := largest_spec h
  rw [lastClass, words_mapText, lastLine_sort_eq_iff (List.mem_map_of_mem hmem),
    List.forall_mem_map]
  apply forall₂_congr
  intro c hc
  exact dictLe_toDigits_iff (digitCount_mono (hle c hc))

/-! ### One call -/

/-- The number of classes and the queues stand in the command as they are. -/
lemma exists_words_command (call : Call) : ∃ front middle back, ∀ numTc queueOffsets,
    words (call.command numTc queueOffsets) =
      front ++ (words numTc ++ (middle ++ (words queueOffsets ++ back))) := by
  have hmap : StartsBlank " map ".toList := rfl
  cases call with
  | setupTaprio iface vars =>
    have hnum : EndsBlank "num_tc ".toList := rfl
    have hqueues : EndsBlank "queues ".toList := rfl
    have hend : StartsBlank " ".toList := rfl
    refine ⟨words ("tc qdisc replace dev ".toList ++ iface
        ++ " parent root handle 100 taprio".toList) ++ words "num_tc ".toList,
      words (" map ".toList ++ mapText vars.taprioMap) ++ words "queues ".toList,
      words " ".toList ++ (words ("base-time ".toList ++ vars.base)
        ++ (vars.taprioSched ++ [vars.taprioFlags]).flatMap words), fun numTc queueOffsets => ?_⟩
    rw [Call.command, taprioCmd, echo, words_spaced]
    simp only [List.cons_append, List.nil_append, List.flatMap_cons, List.append_assoc]
    rw [words_append_of_endsBlank hnum, words_append_of_startsBlank hmap,
      words_append_of_endsBlank hqueues, words_append_startsBlank hend]
    simp only [List.append_assoc]
  | setupMqprio iface mqprioMap =>
    have hnum : EndsBlank " num_tc ".toList := rfl
    have hqueues : StartsBlank " queues ".toList := rfl
    have hqueues' : EndsBlank " queues ".toList := rfl
    refine ⟨words ("tc qdisc replace dev ".toList ++ iface
        ++ " parent root handle 100 mqprio".toList) ++ words " num_tc ".toList,
      words (" map ".toList ++ mapText mqprioMap) ++ words " queues ".toList,
      words " hw 0".toList, fun numTc queueOffsets => ?_⟩
    rw [Call.command, mqprioCmd, echo, words_spaced]
    simp only [List.flatMap_cons, List.flatMap_nil, List.append_assoc, List.append_nil]
    rw [words_append_of_endsBlank hnum, words_append_of_startsBlank hmap,
      ← List.append_assoc " map ".toList, words_append_of_startsBlank hqueues,
      words_append_of_endsBlank hqueues']
    simp only [List.append_assoc]

/-- Two commands of one call are the same if they say the same of the classes and the queues. -/
lemma words_command_eq_iff (call : Call) {numTc numTc' : Text} (h : IsWord numTc)
    (h' : IsWord numTc') (queueOffsets queueOffsets' : Text) :
    words (call.command numTc queueOffsets) = words (call.command numTc' queueOffsets') ↔
      numTc = numTc' ∧ words queueOffsets = words queueOffsets' := by
  obtain ⟨front, middle, back, hwords⟩ := exists_words_command call
  have hnum : words numTc = [numTc] := awkFields_of_isWord h
  have hnum' : words numTc' = [numTc'] := awkFields_of_isWord h'
  rw [hwords, hwords, List.append_cancel_left_eq, hnum, hnum', List.singleton_append,
    List.singleton_append, List.cons.injEq, List.append_cancel_left_eq,
    List.append_cancel_right_eq]

/-- A call that does not exit. -/
lemma run_of_accepted {call : Call} (h : call.Accepted) (queueOffsets : Text) :
    ∃ before, call.run queueOffsets = .ok {
      before := before
      cmd := call.command (exprSucc (lastClass (mapText call.classes)))
        (appendQueues queueOffsets (lastClass (mapText call.classes)))
      queueOffsets := appendQueues queueOffsets (lastClass (mapText call.classes)) } := by
  cases call with
  | setupTaprio iface vars =>
    obtain ⟨hiface, hmap, hsched⟩ := h
    have hvars : ¬ (mapText vars.taprioMap = [] ∨ vars.taprioSched.headD [] = []) := by
      rw [mapText_eq_nil_iff, not_or]
      exact ⟨hmap, hsched⟩
    refine ⟨[mqprioBase iface, "sleep 5".toList], ?_⟩
    rw [Call.run, setupTaprio, if_neg hiface, if_neg hvars]
    rfl
  | setupMqprio iface mqprioMap =>
    obtain ⟨hiface, hmap⟩ := h
    refine ⟨[], ?_⟩
    rw [Call.run, setupMqprio, if_neg hiface, if_neg (mt mapText_eq_nil_iff.mp hmap)]
    rfl

lemma run_of_not_accepted {call : Call} (h : ¬ call.Accepted) (queueOffsets : Text) :
    ∃ message, call.run queueOffsets = .error message := by
  cases call with
  | setupTaprio iface vars =>
    rw [Call.run, setupTaprio]
    split_ifs with hiface hvars
    · exact ⟨_, rfl⟩
    · exact ⟨_, rfl⟩
    · rw [mapText_eq_nil_iff, not_or] at hvars
      exact absurd ⟨hiface, hvars⟩ h
  | setupMqprio iface mqprioMap =>
    rw [Call.run, setupMqprio]
    split_ifs with hiface hmap
    · exact ⟨_, rfl⟩
    · exact ⟨_, rfl⟩
    · exact absurd ⟨hiface, mt mapText_eq_nil_iff.mpr hmap⟩ h

lemma Call.Accepted.classes_ne_nil {call : Call} (h : call.Accepted) : call.classes ≠ [] := by
  cases call with
  | setupTaprio iface vars => exact h.2.1
  | setupMqprio iface mqprioMap => exact h.2

/-- The command of a call is right if the textual sort finds the largest class and the list of
queues was empty. -/
lemma right_iff {call : Call} (h : call.Accepted) (queueOffsets : Text) :
    call.Right (call.command (exprSucc (lastClass (mapText call.classes)))
        (appendQueues queueOffsets (lastClass (mapText call.classes)))) ↔
      words queueOffsets = [] ∧ SortsLast call.classes := by
  have hne := h.classes_ne_nil
  obtain ⟨c, -, hlast⟩ := exists_lastClass_eq hne
  rw [← lastClass_eq_iff hne, Call.Right, hlast, exprSucc, awkNumber_decimal,
    words_command_eq_iff call (isWord_decimal _) (isWord_decimal _), words_appendQueues,
    words_queuesUpTo]
  constructor
  · rintro ⟨hnum, hqueues⟩
    have hc : c = largest call.classes := by
      have hsucc := decimal_injective hnum
      omega
    rw [hc] at hqueues
    exact ⟨List.append_left_eq_self.mp hqueues, congrArg _ (congrArg _ hc)⟩
  · rintro ⟨hnil, hc⟩
    have hc : c = largest call.classes := Int.ofNat.inj (decimal_injective hc)
    rw [hnil, hc]
    exact ⟨rfl, rfl⟩

/-! ### Runs of calls -/

lemma accepted_cons_of_pos {call : Call} (h : call.Accepted) (calls : List Call) :
    accepted (call :: calls) = call :: accepted calls :=
  List.takeWhile_cons_of_pos (decide_eq_true h)

lemma accepted_and_emitted_eq_nil {call : Call} (h : ¬ call.Accepted) (queueOffsets : Text)
    (calls : List Call) :
    accepted (call :: calls) = [] ∧ emitted queueOffsets (call :: calls) = [] := by
  obtain ⟨message, hrun⟩ := run_of_not_accepted h queueOffsets
  constructor
  · exact List.takeWhile_cons_of_neg (by simpa using h)
  · rw [emitted, hrun]

/-- What a call needs, and what it leaves to the next ones. -/
lemma forall₂_right_cons_iff {call : Call} (h : call.Accepted) (queueOffsets : Text)
    (calls : List Call) :
    (accepted (call :: calls)).Forall₂ Call.Right (emitted queueOffsets (call :: calls)) ↔
      (words queueOffsets = [] ∧ SortsLast call.classes) ∧
        (accepted calls).Forall₂ Call.Right
          (emitted (appendQueues queueOffsets (lastClass (mapText call.classes))) calls) := by
  obtain ⟨before, hrun⟩ := run_of_accepted h queueOffsets
  rw [accepted_cons_of_pos h, emitted, hrun, List.forall₂_cons, right_iff h]

/-- A call after another one finds the queues of the other in the list. -/
lemma forall₂_right_iff_of_ne_nil {queueOffsets : Text} (h : words queueOffsets ≠ [])
    (calls : List Call) :
    (accepted calls).Forall₂ Call.Right (emitted queueOffsets calls) ↔ accepted calls = [] := by
  cases calls with
  | nil => exact iff_of_true .nil rfl
  | cons call calls =>
    by_cases hcall : call.Accepted
    · rw [forall₂_right_cons_iff hcall, accepted_cons_of_pos hcall]
      simp [h]
    · obtain ⟨haccepted, hemitted⟩ := accepted_and_emitted_eq_nil hcall queueOffsets calls
      rw [haccepted, hemitted]
      exact iff_of_true .nil rfl

lemma words_appendQueues_ne_nil {call : Call} (h : call.Accepted) (queueOffsets : Text) :
    words (appendQueues queueOffsets (lastClass (mapText call.classes))) ≠ [] := by
  obtain ⟨c, -, hlast⟩ := exists_lastClass_eq h.classes_ne_nil
  rw [hlast, words_appendQueues]
  exact List.append_ne_nil_of_right_ne_nil _ (queuesUpTo_ne_nil c)

/-- The calls in a shell emit the right commands if and only if at most one of them gets as far as
that, and in its map the largest class stays the largest when zeros are appended to the others up to
its length. -/
theorem emitsClasses_iff (calls : List Call) :
    EmitsClasses calls ↔
      (accepted calls).length ≤ 1 ∧ ∀ call ∈ accepted calls, SortsLast call.classes := by
  rw [EmitsClasses]
  cases calls with
  | nil => exact iff_of_true .nil (by simp [accepted])
  | cons call calls =>
    by_cases hcall : call.Accepted
    · rw [forall₂_right_cons_iff hcall,
        forall₂_right_iff_of_ne_nil (words_appendQueues_ne_nil hcall []),
        accepted_cons_of_pos hcall]
      constructor
      · rintro ⟨⟨-, hsorts⟩, hrest⟩
        rw [hrest]
        exact ⟨le_rfl, by simpa using hsorts⟩
      · rintro ⟨hlength, hsorts⟩
        have hrest := List.eq_nil_of_length_eq_zero
          (Nat.le_zero.mp (Nat.le_of_succ_le_succ hlength))
        exact ⟨⟨rfl, hsorts call List.mem_cons_self⟩, hrest⟩
    · obtain ⟨haccepted, hemitted⟩ := accepted_and_emitted_eq_nil hcall [] calls
      rw [haccepted, hemitted]
      exact iff_of_true .nil ⟨Nat.zero_le 1, by simp⟩

/-- The map `2 10`, and two calls for the map `0`. -/
theorem not_emitsClasses :
    ¬ EmitsClasses [.setupMqprio "eth0".toList [2, 10]] ∧
      ¬ EmitsClasses [.setupMqprio "eth0".toList [0], .setupMqprio "eth0".toList [0]] := by
  have hten : (Call.setupMqprio "eth0".toList [2, 10]).Accepted := by decide
  have hzero : (Call.setupMqprio "eth0".toList [0]).Accepted := by decide
  constructor
  · rw [EmitsClasses, forall₂_right_cons_iff hten]
    rintro ⟨⟨-, hsorts⟩, -⟩
    exact absurd hsorts (by decide)
  · rw [EmitsClasses, forall₂_right_cons_iff hzero,
      forall₂_right_iff_of_ne_nil (words_appendQueues_ne_nil hzero []), accepted_cons_of_pos hzero]
    rintro ⟨-, ⟨⟩⟩

end Shell

end TsnRefSw
