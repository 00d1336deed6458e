import TsnRefSw.Core.Emit
import TsnRefSw.GenSetup.Value

/-!
# The traffic control commands

`gen_setup.py` goes through the configuration and appends commands to `setup-generated.sh`. What is
wrong with a configuration shows when its turn comes.
-/

namespace TsnRefSw

open Core

namespace GenSetup

/-! ### The files -/

/-- What is done to the files of the working directory. -/
inductive FileOp where
  /-- `genfile.write()`. -/
  | write (t : Text)
  /-- The two lines that `sh_run()` writes. -/
  | run (cmd : Text)
  /-- What `run_with_out()` writes. -/
  | runAsync (cmd : Text)
  /-- `iperf3-gen-cmd.sh` is written as a whole. -/
  | iperf3 (cmd : Text)
deriving DecidableEq, Repr

abbrev Gen := Emit FileOp Failure

/-- The commands that `sh_run()` was called with. -/
def commands (ops : List FileOp) : List Text :=
  ops.filterMap fun
    | .run cmd => some cmd
    | _        => none

def errExit {α : Type} (msg : Text) : Gen α := Emit.lift (.error (.exit 1 msg))

def shRun (cmd : Text) : Gen Unit := Emit.tell (.run cmd)

section Commands

variable {F : Type} [Runtime F]

/-- `sh_run()` on a value of the configuration: the echo is written before the sum with a newline
fails. -/
def shRunValue : Value F → Gen Unit
  | .string cmd => shRun cmd
  | cmd         => do
    Emit.tell (.write ("echo \"Running " ++ cmd.str ++ "\"\n"))
    Emit.lift (.error .typeError)

def deleteQdiscs (iface : Value F) : Gen Unit := do
  shRun ("tc qdisc del dev " ++ iface.str ++ " parent root 2> /dev/null")
  shRun "sleep 5"

def initIngress (iface : Value F) : Gen Unit := do
  shRun ("tc qdisc del dev " ++ iface.str ++ " parent ffff:")
  shRun ("tc qdisc add dev " ++ iface.str ++ " ingress")

def setVlanrx (iface config : Value F) : Gen Unit := do
  let vlanPriority ← Emit.lift (config.getItem "vlan_priority")
  let rxHwQ ← Emit.lift (config.getItem "rx_hw_q")
  shRun ("tc filter add dev " ++ iface.str ++ " "
    ++ "parent ffff: protocol 802.1Q flower vlan_prio " ++ vlanPriority.str ++ " "
    ++ "hw_tc " ++ rxHwQ.str ++ " ")

/-! ### Schedulers -/

/-- The variables of the loops over the keys. -/
structure QdiscVars (F : Type) where
  numTc : Value F
  queues : Value F
  handle : Value F

def QdiscVars.initial : QdiscVars F := ⟨.int 0, .int 0, .int 0⟩

/-- The loop of `set_mqprio()` on one key. -/
def QdiscVars.assign (vars : QdiscVars F) (each : String × Value F) : QdiscVars F where
  numTc := if each.1 = "num_tc" then each.2 else vars.numTc
  queues := if each.1 = "queues" then each.2 else vars.queues
  handle := if each.1 = "handle" then each.2 else vars.handle

/-- The loop of `set_taprio()` on one key. The delay is assigned to `handle`. -/
def QdiscVars.assignTaprio (vars : QdiscVars F) (each : String × Value F) : QdiscVars F where
  numTc := (vars.assign each).numTc
  queues := (vars.assign each).queues
  handle := if each.1 = "txtime_delay" then each.2 else (vars.assign each).handle

/-- `if not x: exit(1)`. -/
def exitUnless (x : Value F) : Except Failure Unit :=
  if x.truth then .ok () else .error (.exit 1 [])

/-- `maps[priority] = queue`: a negative index counts from the end. -/
def setIndex (maps : List Text) (priority : Int) (queue : Text) : Except Failure (List Text) :=
  if 0 ≤ priority ∧ priority < maps.length then .ok (maps.set priority.toNat queue)
  else if priority < 0 ∧ 0 ≤ priority + maps.length then
    .ok (maps.set (priority + maps.length).toNat queue)
  else .error .indexError

/-- One key of the mapping. -/
def mapKey (maps : List Text) (each : String × Value F) : Except Failure (List Text) :=
  if each.1 = "default" then .ok maps
  else do
    let priority ← parseInt F (each.1.toList.drop 1)
    setIndex maps priority each.2.str

def setMapping (scenarioConfig : Value F) (useMapping : String) : Except Failure Text := do
  let mapping ← (← scenarioConfig.getItem useMapping).getItem "mapping"
  let default ← mapping.getItem "default"
  let maps ← (← mapping.items).foldlM mapKey (List.replicate 16 default.str)
  return List.intercalate " " maps

def schedEntry (schedules : Text) (each : Value F) : Except Failure Text := do
  let gateMask ← each.getItem "gate_mask"
  let duration ← each.getItem "duration"
  return schedules ++ ("sched-entry S " ++ gateMask.str ++ " " ++ duration.str ++ " ")

/-- The final `taprio` command; `txtime_delay` is what it was initialized with. -/
def taprioCmd (iface handle numTc maps queues basetime schedules : Text) (txtime : Bool) : Text :=
  "tc -d qdisc replace dev " ++ iface ++ " "
    ++ "parent root handle " ++ handle ++ " "
    ++ "taprio num_tc " ++ numTc ++ " map " ++ maps ++ " "
    ++ "queues " ++ queues ++ " base-time " ++ basetime ++ " "
    ++ schedules ++ " "
    ++ if txtime then " flags 0x2 txtime-delay 0 clockid CLOCK_TAI" else " flags 0x2"

/-- `set_taprio()`, up to the command it runs. -/
def setTaprio (iface : Value F) (maps : Text) (config : Value F) (basetime : Text) :
    Except Failure Text := do
  let schedule ← (← config.getItem "schedule").iter
  let schedules ← schedule.foldlM schedEntry []
  let vars := (← config.items).foldl QdiscVars.assignTaprio .initial
  exitUnless vars.numTc
  exitUnless vars.queues
  exitUnless vars.handle
  let txtimeDelay ← config.get "txtime_delay"
  return taprioCmd iface.str vars.handle.str vars.numTc.str maps vars.queues.str basetime schedules
    (txtimeDelay.any Value.truth)

/-- `set_mqprio()`, up to the command it runs. -/
def setMqprio (iface : Value F) (maps : Text) (config : Value F) : Except Failure Text := do
  let vars := (← config.items).foldl QdiscVars.assign .initial
  exitUnless vars.numTc
  exitUnless vars.queues
  exitUnless vars.handle
  return "tc qdisc add dev " ++ iface.str ++ " "
    ++ "parent root handle " ++ vars.handle.str ++ " "
    ++ "mqprio num_tc " ++ vars.numTc.str ++ " "
    ++ "map " ++ maps ++ " queues " ++ vars.queues.str ++ " hw 0"

/-- The base time: the i225 does not support one in the future. -/
def baseTime (plat : Value F) : Text :=
  if plat.isString "i225" then "$(date +%s%N)" else "$(expr $(date +%s) + 5)000000000"

/-- What `process_tc_data()` does about `taprio`, up to the command that is run. -/
def taprioCommand (interface data : Value F) : Except Failure Text := do
  let maps ← setMapping data "taprio"
  let _timeElapsed ← (← data.getItem "taprio").getItem "time_elapsed"
  let plat ← data.getItem "plat"
  setTaprio interface maps (← data.getItem "taprio") (baseTime plat)

/-- What `process_tc_data()` does about `mqprio`, up to the command that is run. -/
def mqprioCommand (interface data : Value F) : Except Failure Text := do
  let maps ← setMapping data "mqprio"
  setMqprio interface maps (← data.getItem "mqprio")

/-! ### Shapers -/

/-- The variables of `set_etf()`, turned off by default. -/
structure EtfVars (F : Type) where
  deadlineMode : Value F
  offload : Value F
  skipsockMode : Value F

def EtfVars.initial : EtfVars F := ⟨.bool false, .bool false, .bool false⟩

/-- The loop of `set_etf()` on one key. -/
def EtfVars.assign (vars : EtfVars F) (each : String × Value F) : EtfVars F where
  deadlineMode := if each.1 = "deadline_mode" then each.2 else vars.deadlineMode
  offload := if each.1 = "offload" then each.2 else vars.offload
  skipsockMode := if each.1 = "skipsock" then each.2 else vars.skipsockMode

/-- The command that finds the parent of the queue. -/
def handleIdCmd (iface : Value F) : Text :=
  "HANDLE_ID=\"$(tc qdisc show dev " ++ iface.str
    ++ " | tr -d ':' | awk 'NR==1\x7bprint $3\x7d')\""

/-- The `etf` command. Both of the last two options depend on `deadline_mode`. -/
def etfCmd (iface clkid delta queue : Text) (offload deadlineMode : Bool) : Text :=
  "tc qdisc replace dev " ++ iface ++ " parent $HANDLE_ID:" ++ queue ++ " etf "
    ++ " clockid " ++ clkid
    ++ " delta " ++ delta
    ++ (if offload then " offload" else "")
    ++ (if deadlineMode then " deadline_mode" else "")
    ++ (if deadlineMode then " skip_sock_check" else "")

def setEtf (iface : Value F) (clkid : Text) (config : Value F) : Gen Unit := do
  let delta ← Emit.lift (config.getItem "delta")
  let queue ← Emit.lift (config.getItem "queue" >>= Value.addOne)
  shRun (handleIdCmd iface)
  let vars := (← Emit.lift config.items).foldl EtfVars.assign .initial
  shRun (etfCmd iface.str clkid delta.str queue.str vars.offload.isTrue vars.deadlineMode.isTrue)

/-- The `cbs` command. -/
def cbsCmd (iface handle parent queue idleslope sendslope hicredit locredit offload : Text) :
    Text :=
  "tc qdisc replace dev " ++ iface ++ " "
    ++ "handle " ++ handle ++ " parent " ++ parent ++ ":" ++ queue ++ " "
    ++ "cbs idleslope " ++ idleslope ++ " sendslope " ++ sendslope ++ " "
    ++ "hicredit " ++ hicredit ++ " locredit " ++ locredit ++ " "
    ++ "offload " ++ offload ++ " "

/-- `set_cbs()`, where `hicredit` is assigned from `locredit`. -/
def setCbs (iface scenarioConfig : Value F) : Gen Unit := do
  let handle ← Emit.lift (scenarioConfig.getItem "handle")
  let parent ← Emit.lift (scenarioConfig.getItem "parent")
  let queue ← Emit.lift (scenarioConfig.getItem "queue" >>= Value.addOne)
  let sendslope ← Emit.lift (scenarioConfig.getItem "sendslope")
  let idleslope ← Emit.lift (scenarioConfig.getItem "idleslope")
  let hicredit ← Emit.lift (scenarioConfig.getItem "locredit")
  let locredit ← Emit.lift (scenarioConfig.getItem "locredit")
  let offload ← Emit.lift (scenarioConfig.getItem "offload")
  shRun (cbsCmd iface.str handle.str parent.str queue.str idleslope.str sendslope.str hicredit.str
    locredit.str offload.str)
  shRun "sleep 5"

/-! ### All of it -/

/-- `if key in data: f(data[key])`. -/
def withKey (data : Value F) (key : String) (f : Value F → Gen Unit) : Gen Unit := do
  if ← Emit.lift (data.contains key) then
    f (← Emit.lift (data.getItem key))

/-- `for each in data: f(each)`. -/
def forEach (f : Value F → Gen Unit) (data : Value F) : Gen Unit := do
  (← Emit.lift data.iter).forM f

def processTcData (data : Value F) : Gen Unit := do
  if (← Emit.lift data.len) = 0 then return
  if !(← Emit.lift (data.contains "interface")) then
    errExit "Interface not found in tc config"
  let interface := (← Emit.lift (data.get "interface")).getD .none
  deleteQdiscs interface
  if ← Emit.lift (data.contains "taprio") then
    shRun (← Emit.lift (taprioCommand interface data))
  else if ← Emit.lift (data.contains "mqprio") then
    shRun (← Emit.lift (mqprioCommand interface data))
  withKey data "cbs" (setCbs interface)
  withKey data "etf" (forEach (setEtf interface "CLOCK_TAI"))
  if ← Emit.lift (data.contains "vlanrx") then
    initIngress interface
    forEach (setVlanrx interface) (← Emit.lift (data.getItem "vlanrx"))
  withKey data "run_sh" (forEach shRunValue)

end Commands

end GenSetup

end TsnRefSw
