import TsnRefSw.GenSetup.Script

/-!
# A whole run

`main()` opens `setup-generated.sh` before anything is known of the configuration, goes through all
sections, and leaves the file to `opcua-run.sh`.
-/

namespace TsnRefSw

open Core

namespace GenSetup

section Sections

variable {F : Type} [Runtime F]

/-- `' '.join()`. -/
def join (words : List (Value F)) : Except Failure Text := do
  let texts ← words.mapM fun
    | .string s => Except.ok s
    | _         => .error .typeError
  return List.intercalate " " texts

/-- `run_with_out()`. -/
def runWithOut (cmd : List (Value F)) (outfile : Text) : Gen Unit := do
  let line ← Emit.lift (join (cmd ++ [.string "&>", .string outfile, .string "&\n"]))
  Emit.tell (.runAsync line)

/-- `ensure_keys_exist()` for one of the keys. -/
def ensureKeyExists (name mapd : Value F) (k : String) : Gen Unit := do
  if !(← Emit.lift (mapd.contains k)) then
    Emit.lift (.error (.exit 2 ("Key " ++ k.toList ++ " does not exist in " ++ name.str)))

/-- `ensure_keys_exist()`. -/
def ensureKeysExist (name mapd : Value F) (keys : List String) : Gen Unit :=
  keys.forM (ensureKeyExists name mapd)

/-- `obj.get(key, default)`. -/
def getOr (obj : Value F) (key : String) (default : Value F) : Gen (Value F) := do
  return (← Emit.lift (obj.get key)).getD default

/-! ### Flow types -/

def deleteFlowtypeFilter (iface : Value F) : Gen Unit :=
  [60, 61, 62, 63].forM fun ruleId : Nat => do
    shRun ("ethtool -N " ++ iface.str ++ " "
      ++ "delete " ++ decimal ruleId ++ " "
      ++ "2> /dev/null")
    shRun "sleep 1"

def setFlowtypeEtherProto (iface config : Value F) : Gen Unit := do
  if !(← Emit.lift (config.contains "proto")) then
    errExit "Proto not defined in flow type filter config"
  if !(← Emit.lift (config.contains "rx_queue")) then
    errExit "Queue not defined in flow type filter config"
  let proto ← Emit.lift (config.getItem "proto")
  let rxQueue ← Emit.lift (config.getItem "rx_queue")
  shRun ("ethtool -N " ++ iface.str ++ " " ++ "flow-type ether proto " ++ proto.str ++ " "
    ++ "queue " ++ rxQueue.str ++ " ")
  shRun "sleep 1"

def processEthFlowtypeEtherProto (data : Value F) : Gen Unit := do
  if (← Emit.lift data.len) = 0 then return
  if !(← Emit.lift (data.contains "interface")) then
    errExit "Interface not found in eth flowtype ether proto config"
  let interface ← getOr data "interface" .none
  deleteFlowtypeFilter interface
  withKey data "ether_proto" (forEach (setFlowtypeEtherProto interface))

/-! ### Synchronization -/

/-- The command of `pmc`. -/
def pmcArgs (currentUtcOffset currentUtcOffsetValid : Text) : List (Value F) :=
  [.string "pmc", .string "-u", .string "-b", .string "0", .string "-t", .string "1", .string "\"",
    .string ("SET GRANDMASTER_SETTINGS_NP clockClass 248"
      ++ " clockAccuracy 0xfe offsetScaledLogVariance 0xffff currentUtcOffset " ++ currentUtcOffset
      ++ " leap61 0 leap59 0 currentUtcOffsetValid " ++ currentUtcOffsetValid
      ++ " ptpTimescale 1 timeTraceable 1 frequencyTraceable 0 timeSource 0xa0"),
    .string "\""]

/-- The command of `ptp4l`. -/
def ptp4lArgs (affinity : Text) (iface : Value F) (gptpFilepath socketPrio : Text) :
    List (Value F) :=
  [.string "taskset", .string "-c", .string affinity, .string "ptp4l", .string "-mP2Hi", iface,
    .string "--step_threshold=2", .string "-f", .string gptpFilepath,
    .string "--socket_priority", .string socketPrio]

/-- The command of `phc2sys` for an interface. -/
def phc2sysArgs (affinity : Text) (iface : Value F) : List (Value F) :=
  [.string "taskset", .string "-c", .string affinity, .string "phc2sys", .string "-c",
    .string "CLOCK_REALTIME", .string "--step_threshold=1", .string "-s", iface,
    .string "--transportSpecific=1", .string "-O", .string "0", .string "-w", .string "-ml",
    .string "7"]

def processPtp (obj : Value F) : Gen Unit := do
  ensureKeysExist (.string "ptp") obj ["interface"]
  let iface ← getOr obj "interface" .none
  let ignoreExisting ← getOr obj "ignore_existing" (.bool false)
  let socketPrio ← getOr obj "socket_prio" (.int 2)
  let gptpFile ← getOr obj "gPTP_file" (.string "gPTP.cfg")
  let ptpCpuAffinity ← getOr obj "ptp_cpu_affinity" .none
  if !ignoreExisting.truth then return
  shRun "pkill ptp4l"
  runWithOut (ptp4lArgs ptpCpuAffinity.str iface ("common/" ++ gptpFile.str) socketPrio.str)
    "/var/log/ptp4l.log"
  shRun "sleep 30"

def processPhc2sys (obj : Value F) : Gen Unit := do
  ensureKeysExist (.string "phc2sys") obj ["clock", "interface"]
  let _clock ← getOr obj "clock" .none
  let iface ← getOr obj "interface" .none
  let ignoreExisting ← getOr obj "ignore_existing" (.bool false)
  let ptpCpuAffinity ← getOr obj "ptp_cpu_affinity" .none
  if !ignoreExisting.truth then return
  shRun "pkill phc2sys"
  shRun "sleep 2"
  runWithOut (pmcArgs "37" "0" : List (Value F)) "/var/log/pmc.log"
  shRun "sleep 30"
  runWithOut (phc2sysArgs ptpCpuAffinity.str iface) "/var/log/phc2sys.log"

/-- `process_custom_a()`. The keys are looked for in the name of the second interface. `main()`
assigns to a variable of its own, so `IS_DRY` is false. -/
def processCustomA (obj : Value F) : Gen Unit := do
  ensureKeysExist obj (.string "interface2") ["interface"]
  let iface ← getOr obj "interface" .none
  let iface2 ← getOr obj "interface2" .none
  let ignoreExisting ← getOr obj "ignore_existing" (.bool false)
  let socketPrio ← getOr obj "socket_prio" (.int 1)
  let gptpFile ← getOr obj "gPTP_file" (.string "gPTP.cfg")
  if !ignoreExisting.truth then return
  shRun "pkill phc2sys"
  shRun "pkill ptp4l"
  runWithOut (ptp4lArgs "1" iface ("common/" ++ gptpFile.str) socketPrio.str) "/var/log/ptp4l.log"
  runWithOut (ptp4lArgs "1" iface2 ("common/" ++ gptpFile.str) socketPrio.str)
    "/var/log/ptp4l2.log"
  shRun "sleep 30"
  runWithOut (pmcArgs "37" "0" : List (Value F)) "/var/log/pmc.log"
  runWithOut (phc2sysArgs "1" iface) "/var/log/phc2sys.log"

/-- `process_custom_b()`, with both interfaces in one command and the file in `common`. -/
def processCustomB (obj : Value F) : Gen Unit := do
  ensureKeysExist obj (.string "interface2") ["interface"]
  let iface ← getOr obj "interface" .none
  let iface2 ← getOr obj "interface2" .none
  let ignoreExisting ← getOr obj "ignore_existing" (.bool false)
  let socketPrio ← getOr obj "socket_prio" (.int 1)
  let _gptpFile ← getOr obj "gPTP_file" (.string "gPTP.cfg")
  if !ignoreExisting.truth then return
  shRun "pkill phc2sys"
  shRun "pkill ptp4l"
  runWithOut [.string "taskset", .string "-c", .string "1", .string "ptp4l", .string "-mP2Hi",
    iface, .string "-i", iface2, .string "-f", .string "common/gPTP.cfg",
    .string "--step_threshold=2", .string "--socket_priority", .string socketPrio.str,
    .string "--boundary_clock_jbod=1"] "/var/log/ptp4l.log"
  shRun "sleep 30"
  runWithOut (pmcArgs "0" "1" : List (Value F)) "/var/log/pmc.log"
  runWithOut ([.string "taskset", .string "-c", .string "1", .string "phc2sys", .string "-arrml",
    .string "7", .string "-f", .string "common/gPTP.cfg"] : List (Value F)) "/var/log/phc2sys.log"

/-! ### Iperf -/

def processIperf3 (obj : Value F) : Gen Unit := do
  shRun "pkill iperf3"
  let runServer ← getOr obj "run_server" (.bool false)
  let clientTargetAdd ← getOr obj "client_target_address" .none
  let cpuAff ← getOr obj "iperf_cpu_affinity" (.int 3)
  let clientRuntime ← getOr obj "client_runtime_in_sec" (.int 5000)
  let clientBw ← getOr obj "client_bandwidth_in_mbps" (.int 1)
  if runServer.truth then
    shRun ("iperf3 -s -D --affinity " ++ cpuAff.str ++ " &")
  if clientTargetAdd.str != [] then
    Emit.tell (.iperf3 ("iperf3 -c " ++ clientTargetAdd.str ++ " --affinity " ++ cpuAff.str
      ++ " -u -t " ++ clientRuntime.str ++ " --logfile " ++ "/var/log/iperf3_client.log"
      ++ " -b " ++ clientBw.str ++ "M "))

/-! ### The files -/

/-- What is found under the path of the configuration. -/
inductive ConfigFile (F : Type) where
  /-- No file. -/
  | missing
  /-- `read()` or `json.loads()` raises. -/
  | unreadable
  | json (data : Value F)

/-- What `main()` does about all sections but the groups. -/
def generateSections (data : Value F) : Gen Unit := do
  withKey data "ptp" processPtp
  withKey data "phc2sys" processPhc2sys
  withKey data "eth_flowtype_ether_proto" (forEach processEthFlowtypeEtherProto)
  withKey data "custom_sync_a" processCustomA
  withKey data "custom_sync_b" processCustomB
  withKey data "iperf3" processIperf3

/-- A run of `main()` behind `initialize()`. -/
def generate (plat : Text) : ConfigFile F → Gen Unit
  | .missing    => Emit.lift (.error (.exit 1 []))
  | .unreadable => Emit.lift (.error .valueError)
  | .json data  => do
    let tcGroup ← Emit.lift (data.getItem "tc_group")
    forEach (fun eachTc => do
      processTcData (← Emit.lift (eachTc.setItem "plat" (.string plat)))) tcGroup
    generateSections data

end Sections

/-- The generated files. -/
structure Disk where
  setupGenerated : Option Text
  iperf3GenCmd : Option Text
deriving DecidableEq, Repr

/-- What an operation writes to `setup-generated.sh`. -/
def FileOp.text : FileOp → Text
  | .write t      => t
  | .run cmd      => "echo \"Running " ++ cmd ++ "\"\n" ++ cmd ++ "\n"
  | .runAsync cmd => "echo \"Running (async) " ++ cmd ++ "\"\n" ++ cmd
  | .iperf3 _     => []

def FileOp.apply (d : Disk) : FileOp → Disk
  | .iperf3 cmd => { d with iperf3GenCmd := some cmd }
  | op          => { d with setupGenerated := some (d.setupGenerated.getD [] ++ op.text) }

/-- `initialize()`: what was in the file is gone. -/
def initializeGenfile (d : Disk) : Disk :=
  { d with setupGenerated := some "#!/bin/bash\n".toList }

/-- `main()`. What was written is in the file however the run ends. -/
def main {F : Type} [Runtime F] (plat : Text) (file : ConfigFile F) (d : Disk) :
    Except Failure Unit × Disk :=
  let (result, ops) := (generate plat file).outcome
  (result, ops.foldl FileOp.apply (initializeGenfile d))

/-- The script that the run phase of `opcua-run.sh` executes: whatever is there. -/
def executed (d : Disk) : Option Text := d.setupGenerated

end GenSetup

end TsnRefSw
