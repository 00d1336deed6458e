import TsnRefSw.Opcua.DataSource

/-!
# The configuration of the OPC UA server

`parseJson()` reads the configuration from a JSON object and checks every number against its
bounds. What it hands on carries the bounds with it, so that nothing behind the parser has to
ask for them again.
-/

namespace TsnRefSw

namespace Opcua

/-! ### JSON values -/

/-- A value as json-c holds it. -/
inductive Json where
  | null
  | bool (b : Bool)
  | int (n : Int64)
  | string (s : String)
  /-- The entries in the order of the file. -/
  | object (entries : List (String × Json))
  /-- A number with a fraction, or an array. -/
  | other

inductive ParseError where
  /-- `Key '%s' not found in object '%s'. Exiting.` -/
  | notFound (key : String)
  /-- `Key '%s' in object '%s' has invalid type. Exiting.` -/
  | invalidType (key : String)
  /-- The entries of something that is no object are asked for. -/
  | noObject
  /-- The message of a `catch_err()`. -/
  | failed (message : String)
deriving DecidableEq, Repr

namespace Json

/-- `json_object_object_get_ex()`. -/
def get? (parent : Json) (key : String) : Option Json :=
  match parent with
  | .object entries => entries.lookup key
  | _               => none

/-- `json_object_get_int()`: a number that does not fit is replaced by the nearest that does. -/
def toInt32 (n : Int64) : Int := max (-2 ^ 31) (min (2 ^ 31 - 1) n.toInt)

def getValue (parent : Json) (key : String) : Except ParseError Json :=
  match parent.get? key with
  | some v => .ok v
  | none   => .error (.notFound key)

def getString (parent : Json) (key : String) : Except ParseError String :=
  match parent.get? key with
  | some (.string s) => .ok s
  | some _           => .error (.invalidType key)
  | none             => .error (.notFound key)

def getBool (parent : Json) (key : String) : Except ParseError Bool :=
  match parent.get? key with
  | some (.bool b) => .ok b
  | some _         => .error (.invalidType key)
  | none           => .error (.notFound key)

def getInt64 (parent : Json) (key : String) : Except ParseError Int :=
  match parent.get? key with
  | some (.int n) => .ok n.toInt
  | some _        => .error (.invalidType key)
  | none          => .error (.notFound key)

def getInt (parent : Json) (key : String) : Except ParseError Int :=
  match parent.get? key with
  | some (.int n) => .ok (toInt32 n)
  | some _        => .error (.invalidType key)
  | none          => .error (.notFound key)

/-- The values `json_object_object_foreachC()` goes through. -/
def children : Json → Except ParseError (List Json)
  | .object entries => .ok (entries.map (·.2))
  | _               => .error .noObject

end Json

/-! ### Numbers with bounds -/

/-- A number that was checked against its bounds. -/
abbrev Bounded (lo hi : Int) := {n : Int // lo ≤ n ∧ n ≤ hi}

/-- `catch_err(n < lo || n > hi, message)`. -/
def bounded (message : String) (lo hi : Int) (n : Int) : Except ParseError (Bounded lo hi) :=
  if h : lo ≤ n ∧ n ≤ hi then .ok ⟨n, h⟩ else .error (.failed message)

def pktCountMax : Int := 10000000
def cycletimeNsMax : Int := 5000000
def datasetWriterMax : Int := 99999
def writerGroupMax : Int := 99999
def hundredUsecNsec : Int := 100000
def oneMsecNsec : Int := 1000000
def tenMsecNsec : Int := 10000000
def fiveDigitMax : Int := 99999

/-- `INT32_MAX`, above which `getInt()` returns nothing. -/
def int32Max : Int := 2 ^ 31 - 1

/-- A queue of the network card where AF_XDP is used, and -1 where it is not. -/
abbrev XdpQueue (useXDP : Bool) := {q : Int // if useXDP then 0 ≤ q ∧ q ≤ 3 else q = -1}

/-! ### The configuration -/

/-- `struct PublisherData`, as far as it comes from the file. -/
structure PublisherData (useXDP : Bool) where
  socketPriority : Bounded 0 7
  xdpQueue : XdpQueue useXDP
  earlyOffsetNs : Bounded 0 oneMsecNsec
  publishOffsetNs : Bounded 0 tenMsecNsec
  publishDelaySec : Bounded 0 int32Max
  url : String
  id : Bounded 0 fiveDigitMax
  dataSetWriterId : Bounded 0 datasetWriterMax
  writerGroupId : Bounded 0 writerGroupMax
  twoWayData : Bool
  cpuAffinity : Bounded 0 3

/-- `struct SubscriberData`, as far as it comes from the file. -/
structure SubscriberData (useXDP : Bool) where
  xdpQueue : XdpQueue useXDP
  offsetNs : Bounded 0 tenMsecNsec
  url : String
  id : Bounded 0 fiveDigitMax
  subscribedPubId : Bounded 0 fiveDigitMax
  subscribedDSWriterId : Bounded 0 fiveDigitMax
  subscribedWGId : Bounded 0 fiveDigitMax
  subscriberOutputFileName : String
  twoWayData : Bool
  cpuAffinity : Bounded 0 3

/-- `struct ServerData`, as far as it comes from the file. -/
structure ServerData where
  pubInterface : String
  subInterface : String
  cycleTimeNs : Bounded hundredUsecNsec cycletimeNsMax
  pollingDurationNs : Bounded 0 tenMsecNsec
  useXDP : Bool
  useXDPZC : Bool
  useXDPSKB : Bool
  packetCount : Bounded 1 pktCountMax
  pubData : List (PublisherData useXDP)
  subData : List (SubscriberData useXDP)

/-- `g_sData->packetCount`, as the callbacks read it. -/
def ServerData.count (sdata : ServerData) : PacketCount where
  val := UInt64.ofNat sdata.packetCount.1.toNat
  ge := by
    have := sdata.packetCount.2
    unfold pktCountMax at this
    rw [UInt64.le_iff_toNat_le, UInt64.toNat_ofNat', Nat.mod_eq_of_lt (by omega)]
    show 1 ≤ sdata.packetCount.1.toNat
    omega
  le := by
    have := sdata.packetCount.2
    unfold pktCountMax at this
    rw [UInt64.le_iff_toNat_le, UInt64.toNat_ofNat', Nat.mod_eq_of_lt (by omega)]
    show sdata.packetCount.1.toNat ≤ 10000000
    omega

/-! ### The parser -/

/-- The queue, which is asked for where AF_XDP is used. -/
def parseXdpQueue (json : Json) : (useXDP : Bool) → Except ParseError (XdpQueue useXDP)
  | true  => do bounded "Invalid xdp_queue" 0 3 (← json.getInt "xdp_queue")
  | false => .ok ⟨-1, rfl⟩

/-- The body of the loop over the publishers. -/
def parsePublisher (useXDP : Bool) (pubJson : Json) : Except ParseError (PublisherData useXDP) := do
  let earlyOffsetNs ← bounded "Invalid early_offset_ns" _ _ (← pubJson.getInt "early_offset_ns")
  let publishOffsetNs ←
    bounded "Invalid publish_offset_ns" _ _ (← pubJson.getInt "publish_offset_ns")
  let publishDelaySec ←
    bounded "Invalid publish_delay_sec" _ _ (← pubJson.getInt "publish_delay_sec")
  let socketPriority ← bounded "Invalid socket_prio" _ _ (← pubJson.getInt "socket_prio")
  let xdpQueue ← parseXdpQueue pubJson useXDP
  let url ← pubJson.getString "url"
  let id ← bounded "Invalid pub_id" _ _ (← pubJson.getInt "pub_id")
  let dataSetWriterId ←
    bounded "Invalid dataset_writer_id" _ _ (← pubJson.getInt "dataset_writer_id")
  let writerGroupId ← bounded "Invalid writerGroupId" _ _ (← pubJson.getInt "writer_group_id")
  let twoWayData ← pubJson.getBool "two_way_data"
  let cpuAffinity ←
    bounded "Invalid iperf_cpu_affinity" _ _ (← pubJson.getInt "iperf_cpu_affinity")
  return ⟨socketPriority, xdpQueue, earlyOffsetNs, publishOffsetNs, publishDelaySec, url, id,
    dataSetWriterId, writerGroupId, twoWayData, cpuAffinity⟩

/-- The body of the loop over the subscribers; `fopen` says which files can be written. -/
def parseSubscriber (fopen : String → Bool) (useXDP : Bool) (subJson : Json) :
    Except ParseError (SubscriberData useXDP) := do
  let offsetNs ← bounded "Invalid offset_ns" _ _ (← subJson.getInt "offset_ns")
  let xdpQueue ← parseXdpQueue subJson useXDP
  let url ← subJson.getString "url"
  let id ← bounded "Invalid sub_id" _ _ (← subJson.getInt "sub_id")
  let subscribedPubId ←
    bounded "Invalid subscribed_pub_id" _ _ (← subJson.getInt "subscribed_pub_id")
  let subscribedDSWriterId ← bounded "Invalid subscribed_dataset_writer_id" _ _
    (← subJson.getInt "subscribed_dataset_writer_id")
  let subscribedWGId ← bounded "Invalid subscribed_writer_group_id" _ _
    (← subJson.getInt "subscribed_writer_group_id")
  let twoWayData ← subJson.getBool "two_way_data"
  let cpuAffinity ←
    bounded "Invalid iperf_cpu_affinity" _ _ (← subJson.getInt "iperf_cpu_affinity")
  let subscriberOutputFileName ← subJson.getString "subscriber_output_file"
  if fopen subscriberOutputFileName then
    return ⟨xdpQueue, offsetNs, url, id, subscribedPubId, subscribedDSWriterId, subscribedWGId,
      subscriberOutputFileName, twoWayData, cpuAffinity⟩
  else throw (.failed "Error in opening output file")

def parseJson (fopen : String → Bool) (json : Json) : Except ParseError ServerData := do
  let pubInterface ← json.getString "publisher_interface"
  let subInterface ← json.getString "subscriber_interface"
  let useXDP ← json.getBool "use_xdp"
  let useXDPZC ← if useXDP then json.getBool "use_xdp_zc" else pure false
  let useXDPSKB ← if useXDP then json.getBool "use_xdp_skb" else pure false
  let pollingDurationNs ←
    bounded "Invalid polling_duration_ns" _ _ (← json.getInt "polling_duration_ns")
  let packetCount ← bounded "Invalid packet_count" _ _ (← json.getInt64 "packet_count")
  let cycleTimeNs ← bounded "Invalid cycle_time_ns" _ _ (← json.getInt64 "cycle_time_ns")
  let pubs ← (← json.getValue "publishers").children
  let subs ← (← json.getValue "subscribers").children
  let pubData ← pubs.mapM (parsePublisher useXDP)
  let subData ← subs.mapM (parseSubscriber fopen useXDP)
  return ⟨pubInterface, subInterface, cycleTimeNs, pollingDurationNs, useXDP, useXDPZC, useXDPSKB,
    packetCount, pubData, subData⟩

/-! ### Configuration files -/

namespace Json

/-- An entry of `publishers`. -/
def publisher (xdpQueue pubId publishDelaySec : Int64) (twoWayData : Bool) : Json :=
  .object [
    ("url", .string "opc.eth://22-bb-22-bb-22-bb:3.3"), ("pub_id", .int pubId),
    ("dataset_writer_id", .int 62541), ("writer_group_id", .int 101),
    ("early_offset_ns", .int 700000), ("publish_offset_ns", .int 900000),
    ("publish_delay_sec", .int publishDelaySec), ("socket_prio", .int 3),
    ("two_way_data", .bool twoWayData), ("iperf_cpu_affinity", .int 3),
    ("xdp_queue", .int xdpQueue)]

/-- An entry of `subscribers`. -/
def subscriber (xdpQueue subscribedPubId : Int64) (twoWayData : Bool) : Json :=
  .object [
    ("url", .string "opc.eth://22-bb-22-bb-22-bb"), ("sub_id", .int 0),
    ("subscribed_pub_id", .int subscribedPubId), ("subscribed_dataset_writer_id", .int 62541),
    ("subscribed_writer_group_id", .int 101), ("offset_ns", .int 1000),
    ("subscriber_output_file", .string "afpkt-rxtstamps.txt"), ("two_way_data", .bool twoWayData),
    ("iperf_cpu_affinity", .int 3), ("xdp_queue", .int xdpQueue)]

/-- The object `opcua_server` of a configuration file. -/
def opcuaServer (useXDP : Bool) (cycleTimeNs : Int64) (publishers subscribers : List Json) : Json :=
  .object [
    ("publisher_interface", .string "eth0"), ("subscriber_interface", .string "eth0"),
    ("use_xdp", .bool useXDP), ("use_xdp_skb", .bool false), ("use_xdp_zc", .bool false),
    ("packet_count", .int 1000000), ("cycle_time_ns", .int cycleTimeNs),
    ("polling_duration_ns", .int 0),
    ("publishers", .object (publishers.map ("pub", ·))),
    ("subscribers", .object (subscribers.map ("sub", ·)))]

end Json

end Opcua

end TsnRefSw
