import TsnRefSw.Opcua.Configuration

/-!
# Setting up the server

`setupOpcuaServer()` opens the connections and creates a writer for each publisher and a reader
for each subscriber. The identifier of the current connection is one variable that both loops
carry along, and `pub` still points to the last publisher when the subscribers are set up.

The server itself belongs to open62541. A connection that is added gets a new identifier, and
writer groups and reader groups are attached to the connection they are given.
-/

namespace TsnRefSw

namespace Opcua

/-- What the library draws at random. -/
structure Environment where
  /-- `UA_UInt32_random()`, by the number of connections there are. -/
  random : Nat → UInt32

/-- `XDP_FLAGS_SKB_MODE`. -/
def xdpFlagsSkbMode : UInt32 := 2
/-- `XDP_FLAGS_DRV_MODE`. -/
def xdpFlagsDrvMode : UInt32 := 4
/-- `XDP_COPY`. -/
def xdpCopy : UInt16 := 2
/-- `XDP_ZEROCOPY`. -/
def xdpZerocopy : UInt16 := 4

/-- `etfConfiguration`. -/
structure EtfConfiguration where
  socketPriority : Int
deriving DecidableEq, Repr

/-- `UA_PubSubConnectionConfig`. -/
structure ConnectionConfig where
  name : String
  /-- `address`: the network interface and the URL. -/
  networkInterface : String
  url : String
  etfConfiguration : EtfConfiguration
  xdpQueue : Int
  xdpFlags : UInt32
  xdpBindFlags : UInt16
  publisherId : UInt32
deriving DecidableEq, Repr

/-- What a connection is bound to. -/
def ConnectionConfig.binding (c : ConnectionConfig) : String × Int :=
  (c.networkInterface, c.xdpQueue)

/-- The identifier of a connection; `none` is the null identifier. -/
abbrev ConnId := Option Nat

/-- The numbers by which a message is assigned to a reader. -/
structure Identifiers where
  publisherId : UInt16
  writerGroupId : UInt16
  dataSetWriterId : UInt16
deriving DecidableEq, Repr

/-- A writer group with its only data set writer. -/
structure Writer where
  connection : ConnId
  writerGroupId : UInt16
  dataSetWriterId : UInt16
deriving DecidableEq, Repr

/-- What the messages of a writer carry: the connection's publisher identifier and its own. -/
def Writer.identifiers (w : Writer) (c : ConnectionConfig) : Identifiers :=
  ⟨c.publisherId.toUInt16, w.writerGroupId, w.dataSetWriterId⟩

/-- A reader group with its only data set reader. -/
structure Reader where
  connection : ConnId
  identifiers : Identifiers
deriving DecidableEq, Repr

inductive TransportLayer where
  | ethernetXDP
  | ethernetETF
deriving DecidableEq, Repr

/-- The server with its configuration. -/
structure Setup where
  /-- `pubsubTransportLayers`, an array of two. -/
  layer0 : Option TransportLayer
  layer1 : Option TransportLayer
  pubsubTransportLayersSize : Nat
  connections : List ConnectionConfig
  writers : List Writer
  readers : List Reader

namespace Setup

/-- The connection with the identifier `c`. -/
def connection (s : Setup) (c : ConnId) : Option ConnectionConfig := c.bind (s.connections[·]?)

/-- `UA_Server_addPubSubConnection()`. -/
def addConnection (s : Setup) (c : ConnectionConfig) : Setup × ConnId :=
  ({ s with connections := s.connections ++ [c] }, some s.connections.length)

end Setup

section
variable (env : Environment) (sdata : ServerData)

/-- The configuration in `addPubSubConnection()`. -/
def pubConnectionConfig (pdata : PublisherData sdata.useXDP) : ConnectionConfig where
  name := "UADP Connection"
  networkInterface := sdata.pubInterface
  url := pdata.url
  etfConfiguration := {
    socketPriority := if 0 < pdata.socketPriority.1 then pdata.socketPriority.1 else -1 }
  xdpQueue := if sdata.useXDP then pdata.xdpQueue.1 else 0
  xdpFlags := if sdata.useXDP then xdpFlagsDrvMode else 0
  xdpBindFlags := if sdata.useXDPZC then xdpZerocopy else xdpCopy
  publisherId := (UInt16.ofInt pdata.id.1).toUInt32

def addPubSubConnection (s : Setup) (pdata : PublisherData sdata.useXDP) : Setup × ConnId :=
  s.addConnection (pubConnectionConfig sdata pdata)

/-- The configuration in `addSubConnection()`. -/
def subConnectionConfig (random : UInt32) (sub : SubscriberData sdata.useXDP) :
    ConnectionConfig where
  name := "UDPMC Connection 1"
  networkInterface := sdata.subInterface
  url := sub.url
  etfConfiguration := ⟨0⟩
  xdpQueue := if sdata.useXDP then sub.xdpQueue.1 else 0
  xdpFlags :=
    if sdata.useXDP then
      if sdata.useXDPSKB ∧ ¬ sdata.useXDPZC then xdpFlagsSkbMode else xdpFlagsDrvMode
    else 0
  xdpBindFlags :=
    if sdata.useXDP then if sdata.useXDPZC then xdpZerocopy else xdpCopy else 0
  publisherId := if sub.id.1 = 0 then random else UInt32.ofInt sub.id.1

def addSubConnection (s : Setup) (sub : SubscriberData sdata.useXDP) : Setup × ConnId :=
  s.addConnection (subConnectionConfig sdata (env.random s.connections.length) sub)

variable {sdata}

/-- `addWriterGroup()` and `addDataSetWriter()`. -/
def addDataSetWriter (pdata : PublisherData sdata.useXDP) (connId : ConnId) : Writer where
  connection := connId
  writerGroupId := UInt16.ofInt pdata.writerGroupId.1
  dataSetWriterId := UInt16.ofInt pdata.dataSetWriterId.1

/-- `addReaderGroup()` and `addDataSetReader()`. -/
def addDataSetReader (sub : SubscriberData sdata.useXDP) (connId : ConnId) : Reader where
  connection := connId
  identifiers := {
    publisherId := UInt16.ofInt sub.subscribedPubId.1
    writerGroupId := UInt16.ofInt sub.subscribedWGId.1
    dataSetWriterId := UInt16.ofInt sub.subscribedDSWriterId.1 }

def createPublisher (s : Setup) (pdata : PublisherData sdata.useXDP) (connId : ConnId) : Setup :=
  { s with writers := s.writers ++ [addDataSetWriter pdata connId] }

def createSubscriber (s : Setup) (sub : SubscriberData sdata.useXDP) (connId : ConnId) : Setup :=
  { s with readers := s.readers ++ [addDataSetReader sub connId] }

variable (sdata)

/-- The subscriber is to share the socket of the publisher `pub`. -/
def Shares (pub : Option (PublisherData sdata.useXDP)) (sub : SubscriberData sdata.useXDP) : Prop :=
  ∃ p ∈ pub, sdata.useXDP ∧ sub.xdpQueue.1 = p.xdpQueue.1 ∧ sdata.pubInterface = sdata.subInterface

instance (pub : Option (PublisherData sdata.useXDP)) (sub : SubscriberData sdata.useXDP) :
    Decidable (Shares sdata pub sub) := inferInstanceAs (Decidable (∃ p ∈ pub, _))

/-- The body of the loop over the publishers. -/
def setupPublisher (r : Setup × ConnId) (pub : PublisherData sdata.useXDP) : Setup × ConnId :=
  let (server, connId) := addPubSubConnection sdata r.1 pub
  (createPublisher server pub connId, connId)

/-- The second transport layer is set up, once more for each subscriber that comes here. -/
def Setup.addLayer (s : Setup) (layer : TransportLayer) : Setup :=
  { s with layer1 := some layer, pubsubTransportLayersSize := s.pubsubTransportLayersSize + 1 }

/-- The body of the loop over the subscribers, `pub` being the last publisher. -/
def setupSubscriber (pub : Option (PublisherData sdata.useXDP)) (r : Setup × ConnId)
    (sub : SubscriberData sdata.useXDP) : Setup × ConnId :=
  let (server, connId) :=
    if Shares sdata pub sub then r
    else if pub.isSome ∧ sdata.useXDP then
      addSubConnection env sdata (r.1.addLayer .ethernetXDP) sub
    else if pub.isSome then addSubConnection env sdata (r.1.addLayer .ethernetETF) sub
    else addSubConnection env sdata r.1 sub
  (createSubscriber server sub connId, connId)

/-- The server before the first publisher is set up. -/
def newServer : Setup where
  layer0 := some (if sdata.useXDP then .ethernetXDP else .ethernetETF)
  layer1 := none
  pubsubTransportLayersSize := 1
  connections := []
  writers := []
  readers := []

/-- `setupOpcuaServer()`. -/
def setupOpcuaServer : Setup :=
  (sdata.subData.foldl (setupSubscriber env sdata sdata.pubData.getLast?)
    (sdata.pubData.foldl (setupPublisher sdata) (newServer sdata, none))).1

end

/-! ### What the two loops do -/

section
variable (env : Environment) {sdata : ServerData}

@[simp] lemma addDataSetReader_connection (sub : SubscriberData sdata.useXDP) (c : ConnId) :
    (addDataSetReader sub c).connection = c := rfl

/-- A subscriber that does not share gets a connection of its own. -/
lemma setupSubscriber_cases (pub : Option (PublisherData sdata.useXDP)) (r : Setup × ConnId)
    (sub : SubscriberData sdata.useXDP) :
    (Shares sdata pub sub ∧
      setupSubscriber env sdata pub r sub = (createSubscriber r.1 sub r.2, r.2)) ∨
    (¬ Shares sdata pub sub ∧ ∃ s : Setup, s.connections = r.1.connections ∧
      s.readers = r.1.readers ∧ s.writers = r.1.writers ∧
      setupSubscriber env sdata pub r sub =
        (createSubscriber (addSubConnection env sdata s sub).1 sub (some r.1.connections.length),
          some r.1.connections.length)) := by
  by_cases hs : Shares sdata pub sub
  · exact .inl ⟨hs, by simp [setupSubscriber, hs]⟩
  · refine .inr ⟨hs, ?_⟩
    by_cases hp : pub.isSome
    · by_cases hx : sdata.useXDP
      · exact ⟨r.1.addLayer .ethernetXDP, rfl, rfl, rfl, by
          simp [setupSubscriber, hs, hp, hx, addSubConnection, Setup.addConnection,
            Setup.addLayer]⟩
      · exact ⟨r.1.addLayer .ethernetETF, rfl, rfl, rfl, by
          simp [setupSubscriber, hs, hp, hx, addSubConnection, Setup.addConnection,
            Setup.addLayer]⟩
    · exact ⟨r.1, rfl, rfl, rfl, by
        simp [setupSubscriber, hs, hp, addSubConnection, Setup.addConnection]⟩

end

end Opcua

end TsnRefSw
