import EcatMiddleware.Core.Startup
import EcatMiddleware.Dds.AdapterPublishers
import EcatMiddleware.Dds.DdsConfig
import EcatMiddleware.Dds.Service

/-!
# The DDS plugins

The `main` of the CycloneDDS plugin and that of the FastDDS plugin, up to the call of
`exec.start()`. They differ in what they do when the reader of the commands or an endpoint of the
service cannot be created.

* `running_of_main`: what either plugin runs with.
* `running_cyclonedds_iff`: when both start alike, and when only one of them does.
-/

namespace EcatMiddleware.Dds

open EcatMiddleware.Core FoldExcept

/-! ## Configuration -/

structure DdsPluginConfig where
  common : CommonConfig
  dds : DdsConfig

variable (lib : YamlCpp) (host : Host) (decodeBool : String → Option Bool)

def parseDdsPluginConfig (file : ConfigFile) : Configured DdsPluginConfig := do
  let common ← parseCommonConfig lib host file
  let dds ← parseDdsConfig lib decodeBool file.root
  .ok ⟨common, dds⟩

def DdsPluginConfig.validate (cfg : DdsPluginConfig) : Configured Unit := do
  cfg.common.validate
  cfg.dds.validate

/-! ## The program -/

/-- The nodes that the adapters declare to ROS. -/
inductive NodeName where
  | rxNode
  | txNode
  | serviceNode
  deriving DecidableEq, Repr

/-- The DDS library: the calls that may throw, and the topics for which a writer or a reader can be
created; for the endpoints of the service, with what keeps them from it. The topics, publishers and
subscribers of the service are there. There is one participant for each adapter. -/
structure Middleware where
  createParticipant : UInt32 → NodeName → Except String Unit
  writerOk : String → Bool
  readerOk : String → Bool
  serverReader : Except String Unit
  serverWriter : Except String Unit
  declareNode : NodeName → Except String Unit

/-- `init_ros_graph_bridge`. -/
def Middleware.initRosGraphBridge (middleware : Middleware) (node : NodeName)
    (declareToRos : Bool) : Except String Unit :=
  if declareToRos then middleware.declareNode node else .ok ()

def ddsPlugin : PluginMain CommonOptions DdsPluginConfig Unit where
  parseArgs := parseCommonOptions lib
  common := id
  parsePluginConfig := parseDdsPluginConfig lib host decodeBool
  override options cfg :=
    { cfg with common := { cfg.common with runtime := options.runtime.apply cfg.common.runtime } }
  prepare cfg := caught cfg.validate
  commonConfig := DdsPluginConfig.common

/-- The endpoints that a `ServiceServer` has. -/
structure ServerEndpoints where
  reader : Bool
  writer : Bool
  deriving DecidableEq, Repr

/-- What `exec.start()` is called with. -/
structure Running where
  file : ConfigFile
  config : DdsPluginConfig
  ecatMap : EcatMap
  publishers : List Registration
  commandReader : Bool
  server : AdapterServiceServer
  endpoints : ServerEndpoints
  publishersPeriod : UInt32
  subscribersPeriod : UInt32
  servicePeriod : UInt32

/-- The calls of `register_publisher` that `init` has made. -/
def Running.registrations (state : Running) : List Op :=
  Core.registrations (state.publishers.map fun r => (r.channels, r.ids))

variable (plugin : Plugin) (middleware : Middleware)

/-- `publishers->init`, up to its result. -/
def initPublishers (config : DdsPluginConfig) (ecatMap : EcatMap) :
    Except String (List Registration) := do
  let robot := config.common.robot
  match init middleware.writerOk [robot.ns, robot.robotName] robot ecatMap with
  | (.threw what, _) => .error what
  | (.returned false, _) => .error "Failed to initialize DDS publishers"
  | (.returned true, publishers) =>
    middleware.initRosGraphBridge .rxNode config.dds.declareToRos
    .ok publishers

/-- `subscribers->init`, and the look at its result. FastDDS returns true in any case. -/
def initSubscribers (config : DdsPluginConfig) : Except String Bool := do
  let robot := config.common.robot
  let reader := middleware.readerOk (TopicNamespace.motorCmd [robot.ns, robot.robotName])
  middleware.initRosGraphBridge .txNode config.dds.declareToRos
  let ok := match plugin with
    | .cyclonedds => reader
    | .fastdds => true
  if !ok then .error "Failed to initialize DDS subscribers" else .ok reader

/-- The constructor of `ServiceServer`. FastDDS has null pointers for the endpoints that cannot be
created, and does not look. -/
def createServer : Except String ServerEndpoints :=
  match plugin with
  | .cyclonedds => do
    middleware.serverReader
    middleware.serverWriter
    .ok ⟨true, true⟩
  | .fastdds => .ok ⟨middleware.serverReader.isOk, middleware.serverWriter.isOk⟩

/-- The constructor of the service adapter. -/
def newService (config : DdsPluginConfig) :
    Except String (AdapterServiceServer × ServerEndpoints) := do
  let server ← AdapterServiceServer.new config.dds.service
  let endpoints ← createServer plugin middleware
  middleware.initRosGraphBridge .serviceNode config.dds.declareToRos
  .ok (server, endpoints)

/-- From the discovered devices to the call of `exec.start()`. -/
def launch (file : ConfigFile) (config : DdsPluginConfig) (_ : Unit) (ecatMap : EcatMap) :
    Except String Running := do
  middleware.createParticipant config.dds.domainId .rxNode
  middleware.createParticipant config.dds.domainId .txNode
  middleware.createParticipant config.dds.domainId .serviceNode
  let publishers ← initPublishers middleware config ecatMap
  let commandReader ← initSubscribers plugin middleware config
  let service ← newService plugin middleware config
  let runtime := config.common.runtime
  let publishersPeriod ← caught (periodFromRate runtime.ratePublishers)
  let subscribersPeriod ← caught (periodFromRate runtime.rateSubscribers)
  let servicePeriod ← caught (periodFromRate runtime.rateService)
  .ok { file, config, ecatMap, publishers, commandReader, server := service.1,
        endpoints := service.2, publishersPeriod, subscribersPeriod, servicePeriod }

def main (shm : SharedMemory) (argv : List String) : Except String (MainOutcome Running) :=
  (ddsPlugin lib host decodeBool).main lib host shm (launch plugin middleware) argv

/-! ## The steps of the launch -/

variable {lib host decodeBool plugin middleware}

theorem initPublishers_eq_ok {config : DdsPluginConfig} {ecatMap : EcatMap}
    {publishers : List Registration}
    (h : initPublishers middleware config ecatMap = .ok publishers) :
    init middleware.writerOk [config.common.robot.ns, config.common.robot.robotName]
      config.common.robot ecatMap = (.returned true, publishers) := by
  unfold initPublishers at h
  simp only at h
  split at h
  · exact absurd h (by rintro ⟨⟩)
  · exact absurd h (by rintro ⟨⟩)
  · rename_i publishers' hinit
    obtain ⟨⟨⟩, -, h⟩ := bind_eq_ok.mp h
    rw [hinit, Except.ok.inj h]

/-- The topic of the commands. -/
def commandTopic (config : DdsPluginConfig) : String :=
  TopicNamespace.motorCmd [config.common.robot.ns, config.common.robot.robotName]

/-- Only CycloneDDS looks at the reader. -/
theorem initSubscribers_eq_ok_iff {config : DdsPluginConfig} {reader : Bool} :
    initSubscribers plugin middleware config = .ok reader ↔
      middleware.initRosGraphBridge .txNode config.dds.declareToRos = .ok () ∧
        reader = middleware.readerOk (commandTopic config) ∧
        (plugin = .cyclonedds → reader = true) := by
  cases plugin with
  | fastdds =>
    constructor
    · intro h
      obtain ⟨⟨⟩, hdeclare, h⟩ := bind_eq_ok.mp h
      exact ⟨hdeclare, (Except.ok.inj h).symm, by rintro ⟨⟩⟩
    · rintro ⟨hdeclare, rfl, -⟩
      exact bind_eq_ok.mpr ⟨(), hdeclare, rfl⟩
  | cyclonedds =>
    constructor
    · intro h
      obtain ⟨⟨⟩, hdeclare, h⟩ := bind_eq_ok.mp h
      simp only at h
      split_ifs at h with hno
      have htrue : middleware.readerOk (commandTopic config) = true := by
        simpa [commandTopic] using hno
      exact ⟨hdeclare, (Except.ok.inj h).symm, fun _ => (Except.ok.inj h).symm.trans htrue⟩
    · rintro ⟨hdeclare, rfl, htrue⟩
      refine bind_eq_ok.mpr ⟨(), hdeclare, if_neg ?_⟩
      rw [show middleware.readerOk (TopicNamespace.motorCmd _) = true from htrue rfl]
      decide

theorem isOk_eq_true_iff {result : Except String Unit} : result.isOk = true ↔ result = .ok () := by
  cases result with
  | error what => exact iff_of_false Bool.false_ne_true (by rintro ⟨⟩)
  | ok value => exact iff_of_true rfl rfl

/-- CycloneDDS has both endpoints, FastDDS those that can be created. -/
theorem createServer_eq_ok_iff {endpoints : ServerEndpoints} :
    createServer plugin middleware = .ok endpoints ↔
      endpoints = ⟨middleware.serverReader.isOk, middleware.serverWriter.isOk⟩ ∧
        (plugin = .cyclonedds → endpoints = ⟨true, true⟩) := by
  cases plugin with
  | fastdds =>
    refine ⟨fun h => ⟨(Except.ok.inj h).symm, ?_⟩, fun h => congrArg _ h.1.symm⟩
    rintro ⟨⟩
  | cyclonedds =>
    constructor
    · intro h
      obtain ⟨⟨⟩, hreader, h⟩ := bind_eq_ok.mp h
      obtain ⟨⟨⟩, hwriter, h⟩ := bind_eq_ok.mp h
      rw [← Except.ok.inj h, hreader, hwriter]
      exact ⟨rfl, fun _ => rfl⟩
    · rintro ⟨hendpoints, hboth⟩
      rw [hboth rfl] at hendpoints ⊢
      obtain ⟨hreader, hwriter⟩ := ServerEndpoints.mk.inj hendpoints
      exact bind_eq_ok.mpr ⟨(), isOk_eq_true_iff.mp hreader.symm,
        bind_eq_ok.mpr ⟨(), isOk_eq_true_iff.mp hwriter.symm, rfl⟩⟩

theorem newService_eq_ok_iff {config : DdsPluginConfig} {server : AdapterServiceServer}
    {endpoints : ServerEndpoints} :
    newService plugin middleware config = .ok (server, endpoints) ↔
      AdapterServiceServer.new config.dds.service = .ok server ∧
        createServer plugin middleware = .ok endpoints ∧
        middleware.initRosGraphBridge .serviceNode config.dds.declareToRos = .ok () := by
  constructor
  · intro h
    obtain ⟨server', hserver, h⟩ := bind_eq_ok.mp h
    obtain ⟨endpoints', hendpoints, h⟩ := bind_eq_ok.mp h
    obtain ⟨⟨⟩, hdeclare, h⟩ := bind_eq_ok.mp h
    obtain ⟨rfl, rfl⟩ := Prod.mk.inj (Except.ok.inj h)
    exact ⟨hserver, hendpoints, hdeclare⟩
  · rintro ⟨hserver, hendpoints, hdeclare⟩
    exact bind_eq_ok.mpr ⟨server, hserver,
      bind_eq_ok.mpr ⟨endpoints, hendpoints, bind_eq_ok.mpr ⟨(), hdeclare, rfl⟩⟩⟩

/-- What a launch that gets to `exec.start()` has behind it, whatever the plugin. -/
structure Launched (middleware : Middleware) (file : ConfigFile) (config : DdsPluginConfig)
    (ecatMap : EcatMap) (state : Running) : Prop where
  participants : ∀ node, middleware.createParticipant config.dds.domainId node = .ok ()
  file_eq : state.file = file
  config_eq : state.config = config
  ecatMap_eq : state.ecatMap = ecatMap
  publishers : initPublishers middleware config ecatMap = .ok state.publishers
  txNode : middleware.initRosGraphBridge .txNode config.dds.declareToRos = .ok ()
  commandReader : state.commandReader = middleware.readerOk (commandTopic config)
  server : AdapterServiceServer.new config.dds.service = .ok state.server
  endpoints : state.endpoints = ⟨middleware.serverReader.isOk, middleware.serverWriter.isOk⟩
  serviceNode : middleware.initRosGraphBridge .serviceNode config.dds.declareToRos = .ok ()
  publishersPeriod :
    periodFromRate (config.common.runtime.get .publishers) = .ok state.publishersPeriod
  subscribersPeriod :
    periodFromRate (config.common.runtime.get .subscribers) = .ok state.subscribersPeriod
  servicePeriod : periodFromRate (config.common.runtime.get .service) = .ok state.servicePeriod

/-- The reader of the commands and the endpoints of the service are there. -/
def Running.Listens (state : Running) : Prop :=
  state.commandReader = true ∧ state.endpoints = ⟨true, true⟩

theorem launch_eq_ok_iff {file : ConfigFile} {config : DdsPluginConfig} {ecatMap : EcatMap}
    {state : Running} : launch plugin middleware file config () ecatMap = .ok state ↔
      Launched middleware file config ecatMap state ∧
        (plugin = .cyclonedds → state.Listens) := by
  constructor
  · intro h
    obtain ⟨⟨⟩, hrx, h⟩ := bind_eq_ok.mp h
    obtain ⟨⟨⟩, htx, h⟩ := bind_eq_ok.mp h
    obtain ⟨⟨⟩, hservice, h⟩ := bind_eq_ok.mp h
    obtain ⟨publishers, hpublishers, h⟩ := bind_eq_ok.mp h
    obtain ⟨commandReader, hreader, h⟩ := bind_eq_ok.mp h
    obtain ⟨⟨server, endpoints⟩, hserver, h⟩ := bind_eq_ok.mp h
    obtain ⟨publishersPeriod, hpublishersPeriod, h⟩ := bind_eq_ok.mp h
    obtain ⟨subscribersPeriod, hsubscribersPeriod, h⟩ := bind_eq_ok.mp h
    obtain ⟨servicePeriod, hservicePeriod, h⟩ := bind_eq_ok.mp h
    obtain rfl := Except.ok.inj h
    obtain ⟨htxNode, hcommand, hlooks⟩ := initSubscribers_eq_ok_iff.mp hreader
    obtain ⟨hnew, hcreate, hserviceNode⟩ := newService_eq_ok_iff.mp hserver
    obtain ⟨hendpoints, hboth⟩ := createServer_eq_ok_iff.mp hcreate
    refine ⟨?_, fun hplugin => ⟨hlooks hplugin, hboth hplugin⟩⟩
    exact
      { participants := fun node => by
          cases node with
          | rxNode => exact hrx
          | txNode => exact htx
          | serviceNode => exact hservice
        file_eq := rfl
        config_eq := rfl
        ecatMap_eq := rfl
        publishers := hpublishers
        txNode := htxNode
        commandReader := hcommand
        server := hnew
        endpoints := hendpoints
        serviceNode := hserviceNode
        publishersPeriod := caught_eq_ok.mp hpublishersPeriod
        subscribersPeriod := caught_eq_ok.mp hsubscribersPeriod
        servicePeriod := caught_eq_ok.mp hservicePeriod }
  · rintro ⟨h, hlistens⟩
    have hreader : initSubscribers plugin middleware config = .ok state.commandReader :=
      initSubscribers_eq_ok_iff.mpr ⟨h.txNode, h.commandReader, fun hp => (hlistens hp).1⟩
    have hcreate : createServer plugin middleware = .ok state.endpoints :=
      createServer_eq_ok_iff.mpr ⟨h.endpoints, fun hp => (hlistens hp).2⟩
    have hserver : newService plugin middleware config = .ok (state.server, state.endpoints) :=
      newService_eq_ok_iff.mpr ⟨h.server, hcreate, h.serviceNode⟩
    have hresult : launch plugin middleware file config () ecatMap =
        .ok { state with file := file, config := config, ecatMap := ecatMap } := by
      refine bind_eq_ok.mpr ⟨(), h.participants .rxNode, ?_⟩
      refine bind_eq_ok.mpr ⟨(), h.participants .txNode, ?_⟩
      refine bind_eq_ok.mpr ⟨(), h.participants .serviceNode, ?_⟩
      refine bind_eq_ok.mpr ⟨_, h.publishers, bind_eq_ok.mpr ⟨_, hreader, ?_⟩⟩
      refine bind_eq_ok.mpr ⟨_, hserver, ?_⟩
      refine bind_eq_ok.mpr ⟨_, caught_eq_ok.mpr h.publishersPeriod, ?_⟩
      refine bind_eq_ok.mpr ⟨_, caught_eq_ok.mpr h.subscribersPeriod, ?_⟩
      exact bind_eq_ok.mpr ⟨_, caught_eq_ok.mpr h.servicePeriod, rfl⟩
    rw [hresult, ← h.file_eq, ← h.config_eq, ← h.ecatMap_eq]

theorem extends_ddsPlugin : (ddsPlugin lib host decodeBool).Extends lib host id where
  parseArgs h := h
  parsePluginConfig h := by
    obtain ⟨common, hcommon, h⟩ := bind_eq_ok.mp h
    obtain ⟨dds, -, h⟩ := bind_eq_ok.mp h
    rw [← Except.ok.inj h]
    exact hcommon
  override options cfg := rfl
  prepare h := by
    obtain ⟨⟨⟩, hcommon, -⟩ := bind_eq_ok.mp (caught_eq_ok.mp h)
    exact hcommon

/-! ## The devices -/

section

variable {topics : TopicNamespace} {robot : RobotConfig} {ecatMap : EcatMap}
  {endpointOk : String → Bool}

/-- The channels of which an adapter takes no more than one device. -/
def singleChannels : List ChannelRx := [.imu, .powerBoard, .pump, .forceTorque]

/-- Where `init` succeeds each channel of a single device has no more than one, and that has a
name. -/
theorem single_of_init
    (h : (init endpointOk topics robot ecatMap).1 = .returned true) {channel : ChannelRx}
    (hchannel : channel ∈ singleChannels) {id : EcatId} (hid : id ∈ filterIds ecatMap channel) :
    filterIds ecatMap channel = [id] ∧ ∃ r ∈ (init endpointOk topics robot ecatMap).2,
      r.ids = [id] ∧ r.channels = [channel] := by
  obtain ⟨hfail, hmem⟩ := init_returned_true h
  have hof : ∀ (kind : PublisherKind) (topic : String → String),
      (∀ step ∈ deviceSteps robot ecatMap kind channel topic,
        step ∈ initSteps topics robot ecatMap) →
      filterIds ecatMap channel = [id] ∧ ∃ r ∈ (init endpointOk topics robot ecatMap).2,
        r.ids = [id] ∧ r.channels = [channel] := by
    intro kind topic hsteps
    obtain ⟨hsingle, hname⟩ := of_fail_notMem_deviceSteps (fun hf => hfail (hsteps _ hf)) hid
    obtain ⟨name, hname⟩ := Option.isSome_iff_exists.mp hname
    refine ⟨hsingle, ⟨kind, [channel], [id], topic name⟩, (hmem _).mpr (hsteps _ ?_), rfl, rfl⟩
    exact create_mem_deviceSteps.mpr ⟨id, name, hsingle, hname, rfl⟩
  unfold singleChannels at hchannel
  simp only [List.mem_cons, List.not_mem_nil, or_false] at hchannel
  unfold initSteps at hof
  simp only [List.mem_append] at hof
  rcases hchannel with rfl | rfl | rfl | rfl
  · exact hof .imu topics.imu fun step hstep => by simp [imuSteps, hstep]
  · exact hof .powerBoard topics.powerBoard fun step hstep => by simp [powerBoardSteps, hstep]
  · exact hof .pump topics.pump fun step hstep => by simp [pumpSteps, hstep]
  · exact hof .forceTorque topics.forceTorque fun step hstep => by simp [forceTorqueSteps, hstep]

/-- Every device has a publisher. -/
theorem exists_reg (h : (init endpointOk topics robot ecatMap).1 = .returned true) {id : EcatId}
    {device : EcatMetadata} (hlookup : ecatMap.devices.lookup id = some device) :
    ∃ r ∈ (init endpointOk topics robot ecatMap).2, id ∈ r.ids ∧ device.channel ∈ r.channels := by
  have hid : id ∈ filterIds ecatMap device.channel := mem_filterIds.mpr ⟨device, hlookup, rfl⟩
  have hjoint : device.channel ∈ [ChannelRx.motor, .gripper, .valve] → id ∈ jointIds ecatMap := by
    unfold jointIds
    simp only [List.mem_cons, List.not_mem_nil, or_false, List.mem_append]
    rintro (hmotor | hgripper | hvalve)
    · exact Or.inl (Or.inl (hmotor ▸ hid))
    · exact Or.inl (Or.inr (hgripper ▸ hid))
    · exact Or.inr (hvalve ▸ hid)
  by_cases hsingle : device.channel ∈ singleChannels
  · obtain ⟨-, r, hr, hids, hchannels⟩ := single_of_init h hsingle hid
    exact ⟨r, hr, hids ▸ List.mem_singleton_self id, hchannels ▸ List.mem_singleton_self _⟩
  · have haggregated : device.channel ∈ [ChannelRx.motor, .gripper, .valve] := by
      revert hsingle
      unfold singleChannels
      cases device.channel <;> simp
    have hids := hjoint haggregated
    obtain ⟨more, hmore⟩ := init_jointState endpointOk topics robot (List.ne_nil_of_mem hids)
    rw [hmore]
    exact ⟨_, List.mem_cons_self, hids, haggregated⟩

end

/-! ## What the plugins run with -/

theorem dds_of_parseDdsPluginConfig {file : ConfigFile} {cfg : DdsPluginConfig}
    (h : parseDdsPluginConfig lib host decodeBool file = .ok cfg) :
    parseDdsConfig lib decodeBool file.root = .ok cfg.dds := by
  obtain ⟨common, -, h⟩ := bind_eq_ok.mp h
  obtain ⟨dds, hdds, h⟩ := bind_eq_ok.mp h
  rwa [← Except.ok.inj h]

/-- **What a DDS plugin runs with**: an accepted configuration with valid periods, a domain in
range, endpoints that both DDS libraries can configure, the command server of the file, and a
publisher for each device that was discovered. Each later cycle that comes to this publisher
forwards a drained PDO of the device to it exactly if the id is below `MaxEcatIds`. -/
theorem running_of_main {shm : SharedMemory} {argv : List String} {state : Running}
    (h : main lib host decodeBool plugin middleware shm argv = .ok (.running state)) :
    let cfg := state.config
    cfg.common.Accepted lib host argv state.file ∧
    (periodFromRate (cfg.common.runtime.get .publishers) = .ok state.publishersPeriod ∧
      periodFromRate (cfg.common.runtime.get .subscribers) = .ok state.subscribersPeriod ∧
      periodFromRate (cfg.common.runtime.get .service) = .ok state.servicePeriod) ∧
    parseDdsConfig lib decodeBool state.file.root = .ok cfg.dds ∧
    cfg.dds.domainId.toNat ≤ 232 ∧ cfg.dds.state.isValid = true ∧ cfg.dds.command.isValid = true ∧
    state.server.config = cfg.dds.service ∧
    (∀ id device, state.ecatMap.devices.lookup id = some device →
      (∃ i r, state.publishers[i]? = some r ∧ id ∈ r.ids ∧ device.channel ∈ r.channels ∧
        ∀ later queues, DrainedOn queues [device.channel] id.toNat →
          (Forwards (state.registrations ++ later) i queues id ↔ id.toNat < maxEcatIds)) ∧
      (device.channel ∈ singleChannels → ∀ id' device',
        state.ecatMap.devices.lookup id' = some device' → device'.channel = device.channel →
        id' = id)) ∧
    (shm.isOk = true → ∀ id, id ∈ state.ecatMap ↔ id ∈ cfg.common.robot.mapEcatId) := by
  intro cfg
  obtain ⟨file, config, ⟨⟩, ecatMap, hconfigure, -, hdiscover, hlaunch⟩ := main_eq_running h
  have haccepted := accepted_of_configure extends_ddsPlugin hconfigure
  obtain ⟨options, parsed, -, -, hparsed, hoverride, hprepare⟩ := configure_eq_ok hconfigure
  obtain ⟨⟨⟩, -, hvalidate⟩ := bind_eq_ok.mp (caught_eq_ok.mp hprepare)
  have hdds := dds_of_parseDdsPluginConfig hparsed
  have hkeep : config.dds = parsed.dds := by
    rw [hoverride]
    rfl
  rw [← hkeep] at hdds
  obtain ⟨hservice, hstate, hcommand⟩ := valid_of_parseDdsConfig hdds
  obtain ⟨hlaunched, -⟩ := launch_eq_ok_iff.mp hlaunch
  obtain rfl := hlaunched.file_eq
  obtain rfl := hlaunched.config_eq
  obtain rfl := hlaunched.ecatMap_eq
  have hinit := initPublishers_eq_ok hlaunched.publishers
  refine ⟨haccepted, ⟨hlaunched.publishersPeriod, hlaunched.subscribersPeriod,
    hlaunched.servicePeriod⟩, hdds, (validate_eq_ok_iff hstate hcommand).mp hvalidate, hstate,
    hcommand, ?_, fun id device hlookup => ⟨?_, ?_⟩, fun hok id => ?_⟩
  · obtain ⟨server, hnew, hconfig⟩ := new_of_valid hservice
    obtain rfl := Except.ok.inj (hnew.symm.trans hlaunched.server)
    exact hconfig
  · obtain ⟨r, hr, hid, hchannel⟩ := exists_reg (congrArg Prod.fst hinit) hlookup
    rw [hinit] at hr
    obtain ⟨i, hi⟩ := List.mem_iff_getElem?.mp hr
    have hfilter : (state.publishers.map fun r => (r.channels, r.ids))[i]? =
        some (r.channels, r.ids) := by
      rw [List.getElem?_map, hi]
      rfl
    refine ⟨i, r, hi, hid, hchannel, fun later queues hdrained => ?_⟩
    exact forwards_drained_iff hfilter hchannel hid later hdrained
  · intro hsingle id' device' hlookup' hchannel
    have hid : id ∈ filterIds state.ecatMap device.channel :=
      mem_filterIds.mpr ⟨device, hlookup, rfl⟩
    have hid' : id' ∈ filterIds state.ecatMap device.channel :=
      mem_filterIds.mpr ⟨device', hlookup', hchannel⟩
    rw [(single_of_init (congrArg Prod.fst hinit) hsingle hid).1] at hid'
    exact List.mem_singleton.mp hid'
  · rw [hok] at hdiscover
    rw [mem_of_discover hdiscover id]
    exact mem_extractPdoIds

/-! ## A robot with one motor -/

def motorFile : Yaml :=
  .map [(.scalar "robot", .map [(.scalar "name", .scalar "kyon"),
      (.scalar "namespace", .scalar "advrf"),
      (.scalar "joint_map", .map [(.scalar "7", .scalar "hip")])]),
    (.scalar "dds", .map [(.scalar "domain_id", .scalar "5")])]

def motorHost : Host := ⟨none, .ok, .ok, fun _ => .ok motorFile⟩

def motorLib : YamlCpp := ⟨none, fun _ => "", fun _ _ => ""⟩

/-- No reader can be created. -/
def deafMiddleware : Middleware where
  createParticipant _ _ := .ok ()
  writerOk _ := true
  readerOk _ := false
  serverReader := .error "Error creating reader"
  serverWriter := .ok ()
  declareNode _ := .ok ()

/-- One pass in which the queue of the motors holds a PDO of the device 7. -/
def motorMemory : SharedMemory where
  starts := true
  isOk := true
  passes := [fun device => if device = ChannelRx.motor.device then [pdoOf 7] else []]

def motorArguments : List String := ["fastdds_plugin", "--config", "config.yaml"]

def motorConfig : DdsPluginConfig where
  common :=
    { robot := { robotName := "kyon", ns := "advrf", mapEcatId := AList.insert 7 "hip" ∅ }
      runtime := {} }
  dds := { domainId := 5 }

theorem main_motorArguments : ∃ state,
    main motorLib motorHost (fun _ => none) .fastdds deafMiddleware motorMemory motorArguments =
      .ok (.running state) ∧ state.config = motorConfig ∧ state.commandReader = false ∧
        state.endpoints = ⟨false, true⟩ := by
  have hargs : parseCommonOptions motorLib motorArguments =
      .ok { configPath := "config.yaml" } :=
    (parseArguments_eq_ok_iff _ _ _).mpr
      ⟨[.config "config.yaml"], .setting (.config _) (by decide) .nil, rfl⟩
  have hconfigure : (ddsPlugin motorLib motorHost fun _ => none).configure motorLib motorHost
      motorArguments = .ok (some (⟨motorFile, "config.yaml"⟩, motorConfig, ())) := by
    unfold PluginMain.configure
    rw [show (ddsPlugin motorLib motorHost fun _ => none).parseArgs motorArguments = _ from hargs]
    rfl
  unfold main PluginMain.main
  rw [hconfigure]
  exact ⟨_, rfl, rfl, rfl, rfl⟩

/-- FastDDS runs with the motor 7, and without a reader. -/
theorem running_of_main_motor : ∃ state i,
    main motorLib motorHost (fun _ => none) .fastdds deafMiddleware motorMemory motorArguments =
      .ok (.running state) ∧ ¬ state.Listens ∧ (7 : EcatId) ∈ state.ecatMap ∧
      ∀ later, Forwards (state.registrations ++ later) i (fun _ => [pdoOf 7]) 7 := by
  obtain ⟨state, hmain, hconfig, hreader, -⟩ := main_motorArguments
  obtain ⟨-, -, -, -, -, -, -, hpublished, hdevices⟩ := running_of_main hmain
  have hdeaf : ¬ state.Listens := fun h => absurd (hreader.symm.trans h.1) Bool.false_ne_true
  have hmem : (7 : EcatId) ∈ state.ecatMap := by
    rw [hdevices rfl 7, hconfig]
    exact AList.mem_keys.mpr List.mem_cons_self
  obtain ⟨device, hlookup⟩ := EcatMap.mem_iff_exists.mp hmem
  obtain ⟨⟨i, r, -, -, -, hforwards⟩, -⟩ := hpublished 7 device hlookup
  refine ⟨state, i, hmain, hdeaf, hmem, fun later => (hforwards later _ ?_).mpr (by decide)⟩
  exact ⟨device.channel, List.mem_singleton_self _, pdoOf 7, List.mem_singleton_self _,
    hasIndex_pdoOf (by decide)⟩

/-! ## The two plugins -/

/-- A library that creates other endpoints for what the clients send. -/
def Middleware.withEndpoints (middleware : Middleware) (readerOk : String → Bool)
    (serverReader serverWriter : Except String Unit) : Middleware :=
  { middleware with readerOk, serverReader, serverWriter }

/-- FastDDS launches in the same way without them. -/
theorem Launched.withEndpoints {file : ConfigFile} {config : DdsPluginConfig} {ecatMap : EcatMap}
    {state : Running} (h : Launched middleware file config ecatMap state)
    (readerOk : String → Bool) (serverReader serverWriter : Except String Unit) :
    Launched (middleware.withEndpoints readerOk serverReader serverWriter) file config ecatMap
      { state with
        commandReader := readerOk (commandTopic state.config)
        endpoints := ⟨serverReader.isOk, serverWriter.isOk⟩ } :=
  { h with
    commandReader := by rw [h.config_eq]; rfl
    endpoints := rfl }

/-- **The two plugins start alike**, on the same machine and with libraries that behave alike, but
for the endpoints of the commands and of the service: what CycloneDDS ends in is what FastDDS ends
in with all three; FastDDS runs in the same state without any of them; and the exit statuses differ
exactly when it does. -/
theorem running_cyclonedds_iff (lib : YamlCpp) (host : Host) (decodeBool : String → Option Bool)
    (middleware : Middleware) (shm : SharedMemory) (argv : List String) :
    let cyclonedds := main lib host decodeBool .cyclonedds middleware shm argv
    let fastdds := main lib host decodeBool .fastdds middleware shm argv
    (∀ outcome, cyclonedds = .ok outcome ↔
      fastdds = .ok outcome ∧ ∀ state, outcome = .running state → state.Listens) ∧
    (∀ state readerOk serverReader serverWriter, fastdds = .ok (.running state) →
      main lib host decodeBool .fastdds
        (middleware.withEndpoints readerOk serverReader serverWriter) shm argv =
          .ok (.running { state with
            commandReader := readerOk (commandTopic state.config)
            endpoints := ⟨serverReader.isOk, serverWriter.isOk⟩ })) ∧
    (exitStatus cyclonedds ≠ exitStatus fastdds ↔
      ∃ state, fastdds = .ok (.running state) ∧ ¬ state.Listens) := by
  intro cyclonedds fastdds
  have hlaunch : ∀ file config prepared ecatMap state,
      launch .cyclonedds middleware file config prepared ecatMap = .ok state ↔
        launch .fastdds middleware file config prepared ecatMap = .ok state ∧ state.Listens := by
    rintro file config ⟨⟩ ecatMap state
    rw [launch_eq_ok_iff, launch_eq_ok_iff]
    simp
  have houtcome : ∀ outcome, cyclonedds = .ok outcome ↔
      fastdds = .ok outcome ∧ ∀ state, outcome = .running state → state.Listens :=
    fun outcome => main_eq_ok_iff_of_launch hlaunch shm argv outcome
  refine ⟨houtcome, fun state readerOk serverReader serverWriter h => ?_, ?_⟩
  · obtain ⟨file, config, ⟨⟩, ecatMap, hconfigure, hstarts, hdiscover, hlaunch⟩ :=
      main_eq_running h
    obtain ⟨hlaunched, -⟩ := launch_eq_ok_iff.mp hlaunch
    refine main_of_running hconfigure hstarts hdiscover (launch_eq_ok_iff.mpr ⟨?_, ?_⟩)
    · exact hlaunched.withEndpoints readerOk serverReader serverWriter
    · rintro ⟨⟩
  · constructor
    · intro hne
      by_contra hlistens
      -- FastDDS ends in nothing that CycloneDDS does not
      have hsame : ∀ outcome, cyclonedds = .ok outcome ↔ fastdds = .ok outcome := by
        intro outcome
        rw [houtcome outcome]
        refine ⟨fun h => h.1, fun h => ⟨h, fun state hstate => ?_⟩⟩
        by_contra hdeaf
        exact hlistens ⟨state, hstate ▸ h, hdeaf⟩
      cases hfast : fastdds with
      | ok outcome => exact hne (by rw [(hsame outcome).mpr hfast, hfast])
      | error what =>
        cases hcyclone : cyclonedds with
        | ok outcome => exact absurd (hfast.symm.trans ((hsame outcome).mp hcyclone)) (by rintro ⟨⟩)
        | error what' => exact hne (by rw [hfast, hcyclone]; rfl)
    · rintro ⟨state, hfast, hdeaf⟩
      rw [hfast]
      cases hcyclone : cyclonedds with
      | error what => exact fun h => absurd (Option.some.inj h) (by decide)
      | ok outcome =>
        obtain ⟨hfast', hlistens⟩ := (houtcome outcome).mp hcyclone
        exact absurd (hlistens state (Except.ok.inj (hfast'.symm.trans hfast))) hdeaf

/-- Without a reader CycloneDDS exits at once. -/
theorem running_cyclonedds_iff_motor :
    exitStatus (main motorLib motorHost (fun _ => none) .cyclonedds deafMiddleware motorMemory
        motorArguments) ≠
      exitStatus (main motorLib motorHost (fun _ => none) .fastdds deafMiddleware motorMemory
        motorArguments) := by
  obtain ⟨state, hmain, -, hreader, -⟩ := main_motorArguments
  refine (running_cyclonedds_iff motorLib motorHost (fun _ => none) deafMiddleware motorMemory
    motorArguments).2.2.mpr ⟨state, hmain, fun h => ?_⟩
  exact absurd (hreader.symm.trans h.1) Bool.false_ne_true

end EcatMiddleware.Dds
