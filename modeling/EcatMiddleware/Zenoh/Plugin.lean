import EcatMiddleware.Core.Startup
import EcatMiddleware.Zenoh.Arguments

/-!
# The Zenoh plugin

Its configuration and its `main`, up to the call of `exec.start()`.

* `transport_of_main`: the wire format and the session configuration that the plugin runs with.
* `publishers_of_main`: the devices of the robot are discovered, and which of their PDOs are
  published.
-/

namespace EcatMiddleware.Zenoh

open EcatMiddleware.Core FoldExcept

/-! ## Configuration -/

structure ZenohConfig where
  sessionConfig : String := ""
  wireFormat : WireFormat := .protobuf
  deriving DecidableEq, Repr

structure PluginConfig where
  common : CommonConfig
  transport : ZenohConfig

/-- The build, the environment and the file system; the calls of the Zenoh library that may throw,
and the keys that a publisher can be declared for. -/
structure Platform where
  ros2Support : Bool
  zenohConfig : Bool
  isRegularFile : String → Except String Bool
  fromFile : String → Except String Unit
  fromEnv : Except String Unit
  openSession : Except String Unit
  declared : String → Bool

variable (lib : YamlCpp) (host : Host) (platform : Platform)

def parsePluginConfig (file : ConfigFile) : Configured PluginConfig := do
  let common ← parseCommonConfig lib host file
  let node ← sectionOf lib file.root "zenoh" ""
  checkKeys lib node ["session_config", "wire_format"] "zenoh"
  let path ← value lib node "session_config" "" "zenoh"
  let text ← value lib node "wire_format" "protobuf" "zenoh"
  let wireFormat ← parseWireFormat text
  .ok ⟨common, { sessionConfig := if path ≠ "" then file.resolve path else "", wireFormat }⟩

def PluginConfig.validate (cfg : PluginConfig) : Except String Unit := do
  caught cfg.common.validate
  if !platform.ros2Support && cfg.transport.wireFormat = .ros2Cdr then
    .error "zenoh.wire_format: ros2cdr requires ZENOH_ROS2_SUPPORT=ON"
  else if cfg.transport.sessionConfig ≠ "" then
    if ← platform.isRegularFile cfg.transport.sessionConfig then .ok ()
    else .error ("zenoh.session_config: file does not exist: " ++ cfg.transport.sessionConfig)
  else .ok ()

/-- Where the configuration of the session comes from. -/
inductive SessionConfig where
  | file (path : String)
  | env
  | default
  deriving DecidableEq, Repr

def makeZenohConfig (config : ZenohConfig) : Except String SessionConfig :=
  if config.sessionConfig ≠ "" then
    (platform.fromFile config.sessionConfig).map fun _ => .file config.sessionConfig
  else if platform.zenohConfig then platform.fromEnv.map fun _ => .env
  else .ok .default

/-! ## The program -/

/-- The overrides of `main`. -/
def PluginConfig.override (options : Options) (config : PluginConfig) : PluginConfig where
  common := { config.common with
    runtime := options.common.runtime.apply config.common.runtime }
  transport :=
    { sessionConfig := options.zenohConfig.getD config.transport.sessionConfig
      wireFormat := options.wireFormat.getD config.transport.wireFormat }

def zenohPlugin : PluginMain Options PluginConfig SessionConfig where
  parseArgs := parseArgs lib
  common := Options.common
  parsePluginConfig := parsePluginConfig lib host
  override := PluginConfig.override
  prepare config := do
    config.validate platform
    makeZenohConfig platform config.transport
  commonConfig := PluginConfig.common

/-- What `exec.start()` is called with. -/
structure Running where
  file : ConfigFile
  config : PluginConfig
  session : SessionConfig
  ecatMap : EcatMap
  publishers : List Registration
  publishersPeriod : UInt32
  subscribersPeriod : UInt32

/-- The calls of `register_publisher` that `init` has made. -/
def Running.registrations (state : Running) : List Op :=
  Core.registrations (state.publishers.map fun r => (r.channels, r.ids))

/-- From the discovered devices to the call of `exec.start()`. -/
def launch (file : ConfigFile) (config : PluginConfig) (session : SessionConfig)
    (ecatMap : EcatMap) : Except String Running := do
  let robot := config.common.robot
  platform.openSession
  let (success, publishers) := init platform.declared [robot.ns, robot.robotName] robot ecatMap
  if !success then .error "Failed to initialize Zenoh publishers"
  else
    let publishersPeriod ← caught (periodFromRate config.common.runtime.ratePublishers)
    let subscribersPeriod ← caught (periodFromRate config.common.runtime.rateSubscribers)
    .ok { file, config, session, ecatMap, publishers, publishersPeriod, subscribersPeriod }

def main (shm : SharedMemory) (argv : List String) : Except String (MainOutcome Running) :=
  (zenohPlugin lib host platform).main lib host shm (launch platform) argv

variable {lib host platform}

/-! ## A robot with one motor -/

/-- The motor 7, and the session configuration of the file. -/
def motorFile : Yaml :=
  .map [(.scalar "robot", .map [(.scalar "name", .scalar "kyon"),
      (.scalar "namespace", .scalar "advrf"),
      (.scalar "joint_map", .map [(.scalar "7", .scalar "hip")])]),
    (.scalar "zenoh", .map [(.scalar "session_config", .scalar "/etc/zenoh.json5")])]

def motorHost : Host := ⟨none, .ok, .ok, fun _ => .ok motorFile⟩

def motorLib : YamlCpp := ⟨none, fun _ => "", fun _ _ => ""⟩

def motorPlatform : Platform where
  ros2Support := true
  zenohConfig := false
  isRegularFile _ := .ok true
  fromFile _ := .ok ()
  fromEnv := .ok ()
  openSession := .ok ()
  declared _ := true

/-- One pass in which the queue of the motors holds a PDO of the device 7. -/
def motorMemory : SharedMemory where
  starts := true
  isOk := true
  passes := [fun device => if device = ChannelRx.motor.device then [pdoOf 7] else []]

def motorArguments : List String :=
  ["zenoh_plugin", "--config", "config.yaml", "--wire-format", "ros2cdr"]

def motorConfig : PluginConfig where
  common :=
    { robot := { robotName := "kyon", ns := "advrf", mapEcatId := AList.insert 7 "hip" ∅ }
      runtime := {} }
  transport := { sessionConfig := "/etc/zenoh.json5", wireFormat := .ros2Cdr }

theorem parseArgs_motorArguments : parseArgs motorLib motorArguments =
    .ok { common := { configPath := "config.yaml" }, wireFormat := some .ros2Cdr } := by
  have hspells : SpellsTransport ["--config", "config.yaml", "--wire-format", "ros2cdr"]
      [.common (.config "config.yaml"), .wireFormat .ros2Cdr] :=
    .setting (.common (.config _)) (by decide) (.setting (.wireFormat .ros2Cdr) (by decide) .nil)
  exact (consumeArgs_eq_ok_iff _ _ _).mpr ⟨_, hspells, rfl⟩

theorem main_motorArguments : ∃ state,
    main motorLib motorHost motorPlatform motorMemory motorArguments = .ok (.running state) ∧
      state.config = motorConfig := by
  have hconfigure : (zenohPlugin motorLib motorHost motorPlatform).configure motorLib motorHost
      motorArguments = .ok (some (⟨motorFile, "config.yaml"⟩, motorConfig,
        .file "/etc/zenoh.json5")) := by
    unfold PluginMain.configure
    rw [show (zenohPlugin motorLib motorHost motorPlatform).parseArgs motorArguments = _ from
      parseArgs_motorArguments]
    rfl
  unfold main PluginMain.main
  rw [hconfigure]
  exact ⟨_, rfl, rfl⟩

/-! ## What the plugin runs with -/

/-- The session configuration of a path that may be empty. -/
def Platform.session (platform : Platform) (path : String) : SessionConfig :=
  if path ≠ "" then .file path
  else if platform.zenohConfig then .env
  else .default

theorem makeZenohConfig_eq_ok {config : ZenohConfig} {session : SessionConfig}
    (h : makeZenohConfig platform config = .ok session) :
    session = platform.session config.sessionConfig := by
  unfold makeZenohConfig at h
  unfold Platform.session
  split_ifs at h ⊢ with hpath henv
  · cases hfile : platform.fromFile config.sessionConfig with
    | error what =>
      rw [hfile] at h
      exact absurd h (by rintro ⟨⟩)
    | ok _ =>
      rw [hfile] at h
      exact (Except.ok.inj h).symm
  · cases hfromEnv : platform.fromEnv with
    | error what =>
      rw [hfromEnv] at h
      exact absurd h (by rintro ⟨⟩)
    | ok _ =>
      rw [hfromEnv] at h
      exact (Except.ok.inj h).symm
  · exact (Except.ok.inj h).symm

/-- What `validate` adds to the validation of the common part. -/
structure PluginConfig.Valid (cfg : PluginConfig) (platform : Platform) : Prop where
  common : cfg.common.validate = .ok ()
  ros2 : cfg.transport.wireFormat = .ros2Cdr → platform.ros2Support = true
  regular : cfg.transport.sessionConfig ≠ "" →
    platform.isRegularFile cfg.transport.sessionConfig = .ok true

theorem valid_of_validate {cfg : PluginConfig} (h : cfg.validate platform = .ok ()) :
    cfg.Valid platform := by
  obtain ⟨⟨⟩, hcommon, h⟩ := bind_eq_ok.mp h
  split_ifs at h with hros2 hpath
  all_goals
    have hsupport : cfg.transport.wireFormat = .ros2Cdr → platform.ros2Support = true := by
      intro hformat
      by_contra hno
      exact hros2 (by simp [hformat, hno])
  · obtain ⟨regular, hregular, h⟩ := bind_eq_ok.mp h
    cases regular with
    | false => exact absurd h (by rintro ⟨⟩)
    | true => exact ⟨caught_eq_ok.mp hcommon, hsupport, fun _ => hregular⟩
  · exact ⟨caught_eq_ok.mp hcommon, hsupport, fun hne => absurd hne hpath⟩

theorem extends_zenohPlugin : (zenohPlugin lib host platform).Extends lib host commonArguments where
  parseArgs h := by
    obtain ⟨settings, -, hcommon, -, -⟩ := parseArgs_eq_ok_iff.mp h
    exact hcommon
  parsePluginConfig h := by
    obtain ⟨common, hcommon, h⟩ := bind_eq_ok.mp h
    obtain ⟨node, -, h⟩ := bind_eq_ok.mp h
    obtain ⟨⟨⟩, -, h⟩ := bind_eq_ok.mp h
    obtain ⟨path, -, h⟩ := bind_eq_ok.mp h
    obtain ⟨text, -, h⟩ := bind_eq_ok.mp h
    obtain ⟨wireFormat, -, h⟩ := bind_eq_ok.mp h
    rw [← Except.ok.inj h]
    exact hcommon
  override options cfg := rfl
  prepare h := by
    obtain ⟨⟨⟩, hvalidate, -⟩ := bind_eq_ok.mp h
    exact (valid_of_validate hvalidate).common

theorem transport_of_parsePluginConfig {file : ConfigFile} {cfg : PluginConfig}
    (h : parsePluginConfig lib host file = .ok cfg) :
    ∃ zenoh path, sectionOf lib file.root "zenoh" "" = .ok (.map zenoh) ∧
      settingText lib zenoh "session_config" "" = some path ∧
      settingText lib zenoh "wire_format" "protobuf" = some cfg.transport.wireFormat.text ∧
      cfg.transport.sessionConfig = if path ≠ "" then file.resolve path else "" := by
  obtain ⟨common, -, h⟩ := bind_eq_ok.mp h
  obtain ⟨node, hnode, h⟩ := bind_eq_ok.mp h
  obtain ⟨⟨⟩, -, h⟩ := bind_eq_ok.mp h
  obtain ⟨path, hpath, h⟩ := bind_eq_ok.mp h
  obtain ⟨text, htext, h⟩ := bind_eq_ok.mp h
  obtain ⟨wireFormat, hformat, h⟩ := bind_eq_ok.mp h
  obtain rfl := Except.ok.inj h
  obtain rfl := parseWireFormat_eq_ok.mp hformat
  obtain ⟨zenoh, rfl⟩ := exists_map_of_sectionOf hnode
  exact ⟨zenoh, path, hnode, value_eq_ok_iff.mp hpath, value_eq_ok_iff.mp htext, rfl⟩

/-- What `exec.start()` is called with. -/
theorem launch_eq_ok {file : ConfigFile} {config : PluginConfig} {session : SessionConfig}
    {ecatMap : EcatMap} {state : Running}
    (h : launch platform file config session ecatMap = .ok state) :
    let robot := config.common.robot
    let registered := init platform.declared [robot.ns, robot.robotName] robot ecatMap
    state.file = file ∧ state.config = config ∧ state.session = session ∧
      state.ecatMap = ecatMap ∧ registered.1 = true ∧ state.publishers = registered.2 ∧
      periodFromRate (config.common.runtime.get .publishers) = .ok state.publishersPeriod ∧
      periodFromRate (config.common.runtime.get .subscribers) = .ok state.subscribersPeriod := by
  intro robot registered
  obtain ⟨⟨⟩, -, h⟩ := bind_eq_ok.mp h
  by_cases hsuccess : registered.1 = true
  · simp only at h
    rw [show (init platform.declared [config.common.robot.ns, config.common.robot.robotName]
      config.common.robot ecatMap).1 = true from hsuccess, Bool.not_true,
      if_neg Bool.false_ne_true] at h
    obtain ⟨publishersPeriod, hpublishers, h⟩ := bind_eq_ok.mp h
    obtain ⟨subscribersPeriod, hsubscribers, h⟩ := bind_eq_ok.mp h
    obtain rfl := Except.ok.inj h
    exact ⟨rfl, rfl, rfl, rfl, hsuccess, rfl, caught_eq_ok.mp hpublishers,
      caught_eq_ok.mp hsubscribers⟩
  · simp only at h
    rw [show (init platform.declared [config.common.robot.ns, config.common.robot.robotName]
      config.common.robot ecatMap).1 = false from Bool.eq_false_iff.mpr hsuccess, Bool.not_false,
      if_pos rfl] at h
    exact absurd h (by rintro ⟨⟩)

/-- **The transport.** The last flags over the `zenoh` section over the defaults; a path of the file
is one relative to the file. What comes out is supported, and there. -/
theorem transport_of_main {shm : SharedMemory} {argv : List String} {state : Running}
    (h : main lib host platform shm argv = .ok (.running state)) :
    ∃ settings zenoh path wireFormat, SpellsTransport argv.tail settings ∧
      sectionOf lib state.file.root "zenoh" "" = .ok (.map zenoh) ∧
      settingText lib zenoh "session_config" "" = some path ∧
      settingText lib zenoh "wire_format" "protobuf" = some wireFormat.text ∧
      state.config.transport.wireFormat = (lastWireFormat settings).getD wireFormat ∧
      state.session = platform.session ((lastZenohConfig settings).getD
        (if path ≠ "" then state.file.resolve path else "")) ∧
      (state.config.transport.wireFormat = .ros2Cdr → platform.ros2Support = true) ∧
      ∀ path, state.session = .file path → platform.isRegularFile path = .ok true := by
  obtain ⟨file, config, session, ecatMap, hconfigure, -, -, hlaunch⟩ := main_eq_running h
  obtain ⟨options, cfg, hoptions, -, hcfg, rfl, hprepare⟩ := configure_eq_ok hconfigure
  obtain ⟨⟨⟩, hvalidate, hmake⟩ := bind_eq_ok.mp hprepare
  obtain ⟨hfile, hconfig, hsession, -⟩ := launch_eq_ok hlaunch
  obtain ⟨settings, hspells, -, hformat, hzenoh⟩ := parseArgs_eq_ok_iff.mp hoptions
  obtain ⟨zenoh, path, hsection, hpath, htext, hresolve⟩ := transport_of_parsePluginConfig hcfg
  have hvalid := valid_of_validate hvalidate
  rw [hfile, hconfig, hsession]
  have hmade := makeZenohConfig_eq_ok hmake
  refine ⟨settings, zenoh, path, cfg.transport.wireFormat, hspells, hsection, hpath, htext, ?_, ?_,
    hvalid.ros2, ?_⟩
  · rw [← hformat]
    rfl
  · rw [← hzenoh, ← hresolve]
    exact hmade
  · intro path hfrom
    rw [hmade] at hfrom
    unfold Platform.session at hfrom
    split_ifs at hfrom with hne
    obtain rfl := SessionConfig.file.inj hfrom
    exact hvalid.regular hne

/-- The flag decides the wire format, the file the session. -/
theorem transport_of_main_motor : ∃ state settings wireFormat,
    main motorLib motorHost motorPlatform motorMemory motorArguments = .ok (.running state) ∧
      SpellsTransport motorArguments.tail settings ∧
      (lastWireFormat settings).getD wireFormat = .ros2Cdr := by
  obtain ⟨state, hmain, hconfig⟩ := main_motorArguments
  obtain ⟨settings, -, -, wireFormat, hspells, -, -, -, hformat, -⟩ := transport_of_main hmain
  rw [hconfig] at hformat
  exact ⟨state, settings, wireFormat, hmain, hspells, hformat.symm⟩

/-! ## What the plugin publishes -/

theorem mem_filterIds {ecatMap : EcatMap} {channel : ChannelRx} {id : EcatId} :
    id ∈ filterIds ecatMap channel ↔
      ∃ device, ecatMap.devices.lookup id = some device ∧ device.channel = channel := by
  unfold filterIds
  rw [List.mem_filterMap]
  constructor
  · rintro ⟨⟨id', device⟩, hentry, h⟩
    split_ifs at h with hchannel
    obtain rfl := Option.some.inj h
    exact ⟨device, AList.mem_lookup_iff.mpr hentry, hchannel⟩
  · rintro ⟨device, hlookup, hchannel⟩
    exact ⟨⟨id, device⟩, AList.mem_lookup_iff.mp hlookup, if_pos hchannel⟩

/-- A channel is one of those with a topic for all devices, or has one for each device. -/
theorem mem_channels (channel : ChannelRx) :
    channel ∈ [ChannelRx.motor, .gripper, .valve] ∨ channel ∈ deviceChannels := by
  unfold deviceChannels
  cases channel <;> simp

section

variable {topics : TopicNamespace} {robot : RobotConfig} {ecatMap : EcatMap}

/-- A publisher is registered with a list of discovered devices. -/
theorem mem_ids_of_mem_regs {r : Registration}
    (hr : r ∈ aggregatedRegs topics ecatMap ++ singleRegs topics robot ecatMap) :
    r.ids ≠ [] ∧ ∀ id ∈ r.ids, id ∈ ecatMap := by
  have hfilter : ∀ channel, ∀ id ∈ filterIds ecatMap channel, id ∈ ecatMap := by
    intro channel id hmem
    obtain ⟨device, hlookup, -⟩ := mem_filterIds.mp hmem
    exact EcatMap.mem_iff_exists.mpr ⟨device, hlookup⟩
  have hjoint : ∀ id ∈ jointIds ecatMap, id ∈ ecatMap := by
    intro id hid
    unfold jointIds at hid
    simp only [List.mem_append] at hid
    rcases hid with (hid | hid) | hid
    · exact hfilter _ id hid
    · exact hfilter _ id hid
    · exact hfilter _ id hid
  have hdevice : ∀ channel, ∀ id ∈ filterIds ecatMap channel, ∀ id' ∈ [id], id' ∈ ecatMap := by
    intro channel id hid id' hid'
    obtain rfl := List.mem_singleton.mp hid'
    exact hfilter channel id' hid
  unfold aggregatedRegs singleRegs at hr
  simp only [List.mem_append, mem_topicRegs, mem_deviceRegs] at hr
  rcases hr with (((⟨hne, rfl⟩ | ⟨hne, rfl⟩) | ⟨hne, rfl⟩) | ⟨hne, rfl⟩) |
    (((⟨id, hid, name, -, rfl⟩ | ⟨id, hid, name, -, rfl⟩) | ⟨id, hid, name, -, rfl⟩) |
      ⟨id, hid, name, -, rfl⟩)
  · exact ⟨hne, hjoint⟩
  · exact ⟨hne, hfilter _⟩
  · exact ⟨hne, hfilter _⟩
  · exact ⟨hne, hfilter _⟩
  all_goals exact ⟨List.cons_ne_nil _ _, hdevice _ id hid⟩

/-- Every device has a publisher, if those that need a name have one. -/
theorem exists_reg {id : EcatId} {device : EcatMetadata}
    (hlookup : ecatMap.devices.lookup id = some device)
    (hnamed : ∀ channel ∈ deviceChannels, Named robot ecatMap channel) :
    ∃ r ∈ aggregatedRegs topics ecatMap ++ singleRegs topics robot ecatMap,
      id ∈ r.ids ∧ device.channel ∈ r.channels := by
  have hid : id ∈ filterIds ecatMap device.channel := mem_filterIds.mpr ⟨device, hlookup, rfl⟩
  rcases mem_channels device.channel with haggregated | hsingle
  · -- the joint states have all three
    have hjoint : id ∈ jointIds ecatMap := by
      unfold jointIds
      simp only [List.mem_cons, List.not_mem_nil, or_false] at haggregated
      rcases haggregated with hmotor | hgripper | hvalve
      · rw [hmotor] at hid
        simp [hid]
      · rw [hgripper] at hid
        simp [hid]
      · rw [hvalve] at hid
        simp [hid]
    refine ⟨⟨_, jointIds ecatMap, topics.jointState, .jointState⟩, List.mem_append_left _ ?_,
      hjoint, haggregated⟩
    unfold aggregatedRegs
    simp only [List.mem_append, mem_topicRegs]
    exact Or.inl (Or.inl (Or.inl ⟨List.ne_nil_of_mem hjoint, trivial⟩))
  · obtain ⟨name, hname⟩ := Option.isSome_iff_exists.mp (hnamed _ hsingle id hid)
    unfold singleRegs
    simp only [List.mem_append, mem_deviceRegs]
    unfold deviceChannels at hsingle
    simp only [List.mem_cons, List.not_mem_nil, or_false] at hsingle
    rcases hsingle with h | h | h | h <;> rw [h] at hid ⊢
    · exact ⟨_, Or.inr (Or.inl (Or.inl (Or.inl ⟨id, hid, name, hname, rfl⟩))), by simp, by simp⟩
    · exact ⟨_, Or.inr (Or.inl (Or.inl (Or.inr ⟨id, hid, name, hname, rfl⟩))), by simp, by simp⟩
    · exact ⟨_, Or.inr (Or.inl (Or.inr ⟨id, hid, name, hname, rfl⟩)), by simp, by simp⟩
    · exact ⟨_, Or.inr (Or.inr ⟨id, hid, name, hname, rfl⟩), by simp, by simp⟩

end

/-- **The publishers.** A plugin that gets to `exec.start()` has an accepted configuration and valid
periods. Each publisher has a declared key and a serializer, and gets the PDOs of its ids below
`MaxEcatIds` that are drained on its channels, and no others. Every discovered device has one, and
where the shared memory stays connected during discovery these are the devices of the configuration:
each later cycle that comes to this publisher forwards a drained PDO of the device to it exactly if
the id is below `MaxEcatIds`. -/
theorem publishers_of_main {shm : SharedMemory} {argv : List String} {state : Running}
    (h : main lib host platform shm argv = .ok (.running state)) :
    let robot := state.config.common.robot
    state.config.common.Accepted lib host (commonArguments argv) state.file ∧
    periodFromRate (state.config.common.runtime.get .publishers) = .ok state.publishersPeriod ∧
    periodFromRate (state.config.common.runtime.get .subscribers) = .ok state.subscribersPeriod ∧
    (∀ i r, state.publishers[i]? = some r → (∀ id ∈ r.ids, id ∈ state.ecatMap) ∧
      platform.declared r.key = true ∧
      (∀ slib : SerializerLib, slib.ros2Support = platform.ros2Support → ∃ serializer,
        Serializer.new slib state.config.transport.wireFormat r.ros2MessageType = .ok serializer) ∧
      ∀ later queues id, Forwards (state.registrations ++ later) i queues id ↔
        id ∈ r.ids ∧ id.toNat < maxEcatIds ∧ DrainedOn queues r.channels id.toNat) ∧
    (∀ id device, state.ecatMap.devices.lookup id = some device →
      ∃ i r, state.publishers[i]? = some r ∧ id ∈ r.ids ∧ device.channel ∈ r.channels ∧
        ∀ later queues, DrainedOn queues [device.channel] id.toNat →
          (Forwards (state.registrations ++ later) i queues id ↔ id.toNat < maxEcatIds)) ∧
    (shm.isOk = true → ∀ id, id ∈ state.ecatMap ↔ id ∈ robot.mapEcatId) := by
  intro robot
  obtain ⟨file, config, session, ecatMap, hconfigure, -, hdiscover, hlaunch⟩ := main_eq_running h
  have haccepted := accepted_of_configure extends_zenohPlugin hconfigure
  obtain ⟨options, cfg, -, -, -, -, hprepare⟩ := configure_eq_ok hconfigure
  obtain ⟨⟨⟩, hvalidate, -⟩ := bind_eq_ok.mp hprepare
  have hvalid := valid_of_validate hvalidate
  obtain ⟨rfl, rfl, rfl, rfl, hsuccess, hregs, hpublishers, hsubscribers⟩ := launch_eq_ok hlaunch
  obtain ⟨hinit, hdone⟩ :=
    @init_eq platform.declared [robot.ns, robot.robotName] robot state.ecatMap
  obtain ⟨hnamed, hdeclared⟩ := hdone.mp hsuccess
  rw [hinit] at hregs
  have hfilter : ∀ {i : ℕ} {r : Registration}, state.publishers[i]? = some r →
      (state.publishers.map fun r => (r.channels, r.ids))[i]? = some (r.channels, r.ids) := by
    intro i r hr
    rw [List.getElem?_map, hr]
    rfl
  refine ⟨haccepted, hpublishers, hsubscribers, fun i r hr => ?_, ?_, ?_⟩
  · have hmem := List.mem_of_getElem? hr
    rw [hregs] at hmem
    refine ⟨(mem_ids_of_mem_regs hmem).2, hdeclared r hmem, fun slib hsupport => ?_,
      forwards_registrations_iff (hfilter hr) (mem_ids_of_mem_regs hmem).1⟩
    unfold Serializer.new
    rw [if_neg]
    · exact ⟨_, rfl⟩
    · rw [hsupport]
      intro hno
      simp only [Bool.and_eq_true, Bool.not_eq_true', decide_eq_true_eq] at hno
      rw [hvalid.ros2 hno.2] at hno
      exact absurd hno.1 (by simp)
  · intro id device hlookup
    obtain ⟨r, hr, hid, hchannel⟩ := exists_reg hlookup hnamed
    rw [← hregs] at hr
    obtain ⟨i, hi⟩ := List.mem_iff_getElem?.mp hr
    refine ⟨i, r, hi, hid, hchannel, fun later queues hdrained => ?_⟩
    exact forwards_drained_iff (hfilter hi) hchannel hid later hdrained
  · intro hok id
    rw [hok] at hdiscover
    rw [mem_of_discover hdiscover id]
    exact mem_extractPdoIds

/-- The motor 7 is discovered and published. -/
theorem publishers_of_main_motor : ∃ state i,
    main motorLib motorHost motorPlatform motorMemory motorArguments = .ok (.running state) ∧
      (7 : EcatId) ∈ state.ecatMap ∧
      ∀ later, Forwards (state.registrations ++ later) i (fun _ => [pdoOf 7]) 7 := by
  obtain ⟨state, hmain, hconfig⟩ := main_motorArguments
  obtain ⟨-, -, -, -, hpublished, hdevices⟩ := publishers_of_main hmain
  have hmem : (7 : EcatId) ∈ state.ecatMap := by
    rw [hdevices rfl 7, hconfig]
    exact AList.mem_keys.mpr List.mem_cons_self
  obtain ⟨device, hlookup⟩ := EcatMap.mem_iff_exists.mp hmem
  obtain ⟨i, r, -, -, -, hforwards⟩ := hpublished 7 device hlookup
  refine ⟨state, i, hmain, hmem, fun later => (hforwards later _ ?_).mpr (by decide)⟩
  exact ⟨device.channel, List.mem_singleton_self _, pdoOf 7, List.mem_singleton_self _,
    hasIndex_pdoOf (by decide)⟩

end EcatMiddleware.Zenoh
