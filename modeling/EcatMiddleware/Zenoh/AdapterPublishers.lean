import EcatMiddleware.Core.ConfigTopics
import EcatMiddleware.Core.RobotConfig

/-!
# The Zenoh publisher adapter

`ZenohAdapterPublishers::init` registers one publisher for each aggregated topic that has devices,
and one for each device of the other channels. A failure does not stop it.

* `init_eq`: what is registered, and when `init` succeeds.
-/

namespace EcatMiddleware.Zenoh

open EcatMiddleware.Core Pb

/-- The ROS 2 messages of the state topics. -/
inductive Ros2MessageType where
  | jointState
  | motor
  | valve
  | gripper
  | imu
  | powerBoard
  | pump
  | forceTorque
  deriving DecidableEq, Repr

/-- A registered `ZenohAdapterBridgePublisher`. -/
structure Registration where
  channels : List ChannelRx
  ids : List EcatId
  key : String
  ros2MessageType : Ros2MessageType
  deriving DecidableEq, Repr

/-- A statement of `init`: the flag that it returns, and the publishers registered after it. -/
abbrev Step := List Registration → Bool × List Registration

/-- The lambda `filter_ids`. -/
def filterIds (ecatMap : EcatMap) (channel : ChannelRx) : List EcatId :=
  ecatMap.devices.entries.filterMap fun e => if e.2.channel = channel then some e.1 else none

/-- The lambda `register_topic`. The publisher is registered before it declares its key. -/
def registerTopic (declared : String → Bool) (channels : List ChannelRx) (ids : List EcatId)
    (key : String) (ros2MessageType : Ros2MessageType) : Step := fun regs =>
  if ids = [] then (true, regs)
  else (declared key, regs ++ [⟨channels, ids, key, ros2MessageType⟩])

/-- The lambda `register_devices`. -/
def registerDevices (declared : String → Bool) (robot : RobotConfig) (ecatMap : EcatMap)
    (channel : ChannelRx) (makeKey : String → String) (ros2MessageType : Ros2MessageType) :
    Step := fun regs =>
  (filterIds ecatMap channel).foldl (fun acc id =>
    match robot.mapEcatId.lookup id with
    | none => (false, acc.2)
    | some name =>
      let registered :=
        registerTopic declared [channel] [id] (makeKey name) ros2MessageType acc.2
      (acc.1 && registered.1, registered.2)) (true, regs)

/-- `success &= step` for each step. -/
def accumulate (steps : List Step) : Bool × List Registration :=
  steps.foldl (fun acc step =>
    let done := step acc.2
    (acc.1 && done.1, done.2)) (true, [])

section

variable (declared : String → Bool) (topics : TopicNamespace) (robot : RobotConfig)
  (ecatMap : EcatMap)

/-- `joint_ids`. -/
def jointIds : List EcatId :=
  filterIds ecatMap .motor ++ filterIds ecatMap .valve ++ filterIds ecatMap .gripper

/-- `init`. -/
def init : Bool × List Registration :=
  accumulate
    [registerTopic declared [.motor, .gripper, .valve] (jointIds ecatMap) topics.jointState
      .jointState,
    registerTopic declared [.motor] (filterIds ecatMap .motor) topics.motor .motor,
    registerTopic declared [.valve] (filterIds ecatMap .valve) topics.valve .valve,
    registerTopic declared [.gripper] (filterIds ecatMap .gripper) topics.gripper .gripper,
    registerDevices declared robot ecatMap .imu topics.imu .imu,
    registerDevices declared robot ecatMap .powerBoard topics.powerBoard .powerBoard,
    registerDevices declared robot ecatMap .pump topics.pump .pump,
    registerDevices declared robot ecatMap .forceTorque topics.forceTorque .forceTorque]

/-! ## What is registered -/

/-- What one aggregated topic registers. -/
def topicRegs (channels : List ChannelRx) (ids : List EcatId) (key : String)
    (ros2MessageType : Ros2MessageType) : List Registration :=
  if ids = [] then [] else [⟨channels, ids, key, ros2MessageType⟩]

/-- What the named devices of a channel register. -/
def deviceRegs (channel : ChannelRx) (makeKey : String → String)
    (ros2MessageType : Ros2MessageType) : List Registration :=
  (filterIds ecatMap channel).filterMap fun id => (robot.mapEcatId.lookup id).map fun name =>
    ⟨[channel], [id], makeKey name, ros2MessageType⟩

def aggregatedRegs : List Registration :=
  topicRegs [.motor, .gripper, .valve] (jointIds ecatMap) topics.jointState .jointState ++
    topicRegs [.motor] (filterIds ecatMap .motor) topics.motor .motor ++
    topicRegs [.valve] (filterIds ecatMap .valve) topics.valve .valve ++
    topicRegs [.gripper] (filterIds ecatMap .gripper) topics.gripper .gripper

/-- The four channels with one topic for each device. -/
def deviceChannels : List ChannelRx := [.imu, .powerBoard, .pump, .forceTorque]

def singleRegs : List Registration :=
  deviceRegs robot ecatMap .imu topics.imu .imu ++
    deviceRegs robot ecatMap .powerBoard topics.powerBoard .powerBoard ++
    deviceRegs robot ecatMap .pump topics.pump .pump ++
    deviceRegs robot ecatMap .forceTorque topics.forceTorque .forceTorque

/-- Every device of a channel has a name. -/
def Named (channel : ChannelRx) : Prop :=
  ∀ id ∈ filterIds ecatMap channel, (robot.mapEcatId.lookup id).isSome

end

section

variable {declared : String → Bool} {topics : TopicNamespace} {robot : RobotConfig}
  {ecatMap : EcatMap}

theorem registerTopic_eq (channels : List ChannelRx) (ids : List EcatId) (key : String)
    (ros2MessageType : Ros2MessageType) (regs : List Registration) :
    registerTopic declared channels ids key ros2MessageType regs =
      ((topicRegs channels ids key ros2MessageType).all (declared ·.key),
        regs ++ topicRegs channels ids key ros2MessageType) := by
  unfold registerTopic topicRegs
  by_cases h : ids = [] <;> simp [h]

theorem registerDevices_eq (channel : ChannelRx) (makeKey : String → String)
    (ros2MessageType : Ros2MessageType) (regs : List Registration) :
    registerDevices declared robot ecatMap channel makeKey ros2MessageType regs =
      ((filterIds ecatMap channel).all (fun id => (robot.mapEcatId.lookup id).isSome) &&
          (deviceRegs robot ecatMap channel makeKey ros2MessageType).all (declared ·.key),
        regs ++ deviceRegs robot ecatMap channel makeKey ros2MessageType) := by
  unfold registerDevices deviceRegs
  induction filterIds ecatMap channel using List.reverseRecOn with
  | nil => simp
  | append_singleton ids id ih =>
    rw [List.foldl_append, ih, List.foldl_cons, List.foldl_nil, List.filterMap_append]
    cases hname : robot.mapEcatId.lookup id with
    | none => simp [hname]
    | some name =>
      simp only [registerTopic_eq]
      simp [hname, topicRegs, Bool.and_assoc]

theorem mem_topicRegs {channels : List ChannelRx} {ids : List EcatId} {key : String}
    {ros2MessageType : Ros2MessageType} {r : Registration} :
    r ∈ topicRegs channels ids key ros2MessageType ↔
      ids ≠ [] ∧ r = ⟨channels, ids, key, ros2MessageType⟩ := by
  unfold topicRegs
  split_ifs with h
  · simp [h]
  · simp [h]

theorem mem_deviceRegs {channel : ChannelRx} {makeKey : String → String}
    {ros2MessageType : Ros2MessageType} {r : Registration} :
    r ∈ deviceRegs robot ecatMap channel makeKey ros2MessageType ↔
      ∃ id ∈ filterIds ecatMap channel, ∃ name, robot.mapEcatId.lookup id = some name ∧
        r = ⟨[channel], [id], makeKey name, ros2MessageType⟩ := by
  unfold deviceRegs
  simp only [List.mem_filterMap, Option.map_eq_some_iff, @eq_comm _ _ r]

/-- A step that adds publishers, and succeeds if its flag is set and every new key was declared. -/
def adds (declared : String → Bool) (part : Bool × List Registration) : Step := fun regs =>
  (part.1 && part.2.all (declared ·.key), regs ++ part.2)

theorem registerTopic_adds (channels : List ChannelRx) (ids : List EcatId) (key : String)
    (ros2MessageType : Ros2MessageType) :
    registerTopic declared channels ids key ros2MessageType =
      adds declared (true, topicRegs channels ids key ros2MessageType) := by
  funext regs
  rw [registerTopic_eq, adds, Bool.true_and]

theorem registerDevices_adds (channel : ChannelRx) (makeKey : String → String)
    (ros2MessageType : Ros2MessageType) :
    registerDevices declared robot ecatMap channel makeKey ros2MessageType =
      adds declared ((filterIds ecatMap channel).all fun id => (robot.mapEcatId.lookup id).isSome,
        deviceRegs robot ecatMap channel makeKey ros2MessageType) := by
  funext regs
  exact registerDevices_eq channel makeKey ros2MessageType regs

/-- All that the steps add is registered, and no failure is lost. -/
theorem accumulate_adds (parts : List (Bool × List Registration)) :
    accumulate (parts.map (adds declared)) =
      (parts.all (·.1) && (parts.flatMap (·.2)).all (declared ·.key), parts.flatMap (·.2)) := by
  have hrun : ∀ (parts : List (Bool × List Registration)) (ok : Bool) (regs : List Registration),
      (parts.map (adds declared)).foldl (fun acc step =>
          let done := step acc.2
          (acc.1 && done.1, done.2)) (ok, regs) =
        (ok && (parts.all (·.1) && (parts.flatMap (·.2)).all (declared ·.key)),
          regs ++ parts.flatMap (·.2)) := by
    intro parts
    induction parts with
    | nil => simp
    | cons part parts ih =>
      intro ok regs
      rw [List.map_cons, List.foldl_cons, ih]
      simp [adds, Bool.and_assoc, Bool.and_left_comm]
  exact hrun parts true []

/-- `init` is a run of such steps. -/
theorem init_adds : ∃ parts : List (Bool × List Registration),
    init declared topics robot ecatMap = accumulate (parts.map (adds declared)) ∧
      parts.flatMap (·.2) = aggregatedRegs topics ecatMap ++ singleRegs topics robot ecatMap ∧
      (parts.all (·.1) = true ↔ ∀ channel ∈ deviceChannels, Named robot ecatMap channel) := by
  unfold init
  simp only [registerTopic_adds, registerDevices_adds]
  refine ⟨[_, _, _, _, _, _, _, _], rfl, ?_, ?_⟩
  · simp [aggregatedRegs, singleRegs]
  · simp [deviceChannels, Named]

/-- **The registered publishers.** `init` succeeds when every device that needs a name has one and
every key was declared. -/
theorem init_eq :
    (init declared topics robot ecatMap).2 =
        aggregatedRegs topics ecatMap ++ singleRegs topics robot ecatMap ∧
      ((init declared topics robot ecatMap).1 = true ↔
        (∀ channel ∈ deviceChannels, Named robot ecatMap channel) ∧
          ∀ r ∈ aggregatedRegs topics ecatMap ++ singleRegs topics robot ecatMap,
            declared r.key = true) := by
  obtain ⟨parts, hparts, hregs, hnamed⟩ := @init_adds declared topics robot ecatMap
  rw [hparts, accumulate_adds, Bool.and_eq_true, hnamed, hregs, List.all_eq_true]
  exact ⟨rfl, Iff.rfl⟩

end

end EcatMiddleware.Zenoh
