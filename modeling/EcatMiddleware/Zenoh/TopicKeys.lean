import EcatMiddleware.Lib.Tagged
import EcatMiddleware.Zenoh.AdapterPublishers

/-!
# The keys of the Zenoh publishers

The loader accepts a configuration that gives two devices one name. The keys of their publishers
then differ only by the channel of the device.

* `keyBlocks`: the keys, by topic. The first characters of a suffix tell the topics apart.
* `nodup_keys_iff`: no key is declared twice exactly when the devices of a channel have different
  names.
-/

namespace EcatMiddleware.Zenoh

open EcatMiddleware.Core Tagged

/-- No two devices of a channel with one topic for each device have the same name. -/
def DistinctNames (robot : RobotConfig) (ecatMap : EcatMap) : Prop :=
  ∀ channel ∈ deviceChannels, ∀ id ∈ filterIds ecatMap channel,
    ∀ id' ∈ filterIds ecatMap channel, ∀ name, robot.mapEcatId.lookup id = some name →
      robot.mapEcatId.lookup id' = some name → id = id'

/-! ## The topic of a key -/

/-- The first characters after the namespace. -/
def topicTag (topics : TopicNamespace) (key : String) : List Char :=
  (key.toList.drop (topics.rt "").toList.length).take 5

theorem rt_eq (topics : TopicNamespace) (suffix : String) :
    topics.rt suffix = topics.rt "" ++ suffix := by
  simp [TopicNamespace.rt, TopicNamespace.build, String.append_assoc]

theorem rt_injective (topics : TopicNamespace) : Function.Injective topics.rt := by
  intro s t h
  rw [rt_eq, rt_eq topics t] at h
  exact (String.append_right_inj _).mp h

theorem topicTag_rt (topics : TopicNamespace) (suffix : String) :
    topicTag topics (topics.rt suffix) = suffix.toList.take 5 := by
  rw [topicTag, rt_eq topics suffix, String.toList_append, List.drop_left]

/-- The name of a device is behind the tag. -/
theorem topicTag_device (topics : TopicNamespace) {kind : String} (hkind : 5 ≤ kind.toList.length)
    (deviceName : String) :
    topicTag topics (topics.rt (kind ++ deviceName)) = kind.toList.take 5 := by
  rw [topicTag_rt, String.toList_append, List.take_append_of_le_length hkind]

theorem device_injective (topics : TopicNamespace) (kind : String) :
    Function.Injective fun deviceName => topics.rt (kind ++ deviceName) :=
  fun _ _ h => (String.append_right_inj kind).mp (rt_injective topics h)

/-! ## The keys, by topic -/

section

variable (topics : TopicNamespace) (robot : RobotConfig) (ecatMap : EcatMap)

def keyBlocks : List (List Char × List String) :=
  [("rx/jo".toList, (topicRegs [.motor, .gripper, .valve] (jointIds ecatMap) topics.jointState
      .jointState).map (·.key)),
    ("rx/mo".toList, (topicRegs [.motor] (filterIds ecatMap .motor) topics.motor
      .motor).map (·.key)),
    ("rx/va".toList, (topicRegs [.valve] (filterIds ecatMap .valve) topics.valve
      .valve).map (·.key)),
    ("rx/gr".toList, (topicRegs [.gripper] (filterIds ecatMap .gripper) topics.gripper
      .gripper).map (·.key)),
    ("rx/im".toList, (deviceRegs robot ecatMap .imu topics.imu .imu).map (·.key)),
    ("rx/po".toList, (deviceRegs robot ecatMap .powerBoard topics.powerBoard
      .powerBoard).map (·.key)),
    ("rx/pu".toList, (deviceRegs robot ecatMap .pump topics.pump .pump).map (·.key)),
    ("rx/fo".toList, (deviceRegs robot ecatMap .forceTorque topics.forceTorque
      .forceTorque).map (·.key))]

end

section

variable {topics : TopicNamespace} {robot : RobotConfig} {ecatMap : EcatMap}

theorem keys_eq_flatten :
    (aggregatedRegs topics ecatMap ++ singleRegs topics robot ecatMap).map (·.key) =
      ((keyBlocks topics robot ecatMap).map Prod.snd).flatten := by
  simp [aggregatedRegs, singleRegs, keyBlocks]

theorem tag_of_mem_topicRegs {channels : List ChannelRx} {ids : List EcatId} {suffix : String}
    {ros2MessageType : Ros2MessageType} {key : String}
    (h : key ∈ (topicRegs channels ids (topics.rt suffix) ros2MessageType).map (·.key)) :
    topicTag topics key = suffix.toList.take 5 := by
  obtain ⟨r, hr, rfl⟩ := List.mem_map.mp h
  obtain ⟨-, rfl⟩ := mem_topicRegs.mp hr
  exact topicTag_rt topics suffix

theorem tag_of_mem_deviceRegs {channel : ChannelRx} {kind : String}
    (hkind : 5 ≤ kind.toList.length) {ros2MessageType : Ros2MessageType} {key : String}
    (h : key ∈ (deviceRegs robot ecatMap channel (fun name => topics.rt (kind ++ name))
      ros2MessageType).map (·.key)) : topicTag topics key = kind.toList.take 5 := by
  obtain ⟨r, hr, rfl⟩ := List.mem_map.mp h
  obtain ⟨id, -, name, -, rfl⟩ := mem_deviceRegs.mp hr
  exact topicTag_device topics hkind name

theorem consistent_keyBlocks : Consistent (topicTag topics) (keyBlocks topics robot ecatMap) := by
  intro block hblock key hkey
  simp only [keyBlocks, List.mem_cons, List.not_mem_nil, or_false] at hblock
  rcases hblock with rfl | rfl | rfl | rfl | rfl | rfl | rfl | rfl
  · exact tag_of_mem_topicRegs hkey
  · exact tag_of_mem_topicRegs hkey
  · exact tag_of_mem_topicRegs hkey
  · exact tag_of_mem_topicRegs hkey
  · exact @tag_of_mem_deviceRegs _ _ _ _ "rx/imu/" (by decide) _ _ hkey
  · exact @tag_of_mem_deviceRegs _ _ _ _ "rx/power_board/" (by decide) _ _ hkey
  · exact @tag_of_mem_deviceRegs _ _ _ _ "rx/pump/" (by decide) _ _ hkey
  · exact @tag_of_mem_deviceRegs _ _ _ _ "rx/force_torque/" (by decide) _ _ hkey

theorem nodup_tags : ((keyBlocks topics robot ecatMap).map Prod.fst).Nodup := by
  show ["rx/jo".toList, "rx/mo".toList, "rx/va".toList, "rx/gr".toList, "rx/im".toList,
    "rx/po".toList, "rx/pu".toList, "rx/fo".toList].Nodup
  decide

/-! ## One topic -/

theorem nodup_keys_topicRegs (channels : List ChannelRx) (ids : List EcatId) (key : String)
    (ros2MessageType : Ros2MessageType) :
    ((topicRegs channels ids key ros2MessageType).map (·.key)).Nodup := by
  unfold topicRegs
  split_ifs <;> simp

theorem nodup_filterIds (ecatMap : EcatMap) (channel : ChannelRx) :
    (filterIds ecatMap channel).Nodup := by
  have heq : filterIds ecatMap channel =
      (ecatMap.devices.entries.filter fun e => e.2.channel = channel).map Sigma.fst := by
    unfold filterIds
    induction ecatMap.devices.entries with
    | nil => rfl
    | cons e es ih => by_cases h : e.2.channel = channel <;> simp [h, ih]
  rw [heq]
  exact ecatMap.devices.keys_nodup.sublist (List.filter_sublist.map Sigma.fst)

/-- The devices of a channel. -/
theorem nodup_keys_deviceRegs_iff {channel : ChannelRx} {makeKey : String → String}
    (hkey : Function.Injective makeKey) (ros2MessageType : Ros2MessageType) :
    ((deviceRegs robot ecatMap channel makeKey ros2MessageType).map (·.key)).Nodup ↔
      ∀ id ∈ filterIds ecatMap channel, ∀ id' ∈ filterIds ecatMap channel, ∀ name,
        robot.mapEcatId.lookup id = some name → robot.mapEcatId.lookup id' = some name →
          id = id' := by
  have heq : (deviceRegs robot ecatMap channel makeKey ros2MessageType).map (·.key) =
      ((filterIds ecatMap channel).filterMap robot.mapEcatId.lookup).map makeKey := by
    simp [deviceRegs, List.map_filterMap, Function.comp_def]
  rw [heq, List.nodup_map_iff hkey]
  exact nodup_filterMap_iff (nodup_filterIds ecatMap channel)

end

/-- **Distinct keys.** No two publishers declare one key exactly when no two devices of a channel
with a topic for each device have the same name. -/
theorem nodup_keys_iff (declared : String → Bool) (topics : TopicNamespace) (robot : RobotConfig)
    (ecatMap : EcatMap) :
    ((init declared topics robot ecatMap).2.map (·.key)).Nodup ↔ DistinctNames robot ecatMap := by
  have hdevice := fun kind channel => @nodup_keys_deviceRegs_iff robot ecatMap channel _
    (device_injective topics kind)
  rw [init_eq.1, keys_eq_flatten, nodup_flatten_iff consistent_keyBlocks nodup_tags]
  simp only [keyBlocks, DistinctNames, deviceChannels, List.forall_mem_cons,
    nodup_keys_topicRegs, true_and]
  exact and_congr (hdevice "rx/imu/" .imu .imu)
    (and_congr (hdevice "rx/power_board/" .powerBoard .powerBoard)
      (and_congr (hdevice "rx/pump/" .pump .pump)
        (and_congr (hdevice "rx/force_torque/" .forceTorque .forceTorque) (by simp))))

/-- A robot whose two IMUs have the same name. -/
theorem keys_of_two_imus :
    let ecatMap := (EcatMap.empty.emplace ⟨7, "imu", .rxImuVn, .imu, .imu⟩).emplace
      ⟨8, "imu", .rxImuVn, .imu, .imu⟩
    ∃ robot, parseRobotConfig ⟨none, fun _ => "", fun _ _ => ""⟩
        (.map [(.scalar "robot", .map [(.scalar "name", .scalar "kyon"),
          (.scalar "joint_map", .map [(.scalar "7", .scalar "imu"),
            (.scalar "8", .scalar "imu")])])]) = .ok robot ∧
      (∀ id, id ∈ ecatMap ↔ id ∈ robot.mapEcatId) ∧
      (init (fun _ => true) [robot.ns, robot.robotName] robot ecatMap).1 = true ∧
      (init (fun _ => true) [robot.ns, robot.robotName] robot ecatMap).2.map (·.key) =
        ["rt/kyon/rx/imu/imu", "rt/kyon/rx/imu/imu"] ∧
      ¬ ((init (fun _ => true) [robot.ns, robot.robotName] robot ecatMap).2.map (·.key)).Nodup := by
  refine ⟨_, rfl, fun id => ?_, rfl, ?_, ?_⟩
  · show id ∈ _ ↔ id ∈ ((∅ : IdNames).insert 7 "imu").insert 8 "imu"
    rw [EcatMap.mem_emplace, EcatMap.mem_emplace, AList.mem_insert, AList.mem_insert]
    exact or_congr_right (or_congr_right
      (iff_of_false (EcatMap.notMem_empty id) (AList.notMem_empty id)))
  · decide
  · decide

end EcatMiddleware.Zenoh
