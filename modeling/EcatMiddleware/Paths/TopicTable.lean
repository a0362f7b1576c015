import EcatMiddleware.Dds.AdapterPublishers
import EcatMiddleware.Zenoh.AdapterPublishers

/-!
# The registered topics

Both plugins register a publisher for each topic with devices. The DDS adapter does so block by
block and returns at the first failure, the Zenoh adapter goes through its channels and remembers
whether one failed.

* `InTable` is the table of both: an aggregated topic for all devices of its channels, and a topic
  for each device of the other channels.
* `init_same_topics`: where the DDS adapter succeeds, so does the Zenoh adapter, with the same
  table; and this covers every device on its own channel only.
-/

namespace EcatMiddleware.Paths

open EcatMiddleware.Core

/-- A registered topic: its key, and the subscription of its publisher. -/
abbrev TopicEntry := String × Subscription

def ddsEntry (r : Dds.Registration) : TopicEntry := (r.topic, newSubscription r.channels r.ids)

def zenohEntry (r : Zenoh.Registration) : TopicEntry := (r.key, newSubscription r.channels r.ids)

/-! ## The table -/

def aggregatedTopics (topics : TopicNamespace) : List (String × List ChannelRx) :=
  [(topics.jointState, [.motor, .gripper, .valve]), (topics.motor, [.motor]),
    (topics.gripper, [.gripper]), (topics.valve, [.valve])]

def deviceTopics (topics : TopicNamespace) : List (ChannelRx × (String → String)) :=
  [(.imu, topics.imu), (.powerBoard, topics.powerBoard), (.pump, topics.pump),
    (.forceTorque, topics.forceTorque)]

/-- The ids that were discovered on some channels. -/
def idsOn (ecatMap : EcatMap) (channels : List ChannelRx) : List EcatId :=
  channels.flatMap (Dds.filterIds ecatMap)

theorem mem_idsOn {ecatMap : EcatMap} {channels : List ChannelRx} {id : EcatId} :
    id ∈ idsOn ecatMap channels ↔ ∃ channel ∈ channels, id ∈ Dds.filterIds ecatMap channel :=
  List.mem_flatMap

/-- The entry of an aggregated topic, if its channels have any device. -/
def AggregatedEntry (ecatMap : EcatMap) (key : String) (channels : List ChannelRx)
    (e : TopicEntry) : Prop :=
  idsOn ecatMap channels ≠ [] ∧ e = (key, newSubscription channels (idsOn ecatMap channels))

/-- The entry of a named device of a channel. -/
def DeviceEntry (robot : RobotConfig) (ecatMap : EcatMap) (channel : ChannelRx)
    (key : String → String) (e : TopicEntry) : Prop :=
  ∃ id ∈ Dds.filterIds ecatMap channel, ∃ name, robot.mapEcatId.lookup id = some name ∧
    e = (key name, newSubscription [channel] [id])

section

variable (topics : TopicNamespace) (robot : RobotConfig) (ecatMap : EcatMap)

/-- The topics that discovery and the configuration call for. -/
def InTable (e : TopicEntry) : Prop :=
  (∃ row ∈ aggregatedTopics topics, AggregatedEntry ecatMap row.1 row.2 e) ∨
    ∃ row ∈ deviceTopics topics, DeviceEntry robot ecatMap row.1 row.2 e

/-- Every device below `MaxEcatIds` is allowed by a publisher of its channel, and by no other. -/
structure Covered (entries : List TopicEntry) : Prop where
  allowed : ∀ id device, ecatMap.devices.lookup id = some device →
    ∀ hid : id.toNat < maxEcatIds, ∃ e ∈ entries, device.channel ∈ e.2.channels ∧
      e.2.Allows ⟨id.toNat, hid⟩
  own : ∀ e ∈ entries, ∀ id device, ecatMap.devices.lookup id = some device →
    ∀ hid : id.toNat < maxEcatIds, e.2.Allows ⟨id.toNat, hid⟩ → device.channel ∈ e.2.channels

end

section

variable {topics : TopicNamespace} {robot : RobotConfig} {ecatMap : EcatMap}

/-- Every channel has its aggregated topic or its devices'. -/
theorem exists_topic (topics : TopicNamespace) (channel : ChannelRx) :
    (∃ row ∈ aggregatedTopics topics, channel ∈ row.2) ∨
      ∃ row ∈ deviceTopics topics, channel = row.1 := by
  unfold aggregatedTopics deviceTopics
  cases channel <;> simp

theorem channel_of_mem_filterIds {channel : ChannelRx} {id : EcatId} {device : EcatMetadata}
    (hid : id ∈ Dds.filterIds ecatMap channel) (hlookup : ecatMap.devices.lookup id = some device) :
    device.channel = channel := by
  obtain ⟨device', hlookup', rfl⟩ := Dds.mem_filterIds.mp hid
  rw [Option.some.inj (hlookup.symm.trans hlookup')]

/-- **Coverage** by the entries of the table, if every device of a single-device topic is named. -/
theorem covered_of_inTable {entries : List TopicEntry}
    (hentries : ∀ e, e ∈ entries ↔ InTable topics robot ecatMap e)
    (hnamed : ∀ row ∈ deviceTopics topics, ∀ id ∈ Dds.filterIds ecatMap row.1,
      (robot.mapEcatId.lookup id).isSome) : Covered ecatMap entries where
  allowed := by
    intro id device hlookup hid
    have hmem : id ∈ Dds.filterIds ecatMap device.channel :=
      Dds.mem_filterIds.mpr ⟨device, hlookup, rfl⟩
    rcases exists_topic topics device.channel with ⟨row, hrow, hch⟩ | ⟨row, hrow, hch⟩
    · have hon : id ∈ idsOn ecatMap row.2 := mem_idsOn.mpr ⟨_, hch, hmem⟩
      have hne : idsOn ecatMap row.2 ≠ [] := List.ne_nil_of_mem hon
      exact ⟨_, (hentries _).mpr (Or.inl ⟨row, hrow, hne, rfl⟩), hch,
        (allows_newSubscription hne hid).mpr hon⟩
    · rw [hch] at hmem
      obtain ⟨name, hname⟩ := Option.isSome_iff_exists.mp (hnamed row hrow id hmem)
      exact ⟨_, (hentries _).mpr (Or.inr ⟨row, hrow, id, hmem, name, hname, rfl⟩),
        hch ▸ List.mem_singleton_self _,
        (allows_newSubscription (List.cons_ne_nil id []) hid).mpr (List.mem_singleton_self _)⟩
  own := by
    intro e he id device hlookup hid hallows
    rcases (hentries e).mp he with ⟨row, -, hne, rfl⟩ | ⟨row, -, id', hmem, name, -, rfl⟩
    · have hon : id ∈ idsOn ecatMap row.2 := (allows_newSubscription hne hid).mp hallows
      obtain ⟨channel, hch, hmem⟩ := mem_idsOn.mp hon
      rwa [channel_of_mem_filterIds hmem hlookup]
    · have hin := (allows_newSubscription (List.cons_ne_nil _ []) hid).mp hallows
      rw [← List.mem_singleton.mp hin] at hmem
      rw [channel_of_mem_filterIds hmem hlookup]
      exact List.mem_singleton_self _

/-! ## The Zenoh adapter -/

/-- The two filters of the plugins agree on a map of discovery. -/
theorem zenoh_filterIds_eq (channel : ChannelRx) :
    Zenoh.filterIds ecatMap channel = Dds.filterIds ecatMap channel := by
  unfold Zenoh.filterIds Dds.filterIds
  refine List.filterMap_congr fun e he => ?_
  have hlookup : ecatMap.devices.lookup e.1 = some e.2 := AList.mem_lookup_iff.mpr he
  simp only [hlookup, ecatMap.ecatId_eq _ _ hlookup, ne_eq, ite_not]

theorem mem_zenoh_jointIds {id : EcatId} :
    id ∈ Zenoh.jointIds ecatMap ↔ id ∈ idsOn ecatMap [.motor, .gripper, .valve] := by
  simp only [Zenoh.jointIds, zenoh_filterIds_eq, mem_idsOn, List.mem_append, List.mem_cons,
    List.not_mem_nil, or_false, exists_eq_or_imp, exists_eq_left]
  tauto

/-- An aggregated topic, whatever the order of its ids. -/
theorem exists_topicRegs {channels : List ChannelRx} {ids : List EcatId}
    (hids : ∀ id, id ∈ ids ↔ id ∈ idsOn ecatMap channels) {key : String}
    {ros2MessageType : Zenoh.Ros2MessageType} {e : TopicEntry} :
    (∃ r, r ∈ Zenoh.topicRegs channels ids key ros2MessageType ∧ zenohEntry r = e) ↔
      AggregatedEntry ecatMap key channels e := by
  have hne : ids ≠ [] ↔ idsOn ecatMap channels ≠ [] := by
    rw [ne_eq, ne_eq, List.eq_nil_iff_forall_not_mem, List.eq_nil_iff_forall_not_mem]
    exact not_congr (forall_congr' fun id => not_congr (hids id))
  simp only [Zenoh.mem_topicRegs, AggregatedEntry, and_assoc, exists_and_left, exists_eq_left, hne,
    zenohEntry, newSubscription_congr channels hids, eq_comm]

theorem exists_deviceRegs {channel : ChannelRx} {key : String → String}
    {ros2MessageType : Zenoh.Ros2MessageType} {e : TopicEntry} :
    (∃ r, r ∈ Zenoh.deviceRegs robot ecatMap channel key ros2MessageType ∧ zenohEntry r = e) ↔
      DeviceEntry robot ecatMap channel key e := by
  unfold DeviceEntry
  simp only [Zenoh.mem_deviceRegs, zenoh_filterIds_eq]
  constructor
  · rintro ⟨r, ⟨id, hid, name, hname, rfl⟩, rfl⟩
    exact ⟨id, hid, name, hname, rfl⟩
  · rintro ⟨id, hid, name, hname, rfl⟩
    exact ⟨_, ⟨id, hid, name, hname, rfl⟩, rfl⟩

theorem idsOn_singleton (channel : ChannelRx) :
    idsOn ecatMap [channel] = Dds.filterIds ecatMap channel := List.flatMap_singleton _ _

/-- **The Zenoh adapter** registers the table. -/
theorem mem_zenoh_iff {declared : String → Bool} {e : TopicEntry} :
    e ∈ (Zenoh.init declared topics robot ecatMap).2.map zenohEntry ↔
      InTable topics robot ecatMap e := by
  have hone : ∀ channel id, id ∈ Zenoh.filterIds ecatMap channel ↔ id ∈ idsOn ecatMap [channel] :=
    fun channel id => by rw [zenoh_filterIds_eq, idsOn_singleton]
  rw [Zenoh.init_eq.1, List.mem_map]
  unfold Zenoh.aggregatedRegs Zenoh.singleRegs InTable aggregatedTopics deviceTopics
  simp only [List.mem_append, or_and_right, exists_or, exists_topicRegs fun _ => mem_zenoh_jointIds,
    exists_topicRegs (hone _), exists_deviceRegs, List.mem_cons, List.not_mem_nil, or_false,
    or_assoc, exists_eq_left]
  -- the plugin registers the valves before the grippers
  exact or_congr_right (or_congr_right or_left_comm)

/-! ## The DDS adapter -/

theorem exists_aggregateSteps {kind : Dds.PublisherKind} {channels : List ChannelRx}
    {ids : List EcatId} (hids : ids = idsOn ecatMap channels) {topic : String} {e : TopicEntry} :
    (∃ r, .create r ∈ Dds.aggregateSteps kind channels ids topic ∧ ddsEntry r = e) ↔
      AggregatedEntry ecatMap topic channels e := by
  subst hids
  simp only [Dds.create_mem_aggregateSteps, AggregatedEntry, and_assoc, exists_and_left,
    exists_eq_left, ddsEntry, eq_comm]

/-- A channel whose block does not fail. -/
theorem exists_deviceSteps {kind : Dds.PublisherKind} {channel : ChannelRx}
    {topic : String → String}
    (hfail : .fail ∉ Dds.deviceSteps robot ecatMap kind channel topic) {e : TopicEntry} :
    (∃ r, .create r ∈ Dds.deviceSteps robot ecatMap kind channel topic ∧ ddsEntry r = e) ↔
      DeviceEntry robot ecatMap channel topic e := by
  unfold DeviceEntry
  simp only [Dds.create_mem_deviceSteps]
  constructor
  · rintro ⟨r, ⟨id, name, hids, hname, rfl⟩, rfl⟩
    exact ⟨id, by simp [hids], name, hname, rfl⟩
  · rintro ⟨id, hid, name, hname, rfl⟩
    have hids := (Dds.of_fail_notMem_deviceSteps hfail hid).1
    exact ⟨_, ⟨id, name, hids, hname, rfl⟩, rfl⟩

/-- **The DDS adapter** registers the table when it succeeds, and every device that needs a name has
one. -/
theorem mem_dds_iff {endpointOk : String → Bool}
    (h : (Dds.init endpointOk topics robot ecatMap).1 = .returned true) :
    (∀ e, e ∈ (Dds.init endpointOk topics robot ecatMap).2.map ddsEntry ↔
        InTable topics robot ecatMap e) ∧
      ∀ row ∈ deviceTopics topics, ∀ id ∈ Dds.filterIds ecatMap row.1,
        (robot.mapEcatId.lookup id).isSome := by
  obtain ⟨hfail, hmem⟩ := Dds.init_returned_true h
  simp only [Dds.initSteps, List.mem_append, not_or] at hfail
  obtain ⟨⟨⟨⟨-, himu⟩, hpowerBoard⟩, hpump⟩, hforceTorque⟩ := hfail
  constructor
  · intro e
    have hjoint : Dds.jointIds ecatMap = idsOn ecatMap [.motor, .gripper, .valve] := by
      simp [Dds.jointIds, idsOn]
    have hone := fun channel => (@idsOn_singleton ecatMap channel).symm
    unfold InTable aggregatedTopics deviceTopics
    rw [List.mem_map]
    simp only [hmem, Dds.initSteps, List.mem_append, or_and_right, exists_or, Dds.jointStateSteps,
      Dds.motorSteps, Dds.gripperSteps, Dds.valveSteps, Dds.imuSteps, Dds.powerBoardSteps,
      Dds.pumpSteps, Dds.forceTorqueSteps, exists_aggregateSteps hjoint,
      exists_aggregateSteps (hone _), exists_deviceSteps himu, exists_deviceSteps hpowerBoard,
      exists_deviceSteps hpump, exists_deviceSteps hforceTorque, List.mem_cons, List.not_mem_nil,
      or_false, or_assoc, exists_eq_left]
  · intro row hrow id hid
    simp only [deviceTopics, List.mem_cons, List.not_mem_nil, or_false] at hrow
    rcases hrow with rfl | rfl | rfl | rfl
    · exact (Dds.of_fail_notMem_deviceSteps himu hid).2
    · exact (Dds.of_fail_notMem_deviceSteps hpowerBoard hid).2
    · exact (Dds.of_fail_notMem_deviceSteps hpump hid).2
    · exact (Dds.of_fail_notMem_deviceSteps hforceTorque hid).2

end

/-- **One table.** Where the DDS adapter succeeds, so does the Zenoh adapter that can declare its
keys. They register the same topics, and these allow every device on its own channel only. -/
theorem init_same_topics (endpointOk : String → Bool) (topics : TopicNamespace)
    (robot : RobotConfig) (ecatMap : EcatMap)
    (h : (Dds.init endpointOk topics robot ecatMap).1 = .returned true) :
    let dds := (Dds.init endpointOk topics robot ecatMap).2.map ddsEntry
    let zenoh := (Zenoh.init (fun _ => true) topics robot ecatMap).2.map zenohEntry
    (Zenoh.init (fun _ => true) topics robot ecatMap).1 = true ∧
      (∀ e, e ∈ dds ↔ e ∈ zenoh) ∧ Covered ecatMap dds ∧ Covered ecatMap zenoh := by
  intro dds zenoh
  obtain ⟨hdds, hnamed⟩ := mem_dds_iff h
  refine ⟨?_, fun e => (hdds e).trans mem_zenoh_iff.symm, covered_of_inTable hdds hnamed,
    covered_of_inTable (fun _ => mem_zenoh_iff) hnamed⟩
  refine Zenoh.init_eq.2.mpr ⟨fun channel hchannel id hid => ?_, fun _ _ => rfl⟩
  rw [zenoh_filterIds_eq] at hid
  obtain ⟨key, hrow⟩ : ∃ key, (channel, key) ∈ deviceTopics topics := by
    simp only [Zenoh.deviceChannels, List.mem_cons, List.not_mem_nil, or_false] at hchannel
    rcases hchannel with rfl | rfl | rfl | rfl <;> exact ⟨_, by simp [deviceTopics]; rfl⟩
  exact hnamed _ hrow id hid

/-- A robot with a motor and an IMU. -/
theorem init_same_topics_imu :
    let ecatMap := (EcatMap.empty.emplace ⟨1, "hip", .rxCia402, .motor, .motor⟩).emplace
      ⟨2, "imu", .rxImuVn, .imu, .imu⟩
    let robot : RobotConfig := { mapEcatId := (∅ : IdNames).insert 2 "imu_1" }
    let zenoh := Zenoh.init (fun _ => true) ["kyon"] robot ecatMap
    zenoh.1 = true ∧ zenoh.2.map Zenoh.Registration.ids = [[1], [1], [2]] ∧
      Covered ecatMap (zenoh.2.map zenohEntry) := by
  intro ecatMap robot zenoh
  obtain ⟨hok, -, -, hcovered⟩ := init_same_topics (fun _ => true) ["kyon"] robot ecatMap rfl
  exact ⟨hok, rfl, hcovered⟩

end EcatMiddleware.Paths
