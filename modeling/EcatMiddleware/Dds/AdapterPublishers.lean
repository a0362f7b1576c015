import EcatMiddleware.Core.ConfigTopics
import EcatMiddleware.Core.RobotConfig
import EcatMiddleware.Dds.PdoPublisher

/-!
# The DDS adapter

`DDSAdapterPublishers::init` registers one publisher for each kind of device that discovery found.

* `initSteps` lists what `init` does in order, `init` runs it up to the first failure.
* `init_jointState`: the joint-state publisher comes first.
-/

namespace EcatMiddleware.Dds

open EcatMiddleware.Core Pb

/-- The publisher classes. -/
inductive PublisherKind where
  | jointState
  | motors
  | gripper
  | valve
  | imu
  | powerBoard
  | pump
  | forceTorque
  deriving DecidableEq, Repr

/-- The arguments of one `create_publisher`. -/
structure Registration where
  kind : PublisherKind
  channels : List ChannelRx
  ids : List EcatId
  topic : String
  deriving DecidableEq, Repr

/-- How `init` ends. -/
inductive InitResult where
  | returned (ok : Bool)
  | threw (what : String)
  deriving DecidableEq, Repr

/-- What `init` does next: it creates a publisher, or logs an error and returns false. -/
inductive InitStep where
  | create (r : Registration)
  | fail
  deriving DecidableEq, Repr

/-! ## The ids of a channel -/

/-- The lambda `filter`: the ids that were discovered on a channel. -/
def filterIds (ecatMap : EcatMap) (channel : ChannelRx) : List EcatId :=
  ecatMap.devices.entries.filterMap fun e =>
    match ecatMap.devices.lookup e.1 with
    | none => none
    | some device => if device.channel ≠ channel then none else some e.2.ecatId

/-- `joint_ids`. -/
def jointIds (ecatMap : EcatMap) : List EcatId :=
  filterIds ecatMap .motor ++ filterIds ecatMap .gripper ++ filterIds ecatMap .valve

/-! ## Initialization -/

section Init

variable (topics : TopicNamespace) (robotConfig : RobotConfig) (ecatMap : EcatMap)

/-- An aggregated publisher is created when its channels have any device. -/
def aggregateSteps (kind : PublisherKind) (channels : List ChannelRx) (ids : List EcatId)
    (topic : String) : List InitStep :=
  if ids ≠ [] then [.create ⟨kind, channels, ids, topic⟩] else []

def jointStateSteps : List InitStep :=
  aggregateSteps .jointState [.motor, .gripper, .valve] (jointIds ecatMap) topics.jointState

def motorSteps : List InitStep :=
  aggregateSteps .motors [.motor] (filterIds ecatMap .motor) topics.motor

def gripperSteps : List InitStep :=
  aggregateSteps .gripper [.gripper] (filterIds ecatMap .gripper) topics.gripper

def valveSteps : List InitStep :=
  aggregateSteps .valve [.valve] (filterIds ecatMap .valve) topics.valve

/-- A device publisher is created when its channel has one device, and that one has a name. -/
def deviceSteps (kind : PublisherKind) (channel : ChannelRx) (topic : String → String) :
    List InitStep :=
  match filterIds ecatMap channel with
  | [] => []
  | [id] => match robotConfig.mapEcatId.lookup id with
    | none => [.fail]
    | some name => [.create ⟨kind, [channel], [id], topic name⟩]
  | _ => [.fail]

def imuSteps : List InitStep := deviceSteps robotConfig ecatMap .imu .imu topics.imu

def powerBoardSteps : List InitStep :=
  deviceSteps robotConfig ecatMap .powerBoard .powerBoard topics.powerBoard

def pumpSteps : List InitStep := deviceSteps robotConfig ecatMap .pump .pump topics.pump

def forceTorqueSteps : List InitStep :=
  deviceSteps robotConfig ecatMap .forceTorque .forceTorque topics.forceTorque

def initSteps : List InitStep :=
  jointStateSteps topics ecatMap ++ motorSteps topics ecatMap ++ gripperSteps topics ecatMap ++
    valveSteps topics ecatMap ++ imuSteps topics robotConfig ecatMap ++
    powerBoardSteps topics robotConfig ecatMap ++ pumpSteps topics robotConfig ecatMap ++
    forceTorqueSteps topics robotConfig ecatMap

end Init

/-- The steps up to the first that fails. `endpointOk` tells whether the DDS writer of a topic can
be created; a publisher is registered before that is known. -/
def runSteps (endpointOk : String → Bool) :
    List InitStep → List Registration → InitResult × List Registration
  | [], regs => (.returned true, regs)
  | .fail :: _, regs => (.returned false, regs)
  | .create r :: steps, regs =>
    if !endpointOk r.topic then
      (.threw ("Failed to initialize DDS publisher: " ++ r.topic), regs ++ [r])
    else runSteps endpointOk steps (regs ++ [r])

/-- `init`: how it ends, and the publishers that are registered then. -/
def init (endpointOk : String → Bool) (topics : TopicNamespace) (robotConfig : RobotConfig)
    (ecatMap : EcatMap) : InitResult × List Registration :=
  runSteps endpointOk (initSteps topics robotConfig ecatMap) []

/-- The adapter's life: the registrations of `init`, then cycles, as long as no publisher raises. -/
def adapterOps (regs : List Registration) (spins : List (Bool × RxQueues)) : List Op :=
  regs.map (fun r => .register r.channels r.ids) ++ spins.map fun s => .spin s.1 s.2

/-! ## The registered ids -/

theorem filterIds_eq (ecatMap : EcatMap) (channel : ChannelRx) :
    filterIds ecatMap channel = ecatMap.devices.keys.filter fun id =>
      (ecatMap.devices.lookup id).any fun device => device.channel = channel := by
  unfold filterIds
  rw [AList.keys, List.keys, ← List.filterMap_eq_filter, List.filterMap_map]
  refine List.filterMap_congr fun e he => ?_
  have hlookup : ecatMap.devices.lookup e.1 = some e.2 := AList.mem_lookup_iff.mpr he
  by_cases hchannel : e.2.channel = channel
  · simp [hlookup, hchannel, ecatMap.ecatId_eq _ _ hlookup]
  · simp [hlookup, hchannel, Option.guard]

theorem mem_filterIds {ecatMap : EcatMap} {channel : ChannelRx} {id : EcatId} :
    id ∈ filterIds ecatMap channel ↔
      ∃ device, ecatMap.devices.lookup id = some device ∧ device.channel = channel := by
  rw [filterIds_eq, List.mem_filter, ← AList.mem_keys, ← AList.lookup_isSome]
  cases ecatMap.devices.lookup id <;> simp

theorem mem_of_mem_filterIds {ecatMap : EcatMap} {channel : ChannelRx} {id : EcatId}
    (h : id ∈ filterIds ecatMap channel) : id ∈ ecatMap := by
  obtain ⟨device, hlookup, -⟩ := mem_filterIds.mp h
  exact AList.lookup_isSome.mp (by rw [hlookup]; rfl)

theorem nodup_filterIds (ecatMap : EcatMap) (channel : ChannelRx) :
    (filterIds ecatMap channel).Nodup := by
  rw [filterIds_eq]
  exact ecatMap.devices.keys_nodup.filter _

/-- A device is discovered on one channel only. -/
theorem channel_unique {ecatMap : EcatMap} {ch ch' : ChannelRx} {id : EcatId}
    (h : id ∈ filterIds ecatMap ch) (h' : id ∈ filterIds ecatMap ch') : ch = ch' := by
  obtain ⟨device, hlookup, rfl⟩ := mem_filterIds.mp h
  obtain ⟨device', hlookup', rfl⟩ := mem_filterIds.mp h'
  rw [Option.some.inj (hlookup.symm.trans hlookup')]

theorem nodup_jointIds (ecatMap : EcatMap) : (jointIds ecatMap).Nodup := by
  have hne : ∀ {ch ch'}, ch ≠ ch' → ∀ id ∈ filterIds ecatMap ch, id ∉ filterIds ecatMap ch' :=
    fun hch id h h' => hch (channel_unique h h')
  unfold jointIds
  refine List.Nodup.append (List.Nodup.append (nodup_filterIds _ _) (nodup_filterIds _ _) ?_)
    (nodup_filterIds _ _) ?_
  · exact fun id h => hne (by decide) id h
  · intro id h
    rcases List.mem_append.mp h with h | h
    · exact hne (by decide) id h
    · exact hne (by decide) id h

/-! ## The joint-state publisher -/

/-- Registered publishers stay registered. -/
theorem runSteps_append (endpointOk : String → Bool) (steps : List InitStep) :
    ∀ regs, ∃ more, (runSteps endpointOk steps regs).2 = regs ++ more := by
  induction steps with
  | nil => exact fun regs => ⟨[], (List.append_nil _).symm⟩
  | cons step steps ih =>
    intro regs
    cases step with
    | fail => exact ⟨[], (List.append_nil _).symm⟩
    | create r =>
      unfold runSteps
      split_ifs
      · exact ⟨[r], rfl⟩
      · obtain ⟨more, hmore⟩ := ih (regs ++ [r])
        exact ⟨r :: more, by rw [hmore, List.append_assoc]; rfl⟩

/-- With any motor, gripper or valve, the joint-state publisher is the first one. -/
theorem init_jointState (endpointOk : String → Bool) (topics : TopicNamespace)
    (robotConfig : RobotConfig) {ecatMap : EcatMap} (h : jointIds ecatMap ≠ []) :
    ∃ more, (init endpointOk topics robotConfig ecatMap).2 =
      ⟨.jointState, [.motor, .gripper, .valve], jointIds ecatMap, topics.jointState⟩ :: more := by
  unfold init initSteps jointStateSteps aggregateSteps
  rw [if_pos h]
  simp only [List.append_assoc, List.cons_append, List.nil_append]
  unfold runSteps
  split_ifs
  · exact ⟨[], rfl⟩
  · obtain ⟨more, hmore⟩ := runSteps_append endpointOk _ [_]
    exact ⟨more, hmore⟩

/-! ## The cycles of a registered publisher -/

theorem callsOf_registrations (regs : List Registration) (i : ℕ) :
    callsOf (adapterOps regs []) i = [] := by
  unfold adapterOps
  rw [List.map_nil, List.append_nil]
  induction regs using List.reverseRecOn with
  | nil => rfl
  | append_singleton regs r ih =>
    rw [List.map_append, List.map_singleton, callsOf_register]
    exact ih

theorem adapterOps_concat (regs : List Registration) (spins : List (Bool × RxQueues))
    (s : Bool × RxQueues) :
    adapterOps regs (spins ++ [s]) = adapterOps regs spins ++ [.spin s.1 s.2] := by
  simp [adapterOps]

/-- The publishers stand in the order of their registrations. -/
theorem length_subscriptions (regs : List Registration) :
    (run (regs.map fun r => .register r.channels r.ids)).subscriptions.length = regs.length := by
  induction regs using List.reverseRecOn with
  | nil => rfl
  | append_singleton regs r ih =>
    rw [List.map_append, List.map_singleton, run_concat]
    show (_ ++ [_]).length = _
    rw [List.length_append, ih, List.length_append]
    rfl

/-- The facts about a cycle over `queues` of a publisher that is registered for `ids`: the slots
that it consumed with their PDOs, and the `valid` it was told. -/
structure IdCycle (ids : List EcatId) (channels : List ChannelRx) (queues : RxQueues)
    (slots : List Slot) (pdos : List EcSlavePdo) (valid : Bool) : Prop where
  nodup : slots.Nodup
  delivered : List.Forall₂ (FirstDelivered queues channels) slots pdos
  mem_iff : ∀ id : Slot, id ∈ slots ↔
    (∃ x ∈ ids, x.toNat = id.val) ∧ DrainedOn queues channels id.val
  valid_iff : valid = true ↔
    ∀ x ∈ ids, x.toNat < maxEcatIds → DrainedOn queues channels x.toNat

namespace IdCycle

variable {ids : List EcatId} {channels : List ChannelRx} {queues : RxQueues} {slots : List Slot}
  {pdos : List EcSlavePdo} {valid : Bool}

/-- A cycle is valid when it drained every id. -/
theorem valid_iff_drained (h : IdCycle ids channels queues slots pdos valid)
    (hids : ∀ id ∈ ids, id.toNat < maxEcatIds) :
    valid = true ↔ ∀ x ∈ ids, DrainedOn queues channels x.toNat := by
  rw [h.valid_iff]
  exact forall₂_congr fun id hid => ⟨fun h => h (hids id hid), fun h _ => h⟩

/-- The ids that were consumed in a valid cycle. -/
theorem perm (h : IdCycle ids channels queues slots pdos valid) (hnodup : ids.Nodup)
    (hids : ∀ id ∈ ids, id.toNat < maxEcatIds) (hv : valid = true) :
    (slots.map fun id => UInt32.ofNat id.val).Perm ids := by
  have htoNat : ∀ id : Slot, (UInt32.ofNat id.val).toNat = id.val := fun id =>
    UInt32.toNat_ofNat_of_lt' (id.isLt.trans (by decide))
  refine (List.perm_ext_iff_of_nodup ?_ hnodup).mpr fun x => ?_
  · refine h.nodup.map fun a b hab => Fin.ext ?_
    rw [← htoNat a, ← htoNat b, hab]
  · rw [List.mem_map]
    constructor
    · rintro ⟨id, hid, rfl⟩
      obtain ⟨⟨x, hx, he⟩, -⟩ := (h.mem_iff id).mp hid
      rwa [← he, UInt32.ofNat_toNat]
    · intro hx
      exact ⟨⟨x.toNat, hids x hx⟩,
        (h.mem_iff _).mpr ⟨⟨x, hx, rfl⟩, (h.valid_iff_drained hids).mp hv x hx⟩,
        UInt32.ofNat_toNat⟩

/-- The names under which the consumed PDOs are listed. -/
theorem map_deviceName (h : IdCycle ids channels queues slots pdos valid) (names : IdNames) :
    pdos.map (deviceName names) =
      (slots.map fun id => UInt32.ofNat id.val).map fun id => resolveName id names := by
  rw [List.map_map, ← List.forall₂_eq_eq_eq, List.forall₂_map_left_iff,
    List.forall₂_map_right_iff]
  refine h.delivered.flip.imp fun p id (hdel : FirstDelivered queues channels id p) => ?_
  have hidx : p.header.index.toUInt32.toNat = id.val :=
    (Int32.toInt_eq_iff _ (id.isLt.trans (by decide))).mp hdel.hasIndex.header_index
  unfold deviceName
  rw [← UInt32.ofNat_toNat (x := p.header.index.toUInt32), hidx]
  rfl

/-- A consumed PDO is that of a configured id. -/
theorem exists_id (h : IdCycle ids channels queues slots pdos valid) {p : EcSlavePdo}
    (hp : p ∈ pdos) :
    ∃ id ∈ ids, ∃ slot : Slot, slot.val = id.toNat ∧ FirstDelivered queues channels slot p := by
  obtain ⟨slot, hslot, hdel⟩ := exists_left_of_forall₂ h.delivered hp
  obtain ⟨⟨id, hid, he⟩, -⟩ := (h.mem_iff slot).mp hslot
  exact ⟨id, hid, slot, he.symm, hdel⟩

/-- The PDO of a configured id is consumed when it was drained. -/
theorem exists_pdo (h : IdCycle ids channels queues slots pdos valid)
    (hids : ∀ id ∈ ids, id.toNat < maxEcatIds) {id : EcatId} (hid : id ∈ ids)
    (hdrained : DrainedOn queues channels id.toNat) :
    ∃ p ∈ pdos, FirstDelivered queues channels ⟨id.toNat, hids id hid⟩ p := by
  have hslot : (⟨id.toNat, hids id hid⟩ : Slot) ∈ slots :=
    (h.mem_iff _).mpr ⟨⟨id, hid, rfl⟩, hdrained⟩
  exact exists_right_of_forall₂ h.delivered hslot

theorem length_eq (h : IdCycle ids channels queues slots pdos valid) (hnodup : ids.Nodup)
    (hids : ∀ id ∈ ids, id.toNat < maxEcatIds) (hv : valid = true) :
    pdos.length = ids.length := by
  rw [← h.delivered.length_eq, ← (h.perm hnodup hids hv).length_eq, List.length_map]

end IdCycle

/-- **One cycle of a registered publisher.** -/
theorem exists_idCycle (before : List Registration) {r : Registration} (hne : r.ids ≠ [])
    (after : List Registration) (spins : List (Bool × RxQueues)) (queues : RxQueues) :
    ∃ slots pdos valid, IdCycle r.ids r.channels queues slots pdos valid ∧
      callsOf (adapterOps (before ++ r :: after) spins ++ [.spin true queues]) before.length =
        callsOf (adapterOps (before ++ r :: after) spins) before.length ++
          .beginCycle :: (pdos.map .consume ++ [.endCycle valid]) := by
  obtain ⟨sub, slots, pdos, valid, hcons, hch, hslots, hvalid, hcalls⟩ :=
    registered_cycle (before.map fun r => .register r.channels r.ids)
      (after.map (fun r => Op.register r.channels r.ids) ++ spins.map fun s => Op.spin s.1 s.2)
      r.channels hne queues
  refine ⟨slots, pdos, valid, ⟨hcons.nodup, hch ▸ hcons.forall₂, hslots, hvalid⟩, ?_⟩
  rw [length_subscriptions] at hcalls
  simpa [adapterOps] using hcalls

/-! ## The registered publishers -/

/-- `init` registers what one of its steps creates. -/
theorem mem_runSteps {endpointOk : String → Bool} {r : Registration} (steps : List InitStep) :
    ∀ regs, r ∈ (runSteps endpointOk steps regs).2 → r ∈ regs ∨ .create r ∈ steps := by
  induction steps with
  | nil => exact fun regs h => Or.inl h
  | cons step steps ih =>
    intro regs h
    cases step with
    | fail => exact Or.inl h
    | create r' =>
      unfold runSteps at h
      have hcases : r ∈ regs ++ [r'] ∨ .create r ∈ steps := by
        split_ifs at h
        · exact Or.inl h
        · exact ih _ h
      rw [List.mem_append, List.mem_singleton] at hcases
      rcases hcases with (h | rfl) | h
      · exact Or.inl h
      · exact Or.inr List.mem_cons_self
      · exact Or.inr (List.mem_cons_of_mem _ h)

theorem create_of_mem_init {endpointOk : String → Bool} {topics : TopicNamespace}
    {robotConfig : RobotConfig} {ecatMap : EcatMap} {r : Registration}
    (h : r ∈ (init endpointOk topics robotConfig ecatMap).2) :
    .create r ∈ initSteps topics robotConfig ecatMap :=
  (mem_runSteps _ _ h).resolve_left List.not_mem_nil

/-- When `init` returns true it has made every step. -/
theorem runSteps_returned_true {endpointOk : String → Bool} (steps : List InitStep) :
    ∀ regs, (runSteps endpointOk steps regs).1 = .returned true →
      .fail ∉ steps ∧
        ∀ r, r ∈ (runSteps endpointOk steps regs).2 ↔ r ∈ regs ∨ .create r ∈ steps := by
  induction steps with
  | nil => exact fun regs _ => ⟨List.not_mem_nil, fun r => by simp [runSteps]⟩
  | cons step steps ih =>
    intro regs h
    cases step with
    | fail => exact absurd h (by simp [runSteps])
    | create r' =>
      unfold runSteps at h ⊢
      split_ifs at h ⊢
      obtain ⟨hfail, hmem⟩ := ih _ h
      refine ⟨by simpa using hfail, fun r => ?_⟩
      rw [hmem, List.mem_append, List.mem_singleton, List.mem_cons, InitStep.create.injEq,
        or_assoc]

theorem init_returned_true {endpointOk : String → Bool} {topics : TopicNamespace}
    {robotConfig : RobotConfig} {ecatMap : EcatMap}
    (h : (init endpointOk topics robotConfig ecatMap).1 = .returned true) :
    .fail ∉ initSteps topics robotConfig ecatMap ∧
      ∀ r, r ∈ (init endpointOk topics robotConfig ecatMap).2 ↔
        .create r ∈ initSteps topics robotConfig ecatMap := by
  obtain ⟨hfail, hmem⟩ := runSteps_returned_true _ [] h
  exact ⟨hfail, fun r => (hmem r).trans (or_iff_right List.not_mem_nil)⟩

theorem create_mem_aggregateSteps {kind : PublisherKind} {channels : List ChannelRx}
    {ids : List EcatId} {topic : String} {r : Registration} :
    .create r ∈ aggregateSteps kind channels ids topic ↔
      ids ≠ [] ∧ r = ⟨kind, channels, ids, topic⟩ := by
  unfold aggregateSteps
  split_ifs with h
  · simp [h]
  · simp [h]

theorem create_mem_deviceSteps {robotConfig : RobotConfig} {ecatMap : EcatMap}
    {kind : PublisherKind} {channel : ChannelRx} {topic : String → String} {r : Registration} :
    .create r ∈ deviceSteps robotConfig ecatMap kind channel topic ↔
      ∃ id name, filterIds ecatMap channel = [id] ∧ robotConfig.mapEcatId.lookup id = some name ∧
        r = ⟨kind, [channel], [id], topic name⟩ := by
  unfold deviceSteps
  match hids : filterIds ecatMap channel with
  | [] => simp
  | [id] => cases hname : robotConfig.mapEcatId.lookup id <;> simp [hname]
  | _ :: _ :: _ => simp

/-- A channel of which the DDS adapter takes no more than one device, and that one named. -/
theorem of_fail_notMem_deviceSteps {robotConfig : RobotConfig} {ecatMap : EcatMap}
    {kind : PublisherKind} {channel : ChannelRx} {topic : String → String}
    (h : .fail ∉ deviceSteps robotConfig ecatMap kind channel topic) {id : EcatId}
    (hid : id ∈ filterIds ecatMap channel) :
    filterIds ecatMap channel = [id] ∧ (robotConfig.mapEcatId.lookup id).isSome := by
  unfold deviceSteps at h
  match hids : filterIds ecatMap channel with
  | [] => exact absurd hid (by simp [hids])
  | [id'] =>
    obtain rfl : id = id' := by simpa [hids] using hid
    refine ⟨rfl, ?_⟩
    rw [hids] at h
    cases hname : robotConfig.mapEcatId.lookup id with
    | none => simp [hname] at h
    | some name => rfl
  | _ :: _ :: _ =>
    rw [hids] at h
    exact absurd (List.mem_singleton_self _) h

end EcatMiddleware.Dds
