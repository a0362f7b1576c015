import EcatMiddleware.Zenoh.Ros2Cdr
import Mathlib.Data.List.TakeWhile

/-!
# The state messages

A device cycle reaches the subscribers as the message of a DDS publisher or as the one that the
Zenoh serializer encodes. The conversion of the payloads is shared, names and headers are filled
apart.

* `message_feed_eq`: an aggregated message of the publisher is the serializer's with another header.
* `same_data`: on every topic both hold the same data; the stamp of the serializer is the PDO's, and
  that of the publisher is the same time on the clock of the host.
-/

namespace EcatMiddleware.Paths

open EcatMiddleware.Core Dds Pb Zenoh

/-! ## Aggregated messages -/

/-- The header of a message is apart from its other fields. -/
class LawfulAggregateMessage (Msg : Type) [AggregateMessage Msg] : Prop where
  setHeader_setHeader : ∀ (header header' : Idl.Header) (msg : Msg),
    AggregateMessage.setHeader header (AggregateMessage.setHeader header' msg) =
      AggregateMessage.setHeader header msg
  pushName_setHeader : ∀ (name : String) (header : Idl.Header) (msg : Msg),
    AggregateMessage.pushName name (AggregateMessage.setHeader header msg) =
      AggregateMessage.setHeader header (AggregateMessage.pushName name msg)
  setHeader_empty : AggregateMessage.setHeader {} (AggregateMessage.empty : Msg) =
    AggregateMessage.empty

instance : LawfulAggregateMessage Idl.Motor := ⟨fun _ _ _ => rfl, fun _ _ _ => rfl, rfl⟩

instance : LawfulAggregateMessage Idl.Valve := ⟨fun _ _ _ => rfl, fun _ _ _ => rfl, rfl⟩

instance : LawfulAggregateMessage Idl.Gripper := ⟨fun _ _ _ => rfl, fun _ _ _ => rfl, rfl⟩

section Aggregate

variable {Msg : Type} [AggregateMessage Msg]

/-- The conversions that a `switch` selects leave the header alone. -/
def IgnoresHeader (switch : Switch Msg) : Prop :=
  ∀ pdo convert, switch pdo = some convert → ∀ (header : Idl.Header) (msg : Msg),
    convert (AggregateMessage.setHeader header msg) =
      AggregateMessage.setHeader header <$> convert msg

/-- The header that the last PDO leaves. -/
def lastHeader (header : Idl.Header) (fed : List (Clock × EcSlavePdo)) : Idl.Header :=
  fed.foldl (fun _ f => headerFromProtobuf f.1 f.2) header

variable {switch : Switch Msg} {names : IdNames}

/-- The message of a publisher depends on the PDOs alone. -/
theorem message_feed (fed : List (Clock × EcSlavePdo)) : ∀ p : PdoPublisher Msg,
    (fun p : PdoPublisher Msg => p.message) <$>
        fed.foldlM (fun p f => PdoPublisher.consume switch names f.1 f.2 p) p =
      fed.foldlM (fun msg f => Prod.snd <$> process switch names f.1 f.2 msg) p.message := by
  induction fed with
  | nil => exact fun _ => rfl
  | cons f fed ih =>
    intro p
    rw [List.foldlM_cons, List.foldlM_cons, PdoPublisher.consume]
    cases process switch names f.1 f.2 p.message with
    | error e => rfl
    | ok result => exact ih { p with message := result.2, hasUpdate := p.hasUpdate || result.1 }

variable [LawfulAggregateMessage Msg]

/-- One PDO that is known by its own name. -/
theorem process_eq_appendStep (hswitch : IgnoresHeader switch) {pdo : EcSlavePdo}
    (haccepted : (switch pdo).isSome) (hname : deviceName names pdo = pdo.header.strId)
    (clock : Clock) (header : Idl.Header) (msg : Msg) :
    Prod.snd <$> process switch names clock pdo (AggregateMessage.setHeader header msg) =
      AggregateMessage.setHeader (headerFromProtobuf clock pdo) <$> appendStep switch msg pdo := by
  obtain ⟨convert, hconvert⟩ := Option.isSome_iff_exists.mp haccepted
  have hignores := hswitch pdo convert hconvert header msg
  unfold appendStep
  rw [process_of_some _ names hconvert, hconvert, Option.getD_some, hname, hignores]
  cases convert msg with
  | error e => rfl
  | ok converted =>
    show Except.ok (AggregateMessage.setHeader _ (AggregateMessage.pushName _
      (AggregateMessage.setHeader header converted))) = _
    rw [LawfulAggregateMessage.pushName_setHeader, LawfulAggregateMessage.setHeader_setHeader]
    rfl

theorem foldlM_process_eq (hswitch : IgnoresHeader switch) {fed : List (Clock × EcSlavePdo)}
    (haccepted : ∀ f ∈ fed, (switch f.2).isSome)
    (hnames : ∀ f ∈ fed, deviceName names f.2 = f.2.header.strId) :
    ∀ (header : Idl.Header) (msg : Msg),
      fed.foldlM (fun msg f => Prod.snd <$> process switch names f.1 f.2 msg)
          (AggregateMessage.setHeader header msg) =
        AggregateMessage.setHeader (lastHeader header fed) <$>
          (fed.map Prod.snd).foldlM (appendStep switch) msg := by
  induction fed with
  | nil => exact fun _ _ => rfl
  | cons f fed ih =>
    intro header msg
    have hhead := process_eq_appendStep hswitch (haccepted f List.mem_cons_self)
      (hnames f List.mem_cons_self) f.1 header msg
    rw [List.foldlM_cons, List.map_cons, List.foldlM_cons, hhead]
    cases appendStep switch msg f.2 with
    | error e => rfl
    | ok appended =>
      exact ih (fun g hg => haccepted g (List.mem_cons_of_mem _ hg))
        (fun g hg => hnames g (List.mem_cons_of_mem _ hg)) (headerFromProtobuf f.1 f.2) appended

/-- **One aggregated cycle.** From the same PDOs, each known by its own name, the publisher and the
serializer make messages that differ in the header only. -/
theorem message_feed_eq (hswitch : IgnoresHeader switch) {fed : List (Clock × EcSlavePdo)}
    (haccepted : ∀ f ∈ fed, (switch f.2).isSome)
    (hnames : ∀ f ∈ fed, deviceName names f.2 = f.2.header.strId) (p : PdoPublisher Msg) :
    (fun p : PdoPublisher Msg => p.message) <$> PdoPublisher.feed switch names fed p =
      AggregateMessage.setHeader (lastHeader {} fed) <$>
        (fed.map Prod.snd).foldlM (appendStep switch) (AggregateMessage.empty : Msg) := by
  have hempty := @LawfulAggregateMessage.setHeader_empty Msg _ _
  rw [PdoPublisher.feed, message_feed, ← foldlM_process_eq hswitch haccepted hnames, hempty]
  rfl

omit [LawfulAggregateMessage Msg] in
/-- The loop of the serializer over PDOs that it accepts. -/
theorem serializeAggregate_eq {fed : List (Clock × EcSlavePdo)} (hne : fed ≠ [])
    (haccepted : ∀ f ∈ fed, (switch f.2).isSome) (hvalid : ∀ f ∈ fed, hasValidHeader f.2 = true) :
    serializeAggregate switch (fed.map Prod.snd) =
      (fun msg => some (AggregateMessage.setHeader (headerOf (fed.getLast hne).2) msg)) <$>
        (fed.map Prod.snd).foldlM (appendStep switch) (AggregateMessage.empty : Msg) := by
  have hswitch : ∀ p ∈ fed.map Prod.snd, (switch p).isSome :=
    List.forall_mem_map.mpr haccepted
  have hall : ∀ p ∈ fed.map Prod.snd, hasValidHeader p = true := List.forall_mem_map.mpr hvalid
  have hlast : (fed.map Prod.snd).getLast? = some (fed.getLast hne).2 := by
    rw [List.getLast?_map, List.getLast?_eq_getLast_of_ne_nil hne]
    rfl
  unfold serializeAggregate
  rw [hlast]
  simp only
  rw [appendLoop_eq switch hswitch, List.takeWhile_eq_self_iff.mpr hall,
    List.all_eq_true.mpr hall]
  cases (fed.map Prod.snd).foldlM (appendStep switch) AggregateMessage.empty <;> rfl

theorem lastHeader_eq {fed : List (Clock × EcSlavePdo)} (hne : fed ≠ []) (header : Idl.Header) :
    lastHeader header fed = headerFromProtobuf (fed.getLast hne).1 (fed.getLast hne).2 := by
  obtain ⟨init, last, rfl⟩ := (List.eq_nil_or_concat' fed).resolve_left hne
  simp [lastHeader]

/-- **One aggregated cycle, both messages.** -/
theorem aggregate_messages
    (hswitch : IgnoresHeader switch) {fed : List (Clock × EcSlavePdo)} (hne : fed ≠ [])
    (htotal : ∀ f ∈ fed, ∃ convert : Msg → Msg, switch f.2 = some fun msg => .ok (convert msg))
    (hnames : ∀ f ∈ fed, deviceName names f.2 = f.2.header.strId)
    (hvalid : ∀ f ∈ fed, hasValidHeader f.2 = true) :
    ∃ msg : Msg, (fun p : PdoPublisher Msg => p.message) <$>
          PdoPublisher.feed switch names fed .new =
        .ok (AggregateMessage.setHeader
          (headerFromProtobuf (fed.getLast hne).1 (fed.getLast hne).2) msg) ∧
      serializeAggregate switch (fed.map Prod.snd) =
        .ok (some (AggregateMessage.setHeader (headerOf (fed.getLast hne).2) msg)) := by
  have haccepted : ∀ f ∈ fed, (switch f.2).isSome := fun f hf => by
    obtain ⟨convert, hconvert⟩ := htotal f hf
    rw [hconvert]
    rfl
  obtain ⟨msg, hmsg, -⟩ := FoldExcept.foldlM_inv (appendStep switch) (fun _ _ => True)
    (l := fed.map Prod.snd) (fun pdo hpdo msg _ _ => by
      obtain ⟨f, hf, rfl⟩ := List.mem_map.mp hpdo
      obtain ⟨convert, hconvert⟩ := htotal f hf
      rw [appendStep, hconvert]
      exact ⟨_, rfl, trivial⟩) (s := AggregateMessage.empty) trivial
  refine ⟨msg, ?_, ?_⟩
  · rw [message_feed_eq hswitch haccepted hnames, hmsg, lastHeader_eq hne]
    rfl
  · rw [serializeAggregate_eq hne haccepted hvalid, hmsg]
    rfl

end Aggregate

/-! ## Single devices -/

/-- The last PDO of a device decides on the header and the frame. -/
theorem feedDevice_eq {Msg : Type} [DeviceMessage Msg] {expectedType : PdoType}
    (convert : EcSlavePdo → Msg → Msg) (names : IdNames) {fed : List (Clock × EcSlavePdo)}
    (hne : fed ≠ []) (htype : (fed.getLast hne).2.type = expectedType) :
    feedDevice (processDevice expectedType convert names) fed =
      DeviceMessage.setHeader
        { headerFromProtobuf (fed.getLast hne).1 (fed.getLast hne).2 with
          frameId := deviceName names (fed.getLast hne).2 }
        (convert (fed.getLast hne).2
          (feedDevice (processDevice expectedType convert names) fed.dropLast)) := by
  obtain ⟨init, last, rfl⟩ := (List.eq_nil_or_concat' fed).resolve_left hne
  rw [List.getLast_append_singleton] at htype ⊢
  rw [List.dropLast_concat]
  unfold feedDevice
  rw [List.foldl_append, List.foldl_cons, List.foldl_nil, processDevice, if_neg (not_not.mpr htype)]

/-! ## Every topic -/

/-- The state topics of both plugins, apart from the joint states. -/
inductive StateTopic where
  | motor
  | valve
  | gripper
  | imu
  | powerBoard
  | pump
  | forceTorque
  deriving DecidableEq, Repr

namespace StateTopic

def Msg : StateTopic → Type
  | motor => Idl.Motor
  | valve => Idl.Valve
  | gripper => Idl.Gripper
  | imu => Idl.Imu
  | powerBoard => Idl.PowerBoard
  | pump => Idl.Pump
  | forceTorque => Idl.ForceTorque

/-- The PDOs of a topic. Of the motors these are the CIA402 drives. -/
def pdoType : StateTopic → PdoType
  | motor => .rxCia402
  | valve => .rxHyqKnee
  | gripper => .rxGripper
  | imu => .rxImuVn
  | powerBoard => .rxPowF28M36
  | pump => .rxHyqHpu
  | forceTorque => .rxFt6

/-- The topic has one device. -/
def single : StateTopic → Bool
  | motor | valve | gripper => false
  | imu | powerBoard | pump | forceTorque => true

def header : (topic : StateTopic) → topic.Msg → Idl.Header
  | motor => Idl.Motor.header
  | valve => Idl.Valve.header
  | gripper => Idl.Gripper.header
  | imu => Idl.Imu.header
  | powerBoard => Idl.PowerBoard.header
  | pump => Idl.Pump.header
  | forceTorque => Idl.ForceTorque.header

/-- The message without its header and, of a pump, without the name of the device. -/
def data : (topic : StateTopic) → topic.Msg → topic.Msg
  | motor => fun msg : Idl.Motor => { msg with header := {} }
  | valve => fun msg : Idl.Valve => { msg with header := {} }
  | gripper => fun msg : Idl.Gripper => { msg with header := {} }
  | imu => fun msg : Idl.Imu => { msg with header := {} }
  | powerBoard => fun msg : Idl.PowerBoard => { msg with header := {} }
  | pump => fun msg : Idl.Pump => { msg with header := {}, name := "" }
  | forceTorque => fun msg : Idl.ForceTorque => { msg with header := {} }

variable (num : Numeric) (names : IdNames)

/-- The message of the DDS publisher, after `begin_cycle` and one `consume` for each PDO. -/
def dds (fed : List (Clock × EcSlavePdo)) : (topic : StateTopic) → Except CxxException topic.Msg
  | motor => (fun p : PdoPublisher Idl.Motor => p.message) <$>
      PdoPublisher.feed (motorsSwitch num) names fed .new
  | valve => (fun p : PdoPublisher Idl.Valve => p.message) <$>
      PdoPublisher.feed valveSwitch names fed .new
  | gripper => (fun p : PdoPublisher Idl.Gripper => p.message) <$>
      PdoPublisher.feed gripperSwitch names fed .new
  | imu => .ok (feedDevice (processImu num names) fed : Idl.Imu)
  | powerBoard => .ok (feedDevice (processPowerBoard names) fed : Idl.PowerBoard)
  | pump => .ok (feedDevice (processPump names) fed : Idl.Pump)
  | forceTorque => .ok (feedDevice (processForceTorque num names) fed : Idl.ForceTorque)

/-- The message that the Zenoh serializer encodes. -/
def zenoh (pdos : List EcSlavePdo) :
    (topic : StateTopic) → Except CxxException (Option topic.Msg)
  | motor => serializeMotor num pdos
  | valve => serializeValve pdos
  | gripper => serializeGripper pdos
  | imu => .ok (serializeImu num pdos)
  | powerBoard => .ok (serializePowerBoard pdos)
  | pump => .ok (serializePump pdos)
  | forceTorque => .ok (serializeForceTorque num pdos)

end StateTopic

/-- A PDO that the topic accepts, complete and known by its own name. -/
structure Complete (topic : StateTopic) (names : IdNames) (pdo : EcSlavePdo) : Prop where
  type : pdo.type = topic.pdoType
  index : pdo.headerIndex?.isSome
  stamp : hasValidHeader pdo = true
  name : names.lookup pdo.header.index.toUInt32 = some pdo.header.strId

theorem Complete.deviceName {topic : StateTopic} {names : IdNames} {pdo : EcSlavePdo}
    (h : Complete topic names pdo) : deviceName names pdo = pdo.header.strId := by
  rw [Dds.deviceName, resolveName, h.name, Option.getD_some]

theorem motorsSwitch_ignoresHeader (num : Numeric) : IgnoresHeader (motorsSwitch num) := by
  intro pdo convert h header msg
  unfold motorsSwitch at h
  split at h <;> cases h <;> rfl

theorem valveSwitch_ignoresHeader : IgnoresHeader valveSwitch := by
  intro pdo convert h header msg
  unfold valveSwitch at h
  split at h <;> cases h
  rfl

theorem gripperSwitch_ignoresHeader : IgnoresHeader gripperSwitch := by
  intro pdo convert h header msg
  unfold gripperSwitch at h
  split at h <;> cases h
  rfl

/-- The serializer tests the type as the publisher does. -/
theorem serializeValveSwitch_eq : serializeValveSwitch = valveSwitch := by
  funext pdo
  unfold serializeValveSwitch valveSwitch
  cases pdo.type <;> rfl

theorem serializeGripperSwitch_eq : serializeGripperSwitch = gripperSwitch := by
  funext pdo
  unfold serializeGripperSwitch gripperSwitch
  cases pdo.type <;> rfl

/-- What both messages of a cycle have in common. -/
def SameData (topic : StateTopic) (num : Numeric) (fed : List (Clock × EcSlavePdo))
    (hne : fed ≠ []) (d : topic.Msg) : Prop :=
  if topic.single = true ∧ fed.length ≠ 1 then topic.zenoh num (fed.map Prod.snd) = .ok none
  else ∃ z, topic.zenoh num (fed.map Prod.snd) = .ok (some z) ∧ topic.data d = topic.data z ∧
    (topic.header z).stamp = (headerOf (fed.getLast hne).2).stamp

section

variable {num : Numeric} {fed : List (Clock × EcSlavePdo)} {hne : fed ≠ []}

/-- An aggregated topic. -/
theorem sameData_of_aggregate {topic : StateTopic} (htopic : topic.single = false) {d z : topic.Msg}
    (hzenoh : topic.zenoh num (fed.map Prod.snd) = .ok (some z))
    (hdata : topic.data d = topic.data z)
    (hstamp : (topic.header z).stamp = (headerOf (fed.getLast hne).2).stamp) :
    SameData topic num fed hne d := by
  unfold SameData
  rw [if_neg (by simp [htopic])]
  exact ⟨z, hzenoh, hdata, hstamp⟩

/-- A topic of one device. -/
theorem sameData_of_single {topic : StateTopic} {d : topic.Msg} (htopic : topic.single = true)
    (hmany : fed.length ≠ 1 → topic.zenoh num (fed.map Prod.snd) = .ok none)
    (hone : ∀ f, fed = [f] → ∃ z, topic.zenoh num [f.2] = .ok (some z) ∧
      topic.data d = topic.data z ∧ (topic.header z).stamp = (headerOf f.2).stamp) :
    SameData topic num fed hne d := by
  unfold SameData
  by_cases hlen : fed.length = 1
  · obtain ⟨f, rfl⟩ := List.length_eq_one_iff.mp hlen
    rw [if_neg (by simp)]
    exact hone f rfl
  · rw [if_pos ⟨htopic, hlen⟩]
    exact hmany hlen

/-- A cycle of one device, whose publisher and serializer give the header to converted data. -/
theorem same_data_of_device {topic : StateTopic} [DeviceMessage topic.Msg] {names : IdNames}
    {convert serialized : EcSlavePdo → topic.Msg → topic.Msg}
    (hlast : Complete topic names (fed.getLast hne).2) (htopic : topic.single = true)
    (hdds : topic.dds num names fed =
      .ok (feedDevice (processDevice topic.pdoType convert names) fed))
    (hzenoh : ∀ pdos, topic.zenoh num pdos = .ok (serializeDevice topic.pdoType serialized pdos))
    (hheader : ∀ header msg, topic.header (DeviceMessage.setHeader header msg) = header)
    (hdata : ∀ header header' pdo,
      topic.data (DeviceMessage.setHeader header (convert pdo DeviceMessage.empty)) =
        topic.data (DeviceMessage.setHeader header' (serialized pdo DeviceMessage.empty))) :
    ∃ d, topic.dds num names fed = .ok d ∧
      (topic.header d).stamp =
        timeFromProtobuf (extractTimestampNs (fed.getLast hne).1 (fed.getLast hne).2) ∧
      SameData topic num fed hne d := by
  have hfeed := feedDevice_eq convert names hne hlast.type
  refine ⟨_, hdds, ?_, sameData_of_single htopic (fun hlen => ?_) ?_⟩
  · rw [hfeed, hheader]
    rfl
  · rw [hzenoh, serializeDevice_many _ serialized (by rwa [List.length_map])]
  · rintro f rfl
    have hone := serializeDevice_one serialized hlast.type hlast.stamp
    refine ⟨_, (hzenoh _).trans (congrArg Except.ok hone), ?_, ?_⟩
    · rw [hfeed]
      exact hdata _ _ _
    · rw [hheader]
      rfl

end

/-- **One cycle, two plugins.** From a cycle of complete PDOs of a topic the DDS publisher builds a
message. The Zenoh serializer, which takes one PDO of a single device, encodes one with the same
data. Its stamp is that of the last PDO; the publisher's is this time on the clock of the host. -/
theorem same_data (topic : StateTopic) (num : Numeric) (names : IdNames)
    (fed : List (Clock × EcSlavePdo)) (hne : fed ≠ [])
    (hfed : ∀ f ∈ fed, Complete topic names f.2) :
    ∃ d, topic.dds num names fed = .ok d ∧
      (topic.header d).stamp =
        timeFromProtobuf (extractTimestampNs (fed.getLast hne).1 (fed.getLast hne).2) ∧
      SameData topic num fed hne d := by
  have hnames : ∀ f ∈ fed, deviceName names f.2 = f.2.header.strId :=
    fun f hf => (hfed f hf).deviceName
  have hvalid : ∀ f ∈ fed, hasValidHeader f.2 = true := fun f hf => (hfed f hf).stamp
  have hlast := hfed _ (List.getLast_mem hne)
  cases topic with
  | motor =>
    obtain ⟨msg, hdds, hzenoh⟩ := aggregate_messages (motorsSwitch_ignoresHeader num) hne
      (fun f hf => ⟨_, by rw [motorsSwitch, (hfed f hf).type]; rfl⟩) hnames hvalid
    exact ⟨_, hdds, rfl, sameData_of_aggregate rfl hzenoh rfl rfl⟩
  | valve =>
    obtain ⟨msg, hdds, hzenoh⟩ := aggregate_messages valveSwitch_ignoresHeader hne
      (fun f hf => ⟨_, by rw [valveSwitch, (hfed f hf).type]; rfl⟩) hnames hvalid
    rw [← serializeValveSwitch_eq] at hzenoh
    exact ⟨_, hdds, rfl, sameData_of_aggregate rfl hzenoh rfl rfl⟩
  | gripper =>
    obtain ⟨msg, hdds, hzenoh⟩ := aggregate_messages gripperSwitch_ignoresHeader hne
      (fun f hf => ⟨_, by rw [gripperSwitch, (hfed f hf).type]; rfl⟩) hnames hvalid
    rw [← serializeGripperSwitch_eq] at hzenoh
    exact ⟨_, hdds, rfl, sameData_of_aggregate rfl hzenoh rfl rfl⟩
  | imu =>
    exact @same_data_of_device num fed hne .imu (inferInstanceAs (DeviceMessage Idl.Imu)) names
      (convertImu num) _ hlast rfl rfl (fun _ => rfl) (fun _ _ => rfl) fun _ _ _ => rfl
  | powerBoard =>
    exact @same_data_of_device num fed hne .powerBoard
      (inferInstanceAs (DeviceMessage Idl.PowerBoard)) names convertPowerBoard _ hlast rfl rfl
      (fun _ => rfl) (fun _ _ => rfl) fun _ _ _ => rfl
  | pump =>
    exact @same_data_of_device num fed hne .pump (inferInstanceAs (DeviceMessage Idl.Pump)) names
      convertPump _ hlast rfl rfl (fun _ => rfl) (fun _ _ => rfl) fun _ _ _ => rfl
  | forceTorque =>
    exact @same_data_of_device num fed hne .forceTorque
      (inferInstanceAs (DeviceMessage Idl.ForceTorque)) names (convertForceTorque num) _ hlast rfl
      rfl (fun _ => rfl) (fun _ _ => rfl) fun _ _ _ => rfl

/-- A cycle of one CIA402 drive, on a host whose clock is an hour ahead of the drive's. -/
theorem same_data_motor :
    let num : Numeric := ⟨fun _ => 0, fun _ => 0, fun _ => 0⟩
    let names : IdNames := (∅ : IdNames).insert 3 "hip"
    let pdo : EcSlavePdo := {
      type := .rxCia402
      header? := some { strId? := some "hip", index? := some 3, stamp? := some ⟨123, 456⟩ } }
    ∃ d, StateTopic.motor.dds num names [(⟨3600000000000, 0⟩, pdo)] = .ok d ∧
      (StateTopic.motor.header d).stamp = ⟨3723, 456⟩ ∧
      SameData .motor num [(⟨3600000000000, 0⟩, pdo)] (by simp) d := by
  intro num names pdo
  have hpdo : Complete .motor names pdo := ⟨rfl, rfl, rfl, AList.lookup_insert _⟩
  obtain ⟨d, hdds, hstamp, hdata⟩ :=
    same_data .motor num names [(⟨3600000000000, 0⟩, pdo)] (by simp) (by simpa using hpdo)
  exact ⟨d, hdds, hstamp.trans (by decide), hdata⟩

/-- A cycle of one pump, on a host whose clock is a second ahead of the pump's: the stamps differ,
and the publisher sends no name. -/
theorem pump_messages_differ :
    let num : Numeric := ⟨fun _ => 0, fun _ => 0, fun _ => 0⟩
    let names : IdNames := (∅ : IdNames).insert 4 "pump_1"
    let pdo : EcSlavePdo := {
      type := .rxHyqHpu
      header? := some { strId? := some "pump_1", index? := some 4, stamp? := some ⟨123, 456⟩ } }
    Complete .pump names pdo ∧ ∃ d z : Idl.Pump,
      StateTopic.pump.dds num names [(⟨1000000000, 0⟩, pdo)] = .ok d ∧
      StateTopic.pump.zenoh num [pdo] = .ok (some z) ∧
      d.header.stamp = ⟨124, 456⟩ ∧ z.header.stamp = ⟨123, 456⟩ ∧
      d.header.stamp ≠ z.header.stamp ∧ d.name = "" ∧ z.name = "pump_1" := by
  intro num names pdo
  refine ⟨⟨rfl, rfl, rfl, AList.lookup_insert _⟩, _, _, rfl, rfl, ?_, rfl, ?_, rfl, rfl⟩
  · decide
  · decide

end EcatMiddleware.Paths
