import EcatMiddleware.Zenoh.AdapterPublishers
import EcatMiddleware.Zenoh.Ros2Cdr

/-!
# Cycles of the CDR codec

`serialize_cycle` and `deserialize_cycle` give their result in a buffer of the caller, next to the
flag that they return. All of a cycle is encoded or nothing, whatever the buffer held.

* `appendLoop_isSome_iff`: the loop of the serializer ends when it accepts every PDO.
* `serialized_accepts`: what each message type accepts, and its stamp.
* `cycle_all_or_nothing`: both directions.
-/

namespace EcatMiddleware.Zenoh

open EcatMiddleware.Core Dds FoldExcept Pb

/-! ## The buffer -/

/-- `std::vector::clear`. -/
def clear {α : Type} (_ : List α) : List α := []

/-- `serialize_idl`, where `encode` is fast-cdr, `none` when it raises. -/
def serializeIdl {Msg : Type} (encode : Msg → Option (List UInt8)) (message : Msg)
    (payload : List UInt8) : Bool × List UInt8 :=
  match encode message with
  | none => (false, clear payload)
  | some data => (true, data)

namespace Ros2MessageType

def Msg : Ros2MessageType → Type
  | jointState => Idl.JointState
  | motor => Idl.Motor
  | valve => Idl.Valve
  | gripper => Idl.Gripper
  | imu => Idl.Imu
  | powerBoard => Idl.PowerBoard
  | pump => Idl.Pump
  | forceTorque => Idl.ForceTorque

def header : (messageType : Ros2MessageType) → messageType.Msg → Idl.Header
  | jointState => Idl.JointState.header
  | motor => Idl.Motor.header
  | valve => Idl.Valve.header
  | gripper => Idl.Gripper.header
  | imu => Idl.Imu.header
  | powerBoard => Idl.PowerBoard.header
  | pump => Idl.Pump.header
  | forceTorque => Idl.ForceTorque.header

/-- The `switch` of `serialize_cycle`: the message that the function of the type encodes, `none`
where it returns false before. -/
def serialized (num : Numeric) : (messageType : Ros2MessageType) → List EcSlavePdo →
    Except CxxException (Option messageType.Msg)
  | jointState => serializeJointState num
  | motor => serializeMotor num
  | valve => serializeValve
  | gripper => serializeGripper
  | imu => fun pdos => .ok (serializeImu num pdos)
  | powerBoard => fun pdos => .ok (serializePowerBoard pdos)
  | pump => fun pdos => .ok (serializePump pdos)
  | forceTorque => fun pdos => .ok (serializeForceTorque num pdos)

/-- The topic is that of one device. -/
def single : Ros2MessageType → Bool
  | jointState | motor | valve | gripper => false
  | imu | powerBoard | pump | forceTorque => true

/-- The types of a topic. -/
def accepts : Ros2MessageType → PdoType → Bool
  | jointState => fun t => isMotorType t || isGripperType t || isValveType t
  | motor => isMotorType
  | valve => isValveType
  | gripper => isGripperType
  | imu => fun t => t = .rxImuVn
  | powerBoard => fun t => t = .rxPowF28M36
  | pump => fun t => t = .rxHyqHpu
  | forceTorque => fun t => t = .rxFt6

end Ros2MessageType

/-- `serialize_cycle`, with what `payload` held before: the function of each type clears it. -/
def serializeCycle (num : Numeric)
    (encode : (messageType : Ros2MessageType) → messageType.Msg → Option (List UInt8))
    (messageType : Ros2MessageType) (pdos : List EcSlavePdo) (payload : List UInt8) :
    Except CxxException (Bool × List UInt8) := do
  let payload := clear payload
  match ← messageType.serialized num pdos with
  | none => .ok (false, payload)
  | some message => .ok (serializeIdl (encode messageType) message payload)

/-- `deserialize_cycle`, with what `pdos` held before: the function of each type clears it first
and then appends. -/
def deserializeCycleInto {Payload : Type} (num : Numeric) (idl : CdrLib Payload)
    (messageType : Ros2CommandType) (payload : Payload) (pdos : List EcSlavePdo) :
    Bool × List EcSlavePdo :=
  let decoded := deserializeCycle num idl messageType payload
  (decoded.1, clear pdos ++ decoded.2)

/-! ## Acceptable lists -/

/-- One PDO for a device, at least one for an aggregated topic; each stamped, and of the topic. -/
def Acceptable (messageType : Ros2MessageType) (pdos : List EcSlavePdo) : Prop :=
  (if messageType.single then pdos.length = 1 else pdos ≠ []) ∧
    ∀ pdo ∈ pdos, hasValidHeader pdo = true ∧ messageType.accepts pdo.type = true

section Aggregate

variable {Msg : Type} [AggregateMessage Msg] {switch : Switch Msg}

/-- The loop stops early at the first PDO that is not accepted. -/
theorem appendLoop_isSome_iff {pdos : List EcSlavePdo} {r : Option Msg} :
    ∀ {msg : Msg}, appendLoop switch pdos msg = .ok r →
      (r.isSome = true ↔
        ∀ pdo ∈ pdos, hasValidHeader pdo = true ∧ (switch pdo).isSome = true) := by
  induction pdos with
  | nil =>
    intro msg h
    obtain rfl := Except.ok.inj h
    simp
  | cons pdo pdos ih =>
    intro msg h
    rw [List.forall_mem_cons]
    obtain ⟨hreject, rfl⟩ | ⟨convert, converted, hvalid, hcase, -, h⟩ := appendLoop_cons switch h
    · refine iff_of_false Bool.false_ne_true fun haccept => ?_
      rcases hreject with hinvalid | hnone
      · rw [hinvalid] at haccept
        exact Bool.false_ne_true haccept.1.1
      · rw [hnone] at haccept
        exact Bool.false_ne_true haccept.1.2
    · rw [ih h, hvalid, hcase, Option.isSome_some, and_self_iff, and_iff_right rfl]

/-- `serialize_aggregate`. -/
theorem serializeAggregate_spec {pdos : List EcSlavePdo} {r : Option Msg}
    (h : serializeAggregate switch pdos = .ok r) :
    (r.isSome = true ↔
      pdos ≠ [] ∧ ∀ pdo ∈ pdos, hasValidHeader pdo = true ∧ (switch pdo).isSome = true) ∧
    ∀ msg, r = some msg → ∃ back msg', pdos.getLast? = some back ∧
      msg = AggregateMessage.setHeader (headerOf back) msg' := by
  unfold serializeAggregate at h
  cases hlast : pdos.getLast? with
  | none =>
    rw [hlast] at h
    obtain rfl := Except.ok.inj h
    refine ⟨iff_of_false (by simp) fun hne => hne.1 (List.getLast?_eq_none_iff.mp hlast), ?_⟩
    rintro _ ⟨⟩
  | some back =>
    have hne : pdos ≠ [] := by
      rintro rfl
      exact absurd hlast (by simp)
    simp only [hlast] at h
    obtain ⟨message, hloop, h⟩ := bind_eq_ok.mp h
    obtain rfl := Except.ok.inj h
    rw [Option.isSome_map, appendLoop_isSome_iff hloop, and_iff_right hne]
    refine ⟨Iff.rfl, fun msg hmsg => ?_⟩
    obtain ⟨msg', -, rfl⟩ := Option.map_eq_some_iff.mp hmsg
    exact ⟨back, msg', rfl, rfl⟩

end Aggregate

/-- `serialize_device`. -/
theorem serializeDevice_spec {Msg : Type} [DeviceMessage Msg] {expectedType : PdoType}
    {convert : EcSlavePdo → Msg → Msg} {pdos : List EcSlavePdo} :
    ((serializeDevice expectedType convert pdos).isSome = true ↔ pdos.length = 1 ∧
      ∀ pdo ∈ pdos, hasValidHeader pdo = true ∧ pdo.type = expectedType) ∧
    ∀ msg, serializeDevice expectedType convert pdos = some msg → ∃ back msg',
      pdos.getLast? = some back ∧
        msg = DeviceMessage.setHeader { headerOf back with frameId := back.header.strId } msg' := by
  by_cases hlength : pdos.length = 1
  · obtain ⟨pdo, rfl⟩ := List.length_eq_one_iff.mp hlength
    rw [List.forall_mem_singleton, and_iff_right hlength]
    by_cases haccept : hasValidHeader pdo = true ∧ pdo.type = expectedType
    · rw [serializeDevice_one convert haccept.2 haccept.1]
      refine ⟨iff_of_true rfl haccept, fun msg hmsg => ?_⟩
      obtain rfl := Option.some.inj hmsg
      exact ⟨pdo, _, rfl, rfl⟩
    · have hnone : serializeDevice expectedType convert [pdo] = none := by
        refine if_pos ?_
        simpa [imp_iff_not_or, or_comm, and_comm] using haccept
      rw [hnone]
      exact ⟨iff_of_false Bool.false_ne_true haccept, by rintro _ ⟨⟩⟩
  · rw [serializeDevice_many expectedType convert hlength]
    exact ⟨iff_of_false Bool.false_ne_true fun h => hlength h.1, by rintro _ ⟨⟩⟩

/-! ## Every message type -/

/-- A function of the serializer that ends with `r`: what it accepts, and the stamp it sets. -/
structure Accepts (messageType : Ros2MessageType) (pdos : List EcSlavePdo)
    (r : Option messageType.Msg) : Prop where
  isSome_iff : r.isSome = true ↔ Acceptable messageType pdos
  stamp : ∀ msg, r = some msg → ∃ back, pdos.getLast? = some back ∧
    (messageType.header msg).stamp = (headerOf back).stamp

section

variable (num : Numeric)

theorem isSome_serializeJointStateSwitch (pdo : EcSlavePdo) :
    (serializeJointStateSwitch num pdo).isSome = Ros2MessageType.jointState.accepts pdo.type := by
  unfold serializeJointStateSwitch Ros2MessageType.accepts isMotorType isGripperType isValveType
  cases pdo.type <;> rfl

theorem isSome_serializeMotorSwitch (pdo : EcSlavePdo) :
    (serializeMotorSwitch num pdo).isSome = Ros2MessageType.motor.accepts pdo.type := by
  unfold serializeMotorSwitch Ros2MessageType.accepts isMotorType
  cases pdo.type <;> rfl

theorem isSome_serializeValveSwitch (pdo : EcSlavePdo) :
    (serializeValveSwitch pdo).isSome = Ros2MessageType.valve.accepts pdo.type := by
  unfold serializeValveSwitch Ros2MessageType.accepts isValveType
  cases pdo.type <;> rfl

theorem isSome_serializeGripperSwitch (pdo : EcSlavePdo) :
    (serializeGripperSwitch pdo).isSome = Ros2MessageType.gripper.accepts pdo.type := by
  unfold serializeGripperSwitch Ros2MessageType.accepts isGripperType
  cases pdo.type <;> rfl

end

/-- An aggregated topic, by its `switch`. -/
theorem accepts_aggregate {messageType : Ros2MessageType} [AggregateMessage messageType.Msg]
    {switch : Switch messageType.Msg} (hsingle : messageType.single = false)
    (hswitch : ∀ pdo, (switch pdo).isSome = messageType.accepts pdo.type)
    (hheader : ∀ header (msg : messageType.Msg),
      messageType.header (AggregateMessage.setHeader header msg) = header)
    {pdos : List EcSlavePdo} {r : Option messageType.Msg}
    (h : serializeAggregate switch pdos = .ok r) : Accepts messageType pdos r := by
  obtain ⟨hiff, hstamp⟩ := serializeAggregate_spec h
  constructor
  · rw [hiff, Acceptable, hsingle]
    simp only [hswitch, Bool.false_eq_true, if_false]
  · intro msg hmsg
    obtain ⟨back, msg', hlast, rfl⟩ := hstamp msg hmsg
    exact ⟨back, hlast, by rw [hheader]⟩

/-- The topic of a device, by the type that it expects. -/
theorem accepts_device {messageType : Ros2MessageType} [DeviceMessage messageType.Msg]
    {expectedType : PdoType} {convert : EcSlavePdo → messageType.Msg → messageType.Msg}
    (hsingle : messageType.single = true)
    (haccepts : ∀ t, messageType.accepts t = true ↔ t = expectedType)
    (hheader : ∀ header (msg : messageType.Msg),
      messageType.header (DeviceMessage.setHeader header msg) = header)
    (pdos : List EcSlavePdo) :
    Accepts messageType pdos (serializeDevice expectedType convert pdos) := by
  obtain ⟨hiff, hstamp⟩ := @serializeDevice_spec _ _ expectedType convert pdos
  constructor
  · rw [hiff, Acceptable, hsingle]
    simp only [haccepts, if_true]
  · intro msg hmsg
    obtain ⟨back, msg', hlast, rfl⟩ := hstamp msg hmsg
    exact ⟨back, hlast, by rw [hheader]⟩

/-- **What each message type accepts.** -/
theorem serialized_accepts {num : Numeric} {messageType : Ros2MessageType}
    {pdos : List EcSlavePdo} {r : Option messageType.Msg}
    (h : messageType.serialized num pdos = .ok r) : Accepts messageType pdos r := by
  cases messageType with
  | jointState =>
    exact @accepts_aggregate .jointState (inferInstanceAs (AggregateMessage Idl.JointState)) _ rfl
      (isSome_serializeJointStateSwitch num) (fun _ _ => rfl) _ _ h
  | motor =>
    exact @accepts_aggregate .motor (inferInstanceAs (AggregateMessage Idl.Motor)) _ rfl
      (isSome_serializeMotorSwitch num) (fun _ _ => rfl) _ _ h
  | valve =>
    exact @accepts_aggregate .valve (inferInstanceAs (AggregateMessage Idl.Valve)) _ rfl
      isSome_serializeValveSwitch (fun _ _ => rfl) _ _ h
  | gripper =>
    exact @accepts_aggregate .gripper (inferInstanceAs (AggregateMessage Idl.Gripper)) _ rfl
      isSome_serializeGripperSwitch (fun _ _ => rfl) _ _ h
  | imu =>
    obtain rfl := Except.ok.inj h
    exact @accepts_device .imu (inferInstanceAs (DeviceMessage Idl.Imu)) _ _ rfl
      (fun _ => decide_eq_true_iff) (fun _ _ => rfl) pdos
  | powerBoard =>
    obtain rfl := Except.ok.inj h
    exact @accepts_device .powerBoard (inferInstanceAs (DeviceMessage Idl.PowerBoard)) _ _ rfl
      (fun _ => decide_eq_true_iff) (fun _ _ => rfl) pdos
  | pump =>
    obtain rfl := Except.ok.inj h
    exact @accepts_device .pump (inferInstanceAs (DeviceMessage Idl.Pump)) _ _ rfl
      (fun _ => decide_eq_true_iff) (fun _ _ => rfl) pdos
  | forceTorque =>
    obtain rfl := Except.ok.inj h
    exact @accepts_device .forceTorque (inferInstanceAs (DeviceMessage Idl.ForceTorque)) _ _ rfl
      (fun _ => decide_eq_true_iff) (fun _ _ => rfl) pdos

/-! ## Commands -/

section

variable {Payload : Type} (num : Numeric) (idl : CdrLib Payload)

/-- The `ecat_id` of each command that the payload decodes to. -/
def decodedIds (messageType : Ros2CommandType) (payload : Payload) : List Int32 :=
  match messageType with
  | .joint | .motor | .motorXt =>
    ((idl.motorTxPdoVector payload).getD []).map Idl.MotorTxPdo.ecatId
  | .valve => ((idl.valveTxPdoVector payload).getD []).map Idl.ValveTxPdo.ecatId
  | .gripper => ((idl.gripperTxPdoVector payload).getD []).map Idl.GripperTxPdo.ecatId
  | .pump => (idl.pumpTxPdo payload).toList.map Idl.PumpTxPdo.ecatId
  | .powerBoard => (idl.powerBoardTxPdo payload).toList.map Idl.PowerBoardTxPdo.ecatId
  | .forceTorque => (idl.forceTorqueTxPdo payload).toList.map Idl.ForceTorqueTxPdo.ecatId

theorem map_fst_elements (messageType : Ros2CommandType) (payload : Payload) :
    (elements num idl messageType payload).map Prod.fst = decodedIds idl messageType payload := by
  cases messageType <;> exact List.map_map

theorem deserializeVector_fst {Cmd : Type} (decoded : Option (List Cmd))
    (convert : Cmd → EcSlavePdo → EcSlavePdo) :
    (deserializeVector decoded convert).1 = true ↔ (deserializeVector decoded convert).2 ≠ [] := by
  unfold deserializeVector
  cases decoded with
  | none => simp
  | some data => cases data <;> simp

theorem deserializeSingle_fst {Cmd : Type} (decoded : Option Cmd)
    (convert : Cmd → EcSlavePdo → EcSlavePdo) :
    (deserializeSingle decoded convert).1 = true ↔ (deserializeSingle decoded convert).2 ≠ [] := by
  cases decoded <;> simp [deserializeSingle]

/-- The flag says whether there are PDOs. -/
theorem deserializeCycle_fst (messageType : Ros2CommandType) (payload : Payload) :
    (deserializeCycle num idl messageType payload).1 = true ↔
      (deserializeCycle num idl messageType payload).2 ≠ [] := by
  cases messageType with
  | pump => exact deserializeSingle_fst _ _
  | powerBoard => exact deserializeSingle_fst _ _
  | forceTorque => exact deserializeSingle_fst _ _
  | _ => exact deserializeVector_fst _ _

/-- There are PDOs if there are commands. -/
theorem deserializeCycle_ne_nil_iff (messageType : Ros2CommandType) (payload : Payload) :
    (deserializeCycle num idl messageType payload).2 ≠ [] ↔
      decodedIds idl messageType payload ≠ [] := by
  rw [deserializeCycle_eq, ← map_fst_elements num, Ne, Ne, List.map_eq_nil_iff,
    List.map_eq_nil_iff]

/-- Each PDO has the type of the commands and the id of its own. -/
theorem map_deserializeCycle (messageType : Ros2CommandType) (payload : Payload) :
    (deserializeCycle num idl messageType payload).2.map (fun p => (p.type, p.headerIndex?)) =
      (decodedIds idl messageType payload).map fun ecatId =>
        (messageType.pdoType, some ecatId) := by
  rw [deserializeCycle_eq, ← map_fst_elements num, List.map_map, List.map_map]
  refine List.map_congr_left fun e he => ?_
  obtain ⟨htype, hindex⟩ := of_mem_elements he
  exact Prod.ext htype hindex

end

/-! ## Both directions -/

/-- **All of a cycle or nothing.** With an encoder that does not fail, a call of `serialize_cycle`
that returns is true exactly for the acceptable lists, with the stamp of the last PDO, and else
leaves the payload empty; `deserialize_cycle` leaves no PDO, or one for each command, and is true
exactly if there is a command. -/
theorem cycle_all_or_nothing (num : Numeric)
    (encode : (messageType : Ros2MessageType) → messageType.Msg → Option (List UInt8))
    (hencode : ∀ messageType msg, (encode messageType msg).isSome = true) :
    (∀ (messageType : Ros2MessageType) (pdos : List EcSlavePdo) (payload payload' : List UInt8)
      (result : Bool),
      serializeCycle num encode messageType pdos payload = .ok (result, payload') →
      (result = true ↔ Acceptable messageType pdos) ∧
      (result = true → ∃ back msg, pdos.getLast? = some back ∧
        encode messageType msg = some payload' ∧ (messageType.header msg).stamp =
          ⟨back.header.stamp.sec, back.header.stamp.nsec.toUInt32⟩) ∧
      (result = false → payload' = [])) ∧
    ∀ (Payload : Type) (idl : CdrLib Payload) (messageType : Ros2CommandType) (payload : Payload)
      (pdos : List EcSlavePdo),
      (deserializeCycleInto num idl messageType payload pdos = (false, []) ∨
        ∃ pdos', deserializeCycleInto num idl messageType payload pdos = (true, pdos') ∧
          1 ≤ pdos'.length ∧
          pdos'.map (fun p => (p.type, p.headerIndex?)) =
            (decodedIds idl messageType payload).map fun ecatId =>
              (messageType.pdoType, some ecatId)) ∧
      ((deserializeCycleInto num idl messageType payload pdos).1 = true ↔
        decodedIds idl messageType payload ≠ []) := by
  constructor
  · intro messageType pdos payload payload' result h
    obtain ⟨r, hserialized, h⟩ := bind_eq_ok.mp h
    have haccepts := serialized_accepts hserialized
    cases r with
    | none =>
      obtain ⟨rfl, rfl⟩ := Prod.mk.inj (Except.ok.inj h)
      exact ⟨haccepts.isSome_iff, by rintro ⟨⟩, fun _ => rfl⟩
    | some msg =>
      obtain ⟨data, hdata⟩ := Option.isSome_iff_exists.mp (hencode messageType msg)
      change Except.ok (serializeIdl (encode messageType) msg (clear payload)) = _ at h
      rw [serializeIdl, hdata] at h
      obtain ⟨rfl, rfl⟩ := Prod.mk.inj (Except.ok.inj h)
      obtain ⟨back, hlast, hstamp⟩ := haccepts.stamp msg rfl
      exact ⟨haccepts.isSome_iff, fun _ => ⟨back, msg, hlast, hdata, hstamp⟩, by rintro ⟨⟩⟩
  · intro Payload idl messageType payload pdos
    have hflag := deserializeCycle_fst num idl messageType payload
    have hmap := map_deserializeCycle num idl messageType payload
    refine ⟨?_, hflag.trans (deserializeCycle_ne_nil_iff num idl messageType payload)⟩
    show (_, _) = _ ∨ ∃ pdos', (_, _) = _ ∧ _
    cases hdecoded : deserializeCycle num idl messageType payload with
    | mk result decoded =>
      rw [hdecoded] at hflag hmap
      cases result with
      | false =>
        have hnil : decoded = [] := not_not.mp (mt hflag.mpr Bool.false_ne_true)
        exact Or.inl (by rw [hnil]; rfl)
      | true => exact Or.inr ⟨decoded, rfl, List.length_pos_iff.mpr (hflag.mp rfl), hmap⟩

/-- One gripper, encoded to a buffer that was not empty; and a batch of two commands. -/
theorem cycle_all_or_nothing_gripper :
    let num : Numeric := ⟨fun _ => 0, fun _ => 0, fun _ => 0⟩
    let pdo : EcSlavePdo := { type := .rxGripper, header? := some { stamp? := some ⟨1, 2⟩ } }
    let bytes : List UInt8 := [0, 1, 0, 0, 1, 0, 0, 0, 2, 0, 0, 0, 1, 0, 0, 0, 0, 0, 0, 0,
      1, 0, 0, 0, 1, 0, 0, 0, 0, 0, 0, 0, 1, 0, 0, 0, 0, 0, 0, 0, 1, 0, 0, 0, 0, 0, 0, 0,
      1, 0, 0, 0, 0, 0, 0, 0, 1, 0, 0, 0, 0, 0, 0, 0, 1, 0, 0, 0, 0, 0, 0, 0,
      1, 0, 0, 0, 0, 0, 0, 0]
    let idl : CdrLib (List Idl.GripperTxPdo) :=
      { motorTxPdoVector := fun _ => none, valveTxPdoVector := fun _ => none
        gripperTxPdoVector := some, pumpTxPdo := fun _ => none, powerBoardTxPdo := fun _ => none
        forceTorqueTxPdo := fun _ => none }
    serializeCycle num (fun _ _ => some bytes) .gripper [pdo] [7] = .ok (true, bytes) ∧
      Acceptable .gripper [pdo] ∧
      (deserializeCycleInto num idl .gripper [{ ecatId := 4 }, { ecatId := -1 }] [pdo]).1 = true ∧
      (deserializeCycleInto num idl .gripper [] [pdo]).1 ≠ true := by
  intro num pdo bytes idl
  have hok : serializeCycle num (fun _ _ => some bytes) .gripper [pdo] [7] = .ok (true, bytes) :=
    rfl
  obtain ⟨hserialize, hdeserialize⟩ :=
    cycle_all_or_nothing num (fun _ _ => some bytes) (fun _ _ => rfl)
  refine ⟨hok, (hserialize .gripper [pdo] [7] bytes true hok).1.mp rfl, ?_, ?_⟩
  · exact (hdeserialize _ idl .gripper _ [pdo]).2.mpr (List.cons_ne_nil _ _)
  · exact fun htrue => (hdeserialize _ idl .gripper [] [pdo]).2.mp htrue rfl

end EcatMiddleware.Zenoh
