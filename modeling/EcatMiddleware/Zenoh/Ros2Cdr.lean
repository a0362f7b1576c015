import EcatMiddleware.Dds.PdoPublisher

/-!
# The Zenoh CDR codec

`ros2cdr.cpp`: the aggregated state messages that the serializer builds from a cycle's PDOs, and
the PDOs that the deserializer builds from a decoded command.

* `appendLoop_eq`: the loop of the serializer stops at the first PDO without a stamp.
* `deserializeCycle_eq`, `of_mem_elements`: a batch becomes one PDO for each command.
-/

namespace EcatMiddleware.Zenoh

open EcatMiddleware.Core Dds Pb

/-! ## Serialization -/

def hasValidHeader (pdo : EcSlavePdo) : Bool :=
  match pdo.header? with
  | none => false
  | some header => header.stamp?.isSome

section Switches

variable (num : Numeric)

/-- The `switch` of `serialize_joint_state`. -/
def serializeJointStateSwitch : Switch Idl.JointState := fun pdo =>
  match pdo.type with
  | .rxCia402 => some fun msg => .ok (jointFromCia402 num (pdo.cia402RxPdo?.getD {}) msg)
  | .rxXtMotor => some fun msg => .ok (jointFromMotorXt num (pdo.motorXtRxPdo?.getD {}) msg)
  | .rxMotor => some fun msg => .ok (jointFromMotor num (pdo.motorRxPdo?.getD {}) msg)
  | .rxGripper => some fun msg => .ok (jointFromGripper num (pdo.gripperRxPdo?.getD {}) msg)
  | .rxHyqKnee => some fun msg => .ok (jointFromHyqKnee num (pdo.hyqkneeRxPdo?.getD {}) msg)
  | _ => none

/-- The `switch` of `serialize_motor`. -/
def serializeMotorSwitch : Switch Idl.Motor := fun pdo =>
  match pdo.type with
  | .rxCia402 => some (motorFromCia402 (pdo.cia402RxPdo?.getD {}))
  | .rxXtMotor => some (motorFromMotorXt (pdo.motorXtRxPdo?.getD {}))
  | .rxMotor => some (motorFromMotor num (pdo.motorRxPdo?.getD {}))
  | _ => none

/-- The test and conversion of `serialize_valve`. -/
def serializeValveSwitch : Switch Idl.Valve := fun pdo =>
  if pdo.type ≠ .rxHyqKnee then none
  else some fun msg => .ok (valveFromHyqKnee (pdo.hyqkneeRxPdo?.getD {}) msg)

/-- The test and conversion of `serialize_gripper`. -/
def serializeGripperSwitch : Switch Idl.Gripper := fun pdo =>
  if pdo.type ≠ .rxGripper then none
  else some fun msg => .ok (gripperFromGripper (pdo.gripperRxPdo?.getD {}) msg)

end Switches

section Aggregate

variable {Msg : Type} [AggregateMessage Msg] (switch : Switch Msg)

/-- The `append` of a serializer with the given `switch`, `none` where it returns false. -/
def append (pdo : EcSlavePdo) (msg : Msg) : Except CxxException (Option Msg) :=
  match switch pdo with
  | none => .ok none
  | some convert => do
    let msg ← convert msg
    .ok (some (AggregateMessage.pushName pdo.header.strId msg))

/-- The loop of `serialize_aggregate`, `none` where it returns false. -/
def appendLoop : List EcSlavePdo → Msg → Except CxxException (Option Msg)
  | [], msg => .ok (some msg)
  | pdo :: pdos, msg =>
    if !hasValidHeader pdo then .ok none
    else do match ← append switch pdo msg with
      | none => .ok none
      | some msg => appendLoop pdos msg

/-- What one pass of the loop can do: it returns false, or appends and goes on. -/
theorem appendLoop_cons {pdo : EcSlavePdo} {pdos : List EcSlavePdo} {msg : Msg} {r : Option Msg}
    (h : appendLoop switch (pdo :: pdos) msg = .ok r) :
    ((hasValidHeader pdo = false ∨ switch pdo = none) ∧ r = none) ∨
    ∃ convert converted, hasValidHeader pdo = true ∧ switch pdo = some convert ∧
      convert msg = .ok converted ∧
      appendLoop switch pdos (AggregateMessage.pushName pdo.header.strId converted) = .ok r := by
  unfold appendLoop append at h
  cases hvalid : hasValidHeader pdo with
  | false =>
    rw [hvalid] at h
    exact Or.inl ⟨Or.inl rfl, (Except.ok.inj h).symm⟩
  | true =>
    rw [hvalid, if_neg (by decide)] at h
    cases hcase : switch pdo with
    | none =>
      rw [hcase] at h
      exact Or.inl ⟨Or.inr rfl, (Except.ok.inj h).symm⟩
    | some convert =>
      simp only [hcase] at h
      obtain ⟨appended, happend, h⟩ := FoldExcept.bind_eq_ok.mp h
      obtain ⟨converted, hconvert, happend⟩ := FoldExcept.bind_eq_ok.mp happend
      obtain rfl := Except.ok.inj happend
      exact Or.inr ⟨convert, converted, rfl, rfl, hconvert, h⟩

/-- `set_header` without the frame. -/
def headerOf (pdo : EcSlavePdo) : Idl.Header where
  stamp := { sec := pdo.header.stamp.sec, nanosec := pdo.header.stamp.nsec.toUInt32 }

/-- `serialize_aggregate`: the message that it encodes, `none` where it returns false before. -/
def serializeAggregate (pdos : List EcSlavePdo) : Except CxxException (Option Msg) :=
  match pdos.getLast? with
  | none => .ok none
  | some back => do
    let message ← appendLoop switch pdos AggregateMessage.empty
    .ok (message.map (AggregateMessage.setHeader (headerOf back)))

/-- A PDO of a type that the serializer handles. -/
def appendStep (msg : Msg) (pdo : EcSlavePdo) : Except CxxException Msg :=
  (AggregateMessage.pushName pdo.header.strId) <$> (switch pdo).getD .ok msg

/-- The loop over PDOs that the serializer handles: it stops at the first without a stamp. -/
theorem appendLoop_eq {pdos : List EcSlavePdo} (h : ∀ p ∈ pdos, (switch p).isSome) :
    ∀ msg, appendLoop switch pdos msg =
      (fun msg => if pdos.all hasValidHeader then some msg else none) <$>
        (pdos.takeWhile hasValidHeader).foldlM (appendStep switch) msg := by
  induction pdos with
  | nil => exact fun msg => rfl
  | cons p pdos ih =>
    intro msg
    obtain ⟨convert, hconvert⟩ := Option.isSome_iff_exists.mp (h p List.mem_cons_self)
    have hrest := ih fun q hq => h q (List.mem_cons_of_mem _ hq)
    unfold appendLoop append
    cases hv : hasValidHeader p with
    | false => simp [hv]; rfl
    | true =>
      rw [List.takeWhile_cons_of_pos hv, List.foldlM_cons, List.all_cons, hv, Bool.true_and,
        appendStep, hconvert, Option.getD_some]
      simp only [Bool.not_true, Bool.false_eq_true, if_false]
      cases convert msg with
      | error e => rfl
      | ok converted => exact hrest _

end Aggregate

section Device

variable {Msg : Type} [DeviceMessage Msg]

/-- `serialize_device`: the message that it encodes, `none` where it returns false before. -/
def serializeDevice (expectedType : PdoType) (convert : EcSlavePdo → Msg → Msg) :
    List EcSlavePdo → Option Msg
  | [pdo] =>
    if pdo.type ≠ expectedType || !hasValidHeader pdo then none
    else
      let message := convert pdo DeviceMessage.empty
      some (DeviceMessage.setHeader { headerOf pdo with frameId := pdo.header.strId } message)
  | _ => none

theorem serializeDevice_one {expectedType : PdoType} (convert : EcSlavePdo → Msg → Msg)
    {pdo : EcSlavePdo} (htype : pdo.type = expectedType) (hvalid : hasValidHeader pdo = true) :
    serializeDevice expectedType convert [pdo] =
      some (DeviceMessage.setHeader { headerOf pdo with frameId := pdo.header.strId }
        (convert pdo DeviceMessage.empty)) := by
  simp [serializeDevice, htype, hvalid]

/-- The serializer takes one PDO of a device at a time. -/
theorem serializeDevice_many (expectedType : PdoType) (convert : EcSlavePdo → Msg → Msg)
    {pdos : List EcSlavePdo} (h : pdos.length ≠ 1) :
    serializeDevice expectedType convert pdos = none := by
  match pdos with
  | [] => rfl
  | [_] => exact absurd rfl h
  | _ :: _ :: _ => rfl

end Device

section

variable (num : Numeric)

def serializeJointState : List EcSlavePdo → Except CxxException (Option Idl.JointState) :=
  serializeAggregate (serializeJointStateSwitch num)

def serializeMotor : List EcSlavePdo → Except CxxException (Option Idl.Motor) :=
  serializeAggregate (serializeMotorSwitch num)

def serializeValve : List EcSlavePdo → Except CxxException (Option Idl.Valve) :=
  serializeAggregate serializeValveSwitch

def serializeGripper : List EcSlavePdo → Except CxxException (Option Idl.Gripper) :=
  serializeAggregate serializeGripperSwitch

def serializeImu : List EcSlavePdo → Option Idl.Imu :=
  serializeDevice .rxImuVn fun pdo => imuFromImuVn num (pdo.imuvnRxPdo?.getD {})

def serializePowerBoard : List EcSlavePdo → Option Idl.PowerBoard :=
  serializeDevice .rxPowF28M36 fun pdo => powerBoardFromPowF28M36 (pdo.powf28m36RxPdo?.getD {})

def serializePump : List EcSlavePdo → Option Idl.Pump :=
  serializeDevice .rxHyqHpu fun pdo message =>
    { pumpFromHyqHpu (pdo.hyqhpuRxPdo?.getD {}) message with name := pdo.header.strId }

def serializeForceTorque : List EcSlavePdo → Option Idl.ForceTorque :=
  serializeDevice .rxFt6 fun pdo => forceTorqueFromFt6 num (pdo.ft6RxPdo?.getD {})

end

/-! ## Deserialization -/

section Commands

variable (num : Numeric)

/-- The conversion of `deserialize_joint`. -/
def convertJoint (command : Idl.MotorTxPdo) (pdo : EcSlavePdo) : EcSlavePdo :=
  let target := pdo.cia402TxPdo?.getD {}
  { pdo with
    type := .txCia402
    header? := some { pdo.header with index? := some command.ecatId }
    cia402TxPdo? := some { target with
      targetTorque? := some command.torRef
      targetPos? := some command.posRef
      targetVel? := some command.velRef
      targetCurrent? := some command.curRef
      gain0? := some command.gain0
      gain1? := some command.gain1
      gain2? := some command.gain2
      gain3? := some command.gain3
      gain4? := some command.gain4 } }

/-- The conversion of `deserialize_motor`. -/
def convertMotor (command : Idl.MotorTxPdo) (pdo : EcSlavePdo) : EcSlavePdo :=
  let target := pdo.motorTxPdo?.getD {}
  { pdo with
    type := .txMotor
    header? := some { pdo.header with index? := some command.ecatId }
    motorTxPdo? := some { target with
      posRef? := some command.posRef
      faultAck? := some command.faultAck
      gainp? := some (num.floatToInt32 command.gain0)
      gaind? := some (num.floatToInt32 command.gain1)
      ts? := some command.ts } }

/-- The conversion of `deserialize_motor_xt`. -/
def convertMotorXt (command : Idl.MotorTxPdo) (pdo : EcSlavePdo) : EcSlavePdo :=
  let target := pdo.motorXtTxPdo?.getD {}
  { pdo with
    type := .txXtMotor
    header? := some { pdo.header with index? := some command.ecatId }
    motorXtTxPdo? := some { target with
      posRef? := some command.posRef
      velRef? := some command.velRef
      torRef? := some command.torRef
      gain0? := some command.gain0
      gain1? := some command.gain1
      gain2? := some command.gain2
      gain3? := some command.gain3
      gain4? := some command.gain4
      faultAck? := some command.faultAck
      ts? := some command.ts
      opIdxAux? := some command.opIdxAux
      aux? := some command.aux } }

/-- The conversion of `deserialize_valve`. -/
def convertValve (command : Idl.ValveTxPdo) (pdo : EcSlavePdo) : EcSlavePdo :=
  let target := pdo.hyqkneeTxPdo?.getD {}
  { pdo with
    type := .txHyqKnee
    header? := some { pdo.header with index? := some command.ecatId }
    hyqkneeTxPdo? := some { target with
      currentRef? := some command.currentRef
      positionRef? := some command.positionRef
      forceRef? := some command.forceRef
      gain0? := some command.gain0
      gain1? := some command.gain1
      gain2? := some command.gain2
      gain3? := some command.gain3
      gain4? := some command.gain4
      faultAck? := some command.faultAck
      ts? := some command.ts
      opIdxAux? := some command.opIdxAux
      aux? := some command.aux } }

/-- The conversion of `deserialize_gripper`. -/
def convertGripper (command : Idl.GripperTxPdo) (pdo : EcSlavePdo) : EcSlavePdo :=
  let target := pdo.gripperTxPdo?.getD {}
  { pdo with
    type := .txGripper
    header? := some { pdo.header with index? := some command.ecatId }
    gripperTxPdo? := some { target with
      targetPos? := some command.targetPos
      targetVel? := some command.targetVel
      targetTorque? := some command.targetTorque
      gain0? := some command.gain0
      gain1? := some command.gain1
      gain2? := some command.gain2
      gain3? := some command.gain3
      gain4? := some command.gain4 } }

/-- The conversion of `deserialize_pump`. -/
def convertPump (command : Idl.PumpTxPdo) (pdo : EcSlavePdo) : EcSlavePdo :=
  let target := pdo.hyqhpuTxPdo?.getD {}
  { pdo with
    type := .txHyqHpu
    header? := some { pdo.header with index? := some command.ecatId }
    hyqhpuTxPdo? := some { target with
      pumpTarget? := some command.pumpTarget
      pressurePGain? := some command.pressurePGain
      pressureIGain? := some command.pressureIGain
      pressureDGain? := some command.pressureDGain
      pressureILimit? := some command.pressureILimit
      faultAck? := some command.faultAck
      solenoidout? := some command.solenoidOut
      ts? := some command.ts
      opIdxAux? := some command.opIdxAux
      aux? := some command.aux } }

/-- The conversion of `deserialize_power_board`. -/
def convertPowerBoard (command : Idl.PowerBoardTxPdo) (pdo : EcSlavePdo) : EcSlavePdo :=
  let target := pdo.powf28m36TxPdo?.getD {}
  { pdo with
    type := .txPowF28M36
    header? := some { pdo.header with index? := some command.ecatId }
    powf28m36TxPdo? := some { target with
      masterCommand? := some command.masterCommand
      faultAck? := some command.faultAck
      opIdxAux? := some command.opIdxAux
      aux? := some command.aux } }

/-- The conversion of `deserialize_force_torque`. -/
def convertForceTorque (command : Idl.ForceTorqueTxPdo) (pdo : EcSlavePdo) : EcSlavePdo :=
  let target := pdo.ft6TxPdo?.getD {}
  { pdo with
    type := .txFt6
    header? := some { pdo.header with index? := some command.ecatId }
    ft6TxPdo? := some { target with
      ts? := some command.ts
      opIdxAux? := some command.opIdxAux
      aux? := some command.aux } }

/-- `deserialize_vector`, on the sequence that the payload decodes to (`none` where it does not). -/
def deserializeVector {Cmd : Type} (decoded : Option (List Cmd))
    (convert : Cmd → EcSlavePdo → EcSlavePdo) : Bool × List EcSlavePdo :=
  match decoded with
  | none => (false, [])
  | some data =>
    if data.isEmpty then (false, []) else (true, data.map fun command => convert command {})

def deserializeJoint (decoded : Option (List Idl.MotorTxPdo)) : Bool × List EcSlavePdo :=
  deserializeVector decoded convertJoint

def deserializeMotor (decoded : Option (List Idl.MotorTxPdo)) : Bool × List EcSlavePdo :=
  deserializeVector decoded (convertMotor num)

def deserializeMotorXt (decoded : Option (List Idl.MotorTxPdo)) : Bool × List EcSlavePdo :=
  deserializeVector decoded convertMotorXt

def deserializeValve (decoded : Option (List Idl.ValveTxPdo)) : Bool × List EcSlavePdo :=
  deserializeVector decoded convertValve

def deserializeGripper (decoded : Option (List Idl.GripperTxPdo)) : Bool × List EcSlavePdo :=
  deserializeVector decoded convertGripper

/-- `deserialize_single`, on the message that the payload decodes to. -/
def deserializeSingle {Cmd : Type} (decoded : Option Cmd)
    (convert : Cmd → EcSlavePdo → EcSlavePdo) : Bool × List EcSlavePdo :=
  match decoded with
  | none => (false, [])
  | some message => (true, [convert message {}])

def deserializePump (decoded : Option Idl.PumpTxPdo) : Bool × List EcSlavePdo :=
  deserializeSingle decoded convertPump

def deserializePowerBoard (decoded : Option Idl.PowerBoardTxPdo) : Bool × List EcSlavePdo :=
  deserializeSingle decoded convertPowerBoard

def deserializeForceTorque (decoded : Option Idl.ForceTorqueTxPdo) : Bool × List EcSlavePdo :=
  deserializeSingle decoded convertForceTorque

/-- The PDO of a command does not depend on the other commands of the batch. -/
theorem deserializeVector_getElem? {Cmd : Type} (convert : Cmd → EcSlavePdo → EcSlavePdo)
    (before after : List Cmd) (command : Cmd) :
    (deserializeVector (some (before ++ command :: after)) convert).2[before.length]? =
      some (convert command {}) := by
  simp [deserializeVector]

/-! ## One batch -/

inductive Ros2CommandType where
  | joint
  | motor
  | motorXt
  | valve
  | gripper
  | pump
  | powerBoard
  | forceTorque
  deriving DecidableEq, Repr

/-- `deserialize_idl` for the command messages. -/
structure CdrLib (Payload : Type) where
  motorTxPdoVector : Payload → Option (List Idl.MotorTxPdo)
  valveTxPdoVector : Payload → Option (List Idl.ValveTxPdo)
  gripperTxPdoVector : Payload → Option (List Idl.GripperTxPdo)
  pumpTxPdo : Payload → Option Idl.PumpTxPdo
  powerBoardTxPdo : Payload → Option Idl.PowerBoardTxPdo
  forceTorqueTxPdo : Payload → Option Idl.ForceTorqueTxPdo

section

variable {Payload : Type} (idl : CdrLib Payload)

/-- `deserialize_cycle`. -/
def deserializeCycle (messageType : Ros2CommandType) (payload : Payload) :
    Bool × List EcSlavePdo :=
  match messageType with
  | .joint => deserializeJoint (idl.motorTxPdoVector payload)
  | .motor => deserializeMotor num (idl.motorTxPdoVector payload)
  | .motorXt => deserializeMotorXt (idl.motorTxPdoVector payload)
  | .valve => deserializeValve (idl.valveTxPdoVector payload)
  | .gripper => deserializeGripper (idl.gripperTxPdoVector payload)
  | .pump => deserializePump (idl.pumpTxPdo payload)
  | .powerBoard => deserializePowerBoard (idl.powerBoardTxPdo payload)
  | .forceTorque => deserializeForceTorque (idl.forceTorqueTxPdo payload)

/-- The elements of a batch: the `ecat_id` of each command, and the PDO made of it. -/
def elements (messageType : Ros2CommandType) (payload : Payload) : List (Int32 × EcSlavePdo) :=
  match messageType with
  | .joint => ((idl.motorTxPdoVector payload).getD []).map fun c => (c.ecatId, convertJoint c {})
  | .motor =>
    ((idl.motorTxPdoVector payload).getD []).map fun c => (c.ecatId, convertMotor num c {})
  | .motorXt =>
    ((idl.motorTxPdoVector payload).getD []).map fun c => (c.ecatId, convertMotorXt c {})
  | .valve => ((idl.valveTxPdoVector payload).getD []).map fun c => (c.ecatId, convertValve c {})
  | .gripper =>
    ((idl.gripperTxPdoVector payload).getD []).map fun c => (c.ecatId, convertGripper c {})
  | .pump => (idl.pumpTxPdo payload).toList.map fun c => (c.ecatId, convertPump c {})
  | .powerBoard =>
    (idl.powerBoardTxPdo payload).toList.map fun c => (c.ecatId, convertPowerBoard c {})
  | .forceTorque =>
    (idl.forceTorqueTxPdo payload).toList.map fun c => (c.ecatId, convertForceTorque c {})

/-- The discriminator of the commands of a message type. -/
def Ros2CommandType.pdoType : Ros2CommandType → PdoType
  | .joint => .txCia402
  | .motor => .txMotor
  | .motorXt => .txXtMotor
  | .valve => .txHyqKnee
  | .gripper => .txGripper
  | .pump => .txHyqHpu
  | .powerBoard => .txPowF28M36
  | .forceTorque => .txFt6

end

variable {num} {Payload : Type} {idl : CdrLib Payload}

theorem deserializeVector_eq {Cmd : Type} (decoded : Option (List Cmd)) (ecatId : Cmd → Int32)
    (convert : Cmd → EcSlavePdo → EcSlavePdo) :
    (deserializeVector decoded convert).2 =
      ((decoded.getD []).map fun c => (ecatId c, convert c {})).map Prod.snd := by
  unfold deserializeVector
  cases decoded with
  | none => rfl
  | some data => cases data <;> simp

theorem deserializeSingle_eq {Cmd : Type} (decoded : Option Cmd) (ecatId : Cmd → Int32)
    (convert : Cmd → EcSlavePdo → EcSlavePdo) :
    (deserializeSingle decoded convert).2 =
      (decoded.toList.map fun c => (ecatId c, convert c {})).map Prod.snd := by
  cases decoded <;> rfl

/-- The PDOs are those of the elements, in order. -/
theorem deserializeCycle_eq (messageType : Ros2CommandType) (payload : Payload) :
    (deserializeCycle num idl messageType payload).2 =
      (elements num idl messageType payload).map Prod.snd := by
  cases messageType with
  | pump => exact deserializeSingle_eq _ _ _
  | powerBoard => exact deserializeSingle_eq _ _ _
  | forceTorque => exact deserializeSingle_eq _ _ _
  | _ => exact deserializeVector_eq _ _ _

/-- A PDO made of a command has the discriminator of its message type, and its `ecat_id`. -/
theorem of_mem_elements {messageType : Ros2CommandType} {payload : Payload}
    {e : Int32 × EcSlavePdo} (h : e ∈ elements num idl messageType payload) :
    e.2.type = messageType.pdoType ∧ e.2.headerIndex? = some e.1 := by
  cases messageType
  all_goals
    obtain ⟨c, -, rfl⟩ := List.mem_map.mp h
    exact ⟨rfl, rfl⟩

end Commands

end EcatMiddleware.Zenoh
