import EcatMiddleware.Core.PdoUtils
import EcatMiddleware.Data.Idl

/-!
# The converters

`convert::dds::from_protobuf` of the plugins' common library appends what a received PDO carries to
the sequences of a message, and `convert::protobuf::from_dds` builds the PDO of a command. The
overloads are told apart by the payload in their name.
-/

namespace EcatMiddleware.Dds

open EcatMiddleware.Core Pb

/-- What a C++ library call may throw here. -/
inductive CxxException where
  | logicError (what : String)
  deriving DecidableEq, Repr

/-- `std::string(const char*)`, with `none` for the null pointer. -/
def stringOfPtr : Option String → Except CxxException String
  | none => .error (.logicError "basic_string: construction from null is not valid")
  | some s => .ok s

/-! ## Headers -/

def timeFromProtobuf (timestampNs : UInt64) : Idl.Time where
  sec := (timestampNs / 1000000000).toUInt32.toInt32
  nanosec := (timestampNs % 1000000000).toUInt32

def headerFromProtobuf (clock : Clock) (pb : EcSlavePdo) : Idl.Header where
  frameId := match pb.header? with
    | some header => header.strId
    | none => ""
  stamp := timeFromProtobuf (extractTimestampNs clock pb)

/-! ## Joint states -/

variable (num : Numeric)

def jointFromCia402 (pb : Cia402RxPdo) (msg : Idl.JointState) : Idl.JointState :=
  { msg with
    position := msg.position ++ [num.floatToDouble pb.linkPos]
    velocity := msg.velocity ++ [num.floatToDouble pb.linkVel]
    effort := msg.effort ++ [num.floatToDouble pb.torque] }

def jointFromMotorXt (pb : MotorXtRxPdo) (msg : Idl.JointState) : Idl.JointState :=
  { msg with
    position := msg.position ++ [num.floatToDouble pb.linkPos]
    velocity := msg.velocity ++ [num.floatToDouble pb.linkVel]
    effort := msg.effort ++ [num.floatToDouble pb.torque] }

def jointFromMotor (pb : MotorRxPdo) (msg : Idl.JointState) : Idl.JointState :=
  { msg with
    position := msg.position ++ [num.floatToDouble pb.linkPos]
    velocity := msg.velocity ++ [0]
    effort := msg.effort ++ [num.floatToDouble (num.intToFloat pb.torque)] }

def jointFromHyqKnee (pb : HyqKneeRxPdo) (msg : Idl.JointState) : Idl.JointState :=
  { msg with
    position := msg.position ++ [0]
    velocity := msg.velocity ++ [0]
    effort := msg.effort ++ [num.floatToDouble pb.force] }

def jointFromGripper (pb : GripperRxPdo) (msg : Idl.JointState) : Idl.JointState :=
  { msg with
    position := msg.position ++ [num.floatToDouble pb.linkPos]
    velocity := msg.velocity ++ [0]
    effort := msg.effort ++ [0] }

/-! ## Motors -/

def motorFromCia402 (pb : Cia402RxPdo) (msg : Idl.Motor) : Except CxxException Idl.Motor :=
  .ok { msg with
    statusword := msg.statusword ++ [pb.statusword]
    modesOfOp := msg.modesOfOp ++ [pb.modesOfOp]
    motorPos := msg.motorPos ++ [pb.motorPos]
    motorVel := msg.motorVel ++ [pb.motorVel]
    linkPos := msg.linkPos ++ [pb.linkPos]
    linkVel := msg.linkVel ++ [pb.linkVel]
    current := msg.current ++ [pb.current]
    torque := msg.torque ++ [pb.torque]
    demandedPos := msg.demandedPos ++ [pb.demandedPos]
    demandedVel := msg.demandedVel ++ [pb.demandedVel]
    demandedTorque := msg.demandedTorque ++ [pb.demandedTorque]
    demandedCurrent := msg.demandedCurrent ++ [pb.demandedCurrent]
    controlEffort := msg.controlEffort ++ [pb.controlEffort]
    motorTemp := msg.motorTemp ++ [pb.motorTemp]
    driveTemp := msg.driveTemp ++ [pb.driveTemp]
    errorCode := msg.errorCode ++ [pb.errorCode]
    errorReport := msg.errorReport ++ [pb.errorReport]
    fault := msg.fault ++ [0]
    rtt := msg.rtt ++ [0] }

/-- The last push hands the literal `0` to a sequence of strings: a null pointer. -/
def motorFromMotorXt (pb : MotorXtRxPdo) (msg : Idl.Motor) : Except CxxException Idl.Motor := do
  let errorReport ← stringOfPtr none
  .ok { msg with
    motorPos := msg.motorPos ++ [pb.motorPos]
    linkPos := msg.linkPos ++ [pb.linkPos]
    motorVel := msg.motorVel ++ [pb.motorVel]
    linkVel := msg.linkVel ++ [pb.linkVel]
    torque := msg.torque ++ [pb.torque]
    motorTemp := msg.motorTemp ++ [pb.motorTemp]
    fault := msg.fault ++ [pb.fault]
    rtt := msg.rtt ++ [pb.rtt]
    statusword := msg.statusword ++ [0]
    modesOfOp := msg.modesOfOp ++ [0]
    current := msg.current ++ [0]
    demandedPos := msg.demandedPos ++ [0]
    demandedVel := msg.demandedVel ++ [0]
    demandedTorque := msg.demandedTorque ++ [0]
    demandedCurrent := msg.demandedCurrent ++ [0]
    controlEffort := msg.controlEffort ++ [0]
    driveTemp := msg.driveTemp ++ [0]
    errorCode := msg.errorCode ++ [0]
    errorReport := msg.errorReport ++ [errorReport] }

def motorFromMotor (pb : MotorRxPdo) (msg : Idl.Motor) : Except CxxException Idl.Motor := do
  let errorReport ← stringOfPtr none
  .ok { msg with
    motorPos := msg.motorPos ++ [pb.motorPos]
    linkPos := msg.linkPos ++ [pb.linkPos]
    torque := msg.torque ++ [num.intToFloat pb.torque]
    fault := msg.fault ++ [pb.fault]
    rtt := msg.rtt ++ [pb.rtt]
    motorVel := msg.motorVel ++ [0]
    linkVel := msg.linkVel ++ [0]
    motorTemp := msg.motorTemp ++ [0]
    statusword := msg.statusword ++ [0]
    modesOfOp := msg.modesOfOp ++ [0]
    current := msg.current ++ [0]
    demandedPos := msg.demandedPos ++ [0]
    demandedVel := msg.demandedVel ++ [0]
    demandedTorque := msg.demandedTorque ++ [0]
    demandedCurrent := msg.demandedCurrent ++ [0]
    controlEffort := msg.controlEffort ++ [0]
    driveTemp := msg.driveTemp ++ [0]
    errorCode := msg.errorCode ++ [0]
    errorReport := msg.errorReport ++ [errorReport] }

/-! ## Valves and grippers -/

def valveFromHyqKnee (pb : HyqKneeRxPdo) (msg : Idl.Valve) : Idl.Valve :=
  { msg with
    force := msg.force ++ [pb.force]
    pressure1 := msg.pressure1 ++ [pb.pressure1]
    pressure2 := msg.pressure2 ++ [pb.pressure2]
    encoderPosition := msg.encoderPosition ++ [pb.encoderPosition]
    current := msg.current ++ [pb.current]
    temperature := msg.temperature ++ [pb.temperature]
    fault := msg.fault ++ [pb.fault]
    rtt := msg.rtt ++ [pb.rtt]
    opIdxAck := msg.opIdxAck ++ [pb.opIdxAck]
    aux := msg.aux ++ [pb.aux]
    currentRefFb := msg.currentRefFb ++ [pb.currentRefFb]
    positionRefFb := msg.positionRefFb ++ [pb.positionRefFb]
    forceRefFb := msg.forceRefFb ++ [pb.forceRefFb] }

def gripperFromGripper (pb : GripperRxPdo) (msg : Idl.Gripper) : Idl.Gripper :=
  { msg with
    statusword := msg.statusword ++ [pb.statusword]
    motorPos := msg.motorPos ++ [pb.motorPos]
    linkPos := msg.linkPos ++ [pb.linkPos]
    demandedPos := msg.demandedPos ++ [pb.demandedPos]
    demandedVel := msg.demandedVel ++ [pb.demandedVel]
    errorCode := msg.errorCode ++ [pb.errorCode] }

/-! ## Single devices -/

def imuFromImuVn (pb : ImuVnRxPdo) (msg : Idl.Imu) : Idl.Imu :=
  { msg with
    linearAcceleration :=
      { x := num.floatToDouble pb.xAcc
        y := num.floatToDouble pb.yAcc
        z := num.floatToDouble pb.zAcc }
    angularVelocity :=
      { x := num.floatToDouble pb.xRate
        y := num.floatToDouble pb.yRate
        z := num.floatToDouble pb.zRate }
    orientation :=
      { x := num.floatToDouble pb.xQuat
        y := num.floatToDouble pb.yQuat
        z := num.floatToDouble pb.zQuat
        w := num.floatToDouble pb.wQuat }
    imuTs := pb.imuTs
    temperature := pb.temperature
    digitalIn := pb.digitalIn
    fault := pb.fault
    rtt := pb.rtt }

def powerBoardFromPowF28M36 (pb : PowF28M36RxPdo) (msg : Idl.PowerBoard) : Idl.PowerBoard :=
  { msg with
    vBatt := pb.vBatt
    vLoad := pb.vLoad
    iLoad := pb.iLoad
    temperature := pb.tempPcb
    tempHeatsink := pb.tempHeatsink
    tempBatt := pb.tempBatt
    status := pb.status
    fault := pb.fault
    rtt := pb.rtt
    opIdxAck := pb.opIdxAck
    aux := pb.aux }

/-- The name of the pump is left to the caller. -/
def pumpFromHyqHpu (pb : HyqHpuRxPdo) (msg : Idl.Pump) : Idl.Pump :=
  { msg with
    motorCurrent := pb.motorCurrent
    motorSpeed := pb.motorSpeed
    pressure1 := pb.pressure1
    pressure2 := pb.pressure2
    temperature := pb.temperature
    mosfetTemperature := pb.mosfetTemperature
    motorTemperature := pb.motorTemperature
    fault := pb.fault
    rtt := pb.rtt
    opIdxAck := pb.opIdxAck
    aux := pb.aux }

def forceTorqueFromFt6 (pb : Ft6RxPdo) (msg : Idl.ForceTorque) : Idl.ForceTorque :=
  { msg with
    wrench :=
      { force :=
          { x := num.floatToDouble pb.forceX
            y := num.floatToDouble pb.forceY
            z := num.floatToDouble pb.forceZ }
        torque :=
          { x := num.floatToDouble pb.torqueX
            y := num.floatToDouble pb.torqueY
            z := num.floatToDouble pb.torqueZ } }
    fault := pb.fault
    rtt := pb.rtt
    opIdxAck := pb.opIdxAck
    aux := pb.aux }

/-! ## Motor commands -/

def fromDdsMotorXt (msgdds : Idl.MotorTxPdo) (pb : MotorXtTxPdo) : MotorXtTxPdo :=
  { pb with
    posRef? := some msgdds.posRef
    velRef? := some msgdds.velRef
    torRef? := some msgdds.torRef
    gain0? := some msgdds.gain0
    gain1? := some msgdds.gain1
    gain2? := some msgdds.gain2
    gain3? := some msgdds.gain3
    gain4? := some msgdds.gain4
    faultAck? := some msgdds.faultAck
    ts? := some msgdds.ts
    opIdxAux? := some msgdds.opIdxAux
    aux? := some msgdds.aux }

/-- The gains are `float`s that `set_gainp` and `set_gaind` take as `int32`. -/
def fromDdsMotor (msgdds : Idl.MotorTxPdo) (pb : MotorTxPdo) : MotorTxPdo :=
  { pb with
    posRef? := some msgdds.posRef
    gainp? := some (num.floatToInt32 msgdds.gain0)
    gaind? := some (num.floatToInt32 msgdds.gain1)
    faultAck? := some msgdds.faultAck
    ts? := some msgdds.ts }

def fromDdsCia402 (msgdds : Idl.MotorTxPdo) (pb : Cia402TxPdo) : Cia402TxPdo :=
  { pb with
    gain0? := some msgdds.gain0
    gain1? := some msgdds.gain1
    gain2? := some msgdds.gain2
    gain3? := some msgdds.gain3
    targetCurrent? := some msgdds.curRef
    targetVel? := some msgdds.velRef
    targetPos? := some msgdds.posRef }

/-- `from_dds` of a motor command. The PDO it is given is cleared first. -/
def fromDds (msgdds : Idl.MotorTxPdo) (type : PdoType) : EcSlavePdo :=
  let pb : EcSlavePdo := {}
  let withIndex (pb : EcSlavePdo) : EcSlavePdo :=
    { pb with header? := some { pb.header with index? := some msgdds.ecatId } }
  if msgdds.ecatId < 0 then pb
  else match type with
    | .rxMotor | .txMotor => withIndex { pb with
        motorTxPdo? := some (fromDdsMotor num msgdds (pb.motorTxPdo?.getD {}))
        type := .txMotor }
    | .rxXtMotor | .txXtMotor => withIndex { pb with
        motorXtTxPdo? := some (fromDdsMotorXt msgdds (pb.motorXtTxPdo?.getD {}))
        type := .txXtMotor }
    | .rxCia402 | .txCia402 => withIndex { pb with
        cia402TxPdo? := some (fromDdsCia402 msgdds (pb.cia402TxPdo?.getD {}))
        type := .txCia402 }
    | _ => pb

end EcatMiddleware.Dds
