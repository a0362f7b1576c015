import EcatMiddleware.Data.Protobuf

/-!
# The DDS messages

The IDL types of the topics, with the getters that the plugins read and the sequences they push to.
-/

namespace EcatMiddleware.Idl

structure Time where
  sec : Int32 := 0
  nanosec : UInt32 := 0
  deriving DecidableEq, Repr

structure Header where
  stamp : Time := {}
  frameId : String := ""
  deriving DecidableEq, Repr

structure Vector3 where
  x : F64 := 0
  y : F64 := 0
  z : F64 := 0
  deriving DecidableEq, Repr

/-- The default of `w` is 1.0. -/
structure Quaternion where
  x : F64 := 0
  y : F64 := 0
  z : F64 := 0
  w : F64 := ⟨0x3FF0000000000000⟩
  deriving DecidableEq, Repr

structure Wrench where
  force : Vector3 := {}
  torque : Vector3 := {}
  deriving DecidableEq, Repr

/-! ## State messages -/

structure JointState where
  header : Header := {}
  name : List String := []
  position : List F64 := []
  velocity : List F64 := []
  effort : List F64 := []
  deriving DecidableEq, Repr

structure Motor where
  header : Header := {}
  name : List String := []
  statusword : List UInt32 := []
  modesOfOp : List Int32 := []
  motorPos : List F32 := []
  motorVel : List F32 := []
  linkPos : List F32 := []
  linkVel : List F32 := []
  current : List F32 := []
  torque : List F32 := []
  demandedPos : List F32 := []
  demandedVel : List F32 := []
  demandedTorque : List F32 := []
  demandedCurrent : List F32 := []
  controlEffort : List F32 := []
  motorTemp : List F32 := []
  driveTemp : List Int32 := []
  errorCode : List UInt32 := []
  errorReport : List String := []
  fault : List UInt32 := []
  rtt : List UInt32 := []
  deriving DecidableEq, Repr

structure Valve where
  header : Header := {}
  name : List String := []
  encoderPosition : List F32 := []
  force : List F32 := []
  pressure1 : List F32 := []
  pressure2 : List F32 := []
  current : List F32 := []
  temperature : List F32 := []
  fault : List UInt32 := []
  rtt : List UInt32 := []
  opIdxAck : List UInt32 := []
  aux : List F32 := []
  currentRefFb : List F32 := []
  positionRefFb : List F32 := []
  forceRefFb : List F32 := []
  deriving DecidableEq, Repr

structure Gripper where
  header : Header := {}
  name : List String := []
  statusword : List UInt32 := []
  motorPos : List F32 := []
  linkPos : List F32 := []
  demandedPos : List F32 := []
  demandedVel : List F32 := []
  errorCode : List UInt32 := []
  deriving DecidableEq, Repr

structure Imu where
  header : Header := {}
  linearAcceleration : Vector3 := {}
  angularVelocity : Vector3 := {}
  orientation : Quaternion := {}
  imuTs : UInt32 := 0
  temperature : UInt32 := 0
  digitalIn : UInt32 := 0
  fault : UInt32 := 0
  rtt : UInt32 := 0
  deriving DecidableEq, Repr

structure PowerBoard where
  header : Header := {}
  vBatt : F32 := 0
  vLoad : F32 := 0
  iLoad : F32 := 0
  temperature : F32 := 0
  tempBatt : F32 := 0
  tempHeatsink : F32 := 0
  status : UInt32 := 0
  fault : UInt32 := 0
  rtt : UInt32 := 0
  opIdxAck : UInt32 := 0
  aux : F32 := 0
  deriving DecidableEq, Repr

structure Pump where
  header : Header := {}
  name : String := ""
  motorCurrent : F32 := 0
  motorSpeed : F32 := 0
  pressure1 : F32 := 0
  pressure2 : F32 := 0
  temperature : UInt32 := 0
  mosfetTemperature : UInt32 := 0
  motorTemperature : Int32 := 0
  fault : UInt32 := 0
  rtt : UInt32 := 0
  opIdxAck : UInt32 := 0
  aux : F32 := 0
  deriving DecidableEq, Repr

structure ForceTorque where
  header : Header := {}
  wrench : Wrench := {}
  fault : UInt32 := 0
  rtt : UInt32 := 0
  opIdxAck : UInt32 := 0
  aux : F32 := 0
  deriving DecidableEq, Repr

/-! ## Command messages -/

structure MotorTxPdo where
  ecatId : Int32 := 0
  posRef : F32 := 0
  velRef : F32 := 0
  torRef : F32 := 0
  curRef : F32 := 0
  gain0 : F32 := 0
  gain1 : F32 := 0
  gain2 : F32 := 0
  gain3 : F32 := 0
  gain4 : F32 := 0
  faultAck : UInt32 := 0
  ts : UInt32 := 0
  opIdxAux : UInt32 := 0
  aux : F32 := 0
  deriving DecidableEq, Repr

structure ValveTxPdo where
  ecatId : Int32 := 0
  currentRef : F32 := 0
  positionRef : F32 := 0
  forceRef : F32 := 0
  gain0 : F32 := 0
  gain1 : F32 := 0
  gain2 : F32 := 0
  gain3 : F32 := 0
  gain4 : F32 := 0
  faultAck : UInt32 := 0
  ts : UInt32 := 0
  opIdxAux : UInt32 := 0
  aux : F32 := 0
  deriving DecidableEq, Repr

structure GripperTxPdo where
  ecatId : Int32 := 0
  targetPos : F32 := 0
  targetVel : F32 := 0
  targetTorque : F32 := 0
  gain0 : F32 := 0
  gain1 : F32 := 0
  gain2 : F32 := 0
  gain3 : F32 := 0
  gain4 : F32 := 0
  deriving DecidableEq, Repr

structure PumpTxPdo where
  ecatId : Int32 := 0
  pumpTarget : F32 := 0
  pressurePGain : F32 := 0
  pressureIGain : F32 := 0
  pressureDGain : F32 := 0
  pressureILimit : F32 := 0
  faultAck : UInt32 := 0
  solenoidOut : UInt32 := 0
  ts : UInt32 := 0
  opIdxAux : UInt32 := 0
  aux : F32 := 0
  deriving DecidableEq, Repr

structure PowerBoardTxPdo where
  ecatId : Int32 := 0
  masterCommand : UInt32 := 0
  faultAck : UInt32 := 0
  opIdxAux : UInt32 := 0
  aux : F32 := 0
  deriving DecidableEq, Repr

structure ForceTorqueTxPdo where
  ecatId : Int32 := 0
  ts : UInt32 := 0
  opIdxAux : UInt32 := 0
  aux : F32 := 0
  deriving DecidableEq, Repr

end EcatMiddleware.Idl
