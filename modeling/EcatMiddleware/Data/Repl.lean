import EcatMiddleware.Data.Idl

/-!
# The command messages

The REPL commands and their replies, as DDS types (`Idl`) and as Protobuf messages (`Pb`).

* An enumeration that is only ever cast from the number of a DDS message is that number.
* A repeated field is a list. A field `x?` has presence.
-/

namespace EcatMiddleware

/-- A value of a Protobuf enumeration, by its number. -/
abbrev EnumValue := Int32

/-- `static_cast` of the number of a DDS message. -/
def enumOf (type : UInt8) : EnumValue := type.toUInt32.toInt32

/-! ## DDS -/

namespace Idl

/-- Correlation information for a request/reply exchange. -/
structure RequestHeader where
  guid : UInt64 := 0
  seq : Int64 := 0
  deriving DecidableEq, Repr

structure Gains where
  type : UInt8 := 0
  posKp : F64 := 0
  posKd : F64 := 0
  torKp : F64 := 0
  torKi : F64 := 0
  torKd : F64 := 0
  deriving DecidableEq, Repr

structure KeyValStr where
  name : String := ""
  value : String := ""
  deriving DecidableEq, Repr

structure SmoothPar where
  x : List F64 := []
  y : List F64 := []
  deriving DecidableEq, Repr

structure PeriodPar where
  freq : F64 := 0
  ampl : F64 := 0
  teta : F64 := 0
  secs : F64 := 0
  deriving DecidableEq, Repr

structure HomingPar where
  x : List F64 := []
  deriving DecidableEq, Repr

structure SmoothVelPar where
  dt : F64 := 0
  p0 : F64 := 0
  v0 : F64 := 0
  pt : F64 := 0
  vt : F64 := 0
  ds : F64 := 0
  magic : F64 := 0
  deriving DecidableEq, Repr

structure TrajectoryCmd where
  type : UInt8 := 0
  name : String := ""
  boardId : Int32 := 0
  smoothPar : SmoothPar := {}
  periodPar : PeriodPar := {}
  homingPar : HomingPar := {}
  smoothVelPar : SmoothVelPar := {}
  deriving DecidableEq, Repr

structure CtrlCmd where
  type : UInt8 := 0
  boardId : Int32 := 0
  value : F32 := 0
  gains : Gains := {}
  deriving DecidableEq, Repr

structure FlashCmd where
  type : UInt8 := 0
  boardId : Int32 := 0
  deriving DecidableEq, Repr

structure EcatMasterCmd where
  type : UInt8 := 0
  args : List KeyValStr := []
  deriving DecidableEq, Repr

structure FoeMaster where
  filename : String := ""
  password : UInt32 := 0
  mcuType : String := ""
  slavePos : Int32 := 0
  boardId : Int32 := 0
  deriving DecidableEq, Repr

structure TrjQueueCmd where
  type : UInt8 := 0
  trjNames : List String := []
  deriving DecidableEq, Repr

structure SlaveSdoCmd where
  boardId : Int32 := 0
  rdSdo : List String := []
  wrSdo : List KeyValStr := []
  deriving DecidableEq, Repr

structure SlaveSdoInfo where
  type : UInt8 := 0
  boardId : Int32 := 0
  deriving DecidableEq, Repr

structure AuxPdo where
  type : UInt8 := 0
  idx : Int32 := 0
  value : F32 := 0
  deriving DecidableEq, Repr

structure MotorPdoCmd where
  motorId : Int32 := 0
  posRef : F32 := 0
  velRef : F32 := 0
  torRef : F32 := 0
  gains : Gains := {}
  auxPdo : AuxPdo := {}
  deriving DecidableEq, Repr

structure MotorsPdoCmd where
  motorsPdo : List MotorPdoCmd := []
  deriving DecidableEq, Repr

structure SlaveRegistryWrite where
  type : UInt8 := 0
  boardId : Int32 := 0
  deriving DecidableEq, Repr

structure AuxCmd where
  type : UInt8 := 0
  boardId : Int32 := 0
  deriving DecidableEq, Repr

structure PdoAuxCmd where
  auxCmds : List AuxCmd := []
  deriving DecidableEq, Repr

structure ReplCmdContent where
  type : UInt8 := 0
  header : Header := {}
  trajectoryCmd : TrajectoryCmd := {}
  ctrlCmd : CtrlCmd := {}
  flashCmd : FlashCmd := {}
  ecatMasterCmd : EcatMasterCmd := {}
  foeMaster : FoeMaster := {}
  trjQueueCmd : TrjQueueCmd := {}
  slaveSdoCmd : SlaveSdoCmd := {}
  slaveSdoInfo : SlaveSdoInfo := {}
  motorsPdoCmd : MotorsPdoCmd := {}
  slaveRegistryWrite : SlaveRegistryWrite := {}
  pdosAuxCmd : PdoAuxCmd := {}
  deriving DecidableEq, Repr

structure ReplCmdRequest where
  requestId : RequestHeader := {}
  request : ReplCmdContent := {}
  deriving DecidableEq, Repr

structure ReplCmdResponse where
  requestId : RequestHeader := {}
  header : Header := {}
  type : UInt8 := 0
  success : Bool := false
  msg : String := ""
  pdo : String := ""
  deriving DecidableEq, Repr

end Idl

/-! ## Protobuf -/

namespace Pb

/-- `CmdType`: the enumerators of the command envelope, and any other value. -/
inductive CmdType where
  | trjCmd
  | ctrlCmd
  | flashCmd
  | ecatMasterCmd
  | foeMaster
  | trjQueueCmd
  | slaveSdoCmd
  | slaveSdoInfo
  | motorPdoCmd
  | slaveRegistryWrite
  | pdoAuxCmd
  | other (value : Int32)
  deriving DecidableEq, Repr

/-- `static_cast<CmdType>` of the number of a DDS message. -/
def CmdType.ofNumber (type : UInt8) : CmdType :=
  match type.toNat with
  | 1 => .trjCmd
  | 2 => .ctrlCmd
  | 3 => .flashCmd
  | 4 => .ecatMasterCmd
  | 5 => .foeMaster
  | 6 => .trjQueueCmd
  | 7 => .slaveSdoCmd
  | 8 => .slaveSdoInfo
  | 9 => .motorPdoCmd
  | 10 => .slaveRegistryWrite
  | 99 => .pdoAuxCmd
  | _ => .other (enumOf type)

structure Gains where
  type? : Option EnumValue := none
  posKp? : Option F64 := none
  posKd? : Option F64 := none
  torKp? : Option F64 := none
  torKi? : Option F64 := none
  torKd? : Option F64 := none
  deriving DecidableEq, Repr

structure KeyVal where
  name? : Option String := none
  value? : Option String := none
  deriving DecidableEq, Repr

structure SmoothPar where
  x : List F64 := []
  y : List F64 := []
  deriving DecidableEq, Repr

structure PeriodPar where
  freq? : Option F64 := none
  ampl? : Option F64 := none
  teta? : Option F64 := none
  secs? : Option F64 := none
  deriving DecidableEq, Repr

structure HomingPar where
  x : List F64 := []
  deriving DecidableEq, Repr

structure SmoothVelPar where
  dt? : Option F64 := none
  p0? : Option F64 := none
  v0? : Option F64 := none
  pt? : Option F64 := none
  vt? : Option F64 := none
  ds? : Option F64 := none
  magic? : Option F64 := none
  deriving DecidableEq, Repr

structure TrajectoryCmd where
  type? : Option EnumValue := none
  name? : Option String := none
  boardId? : Option Int32 := none
  smoothPar? : Option SmoothPar := none
  periodPar? : Option PeriodPar := none
  homingPar? : Option HomingPar := none
  smoothVelPar? : Option SmoothVelPar := none
  deriving DecidableEq, Repr

/-- `Ctrl_cmd::CTRL_CMD_START`. -/
def ctrlCmdStart : EnumValue := 11

structure CtrlCmd where
  type? : Option EnumValue := none
  boardId? : Option Int32 := none
  value? : Option F32 := none
  gains? : Option Gains := none
  deriving DecidableEq, Repr

structure FlashCmd where
  type? : Option EnumValue := none
  boardId? : Option Int32 := none
  deriving DecidableEq, Repr

structure EcatMasterCmd where
  type? : Option EnumValue := none
  args : List KeyVal := []
  deriving DecidableEq, Repr

structure FoeMaster where
  filename? : Option String := none
  password? : Option UInt32 := none
  mcuType? : Option String := none
  slavePos? : Option Int32 := none
  boardId? : Option Int32 := none
  deriving DecidableEq, Repr

structure TrjQueueCmd where
  type? : Option EnumValue := none
  trjNames : List String := []
  deriving DecidableEq, Repr

structure SlaveSdoCmd where
  boardId? : Option Int32 := none
  rdSdo : List String := []
  wrSdo : List KeyVal := []
  deriving DecidableEq, Repr

structure SlaveSdoInfo where
  type? : Option EnumValue := none
  boardId? : Option Int32 := none
  deriving DecidableEq, Repr

structure MotorPdoCmd where
  motorId? : Option Int32 := none
  posRef? : Option F32 := none
  velRef? : Option F32 := none
  torRef? : Option F32 := none
  gains? : Option Gains := none
  deriving DecidableEq, Repr

structure MotorsPdoCmd where
  motorsPdo : List MotorPdoCmd := []
  deriving DecidableEq, Repr

structure SlaveRegistryWrite where
  type? : Option EnumValue := none
  boardId? : Option Int32 := none
  deriving DecidableEq, Repr

structure AuxCmd where
  type? : Option EnumValue := none
  boardId? : Option Int32 := none
  deriving DecidableEq, Repr

structure PdosAuxCmd where
  auxCmds : List AuxCmd := []
  deriving DecidableEq, Repr

structure ReplCmd where
  type : CmdType := .trjCmd
  header? : Option Header := none
  trajectoryCmd? : Option TrajectoryCmd := none
  ctrlCmd? : Option CtrlCmd := none
  flashCmd? : Option FlashCmd := none
  ecatMasterCmd? : Option EcatMasterCmd := none
  foeMaster? : Option FoeMaster := none
  trjQueueCmd? : Option TrjQueueCmd := none
  slaveSdoCmd? : Option SlaveSdoCmd := none
  slaveSdoInfo? : Option SlaveSdoInfo := none
  motorsPdoCmd? : Option MotorsPdoCmd := none
  slaveRegistryWrite? : Option SlaveRegistryWrite := none
  pdosAuxCmd? : Option PdosAuxCmd := none
  deriving DecidableEq, Repr

/-- `Cmd_reply::Type`. A reply that was never set is of neither named type. -/
inductive ReplyType where
  | unspecified
  | ack
  | nack
  | other (value : Int32)
  deriving DecidableEq, Repr

structure CmdReply where
  type : ReplyType := .unspecified
  cmdType : CmdType := .trjCmd
  msg : String := ""
  header? : Option Header := none
  pdo : String := ""
  deriving DecidableEq, Repr

end Pb

end EcatMiddleware
