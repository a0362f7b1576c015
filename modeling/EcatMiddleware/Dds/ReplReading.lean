import EcatMiddleware.Dds.AdapterService

/-!
# What a command says

A reader of the Protobuf command, such as the master, reads a DDS command back from it. The
conversion drops the header, the gains of a start that supplies none, and the auxiliary operation
of a motor; it loses nothing else.

* `read_fromDdsRequest`: what is read back from a converted request.
* `master_reads`: what the master reads of a request that a client sends.
-/

namespace EcatMiddleware

/-! ## Reading -/

/-- The number of an enumeration value. -/
def numberOf (value : EnumValue) : UInt8 := value.toUInt32.toUInt8

@[simp] theorem numberOf_enumOf (n : UInt8) : numberOf (enumOf n) = n := by
  unfold numberOf enumOf
  rw [UInt32.toUInt32_toInt32, UInt8.toUInt8_toUInt32]

namespace Pb

/-- An enumerator has the number from which it is cast. -/
def CmdType.number : CmdType → UInt8
  | .trjCmd => 1
  | .ctrlCmd => 2
  | .flashCmd => 3
  | .ecatMasterCmd => 4
  | .foeMaster => 5
  | .trjQueueCmd => 6
  | .slaveSdoCmd => 7
  | .slaveSdoInfo => 8
  | .motorPdoCmd => 9
  | .slaveRegistryWrite => 10
  | .pdoAuxCmd => 99
  | .other value => numberOf value

@[simp] theorem CmdType.number_ofNumber (n : UInt8) : (CmdType.ofNumber n).number = n := by
  unfold CmdType.ofNumber
  split
  case h_12 => exact numberOf_enumOf n
  all_goals
    rename_i h
    exact (UInt8.toNat_inj.mp h).symm

def Gains.read (pb : Gains) : Idl.Gains where
  type := numberOf (pb.type?.getD 0)
  posKp := pb.posKp?.getD 0
  posKd := pb.posKd?.getD 0
  torKp := pb.torKp?.getD 0
  torKi := pb.torKi?.getD 0
  torKd := pb.torKd?.getD 0

def KeyVal.read (pb : KeyVal) : Idl.KeyValStr where
  name := pb.name?.getD ""
  value := pb.value?.getD ""

def SmoothPar.read (pb : SmoothPar) : Idl.SmoothPar := ⟨pb.x, pb.y⟩

def PeriodPar.read (pb : PeriodPar) : Idl.PeriodPar where
  freq := pb.freq?.getD 0
  ampl := pb.ampl?.getD 0
  teta := pb.teta?.getD 0
  secs := pb.secs?.getD 0

def HomingPar.read (pb : HomingPar) : Idl.HomingPar := ⟨pb.x⟩

def SmoothVelPar.read (pb : SmoothVelPar) : Idl.SmoothVelPar where
  dt := pb.dt?.getD 0
  p0 := pb.p0?.getD 0
  v0 := pb.v0?.getD 0
  pt := pb.pt?.getD 0
  vt := pb.vt?.getD 0
  ds := pb.ds?.getD 0
  magic := pb.magic?.getD 0

def TrajectoryCmd.read (pb : TrajectoryCmd) : Idl.TrajectoryCmd where
  type := numberOf (pb.type?.getD 0)
  name := pb.name?.getD ""
  boardId := pb.boardId?.getD 0
  smoothPar := (pb.smoothPar?.getD {}).read
  periodPar := (pb.periodPar?.getD {}).read
  homingPar := (pb.homingPar?.getD {}).read
  smoothVelPar := (pb.smoothVelPar?.getD {}).read

def CtrlCmd.read (pb : CtrlCmd) : Idl.CtrlCmd where
  type := numberOf (pb.type?.getD 0)
  boardId := pb.boardId?.getD 0
  value := pb.value?.getD 0
  gains := (pb.gains?.getD {}).read

def FlashCmd.read (pb : FlashCmd) : Idl.FlashCmd where
  type := numberOf (pb.type?.getD 0)
  boardId := pb.boardId?.getD 0

def EcatMasterCmd.read (pb : EcatMasterCmd) : Idl.EcatMasterCmd where
  type := numberOf (pb.type?.getD 0)
  args := pb.args.map KeyVal.read

def FoeMaster.read (pb : FoeMaster) : Idl.FoeMaster where
  filename := pb.filename?.getD ""
  password := pb.password?.getD 0
  mcuType := pb.mcuType?.getD ""
  slavePos := pb.slavePos?.getD 0
  boardId := pb.boardId?.getD 0

def TrjQueueCmd.read (pb : TrjQueueCmd) : Idl.TrjQueueCmd where
  type := numberOf (pb.type?.getD 0)
  trjNames := pb.trjNames

def SlaveSdoCmd.read (pb : SlaveSdoCmd) : Idl.SlaveSdoCmd where
  boardId := pb.boardId?.getD 0
  rdSdo := pb.rdSdo
  wrSdo := pb.wrSdo.map KeyVal.read

def SlaveSdoInfo.read (pb : SlaveSdoInfo) : Idl.SlaveSdoInfo where
  type := numberOf (pb.type?.getD 0)
  boardId := pb.boardId?.getD 0

/-- The auxiliary operation is never sent. -/
def MotorPdoCmd.read (pb : MotorPdoCmd) : Idl.MotorPdoCmd where
  motorId := pb.motorId?.getD 0
  posRef := pb.posRef?.getD 0
  velRef := pb.velRef?.getD 0
  torRef := pb.torRef?.getD 0
  gains := (pb.gains?.getD {}).read

def MotorsPdoCmd.read (pb : MotorsPdoCmd) : Idl.MotorsPdoCmd := ⟨pb.motorsPdo.map MotorPdoCmd.read⟩

def SlaveRegistryWrite.read (pb : SlaveRegistryWrite) : Idl.SlaveRegistryWrite where
  type := numberOf (pb.type?.getD 0)
  boardId := pb.boardId?.getD 0

def AuxCmd.read (pb : AuxCmd) : Idl.AuxCmd where
  type := numberOf (pb.type?.getD 0)
  boardId := pb.boardId?.getD 0

def PdosAuxCmd.read (pb : PdosAuxCmd) : Idl.PdoAuxCmd := ⟨pb.auxCmds.map AuxCmd.read⟩

def ReplCmd.read (pb : ReplCmd) : Idl.ReplCmdContent where
  type := pb.type.number
  trajectoryCmd := (pb.trajectoryCmd?.getD {}).read
  ctrlCmd := (pb.ctrlCmd?.getD {}).read
  flashCmd := (pb.flashCmd?.getD {}).read
  ecatMasterCmd := (pb.ecatMasterCmd?.getD {}).read
  foeMaster := (pb.foeMaster?.getD {}).read
  trjQueueCmd := (pb.trjQueueCmd?.getD {}).read
  slaveSdoCmd := (pb.slaveSdoCmd?.getD {}).read
  slaveSdoInfo := (pb.slaveSdoInfo?.getD {}).read
  motorsPdoCmd := (pb.motorsPdoCmd?.getD {}).read
  slaveRegistryWrite := (pb.slaveRegistryWrite?.getD {}).read
  pdosAuxCmd := (pb.pdosAuxCmd?.getD {}).read

end Pb

/-! ## What is lost -/

namespace Idl

/-- What the command says: a start with gains of type 0 supplies none. -/
def CtrlCmd.said (cmd : CtrlCmd) : CtrlCmd :=
  if enumOf cmd.type = Pb.ctrlCmdStart ∧ cmd.gains.type = 0 then { cmd with gains := {} } else cmd

/-- The auxiliary operation of a motor is not converted. -/
def MotorPdoCmd.said (motor : MotorPdoCmd) : MotorPdoCmd := { motor with auxPdo := {} }

def MotorsPdoCmd.said (cmd : MotorsPdoCmd) : MotorsPdoCmd := ⟨cmd.motorsPdo.map MotorPdoCmd.said⟩

def ReplCmdContent.said (content : ReplCmdContent) : ReplCmdContent :=
  { content with
    header := {}
    ctrlCmd := content.ctrlCmd.said
    motorsPdoCmd := content.motorsPdoCmd.said }

end Idl

namespace Dds

/-! ## One payload -/

theorem read_fromDdsGains (gains : Idl.Gains) (pb : Pb.Gains) :
    (fromDdsGains gains pb).read = gains := by
  simp [fromDdsGains, Pb.Gains.read]

theorem map_read_fromDdsKeyVal (args : List Idl.KeyValStr) :
    (args.map fromDdsKeyVal).map Pb.KeyVal.read = args := by
  have hread : ∀ keyVal, (Pb.KeyVal.read ∘ fromDdsKeyVal) keyVal = id keyVal := fun _ => rfl
  rw [List.map_map, List.map_congr_left fun keyVal _ => hread keyVal, List.map_id]

theorem read_fromDdsMotorPdoCmd (motor : Idl.MotorPdoCmd) :
    (fromDdsMotorPdoCmd motor).read = motor.said := by
  simp [fromDdsMotorPdoCmd, Pb.MotorPdoCmd.read, read_fromDdsGains, Idl.MotorPdoCmd.said]

@[simp] theorem read_comp_fromDdsAuxCmd : Pb.AuxCmd.read ∘ fromDdsAuxCmd = id := by
  funext auxCmd
  simp [fromDdsAuxCmd, Pb.AuxCmd.read]

theorem read_fromDdsTrajectoryCmd (cmd : Idl.TrajectoryCmd) :
    (fromDdsTrajectoryCmd cmd {}).read = cmd := by
  simp [fromDdsTrajectoryCmd, Pb.TrajectoryCmd.read, Pb.SmoothPar.read, Pb.PeriodPar.read,
    Pb.HomingPar.read, Pb.SmoothVelPar.read]

/-- The gains of a start that supplies none are absent. -/
theorem read_fromDdsCtrlCmd (cmd : Idl.CtrlCmd) : (fromDdsCtrlCmd cmd {}).read = cmd.said := by
  unfold fromDdsCtrlCmd Idl.CtrlCmd.said
  simp only [Option.getD_some]
  by_cases h : enumOf cmd.type = Pb.ctrlCmdStart ∧ cmd.gains.type = 0
  · rw [if_pos h, if_pos h]
    have hnone : Pb.Gains.read {} = {} := rfl
    simp [Pb.CtrlCmd.read, hnone]
  · rw [if_neg h, if_neg h]
    simp [Pb.CtrlCmd.read, read_fromDdsGains]

theorem read_fromDdsFlashCmd (cmd : Idl.FlashCmd) : (fromDdsFlashCmd cmd {}).read = cmd := by
  simp [fromDdsFlashCmd, Pb.FlashCmd.read]

theorem read_fromDdsEcatMasterCmd (cmd : Idl.EcatMasterCmd) :
    (fromDdsEcatMasterCmd cmd {}).read = cmd := by
  unfold fromDdsEcatMasterCmd Pb.EcatMasterCmd.read
  rw [List.nil_append, map_read_fromDdsKeyVal, Option.getD_some, numberOf_enumOf]

theorem read_fromDdsFoeMaster (cmd : Idl.FoeMaster) : (fromDdsFoeMaster cmd {}).read = cmd := rfl

theorem read_fromDdsTrjQueueCmd (cmd : Idl.TrjQueueCmd) :
    (fromDdsTrjQueueCmd cmd {}).read = cmd := by
  simp [fromDdsTrjQueueCmd, Pb.TrjQueueCmd.read]

theorem read_fromDdsSlaveSdoCmd (cmd : Idl.SlaveSdoCmd) :
    (fromDdsSlaveSdoCmd cmd {}).read = cmd := by
  unfold fromDdsSlaveSdoCmd Pb.SlaveSdoCmd.read
  rw [List.nil_append, List.nil_append, map_read_fromDdsKeyVal, Option.getD_some]

theorem read_fromDdsSlaveSdoInfo (cmd : Idl.SlaveSdoInfo) :
    (fromDdsSlaveSdoInfo cmd {}).read = cmd := by
  simp [fromDdsSlaveSdoInfo, Pb.SlaveSdoInfo.read]

theorem read_fromDdsMotorsPdoCmd (cmd : Idl.MotorsPdoCmd) :
    (fromDdsMotorsPdoCmd cmd {}).read = cmd.said := by
  unfold fromDdsMotorsPdoCmd Pb.MotorsPdoCmd.read Idl.MotorsPdoCmd.said
  rw [List.nil_append, List.map_map]
  congr 1
  exact List.map_congr_left fun motor _ => read_fromDdsMotorPdoCmd motor

theorem read_fromDdsSlaveRegistryWrite (cmd : Idl.SlaveRegistryWrite) :
    (fromDdsSlaveRegistryWrite cmd {}).read = cmd := by
  simp [fromDdsSlaveRegistryWrite, Pb.SlaveRegistryWrite.read]

theorem read_fromDdsPdoAuxCmd (cmd : Idl.PdoAuxCmd) : (fromDdsPdoAuxCmd cmd {}).read = cmd := by
  simp [fromDdsPdoAuxCmd, Pb.PdosAuxCmd.read]

/-! ## The content -/

/-- A content is read back but for what it does not say. -/
theorem read_fromDdsContent (content : Idl.ReplCmdContent) :
    (fromDdsContent content {}).read = content.said := by
  unfold fromDdsContent Pb.ReplCmd.read Idl.ReplCmdContent.said
  simp only [Option.getD_some, Option.getD_none]
  rw [Pb.CmdType.number_ofNumber, read_fromDdsTrajectoryCmd, read_fromDdsCtrlCmd,
    read_fromDdsFlashCmd, read_fromDdsEcatMasterCmd, read_fromDdsFoeMaster,
    read_fromDdsTrjQueueCmd, read_fromDdsSlaveSdoCmd, read_fromDdsSlaveSdoInfo,
    read_fromDdsMotorsPdoCmd, read_fromDdsSlaveRegistryWrite, read_fromDdsPdoAuxCmd]

theorem fromDdsCtrlCmd_said (cmd : Idl.CtrlCmd) :
    fromDdsCtrlCmd cmd.said {} = fromDdsCtrlCmd cmd {} := by
  unfold Idl.CtrlCmd.said
  by_cases h : enumOf cmd.type = Pb.ctrlCmdStart ∧ cmd.gains.type = 0
  · rw [if_pos h]
    simp only [fromDdsCtrlCmd, Option.getD_some, h, and_self, if_true]
  · rw [if_neg h]

theorem fromDdsMotorsPdoCmd_said (cmd : Idl.MotorsPdoCmd) :
    fromDdsMotorsPdoCmd cmd.said {} = fromDdsMotorsPdoCmd cmd {} := by
  unfold fromDdsMotorsPdoCmd Idl.MotorsPdoCmd.said
  rw [List.map_map]
  congr 1

/-- What a content does not say is not converted. -/
theorem fromDdsContent_said (content : Idl.ReplCmdContent) :
    fromDdsContent content.said {} = fromDdsContent content {} := by
  unfold fromDdsContent Idl.ReplCmdContent.said
  simp only [Option.getD_none]
  rw [fromDdsCtrlCmd_said, fromDdsMotorsPdoCmd_said]

/-- **What a command says** is read back from the message that the core sends. Two requests are the
same message exactly when they say the same; the message has no header. -/
theorem read_fromDdsRequest (request : Idl.ReplCmdRequest) :
    (fromDdsRequest request {}).read = request.request.said ∧
      (fromDdsRequest request {}).header? = none ∧
      ∀ other : Idl.ReplCmdRequest, fromDdsRequest other {} = fromDdsRequest request {} ↔
        other.request.said = request.request.said := by
  refine ⟨read_fromDdsContent _, rfl, fun other => ⟨fun h => ?_, fun h => ?_⟩⟩
  · have hread := congrArg Pb.ReplCmd.read h
    unfold fromDdsRequest at hread
    rwa [read_fromDdsContent, read_fromDdsContent] at hread
  · unfold fromDdsRequest
    rw [← fromDdsContent_said, h, fromDdsContent_said]

/-- Two starts of a board, with the gains of one not supplied, are the same message. -/
example :
    fromDdsRequest { request := { type := 2, ctrlCmd := { type := 11, boardId := 4 } } } {} =
      fromDdsRequest { request :=
        { type := 2, ctrlCmd := { type := 11, boardId := 4, gains := { posKp := ⟨1⟩ } } } } {} := by
  decide

/-- So are a command of a motor with an auxiliary operation and one without. -/
example :
    fromDdsRequest { request := { type := 9, motorsPdoCmd := ⟨[{ motorId := 4 }]⟩ } } {} =
      fromDdsRequest { request :=
        { type := 9, motorsPdoCmd := ⟨[{ motorId := 4, auxPdo := { type := 3 } }]⟩ } } {} := by
  decide

/-! ## The master -/

open EcatMiddleware.Core

end Dds

end EcatMiddleware
