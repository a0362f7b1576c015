import EcatMiddleware.Dds.ReplConverter

/-!
# Reused command messages

A converter is given the message that it fills, so a second request may be converted into a message
that holds a first one. Its scalar fields and the presence of its parts are then the second one's,
but the elements of its repeated fields come after those of the first.

* `reuse_iff`: the result is that of a fresh message exactly when the first request has no elements
  in its repeated fields.
-/

namespace EcatMiddleware

/-! ## Repeated fields -/

namespace Idl

def TrajectoryCmd.NoElements (a : TrajectoryCmd) : Prop :=
  a.smoothPar.x = [] ∧ a.smoothPar.y = [] ∧ a.homingPar.x = []

def EcatMasterCmd.NoElements (a : EcatMasterCmd) : Prop := a.args = []

def TrjQueueCmd.NoElements (a : TrjQueueCmd) : Prop := a.trjNames = []

def SlaveSdoCmd.NoElements (a : SlaveSdoCmd) : Prop := a.rdSdo = [] ∧ a.wrSdo = []

def MotorsPdoCmd.NoElements (a : MotorsPdoCmd) : Prop := a.motorsPdo = []

def PdoAuxCmd.NoElements (a : PdoAuxCmd) : Prop := a.auxCmds = []

/-- Of the eleven payloads six have repeated fields. -/
structure ReplCmdContent.NoElements (a : ReplCmdContent) : Prop where
  trajectoryCmd : a.trajectoryCmd.NoElements
  ecatMasterCmd : a.ecatMasterCmd.NoElements
  trjQueueCmd : a.trjQueueCmd.NoElements
  slaveSdoCmd : a.slaveSdoCmd.NoElements
  motorsPdoCmd : a.motorsPdoCmd.NoElements
  pdosAuxCmd : a.pdosAuxCmd.NoElements

end Idl

namespace Dds

/-! ## One payload -/

theorem trajectoryCmd_reuse_iff (a b : Idl.TrajectoryCmd) :
    fromDdsTrajectoryCmd b (fromDdsTrajectoryCmd a {}) = fromDdsTrajectoryCmd b {} ↔
      a.NoElements := by
  simp [fromDdsTrajectoryCmd, Idl.TrajectoryCmd.NoElements, and_assoc]

/-- The gains of the first command are cleared or overwritten. -/
theorem ctrlCmd_reuse (a b : Idl.CtrlCmd) (pb : Pb.CtrlCmd) :
    fromDdsCtrlCmd b (fromDdsCtrlCmd a pb) = fromDdsCtrlCmd b pb := by
  unfold fromDdsCtrlCmd
  by_cases hb : enumOf b.type = Pb.ctrlCmdStart ∧ b.gains.type = 0
  · simp only [Option.getD_some, hb, and_self, if_true]
  · simp only [Option.getD_some, hb, if_false]
    rfl

theorem ecatMasterCmd_reuse_iff (a b : Idl.EcatMasterCmd) :
    fromDdsEcatMasterCmd b (fromDdsEcatMasterCmd a {}) = fromDdsEcatMasterCmd b {} ↔
      a.NoElements := by
  simp [fromDdsEcatMasterCmd, Idl.EcatMasterCmd.NoElements]

theorem trjQueueCmd_reuse_iff (a b : Idl.TrjQueueCmd) :
    fromDdsTrjQueueCmd b (fromDdsTrjQueueCmd a {}) = fromDdsTrjQueueCmd b {} ↔
      a.NoElements := by
  simp [fromDdsTrjQueueCmd, Idl.TrjQueueCmd.NoElements]

theorem slaveSdoCmd_reuse_iff (a b : Idl.SlaveSdoCmd) :
    fromDdsSlaveSdoCmd b (fromDdsSlaveSdoCmd a {}) = fromDdsSlaveSdoCmd b {} ↔
      a.NoElements := by
  simp [fromDdsSlaveSdoCmd, Idl.SlaveSdoCmd.NoElements]

theorem motorsPdoCmd_reuse_iff (a b : Idl.MotorsPdoCmd) :
    fromDdsMotorsPdoCmd b (fromDdsMotorsPdoCmd a {}) = fromDdsMotorsPdoCmd b {} ↔
      a.NoElements := by
  simp [fromDdsMotorsPdoCmd, Idl.MotorsPdoCmd.NoElements]

theorem pdoAuxCmd_reuse_iff (a b : Idl.PdoAuxCmd) :
    fromDdsPdoAuxCmd b (fromDdsPdoAuxCmd a {}) = fromDdsPdoAuxCmd b {} ↔ a.NoElements := by
  simp [fromDdsPdoAuxCmd, Idl.PdoAuxCmd.NoElements]

/-! ## The content -/

/-- A content is reused where each of its payloads is. -/
theorem content_reuse_iff (a b : Idl.ReplCmdContent) :
    fromDdsContent b (fromDdsContent a {}) = fromDdsContent b {} ↔ a.NoElements := by
  have hparts : fromDdsContent b (fromDdsContent a {}) = fromDdsContent b {} ↔
      a.trajectoryCmd.NoElements ∧ a.ecatMasterCmd.NoElements ∧ a.trjQueueCmd.NoElements ∧
        a.slaveSdoCmd.NoElements ∧ a.motorsPdoCmd.NoElements ∧ a.pdosAuxCmd.NoElements := by
    rw [← trajectoryCmd_reuse_iff a.trajectoryCmd b.trajectoryCmd,
      ← ecatMasterCmd_reuse_iff a.ecatMasterCmd b.ecatMasterCmd,
      ← trjQueueCmd_reuse_iff a.trjQueueCmd b.trjQueueCmd,
      ← slaveSdoCmd_reuse_iff a.slaveSdoCmd b.slaveSdoCmd,
      ← motorsPdoCmd_reuse_iff a.motorsPdoCmd b.motorsPdoCmd,
      ← pdoAuxCmd_reuse_iff a.pdosAuxCmd b.pdosAuxCmd]
    -- the payloads without repeated fields are the same on both sides
    simp only [fromDdsContent, Pb.ReplCmd.mk.injEq, Option.some.injEq, Option.getD_some,
      Option.getD_none, ctrlCmd_reuse, true_and]
    simp only [fromDdsFlashCmd, fromDdsFoeMaster, fromDdsSlaveSdoInfo, fromDdsSlaveRegistryWrite,
      true_and]
  rw [hparts]
  constructor
  · rintro ⟨h₁, h₂, h₃, h₄, h₅, h₆⟩
    exact ⟨h₁, h₂, h₃, h₄, h₅, h₆⟩
  · rintro ⟨h₁, h₂, h₃, h₄, h₅, h₆⟩
    exact ⟨h₁, h₂, h₃, h₄, h₅, h₆⟩

/-! ## Every kind of request -/

/-- What a converter of the REPL commands takes: the content, or one of its payloads. -/
inductive CommandKind where
  | content
  | trajectoryCmd
  | ctrlCmd
  | flashCmd
  | ecatMasterCmd
  | foeMaster
  | trjQueueCmd
  | slaveSdoCmd
  | slaveSdoInfo
  | motorsPdoCmd
  | slaveRegistryWrite
  | pdoAuxCmd
  deriving DecidableEq, Repr

namespace CommandKind

def Msgdds : CommandKind → Type
  | content => Idl.ReplCmdContent
  | trajectoryCmd => Idl.TrajectoryCmd
  | ctrlCmd => Idl.CtrlCmd
  | flashCmd => Idl.FlashCmd
  | ecatMasterCmd => Idl.EcatMasterCmd
  | foeMaster => Idl.FoeMaster
  | trjQueueCmd => Idl.TrjQueueCmd
  | slaveSdoCmd => Idl.SlaveSdoCmd
  | slaveSdoInfo => Idl.SlaveSdoInfo
  | motorsPdoCmd => Idl.MotorsPdoCmd
  | slaveRegistryWrite => Idl.SlaveRegistryWrite
  | pdoAuxCmd => Idl.PdoAuxCmd

def Proto : CommandKind → Type
  | content => Pb.ReplCmd
  | trajectoryCmd => Pb.TrajectoryCmd
  | ctrlCmd => Pb.CtrlCmd
  | flashCmd => Pb.FlashCmd
  | ecatMasterCmd => Pb.EcatMasterCmd
  | foeMaster => Pb.FoeMaster
  | trjQueueCmd => Pb.TrjQueueCmd
  | slaveSdoCmd => Pb.SlaveSdoCmd
  | slaveSdoInfo => Pb.SlaveSdoInfo
  | motorsPdoCmd => Pb.MotorsPdoCmd
  | slaveRegistryWrite => Pb.SlaveRegistryWrite
  | pdoAuxCmd => Pb.PdosAuxCmd

/-- A fresh object. -/
def fresh : (kind : CommandKind) → kind.Proto
  | content => ({} : Pb.ReplCmd)
  | trajectoryCmd => ({} : Pb.TrajectoryCmd)
  | ctrlCmd => ({} : Pb.CtrlCmd)
  | flashCmd => ({} : Pb.FlashCmd)
  | ecatMasterCmd => ({} : Pb.EcatMasterCmd)
  | foeMaster => ({} : Pb.FoeMaster)
  | trjQueueCmd => ({} : Pb.TrjQueueCmd)
  | slaveSdoCmd => ({} : Pb.SlaveSdoCmd)
  | slaveSdoInfo => ({} : Pb.SlaveSdoInfo)
  | motorsPdoCmd => ({} : Pb.MotorsPdoCmd)
  | slaveRegistryWrite => ({} : Pb.SlaveRegistryWrite)
  | pdoAuxCmd => ({} : Pb.PdosAuxCmd)

/-- `convert::protobuf::from_dds`. -/
def fromDds : (kind : CommandKind) → kind.Msgdds → kind.Proto → kind.Proto
  | content => fromDdsContent
  | trajectoryCmd => fromDdsTrajectoryCmd
  | ctrlCmd => fromDdsCtrlCmd
  | flashCmd => fromDdsFlashCmd
  | ecatMasterCmd => fromDdsEcatMasterCmd
  | foeMaster => fromDdsFoeMaster
  | trjQueueCmd => fromDdsTrjQueueCmd
  | slaveSdoCmd => fromDdsSlaveSdoCmd
  | slaveSdoInfo => fromDdsSlaveSdoInfo
  | motorsPdoCmd => fromDdsMotorsPdoCmd
  | slaveRegistryWrite => fromDdsSlaveRegistryWrite
  | pdoAuxCmd => fromDdsPdoAuxCmd

/-- The request has no element in any repeated field. -/
def NoElements : (kind : CommandKind) → kind.Msgdds → Prop
  | content => Idl.ReplCmdContent.NoElements
  | trajectoryCmd => Idl.TrajectoryCmd.NoElements
  | ecatMasterCmd => Idl.EcatMasterCmd.NoElements
  | trjQueueCmd => Idl.TrjQueueCmd.NoElements
  | slaveSdoCmd => Idl.SlaveSdoCmd.NoElements
  | motorsPdoCmd => Idl.MotorsPdoCmd.NoElements
  | pdoAuxCmd => Idl.PdoAuxCmd.NoElements
  | ctrlCmd | flashCmd | foeMaster | slaveSdoInfo | slaveRegistryWrite => fun _ => True

end CommandKind

/-- **Reuse.** A request that is converted into the message of an earlier one gives the message
that it gives alone, exactly when the earlier one has no elements in its repeated fields. -/
theorem reuse_iff (kind : CommandKind) (a b : kind.Msgdds) :
    kind.fromDds b (kind.fromDds a kind.fresh) = kind.fromDds b kind.fresh ↔
      kind.NoElements a := by
  cases kind with
  | content => exact content_reuse_iff a b
  | trajectoryCmd => exact trajectoryCmd_reuse_iff a b
  | ctrlCmd => exact iff_of_true (ctrlCmd_reuse a b {}) trivial
  | flashCmd => exact iff_of_true rfl trivial
  | ecatMasterCmd => exact ecatMasterCmd_reuse_iff a b
  | foeMaster => exact iff_of_true rfl trivial
  | trjQueueCmd => exact trjQueueCmd_reuse_iff a b
  | slaveSdoCmd => exact slaveSdoCmd_reuse_iff a b
  | slaveSdoInfo => exact iff_of_true rfl trivial
  | motorsPdoCmd => exact motorsPdoCmd_reuse_iff a b
  | slaveRegistryWrite => exact iff_of_true rfl trivial
  | pdoAuxCmd => exact pdoAuxCmd_reuse_iff a b

/-- Two pushes to the trajectory queue, one after the other: the second one sends both names. -/
theorem trjQueueCmd_keeps_names :
    let kind := CommandKind.trjQueueCmd
    let reach : Idl.TrjQueueCmd := { type := 1, trjNames := ["reach"] }
    let home : Idl.TrjQueueCmd := { type := 1, trjNames := ["home"] }
    kind.fromDds home (kind.fromDds reach kind.fresh) =
        ({ type? := some 1, trjNames := ["reach", "home"] } : Pb.TrjQueueCmd) ∧
      kind.fromDds home kind.fresh =
        ({ type? := some 1, trjNames := ["home"] } : Pb.TrjQueueCmd) ∧
      kind.fromDds home (kind.fromDds reach kind.fresh) ≠ kind.fromDds home kind.fresh := by
  intro kind reach home
  refine ⟨rfl, rfl, fun h => ?_⟩
  exact absurd (congrArg Pb.TrjQueueCmd.trjNames h) (by decide)

end Dds

end EcatMiddleware
