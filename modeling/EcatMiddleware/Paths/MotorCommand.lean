import EcatMiddleware.Zenoh.Ros2Cdr

/-!
# The motor command

A motor command reaches the drive by the DDS converter or by the Zenoh deserializer of its topic.
`command_paths_iff` says for which drive types both build the same PDO.
-/

namespace EcatMiddleware.Paths

open EcatMiddleware.Core Dds Pb Zenoh

/-- The motor drives. -/
inductive DriveType where
  | cia402
  | motor
  | xtMotor
  deriving DecidableEq, Repr

/-- The PDO type that discovery reports for a drive. -/
def DriveType.rxType : DriveType → PdoType
  | .cia402 => .rxCia402
  | .motor => .rxMotor
  | .xtMotor => .rxXtMotor

/-- The deserializer of the command topic of a drive. -/
def deserializeFor (num : Numeric) :
    DriveType → Option (List Idl.MotorTxPdo) → Bool × List EcSlavePdo
  | .cia402 => deserializeJoint
  | .motor => deserializeMotor num
  | .xtMotor => deserializeMotorXt

/-- The PDO that the Zenoh path builds of `command`, anywhere in a batch, is the DDS path's. -/
def PathsAgree (num : Numeric) (drive : DriveType) (command : Idl.MotorTxPdo) : Prop :=
  ∀ before after, (deserializeFor num drive (some (before ++ command :: after))).2[before.length]? =
    some (fromDds num command drive.rxType)

variable {num : Numeric} {command : Idl.MotorTxPdo}

theorem fromDds_motor (hid : ¬ command.ecatId < 0) :
    fromDds num command .rxMotor = convertMotor num command {} := by
  unfold fromDds
  rw [if_neg hid]
  rfl

theorem fromDds_xtMotor (hid : ¬ command.ecatId < 0) :
    fromDds num command .rxXtMotor = convertMotorXt command {} := by
  unfold fromDds
  rw [if_neg hid]
  rfl

/-- The DDS path leaves out the torque reference and the last gain of a CIA402 drive. -/
theorem fromDds_cia402 (num : Numeric) (hid : ¬ command.ecatId < 0) :
    (fromDds num command .rxCia402).cia402TxPdo? =
      (convertJoint command {}).cia402TxPdo?.map fun target =>
        { target with targetTorque? := none, gain4? := none } := by
  unfold fromDds
  rw [if_neg hid]
  rfl

theorem fromDds_cia402_ne (hid : ¬ command.ecatId < 0) :
    fromDds num command .rxCia402 ≠ convertJoint command {} := by
  intro h
  have hpdo := fromDds_cia402 num hid
  rw [h] at hpdo
  -- the torque reference is set on the one side and absent on the other
  have htorque := congrArg (fun t => t.bind Cia402TxPdo.targetTorque?) hpdo
  exact absurd htorque (by simp [convertJoint])

/-- **Two paths, one command.** For a valid id both paths build the same PDO exactly when the drive
is not a CIA402 one. -/
theorem command_paths_iff (num : Numeric) (drive : DriveType) (command : Idl.MotorTxPdo)
    (hid : 0 ≤ command.ecatId) : PathsAgree num drive command ↔ drive ≠ .cia402 := by
  have hneg : ¬ command.ecatId < 0 := Int32.not_lt.mpr hid
  have hbuilt : ∀ before after, ∀ convert,
      (deserializeVector (some (before ++ command :: after)) convert).2[before.length]? =
        some (convert command {}) :=
    fun before after convert => deserializeVector_getElem? convert before after command
  unfold PathsAgree
  cases drive with
  | cia402 =>
    refine iff_of_false (fun h => ?_) (by simp)
    have he := (hbuilt [] [] convertJoint).symm.trans (h [] [])
    exact fromDds_cia402_ne hneg (Option.some.inj he).symm
  | motor =>
    refine iff_of_true (fun before after => ?_) (by simp)
    exact (hbuilt before after _).trans (congrArg some (fromDds_motor hneg).symm)
  | xtMotor =>
    refine iff_of_true (fun before after => ?_) (by simp)
    exact (hbuilt before after _).trans (congrArg some (fromDds_xtMotor hneg).symm)

/-- A command for the XT drive 5. -/
theorem command_paths_xt : PathsAgree ⟨fun _ => 0, fun _ => 0, fun _ => 0⟩ .xtMotor
    { ecatId := 5, faultAck := 1 } :=
  (command_paths_iff _ .xtMotor { ecatId := 5, faultAck := 1 } (by decide)).mpr (by decide)

/-- A torque command for the CIA402 drive 5: the DDS path drops the torque reference. -/
theorem command_paths_cia402_differ :
    let num : Numeric := ⟨fun _ => 0, fun _ => 0, fun _ => 0⟩
    let command : Idl.MotorTxPdo := { ecatId := 5, torRef := ⟨0x40A00000⟩, gain4 := ⟨0x3F800000⟩ }
    (fromDds num command .rxCia402).cia402TxPdo?.bind Cia402TxPdo.targetTorque? = none ∧
      (convertJoint command {}).cia402TxPdo?.bind Cia402TxPdo.targetTorque? =
        some ⟨0x40A00000⟩ ∧
      ¬ PathsAgree num .cia402 command := by
  intro num command
  refine ⟨rfl, rfl, fun h => ?_⟩
  have he := congrArg (fun p => (p.bind EcSlavePdo.cia402TxPdo?).bind Cia402TxPdo.targetTorque?)
    (h [] [])
  exact absurd he (by decide)

end EcatMiddleware.Paths
