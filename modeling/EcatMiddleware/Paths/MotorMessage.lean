import EcatMiddleware.Lib.FoldExcept
import EcatMiddleware.Zenoh.Ros2Cdr
import Mathlib.Data.List.TakeWhile

/-!
# The motor message

A motor message holds one row for each drive, one column for each sequence. `motorRow` is the row
of a received PDO; the columns that its drive type has no field for hold 0 or the empty text.

* `ddsBuilds_iff`, `zenohBuilds_iff`: each builder makes the columns of the rows exactly when every
  drive is a CIA402 one, since the converters of the other drives raise.
* `motor_message_iff`: so both make one message exactly then.
-/

namespace EcatMiddleware.Paths

open EcatMiddleware.Core Dds Pb Zenoh

/-- What one drive adds to a motor message. -/
structure MotorRow where
  name : String
  statusword : UInt32 := 0
  modesOfOp : Int32 := 0
  motorPos : F32 := 0
  motorVel : F32 := 0
  linkPos : F32 := 0
  linkVel : F32 := 0
  current : F32 := 0
  torque : F32 := 0
  demandedPos : F32 := 0
  demandedVel : F32 := 0
  demandedTorque : F32 := 0
  demandedCurrent : F32 := 0
  controlEffort : F32 := 0
  motorTemp : F32 := 0
  driveTemp : Int32 := 0
  errorCode : UInt32 := 0
  errorReport : String := ""
  fault : UInt32 := 0
  rtt : UInt32 := 0

def cia402Row (name : String) (pb : Cia402RxPdo) : MotorRow where
  name := name
  statusword := pb.statusword
  modesOfOp := pb.modesOfOp
  motorPos := pb.motorPos
  motorVel := pb.motorVel
  linkPos := pb.linkPos
  linkVel := pb.linkVel
  current := pb.current
  torque := pb.torque
  demandedPos := pb.demandedPos
  demandedVel := pb.demandedVel
  demandedTorque := pb.demandedTorque
  demandedCurrent := pb.demandedCurrent
  controlEffort := pb.controlEffort
  motorTemp := pb.motorTemp
  driveTemp := pb.driveTemp
  errorCode := pb.errorCode
  errorReport := pb.errorReport

def motorXtRow (name : String) (pb : MotorXtRxPdo) : MotorRow where
  name := name
  motorPos := pb.motorPos
  motorVel := pb.motorVel
  linkPos := pb.linkPos
  linkVel := pb.linkVel
  torque := pb.torque
  motorTemp := pb.motorTemp
  fault := pb.fault
  rtt := pb.rtt

def plainMotorRow (num : Numeric) (name : String) (pb : MotorRxPdo) : MotorRow where
  name := name
  motorPos := pb.motorPos
  linkPos := pb.linkPos
  torque := num.intToFloat pb.torque
  fault := pb.fault
  rtt := pb.rtt

/-- The row of a drive's PDO. -/
def motorRow (num : Numeric) (name : String) (pdo : EcSlavePdo) : MotorRow :=
  match pdo.type with
  | .rxCia402 => cia402Row name (pdo.cia402RxPdo?.getD {})
  | .rxXtMotor => motorXtRow name (pdo.motorXtRxPdo?.getD {})
  | .rxMotor => plainMotorRow num name (pdo.motorRxPdo?.getD {})
  | _ => { name := name }

/-- The message with the given rows: each sequence is a column. -/
def motorMessage (header : Idl.Header) (rows : List MotorRow) : Idl.Motor where
  header := header
  name := rows.map MotorRow.name
  statusword := rows.map MotorRow.statusword
  modesOfOp := rows.map MotorRow.modesOfOp
  motorPos := rows.map MotorRow.motorPos
  motorVel := rows.map MotorRow.motorVel
  linkPos := rows.map MotorRow.linkPos
  linkVel := rows.map MotorRow.linkVel
  current := rows.map MotorRow.current
  torque := rows.map MotorRow.torque
  demandedPos := rows.map MotorRow.demandedPos
  demandedVel := rows.map MotorRow.demandedVel
  demandedTorque := rows.map MotorRow.demandedTorque
  demandedCurrent := rows.map MotorRow.demandedCurrent
  controlEffort := rows.map MotorRow.controlEffort
  motorTemp := rows.map MotorRow.motorTemp
  driveTemp := rows.map MotorRow.driveTemp
  errorCode := rows.map MotorRow.errorCode
  errorReport := rows.map MotorRow.errorReport
  fault := rows.map MotorRow.fault
  rtt := rows.map MotorRow.rtt

/-- `msg` holds exactly these rows. -/
def HasRows (msg : Idl.Motor) (rows : List MotorRow) : Prop :=
  ∃ header, msg = motorMessage header rows

/-! ## One PDO -/

variable (num : Numeric) (names : IdNames) {pdo : EcSlavePdo}

/-- The CIA402 converter and the push of the name add one row. -/
theorem motorFromCia402_message (header : Idl.Header) (rows : List MotorRow) (name : String)
    (pb : Cia402RxPdo) :
    AggregateMessage.pushName name <$> motorFromCia402 pb (motorMessage header rows) =
      .ok (motorMessage header (rows ++ [cia402Row name pb])) := by
  simp only [motorMessage, List.map_append]
  rfl

/-- The serializer selects the same conversions as the publisher. -/
theorem serializeMotorSwitch_eq : serializeMotorSwitch num = motorsSwitch num := rfl

theorem consume_cia402 (hcia : pdo.type = .rxCia402) (clock : Clock) {p : PdoPublisher Idl.Motor}
    {rows : List MotorRow} (h : HasRows p.message rows) :
    ∃ p', PdoPublisher.consume (motorsSwitch num) names clock pdo p = .ok p' ∧
      HasRows p'.message (rows ++ [motorRow num (deviceName names pdo) pdo]) := by
  obtain ⟨header, hmsg⟩ := h
  have hconvert := motorFromCia402_message header rows (deviceName names pdo)
    (pdo.cia402RxPdo?.getD {})
  refine ⟨_, by rw [PdoPublisher.consume, process, motorsSwitch, hcia]; rfl,
    headerFromProtobuf clock pdo, ?_⟩
  rw [motorRow, hcia, hmsg]
  exact congrArg (AggregateMessage.setHeader (headerFromProtobuf clock pdo))
    (Except.ok.inj hconvert)

theorem consume_raises (hmotor : isMotorType pdo.type = true) (hne : pdo.type ≠ .rxCia402)
    (clock : Clock) (p : PdoPublisher Idl.Motor) :
    ∃ e, PdoPublisher.consume (motorsSwitch num) names clock pdo p = .error e := by
  obtain ⟨convert, e, hswitch, he⟩ := motorsSwitch_raises num hmotor hne p.message
  exact ⟨e, PdoPublisher.consume_of_error _ names hswitch clock he⟩

theorem appendStep_cia402 (hcia : pdo.type = .rxCia402) {msg : Idl.Motor} {rows : List MotorRow}
    (h : HasRows msg rows) :
    ∃ msg', appendStep (serializeMotorSwitch num) msg pdo = .ok msg' ∧
      HasRows msg' (rows ++ [motorRow num pdo.header.strId pdo]) := by
  obtain ⟨header, rfl⟩ := h
  refine ⟨_, ?_, header, rfl⟩
  rw [appendStep, serializeMotorSwitch, motorRow, hcia]
  exact motorFromCia402_message header rows _ _

theorem appendStep_raises (hmotor : isMotorType pdo.type = true) (hne : pdo.type ≠ .rxCia402)
    (msg : Idl.Motor) : ∃ e, appendStep (serializeMotorSwitch num) msg pdo = .error e := by
  obtain ⟨convert, e, hswitch, he⟩ := motorsSwitch_raises num hmotor hne msg
  refine ⟨e, ?_⟩
  rw [appendStep, serializeMotorSwitch_eq, hswitch, Option.getD_some, he]
  rfl

/-! ## One cycle -/

/-- The publisher turns the cycle into a message with one row for each PDO. -/
def DdsBuilds (num : Numeric) (names : IdNames) (fed : List (Clock × EcSlavePdo)) : Prop :=
  ∀ p, ∃ p', PdoPublisher.feed (motorsSwitch num) names fed p = .ok p' ∧
    HasRows p'.message (fed.map fun f => motorRow num (deviceName names f.2) f.2)

/-- So does the serializer, which gives up only over a PDO without header or stamp. -/
def ZenohBuilds (num : Numeric) (pdos : List EcSlavePdo) : Prop :=
  ∃ result, appendLoop (serializeMotorSwitch num) pdos {} = .ok result ∧
    match result with
    | some msg => HasRows msg (pdos.map fun p => motorRow num p.header.strId p)
    | none => ∃ p ∈ pdos, hasValidHeader p = false

theorem ddsBuilds_iff {fed : List (Clock × EcSlavePdo)}
    (hfed : ∀ f ∈ fed, isMotorType f.2.type = true) :
    DdsBuilds num names fed ↔ ∀ f ∈ fed, f.2.type = .rxCia402 := by
  let step (p : PdoPublisher Idl.Motor) (f : Clock × EcSlavePdo) :=
    PdoPublisher.consume (motorsSwitch num) names f.1 f.2 p
  constructor
  · intro h f hf
    by_contra hne
    obtain ⟨p', hok, -⟩ := h .new
    obtain ⟨e, he⟩ := FoldExcept.foldlM_raises step hf
      (consume_raises num names (hfed f hf) hne f.1) PdoPublisher.new.beginCycle
    rw [PdoPublisher.feed, he] at hok
    exact absurd hok (by simp)
  · intro h p
    let rows (done : List (Clock × EcSlavePdo)) :=
      done.map fun f => motorRow num (deviceName names f.2) f.2
    refine FoldExcept.foldlM_inv step (fun p done => HasRows p.message (rows done)) ?_ ⟨{}, rfl⟩
    intro f hf p done hp
    obtain ⟨p', hok, hp'⟩ := consume_cia402 num names (h f hf) f.1 hp
    exact ⟨p', hok, by rwa [show rows (done ++ [f]) = _ from List.map_append]⟩

theorem zenohBuilds_iff {pdos : List EcSlavePdo} (hpdos : ∀ p ∈ pdos, isMotorType p.type = true) :
    ZenohBuilds num pdos ↔ ∀ p ∈ pdos.takeWhile hasValidHeader, p.type = .rxCia402 := by
  have hswitch : ∀ p ∈ pdos, (serializeMotorSwitch num p).isSome := by
    intro p hp
    unfold serializeMotorSwitch
    rcases isMotorType_iff.mp (hpdos p hp) with h | h | h <;> rw [h] <;> rfl
  unfold ZenohBuilds
  rw [appendLoop_eq _ hswitch]
  constructor
  · rintro ⟨result, hok, -⟩ p hp
    by_contra hne
    have hmem : p ∈ pdos := (List.takeWhile_sublist _).mem hp
    obtain ⟨e, he⟩ := FoldExcept.foldlM_raises _ hp (appendStep_raises num (hpdos p hmem) hne) {}
    rw [he] at hok
    exact absurd hok (by simp)
  · intro h
    let rows (done : List EcSlavePdo) := done.map fun p => motorRow num p.header.strId p
    obtain ⟨msg, hok, hrows⟩ := FoldExcept.foldlM_inv (appendStep (serializeMotorSwitch num))
      (fun msg done => HasRows msg (rows done)) (l := pdos.takeWhile hasValidHeader)
      (fun p hp msg done hmsg => by
        obtain ⟨msg', hok, hmsg'⟩ := appendStep_cia402 num (h p hp) hmsg
        exact ⟨msg', hok, by rwa [show rows (done ++ [p]) = _ from List.map_append]⟩)
      (s := {}) ⟨{}, rfl⟩
    refine ⟨_, by rw [hok]; rfl, ?_⟩
    by_cases hall : pdos.all hasValidHeader = true
    · have hwhole : pdos.takeWhile hasValidHeader = pdos :=
        List.takeWhile_eq_self_iff.mpr (List.all_eq_true.mp hall)
      simp only [hall, if_true]
      rwa [hwhole] at hrows
    · simp only [hall, if_false, Bool.false_eq_true]
      simpa using hall

/-- **The motor message.** Over PDOs of the three drive types, the publisher builds the message of
their rows exactly when all are CIA402 ones, and the serializer exactly when those before the first
without header or stamp are. -/
theorem motor_message_iff (num : Numeric) (names : IdNames) (fed : List (Clock × EcSlavePdo))
    (hfed : ∀ f ∈ fed, isMotorType f.2.type = true) :
    (DdsBuilds num names fed ↔ ∀ f ∈ fed, f.2.type = .rxCia402) ∧
      (ZenohBuilds num (fed.map Prod.snd) ↔
        ∀ p ∈ (fed.map Prod.snd).takeWhile hasValidHeader, p.type = .rxCia402) := by
  refine ⟨ddsBuilds_iff num names hfed, zenohBuilds_iff num fun p hp => ?_⟩
  obtain ⟨f, hf, rfl⟩ := List.mem_map.mp hp
  exact hfed f hf

/-- A CIA402 drive that stamps its PDOs. -/
def stampedDrive (index : Int32) : EcSlavePdo where
  type := .rxCia402
  header? := some { index? := some index, stamp? := some {} }

/-- A cycle of three CIA402 drives: the serializer gets to the end of it. -/
theorem motor_message_cia402 :
    let num : Numeric := ⟨fun _ => 0, fun _ => 0, fun _ => 0⟩
    let drives : List EcSlavePdo := [stampedDrive 3, stampedDrive 1, stampedDrive 7]
    let fed : List (Clock × EcSlavePdo) := drives.map fun p => (⟨0, 1⟩, p)
    DdsBuilds num ∅ fed ∧ ZenohBuilds num drives ∧
      ∃ message, appendLoop (serializeMotorSwitch num) drives {} = .ok (some message) := by
  intro num drives fed
  have hdrives : ∀ p ∈ drives, p.type = .rxCia402 := by simp [drives, stampedDrive]
  have hfed : ∀ f ∈ fed, f.2.type = .rxCia402 := by
    intro f hf
    obtain ⟨p, hp, rfl⟩ := List.mem_map.mp hf
    exact hdrives p hp
  obtain ⟨hdds, hzenoh⟩ := motor_message_iff num ∅ fed fun f hf => by rw [hfed f hf]; rfl
  refine ⟨hdds.mpr hfed, hzenoh.mpr fun p hp => ?_, _, rfl⟩
  exact hdrives p ((List.takeWhile_prefix _).subset hp)

/-- A cycle of one XT drive: `process` raises, and so does the serializer. -/
theorem motor_message_xt_raises :
    let pdo : EcSlavePdo :=
      { type := .rxXtMotor, header? := some { index? := some 3, stamp? := some {} } }
    let num : Numeric := ⟨fun _ => 0, fun _ => 0, fun _ => 0⟩
    let raised := CxxException.logicError "basic_string: construction from null is not valid"
    (∀ p, PdoPublisher.feed (motorsSwitch num) ∅ [(⟨0, 1⟩, pdo)] p = .error raised) ∧
      appendLoop (serializeMotorSwitch num) [pdo] {} = .error raised ∧
      ¬ DdsBuilds num ∅ [(⟨0, 1⟩, pdo)] ∧ ¬ ZenohBuilds num [pdo] := by
  intro pdo num raised
  have hdds : ∀ p, PdoPublisher.feed (motorsSwitch num) ∅ [(⟨0, 1⟩, pdo)] p = .error raised :=
    fun p => rfl
  have hzenoh : appendLoop (serializeMotorSwitch num) [pdo] {} = .error raised := rfl
  refine ⟨hdds, hzenoh, fun h => ?_, fun h => ?_⟩
  · obtain ⟨p', hok, -⟩ := h .new
    rw [hdds] at hok
    exact absurd hok (by simp)
  · obtain ⟨result, hok, -⟩ := h
    rw [hzenoh] at hok
    exact absurd hok (by simp)

end EcatMiddleware.Paths
