import Mathlib.Data.Nat.Notation
import Mathlib.Data.Int.Notation

/-!
# The process data messages

The Protobuf messages of `iit::advrf` that carry process data, with the fields the middleware
reads or sets.

* A field `x?` has presence: `x?.isSome` is the generated `has_x`, and the generated getter `x` is
  `x?` or the default.
* The fields of the received payloads are read through getters only, so they hold the getter's
  value.
* A `float` or `double` is its bit pattern. What C++ converts between number formats is the
  parameter `Numeric`.
-/

namespace EcatMiddleware

/-- A 32-bit IEEE float, by its bits. -/
structure F32 where
  bits : UInt32
  deriving DecidableEq, Repr

/-- A 64-bit IEEE float, by its bits. -/
structure F64 where
  bits : UInt64
  deriving DecidableEq, Repr

instance : OfNat F32 0 := ⟨⟨0⟩⟩

instance : OfNat F64 0 := ⟨⟨0⟩⟩

/-- The implicit conversions of C++ between the number formats. -/
structure Numeric where
  floatToInt32 : F32 → Int32
  intToFloat : ℤ → F32
  floatToDouble : F32 → F64

namespace Pb

structure Time where
  sec : Int32 := 0
  nsec : Int32 := 0
  deriving DecidableEq, Repr

structure Header where
  strId? : Option String := none
  index? : Option Int32 := none
  stamp? : Option Time := none
  deriving DecidableEq, Repr

namespace Header

def strId (h : Header) : String := h.strId?.getD ""

def index (h : Header) : Int32 := h.index?.getD 0

def stamp (h : Header) : Time := h.stamp?.getD {}

end Header

/-- `Ec_slave_pdo::Type`: the enumerators the middleware names, and any other value. -/
inductive PdoType where
  | unspecified
  | dummy
  | clientPipe
  | rxCia402
  | rxXtMotor
  | rxMotor
  | rxGripper
  | rxHyqKnee
  | rxHyqHpu
  | rxImuVn
  | rxPowF28M36
  | rxFt6
  | txCia402
  | txXtMotor
  | txMotor
  | txGripper
  | txHyqKnee
  | txHyqHpu
  | txPowF28M36
  | txFt6
  | other (value : Int32)
  deriving DecidableEq, Repr

/-! ## Received payloads -/

structure Cia402RxPdo where
  statusword : UInt32 := 0
  modesOfOp : Int32 := 0
  motorPos : F32 := 0
  motorVel : F32 := 0
  linkPos : F32 := 0
  linkVel : F32 := 0
  current : F32 := 0
  torque : F32 := 0
  demandedPos : F32 := 0
  demandedVel : F32 := 0
  demandedTorque : F32 := 0
  demandedCurrent : F32 := 0
  controlEffort : F32 := 0
  motorTemp : F32 := 0
  driveTemp : Int32 := 0
  errorCode : UInt32 := 0
  errorReport : String := ""
  deriving DecidableEq, Repr

structure MotorXtRxPdo where
  motorPos : F32 := 0
  linkPos : F32 := 0
  motorVel : F32 := 0
  linkVel : F32 := 0
  torque : F32 := 0
  motorTemp : F32 := 0
  fault : UInt32 := 0
  rtt : UInt32 := 0
  deriving DecidableEq, Repr

/-- `torque` is an integer of the drive: the source converts it to `float`. -/
structure MotorRxPdo where
  motorPos : F32 := 0
  linkPos : F32 := 0
  torque : ℤ := 0
  fault : UInt32 := 0
  rtt : UInt32 := 0
  deriving DecidableEq, Repr

structure GripperRxPdo where
  statusword : UInt32 := 0
  motorPos : F32 := 0
  linkPos : F32 := 0
  demandedPos : F32 := 0
  demandedVel : F32 := 0
  errorCode : UInt32 := 0
  deriving DecidableEq, Repr

structure HyqKneeRxPdo where
  force : F32 := 0
  pressure1 : F32 := 0
  pressure2 : F32 := 0
  encoderPosition : F32 := 0
  current : F32 := 0
  temperature : F32 := 0
  fault : UInt32 := 0
  rtt : UInt32 := 0
  opIdxAck : UInt32 := 0
  aux : F32 := 0
  currentRefFb : F32 := 0
  positionRefFb : F32 := 0
  forceRefFb : F32 := 0
  deriving DecidableEq, Repr

structure HyqHpuRxPdo where
  motorCurrent : F32 := 0
  motorSpeed : F32 := 0
  pressure1 : F32 := 0
  pressure2 : F32 := 0
  temperature : UInt32 := 0
  mosfetTemperature : UInt32 := 0
  motorTemperature : Int32 := 0
  fault : UInt32 := 0
  rtt : UInt32 := 0
  opIdxAck : UInt32 := 0
  aux : F32 := 0
  deriving DecidableEq, Repr

structure ImuVnRxPdo where
  xAcc : F32 := 0
  yAcc : F32 := 0
  zAcc : F32 := 0
  xRate : F32 := 0
  yRate : F32 := 0
  zRate : F32 := 0
  xQuat : F32 := 0
  yQuat : F32 := 0
  zQuat : F32 := 0
  wQuat : F32 := 0
  imuTs : UInt32 := 0
  temperature : UInt32 := 0
  digitalIn : UInt32 := 0
  fault : UInt32 := 0
  rtt : UInt32 := 0
  deriving DecidableEq, Repr

/-- `rtt` is the value that `static_cast<uint32_t>` makes of the drive's one. -/
structure PowF28M36RxPdo where
  vBatt : F32 := 0
  vLoad : F32 := 0
  iLoad : F32 := 0
  tempPcb : F32 := 0
  tempHeatsink : F32 := 0
  tempBatt : F32 := 0
  status : UInt32 := 0
  fault : UInt32 := 0
  rtt : UInt32 := 0
  opIdxAck : UInt32 := 0
  aux : F32 := 0
  deriving DecidableEq, Repr

structure Ft6RxPdo where
  forceX : F32 := 0
  forceY : F32 := 0
  forceZ : F32 := 0
  torqueX : F32 := 0
  torqueY : F32 := 0
  torqueZ : F32 := 0
  fault : UInt32 := 0
  rtt : UInt32 := 0
  opIdxAck : UInt32 := 0
  aux : F32 := 0
  deriving DecidableEq, Repr

/-! ## Transmitted payloads -/

structure MotorTxPdo where
  posRef? : Option F32 := none
  gainp? : Option Int32 := none
  gaind? : Option Int32 := none
  faultAck? : Option UInt32 := none
  ts? : Option UInt32 := none
  deriving DecidableEq, Repr

structure MotorXtTxPdo where
  posRef? : Option F32 := none
  velRef? : Option F32 := none
  torRef? : Option F32 := none
  gain0? : Option F32 := none
  gain1? : Option F32 := none
  gain2? : Option F32 := none
  gain3? : Option F32 := none
  gain4? : Option F32 := none
  faultAck? : Option UInt32 := none
  ts? : Option UInt32 := none
  opIdxAux? : Option UInt32 := none
  aux? : Option F32 := none
  deriving DecidableEq, Repr

structure Cia402TxPdo where
  targetTorque? : Option F32 := none
  targetPos? : Option F32 := none
  targetVel? : Option F32 := none
  targetCurrent? : Option F32 := none
  gain0? : Option F32 := none
  gain1? : Option F32 := none
  gain2? : Option F32 := none
  gain3? : Option F32 := none
  gain4? : Option F32 := none
  deriving DecidableEq, Repr

structure HyqKneeTxPdo where
  currentRef? : Option F32 := none
  positionRef? : Option F32 := none
  forceRef? : Option F32 := none
  gain0? : Option F32 := none
  gain1? : Option F32 := none
  gain2? : Option F32 := none
  gain3? : Option F32 := none
  gain4? : Option F32 := none
  faultAck? : Option UInt32 := none
  ts? : Option UInt32 := none
  opIdxAux? : Option UInt32 := none
  aux? : Option F32 := none
  deriving DecidableEq, Repr

structure GripperTxPdo where
  targetPos? : Option F32 := none
  targetVel? : Option F32 := none
  targetTorque? : Option F32 := none
  gain0? : Option F32 := none
  gain1? : Option F32 := none
  gain2? : Option F32 := none
  gain3? : Option F32 := none
  gain4? : Option F32 := none
  deriving DecidableEq, Repr

structure HyqHpuTxPdo where
  pumpTarget? : Option F32 := none
  pressurePGain? : Option F32 := none
  pressureIGain? : Option F32 := none
  pressureDGain? : Option F32 := none
  pressureILimit? : Option F32 := none
  faultAck? : Option UInt32 := none
  solenoidout? : Option UInt32 := none
  ts? : Option UInt32 := none
  opIdxAux? : Option UInt32 := none
  aux? : Option F32 := none
  deriving DecidableEq, Repr

structure PowF28M36TxPdo where
  masterCommand? : Option UInt32 := none
  faultAck? : Option UInt32 := none
  opIdxAux? : Option UInt32 := none
  aux? : Option F32 := none
  deriving DecidableEq, Repr

structure Ft6TxPdo where
  ts? : Option UInt32 := none
  opIdxAux? : Option UInt32 := none
  aux? : Option F32 := none
  deriving DecidableEq, Repr

/-! ## The envelope -/

/-- `Ec_slave_pdo`: a type discriminator, a header and the payloads. -/
structure EcSlavePdo where
  type : PdoType := .unspecified
  header? : Option Header := none
  cia402RxPdo? : Option Cia402RxPdo := none
  motorXtRxPdo? : Option MotorXtRxPdo := none
  motorRxPdo? : Option MotorRxPdo := none
  gripperRxPdo? : Option GripperRxPdo := none
  hyqkneeRxPdo? : Option HyqKneeRxPdo := none
  hyqhpuRxPdo? : Option HyqHpuRxPdo := none
  imuvnRxPdo? : Option ImuVnRxPdo := none
  powf28m36RxPdo? : Option PowF28M36RxPdo := none
  ft6RxPdo? : Option Ft6RxPdo := none
  motorTxPdo? : Option MotorTxPdo := none
  motorXtTxPdo? : Option MotorXtTxPdo := none
  cia402TxPdo? : Option Cia402TxPdo := none
  hyqkneeTxPdo? : Option HyqKneeTxPdo := none
  gripperTxPdo? : Option GripperTxPdo := none
  hyqhpuTxPdo? : Option HyqHpuTxPdo := none
  powf28m36TxPdo? : Option PowF28M36TxPdo := none
  ft6TxPdo? : Option Ft6TxPdo := none
  deriving DecidableEq, Repr

namespace EcSlavePdo

def header (p : EcSlavePdo) : Header := p.header?.getD {}

/-- The index of the header, when both are present. -/
def headerIndex? (p : EcSlavePdo) : Option Int32 := p.header?.bind Header.index?

/-- `p` has a header index, and it is `i`. -/
def HasIndex (p : EcSlavePdo) (i : ℤ) : Prop := ∃ x, p.headerIndex? = some x ∧ x.toInt = i

theorem HasIndex.unique {p : EcSlavePdo} {i j : ℤ} (hi : p.HasIndex i) (hj : p.HasIndex j) :
    i = j := by
  obtain ⟨x, hx, rfl⟩ := hi
  obtain ⟨y, hy, rfl⟩ := hj
  rw [Option.some.inj (hx.symm.trans hy)]

theorem HasIndex.header_index {p : EcSlavePdo} {i : ℤ} (h : p.HasIndex i) :
    p.header.index.toInt = i := by
  obtain ⟨x, hx, rfl⟩ := h
  obtain ⟨hd, hh, hi⟩ := Option.bind_eq_some_iff.mp hx
  simp [header, hh, Header.index, hi]

end EcSlavePdo

end Pb

end EcatMiddleware
