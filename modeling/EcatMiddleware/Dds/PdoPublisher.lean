import EcatMiddleware.Core.AdapterRun
import EcatMiddleware.Dds.Converter
import EcatMiddleware.Lib.FoldExcept

/-!
# The DDS publishers

`DDSPdoPublisher` builds one message in each cycle from the PDOs that the adapter passes to it, and
writes it when the cycle is valid. The publishers of aggregated messages differ in the `switch` of
`process`, and the plugins for the two DDS implementations have the same code.

* `PdoPublisher` with `beginCycle`, `consume` and `endCycle` is the publisher, `receive` one call
  of the adapter on it.
* `jointStateSwitch` to `gripperSwitch` are the conversions that each publisher selects.
* `processDevice` is the `process` of the publishers of one device.
-/

namespace EcatMiddleware.Dds

open EcatMiddleware.Core Pb

/-- What the templates need of an aggregated message. -/
class AggregateMessage (Msg : Type) where
  empty : Msg
  pushName : String → Msg → Msg
  setHeader : Idl.Header → Msg → Msg

instance : AggregateMessage Idl.JointState where
  empty := {}
  pushName name msg := { msg with name := msg.name ++ [name] }
  setHeader header msg := { msg with header := header }

instance : AggregateMessage Idl.Motor where
  empty := {}
  pushName name msg := { msg with name := msg.name ++ [name] }
  setHeader header msg := { msg with header := header }

instance : AggregateMessage Idl.Valve where
  empty := {}
  pushName name msg := { msg with name := msg.name ++ [name] }
  setHeader header msg := { msg with header := header }

instance : AggregateMessage Idl.Gripper where
  empty := {}
  pushName name msg := { msg with name := msg.name ++ [name] }
  setHeader header msg := { msg with header := header }

/-- The conversion that a `switch` on the PDO type selects, `none` in its default case. -/
abbrev Switch (Msg : Type) := EcSlavePdo → Option (Msg → Except CxxException Msg)

section Switches

variable (num : Numeric)

/-- The `switch` of `JointStatePublisher::process`. -/
def jointStateSwitch : Switch Idl.JointState := fun pdo =>
  match pdo.type with
  | .rxCia402 => some fun msg => .ok (jointFromCia402 num (pdo.cia402RxPdo?.getD {}) msg)
  | .rxXtMotor => some fun msg => .ok (jointFromMotorXt num (pdo.motorXtRxPdo?.getD {}) msg)
  | .rxMotor => some fun msg => .ok (jointFromMotor num (pdo.motorRxPdo?.getD {}) msg)
  | .rxGripper => some fun msg => .ok (jointFromGripper num (pdo.gripperRxPdo?.getD {}) msg)
  | _ => none

/-- The `switch` of `MotorsPublisher::process`. -/
def motorsSwitch : Switch Idl.Motor := fun pdo =>
  match pdo.type with
  | .rxCia402 => some (motorFromCia402 (pdo.cia402RxPdo?.getD {}))
  | .rxXtMotor => some (motorFromMotorXt (pdo.motorXtRxPdo?.getD {}))
  | .rxMotor => some (motorFromMotor num (pdo.motorRxPdo?.getD {}))
  | _ => none

/-- The `switch` of `ValvePublisher::process`. -/
def valveSwitch : Switch Idl.Valve := fun pdo =>
  match pdo.type with
  | .rxHyqKnee => some fun msg => .ok (valveFromHyqKnee (pdo.hyqkneeRxPdo?.getD {}) msg)
  | _ => none

/-- The `switch` of `GripperPublisher::process`. -/
def gripperSwitch : Switch Idl.Gripper := fun pdo =>
  match pdo.type with
  | .rxGripper => some fun msg => .ok (gripperFromGripper (pdo.gripperRxPdo?.getD {}) msg)
  | _ => none

/-- The converters of the drives other than CIA402 make a text of a null pointer. -/
theorem motorsSwitch_raises {pdo : EcSlavePdo} (hmotor : isMotorType pdo.type = true)
    (hne : pdo.type ≠ .rxCia402) (msg : Idl.Motor) :
    ∃ convert e, motorsSwitch num pdo = some convert ∧ convert msg = .error e := by
  unfold motorsSwitch
  rcases isMotorType_iff.mp hmotor with h | h | h
  · exact absurd h hne
  · exact ⟨_, _, by rw [h], rfl⟩
  · exact ⟨_, _, by rw [h], rfl⟩

end Switches

/-- A `DDSPdoPublisher`. `written` lists the messages it has handed to its writer. -/
structure PdoPublisher (Msg : Type) where
  message : Msg
  hasUpdate : Bool := false
  written : List Msg := []

def PdoPublisher.endCycle {Msg : Type} (valid : Bool) (p : PdoPublisher Msg) : PdoPublisher Msg :=
  if !valid || !p.hasUpdate then p else { p with written := p.written ++ [p.message] }

variable {Msg : Type} [AggregateMessage Msg] (switch : Switch Msg) (names : IdNames)

/-- The name under which a publisher lists a PDO. -/
def deviceName (names : IdNames) (pdo : EcSlavePdo) : String :=
  resolveName pdo.header.index.toUInt32 names

/-- `process` of the publisher with the given `switch`: the flag it returns, and the message. -/
def process (clock : Clock) (pdo : EcSlavePdo) (msg : Msg) : Except CxxException (Bool × Msg) :=
  match switch pdo with
  | none => .ok (false, msg)
  | some convert => do
    let msg ← convert msg
    let msg := AggregateMessage.pushName (deviceName names pdo) msg
    .ok (true, AggregateMessage.setHeader (headerFromProtobuf clock pdo) msg)

theorem process_of_none {pdo : EcSlavePdo} (h : switch pdo = none) (clock : Clock) (msg : Msg) :
    process switch names clock pdo msg = .ok (false, msg) := by
  unfold process
  rw [h]

theorem process_of_some {pdo : EcSlavePdo} {convert : Msg → Except CxxException Msg}
    (h : switch pdo = some convert) (clock : Clock) (msg : Msg) :
    process switch names clock pdo msg = convert msg >>= fun converted =>
      .ok (true, AggregateMessage.setHeader (headerFromProtobuf clock pdo)
        (AggregateMessage.pushName (deviceName names pdo) converted)) := by
  unfold process
  rw [h]

namespace PdoPublisher

/-- A publisher as constructed. -/
def new : PdoPublisher Msg := { message := AggregateMessage.empty }

def beginCycle (p : PdoPublisher Msg) : PdoPublisher Msg :=
  { p with message := AggregateMessage.empty, hasUpdate := false }

def consume (clock : Clock) (pdo : EcSlavePdo) (p : PdoPublisher Msg) :
    Except CxxException (PdoPublisher Msg) := do
  let (accepted, message) ← process switch names clock pdo p.message
  .ok { p with message := message, hasUpdate := p.hasUpdate || accepted }

/-- One call of the adapter, at some reading of the clock. -/
def receive (p : PdoPublisher Msg) (call : Clock × Call) : Except CxxException (PdoPublisher Msg) :=
  match call.2 with
  | .beginCycle => .ok p.beginCycle
  | .consume pdo => consume switch names call.1 pdo p
  | .endCycle valid => .ok (p.endCycle valid)

/-- All calls of the adapter so far. -/
def receiveAll (calls : List (Clock × Call)) : Except CxxException (PdoPublisher Msg) :=
  calls.foldlM (receive switch names) new

/-- `begin_cycle` and one `consume` for each PDO. -/
def feed (fed : List (Clock × EcSlavePdo)) (p : PdoPublisher Msg) :
    Except CxxException (PdoPublisher Msg) :=
  fed.foldlM (fun p f => consume switch names f.1 f.2 p) p.beginCycle

/-! ## One cycle -/

theorem receiveAll_append (calls cycle : List (Clock × Call)) :
    receiveAll switch names (calls ++ cycle) =
      receiveAll switch names calls >>= fun p => cycle.foldlM (receive switch names) p := by
  rw [receiveAll, List.foldlM_append]
  rfl

/-- A conversion that raises makes `consume` raise. -/
theorem consume_of_error {pdo : EcSlavePdo} {convert : Msg → Except CxxException Msg}
    (h : switch pdo = some convert) (clock : Clock) {p : PdoPublisher Msg} {e : CxxException}
    (he : convert p.message = .error e) : consume switch names clock pdo p = .error e := by
  rw [consume, process_of_some switch names h, he]
  rfl

/-- Only `end_cycle` writes. -/
theorem written_consume {clock : Clock} {pdo : EcSlavePdo} {p p' : PdoPublisher Msg}
    (h : consume switch names clock pdo p = .ok p') : p'.written = p.written := by
  obtain ⟨result, -, h⟩ := FoldExcept.bind_eq_ok.mp h
  obtain rfl := Except.ok.inj h
  rfl

/-- A cycle in which a conversion raises ends before its `end_cycle`. -/
theorem receive_raising_cycle {pdos : List EcSlavePdo} {pdo : EcSlavePdo} (hpdo : pdo ∈ pdos)
    (hraises : ∀ clock p, ∃ e, consume switch names clock pdo p = .error e) {valid : Bool}
    {cycle : List (Clock × Call)}
    (hcycle : cycle.map Prod.snd = .beginCycle :: (pdos.map .consume ++ [.endCycle valid]))
    (p : PdoPublisher Msg) :
    (∃ e, cycle.foldlM (receive switch names) p = .error e) ∧
      (FoldExcept.foldUntil (receive switch names) p cycle).written = p.written := by
  obtain ⟨c₀, c₁, fed, rfl, rfl⟩ := exists_cycle hcycle
  obtain ⟨f, hf, rfl⟩ := List.mem_map.mp hpdo
  let body : List (Clock × Call) := (c₀, .beginCycle) :: fed.map fun f => (f.1, .consume f.2)
  have hmem : (f.1, .consume f.2) ∈ body :=
    List.mem_cons_of_mem _ (List.mem_map.mpr ⟨f, hf, rfl⟩)
  obtain ⟨e, he⟩ := FoldExcept.foldlM_raises (receive switch names) hmem (hraises f.1) p
  rw [← List.cons_append]
  refine ⟨⟨e, ?_⟩, ?_⟩
  · rw [List.foldlM_append, he]
    rfl
  · rw [FoldExcept.foldUntil_append_of_error _ he]
    refine FoldExcept.foldUntil_inv (fun q : PdoPublisher Msg => q.written = p.written)
      (fun c hc q q' hq hok => ?_) rfl
    rcases List.mem_cons.mp hc with rfl | hc
    · obtain rfl := Except.ok.inj hok
      exact hq
    · obtain ⟨g, -, rfl⟩ := List.mem_map.mp hc
      rw [written_consume switch names hok, hq]

/-- A cycle in which no conversion raises: the message is built from the PDOs in order, and written
if the cycle is valid and one PDO was accepted. -/
theorem receive_cycle {I : Msg → List EcSlavePdo → Prop} (hempty : I AggregateMessage.empty [])
    {pdos : List EcSlavePdo} (hprocess : ∀ pdo ∈ pdos, ∀ clock msg done, I msg done →
      ∃ msg', process switch names clock pdo msg = .ok ((switch pdo).isSome, msg') ∧
        I msg' (done ++ [pdo]))
    {valid : Bool} {cycle : List (Clock × Call)}
    (hcycle : cycle.map Prod.snd = .beginCycle :: (pdos.map .consume ++ [.endCycle valid]))
    (p : PdoPublisher Msg) :
    ∃ p' msg, cycle.foldlM (receive switch names) p = .ok p' ∧ I msg pdos ∧
      p'.written = p.written ++
        if valid && pdos.any fun pdo => (switch pdo).isSome then [msg] else [] := by
  obtain ⟨c₀, c₁, fed, rfl, rfl⟩ := exists_cycle hcycle
  obtain ⟨p', hok, hmsg, hupdate, hwritten⟩ := FoldExcept.foldlM_inv
    (fun p f => consume switch names f.1 f.2 p)
    (fun q done => I q.message (done.map Prod.snd) ∧
      q.hasUpdate = (done.map Prod.snd).any (fun pdo => (switch pdo).isSome) ∧
      q.written = p.written)
    (l := fed) (fun f hf q done hq => by
      obtain ⟨hI, hupdate, hwritten⟩ := hq
      obtain ⟨msg', hok, hI'⟩ :=
        hprocess f.2 (List.mem_map_of_mem hf) f.1 q.message _ hI
      refine ⟨{ q with message := msg', hasUpdate := q.hasUpdate || (switch f.2).isSome }, ?_, ?_⟩
      · rw [consume, hok]
        rfl
      · simpa [hupdate, hwritten] using hI')
    (s := p.beginCycle) ⟨hempty, rfl, rfl⟩
  refine ⟨p'.endCycle valid, p'.message, ?_, hmsg, ?_⟩
  · show List.foldlM (receive switch names) p.beginCycle (_ ++ _) = _
    rw [List.foldlM_append, List.foldlM_map]
    exact (congrArg (· >>= _) hok).trans rfl
  · unfold endCycle
    rw [← hupdate, ← hwritten]
    cases valid <;> cases p'.hasUpdate <;> simp

end PdoPublisher

/-! ## Single devices -/

/-- What the templates need of the message of one device. -/
class DeviceMessage (Msg : Type) where
  empty : Msg
  setHeader : Idl.Header → Msg → Msg

instance : DeviceMessage Idl.Imu where
  empty := {}
  setHeader header msg := { msg with header := header }

instance : DeviceMessage Idl.PowerBoard where
  empty := {}
  setHeader header msg := { msg with header := header }

instance : DeviceMessage Idl.Pump where
  empty := {}
  setHeader header msg := { msg with header := header }

instance : DeviceMessage Idl.ForceTorque where
  empty := {}
  setHeader header msg := { msg with header := header }

section Devices

variable {Msg : Type} [DeviceMessage Msg]

/-- `process` of the publisher of a device with PDOs of the given type. The name of the device is
its frame. -/
def processDevice (expectedType : PdoType) (convert : EcSlavePdo → Msg → Msg) (names : IdNames)
    (clock : Clock) (pdo : EcSlavePdo) (msg : Msg) : Bool × Msg :=
  if pdo.type ≠ expectedType then (false, msg)
  else
    let header := headerFromProtobuf clock pdo
    (true, DeviceMessage.setHeader { header with frameId := deviceName names pdo }
      (convert pdo msg))

/-- `begin_cycle` and one `consume` for each PDO: the message that is being assembled. -/
def feedDevice (process : Clock → EcSlavePdo → Msg → Bool × Msg) (fed : List (Clock × EcSlavePdo)) :
    Msg :=
  fed.foldl (fun msg f => (process f.1 f.2 msg).2) DeviceMessage.empty

/-- A publisher of one device as constructed. -/
def PdoPublisher.newDevice : PdoPublisher Msg := { message := DeviceMessage.empty }

/-- One call of the adapter on the publisher of one device. Its conversions do not raise. -/
def PdoPublisher.receiveDevice (process : Clock → EcSlavePdo → Msg → Bool × Msg)
    (p : PdoPublisher Msg) (call : Clock × Call) : PdoPublisher Msg :=
  match call.2 with
  | .beginCycle => { p with message := DeviceMessage.empty, hasUpdate := false }
  | .consume pdo =>
    let (accepted, message) := process call.1 pdo p.message
    { p with message := message, hasUpdate := p.hasUpdate || accepted }
  | .endCycle valid => p.endCycle valid

end Devices

section

variable (num : Numeric)

/-- The conversion of `ImuPublisher`. -/
def convertImu (pdo : EcSlavePdo) : Idl.Imu → Idl.Imu := imuFromImuVn num (pdo.imuvnRxPdo?.getD {})

/-- The conversion of `PowerBoardPublisher`. -/
def convertPowerBoard (pdo : EcSlavePdo) : Idl.PowerBoard → Idl.PowerBoard :=
  powerBoardFromPowF28M36 (pdo.powf28m36RxPdo?.getD {})

/-- The conversion of `PumpPublisher`. It sets no name. -/
def convertPump (pdo : EcSlavePdo) : Idl.Pump → Idl.Pump :=
  pumpFromHyqHpu (pdo.hyqhpuRxPdo?.getD {})

/-- The conversion of `ForceTorquePublisher`. -/
def convertForceTorque (pdo : EcSlavePdo) : Idl.ForceTorque → Idl.ForceTorque :=
  forceTorqueFromFt6 num (pdo.ft6RxPdo?.getD {})

/-- `ImuPublisher::process`. -/
def processImu : IdNames → Clock → EcSlavePdo → Idl.Imu → Bool × Idl.Imu :=
  processDevice .rxImuVn (convertImu num)

/-- `PowerBoardPublisher::process`. -/
def processPowerBoard : IdNames → Clock → EcSlavePdo → Idl.PowerBoard → Bool × Idl.PowerBoard :=
  processDevice .rxPowF28M36 convertPowerBoard

/-- `PumpPublisher::process`. -/
def processPump : IdNames → Clock → EcSlavePdo → Idl.Pump → Bool × Idl.Pump :=
  processDevice .rxHyqHpu convertPump

/-- `ForceTorquePublisher::process`. -/
def processForceTorque :
    IdNames → Clock → EcSlavePdo → Idl.ForceTorque → Bool × Idl.ForceTorque :=
  processDevice .rxFt6 (convertForceTorque num)

end

end EcatMiddleware.Dds
