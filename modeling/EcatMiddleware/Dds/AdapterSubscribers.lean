import EcatMiddleware.Core.AdapterSubscribers
import EcatMiddleware.Core.EcatDiscover
import EcatMiddleware.Dds.Converter

/-!
# The DDS subscriber adapter

A sample on the motor-command topic is converted to one PDO for each element, and the PDOs are
pushed one after the other. The converter appends a PDO before it knows whether the element is
valid, and removes it when it is not.

* `motorCommands_eq`: what is left are the PDOs of the valid elements, in order.
* `motor_commands`: which PDOs are offered to `push`, and what `push` makes of them.
-/

namespace EcatMiddleware.Dds

open EcatMiddleware.Core Pb

/-- The discovered devices. -/
abbrev Devices := AList fun _ : EcatId => EcatMetadata

variable (num : Numeric) (devices : Devices)

/-- One element in the converter of `init`: `emplace_back`, the conversion, and `pop_back` if the
PDO is left without a type. -/
def appendCommand (result : List EcSlavePdo) (element : Idl.MotorTxPdo) : List EcSlavePdo :=
  let type := resolveType devices element.ecatId.toUInt32
  let pdo := fromDds num element type
  let result := result ++ [pdo]
  if pdo.type = .unspecified then result.dropLast else result

/-- The converter of `init`. -/
def motorCommands (sample : List Idl.MotorTxPdo) : List EcSlavePdo :=
  sample.foldl (appendCommand num devices) []

/-- The callback on the motor-command topic. -/
def motorCallback {Q : Type} (lib : ShmLib Q) (sample : List Idl.MotorTxPdo)
    (tx : TxTransport Q) : TxTransport Q :=
  pushAll lib .motor (motorCommands num devices sample) tx

/-! ## What an element contributes -/

/-- The discriminator of the commands of a drive, by the type in the map. -/
def commandType? : PdoType → Option PdoType
  | .rxMotor | .txMotor => some .txMotor
  | .rxXtMotor | .txXtMotor => some .txXtMotor
  | .rxCia402 | .txCia402 => some .txCia402
  | _ => none

/-- The discriminator of the command for the device that the element addresses, if it is a
drive. -/
def addressed? (element : Idl.MotorTxPdo) : Option PdoType :=
  if 0 ≤ element.ecatId then
    (devices.lookup element.ecatId.toUInt32).bind fun device => commandType? device.type
  else none

/-- A PDO that carries the element under the discriminator `t`: its header has the id of the element
and nothing else, and it has the payload of this drive type and no other. -/
inductive Carries (element : Idl.MotorTxPdo) : PdoType → EcSlavePdo → Prop where
  | motor : Carries element .txMotor {
      type := .txMotor
      header? := some { index? := some element.ecatId }
      motorTxPdo? := some (fromDdsMotor num element {}) }
  | xtMotor : Carries element .txXtMotor {
      type := .txXtMotor
      header? := some { index? := some element.ecatId }
      motorXtTxPdo? := some (fromDdsMotorXt element {}) }
  | cia402 : Carries element .txCia402 {
      type := .txCia402
      header? := some { index? := some element.ecatId }
      cia402TxPdo? := some (fromDdsCia402 element {}) }

variable {num devices}

theorem Carries.type {element : Idl.MotorTxPdo} {t : PdoType} {pdo : EcSlavePdo}
    (h : Carries num element t pdo) : pdo.type = t := by
  cases h <;> rfl

/-- The conversion leaves a PDO without a type, or one that carries the element. -/
theorem fromDds_cases {element : Idl.MotorTxPdo} (hid : 0 ≤ element.ecatId) (t : PdoType) :
    match commandType? t with
    | some t' => t' ≠ .unspecified ∧ Carries num element t' (fromDds num element t)
    | none => (fromDds num element t).type = .unspecified := by
  have hneg : ¬ element.ecatId < 0 := Int32.not_lt.mpr hid
  unfold fromDds
  cases t <;> first
    | exact ⟨by decide, by rw [if_neg hneg]; constructor⟩
    | (show (if _ then _ else _ : EcSlavePdo).type = _
       rw [if_neg hneg])

/-- **One element.** -/
theorem appendCommand_cases (element : Idl.MotorTxPdo) :
    match addressed? devices element with
    | some t => ∃ pdo, Carries num element t pdo ∧
        ∀ result, appendCommand num devices result element = result ++ [pdo]
    | none => ∀ result, appendCommand num devices result element = result := by
  unfold addressed? appendCommand resolveType
  by_cases hid : 0 ≤ element.ecatId
  · rw [if_pos hid]
    cases hlookup : devices.lookup element.ecatId.toUInt32 with
    | none =>
      have hcases := @fromDds_cases num element hid .unspecified
      simp only [commandType?] at hcases
      simp [hcases]
    | some device =>
      have hcases := @fromDds_cases num element hid device.type
      simp only [Option.bind_some]
      cases ht : commandType? device.type with
      | none =>
        rw [ht] at hcases
        simp only at hcases
        simp [hcases]
      | some t =>
        rw [ht] at hcases
        obtain ⟨hne, hcarries⟩ := hcases
        exact ⟨_, hcarries, fun result => by simp [hcarries.type, hne]⟩
  · have hneg : element.ecatId < 0 := Int32.not_le.mp hid
    rw [if_neg hid]
    simp [fromDds, hneg]

/-! ## The whole sample -/

/-- What the converter makes of one element does not depend on the others. -/
theorem appendCommand_eq (result : List EcSlavePdo) (element : Idl.MotorTxPdo) :
    appendCommand num devices result element = result ++ appendCommand num devices [] element := by
  have hcases := @appendCommand_cases num devices element
  cases ht : addressed? devices element with
  | none =>
    rw [ht] at hcases
    rw [hcases, hcases, List.append_nil]
  | some t =>
    rw [ht] at hcases
    obtain ⟨pdo, -, happend⟩ := hcases
    rw [happend, happend, List.nil_append]

theorem motorCommands_eq (sample : List Idl.MotorTxPdo) :
    motorCommands num devices sample = sample.flatMap (appendCommand num devices []) := by
  unfold motorCommands
  induction sample using List.reverseRecOn with
  | nil => rfl
  | append_singleton sample element ih =>
    rw [List.foldl_append, ih, List.foldl_cons, List.foldl_nil, appendCommand_eq,
      List.flatMap_append, List.flatMap_singleton]

/-- The PDOs stand in the order of the elements that they carry. -/
theorem forall₂_motorCommands (sample : List Idl.MotorTxPdo) :
    List.Forall₂ (fun element pdo => ∃ t, addressed? devices element = some t ∧
        Carries num element t pdo)
      (sample.filter fun element => (addressed? devices element).isSome)
      (motorCommands num devices sample) := by
  rw [motorCommands_eq]
  induction sample with
  | nil => exact .nil
  | cons element sample ih =>
    have hcases := @appendCommand_cases num devices element
    rw [List.flatMap_cons]
    cases ht : addressed? devices element with
    | none =>
      rw [ht] at hcases
      rw [hcases, List.nil_append, List.filter_cons_of_neg (by simp [ht])]
      exact ih
    | some t =>
      rw [ht] at hcases
      obtain ⟨pdo, hcarries, happend⟩ := hcases
      rw [happend, List.nil_append, List.filter_cons_of_pos (by simp [ht])]
      exact .cons ⟨t, ht, hcarries⟩ ih

theorem motorCommands_of_not_addressed {before after : List Idl.MotorTxPdo}
    {element : Idl.MotorTxPdo} (h : addressed? devices element = none) :
    motorCommands num devices (before ++ element :: after) =
      motorCommands num devices (before ++ after) := by
  have hcases := @appendCommand_cases num devices element
  rw [h] at hcases
  simp only [motorCommands_eq, List.flatMap_append, List.flatMap_cons, hcases, List.nil_append]

/-! ## What is written -/

/-- The slot that `push` fills has the number of the header index, which is not negative. -/
theorem written_push {Q : Type} {lib : ShmLib Q} {channel : ChannelTx} {msg : EcSlavePdo}
    {tx : TxTransport Q} {entry : DeviceTypeTx × TxSlot}
    (h : entry ∈ (push lib channel msg tx).2.pushed) :
    entry ∈ tx.pushed ∨ entry.1 = channel.device ∧ entry.2.pdo = msg ∧
      ∃ index, msg.headerIndex? = some index ∧ 0 ≤ index.toInt ∧
        (entry.2.slaveId.toNat : ℤ) = index.toInt := by
  obtain ⟨hpushed, hindex⟩ := @push_spec Q lib channel msg tx
  rw [hpushed, List.mem_append] at h
  refine h.imp_right fun h => ?_
  split at h
  next hresult =>
    obtain ⟨index, hsome, hpos⟩ := hindex hresult
    obtain rfl := List.mem_singleton.mp h
    rw [slotOf_of_index hsome]
    have hid := (Int32.toUInt32_eq_iff index index.toUInt32).mp ⟨Int32.not_lt.mpr hpos, rfl⟩
    exact ⟨rfl, rfl, index, hsome, by omega, hid.symm⟩
  next => exact absurd h List.not_mem_nil

/-- **The motor commands.** For each element that addresses a drive, and in their order, one PDO is
offered to `push` that carries it; any other element might as well not be in the sample. Every PDO
offered is pushed, and the queue holds those whose own push succeeded, each in the slot of its
header index; one that is refused might as well not have been offered. -/
theorem motor_commands {Q : Type} (num : Numeric) (lib : ShmLib Q) (devices : Devices)
    (sample : List Idl.MotorTxPdo) (tx : TxTransport Q) :
    let offered := motorCommands num devices sample
    let results := pushResults lib .motor offered tx
    List.Forall₂ (fun element pdo => ∃ t, addressed? devices element = some t ∧
        Carries num element t pdo)
      (sample.filter fun element => (addressed? devices element).isSome) offered ∧
    (∀ before element after, sample = before ++ element :: after →
      addressed? devices element = none →
        offered = motorCommands num devices (before ++ after)) ∧
    results.length = offered.length ∧
    (motorCallback num devices lib sample tx).pushed = tx.pushed ++
      ((offered.zip results).filter Prod.snd).map (fun result => (.motor, slotOf result.1)) ∧
    (∀ channel msg (tx : TxTransport Q), ∀ entry ∈ (push lib channel msg tx).2.pushed,
      entry ∈ tx.pushed ∨ entry.1 = channel.device ∧ entry.2.pdo = msg ∧
        ∃ index, msg.headerIndex? = some index ∧ 0 ≤ index.toInt ∧
          (entry.2.slaveId.toNat : ℤ) = index.toInt) ∧
    (lib.KeepsRefused → ∀ before msg after, offered = before ++ msg :: after →
      (push lib .motor msg (pushAll lib .motor before tx)).1 = false →
        motorCallback num devices lib sample tx = pushAll lib .motor (before ++ after) tx) := by
  intro offered results
  refine ⟨forall₂_motorCommands sample, ?_, length_pushResults .motor offered tx,
    pushed_pushAll .motor offered tx, fun channel msg tx entry => written_push, ?_⟩
  · rintro before element after rfl helement
    exact motorCommands_of_not_addressed helement
  · intro hlib before msg after hoffered hrefused
    show pushAll lib .motor offered tx = _
    rw [hoffered, pushAll_refused hlib hrefused]

/-- A sample with a negative id, one that is not known, one of a valve and one of a CIA402 drive. -/
example :
    let num : Numeric := ⟨fun _ => 0, fun _ => 0, fun _ => 0⟩
    let devices : Devices := ((∅ : Devices).insert 2 ⟨2, "knee", .rxHyqKnee, .valve, .valve⟩).insert
      1 ⟨1, "hip", .rxCia402, .motor, .motor⟩
    (motorCommands num devices [{ ecatId := -1 }, { ecatId := 7 }, { ecatId := 2 },
      { ecatId := 1 }]).map EcSlavePdo.headerIndex? = [some 1] := by decide

end EcatMiddleware.Dds
