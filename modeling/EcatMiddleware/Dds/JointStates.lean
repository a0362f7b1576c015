import EcatMiddleware.Dds.AdapterPublishers

/-!
# The joint-state messages

The joint-state publisher is registered for all motors, grippers and valves, and the adapter tells
it that a cycle is valid once all of them were drained. Its `process` accepts no valve.

* `jointState_process`: an accepted PDO adds one row, any other leaves the message as it was.
* `JointCycle.cycle_complete_iff`: what one cycle writes holds one entry for each joint unless the
  cycle drained all joints and only some of them as a motor or gripper.
* `run_complete_iff`: the same for everything that is written in a run.
-/

namespace EcatMiddleware.Dds

open EcatMiddleware.Core Pb

/-- What one device adds to a joint-state message. -/
structure JointRow where
  name : String
  position : F64 := 0
  velocity : F64 := 0
  effort : F64 := 0

/-- The row of a PDO that the publisher accepts. -/
def jointRow (num : Numeric) (name : String) (pdo : EcSlavePdo) : JointRow :=
  match pdo.type with
  | .rxCia402 =>
    let pb := pdo.cia402RxPdo?.getD {}
    ⟨name, num.floatToDouble pb.linkPos, num.floatToDouble pb.linkVel, num.floatToDouble pb.torque⟩
  | .rxXtMotor =>
    let pb := pdo.motorXtRxPdo?.getD {}
    ⟨name, num.floatToDouble pb.linkPos, num.floatToDouble pb.linkVel, num.floatToDouble pb.torque⟩
  | .rxMotor =>
    let pb := pdo.motorRxPdo?.getD {}
    ⟨name, num.floatToDouble pb.linkPos, 0, num.floatToDouble (num.intToFloat pb.torque)⟩
  | .rxGripper => ⟨name, num.floatToDouble (pdo.gripperRxPdo?.getD {}).linkPos, 0, 0⟩
  | _ => { name := name }

@[simp] theorem jointRow_name (num : Numeric) (name : String) (pdo : EcSlavePdo) :
    (jointRow num name pdo).name = name := by
  unfold jointRow
  split <;> rfl

/-- The message with the given rows. -/
def jointMessage (header : Idl.Header) (rows : List JointRow) : Idl.JointState where
  header := header
  name := rows.map JointRow.name
  position := rows.map JointRow.position
  velocity := rows.map JointRow.velocity
  effort := rows.map JointRow.effort

variable (num : Numeric) (names : IdNames)

/-- `process` has a case for the PDO. -/
def jointAccepts (pdo : EcSlavePdo) : Bool := (jointStateSwitch num pdo).isSome

theorem jointAccepts_iff (pdo : EcSlavePdo) :
    jointAccepts num pdo = true ↔ isMotorType pdo.type = true ∨ isGripperType pdo.type = true := by
  unfold jointAccepts jointStateSwitch isMotorType isGripperType
  cases pdo.type <;> simp

/-- The rows of the accepted PDOs. -/
def jointRows (pdos : List EcSlavePdo) : List JointRow :=
  (pdos.filter (jointAccepts num)).map fun p => jointRow num (deviceName names p) p

/-- `msg` holds one row for each accepted PDO. -/
def HasJointRows (msg : Idl.JointState) (pdos : List EcSlavePdo) : Prop :=
  ∃ header, msg = jointMessage header (jointRows num names pdos)

theorem jointRows_concat (pdos : List EcSlavePdo) (pdo : EcSlavePdo) :
    jointRows num names (pdos ++ [pdo]) = jointRows num names pdos ++
      if jointAccepts num pdo then [jointRow num (deviceName names pdo) pdo] else [] := by
  unfold jointRows
  rw [List.filter_append, List.map_append, List.filter_singleton]
  cases jointAccepts num pdo <;> rfl

/-- A case of the `switch` and the push of the name add the row. -/
theorem jointStateSwitch_message {pdo : EcSlavePdo} {convert}
    (h : jointStateSwitch num pdo = some convert) (header : Idl.Header) (rows : List JointRow)
    (name : String) :
    AggregateMessage.pushName name <$> convert (jointMessage header rows) =
      .ok (jointMessage header (rows ++ [jointRow num name pdo])) := by
  unfold jointStateSwitch at h
  unfold jointRow jointMessage
  simp only [List.map_append]
  cases htype : pdo.type <;> rw [htype] at h <;> first
    | (obtain rfl := Option.some.inj h; rfl)
    | exact absurd h (by simp)

/-- **One PDO.** -/
theorem jointState_process (pdo : EcSlavePdo) (clock : Clock) (msg : Idl.JointState)
    (done : List EcSlavePdo) (h : HasJointRows num names msg done) :
    ∃ msg', process (jointStateSwitch num) names clock pdo msg =
        .ok ((jointStateSwitch num pdo).isSome, msg') ∧
      HasJointRows num names msg' (done ++ [pdo]) := by
  obtain ⟨header, rfl⟩ := h
  unfold HasJointRows
  rw [jointRows_concat, jointAccepts]
  cases hswitch : jointStateSwitch num pdo with
  | none => exact ⟨_, process_of_none _ names hswitch clock _, header, by simp⟩
  | some convert =>
    rw [process_of_some _ names hswitch]
    have hmsg := jointStateSwitch_message num hswitch header (jointRows num names done)
      (deviceName names pdo)
    cases hconvert : convert (jointMessage header (jointRows num names done)) with
    | error e => exact absurd (hconvert ▸ hmsg) (by rintro ⟨⟩)
    | ok converted =>
      rw [hconvert] at hmsg
      refine ⟨AggregateMessage.setHeader (headerFromProtobuf clock pdo)
        (AggregateMessage.pushName (deviceName names pdo) converted),
        rfl, headerFromProtobuf clock pdo, ?_⟩
      exact congrArg (AggregateMessage.setHeader (headerFromProtobuf clock pdo))
        (Except.ok.inj hmsg)

/-! ## One cycle -/

/-- A PDO type that belongs to a channel. -/
def BelongsTo (t : PdoType) : ChannelRx → Prop
  | .motor => isMotorType t = true
  | .gripper => isGripperType t = true
  | .valve => isValveType t = true
  | _ => True

/-- The channels of the joint-state publisher. -/
def jointChannels : List ChannelRx := [.motor, .gripper, .valve]

/-- Every PDO that a cycle drains from the joint channels belongs there. -/
def TypedQueues (queues : RxQueues) : Prop :=
  ∀ ch ∈ jointChannels, ∀ p ∈ queues ch.device, BelongsTo p.type ch

instance (t : PdoType) (ch : ChannelRx) : Decidable (BelongsTo t ch) :=
  match ch with
  | .motor => inferInstanceAs (Decidable (isMotorType t = true))
  | .gripper => inferInstanceAs (Decidable (isGripperType t = true))
  | .valve => inferInstanceAs (Decidable (isValveType t = true))
  | .imu | .pump | .powerBoard | .forceTorque => inferInstanceAs (Decidable True)

instance (queues : RxQueues) : Decidable (TypedQueues queues) :=
  inferInstanceAs (Decidable (∀ ch ∈ jointChannels, ∀ p ∈ queues ch.device, BelongsTo p.type ch))

/-- `id` was drained as a motor or gripper. -/
def DrainedAsJoint (queues : RxQueues) (id : ℕ) : Prop := DrainedOn queues [.motor, .gripper] id

/-- The PDO that is consumed for `id` is accepted when the id was drained as a motor or gripper. -/
theorem jointAccepts_of_firstDelivered {queues : RxQueues} (htyped : TypedQueues queues) {id : Slot}
    {p : EcSlavePdo} (h : FirstDelivered queues jointChannels id p) :
    jointAccepts num p = true ↔ DrainedAsJoint queues id.val := by
  obtain ⟨cs₁, ch, cs₂, hchannels, hnone, q₁, q₂, hq, hp, -⟩ := h
  have hmem : p ∈ queues ch.device := by simp [hq]
  have hch : ch ∈ jointChannels := by simp [hchannels]
  have htype := htyped ch hch p hmem
  rw [jointAccepts_iff]
  unfold DrainedAsJoint DrainedOn
  rcases cs₁ with _ | ⟨c₁, _ | ⟨c₂, _ | ⟨c₃, cs⟩⟩⟩
  · obtain ⟨rfl, -⟩ := List.cons.inj hchannels
    exact iff_of_true (Or.inl htype) ⟨.motor, by simp, p, hmem, hp⟩
  · obtain ⟨rfl, hrest⟩ := List.cons.inj hchannels
    obtain ⟨rfl, -⟩ := List.cons.inj hrest
    exact iff_of_true (Or.inr htype) ⟨.gripper, by simp, p, hmem, hp⟩
  · have hparts : .motor = c₁ ∧ .gripper = c₂ ∧ .valve = ch ∧ cs₂ = [] := by
      simpa [jointChannels] using hchannels
    obtain ⟨rfl, rfl, rfl, -⟩ := hparts
    -- a valve: neither of the two channels before it has the id
    have htype : p.type = .rxHyqKnee := by simpa [BelongsTo, isValveType] using htype
    refine iff_of_false (by rw [htype]; decide) ?_
    rintro ⟨ch, hch, p', hp', hidx⟩
    exact hnone ch (by simpa using hch) p' hp' hidx
  · simp [jointChannels] at hchannels

/-- Exactly one entry for each joint, in every sequence. -/
def CompleteJointState (names : IdNames) (ecatMap : EcatMap) (msg : Idl.JointState) : Prop :=
  ∃ ids : List EcatId, ids.Perm (jointIds ecatMap) ∧
    msg.name = ids.map (fun id => resolveName id names) ∧
    msg.position.length = (jointIds ecatMap).length ∧
    msg.velocity.length = (jointIds ecatMap).length ∧
    msg.effort.length = (jointIds ecatMap).length

/-- A cycle after which no incomplete message is written: a joint is missing, or all joints were
drained as motors and grippers, or none was. -/
def CycleComplete (ecatMap : EcatMap) (queues : RxQueues) : Prop :=
  (∃ id ∈ jointIds ecatMap, ¬ DrainedOn queues jointChannels id.toNat) ∨
    (∀ id ∈ jointIds ecatMap, DrainedAsJoint queues id.toNat) ∨
    ∀ id ∈ jointIds ecatMap, ¬ DrainedAsJoint queues id.toNat

/-- The facts about the joint publisher's cycle over `queues`: the ids `slots` it consumed, and the
`valid` it was told. -/
abbrev JointCycle (ecatMap : EcatMap) (queues : RxQueues) (slots : List Slot)
    (pdos : List EcSlavePdo) (valid : Bool) : Prop :=
  IdCycle (jointIds ecatMap) jointChannels queues slots pdos valid

namespace JointCycle

variable {ecatMap : EcatMap} {queues : RxQueues} {slots : List Slot} {pdos : List EcSlavePdo}
  {valid : Bool}

/-- A consumed PDO is that of a joint, accepted if this was drained as a motor or gripper. -/
theorem joint_of_mem (h : JointCycle ecatMap queues slots pdos valid)
    (htyped : TypedQueues queues) {p : EcSlavePdo} (hp : p ∈ pdos) :
    ∃ id ∈ jointIds ecatMap, (jointAccepts num p = true ↔ DrainedAsJoint queues id.toNat) := by
  obtain ⟨id, hid, slot, he, hdel⟩ := h.exists_id hp
  exact ⟨id, hid, he ▸ jointAccepts_of_firstDelivered num htyped hdel⟩

/-- In a valid cycle a PDO is consumed for every joint. -/
theorem mem_of_joint (h : JointCycle ecatMap queues slots pdos valid)
    (htyped : TypedQueues queues) (hids : ∀ id ∈ jointIds ecatMap, id.toNat < maxEcatIds)
    (hv : valid = true) {id : EcatId} (hid : id ∈ jointIds ecatMap) :
    ∃ p ∈ pdos, (jointAccepts num p = true ↔ DrainedAsJoint queues id.toNat) := by
  obtain ⟨p, hp, hdel⟩ := h.exists_pdo hids hid ((h.valid_iff_drained hids).mp hv id hid)
  exact ⟨p, hp, jointAccepts_of_firstDelivered num htyped hdel⟩

/-- A joint is accepted exactly when it was drained as a motor or gripper. -/
theorem forall_accepts_iff (h : JointCycle ecatMap queues slots pdos valid)
    (htyped : TypedQueues queues) (hids : ∀ id ∈ jointIds ecatMap, id.toNat < maxEcatIds)
    (hv : valid = true) :
    (∀ p ∈ pdos, jointAccepts num p = true) ↔
      ∀ id ∈ jointIds ecatMap, DrainedAsJoint queues id.toNat := by
  constructor
  · intro hall id hid
    obtain ⟨p, hp, hiff⟩ := h.mem_of_joint num htyped hids hv hid
    exact hiff.mp (hall p hp)
  · intro hall p hp
    obtain ⟨id, hid, hiff⟩ := h.joint_of_mem num htyped hp
    exact hiff.mpr (hall id hid)

theorem exists_accepts_iff (h : JointCycle ecatMap queues slots pdos valid)
    (htyped : TypedQueues queues) (hids : ∀ id ∈ jointIds ecatMap, id.toNat < maxEcatIds)
    (hv : valid = true) :
    (∃ p ∈ pdos, jointAccepts num p = true) ↔
      ∃ id ∈ jointIds ecatMap, DrainedAsJoint queues id.toNat := by
  constructor
  · rintro ⟨p, hp, ha⟩
    obtain ⟨id, hid, hiff⟩ := h.joint_of_mem num htyped hp
    exact ⟨id, hid, hiff.mp ha⟩
  · rintro ⟨id, hid, hd⟩
    obtain ⟨p, hp, hiff⟩ := h.mem_of_joint num htyped hids hv hid
    exact ⟨p, hp, hiff.mpr hd⟩

/-- A message of a valid cycle is complete when no PDO was rejected. -/
theorem complete_iff (h : JointCycle ecatMap queues slots pdos valid)
    (hids : ∀ id ∈ jointIds ecatMap, id.toNat < maxEcatIds) (hv : valid = true)
    {msg : Idl.JointState} (hmsg : HasJointRows num names msg pdos) :
    CompleteJointState names ecatMap msg ↔ ∀ p ∈ pdos, jointAccepts num p = true := by
  obtain ⟨header, rfl⟩ := hmsg
  have hperm := h.perm (nodup_jointIds ecatMap) hids hv
  have hlen := h.length_eq (nodup_jointIds ecatMap) hids hv
  constructor
  · rintro ⟨ids, hids', hname, -⟩ p hp
    have hcount : (pdos.filter (jointAccepts num)).length = pdos.length := by
      have := congrArg List.length hname
      simpa [jointMessage, jointRows, hids'.length_eq, hlen] using this
    exact (List.filter_eq_self.mp (List.filter_sublist.eq_of_length hcount)) p hp
  · intro hall
    have hself : pdos.filter (jointAccepts num) = pdos := List.filter_eq_self.mpr hall
    have hname : (jointRows num names pdos).map JointRow.name = pdos.map (deviceName names) := by
      rw [jointRows, hself, List.map_map]
      exact List.map_congr_left fun p _ => jointRow_name num _ p
    refine ⟨_, hperm, ?_, ?_⟩
    · exact hname.trans (h.map_deviceName names)
    · simp [jointMessage, jointRows, hself, hlen]

/-- **One cycle.** -/
theorem cycle_complete_iff (h : JointCycle ecatMap queues slots pdos valid)
    (htyped : TypedQueues queues) (hids : ∀ id ∈ jointIds ecatMap, id.toNat < maxEcatIds)
    {msg : Idl.JointState} (hmsg : HasJointRows num names msg pdos) :
    (∀ m ∈ if valid && pdos.any (jointAccepts num) then [msg] else [],
      CompleteJointState names ecatMap m) ↔ CycleComplete ecatMap queues := by
  unfold CycleComplete
  by_cases hv : valid = true
  · have hall := (h.valid_iff_drained hids).mp hv
    have hnone : ¬ ∃ id ∈ jointIds ecatMap, ¬ DrainedOn queues jointChannels id.toNat := by
      push Not
      exact hall
    have hany : pdos.any (jointAccepts num) = true ↔
        ∃ id ∈ jointIds ecatMap, DrainedAsJoint queues id.toNat := by
      rw [List.any_eq_true, h.exists_accepts_iff num htyped hids hv]
    rw [hv, Bool.true_and, or_iff_right hnone, ← h.forall_accepts_iff num htyped hids hv,
      ← h.complete_iff num names hids hv hmsg]
    by_cases hsome : pdos.any (jointAccepts num) = true
    · have hno : ¬ ∀ id ∈ jointIds ecatMap, ¬ DrainedAsJoint queues id.toNat := by
        push Not
        exact hany.mp hsome
      rw [hsome, or_iff_left hno]
      simp
    · rw [if_neg hsome]
      refine iff_of_true (by simp) (Or.inr fun id hid hd => hsome (hany.mpr ⟨id, hid, hd⟩))
  · have hmissing : ∃ id ∈ jointIds ecatMap, ¬ DrainedOn queues jointChannels id.toNat := by
      rw [h.valid_iff_drained hids] at hv
      push Not at hv
      exact hv
    rw [Bool.eq_false_iff.mpr hv]
    exact iff_of_true (by simp) (Or.inl hmissing)

end JointCycle

/-! ## Runs -/

/-- A cycle of the joint publisher, which was registered first. -/
theorem exists_jointCycle {ecatMap : EcatMap} (hjoint : jointIds ecatMap ≠ []) {r : Registration}
    (hchannels : r.channels = jointChannels) (hregistered : r.ids = jointIds ecatMap)
    (more : List Registration) (spins : List (Bool × RxQueues)) (queues : RxQueues) :
    ∃ slots pdos valid, JointCycle ecatMap queues slots pdos valid ∧
      callsOf (adapterOps (r :: more) spins ++ [.spin true queues]) 0 =
        callsOf (adapterOps (r :: more) spins) 0 ++
          .beginCycle :: (pdos.map .consume ++ [.endCycle valid]) := by
  obtain ⟨slots, pdos, valid, hcycle, hcalls⟩ := exists_idCycle [] (r := r)
    (by rwa [hregistered]) more spins queues
  rw [hchannels, hregistered] at hcycle
  exact ⟨slots, pdos, valid, hcycle, hcalls⟩

theorem run_complete_iff_of_registered {ecatMap : EcatMap} (hjoint : jointIds ecatMap ≠ [])
    (hids : ∀ id ∈ jointIds ecatMap, id.toNat < maxEcatIds) {r : Registration}
    (hchannels : r.channels = jointChannels) (hregistered : r.ids = jointIds ecatMap)
    (more : List Registration) (spins : List (Bool × RxQueues)) :
    (∀ s ∈ spins, s.1 = true → TypedQueues s.2) →
    ∀ calls, calls.map Prod.snd = callsOf (adapterOps (r :: more) spins) 0 →
      ∃ p, PdoPublisher.receiveAll (jointStateSwitch num) names calls = .ok p ∧
        ((∀ msg ∈ p.written, CompleteJointState names ecatMap msg) ↔
          ∀ s ∈ spins, s.1 = true → CycleComplete ecatMap s.2) := by
  induction spins using List.reverseRecOn with
  | nil =>
    intro _ calls hcalls
    rw [callsOf_registrations, List.map_eq_nil_iff] at hcalls
    subst hcalls
    exact ⟨.new, rfl, by simp [PdoPublisher.new]⟩
  | append_singleton spins s ih =>
    intro htyped calls hcalls
    have htyped' := fun s' hs' => htyped s' (List.mem_append_left _ hs')
    obtain ⟨isOk, queues⟩ := s
    rw [adapterOps_concat] at hcalls
    cases isOk with
    | false =>
      rw [callsOf_spin_false] at hcalls
      obtain ⟨p, hok, hwritten⟩ := ih htyped' calls hcalls
      exact ⟨p, hok, hwritten.trans (by simp [or_imp, forall_and])⟩
    | true =>
      obtain ⟨slots, pdos, valid, hcycle, hafter⟩ :=
        exists_jointCycle hjoint hchannels hregistered more spins queues
      rw [hafter] at hcalls
      obtain ⟨before, cycle, rfl, hbefore, hcalls⟩ := List.map_eq_append_iff.mp hcalls
      obtain ⟨p, hok, hwritten⟩ := ih htyped' before hbefore
      obtain ⟨p', msg, hok', hmsg, hwritten'⟩ := PdoPublisher.receive_cycle
        (jointStateSwitch num) names (I := HasJointRows num names) ⟨{}, rfl⟩
        (fun pdo _ clock msg done => jointState_process num names pdo clock msg done) hcalls p
      refine ⟨p', ?_, ?_⟩
      · rw [PdoPublisher.receiveAll_append, hok]
        exact hok'
      · have hlast := hcycle.cycle_complete_iff num names
          (htyped (true, queues) (by simp) rfl) hids hmsg
        rw [hwritten', List.forall_mem_append, hwritten, List.forall_mem_append]
        exact and_congr_right fun _ => hlast.trans (by simp)

/-- **Every run.** Of an adapter that was initialized with a joint, all joint-state messages ever
written are complete exactly when every cycle with the transport up was. -/
theorem run_complete_iff (num : Numeric) (endpointOk : String → Bool) (topics : TopicNamespace)
    (robotConfig : RobotConfig) (ecatMap : EcatMap)
    (hids : ∀ id ∈ ecatMap, id.toNat < maxEcatIds) (hjoint : jointIds ecatMap ≠ [])
    (spins : List (Bool × RxQueues)) (htyped : ∀ s ∈ spins, s.1 = true → TypedQueues s.2)
    (calls : List (Clock × Call)) (hcalls : calls.map Prod.snd =
      callsOf (adapterOps (init endpointOk topics robotConfig ecatMap).2 spins) 0) :
    ∃ p, PdoPublisher.receiveAll (jointStateSwitch num) robotConfig.mapEcatId calls = .ok p ∧
      ((∀ msg ∈ p.written, CompleteJointState robotConfig.mapEcatId ecatMap msg) ↔
        ∀ s ∈ spins, s.1 = true → CycleComplete ecatMap s.2) := by
  obtain ⟨more, hinit⟩ := init_jointState endpointOk topics robotConfig hjoint
  rw [hinit] at hcalls
  refine run_complete_iff_of_registered num _ hjoint (fun id hid => ?_) rfl rfl more spins htyped
    calls hcalls
  unfold jointIds at hid
  rw [List.mem_append, List.mem_append] at hid
  rcases hid with (h | h) | h <;> exact hids id (mem_of_mem_filterIds h)

/-- Two cycles of a robot with two motors and a gripper. -/
theorem run_complete_joints :
    let ecatMap := ((EcatMap.empty.emplace ⟨1, "hip", .rxCia402, .motor, .motor⟩).emplace
      ⟨2, "knee", .rxXtMotor, .motor, .motor⟩).emplace ⟨3, "hand", .rxGripper, .gripper, .gripper⟩
    let queues : RxQueues := fun device => match device with
      | .motor => [{ type := .rxXtMotor, header? := some { index? := some 2 } },
          { type := .rxCia402, header? := some { index? := some 1 } }]
      | .gripper => [{ type := .rxGripper, header? := some { index? := some 3 } }]
      | _ => []
    let calls := callsOf (adapterOps (init (fun _ => true) [] {} ecatMap).2
      [(true, queues), (true, queues)]) 0
    ∃ p, PdoPublisher.receiveAll (jointStateSwitch ⟨fun _ => 0, fun _ => 0, fun _ => 0⟩) ∅
        (calls.map fun call => (⟨0, 1⟩, call)) = .ok p ∧
      ∀ msg ∈ p.written, CompleteJointState ∅ ecatMap msg := by
  intro ecatMap queues calls
  have hids : ∀ id ∈ ecatMap, id.toNat < maxEcatIds := by
    intro id hid
    rcases EcatMap.mem_emplace.mp hid with rfl | hid
    · decide
    rcases EcatMap.mem_emplace.mp hid with rfl | hid
    · decide
    rcases EcatMap.mem_emplace.mp hid with rfl | h
    · decide
    · exact absurd h (EcatMap.notMem_empty id)
  have htyped : TypedQueues queues := by decide
  obtain ⟨p, hok, hiff⟩ := run_complete_iff ⟨fun _ => 0, fun _ => 0, fun _ => 0⟩ (fun _ => true) []
    {} ecatMap hids (by decide) [(true, queues), (true, queues)] (by simpa using htyped)
    (calls.map fun call => (⟨0, 1⟩, call)) (by rw [List.map_map]; exact List.map_id _)
  refine ⟨p, hok, hiff.mpr fun s hs _ => ?_⟩
  obtain rfl : s = (true, queues) := by simpa using hs
  refine Or.inr (Or.inl fun id hid => ?_)
  have hid : id = 2 ∨ id = 1 ∨ id = 3 := by simpa using (show id ∈ [2, 1, 3] from hid)
  rcases hid with rfl | rfl | rfl
  · exact ⟨.motor, by simp, _, List.mem_cons_self, 2, rfl, rfl⟩
  · exact ⟨.motor, by simp, _, List.mem_cons_of_mem _ List.mem_cons_self, 1, rfl, rfl⟩
  · exact ⟨.gripper, by simp, _, List.mem_cons_self, 3, rfl, rfl⟩

/-- One cycle of a robot with a motor and a valve, both drained: the message that is written lacks
the valve. -/
theorem run_incomplete_valve :
    let ecatMap := (EcatMap.empty.emplace ⟨1, "hip", .rxCia402, .motor, .motor⟩).emplace
      ⟨2, "knee", .rxHyqKnee, .valve, .valve⟩
    let queues : RxQueues := fun device => match device with
      | .motor => [{ type := .rxCia402, header? := some { index? := some 1 } }]
      | .valve => [{ type := .rxHyqKnee, header? := some { index? := some 2 } }]
      | _ => []
    let calls := callsOf (adapterOps (init (fun _ => true) [] {} ecatMap).2 [(true, queues)]) 0
    (∀ id ∈ ecatMap, id.toNat < maxEcatIds) ∧ TypedQueues queues ∧
      ∃ p msg, PdoPublisher.receiveAll (jointStateSwitch ⟨fun _ => 0, fun _ => 0, fun _ => 0⟩) ∅
          (calls.map fun call => (⟨0, 1⟩, call)) = .ok p ∧
        msg ∈ p.written ∧ msg.name = ["ecat_1"] ∧ ¬ CompleteJointState ∅ ecatMap msg := by
  intro ecatMap queues calls
  have hids : ∀ id ∈ ecatMap, id.toNat < maxEcatIds := by
    intro id hid
    rcases EcatMap.mem_emplace.mp hid with rfl | hid
    · decide
    rcases EcatMap.mem_emplace.mp hid with rfl | h
    · decide
    · exact absurd h (EcatMap.notMem_empty id)
  have htyped : TypedQueues queues := by decide
  have hcalls : calls = [.beginCycle,
      .consume { type := .rxCia402, header? := some { index? := some 1 } },
      .consume { type := .rxHyqKnee, header? := some { index? := some 2 } }, .endCycle true] := by
    decide +kernel
  rw [hcalls]
  refine ⟨hids, htyped, _, _, rfl, List.mem_singleton_self _, rfl, ?_⟩
  rintro ⟨ids, hids, hname, -⟩
  have h := congrArg List.length hname
  rw [List.length_map, hids.length_eq] at h
  exact absurd h (by decide)

end EcatMiddleware.Dds
