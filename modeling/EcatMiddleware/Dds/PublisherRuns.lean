import EcatMiddleware.Dds.ChannelMessages

/-!
# Runs of the DDS publishers

`dispatch` calls one publisher after the other and catches nothing. When a conversion raises, the
later publishers of this `dispatch` are not called, and the worker ends.

* `adapterCalls`: the calls of a run in the order in which the core makes them.
* `DDSPublisher` is a publisher of any kind, `finalPublishers` what a run has made of all of them.
* `kinds_init`: `init` registers the publishers in a fixed order of their kinds.
* `run_whole_iff`: the messages of the motors, gripper and valve publishers in every run.
-/

namespace EcatMiddleware.Dds

open EcatMiddleware.Core Pb

/-! ## The calls in their order -/

/-- The calls of the cycles of a run, in the order in which the core makes them. -/
def adapterCalls (regs : List Registration) (spins : List (Bool × RxQueues)) : List (ℕ × Call) :=
  runCalls (adapterOps regs spins)

theorem adapterCalls_nil (regs : List Registration) : adapterCalls regs [] = [] := by
  unfold adapterCalls adapterOps
  rw [List.map_nil, List.append_nil]
  induction regs using List.reverseRecOn with
  | nil => rfl
  | append_singleton regs r ih =>
    rw [List.map_append, List.map_singleton, runCalls_concat, ih]
    rfl

theorem adapterCalls_concat (regs : List Registration) (spins : List (Bool × RxQueues))
    (s : Bool × RxQueues) :
    adapterCalls regs (spins ++ [s]) = adapterCalls regs spins ++
      if s.1 then dispatchCalls (adapterOps regs spins) s.2 else [] := by
  unfold adapterCalls
  rw [adapterOps_concat, runCalls_concat]
  obtain ⟨isOk, queues⟩ := s
  cases isOk <;> rfl

/-- What comes later changes none of the earlier calls. -/
theorem adapterCalls_append (regs : List Registration) (spins more : List (Bool × RxQueues)) :
    ∃ rest, adapterCalls regs (spins ++ more) = adapterCalls regs spins ++ rest := by
  unfold adapterCalls adapterOps
  rw [List.map_append, ← List.append_assoc]
  exact runCalls_append _ _

/-- The publishers keep their places. -/
theorem length_subscriptions_adapterOps (regs : List Registration)
    (spins : List (Bool × RxQueues)) :
    (run (adapterOps regs spins)).subscriptions.length = regs.length := by
  induction spins using List.reverseRecOn with
  | nil =>
    unfold adapterOps
    rw [List.map_nil, List.append_nil]
    exact length_subscriptions regs
  | append_singleton spins s ih =>
    obtain ⟨isOk, queues⟩ := s
    rw [adapterOps_concat, run_concat]
    cases isOk with
    | false => exact ih
    | true => exact (List.length_map _).trans ih

/-- A call of the run is one of a cycle over what some spin has drained. -/
theorem exists_of_mem_adapterCalls {regs : List Registration} {spins : List (Bool × RxQueues)}
    {call : ℕ × Call} (hcall : call ∈ adapterCalls regs spins) :
    ∃ before queues, (true, queues) ∈ spins ∧
      call ∈ dispatchCalls (adapterOps regs before) queues := by
  induction spins using List.reverseRecOn with
  | nil =>
    rw [adapterCalls_nil] at hcall
    exact absurd hcall List.not_mem_nil
  | append_singleton spins s ih =>
    rw [adapterCalls_concat] at hcall
    rcases List.mem_append.mp hcall with hcall | hcall
    · obtain ⟨before, queues, hmem, hmade⟩ := ih hcall
      exact ⟨before, queues, List.mem_append_left _ hmem, hmade⟩
    · obtain ⟨isOk, queues⟩ := s
      cases isOk with
      | false => exact absurd hcall List.not_mem_nil
      | true => exact ⟨spins, queues, by simp, hcall⟩

/-! ## Publishers of all kinds -/

/-- A publisher of the adapter. -/
inductive DDSPublisher where
  | jointState (p : PdoPublisher Idl.JointState)
  | motors (p : PdoPublisher Idl.Motor)
  | gripper (p : PdoPublisher Idl.Gripper)
  | valve (p : PdoPublisher Idl.Valve)
  | imu (p : PdoPublisher Idl.Imu)
  | powerBoard (p : PdoPublisher Idl.PowerBoard)
  | pump (p : PdoPublisher Idl.Pump)
  | forceTorque (p : PdoPublisher Idl.ForceTorque)

namespace DDSPublisher

def kind : DDSPublisher → PublisherKind
  | jointState _ => .jointState
  | motors _ => .motors
  | gripper _ => .gripper
  | valve _ => .valve
  | imu _ => .imu
  | powerBoard _ => .powerBoard
  | pump _ => .pump
  | forceTorque _ => .forceTorque

/-- A publisher as constructed. -/
def create : PublisherKind → DDSPublisher
  | .jointState => jointState .new
  | .motors => motors .new
  | .gripper => gripper .new
  | .valve => valve .new
  | .imu => imu .newDevice
  | .powerBoard => powerBoard .newDevice
  | .pump => pump .newDevice
  | .forceTorque => forceTorque .newDevice

variable (num : Numeric) (names : IdNames)

/-- One call of the adapter, at some reading of the clock. -/
def receive : DDSPublisher → Clock × Call → Except CxxException DDSPublisher
  | jointState p, call => (p.receive (jointStateSwitch num) names call).map jointState
  | motors p, call => (p.receive (motorsSwitch num) names call).map motors
  | gripper p, call => (p.receive gripperSwitch names call).map gripper
  | valve p, call => (p.receive valveSwitch names call).map valve
  | imu p, call => .ok (imu (p.receiveDevice (processImu num names) call))
  | powerBoard p, call => .ok (powerBoard (p.receiveDevice (processPowerBoard names) call))
  | pump p, call => .ok (pump (p.receiveDevice (processPump names) call))
  | forceTorque p, call => .ok (forceTorque (p.receiveDevice (processForceTorque num names) call))

@[simp] theorem kind_create (k : PublisherKind) : (create k).kind = k := by cases k <;> rfl

/-- The `consume` of a publisher whose conversions do not raise. -/
theorem exists_receive {Msg : Type} [AggregateMessage Msg] (switch : Switch Msg)
    (p : PdoPublisher Msg) (call : Clock × Call)
    (htotal : ∀ pdo, call.2 = .consume pdo → ∀ convert, switch pdo = some convert →
      ∀ msg, ∃ msg', convert msg = .ok msg') :
    ∃ p', p.receive switch names call = .ok p' := by
  obtain ⟨clock, call⟩ := call
  cases call with
  | beginCycle => exact ⟨_, rfl⟩
  | endCycle valid => exact ⟨_, rfl⟩
  | consume pdo =>
    show ∃ p', PdoPublisher.consume switch names clock pdo p = .ok p'
    unfold PdoPublisher.consume
    cases hswitch : switch pdo with
    | none =>
      rw [process_of_none switch names hswitch]
      exact ⟨_, rfl⟩
    | some convert =>
      obtain ⟨msg', hconvert⟩ := htotal pdo rfl convert hswitch p.message
      rw [process_of_some switch names hswitch, hconvert]
      exact ⟨_, rfl⟩

/-- The call makes a publisher of this kind raise. -/
def Raising (kind : PublisherKind) (call : Call) : Prop :=
  kind = .motors ∧ ∃ pdo, call = .consume pdo ∧ ChannelPublisher.motors.raises pdo.type = true

/-- **One call.** Only the motors publisher raises. -/
theorem receive_of_not_raising {p : DDSPublisher} {call : Clock × Call}
    (h : ¬ Raising p.kind call.2) :
    ∃ p', p.receive num names call = .ok p' ∧ p'.kind = p.kind := by
  have hmap : ∀ {P : Type} {x : Except CxxException P} {f : P → DDSPublisher},
      (∃ p', x = .ok p') → ∃ p', x.map f = .ok (f p') := by
    rintro P _ f ⟨p', rfl⟩
    exact ⟨p', rfl⟩
  cases p with
  | jointState p =>
    obtain ⟨p', hok⟩ := hmap (f := jointState)
      (exists_receive names (jointStateSwitch num) p call fun pdo _ convert hswitch msg => by
        unfold jointStateSwitch at hswitch
        split at hswitch <;> cases hswitch <;> exact ⟨_, rfl⟩)
    exact ⟨_, hok, rfl⟩
  | motors p =>
    obtain ⟨p', hok⟩ := hmap (f := motors)
      (exists_receive names (motorsSwitch num) p call fun pdo hcall convert hswitch msg => by
        have hraises : ChannelPublisher.motors.raises pdo.type = false :=
          Bool.eq_false_iff.mpr fun hr => h ⟨rfl, pdo, hcall, hr⟩
        obtain ⟨msg', hok, -⟩ := ChannelPublisher.motors.convert_eq num hswitch hraises msg
        exact ⟨msg', hok⟩)
    exact ⟨_, hok, rfl⟩
  | gripper p =>
    obtain ⟨p', hok⟩ := hmap (f := gripper)
      (exists_receive names gripperSwitch p call fun pdo _ convert hswitch msg => by
        obtain ⟨msg', hok, -⟩ := ChannelPublisher.gripper.convert_eq num hswitch rfl msg
        exact ⟨msg', hok⟩)
    exact ⟨_, hok, rfl⟩
  | valve p =>
    obtain ⟨p', hok⟩ := hmap (f := valve)
      (exists_receive names valveSwitch p call fun pdo _ convert hswitch msg => by
        obtain ⟨msg', hok, -⟩ := ChannelPublisher.valve.convert_eq num hswitch rfl msg
        exact ⟨msg', hok⟩)
    exact ⟨_, hok, rfl⟩
  | imu p => exact ⟨_, rfl, rfl⟩
  | powerBoard p => exact ⟨_, rfl, rfl⟩
  | pump p => exact ⟨_, rfl, rfl⟩
  | forceTorque p => exact ⟨_, rfl, rfl⟩

end DDSPublisher

/-- The publishers as `init` has created them. -/
def createPublishers (regs : List Registration) : List DDSPublisher :=
  regs.map fun r => .create r.kind

/-- The publishers when the worker ends: after the calls, or when one of them raises. -/
def finalPublishers (num : Numeric) (names : IdNames) (regs : List Registration)
    (calls : List (ℕ × Clock × Call)) : List DDSPublisher :=
  FoldExcept.foldUntil (Members.callAt (DDSPublisher.receive num names)) (createPublishers regs)
    calls

/-! ## The order of the publishers -/

/-- The place of a kind in `init`. -/
def PublisherKind.place : PublisherKind → ℕ
  | .jointState => 0
  | .motors => 1
  | .gripper => 2
  | .valve => 3
  | .imu => 4
  | .powerBoard => 5
  | .pump => 6
  | .forceTorque => 7

/-- The kinds of the publishers that the steps create. -/
def createdKinds (steps : List InitStep) : List PublisherKind :=
  steps.filterMap fun step => match step with
    | .create r => some r.kind
    | .fail => none

theorem createdKinds_aggregateSteps (kind : PublisherKind) (channels : List ChannelRx)
    (ids : List EcatId) (topic : String) :
    (createdKinds (aggregateSteps kind channels ids topic)).Sublist [kind] := by
  unfold aggregateSteps
  split_ifs
  · exact List.Sublist.refl _
  · exact List.nil_sublist _

theorem createdKinds_deviceSteps (robotConfig : RobotConfig) (ecatMap : EcatMap)
    (kind : PublisherKind) (channel : ChannelRx) (topic : String → String) :
    (createdKinds (deviceSteps robotConfig ecatMap kind channel topic)).Sublist [kind] := by
  unfold deviceSteps
  split
  · exact List.nil_sublist _
  · split
    · exact List.nil_sublist _
    · exact List.Sublist.refl _
  · exact List.nil_sublist _

theorem runSteps_kinds (endpointOk : String → Bool) (steps : List InitStep) :
    ∀ regs, ∃ more, (runSteps endpointOk steps regs).2 = regs ++ more ∧
      (more.map Registration.kind).Sublist (createdKinds steps) := by
  induction steps with
  | nil => exact fun regs => ⟨[], (List.append_nil _).symm, List.nil_sublist _⟩
  | cons step steps ih =>
    intro regs
    cases step with
    | fail => exact ⟨[], (List.append_nil _).symm, List.nil_sublist _⟩
    | create r =>
      unfold runSteps
      split_ifs
      · exact ⟨[r], rfl, (List.nil_sublist _).cons_cons r.kind⟩
      · obtain ⟨more, hmore, hkinds⟩ := ih (regs ++ [r])
        refine ⟨r :: more, ?_, hkinds.cons_cons r.kind⟩
        rw [hmore, List.append_assoc]
        rfl

/-- **The order.** `init` registers at most one publisher of each kind, and in this order. -/
theorem kinds_init (endpointOk : String → Bool) (topics : TopicNamespace)
    (robotConfig : RobotConfig) (ecatMap : EcatMap) :
    ((init endpointOk topics robotConfig ecatMap).2.map Registration.kind).Sublist
      [.jointState, .motors, .gripper, .valve, .imu, .powerBoard, .pump, .forceTorque] := by
  obtain ⟨more, hmore, hkinds⟩ :=
    runSteps_kinds endpointOk (initSteps topics robotConfig ecatMap) []
  unfold init
  rw [hmore, List.nil_append]
  refine hkinds.trans ?_
  have hcreated : (createdKinds (initSteps topics robotConfig ecatMap)).Sublist
      ([PublisherKind.jointState] ++ [PublisherKind.motors] ++ [PublisherKind.gripper] ++
        [PublisherKind.valve] ++ [PublisherKind.imu] ++ [PublisherKind.powerBoard] ++
        [PublisherKind.pump] ++ [PublisherKind.forceTorque]) := by
    unfold initSteps createdKinds
    simp only [List.filterMap_append]
    refine (((((((List.Sublist.append ?_ ?_).append ?_).append ?_).append ?_).append ?_).append
      ?_).append ?_)
    · exact createdKinds_aggregateSteps _ _ _ _
    · exact createdKinds_aggregateSteps _ _ _ _
    · exact createdKinds_aggregateSteps _ _ _ _
    · exact createdKinds_aggregateSteps _ _ _ _
    · exact createdKinds_deviceSteps _ _ _ _ _
    · exact createdKinds_deviceSteps _ _ _ _ _
    · exact createdKinds_deviceSteps _ _ _ _ _
    · exact createdKinds_deviceSteps _ _ _ _ _
  exact hcreated

/-- `init` registers a publisher of one channel for all devices of the channel. -/
theorem registration_of_mem_init (pub : ChannelPublisher) {endpointOk : String → Bool}
    {topics : TopicNamespace} {robotConfig : RobotConfig} {ecatMap : EcatMap} {r : Registration}
    (hr : r ∈ (init endpointOk topics robotConfig ecatMap).2) (hkind : r.kind = pub.kind) :
    r.channels = [pub.channel] ∧ r.ids = filterIds ecatMap pub.channel ∧ r.ids ≠ [] := by
  have hcreate := create_of_mem_init hr
  unfold initSteps at hcreate
  simp only [List.mem_append, jointStateSteps, motorSteps, gripperSteps, valveSteps, imuSteps,
    powerBoardSteps, pumpSteps, forceTorqueSteps, create_mem_aggregateSteps,
    create_mem_deviceSteps] at hcreate
  rcases hcreate with ((((((⟨hne, rfl⟩ | ⟨hne, rfl⟩) | ⟨hne, rfl⟩) | ⟨hne, rfl⟩) |
    ⟨_, _, _, _, rfl⟩) | ⟨_, _, _, _, rfl⟩) | ⟨_, _, _, _, rfl⟩) | ⟨_, _, _, _, rfl⟩ <;>
  cases pub <;> first
    | exact ⟨rfl, rfl, hne⟩
    | exact absurd hkind (by rintro ⟨⟩)

/-- What the runs need of the publishers that `init` has registered. -/
structure Registered (regs : List Registration) : Prop where
  ordered : (regs.map Registration.kind).Pairwise fun k k' => k.place < k'.place
  motors : ∀ r ∈ regs, r.kind = .motors → r.channels = [.motor] ∧ r.ids ≠ []

theorem registered_init (endpointOk : String → Bool) (topics : TopicNamespace)
    (robotConfig : RobotConfig) (ecatMap : EcatMap) :
    Registered (init endpointOk topics robotConfig ecatMap).2 where
  ordered := List.Pairwise.sublist (kinds_init endpointOk topics robotConfig ecatMap) (by decide)
  motors r hr hkind := by
    obtain ⟨hchannels, -, hne⟩ := registration_of_mem_init .motors hr hkind
    exact ⟨hchannels, hne⟩

/-! ## Cycles in which a motor raises -/

/-- A cycle over `queues` takes a PDO that makes the motors publisher raise. -/
def MotorsRaise (regs : List Registration) (queues : RxQueues) : Prop :=
  ∃ r ∈ regs, r.kind = .motors ∧ ChannelPublisher.motors.CycleRaises r.ids queues

namespace Registered

variable {regs : List Registration} (h : Registered regs)

include h in
/-- A publisher of a kind that comes first stands first. -/
theorem le_of_place_le {i m : ℕ} {r r' : Registration} (hr : regs[i]? = some r)
    (hr' : regs[m]? = some r') (hplace : r'.kind.place ≤ r.kind.place) : m ≤ i := by
  obtain ⟨hi, rfl⟩ := List.getElem?_eq_some_iff.mp hr
  obtain ⟨hm, rfl⟩ := List.getElem?_eq_some_iff.mp hr'
  by_contra hlt
  have hordered := List.pairwise_iff_getElem.mp (List.pairwise_map.mp h.ordered) i m hi hm
    (by omega)
  omega

include h in
/-- The calls of one cycle on the motors publisher. -/
theorem motors_cycle {m : ℕ} {r : Registration} (hr : regs[m]? = some r)
    (hkind : r.kind = .motors) (spins : List (Bool × RxQueues)) (queues : RxQueues) :
    ∃ (pdos : List EcSlavePdo) (valid : Bool),
      (∀ pdo, pdo ∈ pdos ↔ ∃ id ∈ r.ids, Takes queues .motor id pdo) ∧
      cycleCalls (adapterOps regs spins) m queues =
        .beginCycle :: (pdos.map .consume ++ [.endCycle valid]) := by
  obtain ⟨hchannels, hne⟩ := h.motors r (List.mem_of_getElem? hr) hkind
  obtain ⟨before, after, rfl, rfl⟩ := Members.exists_split hr
  obtain ⟨slots, pdos, valid, hcycle, hcalls⟩ := exists_idCycle before hne after spins queues
  rw [hchannels] at hcycle
  refine ⟨pdos, valid, fun pdo => hcycle.mem_iff_takes, ?_⟩
  rw [cycleCalls, hcalls, List.drop_left]

include h in
/-- In a cycle without such a PDO no call raises. -/
theorem not_raising {spins : List (Bool × RxQueues)} {queues : RxQueues}
    (hqueues : ¬ MotorsRaise regs queues) {i : ℕ} {call : Call}
    (hcall : (i, call) ∈ dispatchCalls (adapterOps regs spins) queues) {r : Registration}
    (hr : regs[i]? = some r) : ¬ DDSPublisher.Raising r.kind call := by
  rintro ⟨hkind, pdo, rfl, hraises⟩
  obtain ⟨pdos, valid, hpdos, hcycle⟩ := h.motors_cycle hr hkind spins queues
  have hmem := (Members.mem_inTurn.mp hcall).2
  rw [hcycle] at hmem
  have hpdo : pdo ∈ pdos := by simpa using hmem
  obtain ⟨id, hid, htakes⟩ := (hpdos pdo).mp hpdo
  exact hqueues ⟨r, List.mem_of_getElem? hr, hkind, id, hid, pdo, htakes, hraises⟩

include h in
theorem not_raising_of_run {spins : List (Bool × RxQueues)}
    (hspins : ∀ s ∈ spins, s.1 = true → ¬ MotorsRaise regs s.2) {i : ℕ} {call : Call}
    (hcall : (i, call) ∈ adapterCalls regs spins) {r : Registration} (hr : regs[i]? = some r) :
    ¬ DDSPublisher.Raising r.kind call := by
  obtain ⟨before, queues, hs, hmade⟩ := exists_of_mem_adapterCalls hcall
  exact h.not_raising (hspins _ hs rfl) hmade hr

end Registered

section Run

variable (num : Numeric) (names : IdNames) {regs : List Registration}

/-- Calls of which none raises. -/
theorem foldlM_of_not_raising {calls : List (ℕ × Clock × Call)}
    (hcalls : ∀ call ∈ calls, ∀ r, regs[call.1]? = some r →
      ¬ DDSPublisher.Raising r.kind call.2.2)
    {ps : List DDSPublisher} (hps : ps.map DDSPublisher.kind = regs.map Registration.kind) :
    ∃ ps', calls.foldlM (Members.callAt (DDSPublisher.receive num names)) ps = .ok ps' ∧
      ps'.map DDSPublisher.kind = regs.map Registration.kind := by
  refine FoldExcept.foldlM_inv _ (fun (ps : List DDSPublisher) _ => ps.map DDSPublisher.kind =
    regs.map Registration.kind) (fun call hcall ps _ hps => ?_) hps
  obtain ⟨i, c⟩ := call
  cases hp : ps[i]? with
  | none => exact ⟨ps, by rw [Members.callAt, hp], hps⟩
  | some p =>
    have hkinds : (regs.map Registration.kind)[i]? = some p.kind := by
      rw [← hps, List.getElem?_map, hp]
      rfl
    rw [List.getElem?_map] at hkinds
    obtain ⟨r, hr, hkind⟩ := Option.map_eq_some_iff.mp hkinds
    obtain ⟨p', hok, hkind'⟩ := DDSPublisher.receive_of_not_raising num names
      (hkind ▸ hcalls (i, c) hcall r hr)
    refine ⟨ps.set i p', by rw [Members.callAt_of_getElem? hp, hok]; rfl, ?_⟩
    rw [List.map_set, hkind', ← hps]
    refine List.ext_getElem? fun j => ?_
    by_cases hj : i = j
    · subst hj
      rw [Members.getElem?_set_self_of_some (by rw [List.getElem?_map, hp]; rfl),
        List.getElem?_map, hp]
      rfl
    · rw [List.getElem?_set_ne hj]

variable (regs) in
theorem kinds_createPublishers :
    (createPublishers regs).map DDSPublisher.kind = regs.map Registration.kind := by
  unfold createPublishers
  rw [List.map_map]
  exact List.map_congr_left fun r _ => DDSPublisher.kind_create r.kind

/-- The timed calls of a run are calls of the run. -/
theorem mem_of_timed {calls : List (ℕ × Clock × Call)} {made : List (ℕ × Call)}
    (hcalls : calls.map (fun call => (call.1, call.2.2)) = made) {call : ℕ × Clock × Call}
    (hcall : call ∈ calls) : (call.1, call.2.2) ∈ made :=
  hcalls ▸ List.mem_map_of_mem (f := fun call : ℕ × Clock × Call => (call.1, call.2.2)) hcall

/-- **A run in which no motor raises.** -/
theorem foldlM_of_run (h : Registered regs) {spins : List (Bool × RxQueues)}
    (hspins : ∀ s ∈ spins, s.1 = true → ¬ MotorsRaise regs s.2)
    {calls : List (ℕ × Clock × Call)}
    (hcalls : calls.map (fun call => (call.1, call.2.2)) = adapterCalls regs spins) :
    ∃ ps, calls.foldlM (Members.callAt (DDSPublisher.receive num names)) (createPublishers regs) =
      .ok ps ∧ ps.map DDSPublisher.kind = regs.map Registration.kind :=
  foldlM_of_not_raising num names (fun _ hcall _ hr =>
    h.not_raising_of_run hspins (mem_of_timed hcalls hcall) hr) (kinds_createPublishers regs)

end Run

/-! ## The publishers of one channel -/

namespace ChannelPublisher

variable (pub : ChannelPublisher) (num : Numeric) (names : IdNames)

/-- A publisher of this kind in the adapter. -/
def toDDS : (pub : ChannelPublisher) → PdoPublisher pub.Msg → DDSPublisher
  | motors => fun p : PdoPublisher Idl.Motor => .motors p
  | gripper => fun p : PdoPublisher Idl.Gripper => .gripper p
  | valve => fun p : PdoPublisher Idl.Valve => .valve p

theorem create_kind : DDSPublisher.create pub.kind = pub.toDDS .new := by cases pub <;> rfl

theorem receive_toDDS (p : PdoPublisher pub.Msg) (call : Clock × Call) :
    (pub.toDDS p).receive num names call =
      (p.receive (pub.switch num) names call).map pub.toDDS := by cases pub <;> rfl

/-- Every cycle of the run is whole, up to the first in which a motor raises. -/
def RunWhole (regs : List Registration) (ids : List EcatId) (spins : List (Bool × RxQueues)) :
    Prop :=
  ∀ before s after, spins = before ++ s :: after →
    (∀ s' ∈ before ++ [s], s'.1 = true → ¬ MotorsRaise regs s'.2) →
    s.1 = true → pub.CycleWhole ids s.2

theorem runWhole_of_not_raising {regs : List Registration} (ids : List EcatId)
    {spins : List (Bool × RxQueues)}
    (hspins : ∀ s ∈ spins, s.1 = true → ¬ MotorsRaise regs s.2) :
    pub.RunWhole regs ids spins ↔ ∀ s ∈ spins, s.1 = true → pub.CycleWhole ids s.2 := by
  constructor
  · intro hwhole s hs
    obtain ⟨before, after, rfl⟩ := List.append_of_mem hs
    refine hwhole before s after rfl fun s' hs' => hspins s' ?_
    rw [List.mem_append, List.mem_singleton] at hs'
    rw [List.mem_append, List.mem_cons]
    exact hs'.imp_right Or.inl
  · rintro hwhole before s after rfl -
    exact hwhole s (List.mem_append_right _ List.mem_cons_self)

/-- Nothing is asked of the cycle in which a motor raises, nor of those after it. -/
theorem runWhole_of_raising {regs : List Registration} (ids : List EcatId)
    {before : List (Bool × RxQueues)} {s : Bool × RxQueues} (after : List (Bool × RxQueues))
    (hbefore : ∀ s' ∈ before, s'.1 = true → ¬ MotorsRaise regs s'.2) (hup : s.1 = true)
    (hraise : MotorsRaise regs s.2) :
    pub.RunWhole regs ids (before ++ s :: after) ↔
      ∀ s' ∈ before, s'.1 = true → pub.CycleWhole ids s'.2 := by
  rw [← pub.runWhole_of_not_raising ids hbefore]
  constructor
  · rintro hwhole b x a rfl hb
    exact hwhole b x (a ++ s :: after) (by rw [List.append_assoc, List.cons_append]) hb
  · intro hwhole b x a hspins hb
    rcases List.append_eq_append_iff.mp hspins with ⟨l, rfl, hl⟩ | ⟨l, rfl, hl⟩
    · -- the raising cycle is `x` or before it
      have hmem : s ∈ before ++ l ++ [x] := by
        cases l with
        | nil => simp [(List.cons.inj hl).1]
        | cons y l => simp [(List.cons.inj hl).1]
      exact absurd hraise (hb s hmem hup)
    · cases l with
      | nil => exact absurd hraise (hb s (by simp [(List.cons.inj hl).1]) hup)
      | cons y l =>
        obtain ⟨rfl, -⟩ := List.cons.inj hl
        exact hwhole b x l rfl hb

section Run

variable {regs : List Registration} (h : Registered regs) {i : ℕ} {r : Registration}
  (hr : regs[i]? = some r) (hkind : r.kind = pub.kind) {spins : List (Bool × RxQueues)}
  {calls : List (ℕ × Clock × Call)}

include hr hkind in
theorem motorsRaise_of_cycleRaises {queues : RxQueues} (hraises : pub.CycleRaises r.ids queues) :
    MotorsRaise regs queues := by
  cases pub with
  | motors => exact ⟨r, List.mem_of_getElem? hr, hkind, hraises⟩
  | gripper =>
    obtain ⟨_, _, _, _, hfalse⟩ := hraises
    exact absurd hfalse (by simp [raises])
  | valve =>
    obtain ⟨_, _, _, _, hfalse⟩ := hraises
    exact absurd hfalse (by simp [raises])

include h hr hkind in
/-- The publisher after a run in which no motor raises. -/
theorem whole_iff_of_not_raising (hchannels : r.channels = [pub.channel]) (hne : r.ids ≠ [])
    (hnodup : r.ids.Nodup) (hids : ∀ id ∈ r.ids, id.toNat < maxEcatIds)
    (hspins : ∀ s ∈ spins, s.1 = true → ¬ MotorsRaise regs s.2)
    (hcalls : calls.map (fun call => (call.1, call.2.2)) = adapterCalls regs spins) :
    ∃ ps p, calls.foldlM (Members.callAt (DDSPublisher.receive num names))
        (createPublishers regs) = .ok ps ∧
      ps.map DDSPublisher.kind = regs.map Registration.kind ∧ ps[i]? = some (pub.toDDS p) ∧
      ((∀ msg ∈ p.written, pub.WholeMessage names r.ids msg) ↔
        ∀ s ∈ spins, s.1 = true → pub.CycleWhole r.ids s.2) := by
  obtain ⟨ps, hok, hkinds⟩ := foldlM_of_run num names h hspins hcalls
  have hcreate : (createPublishers regs)[i]? = some (pub.toDDS .new) := by
    rw [createPublishers, List.getElem?_map, hr, ← pub.create_kind, ← hkind]
    rfl
  obtain ⟨p', hp', hfold⟩ := Members.foldlM_callAt_ok hok hcreate
  have hown : (Members.callsTo i calls).map Prod.snd = callsOf (adapterOps regs spins) i := by
    rw [← callsTo_runCalls]
    show _ = Members.callsTo i (adapterCalls regs spins)
    rw [← hcalls]
    exact (Members.callsTo_map Prod.snd i calls).symm
  obtain ⟨before, after, rfl, rfl⟩ := Members.exists_split hr
  obtain ⟨p, hp, hwhole⟩ := pub.receiveAll_whole_iff num names before hchannels hne hnodup hids
    after spins (fun s hs hup hraises => hspins s hs hup
      (pub.motorsRaise_of_cycleRaises hr hkind hraises)) _ hown
  refine ⟨ps, p, hok, hkinds, ?_, hwhole⟩
  rw [FoldExcept.foldlM_map _ (pub.receive_toDDS num names)] at hfold
  rw [PdoPublisher.receiveAll] at hp
  rw [hp] at hfold
  rw [hp', ← Except.ok.inj hfold]

include h hr hkind in
/-- The cycle in which a motor raises: the publishers before the motors get their calls, the motors
publisher writes nothing, and the others are not called. -/
theorem written_of_raising {queues : RxQueues} (hraise : MotorsRaise regs queues)
    {cycle : List (ℕ × Clock × Call)}
    (hcycle : cycle.map (fun call => (call.1, call.2.2)) =
      dispatchCalls (adapterOps regs spins) queues)
    {ps : List DDSPublisher} (hps : ps.map DDSPublisher.kind = regs.map Registration.kind)
    {p : PdoPublisher pub.Msg} (hp : ps[i]? = some (pub.toDDS p)) :
    (∃ e, cycle.foldlM (Members.callAt (DDSPublisher.receive num names)) ps = .error e) ∧
      ∃ p', (FoldExcept.foldUntil (Members.callAt (DDSPublisher.receive num names)) ps cycle)[i]? =
        some (pub.toDDS p') ∧ p'.written = p.written := by
  obtain ⟨rm, hrm, hmotors, id, hid, pdo, htakes, hpdo⟩ := hraise
  obtain ⟨m, hm⟩ := List.mem_iff_getElem?.mp hrm
  obtain ⟨hlt, -⟩ := List.getElem?_eq_some_iff.mp hm
  obtain ⟨pdos, valid, hpdos, hmcycle⟩ := h.motors_cycle hm hmotors spins queues
  have hplace : rm.kind.place ≤ r.kind.place := by
    rw [hmotors, hkind]
    cases pub <;> decide
  have hle : m ≤ i := h.le_of_place_le hr hm hplace
  -- the publishers before the motors, then the motors publisher, then the rest
  have hcount : m < (run (adapterOps regs spins)).subscriptions.length := by
    rwa [length_subscriptions_adapterOps]
  obtain ⟨rest, hsplit⟩ := Members.inTurn_split hcount fun j =>
    cycleCalls (adapterOps regs spins) j queues
  rw [dispatchCalls, hsplit] at hcycle
  obtain ⟨u, u₃, rfl, hu, -⟩ := List.map_eq_append_iff.mp hcycle
  obtain ⟨u₁, u₂, rfl, hu₁, hu₂⟩ := List.map_eq_append_iff.mp hu
  obtain ⟨block, rfl, hblock⟩ := Members.exists_block hu₂
  have hearlier : ∀ call ∈ u₁, call.1 < m := fun call hcall =>
    (Members.mem_inTurn.mp (mem_of_timed hu₁ hcall)).1
  have hsafe : ∀ call ∈ u₁, ∀ r', regs[call.1]? = some r' →
      ¬ DDSPublisher.Raising r'.kind call.2.2 := by
    rintro call hcall r' hr' ⟨hmotors', -⟩
    have hm' := h.le_of_place_le hr' hm (by rw [hmotors, hmotors'])
    have hlt' := hearlier call hcall
    omega
  obtain ⟨ps₂, hok, hkinds⟩ := foldlM_of_not_raising num names hsafe hps
  have hkeeps : ∀ j, m ≤ j → ps₂[j]? = ps[j]? := by
    intro j hj
    rw [← FoldExcept.foldUntil_of_ok hok]
    refine Members.foldUntil_callAt_other (fun call hcall => ?_) ps
    have hlt' := hearlier call hcall
    omega
  -- the motors publisher raises at its call for `pdo`
  obtain ⟨q, hq⟩ : ∃ q, ps₂[m]? = some (.motors q) := by
    have hkindm : (ps₂.map DDSPublisher.kind)[m]? = some .motors := by
      rw [hkinds, List.getElem?_map, hm, ← hmotors]
      rfl
    rw [List.getElem?_map] at hkindm
    obtain ⟨pm, hpm, hpmkind⟩ := Option.map_eq_some_iff.mp hkindm
    cases pm with
    | motors q => exact ⟨q, hpm⟩
    | _ => exact absurd hpmkind (by rintro ⟨⟩)
  obtain ⟨⟨e, he⟩, hsame⟩ := PdoPublisher.receive_raising_cycle (motorsSwitch num) names
    ((hpdos pdo).mpr ⟨id, hid, htakes⟩) (motors.consume_raises num names hpdo)
    (hblock.trans hmcycle) q
  have hfold : (block.map fun c => (m, c)).foldlM
      (Members.callAt (DDSPublisher.receive num names)) ps₂ = .error e := by
    have hblockFold : block.foldlM (DDSPublisher.receive num names) (.motors q) = .error e :=
      (FoldExcept.foldlM_map _ (motors.receive_toDDS num names) q).trans
        (congrArg (Except.map motors.toDDS) he)
    rw [Members.foldlM_callAt_block hq, hblockFold]
    rfl
  have herror : (u₁ ++ block.map fun c => (m, c)).foldlM
      (Members.callAt (DDSPublisher.receive num names)) ps = .error e := by
    rw [List.foldlM_append, hok]
    exact hfold
  refine ⟨⟨e, by rw [List.foldlM_append, herror]; rfl⟩, ?_⟩
  rw [FoldExcept.foldUntil_append_of_error _ herror, FoldExcept.foldUntil_append_of_ok _ hok]
  by_cases hmi : m = i
  · subst hmi
    obtain rfl : rm = r := Option.some.inj (hm.symm.trans hr)
    cases pub with
    | motors =>
      rw [hkeeps m le_rfl, hp] at hq
      obtain rfl : p = q := DDSPublisher.motors.inj (Option.some.inj hq)
      refine ⟨_, ?_, hsame⟩
      rw [Members.foldUntil_callAt_block ((hkeeps m le_rfl).trans hp)]
      exact congrArg some (FoldExcept.foldUntil_map (motors.receive_toDDS num names) p)
    | gripper => exact absurd (hmotors.symm.trans hkind) (by rintro ⟨⟩)
    | valve => exact absurd (hmotors.symm.trans hkind) (by rintro ⟨⟩)
  · refine ⟨p, ?_, rfl⟩
    rw [Members.foldUntil_callAt_other, hkeeps i hle, hp]
    intro call hcall
    obtain ⟨c, -, rfl⟩ := List.mem_map.mp hcall
    exact hmi

end Run

end ChannelPublisher

/-- **Every run.** What a motors, gripper or valve publisher of an initialized adapter has ever
written is whole exactly when every cycle is, up to the first in which a motor raises. -/
theorem run_whole_iff (pub : ChannelPublisher) (num : Numeric) (endpointOk : String → Bool)
    (topics : TopicNamespace) (robotConfig : RobotConfig) (ecatMap : EcatMap) (i : ℕ)
    (r : Registration) (hr : (init endpointOk topics robotConfig ecatMap).2[i]? = some r)
    (hkind : r.kind = pub.kind) (hids : ∀ id ∈ r.ids, id.toNat < maxEcatIds)
    (spins : List (Bool × RxQueues)) (calls : List (ℕ × Clock × Call))
    (hcalls : calls.map (fun call => (call.1, call.2.2)) =
      adapterCalls (init endpointOk topics robotConfig ecatMap).2 spins) :
    ∃ p, (finalPublishers num robotConfig.mapEcatId
        (init endpointOk topics robotConfig ecatMap).2 calls)[i]? = some (pub.toDDS p) ∧
      ((∀ msg ∈ p.written, pub.WholeMessage robotConfig.mapEcatId r.ids msg) ↔
        pub.RunWhole (init endpointOk topics robotConfig ecatMap).2 r.ids spins) := by
  obtain ⟨hchannels, hfilter, hne⟩ := registration_of_mem_init pub (List.mem_of_getElem? hr) hkind
  have hnodup : r.ids.Nodup := hfilter ▸ nodup_filterIds ecatMap pub.channel
  have h := registered_init endpointOk topics robotConfig ecatMap
  generalize (init endpointOk topics robotConfig ecatMap).2 = regs at hr hcalls h
  unfold finalPublishers
  by_cases hraise : ∃ s ∈ spins, s.1 = true ∧ MotorsRaise regs s.2
  · -- the run up to the first cycle that raises, this cycle, and what is never done
    obtain ⟨before, ⟨isOk, queues⟩, after, rfl, ⟨hup, hqueues⟩, hbefore⟩ :=
      Members.exists_first hraise
    have hbefore' : ∀ s ∈ before, s.1 = true → ¬ MotorsRaise regs s.2 :=
      fun s hs hs' hr' => hbefore s hs ⟨hs', hr'⟩
    obtain rfl : isOk = true := hup
    obtain ⟨rest, hrest⟩ := adapterCalls_append regs (before ++ [(true, queues)]) after
    rw [List.append_assoc, List.singleton_append, adapterCalls_concat] at hrest
    rw [hrest] at hcalls
    obtain ⟨upTo, later, rfl, hupTo, -⟩ := List.map_eq_append_iff.mp hcalls
    obtain ⟨earlier, cycle, rfl, hearlier, hcycle⟩ := List.map_eq_append_iff.mp hupTo
    obtain ⟨ps, p, hok, hkinds, hp, hwhole⟩ := pub.whole_iff_of_not_raising num
      robotConfig.mapEcatId h hr hkind hchannels hne hnodup hids hbefore' hearlier
    obtain ⟨⟨e, he⟩, p', hp', hwritten⟩ := pub.written_of_raising num robotConfig.mapEcatId h hr
      hkind hqueues hcycle hkinds hp
    refine ⟨p', ?_, ?_⟩
    · have herror : (earlier ++ cycle).foldlM
          (Members.callAt (DDSPublisher.receive num robotConfig.mapEcatId))
          (createPublishers regs) = .error e := by
        rw [List.foldlM_append, hok]
        exact he
      rw [FoldExcept.foldUntil_append_of_error _ herror, FoldExcept.foldUntil_append_of_ok _ hok]
      exact hp'
    · rw [hwritten, hwhole]
      exact (pub.runWhole_of_raising r.ids after hbefore' rfl hqueues).symm
  · have hspins : ∀ s ∈ spins, s.1 = true → ¬ MotorsRaise regs s.2 :=
      fun s hs hup hqueues => hraise ⟨s, hs, hup, hqueues⟩
    obtain ⟨ps, p, hok, -, hp, hwhole⟩ := pub.whole_iff_of_not_raising num
      robotConfig.mapEcatId h hr hkind hchannels hne hnodup hids hspins hcalls
    refine ⟨p, ?_, ?_⟩
    · rw [FoldExcept.foldUntil_of_ok hok]
      exact hp
    · rw [hwhole]
      exact (pub.runWhole_of_not_raising r.ids hspins).symm

/-- Two cycles of a robot with a motor and two grippers: both messages list both grippers. -/
theorem run_whole_grippers :
    let ecatMap := ((EcatMap.empty.emplace ⟨1, "hip", .rxCia402, .motor, .motor⟩).emplace
      ⟨2, "left", .rxGripper, .gripper, .gripper⟩).emplace
      ⟨3, "right", .rxGripper, .gripper, .gripper⟩
    let regs := (init (fun _ => true) [] {} ecatMap).2
    let queues : RxQueues := fun device => match device with
      | .motor => [{ type := .rxCia402, header? := some { index? := some 1 } }]
      | .gripper => [{ type := .rxGripper, header? := some { index? := some 3 } },
          { type := .rxGripper, header? := some { index? := some 2 } }]
      | _ => []
    let num : Numeric := ⟨fun _ => 0, fun _ => 0, fun _ => 0⟩
    let calls := (adapterCalls regs [(true, queues), (true, queues)]).map fun call =>
      (call.1, (⟨0, 1⟩ : Clock), call.2)
    ∃ p, (finalPublishers num ∅ regs calls)[2]? = some (.gripper p) ∧
      ∀ msg ∈ p.written, ChannelPublisher.gripper.WholeMessage ∅ [3, 2] msg := by
  intro ecatMap regs queues num calls
  have hids : ∀ id ∈ ([3, 2] : List EcatId), id.toNat < maxEcatIds := by simp [maxEcatIds]
  have hreg : regs[2]? = some ⟨.gripper, [.gripper], [3, 2], TopicNamespace.gripper []⟩ := by
    decide +kernel
  have hcalls : calls.map (fun call => (call.1, call.2.2)) =
      adapterCalls regs [(true, queues), (true, queues)] := by
    rw [List.map_map]
    exact List.map_id _
  obtain ⟨p, hp, hwhole⟩ := run_whole_iff .gripper num (fun _ => true) [] {} ecatMap 2 _ hreg rfl
    hids _ calls hcalls
  refine ⟨p, hp, hwhole.mpr fun before s after hspins _ _ => ?_⟩
  have hs : s ∈ [(true, queues), (true, queues)] := by rw [hspins]; simp
  obtain rfl : s = (true, queues) := by simpa using hs
  refine Or.inr (Or.inl fun id _ pdo htakes => ?_)
  obtain ⟨slot, -, q₁, q₂, hq, -⟩ := htakes
  have hmem : pdo ∈ queues .gripper := by
    rw [show queues .gripper = q₁ ++ pdo :: q₂ from hq]
    simp
  rcases List.mem_cons.mp hmem with rfl | hmem
  · rfl
  · rw [List.mem_singleton.mp hmem]
    rfl

/-- One cycle of a robot with two motors, one of which sends a PDO of a force-torque sensor: the
message that is written lacks it. -/
theorem run_lacks_motor :
    let ecatMap := (EcatMap.empty.emplace ⟨1, "hip", .rxCia402, .motor, .motor⟩).emplace
      ⟨2, "knee", .rxCia402, .motor, .motor⟩
    let regs := (init (fun _ => true) [] {} ecatMap).2
    let queues : RxQueues := fun device => match device with
      | .motor => [{ type := .rxCia402, header? := some { index? := some 1 } },
          { type := .rxFt6, header? := some { index? := some 2 } }]
      | _ => []
    let calls := (adapterCalls regs [(true, queues)]).map fun call =>
      (call.1, (⟨0, 1⟩ : Clock), call.2)
    (∃ r, regs[1]? = some r ∧ r.kind = .motors ∧ r.ids = [2, 1]) ∧
      ∃ p, (finalPublishers ⟨fun _ => 0, fun _ => 0, fun _ => 0⟩ ∅ regs calls)[1]? =
          some (.motors p) ∧
        ∃ msg ∈ p.written, msg.name = ["ecat_1"] ∧
          ¬ ChannelPublisher.motors.WholeMessage ∅ [2, 1] msg := by
  intro ecatMap regs queues calls
  have hmade : adapterCalls regs [(true, queues)] = [(0, .beginCycle),
      (0, .consume { type := .rxCia402, header? := some { index? := some 1 } }),
      (0, .consume { type := .rxFt6, header? := some { index? := some 2 } }),
      (0, .endCycle true), (1, .beginCycle),
      (1, .consume { type := .rxCia402, header? := some { index? := some 1 } }),
      (1, .consume { type := .rxFt6, header? := some { index? := some 2 } }),
      (1, .endCycle true)] := by
    decide +kernel
  have hcalls : calls = [(0, ⟨0, 1⟩, .beginCycle),
      (0, ⟨0, 1⟩, .consume { type := .rxCia402, header? := some { index? := some 1 } }),
      (0, ⟨0, 1⟩, .consume { type := .rxFt6, header? := some { index? := some 2 } }),
      (0, ⟨0, 1⟩, .endCycle true), (1, ⟨0, 1⟩, .beginCycle),
      (1, ⟨0, 1⟩, .consume { type := .rxCia402, header? := some { index? := some 1 } }),
      (1, ⟨0, 1⟩, .consume { type := .rxFt6, header? := some { index? := some 2 } }),
      (1, ⟨0, 1⟩, .endCycle true)] := congrArg (List.map _) hmade
  have hregs : createPublishers regs = [.jointState .new, .motors .new] := rfl
  rw [hcalls, finalPublishers, hregs]
  refine ⟨⟨_, rfl, rfl, by decide⟩, _, rfl, _, List.mem_singleton_self _, rfl, ?_⟩
  rintro ⟨order, horder, hname, -⟩
  have h := congrArg List.length hname
  rw [List.length_map, horder.length_eq] at h
  exact absurd h (by decide)

end EcatMiddleware.Dds
