import EcatMiddleware.Dds.AdapterPublishers

/-!
# The messages of one channel

The motors, gripper and valve publishers aggregate the devices of their channel. The adapter marks a
device as seen when it calls `consume`, before `process` decides on its PDO; so a valid cycle may
still lack a device.

* `process_entries`: an accepted PDO adds one entry to every sequence.
* `cycle_whole_iff`: what one cycle writes holds an entry for each configured device unless the
  cycle drained all of them and `process` accepted only some.
* `receiveAll_whole_iff`: the same for all cycles of a publisher, as long as no conversion raises.
-/

namespace EcatMiddleware.Dds

open EcatMiddleware.Core Pb Keyed

/-- The publishers that aggregate the devices of one channel. -/
inductive ChannelPublisher where
  | motors
  | gripper
  | valve
  deriving DecidableEq, Repr

namespace ChannelPublisher

def Msg : ChannelPublisher → Type
  | motors => Idl.Motor
  | gripper => Idl.Gripper
  | valve => Idl.Valve

instance : (pub : ChannelPublisher) → AggregateMessage pub.Msg
  | motors => inferInstanceAs (AggregateMessage Idl.Motor)
  | gripper => inferInstanceAs (AggregateMessage Idl.Gripper)
  | valve => inferInstanceAs (AggregateMessage Idl.Valve)

def kind : ChannelPublisher → PublisherKind
  | motors => .motors
  | gripper => .gripper
  | valve => .valve

def channel : ChannelPublisher → ChannelRx
  | motors => .motor
  | gripper => .gripper
  | valve => .valve

def switch (num : Numeric) : (pub : ChannelPublisher) → Switch pub.Msg
  | motors => motorsSwitch num
  | gripper => gripperSwitch
  | valve => valveSwitch

/-- The types for which `process` has a case. -/
def accepts : ChannelPublisher → PdoType → Bool
  | motors => isMotorType
  | gripper => isGripperType
  | valve => isValveType

/-- The types whose conversion raises. -/
def raises : ChannelPublisher → PdoType → Bool
  | motors, t => isMotorType t && decide (t ≠ .rxCia402)
  | _, _ => false

/-- The devices that a message lists. -/
def name : (pub : ChannelPublisher) → pub.Msg → List String
  | motors => Idl.Motor.name
  | gripper => Idl.Gripper.name
  | valve => Idl.Valve.name

/-- The lengths of the other sequences. -/
def lengths : (pub : ChannelPublisher) → pub.Msg → List ℕ
  | motors => fun msg : Idl.Motor =>
    [msg.statusword.length, msg.modesOfOp.length, msg.motorPos.length, msg.motorVel.length,
      msg.linkPos.length, msg.linkVel.length, msg.current.length, msg.torque.length,
      msg.demandedPos.length, msg.demandedVel.length, msg.demandedTorque.length,
      msg.demandedCurrent.length, msg.controlEffort.length, msg.motorTemp.length,
      msg.driveTemp.length, msg.errorCode.length, msg.errorReport.length, msg.fault.length,
      msg.rtt.length]
  | gripper => fun msg : Idl.Gripper =>
    [msg.statusword.length, msg.motorPos.length, msg.linkPos.length, msg.demandedPos.length,
      msg.demandedVel.length, msg.errorCode.length]
  | valve => fun msg : Idl.Valve =>
    [msg.encoderPosition.length, msg.force.length, msg.pressure1.length, msg.pressure2.length,
      msg.current.length, msg.temperature.length, msg.fault.length, msg.rtt.length,
      msg.opIdxAck.length, msg.aux.length, msg.currentRefFb.length, msg.positionRefFb.length,
      msg.forceRefFb.length]

/-! ## The cases of `process` -/

variable (pub : ChannelPublisher) (num : Numeric)

theorem isSome_switch (pdo : EcSlavePdo) :
    (pub.switch num pdo).isSome = pub.accepts pdo.type := by
  cases pub with
  | motors =>
    show (motorsSwitch num pdo).isSome = isMotorType pdo.type
    unfold motorsSwitch isMotorType
    cases pdo.type <;> rfl
  | gripper =>
    show (gripperSwitch pdo).isSome = isGripperType pdo.type
    unfold gripperSwitch isGripperType
    cases pdo.type <;> rfl
  | valve =>
    show (valveSwitch pdo).isSome = isValveType pdo.type
    unfold valveSwitch isValveType
    cases pdo.type <;> rfl

/-- A conversion that does not raise adds one element to every sequence but the names. -/
theorem convert_eq {pdo : EcSlavePdo} {convert : pub.Msg → Except CxxException pub.Msg}
    (hswitch : pub.switch num pdo = some convert) (hraises : pub.raises pdo.type = false)
    (msg : pub.Msg) :
    ∃ msg', convert msg = .ok msg' ∧ pub.name msg' = pub.name msg ∧
      pub.lengths msg' = (pub.lengths msg).map (· + 1) := by
  cases pub with
  | motors =>
    have htype : pdo.type = .rxCia402 := by
      have haccepts := isSome_switch .motors num pdo
      rw [hswitch] at haccepts
      simp only [raises, Bool.and_eq_false_iff, decide_eq_false_iff_not, not_not] at hraises
      exact hraises.resolve_left fun h => by simp [accepts, h] at haccepts
    have hconvert : convert = motorFromCia402 (pdo.cia402RxPdo?.getD {}) := by
      change motorsSwitch num pdo = some convert at hswitch
      rw [motorsSwitch, htype] at hswitch
      exact (Option.some.inj hswitch).symm
    subst hconvert
    refine ⟨_, rfl, rfl, ?_⟩
    simp [lengths]
  | gripper =>
    change gripperSwitch pdo = some convert at hswitch
    unfold gripperSwitch at hswitch
    split at hswitch
    · obtain rfl := Option.some.inj hswitch
      refine ⟨_, rfl, rfl, ?_⟩
      simp [lengths, gripperFromGripper]
    · exact absurd hswitch (by simp)
  | valve =>
    change valveSwitch pdo = some convert at hswitch
    unfold valveSwitch at hswitch
    split at hswitch
    · obtain rfl := Option.some.inj hswitch
      refine ⟨_, rfl, rfl, ?_⟩
      simp [lengths, valveFromHyqKnee]
    · exact absurd hswitch (by simp)

/-- The conversions of the other drives make a text of a null pointer. -/
theorem convert_raises {pdo : EcSlavePdo} (h : pub.raises pdo.type = true) (msg : pub.Msg) :
    ∃ convert e, pub.switch num pdo = some convert ∧ convert msg = .error e := by
  cases pub with
  | motors =>
    simp only [raises, Bool.and_eq_true, decide_eq_true_eq] at h
    exact motorsSwitch_raises num h.1 h.2 msg
  | gripper => exact absurd h (by simp [raises])
  | valve => exact absurd h (by simp [raises])

@[simp] theorem name_empty : pub.name AggregateMessage.empty = [] := by cases pub <;> rfl

@[simp] theorem name_pushName (n : String) (msg : pub.Msg) :
    pub.name (AggregateMessage.pushName n msg) = pub.name msg ++ [n] := by cases pub <;> rfl

@[simp] theorem name_setHeader (header : Idl.Header) (msg : pub.Msg) :
    pub.name (AggregateMessage.setHeader header msg) = pub.name msg := by cases pub <;> rfl

theorem lengths_empty : ∀ n ∈ pub.lengths AggregateMessage.empty, n = 0 := by
  cases pub <;> decide

@[simp] theorem lengths_pushName (n : String) (msg : pub.Msg) :
    pub.lengths (AggregateMessage.pushName n msg) = pub.lengths msg := by cases pub <;> rfl

@[simp] theorem lengths_setHeader (header : Idl.Header) (msg : pub.Msg) :
    pub.lengths (AggregateMessage.setHeader header msg) = pub.lengths msg := by cases pub <;> rfl

/-! ## One PDO -/

variable (names : IdNames)

/-- The accepted ones of the PDOs. -/
def accepted (pdos : List EcSlavePdo) : List EcSlavePdo :=
  pdos.filter fun pdo => pub.accepts pdo.type

/-- `msg` has one entry for each accepted PDO. -/
structure HasEntries (msg : pub.Msg) (pdos : List EcSlavePdo) : Prop where
  name : pub.name msg = (pub.accepted pdos).map (deviceName names)
  lengths : ∀ n ∈ pub.lengths msg, n = (pub.accepted pdos).length

theorem hasEntries_empty : pub.HasEntries names AggregateMessage.empty [] :=
  ⟨pub.name_empty, pub.lengths_empty⟩

/-- **One PDO.** -/
theorem process_entries {pdo : EcSlavePdo} (hraises : pub.raises pdo.type = false) (clock : Clock)
    {msg : pub.Msg} {done : List EcSlavePdo} (h : pub.HasEntries names msg done) :
    ∃ msg', process (pub.switch num) names clock pdo msg =
        .ok ((pub.switch num pdo).isSome, msg') ∧ pub.HasEntries names msg' (done ++ [pdo]) := by
  have haccepts := pub.isSome_switch num pdo
  cases hswitch : pub.switch num pdo with
  | none =>
    rw [hswitch] at haccepts
    refine ⟨msg, process_of_none _ names hswitch clock msg, ?_, ?_⟩
    · simpa [accepted, ← haccepts] using h.name
    · simpa [accepted, ← haccepts] using h.lengths
  | some convert =>
    obtain ⟨converted, hconvert, hname, hlengths⟩ := pub.convert_eq num hswitch hraises msg
    rw [hswitch] at haccepts
    refine ⟨_, by rw [process_of_some _ names hswitch, hconvert]; rfl, ?_, fun n hn => ?_⟩
    · simp [accepted, ← haccepts, hname, h.name]
    · rw [lengths_setHeader, lengths_pushName, hlengths, List.mem_map] at hn
      obtain ⟨m, hm, rfl⟩ := hn
      simp [accepted, ← haccepts, h.lengths m hm]

theorem consume_raises {pdo : EcSlavePdo} (hraises : pub.raises pdo.type = true) (clock : Clock)
    (p : PdoPublisher pub.Msg) :
    ∃ e, PdoPublisher.consume (pub.switch num) names clock pdo p = .error e := by
  obtain ⟨convert, e, hswitch, he⟩ := pub.convert_raises num hraises p.message
  exact ⟨e, PdoPublisher.consume_of_error _ names hswitch clock he⟩

end ChannelPublisher

/-! ## One cycle -/

/-- The PDO that a cycle takes for `id` from a channel: the last one with this index. -/
def Takes (queues : RxQueues) (channel : ChannelRx) (id : EcatId) (pdo : EcSlavePdo) : Prop :=
  ∃ slot : Slot, slot.val = id.toNat ∧ LastDrained (queues channel.device) slot pdo

theorem firstDelivered_singleton {queues : RxQueues} {channel : ChannelRx} {slot : Slot}
    {pdo : EcSlavePdo} :
    FirstDelivered queues [channel] slot pdo ↔ LastDrained (queues channel.device) slot pdo := by
  rw [← delivered_eq_some_iff, ← latest_slot?_eq_some_iff, delivered, List.findSome?_singleton]

namespace IdCycle

variable {ids : List EcatId} {channel : ChannelRx} {queues : RxQueues} {slots : List Slot}
  {pdos : List EcSlavePdo} {valid : Bool}

/-- Of the drained PDOs those of the configured ids are consumed. -/
theorem mem_iff_takes (h : IdCycle ids [channel] queues slots pdos valid) {pdo : EcSlavePdo} :
    pdo ∈ pdos ↔ ∃ id ∈ ids, Takes queues channel id pdo := by
  constructor
  · intro hpdo
    obtain ⟨id, hid, slot, hslot, hdel⟩ := h.exists_id hpdo
    exact ⟨id, hid, slot, hslot, firstDelivered_singleton.mp hdel⟩
  · rintro ⟨id, hid, slot, hslot, hlast⟩
    have hdel := firstDelivered_singleton.mpr hlast
    have hdrained : DrainedOn queues [channel] slot.val := by
      rw [← delivered_isSome_iff, delivered_eq_some_iff.mpr hdel]
      rfl
    obtain ⟨pdo', hpdo', hdel'⟩ := exists_right_of_forall₂ h.delivered
      ((h.mem_iff slot).mpr ⟨⟨id, hid, hslot.symm⟩, hdrained⟩)
    have heq := (delivered_eq_some_iff.mpr hdel).symm.trans (delivered_eq_some_iff.mpr hdel')
    rwa [Option.some.inj heq]

/-- In a valid cycle a PDO is taken for every configured id. -/
theorem valid_iff_takes (h : IdCycle ids [channel] queues slots pdos valid)
    (hids : ∀ id ∈ ids, id.toNat < maxEcatIds) :
    valid = true ↔ ∀ id ∈ ids, ∃ pdo, Takes queues channel id pdo := by
  rw [h.valid_iff_drained hids]
  refine forall₂_congr fun id hid => ?_
  constructor
  · intro hdrained
    obtain ⟨pdo, -, hdel⟩ := h.exists_pdo hids hid hdrained
    exact ⟨pdo, _, rfl, firstDelivered_singleton.mp hdel⟩
  · rintro ⟨pdo, slot, hslot, q₁, q₂, hq, hindex, -⟩
    exact ⟨channel, List.mem_singleton_self _, pdo, by simp [hq], hslot ▸ hindex⟩

end IdCycle

namespace ChannelPublisher

variable (pub : ChannelPublisher) (num : Numeric) (names : IdNames)

/-- Exactly one entry for each configured id, in every sequence. -/
def WholeMessage (ids : List EcatId) (msg : pub.Msg) : Prop :=
  ∃ order : List EcatId, order.Perm ids ∧
    pub.name msg = order.map (fun id => resolveName id names) ∧
    ∀ n ∈ pub.lengths msg, n = ids.length

/-- The conversion of a PDO of the cycle raises. -/
def CycleRaises (ids : List EcatId) (queues : RxQueues) : Prop :=
  ∃ id ∈ ids, ∃ pdo, Takes queues pub.channel id pdo ∧ pub.raises pdo.type = true

/-- A cycle after which no message is written that lacks a device: one was not drained, or `process`
accepts all or none. -/
def CycleWhole (ids : List EcatId) (queues : RxQueues) : Prop :=
  (∃ id ∈ ids, ∀ pdo, ¬ Takes queues pub.channel id pdo) ∨
    (∀ id ∈ ids, ∀ pdo, Takes queues pub.channel id pdo → pub.accepts pdo.type = true) ∨
    ∀ id ∈ ids, ∀ pdo, Takes queues pub.channel id pdo → pub.accepts pdo.type = false

section Cycle

variable {ids : List EcatId} {queues : RxQueues} {slots : List Slot} {pdos : List EcSlavePdo}
  {valid : Bool}

/-- A message of a valid cycle is whole when no PDO was rejected. -/
theorem whole_iff (h : IdCycle ids [pub.channel] queues slots pdos valid) (hnodup : ids.Nodup)
    (hids : ∀ id ∈ ids, id.toNat < maxEcatIds) (hv : valid = true) {msg : pub.Msg}
    (hmsg : pub.HasEntries names msg pdos) :
    pub.WholeMessage names ids msg ↔ ∀ pdo ∈ pdos, pub.accepts pdo.type = true := by
  have hlen := h.length_eq hnodup hids hv
  constructor
  · rintro ⟨order, horder, hname, -⟩ pdo hpdo
    have hcount : (pub.accepted pdos).length = pdos.length := by
      have := congrArg List.length (hmsg.name.symm.trans hname)
      rw [List.length_map, List.length_map, horder.length_eq] at this
      rw [this, hlen]
    exact List.filter_eq_self.mp (List.filter_sublist.eq_of_length hcount) pdo hpdo
  · intro hall
    have hself : pub.accepted pdos = pdos := List.filter_eq_self.mpr hall
    refine ⟨_, h.perm hnodup hids hv, ?_, fun n hn => ?_⟩
    · rw [hmsg.name, hself]
      exact h.map_deviceName names
    · rw [hmsg.lengths n hn, hself, hlen]

/-- **One cycle.** -/
theorem cycle_whole_iff (h : IdCycle ids [pub.channel] queues slots pdos valid)
    (hnodup : ids.Nodup) (hids : ∀ id ∈ ids, id.toNat < maxEcatIds) {msg : pub.Msg}
    (hmsg : pub.HasEntries names msg pdos) :
    (∀ m ∈ if valid && pdos.any fun pdo => pub.accepts pdo.type then [msg] else [],
      pub.WholeMessage names ids m) ↔ pub.CycleWhole ids queues := by
  have hall : (∀ id ∈ ids, ∀ pdo, Takes queues pub.channel id pdo → pub.accepts pdo.type = true) ↔
      ∀ pdo ∈ pdos, pub.accepts pdo.type = true := by
    simp only [h.mem_iff_takes]
    exact ⟨fun h pdo ⟨id, hid, ht⟩ => h id hid pdo ht, fun h id hid pdo ht => h pdo ⟨id, hid, ht⟩⟩
  have hnone : (∀ id ∈ ids, ∀ pdo, Takes queues pub.channel id pdo →
      pub.accepts pdo.type = false) ↔ ∀ pdo ∈ pdos, pub.accepts pdo.type = false := by
    simp only [h.mem_iff_takes]
    exact ⟨fun h pdo ⟨id, hid, ht⟩ => h id hid pdo ht, fun h id hid pdo ht => h pdo ⟨id, hid, ht⟩⟩
  unfold CycleWhole
  rw [hall, hnone]
  by_cases hv : valid = true
  · have hdrained : ¬ ∃ id ∈ ids, ∀ pdo, ¬ Takes queues pub.channel id pdo := by
      push Not
      exact (h.valid_iff_takes hids).mp hv
    rw [or_iff_right hdrained, ← pub.whole_iff names h hnodup hids hv hmsg, hv, Bool.true_and]
    by_cases hany : (pdos.any fun pdo => pub.accepts pdo.type) = true
    · have hsome : ¬ ∀ pdo ∈ pdos, pub.accepts pdo.type = false := by
        simpa using hany
      rw [if_pos hany, or_iff_left hsome, List.forall_mem_singleton]
    · have hno : ∀ pdo ∈ pdos, pub.accepts pdo.type = false := by
        simpa using hany
      rw [if_neg hany]
      exact iff_of_true (fun m hm => absurd hm List.not_mem_nil) (Or.inr hno)
  · have hmissing : ∃ id ∈ ids, ∀ pdo, ¬ Takes queues pub.channel id pdo := by
      rw [h.valid_iff_takes hids] at hv
      push Not at hv
      exact hv
    rw [Bool.eq_false_iff.mpr hv]
    exact iff_of_true (fun m hm => absurd hm List.not_mem_nil) (Or.inl hmissing)

end Cycle

/-! ## Every cycle of a publisher -/

/-- What a publisher of this kind has written when no conversion has raised. -/
theorem receiveAll_whole_iff (before : List Registration) {r : Registration}
    (hchannels : r.channels = [pub.channel]) (hne : r.ids ≠ []) (hnodup : r.ids.Nodup)
    (hids : ∀ id ∈ r.ids, id.toNat < maxEcatIds) (after : List Registration)
    (spins : List (Bool × RxQueues)) :
    (∀ s ∈ spins, s.1 = true → ¬ pub.CycleRaises r.ids s.2) →
    ∀ calls, calls.map Prod.snd =
        callsOf (adapterOps (before ++ r :: after) spins) before.length →
      ∃ p, PdoPublisher.receiveAll (pub.switch num) names calls = .ok p ∧
        ((∀ msg ∈ p.written, pub.WholeMessage names r.ids msg) ↔
          ∀ s ∈ spins, s.1 = true → pub.CycleWhole r.ids s.2) := by
  induction spins using List.reverseRecOn with
  | nil =>
    intro _ calls hcalls
    rw [callsOf_registrations, List.map_eq_nil_iff] at hcalls
    subst hcalls
    exact ⟨.new, rfl, by simp [PdoPublisher.new]⟩
  | append_singleton spins s ih =>
    intro hraises calls hcalls
    have hraises' := fun s' hs' => hraises s' (List.mem_append_left _ hs')
    obtain ⟨isOk, queues⟩ := s
    rw [adapterOps_concat] at hcalls
    cases isOk with
    | false =>
      rw [callsOf_spin_false] at hcalls
      obtain ⟨p, hok, hwritten⟩ := ih hraises' calls hcalls
      exact ⟨p, hok, hwritten.trans (by simp [or_imp, forall_and])⟩
    | true =>
      obtain ⟨slots, pdos, valid, hcycle, hlater⟩ := exists_idCycle before hne after spins queues
      rw [hlater] at hcalls
      rw [hchannels] at hcycle
      obtain ⟨earlier, cycle, rfl, hearlier, hcycleCalls⟩ := List.map_eq_append_iff.mp hcalls
      obtain ⟨p, hok, hwritten⟩ := ih hraises' earlier hearlier
      have htotal : ∀ pdo ∈ pdos, pub.raises pdo.type = false := by
        intro pdo hpdo
        obtain ⟨id, hid, htakes⟩ := hcycle.mem_iff_takes.mp hpdo
        exact Bool.eq_false_iff.mpr fun h =>
          hraises (true, queues) (by simp) rfl ⟨id, hid, pdo, htakes, h⟩
      obtain ⟨p', msg, hok', hmsg, hwritten'⟩ := PdoPublisher.receive_cycle (pub.switch num) names
        (I := pub.HasEntries names) (pub.hasEntries_empty names)
        (fun pdo hpdo clock msg done => pub.process_entries num names (htotal pdo hpdo) clock)
        hcycleCalls p
      refine ⟨p', ?_, ?_⟩
      · rw [PdoPublisher.receiveAll_append, hok]
        exact hok'
      · have hlast := pub.cycle_whole_iff names hcycle hnodup hids hmsg
        simp only [isSome_switch] at hwritten'
        rw [hwritten', List.forall_mem_append, hwritten, List.forall_mem_append]
        exact and_congr_right fun _ => hlast.trans (by simp)

end ChannelPublisher

end EcatMiddleware.Dds
