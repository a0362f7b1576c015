import EcatMiddleware.Dds.AdapterSubscribers
import EcatMiddleware.Dds.Service
import EcatMiddleware.Lib.Pipe

/-!
# Runs of the command subscriber

Samples on the motor-command topic arrive while the adapter spins. CycloneDDS takes all samples of
the reader and then visits them; FastDDS takes one after the other until there is none. The master
empties the transmit queues at any time.

* `commands_of_run`: which commands the queues get in a run, in every order of these steps.
* `run_spinOnce`: without a sample in between, both plugins do the same.
-/

namespace EcatMiddleware.Dds

open EcatMiddleware.Core Pb Run
open KeepLast (Remains)

/-- `MotorTxPdoVector` with its `valid` flag. -/
abbrev CommandSample := Sample (List Idl.MotorTxPdo)

/-- The reader of the commands. During `spin_once`, `spin` is what it has taken and not visited. -/
structure CommandReader (Q : Type) where
  reader : List CommandSample := []
  spin : Option (List CommandSample) := none
  tx : TxTransport Q

inductive CommandAction (Q : Type) where
  | arrive (sample : CommandSample)
  | spin
  | visit
  | finish
  /-- The master's side of the shared memory. -/
  | master (txIsOk : Bool) (subQueue : DeviceTypeTx → Q)

section

variable {Q : Type} (num : Numeric) (lib : ShmLib Q) (devices : Devices) (depth : ℕ)

/-- The loop body of `spin_once`. -/
def visitSample (sample : CommandSample) (tx : TxTransport Q) : TxTransport Q :=
  match sample with
  | some commands => motorCallback num devices lib commands tx
  | none => tx

/-- The sample that the loop comes to next. -/
def nextSample (plugin : Plugin) (s : CommandReader Q) : Option CommandSample :=
  match plugin, s.spin with
  | .cyclonedds, some batch => batch.head?
  | .fastdds, some [] => s.reader.head?
  | _, _ => none

def commandStep (plugin : Plugin) (s : CommandReader Q) :
    CommandAction Q → Option (CommandReader Q)
  | .arrive sample => some { s with reader := KeepLast.push depth s.reader sample }
  | .spin =>
    match plugin, s.spin with
    | .cyclonedds, none => some { s with reader := [], spin := some s.reader }
    | .fastdds, none => some { s with spin := some [] }
    | _, some _ => none
  | .visit =>
    match plugin, s.spin, s.reader with
    | .cyclonedds, some (sample :: batch), _ =>
      some { s with spin := some batch, tx := visitSample num lib devices sample s.tx }
    | .fastdds, some [], sample :: reader =>
      some { s with reader := reader, tx := visitSample num lib devices sample s.tx }
    | _, _, _ => none
  | .finish =>
    match plugin, s.spin, s.reader with
    | .cyclonedds, some [], _ => some { s with spin := none }
    | .fastdds, some [], [] => some { s with spin := none }
    | _, _, _ => none
  | .master txIsOk subQueue => some { s with tx := { s.tx with txIsOk, subQueue } }

/-! ## What a run passes on -/

/-- What has arrived and has not been visited. -/
def CommandReader.held (s : CommandReader Q) : List CommandSample := s.spin.getD [] ++ s.reader

def received (_ : CommandReader Q) : CommandAction Q → List CommandSample
  | .arrive sample => [sample]
  | _ => []

def visited (plugin : Plugin) (s : CommandReader Q) : CommandAction Q → List CommandSample
  | .visit => (nextSample plugin s).toList
  | _ => []

/-- The commands of the samples, in their order. -/
def commandsOf (samples : List CommandSample) : List EcSlavePdo :=
  (samples.filterMap id).flatMap (motorCommands num devices)

/-- The reader has room for the sample. -/
def ReaderRoom (s : CommandReader Q) : CommandAction Q → Prop
  | .arrive _ => s.reader.length < depth
  | _ => True

/-- The transport is up, and its queue has room for the commands of the sample. -/
def QueueRoom (plugin : Plugin) (s : CommandReader Q) : CommandAction Q → Prop
  | .visit => HasRoom lib s.tx
      (commandsOf num devices (nextSample plugin s).toList).length
  | _ => True

end

variable {Q : Type} {num : Numeric} {lib : ShmLib Q} {devices : Devices} {depth : ℕ}
  {plugin : Plugin}

/-! ## One step -/

theorem visit_eq_some {s s' : CommandReader Q}
    (h : commandStep num lib devices depth plugin s .visit = some s') :
    ∃ sample, nextSample plugin s = some sample ∧ s.held = sample :: s'.held ∧
      s'.tx = visitSample num lib devices sample s.tx := by
  obtain ⟨reader, spin, tx⟩ := s
  unfold commandStep at h
  simp only at h
  split at h
  · obtain rfl := Option.some.inj h
    exact ⟨_, rfl, rfl, rfl⟩
  · obtain rfl := Option.some.inj h
    exact ⟨_, rfl, rfl, rfl⟩
  · cases h

/-- Only a visit pushes commands. -/
theorem tx_of_step {s s' : CommandReader Q} {action : CommandAction Q} (hne : action ≠ .visit)
    (h : commandStep num lib devices depth plugin s action = some s') :
    s'.tx.pushed = s.tx.pushed := by
  cases action with
  | visit => exact absurd rfl hne
  | arrive sample => cases h; rfl
  | master txIsOk subQueue => cases h; rfl
  | spin =>
    unfold commandStep at h
    simp only at h
    split at h <;> cases h <;> rfl
  | finish =>
    unfold commandStep at h
    simp only at h
    split at h <;> cases h <;> rfl

/-- **One step** passes on, visits or loses what is held. -/
theorem held_step {s s' : CommandReader Q} {action : CommandAction Q}
    (h : commandStep num lib devices depth plugin s action = some s') :
    Remains (ReaderRoom depth s action) (visited plugin s action ++ s'.held)
      (s.held ++ received s action) := by
  obtain ⟨reader, spin, tx⟩ := s
  cases action with
  | arrive sample =>
    obtain rfl := Option.some.inj h
    show Remains _ (spin.getD [] ++ KeepLast.push depth reader sample)
      ((spin.getD [] ++ reader) ++ [sample])
    rw [List.append_assoc]
    exact (Remains.refl _).append (Remains.push depth reader sample)
  | spin =>
    unfold commandStep at h
    simp only at h
    split at h
    · obtain rfl := Option.some.inj h
      exact Remains.of_eq rfl
    · obtain rfl := Option.some.inj h
      exact Remains.of_eq (List.append_nil _).symm
    · cases h
  | visit =>
    obtain ⟨sample, hnext, hheld, -⟩ := visit_eq_some h
    show Remains _ ((nextSample plugin _).toList ++ _) (_ ++ [])
    rw [hnext, hheld, List.append_nil]
    exact Remains.refl _
  | finish =>
    unfold commandStep at h
    simp only at h
    split at h
    · obtain rfl := Option.some.inj h
      exact Remains.of_eq (List.append_nil _).symm
    · obtain rfl := Option.some.inj h
      exact Remains.of_eq rfl
    · cases h
  | master txIsOk subQueue =>
    obtain rfl := Option.some.inj h
    exact Remains.of_eq (List.append_nil _).symm

/-! ## The queue -/

/-- Of the commands that have slots a queue takes what it has room for. -/
theorem remains_of_pushAll {channel : ChannelTx} (msgs : List EcSlavePdo)
    (hslots : ∀ msg ∈ msgs, (txSlot? msg).isSome) :
    ∀ tx : TxTransport Q, ∃ taken,
      (pushAll lib channel msgs tx).pushed = tx.pushed ++
        taken.map (fun pdo => (channel.device, slotOf pdo)) ∧
      Remains (HasRoom lib tx msgs.length) taken msgs := by
  induction msgs with
  | nil => exact fun tx => ⟨[], (List.append_nil _).symm, Remains.refl _⟩
  | cons msg msgs ih =>
    intro tx
    obtain ⟨hmsg, hrest⟩ := List.forall_mem_cons.mp hslots
    obtain ⟨slot, hslot⟩ := Option.isSome_iff_exists.mp hmsg
    obtain ⟨taken, hpushed, hremains⟩ := ih hrest (push lib channel msg tx).2
    have hhead := (@push_spec Q lib channel msg tx).1
    have hroom : HasRoom lib tx (msg :: msgs).length →
        (push lib channel msg tx).1 = true ∧
          HasRoom lib (push lib channel msg tx).2 msgs.length := by
      intro hroom
      rw [push_of_some hslot hroom.1]
      obtain ⟨htaken, -, hleft⟩ := helperPush_of_room hroom channel.device slot
      exact ⟨htaken, hleft⟩
    refine ⟨(if (push lib channel msg tx).1 then [msg] else []) ++ taken, ?_, ?_⟩
    · refine hpushed.trans ?_
      rw [hhead, List.map_append, List.append_assoc]
      cases (push lib channel msg tx).1 <;> rfl
    · show Remains _ _ ([msg] ++ msgs)
      refine Remains.append ⟨?_, fun h => if_pos (hroom h).1⟩ (hremains.mono fun h => (hroom h).2)
      split
      · exact List.Sublist.refl _
      · exact List.nil_sublist _

/-- A command of the callback is addressed to a device. -/
theorem slot_of_mem_motorCommands {sample : List Idl.MotorTxPdo} {pdo : EcSlavePdo}
    (h : pdo ∈ motorCommands num devices sample) : (txSlot? pdo).isSome := by
  rw [motorCommands_eq] at h
  obtain ⟨element, -, hmem⟩ := List.mem_flatMap.mp h
  have hcases := @appendCommand_cases num devices element
  cases ht : addressed? devices element with
  | none =>
    rw [ht] at hcases
    rw [hcases] at hmem
    exact absurd hmem List.not_mem_nil
  | some t =>
    rw [ht] at hcases
    obtain ⟨pdo', hcarries, happend⟩ := hcases
    rw [happend] at hmem
    obtain rfl := List.mem_singleton.mp hmem
    have hid : 0 ≤ element.ecatId := by
      by_contra hneg
      unfold addressed? at ht
      rw [if_neg hneg] at ht
      cases ht
    have hindex : pdo.headerIndex? = some element.ecatId := by cases hcarries <;> rfl
    rw [txSlot?_eq_some_iff.mpr ⟨_, hindex, hid, rfl⟩]
    rfl

/-! ## Any run -/

theorem commandsOf_append (xs ys : List CommandSample) :
    commandsOf num devices (xs ++ ys) = commandsOf num devices xs ++ commandsOf num devices ys := by
  unfold commandsOf
  rw [List.filterMap_append, List.flatMap_append]

/-- The commands of some samples are those of all their elements. -/
theorem commandsOf_eq (samples : List CommandSample) : commandsOf num devices samples =
    motorCommands num devices (samples.filterMap id).flatten := by
  unfold commandsOf
  rw [motorCommands_eq]
  induction samples.filterMap id with
  | nil => rfl
  | cons commands rest ih =>
    rw [List.flatMap_cons, ih, List.flatten_cons, List.flatMap_append, motorCommands_eq]

/-- A step logs what the queue takes of the commands that it comes to. -/
theorem pushed_step {s s' : CommandReader Q} {action : CommandAction Q}
    (h : commandStep num lib devices depth plugin s action = some s') :
    ∃ taken, s'.tx.pushed = s.tx.pushed ++ taken.map (fun pdo => (.motor, slotOf pdo)) ∧
      Remains (QueueRoom num lib devices plugin s action) taken
        (commandsOf num devices (visited plugin s action)) := by
  by_cases hvisit : action = .visit
  · subst hvisit
    obtain ⟨sample, hnext, -, htx⟩ := visit_eq_some h
    show ∃ taken, _ ∧ Remains (HasRoom lib s.tx
      (commandsOf num devices (nextSample plugin s).toList).length) taken
        (commandsOf num devices (nextSample plugin s).toList)
    rw [htx, hnext]
    cases sample with
    | none => exact ⟨[], (List.append_nil _).symm, Remains.refl _⟩
    | some commands =>
      have hone : commandsOf num devices [some commands] = motorCommands num devices commands :=
        List.flatMap_singleton _ _
      rw [Option.toList_some, hone]
      exact remains_of_pushAll _ (fun pdo => slot_of_mem_motorCommands) s.tx
  · refine ⟨[], ?_, ?_⟩
    · rw [tx_of_step hvisit h]
      exact (List.append_nil _).symm
    · cases action with
      | visit => exact absurd rfl hvisit
      | _ => exact Remains.refl _

/-- **The commands of a run**, from a reader that holds nothing. What is visited, and then what is
held, is what the reader keeps of the samples that arrive; the queue gets what it has room for of
the commands that the visited samples carry, one for each element that addresses a drive. -/
theorem commands_of_run {s t : CommandReader Q} (hs : s.held = [])
    {actions : List (CommandAction Q)}
    (h : run (commandStep num lib devices depth plugin) s actions = some t) :
    let step := commandStep num lib devices depth plugin
    let samples := trace step (visited plugin) s actions
    Remains (Meets step (ReaderRoom depth) s actions) (samples ++ t.held)
      (trace step received s actions) ∧
    List.Forall₂ (fun element pdo => ∃ type, addressed? devices element = some type ∧
        Carries num element type pdo)
      ((samples.filterMap id).flatten.filter fun element => (addressed? devices element).isSome)
      (commandsOf num devices samples) ∧
    ∃ commands,
      Remains (Meets step (QueueRoom num lib devices plugin) s actions) commands
        (commandsOf num devices samples) ∧
      t.tx.pushed = s.tx.pushed ++ commands.map fun pdo => (.motor, slotOf pdo) := by
  intro step samples
  obtain ⟨commands, hpushed, hcommands⟩ := logged_of_run
    (fun s a s' hstep => @pushed_step Q num lib devices depth plugin s s' a hstep) actions h
  rw [trace_map_of_append (commandsOf num devices) rfl commandsOf_append] at hcommands
  have hheld := remains_of_run (fun s a s' hstep => held_step hstep) actions h
  rw [hs, List.nil_append] at hheld
  refine ⟨hheld, ?_, commands, hcommands, hpushed⟩
  rw [commandsOf_eq]
  exact forall₂_motorCommands _

/-- A sample that has room, with an element that addresses no device and one that addresses a
drive. -/
theorem commands_of_run_one :
    let num : Numeric := ⟨fun _ => 0, fun _ => 0, fun _ => 0⟩
    let devices : Devices := (∅ : Devices).insert 1 ⟨1, "hip", .rxCia402, .motor, .motor⟩
    let lib : ShmLib Unit :=
      ⟨fun _ _ => (true, ()), fun _ => 1, fun _ _ _ => rfl, fun _ _ => Nat.le_succ 1⟩
    let s : CommandReader Unit := { tx := { txIsOk := true, subQueue := fun _ => () } }
    let sample : CommandSample := some [{ ecatId := 7 }, { ecatId := 1 }]
    let actions := [.arrive sample, .spin, .visit, .finish]
    let step := commandStep num lib devices 1 .cyclonedds
    ∃ t, run step s actions = some t ∧
      trace step (visited .cyclonedds) s actions ++ t.held = [sample] ∧
      t.tx.pushed = (commandsOf num devices [sample]).map fun pdo => (.motor, slotOf pdo) := by
  intro num devices lib s sample actions step
  obtain ⟨hsamples, -, commands, hcommands, hpushed⟩ :=
    @commands_of_run Unit num lib devices 1 .cyclonedds s _ rfl actions rfl
  have hroom : HasRoom lib s.tx 1 := ⟨rfl, fun _ => Nat.le_refl 1⟩
  have hall := hcommands.2 (Meets.cons trivial rfl (Meets.cons trivial rfl (Meets.cons hroom rfl
    (Meets.cons trivial rfl trivial))))
  refine ⟨_, rfl, hsamples.2 ?_, ?_⟩
  · exact Meets.cons Nat.one_pos rfl (Meets.cons trivial rfl (Meets.cons trivial rfl
      (Meets.cons trivial rfl trivial)))
  · rw [hpushed, hall]
    rfl

/-! ## `spin_once` -/

/-- What `spin_once` does where no sample arrives in it. -/
theorem run_spinOnce (s : CommandReader Q) (hspin : s.spin = none) :
    run (commandStep num lib devices depth plugin) s
        (.spin :: List.replicate s.reader.length .visit ++ [.finish]) =
      some { reader := [], spin := none
             tx := s.reader.foldl
               (fun tx sample => visitSample num lib devices sample tx) s.tx } := by
  obtain ⟨reader, spin, tx⟩ := s
  obtain rfl : spin = none := hspin
  cases plugin with
  | cyclonedds =>
    have hvisits : ∀ (batch : List CommandSample) (tx : TxTransport Q),
        run (commandStep num lib devices depth .cyclonedds) ⟨[], some batch, tx⟩
            (List.replicate batch.length .visit ++ [.finish]) =
          some ⟨[], none, batch.foldl
            (fun tx sample => visitSample num lib devices sample tx) tx⟩ := by
      intro batch
      induction batch with
      | nil => exact fun _ => rfl
      | cons sample batch ih => exact fun tx => ih (visitSample num lib devices sample tx)
    exact hvisits reader tx
  | fastdds =>
    have hvisits : ∀ (batch : List CommandSample) (tx : TxTransport Q),
        run (commandStep num lib devices depth .fastdds) ⟨batch, some [], tx⟩
            (List.replicate batch.length .visit ++ [.finish]) =
          some ⟨[], none, batch.foldl
            (fun tx sample => visitSample num lib devices sample tx) tx⟩ := by
      intro batch
      induction batch with
      | nil => exact fun _ => rfl
      | cons sample batch ih => exact fun tx => ih (visitSample num lib devices sample tx)
    exact hvisits reader tx

end EcatMiddleware.Dds
