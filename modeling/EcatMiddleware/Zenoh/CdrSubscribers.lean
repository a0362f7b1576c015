import EcatMiddleware.Lib.FoldWhile
import EcatMiddleware.Zenoh.AdapterSubscribers
import EcatMiddleware.Zenoh.Ros2Cdr

/-!
# The Zenoh subscriber adapter with CDR commands

A sample is a batch of commands. The callback enqueues them one after the other and breaks after the
first that is not taken, also when only this command is at fault.

* `pushed_cdrCallback`: what a batch pushes to queues with room for it.
* `enqueued_iff`: which batches are enqueued but for the commands with a negative id.
-/

namespace EcatMiddleware.Zenoh

open EcatMiddleware.Core Pb FoldWhile

/-- A `Topic` with the type of its CDR commands. -/
structure CdrTopic extends Topic where
  cdrType : Ros2CommandType
  deriving DecidableEq, Repr

/-- `topics_`, as the constructor builds it with ROS 2 support. -/
def cdrTopics (ns : TopicNamespace) : List CdrTopic :=
  [{ key := ns.jointCmd, expectedType := .txCia402, channel := .motor, cdrType := .joint },
    { key := ns.motorCmd, expectedType := .txMotor, channel := .motor, cdrType := .motor },
    { key := ns.valveCmd, expectedType := .txHyqKnee, channel := .valve, cdrType := .valve },
    { key := ns.gripperCmd, expectedType := .txGripper, channel := .gripper, cdrType := .gripper },
    { key := ns.pumpCmd, expectedType := .txHyqHpu, channel := .pump, cdrType := .pump }]

/-- The decoder of a topic makes the PDOs that the topic expects. -/
theorem expectedType_of_mem {ns : TopicNamespace} {topic : CdrTopic} (h : topic ∈ cdrTopics ns) :
    topic.expectedType = topic.cdrType.pdoType := by
  simp only [cdrTopics, List.mem_cons, List.not_mem_nil, or_false] at h
  rcases h with rfl | rfl | rfl | rfl | rfl <;> rfl

/-- `register_cdr_subscriber`: the subscriber has the default depth. -/
def registerCdrSubscriber (declared : CdrTopic → Bool) (topic : CdrTopic) :
    Option (CdrTopic × ZenohSubscriber (List EcSlavePdo)) :=
  if declared topic then some (topic, .new) else none

section

variable {Q Payload : Type} (num : Numeric) (lib : ShmLib Q) (idl : CdrLib Payload)

/-- The callback of a registered subscriber. -/
def cdrCallback (topic : CdrTopic) :
    ZenohSubscriber.Callback (List EcSlavePdo) (TxTransport Q) :=
  fun commands tx =>
    (.ok (), foldWhile (fun tx pdo => enqueue lib topic.toTopic pdo tx) tx commands)

/-- The deserializer of a registered subscriber. -/
def decoder (topic : CdrTopic) (payload : Payload) : Option (List EcSlavePdo) :=
  let decoded := deserializeCycle num idl topic.cdrType payload
  if decoded.1 then some decoded.2 else none

/-- A sample arrives at a subscriber, and the next `spin_once` handles it. -/
def receive (topic : CdrTopic) (sub : ZenohSubscriber (List EcSlavePdo)) (payload : Payload)
    (tx : TxTransport Q) : TxTransport Q :=
  ((sub.onSample (decoder num idl topic) payload).spinOnce (some (cdrCallback lib topic)) tx).2

end

section

variable {Q Payload : Type} {num : Numeric} {lib : ShmLib Q} {idl : CdrLib Payload}

/-- A subscriber of the topic, after any samples and any calls of `spin_once`. -/
inductive Held (num : Numeric) (idl : CdrLib Payload) (topic : CdrTopic) :
    ZenohSubscriber (List EcSlavePdo) → Prop
  | registered {declared : CdrTopic → Bool} {sub : ZenohSubscriber (List EcSlavePdo)} :
      registerCdrSubscriber declared topic = some (topic, sub) → Held num idl topic sub
  | sample {sub : ZenohSubscriber (List EcSlavePdo)} (payload : Payload) :
      Held num idl topic sub → Held num idl topic (sub.onSample (decoder num idl topic) payload)
  | spin {sub : ZenohSubscriber (List EcSlavePdo)} :
      Held num idl topic sub → Held num idl topic sub.drained

theorem Held.historyDepth {topic : CdrTopic} {sub : ZenohSubscriber (List EcSlavePdo)}
    (h : Held num idl topic sub) : sub.historyDepth = 1 := by
  induction h with
  | registered h =>
    unfold registerCdrSubscriber at h
    split_ifs at h
    obtain ⟨-, rfl⟩ := Prod.mk.inj (Option.some.inj h)
    rfl
  | sample payload _ ih => rw [ZenohSubscriber.historyDepth_onSample, ih]
  | spin _ ih => exact ih

/-- The callback gets the batch that has just been decoded. -/
theorem receive_eq {topic : CdrTopic} {sub : ZenohSubscriber (List EcSlavePdo)}
    (hsub : Held num idl topic sub) {payload : Payload}
    (hdecoded : (deserializeCycle num idl topic.cdrType payload).1 = true) (tx : TxTransport Q) :
    receive num lib idl topic sub payload tx =
      (cdrCallback lib topic (deserializeCycle num idl topic.cdrType payload).2 tx).2 := by
  have hdecode : decoder num idl topic payload =
      some (deserializeCycle num idl topic.cdrType payload).2 := if_pos hdecoded
  unfold receive
  rw [ZenohSubscriber.spinOnce_some, ZenohSubscriber.pending_onSample, hdecode,
    hsub.historyDepth]
  show (KeepLast.push 1 sub.pending _).foldl _ tx = _
  rw [KeepLast.push, KeepLast.rtake_one_concat]
  rfl

/-! ## What a batch pushes -/

/-- The slot of an element. -/
def slotOfElement (topic : CdrTopic) (e : Int32 × EcSlavePdo) : DeviceTypeTx × TxSlot :=
  (topic.channel.device, { slaveId := e.1.toUInt32, pdo := e.2 })

/-- An element whose PDO the topic expects, with the id as its header index. -/
def Fits (topic : CdrTopic) (e : Int32 × EcSlavePdo) : Prop :=
  e.2.type = topic.expectedType ∧ e.2.headerIndex? = some e.1

theorem fits_of_mem {ns : TopicNamespace} {topic : CdrTopic} (htopic : topic ∈ cdrTopics ns)
    {payload : Payload} : ∀ e ∈ elements num idl topic.cdrType payload, Fits topic e := by
  intro e he
  rw [Fits, expectedType_of_mem htopic]
  exact of_mem_elements he

theorem enqueue_eq_push {topic : CdrTopic} {e : Int32 × EcSlavePdo} (he : Fits topic e)
    (tx : TxTransport Q) : enqueue lib topic.toTopic e.2 tx = push lib topic.channel e.2 tx :=
  if_neg (not_not.mpr he.1)

/-- A queue with room takes an element whose id is not negative. -/
theorem enqueue_taken {topic : CdrTopic} {e : Int32 × EcSlavePdo} (he : Fits topic e)
    (hid : 0 ≤ e.1) {tx : TxTransport Q} (hroom : HasRoom lib tx 1) :
    (enqueue lib topic.toTopic e.2 tx).1 = true := by
  have hslot : txSlot? e.2 = some ⟨e.1.toUInt32, e.2⟩ :=
    txSlot?_eq_some_iff.mpr ⟨e.1, he.2, hid, rfl⟩
  rw [enqueue_eq_push he, push_of_some hslot hroom.1]
  exact (helperPush_of_room hroom topic.channel.device _).1

theorem enqueue_refused {topic : CdrTopic} {e : Int32 × EcSlavePdo} (he : Fits topic e)
    (hid : ¬ 0 ≤ e.1) (tx : TxTransport Q) : enqueue lib topic.toTopic e.2 tx = (false, tx) := by
  have hslot : txSlot? e.2 = none := by simp [txSlot?, he.2, Int32.not_le.mp hid]
  rw [enqueue_eq_push he, push_of_none hslot]

theorem slot?_element {topic : CdrTopic} {e : Int32 × EcSlavePdo} (he : Fits topic e)
    (hid : 0 ≤ e.1) : slot? topic.toTopic e.2 = some (slotOfElement topic e) := by
  have hneg : ¬ e.1 < 0 := Int32.not_lt.mpr hid
  simp [slot?, deviceOf?, he.1, he.2, hneg, slotOf, slotOfElement]

/-- The loop of the callback: the elements before the first that is refused are enqueued. -/
theorem foldWhile_enqueue {topic : CdrTopic} {batch : List (Int32 × EcSlavePdo)}
    (hbatch : ∀ e ∈ batch, Fits topic e) {tx : TxTransport Q}
    (hroom : HasRoom lib tx batch.length) :
    foldWhile (fun tx e => enqueue lib topic.toTopic e.2 tx) tx batch =
      (batch.takeWhile fun e => 0 ≤ e.1).foldl
        (fun tx e => (enqueue lib topic.toTopic e.2 tx).2) tx := by
  refine foldWhile_eq_foldl (fun tx rest => (∀ e ∈ rest, Fits topic e) ∧
    HasRoom lib tx rest.length) ?_ ?_ batch ⟨hbatch, hroom⟩
  · rintro tx e rest ⟨hfits, hroom⟩ hid
    have he := hfits e List.mem_cons_self
    refine ⟨enqueue_taken he (by simpa using hid) (hroom.mono (by simp)), ?_⟩
    exact ⟨fun e' he' => hfits e' (List.mem_cons_of_mem e he'), (enqueue_of_room hroom _ _).2⟩
  · rintro tx e rest ⟨hfits, -⟩ hid
    exact enqueue_refused (hfits e List.mem_cons_self) (by simpa using hid) tx

/-- **A batch.** The elements before the first with a negative id are pushed. -/
theorem pushed_cdrCallback {topic : CdrTopic} {batch : List (Int32 × EcSlavePdo)}
    (hbatch : ∀ e ∈ batch, Fits topic e) {tx : TxTransport Q}
    (hroom : HasRoom lib tx batch.length) :
    (cdrCallback lib topic (batch.map Prod.snd) tx).2.pushed =
      tx.pushed ++ (batch.takeWhile fun e => 0 ≤ e.1).map (slotOfElement topic) := by
  let taken := batch.takeWhile fun e => 0 ≤ e.1
  have hloop : (cdrCallback lib topic (batch.map Prod.snd) tx).2 =
      (taken.map Prod.snd).foldl (fun tx pdo => (callback lib topic.toTopic pdo tx).2) tx := by
    show foldWhile _ tx (batch.map Prod.snd) = _
    rw [foldWhile_map, foldWhile_enqueue hbatch hroom, List.foldl_map]
    rfl
  have hlen : (taken.map Prod.snd).length + 0 ≤ batch.length := by
    simpa using (List.takeWhile_sublist _).length_le
  rw [hloop, (foldl_callback_of_room topic.toTopic _ (hroom.mono hlen)).1, List.filterMap_map]
  congr 1
  rw [← List.filterMap_eq_map]
  refine List.filterMap_congr fun e he => ?_
  have hid : 0 ≤ e.1 := by simpa using List.mem_takeWhile_imp he
  exact slot?_element (hbatch e ((List.takeWhile_sublist _).subset he)) hid

/-! ## Which batches are enqueued -/

/-- Every element with a non-negative id is pushed once, in the order of the batch. -/
def Enqueued (topic : CdrTopic) (batch : List (Int32 × EcSlavePdo)) (tx tx' : TxTransport Q) :
    Prop :=
  tx'.pushed = tx.pushed ++ (batch.filter fun e => 0 ≤ e.1).map (slotOfElement topic)

end

/-- **Which batches are enqueued.** Of a batch that the next `spin_once` visits, and where the
queues have room, every command with a non-negative id is enqueued exactly when none of them stands
behind a command with a negative id. -/
theorem enqueued_iff {Q Payload : Type} (num : Numeric) (lib : ShmLib Q) (idl : CdrLib Payload)
    (ns : TopicNamespace) (topic : CdrTopic) (sub : ZenohSubscriber (List EcSlavePdo))
    (payload : Payload) (tx : TxTransport Q) (htopic : topic ∈ cdrTopics ns)
    (hsub : Held num idl topic sub)
    (hdecoded : (deserializeCycle num idl topic.cdrType payload).1 = true)
    (hroom : HasRoom lib tx (deserializeCycle num idl topic.cdrType payload).2.length) :
    Enqueued topic (elements num idl topic.cdrType payload) tx
        (receive num lib idl topic sub payload tx) ↔
      (elements num idl topic.cdrType payload).Pairwise fun e e' => 0 ≤ e'.1 → 0 ≤ e.1 := by
  have hpairs := takeWhile_eq_filter_iff (fun e : Int32 × EcSlavePdo => decide (0 ≤ e.1))
    (elements num idl topic.cdrType payload)
  simp only [decide_eq_true_eq] at hpairs
  rw [deserializeCycle_eq, List.length_map] at hroom
  rw [Enqueued, receive_eq hsub hdecoded, deserializeCycle_eq,
    pushed_cdrCallback (fits_of_mem htopic) hroom, List.append_cancel_left_eq, ← hpairs]
  constructor
  · intro h
    refine (takeWhile_sublist_filter _ _).eq_of_length ?_
    simpa using congrArg List.length h
  · exact fun h => congrArg _ h

/-! ## Two joint commands -/

/-- Payloads that are joint commands. -/
def jointIdl : CdrLib (List Idl.MotorTxPdo) where
  motorTxPdoVector := some
  valveTxPdoVector _ := none
  gripperTxPdoVector _ := none
  pumpTxPdo _ := none
  powerBoardTxPdo _ := none
  forceTorqueTxPdo _ := none

def zeroNumeric : Numeric := ⟨fun _ => 0, fun _ => 0, fun _ => 0⟩

def jointTopic : CdrTopic where
  key := TopicNamespace.jointCmd []
  expectedType := .txCia402
  channel := .motor
  cdrType := .joint

theorem held_new : Held zeroNumeric jointIdl jointTopic .new :=
  @Held.registered _ _ _ _ (fun _ => true) _ rfl

/-- The negative id comes last. -/
def negativeLast : List Idl.MotorTxPdo := [{ ecatId := 7 }, { ecatId := -1 }]

theorem negativeLast_enqueued :
    Enqueued jointTopic (elements zeroNumeric jointIdl .joint negativeLast) freeTransport
      (receive zeroNumeric freeLib jointIdl jointTopic .new negativeLast freeTransport) := by
  refine (enqueued_iff zeroNumeric freeLib jointIdl [] jointTopic .new negativeLast freeTransport
    List.mem_cons_self held_new rfl ⟨rfl, fun device => ?_⟩).mpr ?_
  · show 2 ≤ 8
    decide
  · decide

/-- The negative id comes first. -/
def negativeFirst : List Idl.MotorTxPdo := [{ ecatId := -1 }, { ecatId := 7 }]

/-- Nothing is enqueued. -/
theorem negativeFirst_not_enqueued :
    jointTopic ∈ cdrTopics [] ∧ Held zeroNumeric jointIdl jointTopic .new ∧
      (deserializeCycle zeroNumeric jointIdl .joint negativeFirst).1 = true ∧
      HasRoom freeLib freeTransport
        (deserializeCycle zeroNumeric jointIdl .joint negativeFirst).2.length ∧
      (receive zeroNumeric freeLib jointIdl jointTopic .new negativeFirst freeTransport).pushed =
        [] ∧
      ¬ Enqueued jointTopic (elements zeroNumeric jointIdl .joint negativeFirst) freeTransport
          (receive zeroNumeric freeLib jointIdl jointTopic .new negativeFirst freeTransport) := by
  refine ⟨List.mem_cons_self, held_new, rfl, ⟨rfl, fun device => ?_⟩, rfl, ?_⟩
  · show 2 ≤ 8
    decide
  · unfold Enqueued
    decide

end EcatMiddleware.Zenoh
