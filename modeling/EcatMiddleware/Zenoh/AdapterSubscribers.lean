import EcatMiddleware.Core.AdapterSubscribers
import EcatMiddleware.Core.ConfigTopics
import EcatMiddleware.Lib.Latest
import EcatMiddleware.Zenoh.Subscriber
import Mathlib.Algebra.GroupWithZero.Nat

/-!
# The Zenoh subscriber adapter

Each command key has one subscriber of depth one, for the commands of all its devices. Samples
arrive one after the other; `spinOnce` pushes what is pending to the transmit queues.

* `pushed_spinOnce`: what one `spinOnce` pushes.
* `latest_pushed_iff`: when the latest command of every device survives until then.
-/

namespace EcatMiddleware.Zenoh

open EcatMiddleware.Core Pb Keyed

/-! ## Topics -/

structure Topic where
  key : String
  expectedType : PdoType
  channel : ChannelTx
  deriving DecidableEq, Repr

/-- `topics_`, as the constructor builds it. -/
def topics (ns : TopicNamespace) : List Topic :=
  [{ key := ns.jointCmd, expectedType := .txCia402, channel := .motor },
    { key := ns.motorCmd, expectedType := .txMotor, channel := .motor },
    { key := ns.valveCmd, expectedType := .txHyqKnee, channel := .valve },
    { key := ns.gripperCmd, expectedType := .txGripper, channel := .gripper },
    { key := ns.pumpCmd, expectedType := .txHyqHpu, channel := .pump }]

/-- No two topics expect commands of one type. -/
theorem nodup_expectedType (ns : TopicNamespace) :
    ((topics ns).map (·.expectedType)).Nodup := by
  show [PdoType.txCia402, .txMotor, .txHyqKnee, .txGripper, .txHyqHpu].Nodup
  decide

/-! ## Adapter -/

/-- `subscribers_`, each with the topic that its callback captured, and the transport. -/
structure ZenohAdapterSubscribers (Q : Type) where
  subscribers : List (Topic × ZenohSubscriber EcSlavePdo) := []
  transport : TxTransport Q

/-- `register_subscriber`: the subscriber has the default depth. -/
def registerSubscriber (declared : Topic → Bool) (topic : Topic) :
    Option (Topic × ZenohSubscriber EcSlavePdo) :=
  if declared topic then some (topic, .new) else none

/-- `start` with the Protobuf wire format. -/
def start {Q : Type} (initializeTx : Bool) (declared : Topic → Bool) (ns : TopicNamespace)
    (transport : TxTransport Q) : Option (ZenohAdapterSubscribers Q) :=
  if initializeTx then
    ((topics ns).mapM (registerSubscriber declared)).map fun subscribers =>
      { subscribers, transport }
  else none

section

variable {Q Payload : Type} (lib : ShmLib Q) (parse : Payload → Option EcSlavePdo)

def enqueue (topic : Topic) (pdo : EcSlavePdo) (tx : TxTransport Q) : Bool × TxTransport Q :=
  if pdo.type ≠ topic.expectedType then (false, tx) else push lib topic.channel pdo tx

/-- The callback of a registered subscriber. -/
def callback (topic : Topic) : ZenohSubscriber.Callback EcSlavePdo (TxTransport Q) :=
  fun pdo tx => (.ok (), (enqueue lib topic pdo tx).2)

/-- The loop of `spin_once`. -/
def spinSubscribers : List (Topic × ZenohSubscriber EcSlavePdo) → TxTransport Q →
    List (Topic × ZenohSubscriber EcSlavePdo) × TxTransport Q
  | [], tx => ([], tx)
  | (topic, sub) :: rest, tx =>
    let spun := sub.spinOnce (some (callback lib topic)) tx
    let done := spinSubscribers rest spun.2
    ((topic, spun.1) :: done.1, done.2)

def ZenohAdapterSubscribers.spinOnce (s : ZenohAdapterSubscribers Q) :
    ZenohAdapterSubscribers Q :=
  let done := spinSubscribers lib s.subscribers s.transport
  { subscribers := done.1, transport := done.2 }

/-- What happens between two calls of `spin_once`: a sample arrives on the key of a subscriber, or
the master's side of the transport changes. -/
inductive Event (Q Payload : Type) where
  | sample (index : ℕ) (payload : Payload)
  | master (txIsOk : Bool) (subQueue : DeviceTypeTx → Q)

inductive Op (Q Payload : Type) where
  | event (e : Event Q Payload)
  | spin

def ZenohAdapterSubscribers.onEvent (s : ZenohAdapterSubscribers Q) :
    Event Q Payload → ZenohAdapterSubscribers Q
  | .sample index payload => { s with
      subscribers := s.subscribers.modify index fun entry =>
        (entry.1, entry.2.onSample parse payload) }
  | .master txIsOk subQueue => { s with
      transport := { s.transport with txIsOk, subQueue } }

def ZenohAdapterSubscribers.step (s : ZenohAdapterSubscribers Q) :
    Op Q Payload → ZenohAdapterSubscribers Q
  | .event e => s.onEvent parse e
  | .spin => s.spinOnce lib

def ZenohAdapterSubscribers.run (s : ZenohAdapterSubscribers Q) (ops : List (Op Q Payload)) :
    ZenohAdapterSubscribers Q := ops.foldl (fun s op => s.step lib parse op) s

end

/-! ## What one `spinOnce` pushes -/

/-- The device of an acceptable command: the topic's type and a non-negative index. -/
def deviceOf? (topic : Topic) (pdo : EcSlavePdo) : Option Int32 :=
  if pdo.type = topic.expectedType then
    match pdo.headerIndex? with
    | some index => if index < 0 then none else some index
    | none => none
  else none

/-- Where the command of a device goes. -/
def slotOf (topic : Topic) (pdo : EcSlavePdo) (device : Int32) : DeviceTypeTx × TxSlot :=
  (topic.channel.device, { slaveId := device.toUInt32, pdo })

def slot? (topic : Topic) (pdo : EcSlavePdo) : Option (DeviceTypeTx × TxSlot) :=
  (deviceOf? topic pdo).map (slotOf topic pdo)

theorem type_of_deviceOf? {topic : Topic} {pdo : EcSlavePdo} {device : Int32}
    (h : deviceOf? topic pdo = some device) : pdo.type = topic.expectedType := by
  unfold deviceOf? at h
  split at h
  · assumption
  · cases h

section

variable {Q Payload : Type} {lib : ShmLib Q}

/-- With room in the queues, exactly the acceptable commands are taken. -/
theorem enqueue_of_room {tx : TxTransport Q} {n : ℕ} (h : HasRoom lib tx (n + 1)) (topic : Topic)
    (pdo : EcSlavePdo) :
    (enqueue lib topic pdo tx).2.pushed = tx.pushed ++ (slot? topic pdo).toList ∧
      HasRoom lib (enqueue lib topic pdo tx).2 n := by
  have hsame : HasRoom lib tx n := h.mono (Nat.le_succ n)
  by_cases htype : pdo.type = topic.expectedType
  · have henqueue : enqueue lib topic pdo tx = push lib topic.channel pdo tx :=
      if_neg (not_not.mpr htype)
    rw [henqueue]
    cases hindex : pdo.headerIndex? with
    | none =>
      have hslot : txSlot? pdo = none := by simp [txSlot?, hindex]
      rw [push_of_none hslot]
      exact ⟨by simp [slot?, deviceOf?, hindex], hsame⟩
    | some index =>
      by_cases hneg : index < 0
      · have hslot : txSlot? pdo = none := by simp [txSlot?, hindex, hneg]
        rw [push_of_none hslot]
        exact ⟨by simp [slot?, deviceOf?, hindex, hneg], hsame⟩
      · have hslot : txSlot? pdo = some { slaveId := index.toUInt32, pdo } := by
          simp [txSlot?, hindex, hneg]
        rw [push_of_some hslot h.1]
        obtain ⟨-, hpushed, hroom⟩ := helperPush_of_room h topic.channel.device
          { slaveId := index.toUInt32, pdo }
        exact ⟨by rw [hpushed]; simp [slot?, slotOf, deviceOf?, htype, hindex, hneg], hroom⟩
  · have henqueue : enqueue lib topic pdo tx = (false, tx) := if_pos htype
    rw [henqueue]
    exact ⟨by simp [slot?, deviceOf?, htype], hsame⟩

theorem foldl_callback_of_room (topic : Topic) (messages : List EcSlavePdo) :
    ∀ {tx : TxTransport Q} {n : ℕ}, HasRoom lib tx (messages.length + n) →
      (messages.foldl (fun tx pdo => (callback lib topic pdo tx).2) tx).pushed =
          tx.pushed ++ messages.filterMap (slot? topic) ∧
        HasRoom lib (messages.foldl (fun tx pdo => (callback lib topic pdo tx).2) tx) n := by
  induction messages with
  | nil =>
    intro tx n h
    rw [List.length_nil, Nat.zero_add] at h
    exact ⟨by simp, h⟩
  | cons pdo messages ih =>
    intro tx n h
    have hroom : HasRoom lib tx (messages.length + n + 1) := by
      have heq : (pdo :: messages).length + n = messages.length + n + 1 := by
        rw [List.length_cons]
        omega
      rwa [heq] at h
    obtain ⟨hpushed, hleft⟩ := enqueue_of_room hroom topic pdo
    obtain ⟨hrest, hn⟩ := ih hleft
    refine ⟨?_, hn⟩
    rw [List.foldl_cons]
    refine hrest.trans ?_
    show (enqueue lib topic pdo tx).2.pushed ++ _ = _
    rw [hpushed, List.append_assoc]
    cases hslot : slot? topic pdo <;> simp [hslot]

/-- The commands that wait for the next `spinOnce`. -/
def pendingCount (subscribers : List (Topic × ZenohSubscriber EcSlavePdo)) : ℕ :=
  (subscribers.map fun entry => entry.2.pending.length).sum

/-- The slots of the pending commands, in the order of the loop. -/
def pendingSlots (subscribers : List (Topic × ZenohSubscriber EcSlavePdo)) :
    List (DeviceTypeTx × TxSlot) :=
  subscribers.flatMap fun entry => entry.2.pending.filterMap (slot? entry.1)

theorem pushed_spinSubscribers (subscribers : List (Topic × ZenohSubscriber EcSlavePdo)) :
    ∀ {tx : TxTransport Q}, HasRoom lib tx (pendingCount subscribers) →
      (spinSubscribers lib subscribers tx).2.pushed = tx.pushed ++ pendingSlots subscribers := by
  induction subscribers with
  | nil => exact fun _ => (List.append_nil _).symm
  | cons entry rest ih =>
    intro tx h
    obtain ⟨topic, sub⟩ := entry
    have hcount : pendingCount ((topic, sub) :: rest) = sub.pending.length + pendingCount rest := by
      simp [pendingCount]
    rw [hcount] at h
    obtain ⟨hpushed, hleft⟩ := foldl_callback_of_room topic sub.pending h
    show (spinSubscribers lib rest _).2.pushed = _
    rw [ZenohSubscriber.spinOnce_some, ih hleft, hpushed, List.append_assoc]
    simp [pendingSlots]

/-- The slots that the queues took between two states. -/
def pushedSince (s s' : ZenohAdapterSubscribers Q) : List (DeviceTypeTx × TxSlot) :=
  s'.transport.pushed.drop s.transport.pushed.length

theorem pushed_spinOnce {s : ZenohAdapterSubscribers Q}
    (h : HasRoom lib s.transport (pendingCount s.subscribers)) :
    pushedSince s (s.spinOnce lib) = pendingSlots s.subscribers := by
  unfold pushedSince
  have hpushed : (s.spinOnce lib).transport.pushed =
      s.transport.pushed ++ pendingSlots s.subscribers := pushed_spinSubscribers s.subscribers h
  rw [hpushed, List.drop_left]

end

/-! ## Registered subscribers -/

section

variable {Q Payload : Type} {lib : ShmLib Q} {parse : Payload → Option EcSlavePdo}
  {ns : TopicNamespace}

/-- The topics and depths of the subscribers. -/
def shape (s : ZenohAdapterSubscribers Q) : List (Topic × ℕ) :=
  s.subscribers.map fun entry => (entry.1, entry.2.historyDepth)

theorem registered_eq {declared : Topic → Bool} (l : List Topic) :
    ∀ {subscribers : List (Topic × ZenohSubscriber EcSlavePdo)},
      l.mapM (registerSubscriber declared) = some subscribers →
        subscribers = l.map fun topic => (topic, .new) := by
  induction l with
  | nil =>
    intro subscribers h
    exact (Option.some.inj h).symm
  | cons topic l ih =>
    intro subscribers h
    rw [List.mapM_cons] at h
    obtain ⟨first, hfirst, h⟩ := Option.bind_eq_some_iff.mp h
    obtain ⟨rest, hrest, h⟩ := Option.bind_eq_some_iff.mp h
    unfold registerSubscriber at hfirst
    split at hfirst
    · rw [← Option.some.inj h, ← Option.some.inj hfirst, ih hrest, List.map_cons]
    · cases hfirst

/-- **`start`** registers one subscriber of depth one for each topic. -/
theorem shape_start {initializeTx : Bool} {declared : Topic → Bool}
    {transport : TxTransport Q} {s : ZenohAdapterSubscribers Q}
    (h : start initializeTx declared ns transport = some s) :
    shape s = (topics ns).map fun topic => (topic, 1) := by
  unfold start at h
  split at h
  · obtain ⟨subscribers, hsubscribers, rfl⟩ := Option.map_eq_some_iff.mp h
    unfold shape
    rw [registered_eq _ hsubscribers, List.map_map]
    rfl
  · cases h

theorem fst_spinSubscribers (subscribers : List (Topic × ZenohSubscriber EcSlavePdo)) :
    ∀ tx : TxTransport Q, (spinSubscribers lib subscribers tx).1 =
      subscribers.map fun entry => (entry.1, entry.2.drained) := by
  induction subscribers with
  | nil => exact fun _ => rfl
  | cons entry rest ih =>
    intro tx
    show (entry.1, entry.2.drained) :: (spinSubscribers lib rest _).1 = _
    rw [ih, List.map_cons]

theorem subscribers_spinOnce (s : ZenohAdapterSubscribers Q) :
    (s.spinOnce lib).subscribers = s.subscribers.map fun entry => (entry.1, entry.2.drained) :=
  fst_spinSubscribers s.subscribers s.transport

theorem shape_onEvent (s : ZenohAdapterSubscribers Q) (e : Event Q Payload) :
    shape (s.onEvent parse e) = shape s := by
  cases e with
  | sample index payload =>
    apply List.ext_getElem?
    intro j
    show ((s.subscribers.modify index _).map _)[j]? = (s.subscribers.map _)[j]?
    rw [List.getElem?_map, List.getElem?_map, List.getElem?_modify]
    cases s.subscribers[j]? with
    | none => simp
    | some entry => by_cases hj : index = j <;> simp [hj]
  | master txIsOk subQueue => rfl

theorem shape_step (s : ZenohAdapterSubscribers Q) (op : Op Q Payload) :
    shape (s.step lib parse op) = shape s := by
  cases op with
  | event e => exact shape_onEvent s e
  | spin =>
    show (s.spinOnce lib).subscribers.map _ = _
    rw [subscribers_spinOnce, List.map_map]
    rfl

/-- No run changes the topics or depths. -/
theorem shape_run (ops : List (Op Q Payload)) : ∀ s : ZenohAdapterSubscribers Q,
    shape (s.run lib parse ops) = shape s := by
  induction ops with
  | nil => exact fun _ => rfl
  | cons op ops ih =>
    intro s
    show shape ((s.step lib parse op).run lib parse ops) = _
    rw [ih, shape_step]

theorem run_append (ops₁ ops₂ : List (Op Q Payload)) (s : ZenohAdapterSubscribers Q) :
    s.run lib parse (ops₁ ++ ops₂) = (s.run lib parse ops₁).run lib parse ops₂ :=
  List.foldl_append

/-! ## One window -/

/-- The payloads that arrive at one subscriber. -/
def arrived (index : ℕ) (window : List (Event Q Payload)) : List Payload :=
  window.filterMap fun
    | .sample index' payload => if index' = index then some payload else none
    | .master _ _ => none

/-- What a window does to one subscriber. -/
theorem getElem?_run_window (index : ℕ) (window : List (Event Q Payload)) :
    ∀ s : ZenohAdapterSubscribers Q,
      (s.run lib parse (window.map .event)).subscribers[index]? =
        s.subscribers[index]?.map fun entry =>
          (entry.1, (arrived index window).foldl (fun sub payload => sub.onSample parse payload)
            entry.2) := by
  induction window with
  | nil =>
    intro s
    simp [arrived, ZenohAdapterSubscribers.run]
  | cons e window ih =>
    intro s
    show ((s.onEvent parse e).run lib parse (window.map .event)).subscribers[index]? = _
    rw [ih]
    cases e with
    | sample index' payload =>
      show (s.subscribers.modify index' _)[index]?.map _ = _
      rw [List.getElem?_modify]
      cases s.subscribers[index]? with
      | none => rfl
      | some entry => by_cases hindex : index' = index <;> simp [arrived, hindex]
    | master txIsOk subQueue => rfl

/-- The commands of a window at one subscriber. -/
def commands (parse : Payload → Option EcSlavePdo) (index : ℕ) (window : List (Event Q Payload)) :
    List EcSlavePdo := (arrived index window).filterMap parse

/-- The last command of the window since the last `spinOnce` is what is pending. -/
theorem pending_of_window {s : ZenohAdapterSubscribers Q} {index : ℕ} {topic : Topic}
    {sub : ZenohSubscriber EcSlavePdo} (window : List (Event Q Payload))
    (hentry : s.subscribers[index]? = some (topic, sub)) (hpending : sub.pending = [])
    (hdepth : sub.historyDepth = 1) :
    ∃ sub', (s.run lib parse (window.map .event)).subscribers[index]? = some (topic, sub') ∧
      sub'.pending = (commands parse index window).rtake 1 := by
  refine ⟨_, by rw [getElem?_run_window, hentry]; rfl, ?_⟩
  rw [ZenohSubscriber.pending_foldl_onSample, hpending, hdepth, List.nil_append]
  rfl

/-- The state at the end of a window that begins with a `spinOnce`, after any run. -/
def windowEnd (lib : ShmLib Q) (parse : Payload → Option EcSlavePdo)
    (started : ZenohAdapterSubscribers Q) (before : List (Op Q Payload))
    (window : List (Event Q Payload)) : ZenohAdapterSubscribers Q :=
  started.run lib parse (before ++ .spin :: window.map .event)

variable (lib parse) {started : ZenohAdapterSubscribers Q} (before : List (Op Q Payload))
  (window : List (Event Q Payload))

/-- At the end of a window each subscriber has the last command that arrived at it. -/
theorem getElem?_windowEnd (hstarted : shape started = (topics ns).map fun topic => (topic, 1))
    {index : ℕ} {topic : Topic} (hindex : (topics ns)[index]? = some topic) :
    ∃ sub, (windowEnd lib parse started before window).subscribers[index]? = some (topic, sub) ∧
      sub.pending = (commands parse index window).rtake 1 := by
  let spun := (started.run lib parse before).spinOnce lib
  have hend : windowEnd lib parse started before window =
      spun.run lib parse (window.map .event) := run_append before _ started
  have hshape : shape (started.run lib parse before) = (topics ns).map fun topic => (topic, 1) :=
    (shape_run before started).trans hstarted
  have hentry := congrArg (·[index]?) hshape
  simp only [shape, List.getElem?_map, hindex, Option.map_some, Option.map_eq_some_iff] at hentry
  obtain ⟨⟨topic', sub⟩, hsub, heq⟩ := hentry
  obtain ⟨rfl, hdepth⟩ := Prod.mk.inj heq
  have hspun : spun.subscribers[index]? = some (topic', sub.drained) := by
    show ((started.run lib parse before).spinOnce lib).subscribers[index]? = _
    rw [subscribers_spinOnce, List.getElem?_map, hsub]
    rfl
  rw [hend]
  exact pending_of_window window hspun rfl hdepth

theorem mem_pendingSlots {x : DeviceTypeTx × TxSlot}
    (hstarted : shape started = (topics ns).map fun topic => (topic, 1)) :
    x ∈ pendingSlots (windowEnd lib parse started before window).subscribers ↔
      ∃ index topic, (topics ns)[index]? = some topic ∧
        ∃ pdo ∈ (commands parse index window).rtake 1, slot? topic pdo = some x := by
  have hshape : shape (windowEnd lib parse started before window) =
      (topics ns).map fun topic => (topic, 1) := (shape_run _ started).trans hstarted
  unfold pendingSlots
  rw [List.mem_flatMap]
  constructor
  · rintro ⟨entry, hentry, hx⟩
    obtain ⟨index, hentry⟩ := List.mem_iff_getElem?.mp hentry
    have htopic := congrArg (·[index]?) hshape
    simp only [shape, List.getElem?_map, hentry, Option.map_some] at htopic
    obtain ⟨topic, hindex, -⟩ := Option.map_eq_some_iff.mp htopic.symm
    obtain ⟨sub, hsub, hpending⟩ := getElem?_windowEnd lib parse before window hstarted hindex
    obtain rfl : entry = (topic, sub) := Option.some.inj (hentry.symm.trans hsub)
    rw [hpending] at hx
    exact ⟨index, topic, hindex, List.mem_filterMap.mp hx⟩
  · rintro ⟨index, topic, htopic, pdo, hpdo, hslot⟩
    obtain ⟨sub, hsub, hpending⟩ := getElem?_windowEnd lib parse before window hstarted htopic
    refine ⟨(topic, sub), List.mem_of_getElem? hsub, List.mem_filterMap.mpr ⟨pdo, ?_, hslot⟩⟩
    rwa [hpending]

/-- A command is pushed for a device exactly when it is the last of its window: the type of a
command tells its topic. -/
theorem slotOf_mem_iff (hstarted : shape started = (topics ns).map fun topic => (topic, 1))
    {index : ℕ} {topic : Topic} (hindex : (topics ns)[index]? = some topic) {pdo : EcSlavePdo}
    {device : Int32} (hdevice : deviceOf? topic pdo = some device) :
    slotOf topic pdo device ∈
        pendingSlots (windowEnd lib parse started before window).subscribers ↔
      pdo ∈ (commands parse index window).rtake 1 := by
  rw [mem_pendingSlots lib parse before window hstarted]
  constructor
  · rintro ⟨index', topic', hindex', pdo', hpdo', hslot⟩
    obtain ⟨device', hdevice', heq⟩ := Option.map_eq_some_iff.mp hslot
    have hpdo : pdo' = pdo := congrArg (·.2.pdo) heq
    rw [hpdo] at hpdo' hdevice'
    have htype := (type_of_deviceOf? hdevice').symm.trans (type_of_deviceOf? hdevice)
    have htypes : ((topics ns).map (·.expectedType))[index']? =
        ((topics ns).map (·.expectedType))[index]? := by
      rw [List.getElem?_map, List.getElem?_map, hindex, hindex', Option.map_some, Option.map_some,
        htype]
    have hlt : index' < ((topics ns).map (·.expectedType)).length := by
      rw [List.length_map]
      exact (List.getElem?_eq_some_iff.mp hindex').1
    rwa [(List.getElem?_inj hlt (nodup_expectedType ns)).mp htypes] at hpdo'
  · intro hpdo
    exact ⟨index, topic, hindex, pdo, hpdo, by rw [slot?, hdevice]; rfl⟩

/-- For every device with an acceptable command among the samples, the latest one is pushed. -/
def LatestPushed (topic : Topic) (samples : List EcSlavePdo)
    (pushed : List (DeviceTypeTx × TxSlot)) : Prop :=
  ∀ device pdo, latest (deviceOf? topic) device samples = some pdo →
    slotOf topic pdo device ∈ pushed

/-- Every acceptable sample is for the device of the last sample. -/
def Undisplaced (topic : Topic) (samples : List EcSlavePdo) : Prop :=
  ∀ last, samples.getLast? = some last → ∀ pdo ∈ samples, ∀ device,
    deviceOf? topic pdo = some device → deviceOf? topic last = some device

theorem latestPushed_rtake_iff {topic : Topic} {samples : List EcSlavePdo} :
    (∀ device pdo, latest (deviceOf? topic) device samples = some pdo → pdo ∈ samples.rtake 1) ↔
      Undisplaced topic samples := by
  rcases List.eq_nil_or_concat' samples with rfl | ⟨init, last, rfl⟩
  · simp [Undisplaced]
  · rw [KeepLast.rtake_one_concat]
    constructor
    · intro h last' hlast pdo hpdo device hdevice
      rw [List.getLast?_concat] at hlast
      obtain rfl := Option.some.inj hlast
      obtain ⟨held, hheld⟩ := exists_latest (deviceOf? topic) hpdo hdevice
      have heq := List.mem_singleton.mp (h device held hheld)
      rw [← heq]
      exact key_of_latest (deviceOf? topic) hheld
    · intro h device pdo hpdo
      have hlast := h last List.getLast?_concat pdo (mem_of_latest _ hpdo) device
        (key_of_latest _ hpdo)
      rw [latest_concat_self (deviceOf? topic) init hlast] at hpdo
      exact List.mem_singleton.mpr (Option.some.inj hpdo).symm

end

/-- **Displacement.** Over one window, after any run, the latest command of every device is pushed
exactly when the window has no acceptable command for another device than its last sample's. -/
theorem latest_pushed_iff {Q Payload : Type} (lib : ShmLib Q)
    (parse : Payload → Option EcSlavePdo) (declared : Topic → Bool) (ns : TopicNamespace)
    (transport : TxTransport Q) (started : ZenohAdapterSubscribers Q)
    (before : List (Op Q Payload)) (window : List (Event Q Payload)) (index : ℕ) (topic : Topic)
    (hstart : start true declared ns transport = some started)
    (hindex : (topics ns)[index]? = some topic)
    (hroom : HasRoom lib (windowEnd lib parse started before window).transport
      (pendingCount (windowEnd lib parse started before window).subscribers)) :
    LatestPushed topic (commands parse index window)
        (pushedSince (windowEnd lib parse started before window)
          ((windowEnd lib parse started before window).spinOnce lib)) ↔
      Undisplaced topic (commands parse index window) := by
  have hstarted := shape_start hstart
  rw [pushed_spinOnce hroom, ← latestPushed_rtake_iff]
  unfold LatestPushed
  refine forall_congr' fun device => forall_congr' fun pdo => ?_
  refine imp_congr_right fun hlatest => ?_
  exact slotOf_mem_iff lib parse before window hstarted hindex (key_of_latest _ hlatest)

/-! ## Two devices on one key -/

/-- A shared memory that takes everything. -/
def freeLib : ShmLib Unit where
  push _ _ := (true, ())
  room _ := 8
  push_taken _ _ _ := rfl
  room_push _ _ := by decide

def freeTransport : TxTransport Unit where
  txIsOk := true
  subQueue _ := ()

/-- A motor command for one device. -/
def motorCommand (device : Int32) : EcSlavePdo where
  type := .txMotor
  header? := some { index? := some device }

/-- The adapter after `start`. -/
def freeAdapter : ZenohAdapterSubscribers Unit where
  subscribers := (topics []).map fun topic => (topic, .new)
  transport := freeTransport

def motorTopic : Topic where
  key := TopicNamespace.motorCmd []
  expectedType := .txMotor
  channel := .motor

/-- Two commands for one motor. -/
def oneMotor : List (Event Unit EcSlavePdo) :=
  [.sample 1 (motorCommand 7), .sample 1 (motorCommand 7)]

theorem oneMotor_latest_pushed :
    LatestPushed motorTopic (commands some 1 oneMotor)
      (pushedSince (windowEnd freeLib some freeAdapter [] oneMotor)
        ((windowEnd freeLib some freeAdapter [] oneMotor).spinOnce freeLib)) := by
  refine (latest_pushed_iff freeLib some (fun _ => true) [] freeTransport freeAdapter [] oneMotor 1
    motorTopic rfl rfl ⟨rfl, fun device => ?_⟩).mpr ?_
  · show 1 ≤ 8
    decide
  · intro last hlast pdo hpdo device hdevice
    have hlast' : motorCommand 7 = last := Option.some.inj hlast
    have hpdo' : pdo = motorCommand 7 := by simpa [commands, arrived, oneMotor] using hpdo
    rw [← hlast', ← hpdo']
    exact hdevice

/-- One command for each of two motors. -/
def twoMotors : List (Event Unit EcSlavePdo) :=
  [.sample 1 (motorCommand 7), .sample 1 (motorCommand 8)]

/-- The command of the first motor is dropped. -/
theorem twoMotors_displaced :
    ¬ LatestPushed motorTopic (commands some 1 twoMotors)
        (pushedSince (windowEnd freeLib some freeAdapter [] twoMotors)
          ((windowEnd freeLib some freeAdapter [] twoMotors).spinOnce freeLib)) := by
  intro h
  have hpushed := h 7 (motorCommand 7) rfl
  have hnot : slotOf motorTopic (motorCommand 7) 7 ∉
      pushedSince (windowEnd freeLib some freeAdapter [] twoMotors)
        ((windowEnd freeLib some freeAdapter [] twoMotors).spinOnce freeLib) := by decide
  exact hnot hpushed

end EcatMiddleware.Zenoh
