import EcatMiddleware.Core.AdapterRun
import EcatMiddleware.Zenoh.Ros2Cycle

/-!
# What a Zenoh topic publishes

`ZenohAdapterBridgePublisher` collects the PDOs of a cycle and, when the cycle is valid, puts one
payload for each of them (Protobuf) or one for all (ROS 2 CDR).

* `publishes_cycle`: what one cycle of calls hands to the session, also up to an exception.
* `published_run`: what a topic has handed to the session after any run of the adapter.
-/

namespace EcatMiddleware.Zenoh

open EcatMiddleware.Core Dds FoldExcept Pb

inductive WireFormat where
  | protobuf
  | ros2Cdr
  deriving DecidableEq, Repr

/-! ## Serializers -/

/-- The Protobuf library, fast-cdr, and whether the build has the support for ROS 2. -/
structure SerializerLib where
  ros2Support : Bool
  num : Numeric
  encode : (messageType : Ros2MessageType) → messageType.Msg → Option (List UInt8)
  byteSizeLong : EcSlavePdo → ℕ
  serializeToArray : EcSlavePdo → Option (List UInt8)

/-- `std::numeric_limits<int>::max()`. -/
def intMax : ℕ := 2147483647

variable (lib : SerializerLib)

/-- `ProtobufSerializer::serialize`, `none` where it returns false. -/
def protobufSerialize (message : EcSlavePdo) : Option (List UInt8) :=
  if lib.byteSizeLong message > intMax then none else lib.serializeToArray message

structure Serializer where
  wireFormat : WireFormat
  ros2 : Ros2MessageType
  deriving DecidableEq, Repr

namespace Serializer

/-- The constructor, with what its exception says. -/
def new (wireFormat : WireFormat) (ros2 : Ros2MessageType) : Except String Serializer :=
  if !lib.ros2Support && wireFormat = .ros2Cdr then
    .error "ROS 2 CDR support was not compiled in."
  else .ok ⟨wireFormat, ros2⟩

variable (serializer : Serializer)

def serialize (message : EcSlavePdo) : Option (List UInt8) :=
  if serializer.wireFormat ≠ .protobuf then none else protobufSerialize lib message

/-- `serialize_cycle` into an empty payload. -/
def serializeCycle (messages : List EcSlavePdo) : Except CxxException (Bool × List UInt8) :=
  if lib.ros2Support && serializer.wireFormat = .ros2Cdr then
    Zenoh.serializeCycle lib.num lib.encode serializer.ros2 messages []
  else .ok (false, [])

end Serializer

/-! ## The publisher -/

/-- `publisher` lists the payloads that were handed to the session, each with whether the `put`
succeeded; `none` before `init`. -/
structure ZenohAdapterBridgePublisher where
  publisher : Option (List (List UInt8 × Bool)) := none
  serializer : Option Serializer := none
  messages : List EcSlavePdo := []
  wireFormat : WireFormat := .protobuf
  deriving DecidableEq, Repr

namespace ZenohAdapterBridgePublisher

variable (b : ZenohAdapterBridgePublisher)

/-- `init`, with the flag that it returns. `declared` is whether the session takes the key; what the
serializer throws is not caught. -/
def init (declared : Bool) (wireFormat : WireFormat) (ros2MessageType : Ros2MessageType) :
    Except String (Bool × ZenohAdapterBridgePublisher) := do
  let b := { b with wireFormat := wireFormat }
  if declared then
    let serializer ← Serializer.new lib wireFormat ros2MessageType
    .ok (true, { b with publisher := some [], serializer := some serializer })
  else .ok (false, b)

/-- `ZenohPublisher::publish`, with the flag that it returns: false when `put` throws. -/
def publish (put : Bool) (payload : List UInt8) : Bool × ZenohAdapterBridgePublisher :=
  (put, { b with publisher := b.publisher.map (· ++ [(payload, put)]) })

def beginCycle : ZenohAdapterBridgePublisher := { b with messages := [] }

def consume (pdo : EcSlavePdo) : ZenohAdapterBridgePublisher :=
  { b with messages := b.messages ++ [pdo] }

/-- The loop over the messages of a Protobuf cycle. Either failure is logged, and the loop goes
on. -/
def publishEach (serializer : Serializer) : (ℕ → Bool) → List EcSlavePdo →
    ZenohAdapterBridgePublisher → ZenohAdapterBridgePublisher
  | _, [], b => b
  | puts, message :: messages, b =>
    match serializer.serialize lib message with
    | none => publishEach serializer puts messages b
    | some payload =>
      publishEach serializer (fun k => puts (k + 1)) messages (b.publish (puts 0) payload).2

/-- `end_cycle`; `puts` tells which of its puts succeed. -/
def endCycle (puts : ℕ → Bool) (valid : Bool) : Except CxxException ZenohAdapterBridgePublisher :=
  match b.serializer with
  | none => .ok b
  | some serializer =>
    if !valid || b.publisher.isNone || b.messages.isEmpty then .ok b
    else match b.wireFormat with
      | .ros2Cdr => do
        let (serialized, payload) ← serializer.serializeCycle lib b.messages
        .ok (if serialized then (b.publish (puts 0) payload).2 else b)
      | .protobuf => .ok (publishEach lib serializer puts b.messages b)

/-- A call of the adapter, with what the session does in it. -/
def receive (call : (ℕ → Bool) × Call) : Except CxxException ZenohAdapterBridgePublisher :=
  match call.2 with
  | .beginCycle => .ok b.beginCycle
  | .consume pdo => .ok (b.consume pdo)
  | .endCycle valid => b.endCycle lib call.1 valid

/-- The calls of a run. -/
def receiveAll (calls : List ((ℕ → Bool) × Call)) :
    Except CxxException ZenohAdapterBridgePublisher :=
  calls.foldlM (receive lib) b

/-! ## One cycle -/

variable {lib}

/-- The publisher of a topic that `init` has set up, and what it has handed to the session. -/
structure Ready (lib : SerializerLib) (wireFormat : WireFormat)
    (ros2MessageType : Ros2MessageType) (published : List (List UInt8 × Bool)) : Prop where
  publisher : b.publisher = some published
  serializer : b.serializer = some ⟨wireFormat, ros2MessageType⟩
  format : b.wireFormat = wireFormat
  support : wireFormat = .ros2Cdr → lib.ros2Support = true

/-- The payloads of a valid cycle for its PDOs. -/
def Encodes (lib : SerializerLib) (ros2MessageType : Ros2MessageType) (pdos : List EcSlavePdo)
    (payloads : List (List UInt8)) : WireFormat → Prop
  | .protobuf => payloads = pdos.filterMap (protobufSerialize lib)
  | .ros2Cdr => ∃ message, ros2MessageType.serialized lib.num pdos = .ok message ∧
      (message.isSome = true ↔ Acceptable ros2MessageType pdos) ∧
      payloads = (message.bind (lib.encode ros2MessageType)).toList

variable {b} {wireFormat : WireFormat} {ros2MessageType : Ros2MessageType}
  {published : List (List UInt8 × Bool)} {pdos : List EcSlavePdo}

theorem ready_of_init (h : ({} : ZenohAdapterBridgePublisher).init lib true wireFormat
    ros2MessageType = .ok (true, b)) : b.Ready lib wireFormat ros2MessageType [] := by
  obtain ⟨serializer, hnew, h⟩ := bind_eq_ok.mp h
  obtain ⟨-, rfl⟩ := Prod.mk.inj (Except.ok.inj h)
  unfold Serializer.new at hnew
  split_ifs at hnew with hsupport
  obtain rfl := Except.ok.inj hnew
  refine ⟨rfl, rfl, rfl, fun hformat => ?_⟩
  by_contra hno
  exact hsupport (by simp [hformat, hno])

theorem foldl_consume (fed : List ((ℕ → Bool) × EcSlavePdo)) :
    ∀ b : ZenohAdapterBridgePublisher,
      b.receiveAll lib (fed.map fun f => (f.1, .consume f.2)) =
        .ok { b with messages := b.messages ++ fed.map Prod.snd } := by
  induction fed with
  | nil =>
    intro b
    rw [List.map_nil, List.map_nil, List.append_nil]
    rfl
  | cons f fed ih =>
    intro b
    show (b.consume f.2).receiveAll lib (fed.map fun f => (f.1, .consume f.2)) = _
    rw [ih]
    show Except.ok { b with messages := b.messages ++ [f.2] ++ fed.map Prod.snd } = _
    rw [List.append_assoc, List.singleton_append]
    rfl

theorem receiveAll_append (calls calls' : List ((ℕ → Bool) × Call)) :
    b.receiveAll lib (calls ++ calls') =
      b.receiveAll lib calls >>= fun b => b.receiveAll lib calls' := by
  unfold receiveAll
  exact List.foldlM_append

/-- The calls of a cycle before its end. -/
theorem receiveAll_body (e : ℕ → Bool) (fed : List ((ℕ → Bool) × EcSlavePdo)) :
    b.receiveAll lib ((e, .beginCycle) :: fed.map fun f => (f.1, .consume f.2)) =
      .ok { b with messages := fed.map Prod.snd } := by
  show b.beginCycle.receiveAll lib (fed.map fun f => (f.1, .consume f.2)) = _
  rw [foldl_consume]
  rfl

/-- The calls of a cycle are those of its end. -/
theorem receiveAll_cycle (e : ℕ → Bool) (fed : List ((ℕ → Bool) × EcSlavePdo)) (puts : ℕ → Bool)
    (valid : Bool) :
    b.receiveAll lib ((e, .beginCycle) :: (fed.map (fun f => (f.1, .consume f.2)) ++
        [(puts, .endCycle valid)])) =
      endCycle lib { b with messages := fed.map Prod.snd } puts valid := by
  rw [← List.cons_append, receiveAll_append, receiveAll_body]
  show (do let b ← endCycle lib { b with messages := fed.map Prod.snd } puts valid; .ok b) = _
  cases endCycle lib { b with messages := fed.map Prod.snd } puts valid <;> rfl

theorem Ready.publish (h : b.Ready lib wireFormat ros2MessageType published) (put : Bool)
    (payload : List UInt8) :
    (b.publish put payload).2.Ready lib wireFormat ros2MessageType
      (published ++ [(payload, put)]) := by
  refine ⟨?_, h.serializer, h.format, h.support⟩
  show b.publisher.map _ = _
  rw [h.publisher]
  rfl

/-- The loop over the messages of a valid Protobuf cycle. -/
theorem ready_publishEach {serializer : Serializer} (hformat : serializer.wireFormat = .protobuf)
    (pdos : List EcSlavePdo) :
    ∀ (puts : ℕ → Bool) {b : ZenohAdapterBridgePublisher} {published : List (List UInt8 × Bool)},
      b.Ready lib wireFormat ros2MessageType published →
      ∃ tried, tried.map Prod.fst = pdos.filterMap (protobufSerialize lib) ∧
        (publishEach lib serializer puts pdos b).Ready lib wireFormat ros2MessageType
          (published ++ tried) := by
  have hserialize : ∀ message, serializer.serialize lib message = protobufSerialize lib message :=
    fun message => if_neg (not_not.mpr hformat)
  induction pdos with
  | nil =>
    intro puts b published h
    exact ⟨[], rfl, by rwa [List.append_nil]⟩
  | cons pdo pdos ih =>
    intro puts b published h
    rw [publishEach, hserialize, List.filterMap_cons]
    cases protobufSerialize lib pdo with
    | none => exact ih puts h
    | some payload =>
      obtain ⟨tried, htried, hready⟩ := ih (fun k => puts (k + 1)) (h.publish (puts 0) payload)
      refine ⟨(payload, puts 0) :: tried, ?_, ?_⟩
      · rw [List.map_cons, htried]
      · rwa [List.append_assoc, List.singleton_append] at hready

/-- **The end of a cycle.** -/
theorem endCycle_spec {b' : ZenohAdapterBridgePublisher} {puts : ℕ → Bool} {valid : Bool}
    (h : b.Ready lib wireFormat ros2MessageType published)
    (hend : b.endCycle lib puts valid = .ok b') :
    ∃ tried, b'.Ready lib wireFormat ros2MessageType (published ++ tried) ∧
      (valid = true ∧ b.messages ≠ [] →
        Encodes lib ros2MessageType b.messages (tried.map Prod.fst) wireFormat) ∧
      (¬ (valid = true ∧ b.messages ≠ []) → tried = []) := by
  unfold endCycle at hend
  rw [h.serializer, h.publisher, h.format] at hend
  by_cases hcycle : valid = true ∧ b.messages ≠ []
  · have hguard : (!valid || (some published).isNone || b.messages.isEmpty) = false := by
      simp [hcycle.1, hcycle.2]
    simp only [hguard, Bool.false_eq_true, if_false] at hend
    cases wireFormat with
    | protobuf =>
      obtain rfl := Except.ok.inj hend
      have hformat : (⟨.protobuf, ros2MessageType⟩ : Serializer).wireFormat = .protobuf := rfl
      obtain ⟨tried, htried, hready⟩ := ready_publishEach hformat b.messages puts h
      exact ⟨tried, hready, fun _ => htried, fun hno => absurd hcycle hno⟩
    | ros2Cdr =>
      obtain ⟨⟨serialized, payload⟩, hserialize, hend⟩ := bind_eq_ok.mp hend
      unfold Serializer.serializeCycle at hserialize
      rw [h.support rfl, Bool.true_and, if_pos (decide_eq_true rfl)] at hserialize
      obtain ⟨message, hmessage, hserialize⟩ := bind_eq_ok.mp hserialize
      have haccepts := (serialized_accepts hmessage).isSome_iff
      have hpayload : (if serialized then [payload] else []) =
          (message.bind (lib.encode ros2MessageType)).toList := by
        cases message with
        | none =>
          obtain ⟨rfl, -⟩ := Prod.mk.inj (Except.ok.inj hserialize)
          rfl
        | some msg =>
          obtain hidl : serializeIdl (lib.encode ros2MessageType) msg (clear []) =
            (serialized, payload) := Except.ok.inj hserialize
          unfold serializeIdl at hidl
          rw [Option.bind_some]
          cases hdata : lib.encode ros2MessageType msg with
          | none =>
            rw [hdata] at hidl
            obtain ⟨rfl, -⟩ := Prod.mk.inj hidl
            rfl
          | some data =>
            rw [hdata] at hidl
            obtain ⟨rfl, rfl⟩ := Prod.mk.inj hidl
            rfl
      rw [← Except.ok.inj hend]
      refine ⟨if serialized then [(payload, puts 0)] else [], ?_, fun _ => ⟨message, hmessage,
        haccepts, ?_⟩, fun hno => absurd hcycle hno⟩
      · cases serialized with
        | false => rwa [if_neg Bool.false_ne_true, if_neg Bool.false_ne_true, List.append_nil]
        | true => exact h.publish (puts 0) payload
      · rw [← hpayload]
        cases serialized <;> rfl
  · have hguard : (!valid || (some published).isNone || b.messages.isEmpty) = true := by
      by_contra hne
      simp at hne
      exact hcycle hne
    simp only [hguard, if_true] at hend
    obtain rfl := Except.ok.inj hend
    refine ⟨[], ?_, fun hyes => absurd hyes hcycle, fun _ => rfl⟩
    rwa [List.append_nil]

/-- No PDOs, no payload, in either format. -/
theorem encodes_nil (lib : SerializerLib) (ros2MessageType : Ros2MessageType)
    (wireFormat : WireFormat) : Encodes lib ros2MessageType [] [] wireFormat := by
  cases wireFormat with
  | protobuf => rfl
  | ros2Cdr =>
    have hnone : ros2MessageType.serialized lib.num [] = .ok none := by
      cases ros2MessageType <;> rfl
    exact ⟨none, hnone, (serialized_accepts hnone).isSome_iff, rfl⟩

/-! ## Runs -/

/-- Every configured id that the adapter keeps is drained in the cycle, on one of the channels of
the topic. -/
def Complete (channels : List ChannelRx) (ids : List EcatId) : Op → Prop
  | .register _ _ => False
  | .spin isOk queues => isOk = true ∧
      ∀ id ∈ ids, id.toNat < maxEcatIds → DrainedOn queues channels id.toNat

/-- The payloads of a step: those of one fresh PDO for each id that the adapter keeps, or none at
all. -/
def Publishes (lib : SerializerLib) (wireFormat : WireFormat) (ros2MessageType : Ros2MessageType)
    (channels : List ChannelRx) (ids : List EcatId) (op : Op) (payloads : List (List UInt8)) :
    Prop :=
  (Complete channels ids op → ∃ isOk queues slots pdos, op = .spin isOk queues ∧
    slots.Nodup ∧ (∀ id : Slot, id ∈ slots ↔ ∃ x ∈ ids, x.toNat = id.val) ∧
    List.Forall₂ (FirstDelivered queues channels) slots pdos ∧
    Encodes lib ros2MessageType pdos payloads wireFormat) ∧
  (¬ Complete channels ids op → payloads = [])

theorem publishes_nil {channels : List ChannelRx} {ids : List EcatId} {op : Op}
    (h : ¬ Complete channels ids op) :
    Publishes lib wireFormat ros2MessageType channels ids op [] :=
  ⟨fun hcomplete => absurd hcomplete h, fun _ => rfl⟩

theorem Ready.withMessages (h : b.Ready lib wireFormat ros2MessageType published)
    (messages : List EcSlavePdo) :
    Ready { b with messages := messages } lib wireFormat ros2MessageType published :=
  ⟨h.publisher, h.serializer, h.format, h.support⟩

section Cycle

variable {pre mid : List Op} {channels : List ChannelRx} {ids : List EcatId} (hne : ids ≠ [])
  {queues : RxQueues}

include hne in
/-- **One cycle of the adapter**, as far as its calls are made. -/
theorem publishes_cycle (h : b.Ready lib wireFormat ros2MessageType published)
    {cycle : List ((ℕ → Bool) × Call)} (hcycle : cycle.map Prod.snd =
      Members.callsTo (run pre).subscriptions.length
        (dispatchCalls (pre ++ .register channels ids :: mid) queues)) :
    (∀ b', b.receiveAll lib cycle = .ok b' →
      ∃ part, b'.Ready lib wireFormat ros2MessageType (published ++ part) ∧
        Publishes lib wireFormat ros2MessageType channels ids (.spin true queues)
          (part.map Prod.fst)) ∧
      ∀ made, made.IsPrefix cycle →
        ∃ part, (foldUntil (receive lib) b made).Ready lib wireFormat ros2MessageType
            (published ++ part) ∧
          (part = [] ∨ Publishes lib wireFormat ros2MessageType channels ids (.spin true queues)
            (part.map Prod.fst)) := by
  obtain ⟨sub, slots, pdos, valid, hcons, rfl, hslots, hvalid, hcalls⟩ :=
    registered_cycle pre mid channels hne queues
  rw [callsTo_dispatchCalls] at hcalls
  obtain ⟨e, puts, fed, rfl, rfl⟩ := exists_cycle (hcycle.trans (List.append_cancel_left hcalls))
  have hend : ∀ b', endCycle lib { b with messages := fed.map Prod.snd } puts valid = .ok b' →
      ∃ part, b'.Ready lib wireFormat ros2MessageType (published ++ part) ∧
        Publishes lib wireFormat ros2MessageType sub.channels ids (.spin true queues)
          (part.map Prod.fst) := by
    intro b' hok
    obtain ⟨part, hready, hencodes, hnone⟩ := endCycle_spec (h.withMessages _) hok
    refine ⟨part, hready, fun hcomplete => ⟨true, queues, slots, _, rfl, hcons.nodup,
      fun id => ?_, hcons.forall₂, ?_⟩, fun hincomplete => ?_⟩
    · rw [hslots]
      refine and_iff_left_of_imp ?_
      rintro ⟨x, hx, hid⟩
      rw [← hid]
      exact hcomplete.2 x hx (hid ▸ id.isLt)
    · by_cases hpdos : fed.map Prod.snd = []
      · rw [hnone fun hcycle => hcycle.2 hpdos, hpdos]
        exact encodes_nil lib ros2MessageType wireFormat
      · exact hencodes ⟨hvalid.mpr hcomplete.2, hpdos⟩
    · rw [hnone fun hcycle => hincomplete ⟨rfl, hvalid.mp hcycle.1⟩]
      rfl
  refine ⟨fun b' hok => hend b' (receiveAll_cycle e fed puts valid ▸ hok), fun made hmade => ?_⟩
  rw [← List.cons_append] at hmade
  rcases List.prefix_concat_iff.mp hmade with rfl | hbody
  · -- the whole cycle, whose end may raise
    have hfed : List.foldlM (receive lib) b
        ((e, .beginCycle) :: fed.map fun f => (f.1, .consume f.2)) = _ := receiveAll_body e fed
    rw [foldUntil_append_of_ok _ hfed, foldUntil]
    have hreceive : receive lib { b with messages := fed.map Prod.snd } (puts, .endCycle valid) =
        endCycle lib { b with messages := fed.map Prod.snd } puts valid := rfl
    rw [hreceive]
    cases hok : endCycle lib { b with messages := fed.map Prod.snd } puts valid with
    | ok b' =>
      obtain ⟨part, hready, hpublishes⟩ := hend b' hok
      exact ⟨part, hready, .inr hpublishes⟩
    | error exception => exact ⟨[], by rw [List.append_nil]; exact h.withMessages _, .inl rfl⟩
  · refine ⟨[], ?_, .inl rfl⟩
    rw [List.append_nil]
    refine foldUntil_inv (fun b : ZenohAdapterBridgePublisher =>
      b.Ready lib wireFormat ros2MessageType published) (fun call hcall b b' hb hok => ?_) h
    rcases List.mem_cons.mp (hbody.subset hcall) with rfl | hcall
    · obtain rfl := Except.ok.inj hok
      exact hb.withMessages _
    · obtain ⟨f, -, rfl⟩ := List.mem_map.mp hcall
      obtain rfl := Except.ok.inj hok
      exact hb.withMessages _

end Cycle

/-- A publisher has received nothing when it is registered. -/
theorem callsOf_registered (pre : List Op) (channels : List ChannelRx) (ids : List EcatId) :
    callsOf (pre ++ [.register channels ids]) (run pre).subscriptions.length = [] := by
  have hsub : (run (pre ++ [.register channels ids])).subscriptions[
      (run pre).subscriptions.length]? = some (newSubscription channels ids) := by
    rw [run_concat]
    exact List.getElem?_concat_length
  rw [callsOf, hsub]
  rfl

theorem ready_run {channels : List ChannelRx} {ids : List EcatId} (hne : ids ≠ [])
    {c : ZenohAdapterBridgePublisher} (hinit : c.Ready lib wireFormat ros2MessageType [])
    (pre mid : List Op) : ∀ {calls : List ((ℕ → Bool) × Call)} {b : ZenohAdapterBridgePublisher},
      calls.map Prod.snd = callsOf (pre ++ .register channels ids :: mid)
        (run pre).subscriptions.length →
      c.receiveAll lib calls = .ok b →
      ∃ parts, b.Ready lib wireFormat ros2MessageType parts.flatten ∧
        List.Forall₂ (fun op part => Publishes lib wireFormat ros2MessageType channels ids op
          (part.map Prod.fst)) mid parts := by
  induction mid using List.reverseRecOn with
  | nil =>
    intro calls b hcalls hrun
    rw [callsOf_registered, List.map_eq_nil_iff] at hcalls
    subst hcalls
    obtain rfl := Except.ok.inj hrun
    exact ⟨[], hinit, .nil⟩
  | append_singleton mid op ih =>
    intro calls b' hcalls hrun'
    rw [← List.cons_append, ← List.append_assoc] at hcalls
    -- a step that calls no publisher
    have hidle : callsOf (pre ++ .register channels ids :: mid ++ [op])
        (run pre).subscriptions.length =
          callsOf (pre ++ .register channels ids :: mid) (run pre).subscriptions.length →
        ¬ Complete channels ids op → ∃ parts,
          b'.Ready lib wireFormat ros2MessageType parts.flatten ∧
            List.Forall₂ (fun op part => Publishes lib wireFormat ros2MessageType channels ids op
              (part.map Prod.fst)) (mid ++ [op]) parts := by
      intro hsame hincomplete
      rw [hsame] at hcalls
      obtain ⟨parts, hready, hparts⟩ := ih hcalls hrun'
      refine ⟨parts ++ [[]], ?_, List.rel_append hparts (.cons (publishes_nil hincomplete) .nil)⟩
      rwa [List.flatten_append, List.flatten_singleton, List.append_nil]
    cases op with
    | register channels' ids' => exact hidle (callsOf_register _ _ _ _) id
    | spin isOk queues =>
      cases isOk with
      | false => exact hidle (callsOf_spin_false _ _ _) fun h => Bool.false_ne_true h.1
      | true =>
        rw [callsTo_dispatchCalls] at hcalls
        obtain ⟨earlier, cycle, rfl, hearlier, hcycle⟩ := List.map_eq_append_iff.mp hcalls
        rw [receiveAll_append] at hrun'
        obtain ⟨b, hrun, hrest⟩ := bind_eq_ok.mp hrun'
        obtain ⟨parts, hready, hparts⟩ := ih hearlier hrun
        obtain ⟨part, hready', hpart⟩ := (publishes_cycle hne hready hcycle).1 b' hrest
        refine ⟨parts ++ [part], ?_, List.rel_append hparts (.cons hpart .nil)⟩
        rwa [List.flatten_append, List.flatten_singleton]

/-- **What a topic publishes.** Whatever else is registered and however the PDOs arrive: as long as
no publisher of the adapter raises, a topic that `init` has set up hands to the session, in each
cycle of the adapter, the encoding of one fresh PDO for each of its ids, or nothing when one of them
was not drained; and nothing between the cycles. In a cycle in which a publisher raises, it does the
same or hands over nothing, and no call is made after it. -/
theorem published_run (lib : SerializerLib) (wireFormat : WireFormat)
    (ros2MessageType : Ros2MessageType) (pre mid : List Op) (channels : List ChannelRx)
    {ids : List EcatId} (hne : ids ≠ []) {c : ZenohAdapterBridgePublisher}
    (hinit : ({} : ZenohAdapterBridgePublisher).init lib true wireFormat ros2MessageType =
      .ok (true, c)) {publishers : List ZenohAdapterBridgePublisher}
    (hpublisher : publishers[(run pre).subscriptions.length]? = some c)
    {calls : List (ℕ × (ℕ → Bool) × Call)}
    (hcalls : calls.map (fun call => (call.1, call.2.2)) =
      runCalls (pre ++ .register channels ids :: mid))
    {publishers' : List ZenohAdapterBridgePublisher}
    (hrun : calls.foldlM (Members.callAt (receive lib)) publishers = .ok publishers') :
    ∃ b parts, publishers'[(run pre).subscriptions.length]? = some b ∧
      b.publisher = some parts.flatten ∧
      List.Forall₂ (fun op part => Publishes lib wireFormat ros2MessageType channels ids op
        (part.map Prod.fst)) mid parts ∧
      ∀ queues cycle, cycle.map (fun call => (call.1, call.2.2)) =
          dispatchCalls (pre ++ .register channels ids :: mid) queues →
        ∃ b' part, (foldUntil (Members.callAt (receive lib)) publishers' cycle)[
            (run pre).subscriptions.length]? = some b' ∧
          b'.publisher = some (parts.flatten ++ part) ∧
          (part = [] ∨ Publishes lib wireFormat ros2MessageType channels ids (.spin true queues)
            (part.map Prod.fst)) := by
  obtain ⟨b, hb, hown⟩ := Members.foldlM_callAt_ok hrun hpublisher
  have hmine : (Members.callsTo (run pre).subscriptions.length calls).map Prod.snd =
      callsOf (pre ++ .register channels ids :: mid) (run pre).subscriptions.length := by
    rw [← callsTo_runCalls, ← hcalls]
    exact (Members.callsTo_map Prod.snd _ calls).symm
  obtain ⟨parts, hready, hparts⟩ := ready_run hne (ready_of_init hinit) pre mid hmine hown
  refine ⟨b, parts, hb, hready.publisher, hparts, fun queues cycle hcycle => ?_⟩
  obtain ⟨made, hmade, hfinal⟩ : ∃ made,
      made.IsPrefix (Members.callsTo (run pre).subscriptions.length cycle) ∧
        (foldUntil (Members.callAt (receive lib)) publishers' cycle)[
          (run pre).subscriptions.length]? = some (foldUntil (receive lib) b made) :=
    Members.foldUntil_callAt_prefix hb
  have hmycycle : (Members.callsTo (run pre).subscriptions.length cycle).map Prod.snd =
      Members.callsTo (run pre).subscriptions.length
        (dispatchCalls (pre ++ .register channels ids :: mid) queues) := by
    rw [← hcycle]
    exact (Members.callsTo_map Prod.snd _ cycle).symm
  obtain ⟨part, hready', hpart⟩ := (publishes_cycle hne hready hmycycle).2 made hmade
  exact ⟨_, part, hfinal, hready'.publisher, hpart⟩

/-- A library that writes one byte for each PDO. -/
def oneByteLib : SerializerLib where
  ros2Support := false
  num := ⟨fun _ => 0, fun _ => 0, fun _ => 0⟩
  encode _ _ := none
  byteSizeLong _ := 1
  serializeToArray _ := some [42]

/-- A topic for motor 7 beside one for motor 9. The second of three cycles drains no motor, and the
session refuses the payload of the third. -/
theorem published_run_seven :
    let pdo : EcSlavePdo := { type := .rxMotor, header? := some { index? := some 7 } }
    let spin (queue : List EcSlavePdo) : Op :=
      .spin true fun device => if device = .motor then queue else []
    ∃ (b : ZenohAdapterBridgePublisher) (parts : List (List (List UInt8 × Bool))),
      ([(⟨some [([42], true), ([42], false)], some ⟨.protobuf, .motor⟩, [pdo], .protobuf⟩ :
          ZenohAdapterBridgePublisher),
        ⟨some [], some ⟨.protobuf, .motor⟩, [], .protobuf⟩])[0]? = some b ∧
      b.publisher = some parts.flatten ∧
      List.Forall₂ (fun op part => Publishes oneByteLib .protobuf .motor [.motor] [7] op
          (part.map Prod.fst))
        [.register [.motor] [9], spin [pdo], spin [], spin [pdo, pdo]] parts ∧
      ∀ queues cycle, cycle.map (fun call => (call.1, call.2.2)) =
          dispatchCalls ([] ++ .register [.motor] [7] ::
            [.register [.motor] [9], spin [pdo], spin [], spin [pdo, pdo]]) queues →
        ∃ b' part, (foldUntil (Members.callAt (receive oneByteLib))
            [(⟨some [([42], true), ([42], false)], some ⟨.protobuf, .motor⟩, [pdo], .protobuf⟩ :
                ZenohAdapterBridgePublisher),
              ⟨some [], some ⟨.protobuf, .motor⟩, [], .protobuf⟩] cycle)[0]? = some b' ∧
          b'.publisher = some (parts.flatten ++ part) ∧
          (part = [] ∨ Publishes oneByteLib .protobuf .motor [.motor] [7] (.spin true queues)
            (part.map Prod.fst)) := by
  intro pdo spin
  have hcalls : ([(0, fun _ => true, .beginCycle), (0, fun _ => true, .consume pdo),
      (0, fun _ => true, .endCycle true), (1, fun _ => true, .beginCycle),
      (1, fun _ => true, .endCycle false), (0, fun _ => true, .beginCycle),
      (0, fun _ => true, .endCycle false), (1, fun _ => true, .beginCycle),
      (1, fun _ => true, .endCycle false), (0, fun _ => true, .beginCycle),
      (0, fun _ => true, .consume pdo), (0, fun _ => false, .endCycle true),
      (1, fun _ => true, .beginCycle), (1, fun _ => true, .endCycle false)] :
        List (ℕ × (ℕ → Bool) × Call)).map (fun call => (call.1, call.2.2)) =
      runCalls ([] ++ .register [.motor] [7] ::
        [.register [.motor] [9], spin [pdo], spin [], spin [pdo, pdo]]) := by
    decide +kernel
  have hpublisher : ([⟨some [], some ⟨.protobuf, .motor⟩, [], .protobuf⟩,
      ⟨some [], some ⟨.protobuf, .motor⟩, [], .protobuf⟩] : List ZenohAdapterBridgePublisher)[
        (run []).subscriptions.length]? =
      some ⟨some [], some ⟨.protobuf, .motor⟩, [], .protobuf⟩ := rfl
  exact published_run oneByteLib .protobuf .motor [] _ [.motor] (by decide) rfl hpublisher hcalls
    rfl

end ZenohAdapterBridgePublisher

end EcatMiddleware.Zenoh
