import EcatMiddleware.Core.Channel
import EcatMiddleware.Data.Protobuf
import Mathlib.Logic.Function.Basic

/-!
# The subscriber adapter

`AdapterSubscribers` pushes commands to the transmit queues of the shared memory.

* `push_of_some`: a command goes to the queue of its channel, in the slot of its header index.
* `helperPush_of_room`: a queue with room takes it, and the others keep their room.
* `pushed_pushAll`: of the commands pushed one after the other, the queues hold those whose own push
  succeeded.
-/

namespace EcatMiddleware.Core

open Pb

/-- What the framing helper pushes. -/
structure TxSlot where
  slaveId : UInt32
  pdo : EcSlavePdo
  deriving DecidableEq, Repr

/-- The queues of the shared memory: `push` fails where a queue does not take the slot, and a queue
with room takes it. -/
structure ShmLib (Q : Type) where
  push : Q → TxSlot → Bool × Q
  room : Q → ℕ
  push_taken : ∀ q slot, 0 < room q → (push q slot).1 = true
  room_push : ∀ q slot, room q ≤ room (push q slot).2 + 1

/-- The transmit side of the shared memory. `pushed` records what the queues took. -/
structure TxTransport (Q : Type) where
  txIsOk : Bool
  subQueue : DeviceTypeTx → Q
  pushed : List (DeviceTypeTx × TxSlot) := []

/-- The slot of a command: there is none without a header index, or below zero. -/
def txSlot? (msg : EcSlavePdo) : Option TxSlot :=
  match msg.headerIndex? with
  | some index => if index < 0 then none else some { slaveId := index.toUInt32, pdo := msg }
  | none => none

section

variable {Q : Type} (lib : ShmLib Q)

/-- `helper.push` on the queue of a device. -/
def TxTransport.helperPush (tx : TxTransport Q) (device : DeviceTypeTx) (slot : TxSlot) :
    Bool × TxTransport Q :=
  let result := lib.push (tx.subQueue device) slot
  (result.1, { tx with
    subQueue := Function.update tx.subQueue device result.2
    pushed := if result.1 then tx.pushed ++ [(device, slot)] else tx.pushed })

def push (channel : ChannelTx) (msg : EcSlavePdo) (tx : TxTransport Q) : Bool × TxTransport Q :=
  match channel.deviceFor with
  | none => (false, tx)
  | some device =>
    if !tx.txIsOk then (false, tx)
    else match txSlot? msg with
      | none => (false, tx)
      | some slot => tx.helperPush lib device slot

/-- The transport is up and each queue has room for `n` commands. -/
def HasRoom (tx : TxTransport Q) (n : ℕ) : Prop :=
  tx.txIsOk = true ∧ ∀ device, n ≤ lib.room (tx.subQueue device)

variable {lib}

theorem HasRoom.mono {tx : TxTransport Q} {m n : ℕ} (h : HasRoom lib tx n) (hmn : m ≤ n) :
    HasRoom lib tx m := ⟨h.1, fun device => Nat.le_trans hmn (h.2 device)⟩

theorem push_of_none {channel : ChannelTx} {msg : EcSlavePdo} (h : txSlot? msg = none)
    (tx : TxTransport Q) : push lib channel msg tx = (false, tx) := by
  unfold push
  rw [ChannelTx.deviceFor_eq]
  cases htx : tx.txIsOk <;> simp [h]

theorem push_of_some {channel : ChannelTx} {msg : EcSlavePdo} {slot : TxSlot}
    (h : txSlot? msg = some slot) {tx : TxTransport Q} (htx : tx.txIsOk = true) :
    push lib channel msg tx = tx.helperPush lib channel.device slot := by
  unfold push
  rw [ChannelTx.deviceFor_eq]
  simp [htx, h]

/-- A queue with room takes the slot, and the other queues keep theirs. -/
theorem helperPush_of_room {tx : TxTransport Q} {n : ℕ} (h : HasRoom lib tx (n + 1))
    (device : DeviceTypeTx) (slot : TxSlot) :
    (tx.helperPush lib device slot).1 = true ∧
      (tx.helperPush lib device slot).2.pushed = tx.pushed ++ [(device, slot)] ∧
      HasRoom lib (tx.helperPush lib device slot).2 n := by
  have hroom := h.2 device
  have htaken := lib.push_taken (tx.subQueue device) slot (by omega)
  refine ⟨htaken, by simp [TxTransport.helperPush, htaken], h.1, fun device' => ?_⟩
  show n ≤ lib.room (Function.update tx.subQueue device _ device')
  by_cases hd : device' = device
  · subst hd
    rw [Function.update_self]
    have hleft := lib.room_push (tx.subQueue device') slot
    omega
  · rw [Function.update_of_ne hd]
    have hother := h.2 device'
    omega

/-! ## One command after the other -/

/-- A queue that does not take a slot stays as it is. -/
def ShmLib.KeepsRefused (lib : ShmLib Q) : Prop :=
  ∀ q slot, (lib.push q slot).1 = false → (lib.push q slot).2 = q

variable (lib)

/-- Push every command, whatever becomes of each. -/
def pushAll (channel : ChannelTx) (msgs : List EcSlavePdo) (tx : TxTransport Q) : TxTransport Q :=
  msgs.foldl (fun tx msg => (push lib channel msg tx).2) tx

/-- What the pushes return. -/
def pushResults (channel : ChannelTx) : List EcSlavePdo → TxTransport Q → List Bool
  | [], _ => []
  | msg :: msgs, tx =>
    let result := push lib channel msg tx
    result.1 :: pushResults channel msgs result.2

variable {lib}

/-- The slot that `push` fills for a command with a header index. -/
def slotOf (msg : EcSlavePdo) : TxSlot := { slaveId := msg.header.index.toUInt32, pdo := msg }

theorem txSlot?_eq_some_iff {msg : EcSlavePdo} {slot : TxSlot} :
    txSlot? msg = some slot ↔
      ∃ index, msg.headerIndex? = some index ∧ 0 ≤ index ∧ slot = ⟨index.toUInt32, msg⟩ := by
  unfold txSlot?
  cases h : msg.headerIndex? with
  | none => simp
  | some index =>
    simp only [Option.some.injEq, exists_eq_left']
    by_cases hneg : index < 0
    · simp [hneg, Int32.not_le.mpr hneg]
    · simp [Int32.not_lt.mp hneg, hneg, eq_comm]

theorem slotOf_of_index {msg : EcSlavePdo} {index : Int32} (h : msg.headerIndex? = some index) :
    slotOf msg = ⟨index.toUInt32, msg⟩ := by
  obtain ⟨header, hheader, hindex⟩ := Option.bind_eq_some_iff.mp h
  simp [slotOf, EcSlavePdo.header, hheader, Header.index, hindex]

/-- **One push.** A command is written only to the slot of its own index, which is not negative. -/
theorem push_spec (channel : ChannelTx) (msg : EcSlavePdo) (tx : TxTransport Q) :
    (push lib channel msg tx).2.pushed = tx.pushed ++
        (if (push lib channel msg tx).1 then [(channel.device, slotOf msg)] else []) ∧
      ((push lib channel msg tx).1 = true →
        ∃ index, msg.headerIndex? = some index ∧ 0 ≤ index) := by
  cases htx : tx.txIsOk with
  | false => simp [push, htx]
  | true =>
    cases hslot : txSlot? msg with
    | none => simp [push_of_none hslot]
    | some slot =>
      obtain ⟨index, hindex, hpos, rfl⟩ := txSlot?_eq_some_iff.mp hslot
      rw [push_of_some hslot htx, slotOf_of_index hindex]
      refine ⟨?_, fun _ => ⟨index, hindex, hpos⟩⟩
      unfold TxTransport.helperPush
      cases h : (lib.push (tx.subQueue channel.device) ⟨index.toUInt32, msg⟩).1 <;> simp [h]

/-- A push that fails leaves no trace. -/
theorem push_refused (hlib : lib.KeepsRefused) {channel : ChannelTx} {msg : EcSlavePdo}
    {tx : TxTransport Q} (h : (push lib channel msg tx).1 = false) :
    (push lib channel msg tx).2 = tx := by
  cases htx : tx.txIsOk with
  | false => simp [push, htx]
  | true =>
    cases hslot : txSlot? msg with
    | none => simp [push_of_none hslot]
    | some slot =>
      rw [push_of_some hslot htx] at h ⊢
      have hfailed : (lib.push (tx.subQueue channel.device) slot).1 = false := h
      simp [TxTransport.helperPush, hfailed, hlib _ _ hfailed]

theorem length_pushResults (channel : ChannelTx) (msgs : List EcSlavePdo) :
    ∀ tx, (pushResults lib channel msgs tx).length = msgs.length := by
  induction msgs with
  | nil => exact fun _ => rfl
  | cons msg msgs ih => exact fun tx => congrArg (· + 1) (ih _)

/-- **All pushes.** -/
theorem pushed_pushAll (channel : ChannelTx) (msgs : List EcSlavePdo) :
    ∀ tx, (pushAll lib channel msgs tx).pushed = tx.pushed ++
      ((msgs.zip (pushResults lib channel msgs tx)).filter Prod.snd).map
        fun result => (channel.device, slotOf result.1) := by
  induction msgs with
  | nil => simp [pushAll]
  | cons msg msgs ih =>
    intro tx
    have hrest := ih (push lib channel msg tx).2
    rw [(push_spec channel msg tx).1] at hrest
    refine hrest.trans ?_
    rw [pushResults, List.zip_cons_cons, List.append_assoc]
    congr 1
    cases (push lib channel msg tx).1 <;> simp

theorem pushAll_append (channel : ChannelTx) (before after : List EcSlavePdo)
    (tx : TxTransport Q) :
    pushAll lib channel (before ++ after) tx =
      pushAll lib channel after (pushAll lib channel before tx) := List.foldl_append

/-- A command whose push fails might as well not have been there. -/
theorem pushAll_refused (hlib : lib.KeepsRefused) {channel : ChannelTx} {msg : EcSlavePdo}
    {before : List EcSlavePdo} {tx : TxTransport Q}
    (h : (push lib channel msg (pushAll lib channel before tx)).1 = false)
    (after : List EcSlavePdo) :
    pushAll lib channel (before ++ msg :: after) tx =
      pushAll lib channel (before ++ after) tx := by
  rw [pushAll_append, pushAll_append]
  exact congrArg (pushAll lib channel after) (push_refused hlib h)

end

end EcatMiddleware.Core
