import EcatMiddleware.Lib.KeepLast

/-!
# The Zenoh subscriber

A subscriber decodes a sample when it arrives and keeps the last `historyDepth` messages for the
next `spinOnce`, which hands them to the callback.

* `pending_foldl_onSample`: what is pending after any number of arrivals.
-/

namespace EcatMiddleware.Zenoh

/-- The depth is at least one, and no more than that many messages are pending. -/
structure ZenohSubscriber (Message : Type) where
  historyDepth : ℕ
  droppedSamples : UInt64 := 0
  pending : List Message := []
  one_le_historyDepth : 1 ≤ historyDepth
  length_pending_le : pending.length ≤ historyDepth

/-- `while (pending_.size() >= history_depth_)`: drop the oldest message and count it. -/
def evict {Message : Type} (historyDepth : ℕ) :
    List Message → UInt64 → List Message × UInt64
  | [], droppedSamples => ([], droppedSamples)
  | message :: pending, droppedSamples =>
    if historyDepth ≤ pending.length + 1 then evict historyDepth pending (droppedSamples + 1)
    else (message :: pending, droppedSamples)

/-- The loop leaves room for one more message. -/
theorem evict_fst {Message : Type} (depth : ℕ) (pending : List Message) :
    ∀ droppedSamples, (evict (depth + 1) pending droppedSamples).1 = pending.rtake depth := by
  induction pending with
  | nil => simp [evict]
  | cons message pending ih =>
    intro droppedSamples
    unfold evict
    split
    · rw [ih]
      unfold List.rtake
      have hdrop : (message :: pending).length - depth = (pending.length - depth) + 1 := by
        rw [List.length_cons]
        omega
      rw [hdrop, List.drop_succ_cons]
    · unfold List.rtake
      have hdrop : (message :: pending).length - depth = 0 := by
        rw [List.length_cons]
        omega
      rw [hdrop, List.drop_zero]

theorem evict_push {Message : Type} {depth : ℕ} (h : 1 ≤ depth) (pending : List Message)
    (droppedSamples : UInt64) (message : Message) :
    (evict depth pending droppedSamples).1 ++ [message] = KeepLast.push depth pending message := by
  obtain ⟨depth, rfl⟩ := Nat.exists_eq_add_of_le' h
  rw [evict_fst, KeepLast.push, List.rtake_concat_succ]

namespace ZenohSubscriber

variable {Message Payload τ : Type}

/-- The constructor. -/
def new (historyDepth : ℕ := 1) : ZenohSubscriber Message where
  historyDepth := max 1 historyDepth
  one_le_historyDepth := Nat.le_max_left 1 historyDepth
  length_pending_le := Nat.zero_le _

/-- The callback of the Zenoh subscription. A sample that does not decode is logged only. -/
def onSample (deserializer : Payload → Option Message) (payload : Payload)
    (sub : ZenohSubscriber Message) : ZenohSubscriber Message :=
  match deserializer payload with
  | none => sub
  | some message =>
    let kept := evict sub.historyDepth sub.pending sub.droppedSamples
    { sub with
      pending := kept.1 ++ [message]
      droppedSamples := kept.2
      length_pending_le := by
        rw [evict_push sub.one_le_historyDepth]
        exact KeepLast.length_push_le _ _ _ }

/-- What `pending.swap(pending_)` leaves. -/
def drained (sub : ZenohSubscriber Message) : ZenohSubscriber Message :=
  { sub with pending := [], length_pending_le := Nat.zero_le _ }

/-- A callback, which may throw. -/
abbrev Callback (Message τ : Type) := Message → τ → Except String Unit × τ

/-- `spin_once`: what the callback throws is logged only. -/
def spinOnce (callback : Option (Callback Message τ)) (sub : ZenohSubscriber Message) (world : τ) :
    ZenohSubscriber Message × τ :=
  (sub.drained,
    sub.pending.foldl (fun world message =>
      match callback with
      | none => world
      | some callback => (callback message world).2) world)

@[simp] theorem spinOnce_some (callback : Callback Message τ) (sub : ZenohSubscriber Message)
    (world : τ) :
    (sub.spinOnce (some callback) world).2 =
      sub.pending.foldl (fun world message => (callback message world).2) world := rfl

variable (deserializer : Payload → Option Message)

@[simp] theorem historyDepth_onSample (payload : Payload) (sub : ZenohSubscriber Message) :
    (sub.onSample deserializer payload).historyDepth = sub.historyDepth := by
  unfold onSample
  split <;> rfl

theorem pending_onSample (payload : Payload) (sub : ZenohSubscriber Message) :
    (sub.onSample deserializer payload).pending =
      (deserializer payload).toList.foldl (KeepLast.push sub.historyDepth) sub.pending := by
  unfold onSample
  split
  · next h => rw [h]; rfl
  · next message h =>
    rw [h]
    exact evict_push sub.one_le_historyDepth _ _ _

/-- The messages are pushed to a bounded queue, one after the other. -/
theorem pending_foldl_push (payloads : List Payload) : ∀ sub : ZenohSubscriber Message,
    (payloads.foldl (fun sub payload => sub.onSample deserializer payload) sub).pending =
      (payloads.filterMap deserializer).foldl (KeepLast.push sub.historyDepth) sub.pending := by
  induction payloads with
  | nil => exact fun _ => rfl
  | cons payload payloads ih =>
    intro sub
    rw [List.foldl_cons, ih, historyDepth_onSample, pending_onSample]
    cases h : deserializer payload with
    | none =>
      rw [List.filterMap_cons_none h]
      rfl
    | some message =>
      rw [List.filterMap_cons_some h]
      rfl

/-- Pending are the last messages of those that arrived and decoded. -/
theorem pending_foldl_onSample (payloads : List Payload) (sub : ZenohSubscriber Message) :
    (payloads.foldl (fun sub payload => sub.onSample deserializer payload) sub).pending =
      (sub.pending ++ payloads.filterMap deserializer).rtake sub.historyDepth := by
  have hpending := KeepLast.rtake_of_length_le sub.length_pending_le
  rw [pending_foldl_push, ← KeepLast.foldl_push, hpending]

end ZenohSubscriber

end EcatMiddleware.Zenoh
