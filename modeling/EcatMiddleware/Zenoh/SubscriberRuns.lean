import EcatMiddleware.Lib.Run
import EcatMiddleware.Zenoh.Subscriber
import Mathlib.Algebra.Group.Nat.Defs

/-!
# Runs of a Zenoh subscriber

Samples arrive on one thread while another one spins. Under the lock a sample is queued, or the
queue is swapped for an empty one; the callbacks of a spin run outside of it, one after the other,
so that samples arrive between them.

* `SubscriberRun`: what is delivered, pending and dropped, from the samples that arrived alone.
* `subscriber_run`: every run, in every order of these steps, is of this kind.
-/

namespace EcatMiddleware.Zenoh

open Run

variable {Message Payload τ : Type}

inductive SubscriberAction (Payload : Type) where
  | arrive (payload : Payload)
  | swap
  | call

/-- `batch` is what the `spin_once` in progress has still to visit. -/
structure SubscriberState (Message τ : Type) where
  sub : ZenohSubscriber Message
  batch : List Message := []
  world : τ

/-- The next `spin_once` begins when the last one has ended. -/
def subscriberStep (deserializer : Payload → Option Message)
    (callback : ZenohSubscriber.Callback Message τ) (s : SubscriberState Message τ) :
    SubscriberAction Payload → Option (SubscriberState Message τ)
  | .arrive payload => some { s with sub := s.sub.onSample deserializer payload }
  | .swap =>
    if s.batch.isEmpty then some { s with sub := s.sub.drained, batch := s.sub.pending } else none
  | .call =>
    match s.batch with
    | [] => none
    | message :: batch => some { s with batch := batch, world := (callback message s.world).2 }

variable (deserializer : Payload → Option Message) (callback : ZenohSubscriber.Callback Message τ)

/-- Without a sample in between, a swap and its calls are `spin_once`. -/
theorem run_spinOnce (sub : ZenohSubscriber Message) (world : τ) :
    run (subscriberStep deserializer callback) ⟨sub, [], world⟩
        (.swap :: List.replicate sub.pending.length .call) =
      some ⟨(sub.spinOnce (some callback) world).1, [],
        (sub.spinOnce (some callback) world).2⟩ := by
  have hcalls : ∀ (batch : List Message) (world : τ),
      run (subscriberStep deserializer callback) ⟨sub.drained, batch, world⟩
          (List.replicate batch.length .call) =
        some ⟨sub.drained, [], batch.foldl (fun world m => (callback m world).2) world⟩ := by
    intro batch
    induction batch with
    | nil => exact fun _ => rfl
    | cons message batch ih => exact fun world => ih (callback message world).2
  exact hcalls sub.pending world

/-! ## The samples of a run -/

/-- The messages that decoded, cut at every swap. -/
structure Arrived (Message : Type) where
  closed : List (List Message) := []
  current : List Message := []

def Arrived.mark (arrived : Arrived Message) : SubscriberAction Payload → Arrived Message
  | .arrive payload => { arrived with current := arrived.current ++ (deserializer payload).toList }
  | .swap => { closed := arrived.closed ++ [arrived.current] }
  | .call => arrived

def Arrived.count (arrived : Arrived Message) : ℕ :=
  arrived.closed.flatten.length + arrived.current.length

/-- `delivered` has gone to the callback. The last messages of each part are delivered, or will be
in the spin in progress; the last of the current part are pending; `n` have been dropped. -/
structure SubscriberRun (depth : ℕ) (world₀ : τ) (arrived : Arrived Message)
    (s : SubscriberState Message τ) (delivered : List Message) (n : ℕ) : Prop where
  depth_eq : s.sub.historyDepth = depth
  world : s.world = delivered.foldl (fun world m => (callback m world).2) world₀
  batches : delivered ++ s.batch =
    arrived.closed.flatMap fun part => part.rtake depth
  pending : s.sub.pending = arrived.current.rtake depth
  count : arrived.count = delivered.length + s.batch.length + s.sub.pending.length + n
  dropped : s.sub.droppedSamples.toNat = n % 2 ^ 64

/-- The loop counts what it drops. -/
theorem evict_snd {depth : ℕ} (pending : List Message) :
    ∀ droppedSamples, (evict (depth + 1) pending droppedSamples).2.toNat =
      (droppedSamples.toNat + (pending.length - depth)) % 2 ^ 64 := by
  induction pending with
  | nil =>
    intro dropped
    rw [evict, List.length_nil, Nat.zero_sub, Nat.add_zero]
    exact (Nat.mod_eq_of_lt dropped.toNat_lt).symm
  | cons message pending ih =>
    intro dropped
    unfold evict
    split
    · rename_i hle
      rw [ih, UInt64.toNat_add, List.length_cons, Nat.mod_add_mod]
      congr 1
      have hone : (1 : UInt64).toNat = 1 := rfl
      omega
    · rename_i hlt
      rw [List.length_cons, Nat.sub_eq_zero_of_le (by omega)]
      exact (Nat.mod_eq_of_lt dropped.toNat_lt).symm

variable {deserializer callback}

/-- A message that arrives is queued in place of those that are dropped. -/
theorem counts_onSample {payload : Payload} {message : Message}
    (h : deserializer payload = some message) (sub : ZenohSubscriber Message) :
    ∃ k, (sub.onSample deserializer payload).pending.length + k = sub.pending.length + 1 ∧
      (sub.onSample deserializer payload).droppedSamples.toNat =
        (sub.droppedSamples.toNat + k) % 2 ^ 64 := by
  obtain ⟨depth, hdepth⟩ := Nat.exists_eq_add_of_le' sub.one_le_historyDepth
  have hle := sub.length_pending_le
  refine ⟨sub.pending.length - depth, ?_, ?_⟩
  · rw [ZenohSubscriber.pending_onSample, h, Option.toList_some, List.foldl_cons, List.foldl_nil,
      KeepLast.push, List.rtake, List.length_drop, List.length_append, List.length_singleton]
    omega
  · unfold ZenohSubscriber.onSample
    rw [h, ← evict_snd, ← hdepth]

namespace SubscriberRun

variable {depth : ℕ} {world₀ : τ} {arrived : Arrived Message} {s s' : SubscriberState Message τ}
  {delivered : List Message} {n : ℕ}

theorem arrive (h : SubscriberRun callback depth world₀ arrived s delivered n) (payload : Payload) :
    ∃ m, SubscriberRun callback depth world₀ (arrived.mark deserializer (.arrive payload))
      { s with sub := s.sub.onSample deserializer payload } delivered m := by
  cases hmessage : deserializer payload with
  | none =>
    have hsub : s.sub.onSample deserializer payload = s.sub := by
      unfold ZenohSubscriber.onSample
      rw [hmessage]
    have hmark : arrived.mark deserializer (.arrive payload) = arrived := by
      rw [Arrived.mark, hmessage, Option.toList_none, List.append_nil]
    rw [hsub, hmark]
    exact ⟨n, h⟩
  | some message =>
    obtain ⟨k, hlength, hdropped⟩ := counts_onSample hmessage s.sub
    have hdepth := ZenohSubscriber.historyDepth_onSample deserializer payload s.sub
    refine ⟨n + k, hdepth.trans h.depth_eq, h.world, h.batches, ?_, ?_, ?_⟩
    · show (s.sub.onSample deserializer payload).pending = _
      rw [ZenohSubscriber.pending_onSample, h.depth_eq, h.pending, KeepLast.foldl_push]
      rfl
    · have hcount := h.count
      simp only [Arrived.count, Arrived.mark, hmessage, Option.toList_some, List.length_append,
        List.length_singleton] at hcount ⊢
      omega
    · rw [hdropped, h.dropped, Nat.mod_add_mod]

theorem swap (h : SubscriberRun callback depth world₀ arrived s delivered n)
    (hbatch : s.batch = []) :
    SubscriberRun callback depth world₀
      (arrived.mark deserializer (.swap : SubscriberAction Payload))
      { s with sub := s.sub.drained, batch := s.sub.pending } delivered n where
  depth_eq := h.depth_eq
  world := h.world
  batches := by
    have hbatches := h.batches
    rw [hbatch, List.append_nil] at hbatches
    show delivered ++ s.sub.pending =
      (arrived.closed ++ [arrived.current]).flatMap fun part => part.rtake depth
    rw [List.flatMap_append, List.flatMap_singleton, ← hbatches, ← h.pending]
  pending := (List.rtake_nil depth).symm
  count := by
    have hcount := h.count
    rw [hbatch] at hcount
    simp only [Arrived.count, Arrived.mark, ZenohSubscriber.drained, List.flatten_append,
      List.flatten_singleton, List.length_append, List.length_nil] at hcount ⊢
    omega
  dropped := h.dropped

theorem call (h : SubscriberRun callback depth world₀ arrived s delivered n) {message : Message}
    {batch : List Message} (hbatch : s.batch = message :: batch) :
    SubscriberRun callback depth world₀
      (arrived.mark deserializer (.call : SubscriberAction Payload))
      { s with batch := batch, world := (callback message s.world).2 }
      (delivered ++ [message]) n where
  depth_eq := h.depth_eq
  world := by
    rw [List.foldl_append, ← h.world]
    rfl
  batches := by
    have hbatches := h.batches
    rw [hbatch] at hbatches
    rw [List.append_assoc, List.singleton_append]
    exact hbatches
  pending := h.pending
  count := by
    have hcount := h.count
    rw [hbatch] at hcount
    simp only [Arrived.mark, List.length_append, List.length_cons, List.length_nil] at hcount ⊢
    omega
  dropped := h.dropped

/-- **One step**, whichever it is. -/
theorem step (h : SubscriberRun callback depth world₀ arrived s delivered n)
    {action : SubscriberAction Payload}
    (hstep : subscriberStep deserializer callback s action = some s') :
    ∃ delivered' n',
      SubscriberRun callback depth world₀ (arrived.mark deserializer action) s' delivered' n' := by
  cases action with
  | arrive payload =>
    obtain rfl := Option.some.inj hstep
    obtain ⟨m, hm⟩ := h.arrive payload
    exact ⟨delivered, m, hm⟩
  | swap =>
    unfold subscriberStep at hstep
    split_ifs at hstep with hempty
    obtain rfl := Option.some.inj hstep
    exact ⟨delivered, n, h.swap (List.isEmpty_iff.mp hempty)⟩
  | call =>
    cases hbatch : s.batch with
    | nil =>
      rw [subscriberStep, hbatch] at hstep
      exact absurd hstep (by rintro ⟨⟩)
    | cons message batch =>
      rw [subscriberStep, hbatch] at hstep
      obtain rfl := Option.some.inj hstep
      exact ⟨_, n, h.call hbatch⟩

theorem run (actions : List (SubscriberAction Payload)) :
    ∀ {arrived : Arrived Message} {s : SubscriberState Message τ} {delivered : List Message}
      {n : ℕ},
      SubscriberRun callback depth world₀ arrived s delivered n →
      Run.run (subscriberStep deserializer callback) s actions = some s' →
      ∃ delivered' n', SubscriberRun callback depth world₀
        (actions.foldl (Arrived.mark deserializer) arrived) s' delivered' n' := by
  induction actions with
  | nil =>
    intro arrived s delivered n h hrun
    obtain rfl := Option.some.inj hrun
    exact ⟨delivered, n, h⟩
  | cons action actions ih =>
    intro arrived s delivered n h hrun
    obtain ⟨s₁, hstep, hrun⟩ := run_cons_eq_some.mp hrun
    obtain ⟨delivered₁, n₁, h₁⟩ := h.step hstep
    exact ih h₁ hrun

end SubscriberRun

/-! ## Every run -/

/-- What arrived in a run, cut at every swap. -/
def arrivedIn (deserializer : Payload → Option Message)
    (actions : List (SubscriberAction Payload)) : Arrived Message :=
  actions.foldl (Arrived.mark deserializer) {}

/-- The state in which a run begins. -/
def SubscriberState.init (historyDepth : ℕ) (world : τ) : SubscriberState Message τ :=
  { sub := .new historyDepth, world := world }

/-- **Every run of a subscriber.** The queue is bounded; each `spin_once` hands the callback the
last messages that decoded since the one before it, in order, whatever the callback does; a sample
that does not decode changes nothing; what is neither delivered nor waiting has been dropped, and
is counted modulo `2 ^ 64`. -/
theorem subscriber_run (deserializer : Payload → Option Message)
    (callback : ZenohSubscriber.Callback Message τ) (historyDepth : ℕ) (world : τ)
    (actions : List (SubscriberAction Payload)) (s : SubscriberState Message τ)
    (h : run (subscriberStep deserializer callback) (.init historyDepth world) actions = some s) :
    s.sub.pending.length ≤ max 1 historyDepth ∧
    (∃ delivered n,
      s.world = delivered.foldl (fun world m => (callback m world).2) world ∧
      delivered ++ s.batch = (arrivedIn deserializer actions).closed.flatMap
        (fun part => part.rtake (max 1 historyDepth)) ∧
      s.sub.pending = (arrivedIn deserializer actions).current.rtake (max 1 historyDepth) ∧
      (arrivedIn deserializer actions).count =
        delivered.length + s.batch.length + s.sub.pending.length + n ∧
      s.sub.droppedSamples.toNat = n % 2 ^ 64) ∧
    ∀ payload, deserializer payload = none →
      subscriberStep deserializer callback s (.arrive payload) = some s := by
  have hinit :
      SubscriberRun callback (max 1 historyDepth) world {} (.init historyDepth world) [] 0 :=
    ⟨rfl, rfl, rfl, (List.rtake_nil _).symm, rfl, rfl⟩
  obtain ⟨delivered, n, hrun⟩ := hinit.run actions h
  refine ⟨?_, ⟨delivered, n, hrun.world, hrun.batches, hrun.pending, hrun.count, hrun.dropped⟩,
    fun payload hnone => ?_⟩
  · rw [← hrun.depth_eq]
    exact s.sub.length_pending_le
  · rw [subscriberStep, ZenohSubscriber.onSample, hnone]

/-- Three samples at depth one, with a callback that throws and keeps a log: the first is dropped,
the second is delivered, the last is pending. -/
theorem subscriber_run_three :
    ∃ s : SubscriberState ℕ (List ℕ), run (subscriberStep (some : ℕ → Option ℕ)
        fun m log => (.error "callback", log ++ [m])) (.init 0 [])
        [.arrive 1, .arrive 2, .swap, .arrive 3, .call] = some s ∧
      s.world = [2] ∧ s.sub.pending = [3] ∧ s.sub.droppedSamples.toNat = 1 ∧
      s.sub.pending.length ≤ max 1 0 :=
  ⟨_, rfl, rfl, rfl, rfl, (subscriber_run (some : ℕ → Option ℕ)
    (fun m log => (.error "callback", log ++ [m])) 0 []
    [.arrive 1, .arrive 2, .swap, .arrive 3, .call] _ rfl).1⟩

/-! ## The counter wraps -/

/-- Samples can always arrive. -/
theorem exists_run_arrive (payloads : List Payload) : ∀ s : SubscriberState Message τ,
    ∃ s', run (subscriberStep deserializer callback) s (payloads.map .arrive) = some s' := by
  induction payloads with
  | nil => exact fun s => ⟨s, rfl⟩
  | cons payload payloads ih =>
    exact fun s => ih { s with sub := s.sub.onSample deserializer payload }

theorem foldl_mark_arrive (payloads : List Payload) (arrived : Arrived Message) :
    (payloads.map SubscriberAction.arrive).foldl (Arrived.mark deserializer) arrived =
      { arrived with current := arrived.current ++ payloads.filterMap deserializer } := by
  induction payloads generalizing arrived with
  | nil => simp
  | cons payload payloads ih =>
    rw [List.map_cons, List.foldl_cons, ih]
    cases h : deserializer payload <;> simp [Arrived.mark, h]

/-- After `2 ^ 64 + 1` samples at depth one, `dropped_samples_` is too small for the balance. -/
theorem subscriber_count_wraps :
    ¬ ∀ (actions : List (SubscriberAction Unit)) (s : SubscriberState Unit (List Unit)),
      run (subscriberStep some fun m log => (.ok (), log ++ [m])) (.init 1 []) actions = some s →
      (arrivedIn some actions).count =
        s.world.length + s.batch.length + s.sub.pending.length + s.sub.droppedSamples.toNat := by
  intro hall
  -- a variable, so that nothing computes a list of this length
  obtain ⟨n, hn⟩ : ∃ n, n = 2 ^ 64 + 1 := ⟨_, rfl⟩
  have hdecoded : (List.replicate n ()).filterMap some = List.replicate n () := List.filterMap_some
  obtain ⟨s, hs⟩ := exists_run_arrive (List.replicate n ()) (.init 1 [])
  have hcount := hall _ s hs
  have hinit : SubscriberRun (fun m log => (.ok (), log ++ [m])) 1 [] ({} : Arrived Unit)
      (.init 1 []) [] 0 := ⟨rfl, rfl, rfl, (List.rtake_nil _).symm, rfl, rfl⟩
  obtain ⟨delivered, m, hrun⟩ := hinit.run _ hs
  have hbatches := hrun.batches
  have hworld := hrun.world
  have hpending := s.sub.length_pending_le
  rw [hrun.depth_eq] at hpending
  rw [arrivedIn, foldl_mark_arrive, hdecoded] at hcount
  rw [foldl_mark_arrive] at hbatches
  obtain ⟨rfl, hbatch⟩ := List.append_eq_nil_iff.mp hbatches
  rw [hworld, hbatch] at hcount
  simp only [Arrived.count, List.flatten_nil, List.nil_append, List.length_nil,
    List.length_replicate, List.foldl_nil] at hcount
  have hlt := s.sub.droppedSamples.toNat_lt
  omega

end EcatMiddleware.Zenoh
