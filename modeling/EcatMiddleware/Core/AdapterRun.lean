import EcatMiddleware.Core.AdapterPublishers
import EcatMiddleware.Lib.Members

/-!
# Runs of the publisher adapter

A run registers publishers and spins, in any order.

* `run_agrees`: every cache is the table of the last PDO drained for each id.
* `runCalls`: the calls of a run in the order in which they are made.
* `run_cache_and_calls`: what the caches hold in every reachable state, and which calls a cycle
  makes on each publisher.
* `endCycleLaw_iff`: in which cycles `end_cycle` tells the truth about the configured ids.
-/

namespace EcatMiddleware.Core

open Pb Keyed

/-- A step of an adapter. -/
inductive Op where
  | register (channels : List ChannelRx) (ids : List EcatId)
  | spin (isOk : Bool) (queues : RxQueues)

def Op.apply (a : AdapterPublishers) : Op → AdapterPublishers
  | register channels ids => registerPublisher channels ids a
  | spin isOk queues => spinOnce isOk queues a

def run (ops : List Op) : AdapterPublishers := ops.foldl Op.apply {}

theorem run_concat (ops : List Op) (op : Op) : run (ops ++ [op]) = Op.apply (run ops) op := by
  simp [run, List.foldl_append]

/-- What a step drains from a channel. -/
def Op.drained (ch : ChannelRx) : Op → List EcSlavePdo
  | register _ _ => []
  | spin isOk queues => if isOk then queues ch.device else []

/-- Everything a run has drained from a channel, oldest first. -/
def drained (ops : List Op) (ch : ChannelRx) : List EcSlavePdo := ops.flatMap (Op.drained ch)

theorem drained_concat (ops : List Op) (op : Op) (ch : ChannelRx) :
    drained (ops ++ [op]) ch = drained ops ch ++ op.drained ch := by simp [drained]

/-! ## The caches of a run -/

/-- **The caches.** -/
theorem run_agrees (ops : List Op) (ch : ChannelRx) :
    ∃ cycle, ((run ops).cache ch).Agrees (drained ops ch) cycle := by
  induction ops using List.reverseRecOn with
  | nil => exact ⟨[], ChannelCache.Agrees.empty⟩
  | append_singleton ops op ih =>
    obtain ⟨cycle, h⟩ := ih
    rw [run_concat, drained_concat]
    cases op with
    | register channels ids =>
      rw [show (Op.register channels ids).drained ch = [] from rfl, List.append_nil]
      exact ⟨cycle, h⟩
    | spin isOk queues =>
      cases isOk with
      | false =>
        rw [show (Op.spin false queues).drained ch = [] from rfl, List.append_nil]
        exact ⟨cycle, h⟩
      | true =>
        refine ⟨queues ch.device, ?_⟩
        change (fillCache queues (run ops).cache ch).Agrees _ _
        rw [fillCache_apply]
        exact h.fillChannel (queues ch.device)

/-- After `fill_cache`, what is fresh is what this cycle drained. -/
theorem fillCache_agrees (ops : List Op) (queues : RxQueues) (ch : ChannelRx) :
    ∃ h, (fillCache queues (run ops).cache ch).Agrees h (queues ch.device) := by
  obtain ⟨cycle, h⟩ := run_agrees ops ch
  rw [fillCache_apply]
  exact ⟨_, h.fillChannel _⟩

/-! ## The calls of a cycle -/

/-- The calls a publisher has received in a run. -/
def callsOf (ops : List Op) (i : ℕ) : List Call :=
  ((run ops).subscriptions[i]?.map Subscription.publisher).getD []

/-- The calls that a further `spin_once` makes on publisher `i`. -/
def cycleCalls (ops : List Op) (i : ℕ) (queues : RxQueues) : List Call :=
  (callsOf (ops ++ [.spin true queues]) i).drop (callsOf ops i).length

theorem getElem?_spin (ops : List Op) (queues : RxQueues) (i : ℕ) :
    (run (ops ++ [.spin true queues])).subscriptions[i]? =
      (run ops).subscriptions[i]?.map
        (dispatchSubscription (fillCache queues (run ops).cache)) := by
  rw [run_concat]
  exact List.getElem?_map

/-- **The calls.** One cycle of the subscription `sub` in a reachable state. -/
theorem cycle_spec {ops : List Op} {i : ℕ} {sub : Subscription}
    (hsub : (run ops).subscriptions[i]? = some sub) (queues : RxQueues) :
    ∃ ids pdos, Consumes sub queues ids pdos ∧
      cycleCalls ops i queues = .beginCycle :: (pdos.map .consume ++
        [.endCycle (if sub.acceptAllIds then decide (ids ≠ [])
          else decide (ids.toFinset = sub.idsAllowed))]) ∧
      callsOf (ops ++ [.spin true queues]) i = callsOf ops i ++ cycleCalls ops i queues := by
  obtain ⟨ids, pdos, hcons, hdisp⟩ := dispatchSubscription_spec (fillCache_agrees ops queues) sub
  have hbefore : callsOf ops i = sub.publisher := by simp [callsOf, hsub]
  have hafter : callsOf (ops ++ [.spin true queues]) i =
      (dispatchSubscription (fillCache queues (run ops).cache) sub).publisher := by
    rw [callsOf, getElem?_spin, hsub]
    rfl
  refine ⟨ids, pdos, hcons, ?_, ?_⟩
  · rw [cycleCalls, hafter, hbefore, hdisp, List.drop_left]
  · rw [cycleCalls, hafter, hbefore, hdisp, List.drop_left]

/-- Registering calls no publisher. -/
theorem callsOf_register (ops : List Op) (channels : List ChannelRx) (ids : List EcatId) (i : ℕ) :
    callsOf (ops ++ [.register channels ids]) i = callsOf ops i := by
  have hsubs : (run (ops ++ [.register channels ids])).subscriptions =
      (run ops).subscriptions ++ [newSubscription channels ids] := by
    rw [run_concat]
    rfl
  rw [callsOf, callsOf, hsubs]
  rcases Nat.lt_trichotomy i (run ops).subscriptions.length with h | h | h
  · rw [List.getElem?_append_left h]
  · rw [h, List.getElem?_concat_length, List.getElem?_eq_none le_rfl]
    rfl
  · have hle : ((run ops).subscriptions ++ [newSubscription channels ids]).length ≤ i := by
      rw [List.length_append, List.length_singleton]
      omega
    rw [List.getElem?_eq_none hle, List.getElem?_eq_none h.le]

/-- With the transport down no publisher is called. -/
theorem callsOf_spin_false (ops : List Op) (queues : RxQueues) (i : ℕ) :
    callsOf (ops ++ [.spin false queues]) i = callsOf ops i := by
  rw [callsOf, run_concat]
  rfl

/-! ## The calls in their order -/

/-- The calls of one `dispatch`, publisher after publisher. -/
def dispatchCalls (ops : List Op) (queues : RxQueues) : List (ℕ × Call) :=
  Members.inTurn (run ops).subscriptions.length fun i => cycleCalls ops i queues

/-- The calls of a run, each with the place of the publisher that it is made on. -/
def runCalls (ops : List Op) : List (ℕ × Call) :=
  (List.range ops.length).flatMap fun k =>
    match ops[k]? with
    | some (Op.spin true queues) => dispatchCalls (ops.take k) queues
    | _ => []

theorem runCalls_concat (ops : List Op) (op : Op) :
    runCalls (ops ++ [op]) = runCalls ops ++ match op with
      | Op.spin true queues => dispatchCalls ops queues
      | _ => [] := by
  unfold runCalls
  rw [List.length_append, List.length_singleton, List.range_succ, List.flatMap_append,
    List.flatMap_singleton, List.getElem?_concat_length, List.take_left]
  congr 1
  · refine List.flatMap_congr fun k hk => ?_
    have hlt := List.mem_range.mp hk
    rw [List.getElem?_append_left hlt, List.take_append_of_le_length hlt.le]
  · cases op with
    | register channels ids => rfl
    | spin isOk queues => cases isOk <;> rfl

/-- What comes later changes none of the earlier calls. -/
theorem runCalls_append (ops more : List Op) :
    ∃ rest, runCalls (ops ++ more) = runCalls ops ++ rest := by
  induction more using List.reverseRecOn with
  | nil => exact ⟨[], by rw [List.append_nil, List.append_nil]⟩
  | append_singleton more op ih =>
    obtain ⟨rest, hrest⟩ := ih
    rw [← List.append_assoc, runCalls_concat, hrest, List.append_assoc]
    exact ⟨_, rfl⟩

/-- The calls of a cycle on one publisher. -/
theorem callsTo_dispatchCalls (ops : List Op) (queues : RxQueues) (i : ℕ) :
    callsOf (ops ++ [.spin true queues]) i =
      callsOf ops i ++ Members.callsTo i (dispatchCalls ops queues) := by
  unfold dispatchCalls
  by_cases hi : i < (run ops).subscriptions.length
  · rw [Members.callsTo_inTurn hi]
    obtain ⟨_, _, _, _, hcalls⟩ := cycle_spec (List.getElem?_eq_getElem hi) queues
    exact hcalls
  · have hnone : (run ops).subscriptions[i]? = none := List.getElem?_eq_none (by omega)
    rw [Members.callsTo_inTurn_of_le (by omega), callsOf, callsOf, getElem?_spin, hnone]
    rfl

/-- A publisher gets the calls that are made on it. -/
theorem callsTo_runCalls (ops : List Op) (i : ℕ) :
    Members.callsTo i (runCalls ops) = callsOf ops i := by
  induction ops using List.reverseRecOn with
  | nil => rfl
  | append_singleton ops op ih =>
    rw [runCalls_concat, Members.callsTo_append, ih]
    cases op with
    | register channels ids =>
      rw [callsOf_register]
      exact List.append_nil _
    | spin isOk queues =>
      cases isOk with
      | false =>
        rw [callsOf_spin_false]
        exact List.append_nil _
      | true => exact (callsTo_dispatchCalls ops queues i).symm

/-- Calls with what surrounds each of them: `consume` calls are PDOs with the surroundings. -/
theorem exists_fed {E : Type*} {pdos : List EcSlavePdo} :
    ∀ {timed : List (E × Call)}, timed.map Prod.snd = pdos.map .consume →
      ∃ fed : List (E × EcSlavePdo),
        timed = fed.map (fun f => (f.1, .consume f.2)) ∧ fed.map Prod.snd = pdos := by
  induction pdos with
  | nil => exact fun h => ⟨[], List.map_eq_nil_iff.mp h, rfl⟩
  | cons pdo pdos ih =>
    intro timed h
    obtain ⟨⟨clock, call⟩, rest, rfl, hcall, hrest⟩ := List.map_eq_cons_iff.mp h
    obtain ⟨fed, rfl, rfl⟩ := ih hrest
    obtain rfl : call = .consume pdo := hcall
    exact ⟨(clock, pdo) :: fed, rfl, rfl⟩

/-- The calls of a cycle with what surrounds each of them. -/
theorem exists_cycle {E : Type*} {pdos : List EcSlavePdo} {valid : Bool} {cycle : List (E × Call)}
    (hcycle : cycle.map Prod.snd = .beginCycle :: (pdos.map .consume ++ [.endCycle valid])) :
    ∃ (c₀ c₁ : E) (fed : List (E × EcSlavePdo)), fed.map Prod.snd = pdos ∧
      cycle = (c₀, .beginCycle) :: (fed.map (fun f => (f.1, .consume f.2)) ++
        [(c₁, .endCycle valid)]) := by
  obtain ⟨⟨c₀, call₀⟩, rest, rfl, hbegin, hrest⟩ := List.map_eq_cons_iff.mp hcycle
  obtain ⟨mid, last, rfl, hmid, hlast⟩ := List.map_eq_append_iff.mp hrest
  obtain ⟨⟨c₁, call₁⟩, rfl, hend⟩ := List.map_eq_singleton_iff.mp hlast
  obtain ⟨fed, rfl, rfl⟩ := exists_fed hmid
  obtain rfl : call₀ = .beginCycle := hbegin
  obtain rfl : call₁ = .endCycle valid := hend
  exact ⟨c₀, c₁, fed, rfl, rfl⟩

/-! ## Which PDO is delivered -/

/-- `p` is the last PDO of the queue `q` with index `id`. -/
def LastDrained (q : List EcSlavePdo) (id : Slot) (p : EcSlavePdo) : Prop :=
  ∃ q₁ q₂, q = q₁ ++ p :: q₂ ∧ p.HasIndex id.val ∧ ∀ p' ∈ q₂, ¬ p'.HasIndex id.val

/-- `p` is the last PDO with index `id` on the first of `channels` that has one. -/
def FirstDelivered (queues : RxQueues) (channels : List ChannelRx) (id : Slot)
    (p : EcSlavePdo) : Prop :=
  ∃ cs₁ ch cs₂, channels = cs₁ ++ ch :: cs₂ ∧
    (∀ c ∈ cs₁, ∀ p' ∈ queues c.device, ¬ p'.HasIndex id.val) ∧
    LastDrained (queues ch.device) id p

theorem latest_slot?_eq_some_iff {q : List EcSlavePdo} {id : Slot} {p : EcSlavePdo} :
    latest slot? id q = some p ↔ LastDrained q id p := by
  simp only [latest_eq_some_iff, LastDrained, ne_eq, slot?_eq_some_iff]

theorem latest_slot?_eq_none_iff {q : List EcSlavePdo} {id : Slot} :
    latest slot? id q = none ↔ ∀ p ∈ q, ¬ p.HasIndex id.val := by
  simp only [latest_eq_none_iff, ne_eq, slot?_eq_some_iff]

theorem delivered_eq_some_iff {queues : RxQueues} {channels : List ChannelRx} {id : Slot}
    {p : EcSlavePdo} :
    delivered queues channels id = some p ↔ FirstDelivered queues channels id p := by
  simp only [delivered, List.findSome?_eq_some_iff, FirstDelivered, latest_slot?_eq_some_iff,
    latest_slot?_eq_none_iff]
  constructor
  · rintro ⟨cs₁, ch, cs₂, hcs, hp, hnone⟩
    exact ⟨cs₁, ch, cs₂, hcs, hnone, hp⟩
  · rintro ⟨cs₁, ch, cs₂, hcs, hnone, hp⟩
    exact ⟨cs₁, ch, cs₂, hcs, hp, hnone⟩

/-- `id` is drained on one of the channels. -/
def DrainedOn (queues : RxQueues) (channels : List ChannelRx) (id : ℕ) : Prop :=
  ∃ ch ∈ channels, ∃ p ∈ queues ch.device, p.HasIndex id

theorem DrainedOn.mono {queues : RxQueues} {channels channels' : List ChannelRx} {id : ℕ}
    (h : DrainedOn queues channels id) (hsub : channels ⊆ channels') :
    DrainedOn queues channels' id := by
  obtain ⟨ch, hch, hp⟩ := h
  exact ⟨ch, hsub hch, hp⟩

theorem delivered_isSome_iff {queues : RxQueues} {channels : List ChannelRx} {id : Slot} :
    (delivered queues channels id).isSome ↔ DrainedOn queues channels id.val := by
  simp only [delivered, List.findSome?_isSome_iff, latest_isSome_iff, slot?_eq_some_iff,
    DrainedOn]

theorem FirstDelivered.hasIndex {queues : RxQueues} {channels : List ChannelRx} {id : Slot}
    {p : EcSlavePdo} (h : FirstDelivered queues channels id p) : p.HasIndex id.val := by
  obtain ⟨_, _, _, _, _, _, _, _, hp, _⟩ := h
  exact hp

theorem exists_left_of_forall₂ {α β : Type*} {R : α → β → Prop} {as : List α} {bs : List β}
    (h : List.Forall₂ R as bs) {b : β} (hb : b ∈ bs) : ∃ a ∈ as, R a b := by
  induction h with
  | nil => exact absurd hb List.not_mem_nil
  | cons hab _ ih =>
    rcases List.mem_cons.mp hb with rfl | hb
    · exact ⟨_, List.mem_cons_self, hab⟩
    · obtain ⟨a, ha, hr⟩ := ih hb
      exact ⟨a, List.mem_cons_of_mem _ ha, hr⟩

theorem exists_right_of_forall₂ {α β : Type*} {R : α → β → Prop} {as : List α} {bs : List β}
    (h : List.Forall₂ R as bs) {a : α} (ha : a ∈ as) : ∃ b ∈ bs, R a b :=
  exists_left_of_forall₂ h.flip ha

namespace Consumes

variable {sub : Subscription} {queues : RxQueues} {ids : List Slot} {pdos : List EcSlavePdo}

theorem forall₂ (h : Consumes sub queues ids pdos) :
    List.Forall₂ (FirstDelivered queues sub.channels) ids pdos := by
  have hmap : List.Forall₂ (fun id p => delivered queues sub.channels id = some p) ids pdos := by
    have := h.pdos_eq
    rw [← List.forall₂_eq_eq_eq, List.forall₂_map_left_iff, List.forall₂_map_right_iff] at this
    exact this.flip.imp fun _ _ he => he.symm
  exact hmap.imp fun _ _ he => delivered_eq_some_iff.mp he

/-- Every consumed PDO is the one of some id. -/
theorem exists_slot (h : Consumes sub queues ids pdos) {p : EcSlavePdo} (hp : p ∈ pdos) :
    ∃ id ∈ ids, FirstDelivered queues sub.channels id p :=
  exists_left_of_forall₂ h.forall₂ hp

/-- Every id has its PDO consumed. -/
theorem exists_pdo (h : Consumes sub queues ids pdos) {id : Slot} (hid : id ∈ ids) :
    ∃ p ∈ pdos, FirstDelivered queues sub.channels id p :=
  exists_right_of_forall₂ h.forall₂ hid

/-- The ids whose PDOs were consumed. -/
theorem exists_hasIndex_iff (h : Consumes sub queues ids pdos) (id : Slot) :
    (∃ p ∈ pdos, p.HasIndex id.val) ↔ id ∈ ids := by
  constructor
  · rintro ⟨p, hp, hidx⟩
    obtain ⟨j, hj, hdel⟩ := h.exists_slot hp
    have hval := hdel.hasIndex.unique hidx
    rwa [show id = j from Fin.ext (by exact_mod_cast hval.symm)]
  · intro hid
    obtain ⟨p, hp, hdel⟩ := h.exists_pdo hid
    exact ⟨p, hp, hdel.hasIndex⟩

theorem length_eq (h : Consumes sub queues ids pdos) : pdos.length = ids.length := by
  simpa using congrArg List.length h.pdos_eq

theorem pdos_eq_nil_iff (h : Consumes sub queues ids pdos) : pdos = [] ↔ ids = [] := by
  rw [← List.length_eq_zero_iff, h.length_eq, List.length_eq_zero_iff]

end Consumes

/-! ## The publishers of a run -/

/-- What is fixed when a publisher is registered. -/
def Subscription.IsOf (sub : Subscription) (channels : List ChannelRx) (ids : List EcatId) : Prop :=
  sub.channels = channels ∧ sub.acceptAllIds = ids.isEmpty ∧
    sub.idsAllowed = (newSubscription channels ids).idsAllowed

theorem Subscription.IsOf.dispatch {sub : Subscription} {channels : List ChannelRx}
    {ids : List EcatId} (h : sub.IsOf channels ids) (ops : List Op) (queues : RxQueues) :
    (dispatchSubscription (fillCache queues (run ops).cache) sub).IsOf channels ids := by
  obtain ⟨_, _, _, hdisp⟩ := dispatchSubscription_spec (fillCache_agrees ops queues) sub
  rw [hdisp]
  exact h

/-- A publisher keeps its place and its filter for the rest of the run. -/
theorem exists_registered (pre mid : List Op) (channels : List ChannelRx) (ids : List EcatId) :
    ∃ sub, (run (pre ++ .register channels ids :: mid)).subscriptions[
      (run pre).subscriptions.length]? = some sub ∧ sub.IsOf channels ids := by
  induction mid using List.reverseRecOn with
  | nil =>
    refine ⟨newSubscription channels ids, ?_, rfl, rfl, rfl⟩
    rw [run_concat]
    exact List.getElem?_concat_length
  | append_singleton mid op ih =>
    obtain ⟨sub, hsub, hof⟩ := ih
    rw [← List.cons_append, ← List.append_assoc]
    cases op with
    | register channels' ids' =>
      refine ⟨sub, ?_, hof⟩
      rw [run_concat]
      exact (List.getElem?_append_left (List.getElem?_eq_some_iff.mp hsub).1).trans hsub
    | spin isOk queues =>
      cases isOk with
      | false => exact ⟨sub, by rwa [run_concat], hof⟩
      | true =>
        refine ⟨_, ?_, hof.dispatch (pre ++ .register channels ids :: mid) queues⟩
        rw [getElem?_spin, hsub]
        rfl

/-- A publisher has its place from one registration. -/
theorem exists_register_of_getElem? {ops : List Op} {i : ℕ} {sub : Subscription}
    (h : (run ops).subscriptions[i]? = some sub) :
    ∃ pre channels ids mid, ops = pre ++ .register channels ids :: mid ∧
      (run pre).subscriptions.length = i ∧ sub.IsOf channels ids := by
  -- the registration that filled place `i`, for any publisher that has the place
  suffices hplace : ∃ pre channels ids mid, ops = pre ++ .register channels ids :: mid ∧
      (run pre).subscriptions.length = i by
    obtain ⟨pre, channels, ids, mid, rfl, rfl⟩ := hplace
    obtain ⟨sub', hsub', hof⟩ := exists_registered pre mid channels ids
    obtain rfl : sub' = sub := Option.some.inj (hsub'.symm.trans h)
    exact ⟨pre, channels, ids, mid, rfl, rfl, hof⟩
  induction ops using List.reverseRecOn generalizing sub with
  | nil => exact absurd h (by rintro ⟨⟩)
  | append_singleton ops op ih =>
    have hearlier : i < (run ops).subscriptions.length →
        ∃ pre channels ids mid, ops ++ [op] = pre ++ .register channels ids :: mid ∧
          (run pre).subscriptions.length = i := by
      intro hlt
      obtain ⟨pre, channels, ids, mid, hops, hi⟩ := ih (List.getElem?_eq_getElem hlt)
      exact ⟨pre, channels, ids, mid ++ [op], by rw [hops, List.append_assoc]; rfl, hi⟩
    obtain ⟨hlt, -⟩ := List.getElem?_eq_some_iff.mp h
    cases op with
    | register channels ids =>
      have hlength : (run (ops ++ [.register channels ids])).subscriptions.length =
          (run ops).subscriptions.length + 1 := by
        rw [run_concat]
        exact List.length_append
      rw [hlength] at hlt
      by_cases hi : i = (run ops).subscriptions.length
      · exact ⟨ops, channels, ids, [], rfl, hi.symm⟩
      · exact hearlier (by omega)
    | spin isOk queues =>
      refine hearlier ?_
      cases isOk with
      | false => rwa [run_concat] at hlt
      | true =>
        rw [run_concat] at hlt
        exact hlt.trans_eq (List.length_map _)

/-- **Caches and calls of every run.** Whatever was registered and however the PDOs arrived: each
cache lists exactly the ids it has drained, each once, and holds the last PDO drained for each;
the publishers are those that were registered, each with its channels and its filter; and the next
cycle calls every publisher with `begin_cycle`, then one `consume` for each id that its filter
allows and that this cycle drained on one of its channels, with the last such PDO of the first such
channel, then one `end_cycle`. -/
theorem run_cache_and_calls (ops : List Op) :
    (∀ ch, let c := (run ops).cache ch
      c.activeIds.Nodup ∧ (∀ id, id ∈ c.activeIds ↔ (c.entries id).valid = true) ∧
      ∀ id, (c.entries id).valid = true → (c.entries id).ecatId.toNat = id.val ∧
        LastDrained (drained ops ch) id (c.entries id).pdo) ∧
    (∀ i sub, (run ops).subscriptions[i]? = some sub →
      ∃ pre channels ids mid, ops = pre ++ .register channels ids :: mid ∧
        (run pre).subscriptions.length = i ∧ sub.IsOf channels ids) ∧
    (∀ pre channels ids mid, ops = pre ++ .register channels ids :: mid →
      ∃ sub, (run ops).subscriptions[(run pre).subscriptions.length]? = some sub ∧
        sub.IsOf channels ids) ∧
    ∀ (queues : RxQueues) (i : ℕ) (sub : Subscription), (run ops).subscriptions[i]? = some sub →
      ∃ ids pdos valid, ids.Nodup ∧
        (∀ id, id ∈ ids ↔ sub.Allows id ∧ DrainedOn queues sub.channels id.val) ∧
        List.Forall₂ (FirstDelivered queues sub.channels) ids pdos ∧
        callsOf (ops ++ [.spin true queues]) i = callsOf ops i ++
          .beginCycle :: (pdos.map .consume ++ [.endCycle valid]) := by
  refine ⟨fun ch => ?_, fun i sub hsub => exists_register_of_getElem? hsub, ?_,
    fun queues i sub hsub => ?_⟩
  · obtain ⟨cycle, h⟩ := run_agrees ops ch
    refine ⟨h.nodup, h.mem_iff, fun id hv => ⟨h.ecatId id hv, ?_⟩⟩
    rw [← latest_slot?_eq_some_iff, ← h.held_eq, ChannelCache.held, if_pos hv]
  · rintro pre channels ids mid rfl
    exact exists_registered pre mid channels ids
  · obtain ⟨ids, pdos, hcons, hcalls, hafter⟩ := cycle_spec hsub queues
    have hmem : ∀ id, id ∈ ids ↔ sub.Allows id ∧ DrainedOn queues sub.channels id.val :=
      fun id => by rw [hcons.mem_iff, delivered_isSome_iff]
    exact ⟨ids, pdos, _, hcons.nodup, hmem, hcons.forall₂, hafter.trans (congrArg _ hcalls)⟩

/-! ## What `end_cycle` is told -/

/-- The PDOs passed to `consume`. -/
def consumed (calls : List Call) : List EcSlavePdo :=
  calls.filterMap fun call => match call with
    | .consume pdo => some pdo
    | _ => none

theorem consumed_cycle (pdos : List EcSlavePdo) (valid : Bool) :
    consumed (.beginCycle :: (pdos.map .consume ++ [.endCycle valid])) = pdos := by
  simp [consumed, List.filterMap_append, List.filterMap_map]

theorem endCycle_true_mem_cycle (pdos : List EcSlavePdo) (valid : Bool) :
    Call.endCycle true ∈ .beginCycle :: (pdos.map .consume ++ [.endCycle valid]) ↔
      valid = true := by
  simp [eq_comm]

/-- `end_cycle(true)` is called exactly when every id of `ids` was consumed, or, for the empty
list, when anything was; and never when nothing was. -/
def EndCycleLaw (ids : List EcatId) (calls : List Call) : Prop :=
  (.endCycle true ∈ calls ↔
    if ids = [] then consumed calls ≠ []
    else ∀ id ∈ ids, ∃ p ∈ consumed calls, p.HasIndex id.toNat) ∧
  (.endCycle true ∈ calls → consumed calls ≠ [])

/-- With an id list, `end_cycle` is told whether every id of the mask was drained. -/
theorem valid_eq_true_iff {sub : Subscription} {queues : RxQueues} {slots : List Slot}
    {pdos : List EcSlavePdo} (h : Consumes sub queues slots pdos)
    (hall : sub.acceptAllIds = false) :
    slots.toFinset = sub.idsAllowed ↔
      ∀ id ∈ sub.idsAllowed, DrainedOn queues sub.channels id.val := by
  have hmem : ∀ id, id ∈ slots ↔ id ∈ sub.idsAllowed ∧ DrainedOn queues sub.channels id.val := by
    intro id
    rw [h.mem_iff, delivered_isSome_iff, Subscription.Allows, hall]
    simp
  constructor
  · intro he id hid
    exact ((hmem id).mp (List.mem_toFinset.mp (he ▸ hid))).2
  · intro hd
    ext id
    rw [List.mem_toFinset, hmem]
    exact ⟨fun hid => hid.1, fun hid => ⟨hid, hd id hid⟩⟩

/-- One cycle of a publisher that was registered with an id list. -/
theorem registered_cycle (pre mid : List Op) (channels : List ChannelRx) {ids : List EcatId}
    (hne : ids ≠ []) (queues : RxQueues) :
    ∃ sub slots pdos valid, Consumes sub queues slots pdos ∧ sub.channels = channels ∧
      (∀ id : Slot, id ∈ slots ↔
        (∃ x ∈ ids, x.toNat = id.val) ∧ DrainedOn queues channels id.val) ∧
      (valid = true ↔ ∀ x ∈ ids, x.toNat < maxEcatIds → DrainedOn queues channels x.toNat) ∧
      callsOf (pre ++ .register channels ids :: mid ++ [.spin true queues])
          (run pre).subscriptions.length =
        callsOf (pre ++ .register channels ids :: mid) (run pre).subscriptions.length ++
          .beginCycle :: (pdos.map .consume ++ [.endCycle valid]) := by
  obtain ⟨sub, hsub, rfl, hall, hmask⟩ := exists_registered pre mid channels ids
  obtain ⟨slots, pdos, hcons, hcalls, hafter⟩ := cycle_spec hsub queues
  have hall' : sub.acceptAllIds = false := by simpa [hall] using hne
  have hallowed : ∀ id, id ∈ sub.idsAllowed ↔ ∃ x ∈ ids, x.toNat = id.val := fun id => by
    rw [hmask, mem_idsAllowed_newSubscription]
  refine ⟨sub, slots, pdos, _, hcons, rfl, fun id => ?_, ?_, by rw [hafter, hcalls]⟩
  · rw [hcons.mem_iff, delivered_isSome_iff, Subscription.Allows, hallowed, hall']
    simp
  · simp only [hall', Bool.false_eq_true, if_false, decide_eq_true_eq]
    rw [valid_eq_true_iff hcons hall']
    constructor
    · intro h x hx hlt
      exact h ⟨x.toNat, hlt⟩ ((hallowed _).mpr ⟨x, hx, rfl⟩)
    · intro h id hid
      obtain ⟨x, hx, he⟩ := (hallowed id).mp hid
      rw [← he]
      exact h x hx (he ▸ id.isLt)

/-- A further cycle forwards a PDO of the device `id` to publisher `i`, when it comes to it: what
an earlier publisher raises ends the dispatch. -/
def Forwards (ops : List Op) (i : ℕ) (queues : RxQueues) (id : EcatId) : Prop :=
  ∃ pdo ∈ consumed (cycleCalls ops i queues), pdo.HasIndex id.toNat

/-- A publisher that was registered with an id list gets the PDOs of these ids, those from
`MaxEcatIds` on apart. -/
theorem forwards_iff (pre mid : List Op) (channels : List ChannelRx) {ids : List EcatId}
    (hne : ids ≠ []) (queues : RxQueues) (id : EcatId) :
    Forwards (pre ++ .register channels ids :: mid) (run pre).subscriptions.length queues id ↔
      id ∈ ids ∧ id.toNat < maxEcatIds ∧ DrainedOn queues channels id.toNat := by
  obtain ⟨sub, slots, pdos, valid, hcons, rfl, hslots, -, hafter⟩ :=
    registered_cycle pre mid channels hne queues
  unfold Forwards
  rw [cycleCalls, hafter, List.drop_left, consumed_cycle]
  constructor
  · rintro ⟨p, hp, hidx⟩
    obtain ⟨slot, hslot, hdel⟩ := hcons.exists_slot hp
    have hval : slot.val = id.toNat := Int.natCast_inj.mp (hdel.hasIndex.unique hidx)
    obtain ⟨⟨x, hx, hxslot⟩, hdrained⟩ := (hslots slot).mp hslot
    obtain rfl : x = id := UInt32.toNat_inj.mp (hxslot.trans hval)
    exact ⟨hx, hxslot ▸ slot.isLt, hxslot ▸ hdrained⟩
  · rintro ⟨hid, hlt, hd⟩
    exact (hcons.exists_hasIndex_iff ⟨id.toNat, hlt⟩).mpr ((hslots _).mpr ⟨⟨id, hid, rfl⟩, hd⟩)

/-- The registrations that are made before the first cycle, each with its channels and its ids. -/
def registrations (filters : List (List ChannelRx × List EcatId)) : List Op :=
  filters.map fun f => .register f.1 f.2

theorem length_run_registrations (filters : List (List ChannelRx × List EcatId)) :
    (run (registrations filters)).subscriptions.length = filters.length := by
  induction filters using List.reverseRecOn with
  | nil => rfl
  | append_singleton filters f ih =>
    have hconcat : registrations (filters ++ [f]) =
        registrations filters ++ [.register f.1 f.2] := List.map_append
    rw [hconcat, run_concat, List.length_append, ← ih]
    exact List.length_append

/-- **What is published of a device**: whatever happens after the registrations, a cycle forwards
a PDO of the device `id` to publisher `i` exactly if the id is one of its ids and below
`MaxEcatIds`, and was drained on one of its channels. -/
theorem forwards_registrations_iff {filters : List (List ChannelRx × List EcatId)} {i : ℕ}
    {channels : List ChannelRx} {ids : List EcatId} (hfilter : filters[i]? = some (channels, ids))
    (hne : ids ≠ []) (later : List Op) (queues : RxQueues) (id : EcatId) :
    Forwards (registrations filters ++ later) i queues id ↔
      id ∈ ids ∧ id.toNat < maxEcatIds ∧ DrainedOn queues channels id.toNat := by
  obtain ⟨before, after, rfl, rfl⟩ := Members.exists_split hfilter
  have hsplit : registrations (before ++ (channels, ids) :: after) =
      registrations before ++ .register channels ids :: registrations after := List.map_append
  have hforwards := forwards_iff (registrations before) (registrations after ++ later) channels
    hne queues id
  rw [length_run_registrations] at hforwards
  rwa [hsplit, List.append_assoc, List.cons_append]

/-- The same of a PDO that is drained on one of the channels. -/
theorem forwards_drained_iff {filters : List (List ChannelRx × List EcatId)} {i : ℕ}
    {channels : List ChannelRx} {ids : List EcatId} (hfilter : filters[i]? = some (channels, ids))
    {channel : ChannelRx} (hchannel : channel ∈ channels) {id : EcatId} (hid : id ∈ ids)
    (later : List Op) {queues : RxQueues} (hdrained : DrainedOn queues [channel] id.toNat) :
    Forwards (registrations filters ++ later) i queues id ↔ id.toNat < maxEcatIds := by
  have hsub : [channel] ⊆ channels := by
    intro channel' hin
    rwa [List.mem_singleton.mp hin]
  rw [forwards_registrations_iff hfilter (List.ne_nil_of_mem hid), and_iff_right hid]
  exact and_iff_left (hdrained.mono hsub)

/-- **When `end_cycle` tells the truth.** For a publisher registered with `ids` anywhere in a run,
a cycle obeys `EndCycleLaw` exactly when every configured id is below `MaxEcatIds`, or one that is
below it was not drained in this cycle. -/
theorem endCycleLaw_iff (pre mid : List Op) (channels : List ChannelRx) (ids : List EcatId)
    (queues : RxQueues) :
    EndCycleLaw ids (cycleCalls (pre ++ .register channels ids :: mid)
        (run pre).subscriptions.length queues) ↔
      (∀ id ∈ ids, id.toNat < maxEcatIds) ∨
        ∃ id ∈ ids, id.toNat < maxEcatIds ∧ ¬ DrainedOn queues channels id.toNat := by
  unfold EndCycleLaw
  by_cases hnil : ids = []
  · subst hnil
    obtain ⟨sub, hsub, rfl, hall, -⟩ := exists_registered pre mid channels []
    obtain ⟨slots, pdos, hcons, hcalls, -⟩ := cycle_spec hsub queues
    have hpdos : pdos ≠ [] ↔ slots ≠ [] := not_congr hcons.pdos_eq_nil_iff
    rw [hcalls, consumed_cycle, endCycle_true_mem_cycle]
    simp [hall, hpdos]
  -- a list was configured: `valid` compares the ids seen with the mask
  obtain ⟨sub, slots, pdos, valid, hcons, rfl, hslots, hvalid, hafter⟩ :=
    registered_cycle pre mid channels hnil queues
  have hconsumed : ∀ id ∈ ids, (∃ p ∈ pdos, p.HasIndex id.toNat) ↔
      id.toNat < maxEcatIds ∧ DrainedOn queues sub.channels id.toNat := by
    intro id hid
    have hforwards := forwards_iff pre mid sub.channels hnil queues id
    unfold Forwards at hforwards
    rw [cycleCalls, hafter, List.drop_left, consumed_cycle] at hforwards
    rw [hforwards]
    exact and_iff_right hid
  rw [cycleCalls, hafter, List.drop_left, consumed_cycle, endCycle_true_mem_cycle, hvalid,
    if_neg hnil]
  by_cases hin : ∀ id ∈ ids, id.toNat < maxEcatIds
  · refine iff_of_true ⟨?_, fun h hp => ?_⟩ (Or.inl hin)
    · exact forall₂_congr fun id hid => by simp [hconsumed id hid, hin id hid]
    · obtain ⟨id, hid⟩ := List.exists_mem_of_ne_nil ids hnil
      obtain ⟨p, hmem, _⟩ := (hconsumed id hid).mpr ⟨hin id hid, h id hid (hin id hid)⟩
      simp [hp] at hmem
  · -- an id out of range is never consumed, so the cycle has to be told apart from a full one
    have hnot : ¬ ∀ id ∈ ids, ∃ p ∈ pdos, p.HasIndex id.toNat := fun h =>
      hin fun id hid => ((hconsumed id hid).mp (h id hid)).1
    simp only [hnot, hin, iff_false, false_or]
    constructor
    · rintro ⟨h, -⟩
      push Not at h
      exact h
    · rintro ⟨id, hid, hlt, hd⟩
      have h : ¬ ∀ id ∈ ids, id.toNat < maxEcatIds → DrainedOn queues sub.channels id.toNat :=
        fun h => hd (h id hid hlt)
      exact ⟨h, fun h' => absurd h' h⟩

/-- A publisher configured with the id 300 alone: its mask is empty, so the cycle that drains
nothing ends with `end_cycle(true)`. -/
theorem empty_cycle_ends_valid :
    cycleCalls [.register [.motor] [300]] 0 (fun _ => []) = [.beginCycle, .endCycle true] ∧
      ¬ EndCycleLaw [300] (cycleCalls [.register [.motor] [300]] 0 fun _ => []) := by
  have h : cycleCalls [.register [.motor] [300]] 0 (fun _ => []) =
      [.beginCycle, .endCycle true] := by decide
  refine ⟨h, ?_⟩
  rw [h]
  simp [EndCycleLaw, consumed]

end EcatMiddleware.Core
