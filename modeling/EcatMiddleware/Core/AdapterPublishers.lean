import EcatMiddleware.Core.Channel
import EcatMiddleware.Data.Protobuf
import EcatMiddleware.Lib.Collect
import EcatMiddleware.Lib.Latest
import Mathlib.Data.Fintype.Basic
import Mathlib.Algebra.Group.Nat.Defs

/-!
# The publisher adapter

`AdapterPublishers` drains the receive queues of the shared memory into one cache per channel and
forwards what was updated in the cycle to the registered publishers. A publisher is known here by
the calls it receives: `Call` is the interface `IPublisher`.

* `registerPublisher`, `fillCache`, `dispatch` and `spinOnce` are the functions of the source.
* `Agrees.fillChannel` says what one drain leaves in a cache, and `dispatchSubscription_spec` which
  calls one cycle makes on a publisher.
-/

namespace EcatMiddleware.Core

open Pb Keyed

/-- An EtherCAT ID, `std::uint32_t`. -/
abbrev EcatId := UInt32

/-- Maximum supported EtherCAT ID. -/
def maxEcatIds : ℕ := 256

/-- An index of the cache arrays: an EtherCAT ID that passed the range check. -/
abbrev Slot := Fin maxEcatIds

/-- `std::bitset<MaxEcatIds>`, as the set of its set bits. -/
abbrev IdMask := Finset Slot

structure PdoCache where
  valid : Bool := false
  updatedThisCycle : Bool := false
  ecatId : EcatId := 0
  pdo : EcSlavePdo := {}

structure ChannelCache where
  entries : Slot → PdoCache := fun _ => {}
  activeIds : List Slot := []

abbrev Cache := ChannelRx → ChannelCache

/-- The calls an `IPublisher` receives. -/
inductive Call where
  | beginCycle
  | consume (pdo : EcSlavePdo)
  | endCycle (valid : Bool)
  deriving DecidableEq, Repr

/-- A registered publisher with its filter. `publisher` lists the calls it has received. -/
structure Subscription where
  publisher : List Call := []
  channels : List ChannelRx
  idsAllowed : IdMask := ∅
  idsSeen : IdMask := ∅
  acceptAllIds : Bool := true

structure AdapterPublishers where
  subscriptions : List Subscription := []
  cache : Cache := fun _ => {}

/-! ## Registration -/

/-- The loop of `register_publisher`: ids out of range and duplicates are logged and skipped. -/
def allowIds : IdMask → List EcatId → IdMask
  | allowed, [] => allowed
  | allowed, id :: ids =>
    if h : id.toNat < maxEcatIds then
      if ⟨id.toNat, h⟩ ∈ allowed then allowIds allowed ids
      else allowIds (insert ⟨id.toNat, h⟩ allowed) ids
    else allowIds allowed ids

/-- The subscription that `register_publisher` appends. -/
def newSubscription (channels : List ChannelRx) (ids : List EcatId) : Subscription where
  channels := channels
  acceptAllIds := ids.isEmpty
  idsAllowed := allowIds ∅ ids

def registerPublisher (channels : List ChannelRx) (ids : List EcatId) (a : AdapterPublishers) :
    AdapterPublishers :=
  { a with subscriptions := a.subscriptions ++ [newSubscription channels ids] }

/-! ## Filling the cache -/

/-- The slot of a received PDO: its header index, cast to `uint32_t`, when below `MaxEcatIds`. -/
def slot? (received : EcSlavePdo) : Option Slot :=
  match received.headerIndex? with
  | none => none
  | some index =>
    let id := index.toUInt32
    if h : id.toNat < maxEcatIds then some ⟨id.toNat, h⟩ else none

/-- The drain callback of `fill_cache`. -/
def ChannelCache.store (cache : ChannelCache) (received : EcSlavePdo) : ChannelCache :=
  match slot? received with
  | none => cache
  | some id =>
    { entries := Function.update cache.entries id
        { valid := true, updatedThisCycle := true, ecatId := UInt32.ofNat id, pdo := received }
      activeIds := if (cache.entries id).valid then cache.activeIds else cache.activeIds ++ [id] }

/-- The loop that marks the cached entries as not updated. -/
def ChannelCache.newCycle (cache : ChannelCache) : ChannelCache :=
  { cache with
    entries := cache.activeIds.foldl
      (fun e id => Function.update e id { e id with updatedThisCycle := false }) cache.entries }

/-- One channel of `fill_cache`: `drained` is what the queue of its device holds. -/
def fillChannel (cache : ChannelCache) (drained : List EcSlavePdo) : ChannelCache :=
  drained.foldl ChannelCache.store cache.newCycle

/-- What the receive queues hold when a cycle drains them. -/
abbrev RxQueues := DeviceTypeRx → List EcSlavePdo

/-- `fill_cache`: every channel in turn. -/
def fillCache (queues : RxQueues) (cache : Cache) : Cache :=
  channelsArray.foldl (fun cache ch =>
    match ch.deviceFor with
    | none => cache
    | some device => Function.update cache ch (fillChannel (cache ch) (queues device))) cache

/-! ## Dispatching -/

/-- One id of `dispatch_cache`. -/
def dispatchId (cache : ChannelCache) (sub : Subscription) (id : Slot) : Subscription :=
  let entry := cache.entries id
  if !entry.updatedThisCycle then sub
  else if !sub.acceptAllIds && decide (id ∉ sub.idsAllowed) then sub
  else if id ∈ sub.idsSeen then sub
  else { sub with
    idsSeen := insert id sub.idsSeen
    publisher := sub.publisher ++ [Call.consume entry.pdo] }

/-- `dispatch_cache`: the updated ids of one channel. -/
def dispatchCache (cache : ChannelCache) (sub : Subscription) : Subscription :=
  cache.activeIds.foldl (dispatchId cache) sub

/-- The `valid` that `dispatch` hands to `end_cycle`. -/
def Subscription.cycleValid (sub : Subscription) : Bool :=
  if sub.acceptAllIds then decide sub.idsSeen.Nonempty else decide (sub.idsSeen = sub.idsAllowed)

/-- One subscription of `dispatch`. -/
def dispatchSubscription (cache : Cache) (sub : Subscription) : Subscription :=
  let sub := { sub with idsSeen := ∅, publisher := sub.publisher ++ [Call.beginCycle] }
  let sub := sub.channels.foldl (fun s ch => dispatchCache (cache ch) s) sub
  { sub with publisher := sub.publisher ++ [Call.endCycle sub.cycleValid] }

def dispatch (a : AdapterPublishers) : AdapterPublishers :=
  { a with subscriptions := a.subscriptions.map (dispatchSubscription a.cache) }

/-- `spin_once`: `isOk` is the state of the transport, `queues` what has arrived. -/
def spinOnce (isOk : Bool) (queues : RxQueues) (a : AdapterPublishers) : AdapterPublishers :=
  if !isOk then a else dispatch { a with cache := fillCache queues a.cache }

/-! ## Slots -/

theorem Int32.toInt_eq_iff (x : Int32) {n : ℕ} (hn : n < 2 ^ 31) :
    x.toInt = n ↔ x.toUInt32.toNat = n := by
  have h := BitVec.toInt_eq_toNat_cond x.toBitVec
  have hx : x.toUInt32.toNat = x.toBitVec.toNat := rfl
  have hi : x.toInt = x.toBitVec.toInt := rfl
  rw [hi, hx, h]
  have := x.toBitVec.isLt
  split_ifs <;> omega

/-- The cast to `uint32_t` takes no negative index into the table. -/
theorem slot?_eq_some_iff {p : EcSlavePdo} {id : Slot} :
    slot? p = some id ↔ p.HasIndex id.val := by
  have hid : id.val < 2 ^ 31 := id.isLt.trans (by decide)
  unfold slot? EcSlavePdo.HasIndex
  cases h : p.headerIndex? with
  | none => simp
  | some index =>
    simp only [Option.some.injEq, exists_eq_left']
    rw [Int32.toInt_eq_iff index hid]
    split_ifs with hlt
    · simp [Fin.ext_iff]
    · refine iff_of_false (by simp) fun he => hlt ?_
      rw [he]
      exact id.isLt

/-! ## Registration -/

theorem mem_allowIds {ids : List EcatId} {id : Slot} :
    ∀ {allowed : IdMask}, id ∈ allowIds allowed ids ↔
      id ∈ allowed ∨ ∃ x ∈ ids, x.toNat = id.val := by
  induction ids with
  | nil => simp [allowIds]
  | cons x xs ih =>
    intro allowed
    unfold allowIds
    simp only [List.mem_cons, exists_eq_or_imp]
    split_ifs with hlt hmem
    · rw [ih]
      refine ⟨fun h => h.imp_right Or.inr, ?_⟩
      rintro (h | h | h)
      · exact Or.inl h
      · exact Or.inl (by rwa [show id = ⟨x.toNat, hlt⟩ from Fin.ext h.symm])
      · exact Or.inr h
    · rw [ih, Finset.mem_insert, Fin.ext_iff, eq_comm (a := id.val)]
      tauto
    · rw [ih]
      refine ⟨fun h => h.imp_right Or.inr, ?_⟩
      rintro (h | h | h)
      · exact Or.inl h
      · exact absurd (h ▸ id.isLt) hlt
      · exact Or.inr h

/-- The mask holds the configured ids that are in range. -/
theorem mem_idsAllowed_newSubscription {channels : List ChannelRx} {ids : List EcatId} {id : Slot} :
    id ∈ (newSubscription channels ids).idsAllowed ↔ ∃ x ∈ ids, x.toNat = id.val := by
  simp [newSubscription, mem_allowIds]

/-- The filter of a subscription lets `id` through. -/
def Subscription.Allows (sub : Subscription) (id : Slot) : Prop :=
  sub.acceptAllIds = true ∨ id ∈ sub.idsAllowed

instance (sub : Subscription) : DecidablePred sub.Allows := fun _ =>
  inferInstanceAs (Decidable (_ ∨ _))

/-- A subscription depends on which ids are configured only. -/
theorem newSubscription_congr (channels : List ChannelRx) {ids ids' : List EcatId}
    (h : ∀ id, id ∈ ids ↔ id ∈ ids') :
    newSubscription channels ids = newSubscription channels ids' := by
  have hempty : ids.isEmpty = ids'.isEmpty := by
    rw [Bool.eq_iff_iff, List.isEmpty_iff, List.isEmpty_iff, List.eq_nil_iff_forall_not_mem,
      List.eq_nil_iff_forall_not_mem]
    exact forall_congr' fun id => not_congr (h id)
  have hmask : allowIds ∅ ids = allowIds ∅ ids' := by
    ext slot
    rw [mem_allowIds, mem_allowIds]
    simp only [h]
  unfold newSubscription
  rw [hempty, hmask]

/-- With a list of ids, the filter lets these through. -/
theorem allows_newSubscription {channels : List ChannelRx} {ids : List EcatId} (hne : ids ≠ [])
    {id : EcatId} (hid : id.toNat < maxEcatIds) :
    (newSubscription channels ids).Allows ⟨id.toNat, hid⟩ ↔ id ∈ ids := by
  have hlist : (newSubscription channels ids).acceptAllIds = false := by
    simpa [newSubscription] using hne
  rw [Subscription.Allows, hlist, mem_idsAllowed_newSubscription]
  simp [UInt32.toNat_inj]

/-! ## The cache -/

namespace ChannelCache

/-- The table a cache stands for: the last PDO of every id that was ever drained. -/
def held (c : ChannelCache) (id : Slot) : Option EcSlavePdo :=
  if (c.entries id).valid then some (c.entries id).pdo else none

/-- The part of the table that was updated in this cycle. -/
def fresh (c : ChannelCache) (id : Slot) : Option EcSlavePdo :=
  if (c.entries id).updatedThisCycle then some (c.entries id).pdo else none

/-- The cache `c` after `history` was drained from its channel, `cycle` of it in this cycle. -/
structure Agrees (c : ChannelCache) (history cycle : List EcSlavePdo) : Prop where
  nodup : c.activeIds.Nodup
  mem_iff : ∀ id, id ∈ c.activeIds ↔ (c.entries id).valid = true
  valid_of_updated : ∀ id, (c.entries id).updatedThisCycle = true → (c.entries id).valid = true
  ecatId : ∀ id, (c.entries id).valid = true → (c.entries id).ecatId.toNat = id.val
  held_eq : ∀ id, c.held id = latest slot? id history
  fresh_eq : ∀ id, c.fresh id = latest slot? id cycle

theorem Agrees.empty : Agrees {} [] [] where
  nodup := List.nodup_nil
  mem_iff := by simp
  valid_of_updated := by simp
  ecatId := by simp
  held_eq := by simp [held]
  fresh_eq := by simp [fresh]

/-- One drained PDO. -/
theorem Agrees.store {c : ChannelCache} {history cycle : List EcSlavePdo}
    (h : c.Agrees history cycle) (p : EcSlavePdo) :
    (c.store p).Agrees (history ++ [p]) (cycle ++ [p]) := by
  unfold ChannelCache.store
  cases hp : slot? p with
  | none =>
    have hne : ∀ id, slot? p ≠ some id := by simp [hp]
    exact { h with
      held_eq := fun id => by rw [latest_concat_ne _ _ (hne id)]; exact h.held_eq id
      fresh_eq := fun id => by rw [latest_concat_ne _ _ (hne id)]; exact h.fresh_eq id }
  | some slot =>
    have hslot : slot.val % 2 ^ 32 = slot.val :=
      Nat.mod_eq_of_lt (slot.isLt.trans (by decide))
    refine ⟨?_, fun id => ?_, fun id => ?_, fun id => ?_, fun id => ?_, fun id => ?_⟩
    · by_cases hv : (c.entries slot).valid
      · simpa only [hv, if_true] using h.nodup
      · simp only [hv, Bool.false_eq_true, if_false]
        rw [← List.concat_eq_append]
        exact h.nodup.concat fun hm => hv ((h.mem_iff slot).mp hm)
    all_goals by_cases hid : id = slot
    · subst hid
      by_cases hv : (c.entries id).valid
      · simpa [hv] using (h.mem_iff id).mpr hv
      · simp [hv]
    · by_cases hv : (c.entries slot).valid <;> simp [hv, hid, h.mem_iff]
    · simp [hid]
    · simpa [hid] using h.valid_of_updated id
    · simpa [hid] using hslot
    · simpa [hid] using h.ecatId id
    · subst hid
      simp [held, latest_concat_self _ _ hp]
    · rw [latest_concat_ne _ _ (by simpa [hp] using Ne.symm hid), ← h.held_eq]
      simp [held, hid]
    · subst hid
      simp [fresh, latest_concat_self _ _ hp]
    · rw [latest_concat_ne _ _ (by simpa [hp] using Ne.symm hid), ← h.fresh_eq]
      simp [fresh, hid]

theorem entries_newCycle (c : ChannelCache) (id : Slot) :
    c.newCycle.entries id =
      if id ∈ c.activeIds then { c.entries id with updatedThisCycle := false }
      else c.entries id := by
  unfold newCycle
  -- from the last id backwards: the loop overwrites an entry with what it already wrote
  induction c.activeIds using List.reverseRecOn with
  | nil => rfl
  | append_singleton ids i ih =>
    simp only [List.foldl_append, List.foldl_cons, List.foldl_nil, List.mem_append,
      List.mem_singleton] at ih ⊢
    by_cases hi : id = i
    · subst hi
      rw [Function.update_self, ih]
      split_ifs <;> simp_all
    · rw [Function.update_of_ne hi, ih]
      simp [hi]

/-- A new cycle has nothing fresh, and forgets nothing. -/
theorem Agrees.newCycle {c : ChannelCache} {history cycle : List EcSlavePdo}
    (h : c.Agrees history cycle) : c.newCycle.Agrees history [] := by
  have hvalid : ∀ id, (c.newCycle.entries id).valid = (c.entries id).valid := fun id => by
    rw [entries_newCycle]; split_ifs <;> rfl
  have hupd : ∀ id, (c.newCycle.entries id).updatedThisCycle = false := fun id => by
    rw [entries_newCycle]
    split_ifs with hid
    · rfl
    · rw [h.mem_iff] at hid
      exact Bool.eq_false_iff.mpr fun hu => hid (h.valid_of_updated id hu)
  refine ⟨h.nodup, fun id => ?_, fun id hu => ?_, fun id hv => ?_, fun id => ?_, fun id => ?_⟩
  · rw [hvalid]
    exact h.mem_iff id
  · rw [hupd] at hu
    exact absurd hu (by decide)
  · rw [hvalid] at hv
    rw [entries_newCycle]
    split_ifs <;> exact h.ecatId id hv
  · rw [← h.held_eq, held, held, hvalid, entries_newCycle]
    split_ifs <;> rfl
  · simp [fresh, hupd]

/-- **Draining.** After one drain the cache holds the last PDO of every id, and marks as updated
exactly what this drain delivered. -/
theorem Agrees.fillChannel {c : ChannelCache} {history cycle : List EcSlavePdo}
    (h : c.Agrees history cycle) (drained : List EcSlavePdo) :
    (fillChannel c drained).Agrees (history ++ drained) drained := by
  unfold Core.fillChannel
  induction drained using List.reverseRecOn with
  | nil => simpa using h.newCycle
  | append_singleton l p ih =>
    rw [List.foldl_append, ← List.append_assoc]
    exact ih.store p

end ChannelCache

/-- `fill_cache` drains every channel once. -/
theorem fillCache_apply (queues : RxQueues) (cache : Cache) (ch : ChannelRx) :
    fillCache queues cache ch = fillChannel (cache ch) (queues ch.device) := by
  cases ch <;>
    simp [fillCache, channelsArray, Function.update, ChannelRx.device]

/-! ## The calls of one cycle -/

/-- The table of a channel as `dispatch_cache` reads it. -/
def ChannelCache.table (c : ChannelCache) : Table Slot EcSlavePdo := ⟨c.activeIds, c.fresh⟩

/-- `sub` when in this cycle it has seen the ids `s.1` and consumed `s.2`. -/
def Subscription.collected (sub : Subscription) (s : IdMask × List EcSlavePdo) : Subscription :=
  { sub with idsSeen := s.1, publisher := sub.publisher ++ s.2.map .consume }

theorem dispatchId_collected (c : ChannelCache) (sub : Subscription)
    (s : IdMask × List EcSlavePdo) (id : Slot) :
    dispatchId c (sub.collected s) id =
      sub.collected (collectKey (fun k => decide (sub.Allows k)) c.fresh s id) := by
  unfold dispatchId collectKey ChannelCache.fresh Subscription.Allows Subscription.collected
  by_cases hu : (c.entries id).updatedThisCycle
  · by_cases ha : sub.acceptAllIds = true ∨ id ∈ sub.idsAllowed
    · have ha' : ¬ (sub.acceptAllIds = false ∧ id ∉ sub.idsAllowed) := by
        rintro ⟨h₁, h₂⟩
        simp [h₁, h₂] at ha
      by_cases hs : id ∈ s.1 <;> simp [hu, ha, ha', hs]
    · have ha' : sub.acceptAllIds = false ∧ id ∉ sub.idsAllowed := by simpa using ha
      simp [hu, ha']
  · simp [hu]

/-- `dispatch` over the channels of a subscription collects from their tables. -/
theorem foldl_dispatchCache (cache : Cache) (sub : Subscription) (channels : List ChannelRx)
    (s : IdMask × List EcSlavePdo) :
    channels.foldl (fun sub ch => dispatchCache (cache ch) sub) (sub.collected s) =
      sub.collected (collect (fun k => decide (sub.Allows k))
        (channels.map fun ch => (cache ch).table) s) := by
  rw [collect, List.foldl_map]
  refine List.foldl_hom sub.collected fun s ch => ?_
  exact List.foldl_hom sub.collected fun s id => dispatchId_collected (cache ch) sub s id

/-- The PDO that a subscription to `channels` consumes for `id` when `queues` were drained: the
last one with that index on the first channel that has one. -/
def delivered (queues : RxQueues) (channels : List ChannelRx) (id : Slot) : Option EcSlavePdo :=
  channels.findSome? fun ch => latest slot? id (queues ch.device)

/-- `pdos` are the PDOs of `ids`, which are the ids that `sub` allows among those delivered. -/
structure Consumes (sub : Subscription) (queues : RxQueues) (ids : List Slot)
    (pdos : List EcSlavePdo) : Prop where
  nodup : ids.Nodup
  mem_iff : ∀ id, id ∈ ids ↔ sub.Allows id ∧ (delivered queues sub.channels id).isSome
  pdos_eq : pdos.map some = ids.map (delivered queues sub.channels)

theorem delivered_eq_firstEntry {cache : Cache} {queues : RxQueues}
    (hc : ∀ ch, ∃ h, (cache ch).Agrees h (queues ch.device)) (channels : List ChannelRx) :
    firstEntry (channels.map fun ch => (cache ch).table) = delivered queues channels := by
  funext id
  rw [firstEntry, List.findSome?_map, delivered]
  congr 1
  funext ch
  exact (hc ch).choose_spec.fresh_eq id

/-- **One cycle of one subscription.** The publisher receives `begin_cycle`, the PDOs delivered
for the ids its filter allows, each id once, and `end_cycle`. -/
theorem dispatchSubscription_spec {cache : Cache} {queues : RxQueues}
    (hc : ∀ ch, ∃ h, (cache ch).Agrees h (queues ch.device)) (sub : Subscription) :
    ∃ ids pdos, Consumes sub queues ids pdos ∧
      dispatchSubscription cache sub =
        { sub with
          idsSeen := ids.toFinset
          publisher := sub.publisher ++ (.beginCycle :: (pdos.map .consume ++
            [.endCycle (if sub.acceptAllIds then decide (ids ≠ [])
              else decide (ids.toFinset = sub.idsAllowed))])) } := by
  have hkeys : ∀ t ∈ sub.channels.map fun ch => (cache ch).table,
      ∀ id, (t.entry id).isSome → id ∈ t.keys := by
    intro t ht id hid
    obtain ⟨ch, -, rfl⟩ := List.mem_map.mp ht
    obtain ⟨h, hagree⟩ := hc ch
    refine (hagree.mem_iff id).mpr (hagree.valid_of_updated id ?_)
    by_contra hu
    simp [ChannelCache.table, ChannelCache.fresh, hu] at hid
  obtain ⟨ids, pdos, hnd, hmem, hseen, hout, hpdos⟩ :=
    collect_spec (fun k => decide (sub.Allows k)) hkeys (∅, [])
  rw [delivered_eq_firstEntry hc] at hmem hpdos
  refine ⟨ids, pdos, ⟨hnd, fun id => by simpa using hmem id, hpdos⟩, ?_⟩
  -- the loop over the channels, from the state that `begin_cycle` leaves
  have hfold : sub.channels.foldl (fun s ch => dispatchCache (cache ch) s)
      { sub with idsSeen := ∅, publisher := sub.publisher ++ [.beginCycle] } =
      { sub with
        idsSeen := ids.toFinset
        publisher := sub.publisher ++ [.beginCycle] ++ pdos.map .consume } := by
    have h := foldl_dispatchCache cache
      { sub with idsSeen := ∅, publisher := sub.publisher ++ [.beginCycle] } sub.channels (∅, [])
    simp only [Subscription.collected, List.map_nil, List.append_nil] at h
    refine h.trans ?_
    change ({ sub with
      idsSeen := (collect (fun k => decide (sub.Allows k)) _ (∅, [])).1
      publisher := _ ++ (collect (fun k => decide (sub.Allows k)) _ (∅, [])).2.map .consume } :
        Subscription) = _
    rw [hseen, hout, Finset.empty_union, List.nil_append]
  have hne : ids.toFinset.Nonempty ↔ ids ≠ [] := by
    rw [Finset.nonempty_iff_ne_empty, ne_eq, List.toFinset_eq_empty_iff]
  simp only [dispatchSubscription, hfold, Subscription.cycleValid, hne]
  simp

end EcatMiddleware.Core
