import EcatMiddleware.Core.PdoUtils
import EcatMiddleware.Core.AdapterRun
import Mathlib.Data.Finset.Card

/-!
# Discovery

`EcatDiscover` peeks at the receive queues until it has seen a PDO of every expected EtherCAT ID.

* An `EcatMap` carries what discovery guarantees of it: the metadata at an id is about that id.
* `mem_discoverOnce` says which ids one pass finds, and `discover_isSome_iff` when the loop of
  `discover` ends.
* `discovered_map`: an entry is made of the first PDO with its id and never changes, and the map
  that `discover` returns has the expected ids for keys.
-/

namespace EcatMiddleware.Core

open Pb

structure EcatMetadata where
  ecatId : EcatId
  name : String
  type : PdoType
  channel : ChannelRx
  device : DeviceTypeRx
  deriving DecidableEq, Repr

/-- The devices found, by id. -/
structure EcatMap where
  devices : AList fun _ : EcatId => EcatMetadata
  ecatId_eq : ∀ id device, devices.lookup id = some device → device.ecatId = id

namespace EcatMap

def empty : EcatMap := ⟨∅, by simp⟩

instance : Membership EcatId EcatMap := ⟨fun m id => id ∈ m.devices⟩

instance (id : EcatId) (m : EcatMap) : Decidable (id ∈ m) :=
  inferInstanceAs (Decidable (id ∈ m.devices))

def size (m : EcatMap) : ℕ := m.devices.keys.length

theorem mem_def {id : EcatId} {m : EcatMap} : id ∈ m ↔ id ∈ m.devices := Iff.rfl

theorem mem_iff_exists {id : EcatId} {m : EcatMap} :
    id ∈ m ↔ ∃ device, m.devices.lookup id = some device := by
  rw [mem_def, ← AList.lookup_isSome, Option.isSome_iff_exists]

theorem notMem_empty (id : EcatId) : id ∉ empty := AList.notMem_empty id

/-- `ecat_map.emplace`, for metadata that has its own key. -/
def emplace (device : EcatMetadata) (m : EcatMap) : EcatMap where
  devices := m.devices.insert device.ecatId device
  ecatId_eq := by
    intro id d h
    by_cases he : id = device.ecatId
    · subst he
      rw [AList.lookup_insert] at h
      rw [← Option.some.inj h]
    · rw [AList.lookup_insert_ne he] at h
      exact m.ecatId_eq id d h

@[simp] theorem mem_emplace {id : EcatId} {device : EcatMetadata} {m : EcatMap} :
    id ∈ m.emplace device ↔ id = device.ecatId ∨ id ∈ m := by
  rw [mem_def, emplace, AList.mem_insert, mem_def]

theorem size_eq (m : EcatMap) : m.size = m.devices.keys.toFinset.card := by
  rw [size, List.toFinset_card_of_nodup m.devices.keys_nodup]

end EcatMap

/-! ## Discovery -/

/-- The callback of `discover_once`, for a PDO on `channel`. -/
def discoverPdo (ecatIds : Finset EcatId) (channel : ChannelRx) (device : DeviceTypeRx)
    (ecatMap : EcatMap) (received : EcSlavePdo) : EcatMap :=
  match received.headerIndex? with
  | none => ecatMap
  | some parsedId =>
    if parsedId < 0 then ecatMap
    else
      let id := parsedId.toUInt32
      if id ∉ ecatIds ∨ id ∈ ecatMap then ecatMap
      else ecatMap.emplace {
        ecatId := id
        name := if received.header.strId = "" then ecatName id else received.header.strId
        type := received.type
        channel := channel
        device := device }

/-- `discover_once`: a look at what the queues hold. Nothing is taken from them. -/
def discoverOnce (ecatIds : Finset EcatId) (ecatMap : EcatMap) (queues : RxQueues) : EcatMap :=
  channelsArray.foldl (fun m channel =>
    match channel.deviceFor with
    | none => m
    | some device => (queues device).foldl (discoverPdo ecatIds channel device) m) ecatMap

/-- The loop of `discover` over the passes made so far. It is still running when `none`. -/
def discoverLoop (ecatIds : Finset EcatId) (ecatMap : EcatMap) : List RxQueues → Option EcatMap
  | [] => if ecatMap.size < ecatIds.card then none else some ecatMap
  | queues :: passes =>
    if ecatMap.size < ecatIds.card then
      discoverLoop ecatIds (discoverOnce ecatIds ecatMap queues) passes
    else some ecatMap

def discover (isOk : Bool) (ecatIds : Finset EcatId) (passes : List RxQueues) : Option EcatMap :=
  if !isOk then some .empty else discoverLoop ecatIds .empty passes

/-! ## What is found -/

theorem Int32.toUInt32_eq_iff (x : Int32) (id : EcatId) :
    ¬ x < 0 ∧ x.toUInt32 = id ↔ x.toInt = id.toNat := by
  have h := BitVec.toInt_eq_toNat_cond x.toBitVec
  have hx : x.toUInt32.toNat = x.toBitVec.toNat := rfl
  have hi : x.toInt = x.toBitVec.toInt := rfl
  have hz : (0 : Int32).toInt = 0 := rfl
  have := x.toBitVec.isLt
  rw [← UInt32.toNat_inj, hx, Int32.lt_iff_toInt_lt, hz, hi, h]
  split_ifs <;> omega

/-- The metadata that the callback makes of a PDO with index `id`. -/
def metadataOf (id : EcatId) (channel : ChannelRx) (device : DeviceTypeRx)
    (received : EcSlavePdo) : EcatMetadata where
  ecatId := id
  name := if received.header.strId = "" then ecatName id else received.header.strId
  type := received.type
  channel := channel
  device := device

theorem name_metadataOf_ne (id : EcatId) (channel : ChannelRx) (device : DeviceTypeRx)
    (received : EcSlavePdo) : (metadataOf id channel device received).name ≠ "" := by
  unfold metadataOf
  by_cases h : received.header.strId = ""
  · simp [h, ecatName]
  · simp [h]

/-- **One visit.** The entries stay, and a new one is made of this PDO. -/
theorem lookup_discoverPdo {ecatIds : Finset EcatId} {channel : ChannelRx} {device : DeviceTypeRx}
    {m : EcatMap} {p : EcSlavePdo} {id : EcatId} {d : EcatMetadata} :
    (discoverPdo ecatIds channel device m p).devices.lookup id = some d ↔
      m.devices.lookup id = some d ∨
        id ∉ m ∧ id ∈ ecatIds ∧ p.HasIndex id.toNat ∧ d = metadataOf id channel device p := by
  unfold discoverPdo EcSlavePdo.HasIndex
  cases hp : p.headerIndex? with
  | none => simp
  | some x =>
    simp only [Option.some.injEq, exists_eq_left']
    rw [← Int32.toUInt32_eq_iff]
    by_cases hneg : x < 0
    · simp [hneg]
    · simp only [hneg, if_false, not_false_eq_true, true_and]
      by_cases hc : x.toUInt32 ∉ ecatIds ∨ x.toUInt32 ∈ m
      · rw [if_pos hc]
        refine ⟨Or.inl, ?_⟩
        rintro (h | ⟨hnot, hin, rfl, -⟩)
        · exact h
        · exact absurd hc (not_or.mpr ⟨not_not.mpr hin, hnot⟩)
      · obtain ⟨hin, hnot⟩ := not_or.mp hc
        rw [if_neg hc]
        by_cases hid : id = x.toUInt32
        · subst hid
          have hnone : m.devices.lookup x.toUInt32 = none := AList.lookup_eq_none.mpr hnot
          rw [hnone]
          constructor
          · intro h
            exact Or.inr ⟨hnot, not_not.mp hin, rfl,
              (Option.some.inj (h.symm.trans (AList.lookup_insert _)))⟩
          · rintro (h | ⟨-, -, -, rfl⟩)
            · exact absurd h (by simp)
            · exact AList.lookup_insert _
        · rw [show (m.emplace _).devices.lookup id = m.devices.lookup id from
            AList.lookup_insert_ne hid]
          exact ⟨Or.inl, fun h => h.resolve_right fun h => hid h.2.2.1.symm⟩

/-- One visited PDO adds its index to the map when that is an expected id. -/
theorem mem_discoverPdo {ecatIds : Finset EcatId} {channel : ChannelRx} {device : DeviceTypeRx}
    {m : EcatMap} {p : EcSlavePdo} {id : EcatId} :
    id ∈ discoverPdo ecatIds channel device m p ↔ id ∈ m ∨ id ∈ ecatIds ∧ p.HasIndex id.toNat := by
  rw [EcatMap.mem_iff_exists, EcatMap.mem_iff_exists]
  simp only [lookup_discoverPdo, exists_or, exists_and_left, exists_eq, and_true]
  rw [EcatMap.mem_iff_exists]
  tauto

theorem mem_foldl_discoverPdo {ecatIds : Finset EcatId} {channel : ChannelRx}
    {device : DeviceTypeRx} {id : EcatId} (q : List EcSlavePdo) :
    ∀ m : EcatMap, id ∈ q.foldl (discoverPdo ecatIds channel device) m ↔
      id ∈ m ∨ id ∈ ecatIds ∧ ∃ p ∈ q, p.HasIndex id.toNat := by
  induction q with
  | nil => simp
  | cons p q ih =>
    intro m
    rw [List.foldl_cons, ih, mem_discoverPdo, List.exists_mem_cons_iff, and_or_left, or_assoc]

/-- `id` is the index of a PDO in some queue. -/
def Visible (queues : RxQueues) (id : EcatId) : Prop :=
  DrainedOn queues channelsArray id.toNat

/-- One pass adds every expected id that is visible in it. -/
theorem mem_discoverOnce {ecatIds : Finset EcatId} {m : EcatMap} {queues : RxQueues} {id : EcatId} :
    id ∈ discoverOnce ecatIds m queues ↔ id ∈ m ∨ id ∈ ecatIds ∧ Visible queues id := by
  unfold discoverOnce Visible DrainedOn
  simp only [ChannelRx.deviceFor_eq]
  induction channelsArray generalizing m with
  | nil => simp
  | cons ch chs ih =>
    rw [List.foldl_cons, ih, mem_foldl_discoverPdo, List.exists_mem_cons_iff, and_or_left, or_assoc]

/-! ## When the loop ends -/

/-- After any number of passes the map holds expected ids only. -/
def EcatMap.Within (m : EcatMap) (ecatIds : Finset EcatId) : Prop := ∀ id ∈ m, id ∈ ecatIds

theorem EcatMap.Within.discoverOnce {m : EcatMap} {ecatIds : Finset EcatId}
    (h : m.Within ecatIds) (queues : RxQueues) :
    (discoverOnce ecatIds m queues).Within ecatIds := by
  intro id hid
  rcases mem_discoverOnce.mp hid with hm | hm
  · exact h id hm
  · exact hm.1

/-- The loop goes on exactly while some expected id is missing. -/
theorem EcatMap.Within.size_lt_iff {m : EcatMap} {ecatIds : Finset EcatId} (h : m.Within ecatIds) :
    m.size < ecatIds.card ↔ ∃ id ∈ ecatIds, id ∉ m := by
  have hsub : m.devices.keys.toFinset ⊆ ecatIds := fun id hid =>
    h id (AList.mem_keys.mpr (List.mem_toFinset.mp hid))
  rw [m.size_eq]
  constructor
  · intro hlt
    obtain ⟨id, hid, hm⟩ := Finset.exists_mem_notMem_of_card_lt_card hlt
    exact ⟨id, hid, fun hin => hm (List.mem_toFinset.mpr (AList.mem_keys.mp hin))⟩
  · rintro ⟨id, hid, hm⟩
    refine Finset.card_lt_card (hsub.ssubset_of_mem_notMem hid fun hin => hm ?_)
    exact AList.mem_keys.mpr (List.mem_toFinset.mp hin)

theorem discoverLoop_isSome_iff {ecatIds : Finset EcatId} (passes : List RxQueues) :
    ∀ m : EcatMap, m.Within ecatIds → ((discoverLoop ecatIds m passes).isSome ↔
      ∀ id ∈ ecatIds, id ∈ m ∨ ∃ queues ∈ passes, Visible queues id) := by
  induction passes with
  | nil =>
    intro m hm
    unfold discoverLoop
    split_ifs with hlt
    · obtain ⟨id, hid, hnot⟩ := hm.size_lt_iff.mp hlt
      simpa using ⟨id, hid, hnot⟩
    · rw [hm.size_lt_iff] at hlt
      push Not at hlt
      simpa using hlt
  | cons queues passes ih =>
    intro m hm
    unfold discoverLoop
    split_ifs with hlt
    · rw [ih _ (hm.discoverOnce queues)]
      refine forall₂_congr fun id hid => ?_
      rw [mem_discoverOnce, List.exists_mem_cons_iff, or_assoc]
      exact or_congr_right (or_congr_left ⟨fun h => h.2, fun h => ⟨hid, h⟩⟩)
    · rw [hm.size_lt_iff] at hlt
      push Not at hlt
      simpa using fun id hid => Or.inl (hlt id hid)

/-- **Discovery ends** as soon as every expected id was visible in some pass, and not before. -/
theorem discover_isSome_iff (ecatIds : Finset EcatId) (passes : List RxQueues) :
    (discover true ecatIds passes).isSome ↔
      ∀ id ∈ ecatIds, ∃ queues ∈ passes, Visible queues id := by
  unfold discover
  rw [Bool.not_true, if_neg Bool.false_ne_true,
    discoverLoop_isSome_iff passes _ fun id hid => absurd hid (EcatMap.notMem_empty id)]
  simp [EcatMap.notMem_empty]

/-! ## What is recorded -/

/-- What the callback sees: a PDO, and the channel in whose queue it is. -/
abbrev Visit := ChannelRx × EcSlavePdo

/-- The visits of one pass, in order. -/
def visits (queues : RxQueues) : List Visit :=
  channelsArray.flatMap fun channel => (queues channel.device).map fun pdo => (channel, pdo)

def visitStep (ecatIds : Finset EcatId) (m : EcatMap) (visit : Visit) : EcatMap :=
  discoverPdo ecatIds visit.1 visit.1.device m visit.2

/-- The map at the point where these visits were made. -/
def mapAfter (ecatIds : Finset EcatId) (visited : List Visit) : EcatMap :=
  visited.foldl (visitStep ecatIds) .empty

/-- `device` is made of the first visit with the index `id`. -/
def MadeOfFirst (visited : List Visit) (id : EcatId) (device : EcatMetadata) : Prop :=
  ∃ before visit after, visited = before ++ visit :: after ∧ visit.2.HasIndex id.toNat ∧
    (∀ earlier ∈ before, ¬ earlier.2.HasIndex id.toNat) ∧
    device = metadataOf id visit.1 visit.1.device visit.2

section Visits

variable {ecatIds : Finset EcatId}

theorem discoverOnce_eq (m : EcatMap) (queues : RxQueues) :
    discoverOnce ecatIds m queues = (visits queues).foldl (visitStep ecatIds) m := by
  unfold discoverOnce visits visitStep
  simp only [ChannelRx.deviceFor_eq, List.foldl_flatMap, List.foldl_map]

theorem foldl_discoverOnce (passes : List RxQueues) :
    ∀ m, passes.foldl (discoverOnce ecatIds) m =
      (passes.flatMap visits).foldl (visitStep ecatIds) m := by
  induction passes with
  | nil => exact fun _ => rfl
  | cons queues passes ih =>
    intro m
    rw [List.foldl_cons, ih, discoverOnce_eq, List.flatMap_cons, List.foldl_append]

theorem mapAfter_concat (visited : List Visit) (visit : Visit) :
    mapAfter ecatIds (visited ++ [visit]) = visitStep ecatIds (mapAfter ecatIds visited) visit := by
  rw [mapAfter, List.foldl_append]
  rfl

/-- The ids that were visited so far are those in the map. -/
theorem mem_mapAfter {visited : List Visit} {id : EcatId} :
    id ∈ mapAfter ecatIds visited ↔
      id ∈ ecatIds ∧ ∃ visit ∈ visited, visit.2.HasIndex id.toNat := by
  induction visited using List.reverseRecOn with
  | nil => simp [mapAfter, EcatMap.notMem_empty]
  | append_singleton visited visit ih =>
    rw [mapAfter_concat, visitStep, mem_discoverPdo, ih, ← and_or_left]
    simp only [List.mem_append, List.mem_singleton, or_and_right, exists_or, exists_eq_left]

theorem madeOfFirst_of_lookup {visited : List Visit} {id : EcatId} {device : EcatMetadata}
    (h : (mapAfter ecatIds visited).devices.lookup id = some device) :
    MadeOfFirst visited id device := by
  induction visited using List.reverseRecOn with
  | nil => simp [mapAfter, EcatMap.empty] at h
  | append_singleton visited visit ih =>
    rw [mapAfter_concat, visitStep, lookup_discoverPdo] at h
    rcases h with h | ⟨hnot, hin, hindex, rfl⟩
    · obtain ⟨before, first, after, rfl, hfirst⟩ := ih h
      exact ⟨before, first, after ++ [visit], by simp, hfirst⟩
    · refine ⟨visited, visit, [], rfl, hindex, fun earlier hearlier hi => hnot ?_, rfl⟩
      exact mem_mapAfter.mpr ⟨hin, earlier, hearlier, hi⟩

theorem lookup_mapAfter_append {visited : List Visit} {id : EcatId} {device : EcatMetadata}
    (h : (mapAfter ecatIds visited).devices.lookup id = some device) (later : List Visit) :
    (mapAfter ecatIds (visited ++ later)).devices.lookup id = some device := by
  induction later using List.reverseRecOn with
  | nil => rwa [List.append_nil]
  | append_singleton later visit ih =>
    rw [← List.append_assoc, mapAfter_concat, visitStep, lookup_discoverPdo]
    exact Or.inl ih

/-- The loop returns the map of the passes that it made, once this is not too small. -/
theorem discoverLoop_eq_some {passes : List RxQueues} {m' : EcatMap} :
    ∀ {m : EcatMap}, discoverLoop ecatIds m passes = some m' →
      ∃ done rest, passes = done ++ rest ∧ m' = done.foldl (discoverOnce ecatIds) m ∧
        ¬ m'.size < ecatIds.card := by
  induction passes with
  | nil =>
    intro m h
    unfold discoverLoop at h
    split_ifs at h with hlt
    obtain rfl := Option.some.inj h
    exact ⟨[], [], rfl, rfl, hlt⟩
  | cons queues passes ih =>
    intro m h
    unfold discoverLoop at h
    split_ifs at h with hlt
    · obtain ⟨done, rest, rfl, hm', hsize⟩ := ih h
      exact ⟨queues :: done, rest, rfl, hm', hsize⟩
    · obtain rfl := Option.some.inj h
      exact ⟨[], queues :: passes, rfl, rfl, hlt⟩

end Visits

/-- **The map of discovery.** At every point of any passes the keys are the expected ids that were
visited so far, and each entry is made of the first PDO with its id and stays as it is. What
`discover` returns is the map after some of the passes, and its keys are the expected ids. -/
theorem discovered_map (ecatIds : Finset EcatId) (passes : List RxQueues) :
    passes.foldl (discoverOnce ecatIds) .empty = mapAfter ecatIds (passes.flatMap visits) ∧
    (∀ visited more, passes.flatMap visits = visited ++ more →
      (∀ id, id ∈ mapAfter ecatIds visited ↔
        id ∈ ecatIds ∧ ∃ visit ∈ visited, visit.2.HasIndex id.toNat) ∧
      ∀ id device, (mapAfter ecatIds visited).devices.lookup id = some device →
        MadeOfFirst visited id device ∧ device.name ≠ "" ∧
          ∀ later rest, more = later ++ rest →
            (mapAfter ecatIds (visited ++ later)).devices.lookup id = some device) ∧
    ∀ m, discover true ecatIds passes = some m →
      (∃ done rest, passes = done ++ rest ∧ m = mapAfter ecatIds (done.flatMap visits)) ∧
        ∀ id, id ∈ m ↔ id ∈ ecatIds := by
  refine ⟨foldl_discoverOnce passes .empty, fun visited more _ => ⟨?_, ?_⟩, fun m hm => ?_⟩
  · exact fun id => mem_mapAfter
  · intro id device h
    have hfirst := madeOfFirst_of_lookup h
    refine ⟨hfirst, ?_, fun later _ _ => lookup_mapAfter_append h later⟩
    obtain ⟨_, visit, _, _, _, _, rfl⟩ := hfirst
    exact name_metadataOf_ne id _ _ _
  · obtain ⟨done, rest, hpasses, hdone, hsize⟩ := discoverLoop_eq_some hm
    have hmap : m = mapAfter ecatIds (done.flatMap visits) :=
      hdone.trans (foldl_discoverOnce done .empty)
    have hwithin : m.Within ecatIds := fun id hid => (mem_mapAfter.mp (hmap ▸ hid)).1
    refine ⟨⟨done, rest, hpasses, hmap⟩, fun id => ⟨hwithin id, fun hid => ?_⟩⟩
    by_contra hnot
    exact hsize (hwithin.size_lt_iff.mpr ⟨id, hid, hnot⟩)

/-! ## Resolving types -/

/-- `resolve_type`: the type of a device, in whatever map of devices. -/
def resolveType (devices : AList fun _ : EcatId => EcatMetadata) (ecatId : EcatId) : PdoType :=
  match devices.lookup ecatId with
  | some device => device.type
  | none => .unspecified

end EcatMiddleware.Core
