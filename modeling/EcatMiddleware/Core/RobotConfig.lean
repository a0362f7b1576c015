import EcatMiddleware.Core.ConfigFile
import EcatMiddleware.Core.EcatDiscover

/-!
# The robot configuration

`parse_robot_config` reads the identity of the robot and the map from EtherCAT IDs to device names.

* `mem_parseRobotConfig`: the ids of the map are the numbers that the keys of the document denote.
* `carriesAll_iff`: which accepted configurations discovery, the id masks and the caches carry.
-/

namespace EcatMiddleware.Core

open Pb FoldExcept

structure RobotConfig where
  robotName : String := ""
  ns : String := ""
  mapEcatId : IdNames := ∅

variable (lib : YamlCpp)

/-- `static_cast<bool>(root["robot"])`: legacy files have no `robot` section. -/
def isModern (root : Yaml) : Configured Bool := Option.isSome <$> root.get lib "robot"

def mergeRobotIdentity (cfg : RobotConfig) (root : Yaml) : Configured RobotConfig := do
  let modern ← isModern lib root
  let node ← sectionOf lib root (if modern then "robot" else "dds") ""
  let path := if modern then "robot" else "dds"
  let _ ← (if modern then checkKeys lib node ["name", "namespace", "joint_map"] "robot"
    else .ok () : Configured Unit)
  let robotName ← value lib node (if modern then "name" else "robot_name") cfg.robotName path
  let ns ← value lib node "namespace" cfg.ns path
  .ok { cfg with robotName := robotName, ns := ns }

/-- The `joint_map` section, and its path. -/
def jointMap (root : Yaml) : Configured (Yaml × String) := do
  let modern ← isModern lib root
  let parent ← if modern then sectionOf lib root "robot" "" else .ok root
  let joints ← sectionOf lib parent "joint_map" (if modern then "robot" else "")
  .ok (joints, if modern then "robot.joint_map" else "joint_map")

/-- The largest `EcatId`. -/
def ecatIdMax : UInt64 := 4294967295

/-- One entry of `merge_robot_id_map`. -/
def mergeJoint (path : String) (cfg : RobotConfig) (joint : Yaml × Yaml) : Configured RobotConfig :=
  rethrow path do
    let key ← joint.1.asString lib
    let entry := Yaml.map [(.scalar "id", .scalar key)]
    let id ← unsignedValue lib entry "id" 0 path
    let name ← joint.2.asString lib
    if id = 0 ∨ name = "" then
      .error (.configError (path ++ ": IDs must be positive and names nonempty"))
    -- `id` was read as a `uint32_t` already
    else if id.toUInt64 > ecatIdMax then
      .error (.configError (path ++ ": EtherCAT ID out of range"))
    else .ok { cfg with mapEcatId := cfg.mapEcatId.insert id name }

def mergeRobotIdMap (cfg : RobotConfig) (root : Yaml) : Configured RobotConfig := do
  let (joints, path) ← jointMap lib root
  joints.entries.foldlM (mergeJoint lib path) cfg

def validate (cfg : RobotConfig) : Configured Unit :=
  if cfg.robotName = "" then .error (.configError "robot.name: must not be empty")
  else if cfg.mapEcatId.keys = [] then
    .error (.configError "robot.joint_map: at least one device is required for discovery")
  else if '/' ∈ cfg.robotName.toList then
    .error (.configError "robot.name: must be a single topic component")
  else .ok ()

def parseRobotConfig (root : Yaml) : Configured RobotConfig := do
  let cfg ← mergeRobotIdentity lib {} root
  let cfg ← mergeRobotIdMap lib cfg root
  validate cfg
  .ok cfg

/-- `extract_pdo_ids`. -/
def extractPdoIds (cfg : RobotConfig) : Finset EcatId := cfg.mapEcatId.keys.toFinset

/-! ## The ids of the map -/

variable {lib}

/-- The key of an entry, as a number. -/
def Denotes (lib : YamlCpp) (joint : Yaml × Yaml) (n : ℕ) : Prop :=
  ∃ key, joint.1.asString lib = .ok key ∧ decimalValue key.toList = n

theorem Denotes.unique {joint : Yaml × Yaml} {m n : ℕ} (hm : Denotes lib joint m)
    (hn : Denotes lib joint n) : m = n := by
  obtain ⟨k, hk, rfl⟩ := hm
  obtain ⟨l, hl, rfl⟩ := hn
  rw [Except.ok.inj (hk.symm.trans hl)]

/-- An entry adds the number that its key denotes. -/
theorem mergeJoint_eq_ok {path : String} {cfg cfg' : RobotConfig} {joint : Yaml × Yaml}
    (h : mergeJoint lib path cfg joint = .ok cfg') :
    ∃ (id : EcatId) (name : String), Denotes lib joint id.toNat ∧
      cfg' = { cfg with mapEcatId := cfg.mapEcatId.insert id name } := by
  unfold mergeJoint at h
  rw [rethrow_eq_ok, bind_eq_ok] at h
  obtain ⟨key, hkey, h⟩ := h
  obtain ⟨id, hid, h⟩ := bind_eq_ok.mp h
  obtain ⟨name, -, h⟩ := bind_eq_ok.mp h
  obtain ⟨text, htext, hnum⟩ := unsignedValue_eq_ok.mp hid
  have hkt : text = key := by simpa [value, Yaml.get, Yaml.isText, Yaml.asString, rethrow,
    bind, Except.bind] using htext.symm
  split_ifs at h
  exact ⟨id, name, ⟨key, hkey, hkt ▸ hnum.value⟩, (Except.ok.inj h).symm⟩

theorem mem_foldlM_mergeJoint {path : String} {id : EcatId} (joints : List (Yaml × Yaml)) :
    ∀ {cfg cfg' : RobotConfig}, joints.foldlM (mergeJoint lib path) cfg = .ok cfg' →
      (id ∈ cfg'.mapEcatId ↔ id ∈ cfg.mapEcatId ∨ ∃ j ∈ joints, Denotes lib j id.toNat) := by
  induction joints with
  | nil =>
    intro cfg cfg' h
    rw [← Except.ok.inj h]
    simp
  | cons joint joints ih =>
    intro cfg cfg' h
    rw [List.foldlM_cons, bind_eq_ok] at h
    obtain ⟨cfg₁, h₁, h₂⟩ := h
    obtain ⟨id₁, name, hden, rfl⟩ := mergeJoint_eq_ok h₁
    have hid : id = id₁ ↔ Denotes lib joint id.toNat :=
      ⟨fun h => h ▸ hden, fun h => UInt32.toNat_inj.mp (h.unique hden)⟩
    rw [ih h₂, AList.mem_insert, hid, List.exists_mem_cons_iff]
    tauto

/-- An accepted key denotes an `EcatId`. -/
theorem denotes_of_foldlM_mergeJoint {path : String} (joints : List (Yaml × Yaml)) :
    ∀ {cfg cfg' : RobotConfig}, joints.foldlM (mergeJoint lib path) cfg = .ok cfg' →
      ∀ j ∈ joints, ∃ id : EcatId, Denotes lib j id.toNat := by
  induction joints with
  | nil =>
    intro cfg cfg' _ j hj
    exact absurd hj List.not_mem_nil
  | cons joint joints ih =>
    intro cfg cfg' h j hj
    rw [List.foldlM_cons, bind_eq_ok] at h
    obtain ⟨cfg₁, h₁, h₂⟩ := h
    rcases List.mem_cons.mp hj with rfl | hj
    · obtain ⟨id, -, hden, -⟩ := mergeJoint_eq_ok h₁
      exact ⟨id, hden⟩
    · exact ih h₂ j hj

/-- The identity leaves the map alone. -/
theorem mapEcatId_mergeRobotIdentity {cfg cfg' : RobotConfig} {root : Yaml}
    (h : mergeRobotIdentity lib cfg root = .ok cfg') : cfg'.mapEcatId = cfg.mapEcatId := by
  unfold mergeRobotIdentity at h
  obtain ⟨modern, -, h⟩ := bind_eq_ok.mp h
  obtain ⟨node, -, h⟩ := bind_eq_ok.mp h
  obtain ⟨-, -, h⟩ := bind_eq_ok.mp h
  obtain ⟨robotName, -, h⟩ := bind_eq_ok.mp h
  obtain ⟨ns, -, h⟩ := bind_eq_ok.mp h
  rw [← Except.ok.inj h]

/-- **The accepted ids** are the numbers that the keys of `joint_map` denote. -/
theorem mem_parseRobotConfig {root : Yaml} {cfg : RobotConfig}
    (h : parseRobotConfig lib root = .ok cfg) :
    ∃ joints, jointMap lib root = .ok joints ∧
      (∀ j ∈ joints.1.entries, ∃ id : EcatId, Denotes lib j id.toNat) ∧
      ∀ id, id ∈ cfg.mapEcatId ↔ ∃ j ∈ joints.1.entries, Denotes lib j id.toNat := by
  obtain ⟨cfg₁, h₁, h⟩ := bind_eq_ok.mp h
  obtain ⟨cfg₂, h₂, h⟩ := bind_eq_ok.mp h
  obtain ⟨-, -, h⟩ := bind_eq_ok.mp h
  obtain ⟨joints, hj, h₂⟩ := bind_eq_ok.mp h₂
  refine ⟨joints, hj, denotes_of_foldlM_mergeJoint _ h₂, fun id => ?_⟩
  rw [← Except.ok.inj h, mem_foldlM_mergeJoint _ h₂, mapEcatId_mergeRobotIdentity h₁]
  simp

/-! ## The ids that later stages carry -/

/-- A PDO whose header index is `id`, when that is an `int32`. -/
def pdoOf (id : EcatId) : EcSlavePdo := { header? := some { index? := some id.toInt32 } }

theorem hasIndex_pdoOf {id : EcatId} (hid : id.toNat < 2 ^ 31) :
    (pdoOf id).HasIndex id.toNat := by
  refine ⟨id.toInt32, rfl, ?_⟩
  rw [Int32.toInt_eq_iff _ hid]
  rfl

/-- Discovery can match `id`, and neither the id masks nor the caches drop it. -/
structure Carried (cfg : RobotConfig) (id : EcatId) : Prop where
  matched : ∃ p x, p.headerIndex? = some x ∧ 0 ≤ x ∧
    ∀ channel device m, id ∈ discoverPdo (extractPdoIds cfg) channel device m p
  allowed : ∀ channels ids, id ∈ ids →
    ∃ slot, slot ∈ (newSubscription channels ids).idsAllowed ∧ slot.val = id.toNat
  cached : ∀ p, p.HasIndex id.toNat → ∃ slot, slot? p = some slot ∧ slot.val = id.toNat

/-- Every device of the configuration is carried, and discovery ends once all have sent a PDO. -/
structure CarriesAll (cfg : RobotConfig) : Prop where
  carried : ∀ id ∈ cfg.mapEcatId, Carried cfg id
  below : ∀ id ∈ cfg.mapEcatId, id.toNat < maxEcatIds
  finishes : ∀ passes, (∀ id ∈ cfg.mapEcatId, ∃ queues ∈ passes, Visible queues id) →
    (discover true (extractPdoIds cfg) passes).isSome
  canFinish : ∃ passes, (discover true (extractPdoIds cfg) passes).isSome

theorem mem_extractPdoIds {cfg : RobotConfig} {id : EcatId} :
    id ∈ extractPdoIds cfg ↔ id ∈ cfg.mapEcatId := by
  rw [extractPdoIds, List.mem_toFinset, AList.mem_keys]

theorem carried_of_lt {cfg : RobotConfig} {id : EcatId} (hmem : id ∈ cfg.mapEcatId)
    (hid : id.toNat < maxEcatIds) : Carried cfg id where
  matched := by
    have hlt : id.toNat < 2 ^ 31 := hid.trans (by decide)
    obtain ⟨x, hx, hi⟩ := hasIndex_pdoOf hlt
    refine ⟨pdoOf id, x, hx, ?_, fun channel device m => ?_⟩
    · rw [Int32.le_iff_toInt_le, hi]
      exact Int.natCast_nonneg _
    · exact mem_discoverPdo.mpr (Or.inr ⟨mem_extractPdoIds.mpr hmem, hasIndex_pdoOf hlt⟩)
  allowed channels ids hin :=
    ⟨⟨id.toNat, hid⟩, mem_idsAllowed_newSubscription.mpr ⟨id, hin, rfl⟩, rfl⟩
  cached p hp := ⟨⟨id.toNat, hid⟩, slot?_eq_some_iff.mpr hp, rfl⟩

theorem discover_finishes (cfg : RobotConfig) (passes : List RxQueues)
    (h : ∀ id ∈ cfg.mapEcatId, ∃ queues ∈ passes, Visible queues id) :
    (discover true (extractPdoIds cfg) passes).isSome :=
  (discover_isSome_iff _ _).mpr fun id hid => h id (mem_extractPdoIds.mp hid)

/-- One pass over queues that hold a PDO of every device. -/
theorem discover_canFinish {cfg : RobotConfig}
    (h : ∀ id ∈ cfg.mapEcatId, id.toNat < 2 ^ 31) :
    ∃ passes, (discover true (extractPdoIds cfg) passes).isSome := by
  refine ⟨[fun _ => cfg.mapEcatId.keys.map pdoOf], discover_finishes cfg _ fun id hid => ?_⟩
  refine ⟨_, List.mem_singleton_self _, .motor, mem_channelsArray _, pdoOf id, ?_, ?_⟩
  · exact List.mem_map_of_mem (AList.mem_keys.mp hid)
  · exact hasIndex_pdoOf (h id hid)

/-- **Accepted and carried.** All devices of an accepted configuration are carried exactly when
every key of its `joint_map` denotes a number below `MaxEcatIds`. -/
theorem carriesAll_iff (lib : YamlCpp) (root : Yaml) (cfg : RobotConfig)
    (h : parseRobotConfig lib root = .ok cfg) :
    CarriesAll cfg ↔ ∀ joints, jointMap lib root = .ok joints →
      ∀ j ∈ joints.1.entries, ∀ n, Denotes lib j n → n < maxEcatIds := by
  obtain ⟨joints, hjoints, hids, hmem⟩ := mem_parseRobotConfig h
  constructor
  · intro hall joints' hjoints' j hj n hn
    obtain rfl : joints = joints' := Except.ok.inj (hjoints.symm.trans hjoints')
    obtain ⟨id, hid⟩ := hids j hj
    rw [hn.unique hid]
    exact hall.below id ((hmem id).mpr ⟨j, hj, hid⟩)
  · intro hbelow
    have hlt : ∀ id ∈ cfg.mapEcatId, id.toNat < maxEcatIds := fun id hid => by
      obtain ⟨j, hj, hden⟩ := (hmem id).mp hid
      exact hbelow joints hjoints j hj _ hden
    exact {
      carried := fun id hid => carried_of_lt hid (hlt id hid)
      below := hlt
      finishes := discover_finishes cfg
      canFinish := discover_canFinish fun id hid => (hlt id hid).trans (by decide) }

/-- A robot with the device 7. -/
theorem carriesAll_seven :
    ∃ cfg, parseRobotConfig ⟨none, fun _ => "", fun _ _ => ""⟩
        (.map [(.scalar "robot", .map [(.scalar "name", .scalar "kyon"),
          (.scalar "joint_map", .map [(.scalar "7", .scalar "hip")])])]) = .ok cfg ∧
      CarriesAll cfg := by
  refine ⟨_, rfl, (carriesAll_iff ⟨none, fun _ => "", fun _ _ => ""⟩
    (.map [(.scalar "robot", .map [(.scalar "name", .scalar "kyon"),
      (.scalar "joint_map", .map [(.scalar "7", .scalar "hip")])])]) _ rfl).mpr ?_⟩
  intro joints hjoints j hj n hn
  rw [← Except.ok.inj hjoints] at hj
  obtain rfl := List.mem_singleton.mp hj
  obtain ⟨key, hkey, rfl⟩ := hn
  rw [← Except.ok.inj hkey]
  decide

/-- A robot with the device 300: accepted, and dropped by every id mask. -/
theorem carriesAll_three_hundred :
    ∃ cfg, parseRobotConfig ⟨none, fun _ => "", fun _ _ => ""⟩
        (.map [(.scalar "robot", .map [(.scalar "name", .scalar "kyon"),
          (.scalar "joint_map", .map [(.scalar "300", .scalar "hip")])])]) = .ok cfg ∧
      (300 : EcatId) ∈ cfg.mapEcatId ∧
      (newSubscription [.motor] [300]).idsAllowed = ∅ ∧ ¬ CarriesAll cfg := by
  refine ⟨_, rfl, ?_, rfl, fun hall => ?_⟩
  · exact AList.mem_keys.mpr List.mem_cons_self
  · exact absurd (hall.below 300 (AList.mem_keys.mpr List.mem_cons_self)) (by decide)

end EcatMiddleware.Core
