import EcatMiddleware.Core.RobotConfig
import EcatMiddleware.Lib.FoldExcept
import EcatMiddleware.Lib.InsertAll

/-!
# The map from ids to names

`merge_robot_id_map` assigns the entries of `joint_map` one by one. Two keys such as `7` and `07`
are different texts for the YAML library and the same id for the map: the later name replaces the
earlier one. `mapsEveryJoint_iff` says for which mappings no entry is lost.
-/

namespace EcatMiddleware.Core

open Pb FoldExcept InsertAll

variable {lib : YamlCpp}

/-- The id that the key of an entry denotes. -/
def IdOf (lib : YamlCpp) (joint : Yaml × Yaml) (id : ℕ) : Prop :=
  ∃ key, joint.1.asString lib = .ok key ∧ IsNumeral key id

theorem IdOf.unique {joint : Yaml × Yaml} {m n : ℕ} (hm : IdOf lib joint m)
    (hn : IdOf lib joint n) : m = n := by
  obtain ⟨k, hk, hkm⟩ := hm
  obtain ⟨l, hl, hln⟩ := hn
  rw [Except.ok.inj (hk.symm.trans hl)] at hkm
  exact hkm.unique hln

/-- What is read from an entry that is accepted. -/
structure Reads (lib : YamlCpp) (joint : Yaml × Yaml) (read : EcatId × String) : Prop where
  id : IdOf lib joint read.1.toNat
  positive : read.1 ≠ 0
  name : joint.2.asString lib = .ok read.2
  nonempty : read.2 ≠ ""

theorem mergeJoint_eq_ok_iff (path : String) (joint : Yaml × Yaml) (cfg cfg' : RobotConfig) :
    mergeJoint lib path cfg joint = .ok cfg' ↔ ∃ read, Reads lib joint read ∧
      cfg' = { cfg with mapEcatId := cfg.mapEcatId.insert read.1 read.2 } := by
  have hentry : ∀ key, value lib (.map [(.scalar "id", .scalar key)]) "id"
      (toString (0 : UInt32).toNat) path = .ok key := by
    intro key
    rw [value_of_lookup_eq_some (rfl : Yaml.lookup _ "id" = some (.scalar key))]
    rfl
  unfold mergeJoint
  rw [rethrow_eq_ok, bind_eq_ok]
  constructor
  · rintro ⟨key, hkey, h⟩
    obtain ⟨id, hid, h⟩ := bind_eq_ok.mp h
    obtain ⟨name, hname, h⟩ := bind_eq_ok.mp h
    obtain ⟨text, htext, hnum⟩ := unsignedValue_eq_ok.mp hid
    obtain rfl := Except.ok.inj ((hentry key).symm.trans htext)
    split_ifs at h with hbad
    rw [not_or] at hbad
    exact ⟨(id, name), ⟨⟨key, hkey, hnum⟩, hbad.1, hname, hbad.2⟩, (Except.ok.inj h).symm⟩
  · rintro ⟨⟨id, name⟩, ⟨⟨key, hkey, hnum⟩, hpos, hname, hne⟩, rfl⟩
    refine ⟨key, hkey, bind_eq_ok.mpr ⟨id, unsignedValue_eq_ok.mpr ⟨key, hentry key, hnum⟩, ?_⟩⟩
    refine bind_eq_ok.mpr ⟨name, hname, ?_⟩
    have hmax : ¬ id.toUInt64 > ecatIdMax := by
      rw [gt_iff_lt, UInt64.lt_iff_toNat_lt, UInt32.toNat_toUInt64]
      exact Nat.not_lt.mpr (Nat.le_of_lt_succ id.toNat_lt)
    rw [if_neg (not_or.mpr ⟨hpos, hne⟩), if_neg hmax]

theorem foldl_insert (reads : List (EcatId × String)) (cfg : RobotConfig) :
    reads.foldl (fun cfg r => { cfg with mapEcatId := cfg.mapEcatId.insert r.1 r.2 }) cfg =
      { cfg with mapEcatId := insertAll cfg.mapEcatId reads } := by
  induction reads generalizing cfg with
  | nil => rfl
  | cons r reads ih => rw [List.foldl_cons, ih, insertAll_cons]

section Accepted

variable {root : Yaml} {joints : List (Yaml × Yaml)} {path : String}
  (h : jointMap lib root = .ok (.map joints, path))

include h

theorem mergeRobotIdMap_eq (cfg : RobotConfig) :
    mergeRobotIdMap lib cfg root = joints.foldlM (mergeJoint lib path) cfg := by
  unfold mergeRobotIdMap
  rw [h]
  rfl

/-- What is accepted, and the map that comes out. -/
theorem mergeRobotIdMap_eq_ok_iff (cfg cfg' : RobotConfig) :
    mergeRobotIdMap lib cfg root = .ok cfg' ↔ ∃ reads, List.Forall₂ (Reads lib) joints reads ∧
      cfg' = { cfg with mapEcatId := insertAll cfg.mapEcatId reads } := by
  rw [mergeRobotIdMap_eq h, foldlM_eq_ok_iff _ fun a s s' => mergeJoint_eq_ok_iff path a s s']
  simp only [foldl_insert]

/-- One entry that is not read is enough for a `ConfigError`. -/
theorem mergeRobotIdMap_refuses {joint : Yaml × Yaml} (hj : joint ∈ joints)
    (hbad : ∀ read, ¬ Reads lib joint read) (cfg : RobotConfig) :
    ∃ what, mergeRobotIdMap lib cfg root = .error (.configError what) := by
  have honly : OnlyConfigErrors (mergeRobotIdMap lib cfg root) := by
    rw [mergeRobotIdMap_eq h]
    exact onlyConfigErrors_foldlM (fun _ _ => onlyConfigErrors_rethrow _ _) cfg
  refine honly.eq_configError fun cfg' hok => ?_
  obtain ⟨reads, hreads, -⟩ := (mergeRobotIdMap_eq_ok_iff h cfg cfg').mp hok
  obtain ⟨read, -, hread⟩ := exists_of_mem_forall₂ hreads hj
  exact hbad read hread

end Accepted

/-! ## Collisions -/

/-- No two keys denote the same id. -/
def DistinctIds (lib : YamlCpp) (joints : List (Yaml × Yaml)) : Prop :=
  joints.Pairwise fun a b => ∀ id, IdOf lib a id → ¬ IdOf lib b id

theorem mem_reads_iff {joints : List (Yaml × Yaml)} {reads : List (EcatId × String)}
    (hreads : List.Forall₂ (Reads lib) joints reads) (id : EcatId) :
    id ∈ reads.map Prod.fst ↔ ∃ joint ∈ joints, IdOf lib joint id.toNat := by
  induction hreads with
  | nil => simp
  | cons hread _ ih =>
    rw [List.map_cons, List.mem_cons, ih, List.exists_mem_cons_iff]
    refine or_congr_left ⟨fun heq => heq ▸ hread.id, fun hid => ?_⟩
    exact UInt32.toNat_inj.mp (hid.unique hread.id)

theorem distinctIds_iff {joints : List (Yaml × Yaml)} {reads : List (EcatId × String)}
    (hreads : List.Forall₂ (Reads lib) joints reads) :
    DistinctIds lib joints ↔ (reads.map Prod.fst).Nodup := by
  unfold DistinctIds
  induction hreads with
  | nil => simp
  | @cons joint read joints reads hread hreads ih =>
    rw [List.pairwise_cons, List.map_cons, List.nodup_cons, ih, mem_reads_iff hreads]
    refine and_congr_left fun _ => ⟨?_, ?_⟩
    · rintro hne ⟨other, hother, hid⟩
      exact hne other hother _ hread.id hid
    · intro hne other hother id hid hid'
      rw [hid.unique hread.id] at hid'
      exact hne ⟨other, hother, hid'⟩

/-! ## No entry is lost -/

/-- An accepted mapping keeps every entry; keys that collide, keys that are no positive `uint32`
numeral, and names that are empty or no scalar are refused. -/
structure MapsEveryJoint (lib : YamlCpp) (root : Yaml) (joints : List (Yaml × Yaml)) : Prop where
  kept : ∀ cfg, mergeRobotIdMap lib {} root = .ok cfg →
    (∀ joint ∈ joints, ∃ (id : EcatId) (name : String), IdOf lib joint id.toNat ∧
      joint.2.asString lib = .ok name ∧ cfg.mapEcatId.lookup id = some name) ∧
    cfg.mapEcatId.keys.length = joints.length
  collision : ¬ DistinctIds lib joints →
    ∃ what, mergeRobotIdMap lib {} root = .error (.configError what)
  ids : ∀ joint ∈ joints, (∀ id, IdOf lib joint id → id = 0 ∨ uint32Max < id) →
    ∃ what, mergeRobotIdMap lib {} root = .error (.configError what)
  names : ∀ joint ∈ joints, (∀ name, joint.2 = .scalar name → name = "") →
    ∃ what, mergeRobotIdMap lib {} root = .error (.configError what)

theorem mapsEveryJoint_of_refused {root : Yaml} {joints : List (Yaml × Yaml)} {what : String}
    (h : mergeRobotIdMap lib {} root = .error (.configError what)) :
    MapsEveryJoint lib root joints where
  kept cfg hok := absurd (h.symm.trans hok) (by rintro ⟨⟩)
  collision _ := ⟨what, h⟩
  ids _ _ _ := ⟨what, h⟩
  names _ _ _ := ⟨what, h⟩

theorem mapsEveryJoint_of_distinct {root : Yaml} {joints : List (Yaml × Yaml)} {path : String}
    (h : jointMap lib root = .ok (.map joints, path)) (hdistinct : DistinctIds lib joints)
    (hnames : ∀ joint ∈ joints, ∀ name, joint.2.asString lib = .ok name → joint.2 = .scalar name) :
    MapsEveryJoint lib root joints where
  kept cfg hok := by
    obtain ⟨reads, hreads, rfl⟩ := (mergeRobotIdMap_eq_ok_iff h {} cfg).mp hok
    have hnodup := (distinctIds_iff hreads).mp hdistinct
    constructor
    · intro joint hj
      obtain ⟨read, hmem, hread⟩ := exists_of_mem_forall₂ hreads hj
      exact ⟨read.1, read.2, hread.id, hread.name, lookup_insertAll _ hnodup hmem⟩
    · rw [hreads.length_eq]
      exact (length_keys_insertAll_eq_iff reads).mpr hnodup
  collision hno := absurd hdistinct hno
  ids joint hj hbad := mergeRobotIdMap_refuses h hj (fun read hread => by
    rcases hbad _ hread.id with hzero | hbig
    · exact hread.positive (UInt32.toNat_inj.mp hzero)
    · exact absurd (Nat.le_of_lt_succ read.1.toNat_lt) (Nat.not_le.mpr hbig)) {}
  names joint hj hbad := mergeRobotIdMap_refuses h hj (fun read hread =>
    hread.nonempty (hbad _ (hnames joint hj _ hread.name))) {}

/-- **No entry is lost** exactly when some entry is refused by itself, or the keys denote distinct
ids and no node but a scalar is taken as a name. -/
theorem mapsEveryJoint_iff (lib : YamlCpp) (root : Yaml) (joints : List (Yaml × Yaml))
    (path : String) (h : jointMap lib root = .ok (.map joints, path)) :
    MapsEveryJoint lib root joints ↔
      (∃ joint ∈ joints, ∀ read, ¬ Reads lib joint read) ∨
      (DistinctIds lib joints ∧
        ∀ joint ∈ joints, ∀ name, joint.2.asString lib = .ok name → joint.2 = .scalar name) := by
  constructor
  · intro hmaps
    by_cases hall : ∀ joint ∈ joints, ∃ read, Reads lib joint read
    · right
      obtain ⟨reads, hreads⟩ := exists_forall₂ hall
      have hok := (mergeRobotIdMap_eq_ok_iff h {} _).mpr ⟨reads, hreads, rfl⟩
      have hnot : ∀ what, mergeRobotIdMap lib {} root ≠ .error (.configError what) := by
        intro what herror
        exact absurd (hok.symm.trans herror) (by rintro ⟨⟩)
      constructor
      · by_contra hno
        obtain ⟨what, herror⟩ := hmaps.collision hno
        exact hnot what herror
      · intro joint hj name hname
        by_contra hno
        obtain ⟨what, herror⟩ := hmaps.names joint hj fun name' hscalar => by
          rw [hscalar] at hname hno
          exact absurd (congrArg Yaml.scalar (Except.ok.inj hname)) hno
        exact hnot what herror
    · left
      push Not at hall
      exact hall
  · rintro (⟨joint, hj, hbad⟩ | ⟨hdistinct, hnames⟩)
    · obtain ⟨what, herror⟩ := mergeRobotIdMap_refuses h hj hbad {}
      exact mapsEveryJoint_of_refused herror
    · exact mapsEveryJoint_of_distinct h hdistinct hnames

/-- The joints 7 and 8 are both kept. -/
theorem mapsEveryJoint_seven_eight :
    MapsEveryJoint ⟨none, fun _ => "", fun _ _ => ""⟩
      (.map [(.scalar "joint_map",
        .map [(.scalar "7", .scalar "hip"), (.scalar "8", .scalar "knee")])])
      [(.scalar "7", .scalar "hip"), (.scalar "8", .scalar "knee")] := by
  refine (mapsEveryJoint_iff ⟨none, fun _ => "", fun _ _ => ""⟩ _ _ "joint_map" rfl).mpr
    (Or.inr ⟨?_, ?_⟩)
  · refine List.pairwise_pair.mpr ?_
    rintro id ⟨k, hk, hid⟩ ⟨l, hl, hid'⟩
    rw [← Except.ok.inj hk] at hid
    rw [← Except.ok.inj hl] at hid'
    exact absurd (hid.value.trans hid'.value.symm) (by decide)
  · intro joint hj name hname
    rcases List.mem_pair.mp hj with rfl | rfl
    · rw [← Except.ok.inj hname]
    · rw [← Except.ok.inj hname]

/-- `7` and `07` are both accepted, and `hip` is lost. -/
theorem mapsEveryJoint_collision :
    (∃ cfg, mergeRobotIdMap ⟨none, fun _ => "", fun _ _ => ""⟩ {}
        (.map [(.scalar "joint_map",
          .map [(.scalar "7", .scalar "hip"), (.scalar "07", .scalar "knee")])]) = .ok cfg ∧
      cfg.mapEcatId.entries = [⟨7, "knee"⟩]) ∧
    ¬ MapsEveryJoint ⟨none, fun _ => "", fun _ _ => ""⟩
      (.map [(.scalar "joint_map",
        .map [(.scalar "7", .scalar "hip"), (.scalar "07", .scalar "knee")])])
      [(.scalar "7", .scalar "hip"), (.scalar "07", .scalar "knee")] := by
  refine ⟨⟨_, rfl, rfl⟩, fun hmaps => ?_⟩
  have hlength := (hmaps.kept _ rfl).2
  exact absurd hlength (by decide)

end EcatMiddleware.Core
