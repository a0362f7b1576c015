import EcatMiddleware.Core.ConfigReference
import EcatMiddleware.Core.RobotIdMap

/-!
# Loading a robot configuration

`load_robot_config` reads the map and the identity of a robot from one or two files. It catches
`ConfigError` only, so that every exception of the YAML library has to be translated on the way.
The one place where this does not happen is `check_keys` (`loadsOrRefuses_iff`).
-/

namespace EcatMiddleware.Core

open FoldExcept

variable (lib : YamlCpp) (host : Host)

/-- The joint map comes from the file that `EC_CFG` refers to, when the variable is set. -/
def parseRuntimeRobotConfig (root : Yaml) : Configured RobotConfig :=
  match host.ecCfg with
  | none => parseRobotConfig lib root
  | some _ => do
    let cfg ← mergeRobotIdentity lib {} root
    let file ← ConfigFile.load lib host (← robotIdMapPath lib host)
    let cfg ← mergeRobotIdMap lib cfg file.root
    validate cfg
    .ok cfg

def loadFromEcatConfig (cfg : RobotConfig) (path : String) : Configured RobotConfig := do
  mergeRobotIdentity lib cfg (← ConfigFile.load lib host path).root

def loadFromRobotIdMap (cfg : RobotConfig) (path : String) : Configured RobotConfig := do
  mergeRobotIdMap lib cfg (← ConfigFile.load lib host path).root

/-- The `try` block of `load_robot_config`. -/
def tryLoad (mapPath identityPath : String) : Configured RobotConfig :=
  if mapPath = identityPath then do
    parseRuntimeRobotConfig lib host (← ConfigFile.load lib host mapPath).root
  else do
    let cfg ← loadFromRobotIdMap lib host {} mapPath
    let cfg ← loadFromEcatConfig lib host cfg identityPath
    validate cfg
    .ok cfg

/-- `load_robot_config`: only a `ConfigError` is caught. -/
def loadRobotConfig (mapPath identityPath : String) : Configured (Option RobotConfig) :=
  match tryLoad lib host mapPath identityPath with
  | .ok cfg => .ok (some cfg)
  | .error (.configError _) => .ok none
  | .error (.yamlException what) => .error (.yamlException what)

variable {lib host}

/-! ## What is translated -/

theorem onlyConfigErrors_mapError {ε α : Type} (x : Except ε α) (f : ε → String) :
    OnlyConfigErrors (x.mapError fun e => .configError (f e)) := by
  cases x with
  | error e => exact onlyConfigErrors_configError _
  | ok a => exact onlyConfigErrors_ok a

theorem onlyConfigErrors_load (path : String) :
    OnlyConfigErrors (ConfigFile.load lib host path) := onlyConfigErrors_mapError _ _

/-- The root of a file is a mapping. -/
theorem exists_map_of_load {path : String} {file : ConfigFile}
    (h : ConfigFile.load lib host path = .ok file) : ∃ entries, file.root = .map entries := by
  unfold ConfigFile.load at h
  cases hroot : host.loadFile path with
  | error what =>
    rw [hroot] at h
    exact absurd h (by rintro ⟨⟩)
  | ok root =>
    rw [hroot] at h
    cases root with
    | map entries =>
      refine ⟨entries, ?_⟩
      simp only [Yaml.isMap, if_true, bind, Except.bind] at h
      split at h
      · exact absurd h (by rintro ⟨⟩)
      · split_ifs at h
        · split at h
          · exact absurd h (by rintro ⟨⟩)
          · rw [← Except.ok.inj h]
        · exact absurd h (by rintro ⟨⟩)
    | null | scalar | sequence => exact absurd h (by rintro ⟨⟩)

theorem onlyConfigErrors_canonicalEcCfg : OnlyConfigErrors (canonicalEcCfg host) := by
  unfold canonicalEcCfg
  split
  · exact onlyConfigErrors_configError _
  · exact onlyConfigErrors_mapError _ _

theorem onlyConfigErrors_configReference (sectionName key : String) :
    OnlyConfigErrors (configReference lib host sectionName key) := by
  refine onlyConfigErrors_bind ?_ fun directory _ => ?_
  · exact onlyConfigErrors_bind onlyConfigErrors_canonicalEcCfg fun _ _ => onlyConfigErrors_ok _
  refine onlyConfigErrors_bind onlyConfigErrors_canonicalEcCfg fun path _ => ?_
  refine onlyConfigErrors_bind (onlyConfigErrors_load _) fun file hfile => ?_
  obtain ⟨entries, hroot⟩ := exists_map_of_load hfile
  rw [hroot]
  refine onlyConfigErrors_bind (onlyConfigErrors_sectionOf _ _ _) fun settings hsettings => ?_
  obtain ⟨es, rfl, -⟩ := sectionOf_map_eq_ok.mp hsettings
  refine onlyConfigErrors_bind (onlyConfigErrors_ok _) fun found _ => ?_
  split_ifs
  · refine onlyConfigErrors_bind (onlyConfigErrors_value _ _ _ _) fun folder _ => ?_
    split_ifs
    · exact onlyConfigErrors_configError _
    · exact onlyConfigErrors_ok _
  · exact onlyConfigErrors_configError _

theorem onlyConfigErrors_jointMap (entries : List (Yaml × Yaml)) :
    OnlyConfigErrors (jointMap lib (.map entries)) := by
  have hjoints : ∀ (es : List (Yaml × Yaml)) (parentPath path : String),
      OnlyConfigErrors (sectionOf lib (.map es) "joint_map" parentPath >>= fun joints =>
        (.ok (joints, path) : Configured (Yaml × String))) := fun es _ _ =>
    onlyConfigErrors_bind (onlyConfigErrors_sectionOf es _ _) fun _ _ => onlyConfigErrors_ok _
  refine onlyConfigErrors_bind (onlyConfigErrors_ok _) fun modern _ => ?_
  cases modern with
  | false => exact hjoints entries "" "joint_map"
  | true =>
    refine onlyConfigErrors_bind (onlyConfigErrors_sectionOf entries "robot" "") fun parent h => ?_
    obtain ⟨es, rfl, -⟩ := sectionOf_map_eq_ok.mp h
    exact hjoints es "robot" "robot.joint_map"

theorem onlyConfigErrors_mergeRobotIdMap (cfg : RobotConfig) (entries : List (Yaml × Yaml)) :
    OnlyConfigErrors (mergeRobotIdMap lib cfg (.map entries)) :=
  onlyConfigErrors_bind (onlyConfigErrors_jointMap entries) fun _ _ =>
    onlyConfigErrors_foldlM (fun _ _ => onlyConfigErrors_rethrow _ _) cfg

theorem onlyConfigErrors_validate (cfg : RobotConfig) : OnlyConfigErrors (validate cfg) := by
  unfold validate
  split_ifs
  · exact onlyConfigErrors_configError _
  · exact onlyConfigErrors_configError _
  · exact onlyConfigErrors_configError _
  · exact onlyConfigErrors_ok _

/-! ## What is not -/

/-- The keys that a `robot` section may have. -/
def robotSettings : List String := ["name", "namespace", "joint_map"]

/-- In a `robot` section every key up to the first unknown one is a text. -/
def RobotKeysRead (lib : YamlCpp) (root : Yaml) : Prop :=
  ∀ entries, root.get lib "robot" = .ok (some (.map entries)) → KeysRead lib robotSettings entries

/-- The values of an identity section. -/
def identityValues (lib : YamlCpp) (cfg : RobotConfig) (node : Yaml) (name path : String) :
    Configured RobotConfig := do
  let robotName ← value lib node name cfg.robotName path
  let ns ← value lib node "namespace" cfg.ns path
  .ok { cfg with robotName := robotName, ns := ns }

theorem onlyConfigErrors_identityValues (cfg : RobotConfig) (es : List (Yaml × Yaml))
    (name path : String) : OnlyConfigErrors (identityValues lib cfg (.map es) name path) :=
  onlyConfigErrors_bind (onlyConfigErrors_value es _ _ _) fun _ _ =>
    onlyConfigErrors_bind (onlyConfigErrors_value es _ _ _) fun _ _ => onlyConfigErrors_ok _

theorem mergeRobotIdentity_legacy {entries : List (Yaml × Yaml)}
    (h : Yaml.lookup entries "robot" = none) (cfg : RobotConfig) :
    mergeRobotIdentity lib cfg (.map entries) =
      sectionOf lib (.map entries) "dds" "" >>= fun node =>
        identityValues lib cfg node "robot_name" "dds" := by
  rw [mergeRobotIdentity, isModern, Yaml.get_map, h]
  rfl

theorem mergeRobotIdentity_modern {entries : List (Yaml × Yaml)} {robot : Yaml}
    (h : Yaml.lookup entries "robot" = some robot) (cfg : RobotConfig) :
    mergeRobotIdentity lib cfg (.map entries) =
      sectionOf lib (.map entries) "robot" "" >>= fun node =>
        checkKeys lib node robotSettings "robot" >>= fun _ =>
          identityValues lib cfg node "name" "robot" := by
  rw [mergeRobotIdentity, isModern, Yaml.get_map, h]
  rfl

/-- **The identity.** The keys of its section are all that can go wrong. -/
theorem onlyConfigErrors_mergeRobotIdentity (cfg : RobotConfig) (entries : List (Yaml × Yaml)) :
    OnlyConfigErrors (mergeRobotIdentity lib cfg (.map entries)) ↔
      RobotKeysRead lib (.map entries) := by
  unfold RobotKeysRead
  rw [Yaml.get_map]
  cases hrobot : Yaml.lookup entries "robot" with
  | none =>
    refine iff_of_true ?_ (by simp)
    rw [mergeRobotIdentity_legacy hrobot]
    refine onlyConfigErrors_bind (onlyConfigErrors_sectionOf _ _ _) fun node h => ?_
    obtain ⟨es, rfl, -⟩ := sectionOf_map_eq_ok.mp h
    exact onlyConfigErrors_identityValues cfg es _ _
  | some robot =>
    rw [mergeRobotIdentity_modern hrobot, onlyConfigErrors_bind_iff,
      and_iff_right (onlyConfigErrors_sectionOf _ _ _)]
    constructor
    · intro h es hes
      obtain rfl := Option.some.inj (Except.ok.inj hes)
      have hsection := (sectionOf_map_eq_ok.mpr ⟨es, rfl, Or.inl hrobot⟩ :
        sectionOf lib (.map entries) "robot" "" = .ok (.map es))
      exact (onlyConfigErrors_checkKeys es _ _).mp (onlyConfigErrors_bind_iff.mp (h _ hsection)).1
    · intro h node hnode
      obtain ⟨es, rfl, hes⟩ := sectionOf_map_eq_ok.mp hnode
      rw [hrobot] at hes
      obtain rfl : robot = .map es := by
        rcases hes with hes | ⟨hnone, -⟩
        · exact Option.some.inj hes
        · exact absurd hnone (by simp)
      exact onlyConfigErrors_bind ((onlyConfigErrors_checkKeys es _ _).mpr (h es rfl)) fun _ _ =>
        onlyConfigErrors_identityValues cfg es _ _

theorem onlyConfigErrors_parseRobotConfig (entries : List (Yaml × Yaml)) :
    OnlyConfigErrors (parseRobotConfig lib (.map entries)) ↔ RobotKeysRead lib (.map entries) := by
  unfold parseRobotConfig
  rw [onlyConfigErrors_bind_iff, onlyConfigErrors_mergeRobotIdentity]
  refine and_iff_left fun cfg _ => ?_
  refine onlyConfigErrors_bind (onlyConfigErrors_mergeRobotIdMap cfg entries) fun cfg' _ => ?_
  exact onlyConfigErrors_bind (onlyConfigErrors_validate cfg') fun _ _ => onlyConfigErrors_ok _

theorem onlyConfigErrors_parseRuntimeRobotConfig (entries : List (Yaml × Yaml)) :
    OnlyConfigErrors (parseRuntimeRobotConfig lib host (.map entries)) ↔
      RobotKeysRead lib (.map entries) := by
  unfold parseRuntimeRobotConfig
  split
  · exact onlyConfigErrors_parseRobotConfig entries
  · rw [onlyConfigErrors_bind_iff, onlyConfigErrors_mergeRobotIdentity]
    refine and_iff_left fun cfg _ => ?_
    refine onlyConfigErrors_bind (onlyConfigErrors_configReference _ _) fun path _ => ?_
    refine onlyConfigErrors_bind (onlyConfigErrors_load path) fun file hfile => ?_
    obtain ⟨es, hroot⟩ := exists_map_of_load hfile
    rw [hroot]
    refine onlyConfigErrors_bind (onlyConfigErrors_mergeRobotIdMap cfg es) fun cfg' _ => ?_
    exact onlyConfigErrors_bind (onlyConfigErrors_validate cfg') fun _ _ => onlyConfigErrors_ok _

theorem onlyConfigErrors_loadFromRobotIdMap (cfg : RobotConfig) (path : String) :
    OnlyConfigErrors (loadFromRobotIdMap lib host cfg path) := by
  refine onlyConfigErrors_bind (onlyConfigErrors_load path) fun file hfile => ?_
  obtain ⟨es, hroot⟩ := exists_map_of_load hfile
  rw [hroot]
  exact onlyConfigErrors_mergeRobotIdMap cfg es

theorem onlyConfigErrors_tryLoad (mapPath identityPath : String) :
    OnlyConfigErrors (tryLoad lib host mapPath identityPath) ↔
      ∀ file, ConfigFile.load lib host identityPath = .ok file →
        (mapPath ≠ identityPath → ∃ cfg, loadFromRobotIdMap lib host {} mapPath = .ok cfg) →
        RobotKeysRead lib file.root := by
  unfold tryLoad
  by_cases hpath : mapPath = identityPath
  · rw [if_pos hpath, hpath, onlyConfigErrors_bind_iff, and_iff_right (onlyConfigErrors_load _)]
    refine forall_congr' fun file => forall_congr' fun hfile => ?_
    obtain ⟨es, hroot⟩ := exists_map_of_load hfile
    rw [hroot, onlyConfigErrors_parseRuntimeRobotConfig]
    exact ⟨fun h _ => h, fun h => h fun hne => absurd rfl hne⟩
  · rw [if_neg hpath, onlyConfigErrors_bind_iff,
      and_iff_right (onlyConfigErrors_loadFromRobotIdMap _ _)]
    have hidentity : ∀ cfg, OnlyConfigErrors (loadFromEcatConfig lib host cfg identityPath >>=
        fun cfg => validate cfg >>= fun _ => .ok cfg) ↔
        ∀ file, ConfigFile.load lib host identityPath = .ok file →
          RobotKeysRead lib file.root := by
      intro cfg
      rw [onlyConfigErrors_bind_iff, loadFromEcatConfig, onlyConfigErrors_bind_iff,
        and_iff_right (onlyConfigErrors_load _), and_iff_left]
      · refine forall_congr' fun file => forall_congr' fun hfile => ?_
        obtain ⟨es, hroot⟩ := exists_map_of_load hfile
        rw [hroot, onlyConfigErrors_mergeRobotIdentity]
      · exact fun cfg' _ => onlyConfigErrors_bind (onlyConfigErrors_validate cfg') fun _ _ =>
          onlyConfigErrors_ok _
    constructor
    · intro h file hfile hmap
      obtain ⟨cfg, hcfg⟩ := hmap hpath
      exact (hidentity cfg).mp (h cfg hcfg) file hfile
    · intro h cfg hcfg
      exact (hidentity cfg).mpr fun file hfile => h file hfile fun _ => ⟨cfg, hcfg⟩

/-! ## What comes out -/

/-- Every loader ends with the validation of what it returns. -/
theorem validate_of_bind {cfg cfg' : RobotConfig}
    (h : (validate cfg >>= fun _ => .ok cfg) = (.ok cfg' : Configured RobotConfig)) :
    validate cfg' = .ok () := by
  obtain ⟨_, hvalid, h⟩ := bind_eq_ok.mp h
  rwa [← Except.ok.inj h]

theorem validate_of_parseRuntimeRobotConfig {root : Yaml} {cfg : RobotConfig}
    (h : parseRuntimeRobotConfig lib host root = .ok cfg) : validate cfg = .ok () := by
  unfold parseRuntimeRobotConfig at h
  split at h
  · obtain ⟨cfg₁, -, h⟩ := bind_eq_ok.mp h
    obtain ⟨cfg₂, -, h⟩ := bind_eq_ok.mp h
    exact validate_of_bind h
  · obtain ⟨cfg₁, -, h⟩ := bind_eq_ok.mp h
    obtain ⟨path, -, h⟩ := bind_eq_ok.mp h
    obtain ⟨file, -, h⟩ := bind_eq_ok.mp h
    obtain ⟨cfg₂, -, h⟩ := bind_eq_ok.mp h
    exact validate_of_bind h

theorem validate_of_tryLoad {mapPath identityPath : String} {cfg : RobotConfig}
    (h : tryLoad lib host mapPath identityPath = .ok cfg) : validate cfg = .ok () := by
  unfold tryLoad at h
  split_ifs at h
  · obtain ⟨file, -, h⟩ := bind_eq_ok.mp h
    exact validate_of_parseRuntimeRobotConfig h
  · obtain ⟨cfg₁, -, h⟩ := bind_eq_ok.mp h
    obtain ⟨cfg₂, -, h⟩ := bind_eq_ok.mp h
    exact validate_of_bind h

/-- Either a configuration that `validate` accepts is returned, or none; nothing is thrown. -/
def LoadsOrRefuses (lib : YamlCpp) (host : Host) (mapPath identityPath : String) : Prop :=
  ∃ result, loadRobotConfig lib host mapPath identityPath = .ok result ∧
    ∀ cfg, result = some cfg → validate cfg = .ok ()

/-- **No exception escapes** exactly when the keys of the `robot` section are texts, up to the first
unknown one, in an identity file that is reached. -/
theorem loadsOrRefuses_iff (lib : YamlCpp) (host : Host) (mapPath identityPath : String) :
    LoadsOrRefuses lib host mapPath identityPath ↔
      ∀ file, ConfigFile.load lib host identityPath = .ok file →
        (mapPath ≠ identityPath → ∃ cfg, loadFromRobotIdMap lib host {} mapPath = .ok cfg) →
        RobotKeysRead lib file.root := by
  rw [← onlyConfigErrors_tryLoad]
  unfold LoadsOrRefuses loadRobotConfig
  cases htry : tryLoad lib host mapPath identityPath with
  | ok cfg =>
    refine iff_of_true ⟨some cfg, rfl, ?_⟩ (onlyConfigErrors_ok cfg)
    rintro _ ⟨⟩
    exact validate_of_tryLoad htry
  | error e =>
    cases e with
    | configError what => exact iff_of_true ⟨none, rfl, by simp⟩ (onlyConfigErrors_configError _)
    | yamlException what =>
      refine iff_of_false ?_ fun h => h what rfl
      rintro ⟨result, hresult, -⟩
      exact absurd hresult (by rintro ⟨⟩)

/-- A sequence as a key of the `robot` section: its conversion throws through
`load_robot_config`. -/
theorem loadRobotConfig_throws :
    ¬ LoadsOrRefuses ⟨none, fun _ => "bad conversion", fun _ _ => ""⟩
      ⟨none, .ok, .ok, fun _ => .ok (.map [(.scalar "robot", .map
        [(.sequence [.scalar "a"], .scalar "b"), (.scalar "name", .scalar "kyon")])])⟩
      "robot.yaml" "robot.yaml" ∧
    loadRobotConfig ⟨none, fun _ => "bad conversion", fun _ _ => ""⟩
      ⟨none, .ok, .ok, fun _ => .ok (.map [(.scalar "robot", .map
        [(.sequence [.scalar "a"], .scalar "b"), (.scalar "name", .scalar "kyon")])])⟩
      "robot.yaml" "robot.yaml" = .error (.yamlException "bad conversion") := by
  constructor
  · rintro ⟨result, hresult, -⟩
    exact absurd hresult (by rintro ⟨⟩)
  · rfl

end EcatMiddleware.Core
