import EcatMiddleware.Core.ConfigTopics
import EcatMiddleware.Core.LoadRobotConfig
import EcatMiddleware.Core.RuntimeConfig

/-!
# The start of a plugin

What the `main` functions of the plugins have in common: the arguments, the configuration file, the
overrides, the validation, and discovery. A `PluginMain` holds what a plugin adds.

* `accepted_of_configure`: what holds of a configuration that a plugin goes on with.
* `main_eq_running`, `main_of_running`: the stages that `main` has behind it when it runs.
* `mem_of_discover`: the devices it goes on with are those that it expects.
-/

namespace EcatMiddleware.Core

open FoldExcept

/-! ## The configuration of all plugins -/

structure CommonConfig where
  robot : RobotConfig
  runtime : RuntimeConfig

variable (lib : YamlCpp) (host : Host)

def parseCommonConfig (file : ConfigFile) : Configured CommonConfig := do
  let robot ← parseRuntimeRobotConfig lib host file.root
  let runtime ← parseRuntimeConfig lib file.root
  .ok ⟨robot, runtime⟩

def CommonConfig.validate (cfg : CommonConfig) : Configured Unit := do
  Core.validate cfg.robot
  cfg.runtime.validate

/-- Older robot configurations name the folder in another section. -/
def middlewareConfigPath : Configured String := do
  let _ ← robotConfigDirectory host
  let file ← ConfigFile.load lib host (← canonicalEcCfg host)
  let middleware ← sectionOf lib file.root "middleware" ""
  if (← middleware.get lib "folder").isSome then
    let folder ← configReference lib host "middleware" "folder"
    .ok (Path.append folder "config.yaml")
  else
    let robot ← sectionOf lib file.root "robot" ""
    if (← robot.get lib "robot_middleware_folder").isSome then
      let folder ← configReference lib host "robot" "robot_middleware_folder"
      .ok (Path.append folder "config.yaml")
    else .error (.configError (file.path ++ ": middleware.folder: required"))

/-! ## What a plugin adds -/

/-- The parts of `main` in which the plugins differ. -/
structure PluginMain (Options Config Prepared : Type) where
  parseArgs : List String → Configured Options
  common : Options → CommonOptions
  parsePluginConfig : ConfigFile → Configured Config
  /-- The flags over the file. -/
  override : Options → Config → Config
  /-- `validate`, and what else may throw before the connection. -/
  prepare : Config → Except String Prepared
  commonConfig : Config → CommonConfig

/-- What `main` catches is known by its text. -/
def caught {α : Type} (result : Configured α) : Except String α :=
  result.mapError ConfigException.what

variable {Options Config Prepared : Type}

/-- From the arguments to a configuration that is validated; `none` when help is asked for. -/
def PluginMain.configure (plugin : PluginMain Options Config Prepared) (argv : List String) :
    Except String (Option (ConfigFile × Config × Prepared)) := do
  let options ← caught (plugin.parseArgs argv)
  if (plugin.common options).help then .ok none
  else
    let path ← caught (if (plugin.common options).configPath = "" then middlewareConfigPath lib host
      else .ok (plugin.common options).configPath)
    let file ← caught (ConfigFile.load lib host path)
    let config ← caught (plugin.parsePluginConfig file)
    let config := plugin.override options config
    let prepared ← plugin.prepare config
    .ok (some (file, config, prepared))

/-- The shared memory: whether `start` and `is_ok` succeed, and what the queues hold in each pass
of discovery. -/
structure SharedMemory where
  starts : Bool
  isOk : Bool
  passes : List RxQueues

/-- How `main` ends, or where it stays. -/
inductive MainOutcome (Running : Type) where
  | help
  | notConnected
  /-- Some expected device has not been seen. -/
  | discovering
  /-- `exec.start()` is called. -/
  | running (state : Running)

/-- `main`; `launch` is what a plugin does with the devices that were discovered. -/
def PluginMain.main {Running : Type} (plugin : PluginMain Options Config Prepared)
    (shm : SharedMemory)
    (launch : ConfigFile → Config → Prepared → EcatMap → Except String Running)
    (argv : List String) : Except String (MainOutcome Running) := do
  match ← plugin.configure lib host argv with
  | none => .ok .help
  | some (file, config, prepared) =>
    if !shm.starts then .ok .notConnected
    else
      match discover shm.isOk (extractPdoIds (plugin.commonConfig config).robot) shm.passes with
      | none => .ok .discovering
      | some ecatMap => do
        let state ← launch file config prepared ecatMap
        .ok (.running state)

/-- The status with which the program exits, once `exec.start()` has returned. -/
def exitStatus {Running : Type} : Except String (MainOutcome Running) → Option ℕ
  | .error _ => some 1
  | .ok .help => some 0
  | .ok .notConnected => some 1
  | .ok .discovering => none
  | .ok (.running _) => some 0

/-! ## What a plugin goes on with -/

variable {lib host}

theorem caught_eq_ok {α : Type} {result : Configured α} {a : α} :
    caught result = .ok a ↔ result = .ok a := by
  unfold caught
  cases result <;> simp [Except.mapError]

theorem configure_eq_ok {plugin : PluginMain Options Config Prepared} {argv : List String}
    {file : ConfigFile} {config : Config} {prepared : Prepared}
    (h : plugin.configure lib host argv = .ok (some (file, config, prepared))) :
    ∃ options cfg, plugin.parseArgs argv = .ok options ∧
      (∃ path, (if (plugin.common options).configPath = "" then middlewareConfigPath lib host
        else .ok (plugin.common options).configPath) = .ok path ∧
        ConfigFile.load lib host path = .ok file) ∧
      plugin.parsePluginConfig file = .ok cfg ∧ config = plugin.override options cfg ∧
      plugin.prepare config = .ok prepared := by
  obtain ⟨options, hoptions, h⟩ := bind_eq_ok.mp h
  by_cases hhelp : (plugin.common options).help = true
  · rw [if_pos hhelp] at h
    exact absurd (Except.ok.inj h) (by simp)
  · rw [if_neg hhelp] at h
    obtain ⟨path, hpath, h⟩ := bind_eq_ok.mp h
    obtain ⟨loaded, hloaded, h⟩ := bind_eq_ok.mp h
    obtain ⟨cfg, hcfg, h⟩ := bind_eq_ok.mp h
    obtain ⟨done, hprepare, h⟩ := bind_eq_ok.mp h
    obtain ⟨rfl, rfl, rfl⟩ : _ ∧ _ ∧ done = prepared := by
      simpa using Except.ok.inj h
    exact ⟨options, cfg, caught_eq_ok.mp hoptions,
      ⟨path, caught_eq_ok.mp hpath, caught_eq_ok.mp hloaded⟩, caught_eq_ok.mp hcfg, rfl, hprepare⟩

/-- A plugin adds to the common arguments and to the common configuration; `shared` are the
arguments that are not its own. -/
structure PluginMain.Extends (plugin : PluginMain Options Config Prepared) (lib : YamlCpp)
    (host : Host) (shared : List String → List String) : Prop where
  parseArgs : ∀ {argv options}, plugin.parseArgs argv = .ok options →
    parseCommonOptions lib (shared argv) = .ok (plugin.common options)
  parsePluginConfig : ∀ {file cfg}, plugin.parsePluginConfig file = .ok cfg →
    parseCommonConfig lib host file = .ok (plugin.commonConfig cfg)
  override : ∀ options cfg, plugin.commonConfig (plugin.override options cfg) =
    { plugin.commonConfig cfg with
      runtime := (plugin.common options).runtime.apply (plugin.commonConfig cfg).runtime }
  prepare : ∀ {cfg prepared}, plugin.prepare cfg = .ok prepared →
    (plugin.commonConfig cfg).validate = .ok ()

/-- The robot is that of the file and valid; the frequencies are those that the arguments, the file
and the defaults say, and have periods. -/
structure CommonConfig.Accepted (cfg : CommonConfig) (lib : YamlCpp) (host : Host)
    (argv : List String) (file : ConfigFile) : Prop where
  robot : parseRuntimeRobotConfig lib host file.root = .ok cfg.robot
  valid : Core.validate cfg.robot = .ok ()
  rates : ∃ settings runtime, Spells argv.tail settings ∧
    sectionOf lib file.root "runtime" "" = .ok (.map runtime) ∧
    ∀ rate, Decides lib settings runtime rate (cfg.runtime.get rate)
  periods : ∀ rate, ∃ period, periodFromRate (cfg.runtime.get rate) = .ok period ∧
    1 ≤ period.toNat ∧ period.toNat ≤ 1000000

/-- **What a plugin goes on with.** -/
theorem accepted_of_configure {plugin : PluginMain Options Config Prepared}
    {shared : List String → List String} (hplugin : plugin.Extends lib host shared)
    {argv : List String} {file : ConfigFile} {config : Config} {prepared : Prepared}
    (h : plugin.configure lib host argv = .ok (some (file, config, prepared))) :
    (plugin.commonConfig config).Accepted lib host (shared argv) file := by
  obtain ⟨options, cfg, hoptions, -, hcfg, rfl, hprepare⟩ := configure_eq_ok h
  have hvalidate := hplugin.prepare hprepare
  have hcommon := hplugin.override options cfg
  obtain ⟨robot, hrobot, hparse⟩ := bind_eq_ok.mp (hplugin.parsePluginConfig hcfg)
  obtain ⟨runtime, hruntime, hparse⟩ := bind_eq_ok.mp hparse
  rw [← Except.ok.inj hparse] at hcommon
  rw [hcommon] at hvalidate ⊢
  obtain ⟨⟨⟩, hrobotValid, hruntimeValid⟩ := bind_eq_ok.mp hvalidate
  exact
    { robot := hrobot
      valid := hrobotValid
      rates := decides_apply (hplugin.parseArgs hoptions) hruntime
      periods := fun rate => by
        obtain ⟨period, hperiod, hpos, hmax, -⟩ :=
          periodFromRate_of_range (range_of_validate hruntimeValid rate)
        exact ⟨period, hperiod, hpos, hmax⟩ }

theorem main_eq_running {Running : Type} {plugin : PluginMain Options Config Prepared}
    {shm : SharedMemory}
    {launch : ConfigFile → Config → Prepared → EcatMap → Except String Running}
    {argv : List String} {state : Running}
    (h : plugin.main lib host shm launch argv = .ok (.running state)) :
    ∃ file config prepared ecatMap,
      plugin.configure lib host argv = .ok (some (file, config, prepared)) ∧ shm.starts = true ∧
      discover shm.isOk (extractPdoIds (plugin.commonConfig config).robot) shm.passes =
        some ecatMap ∧
      launch file config prepared ecatMap = .ok state := by
  obtain ⟨configured, hconfigure, h⟩ := bind_eq_ok.mp h
  cases configured with
  | none => exact absurd (Except.ok.inj h) (by simp)
  | some found =>
    simp only at h
    split_ifs at h with hstarts
    · exact absurd (Except.ok.inj h) (by simp)
    · split at h
      · exact absurd (Except.ok.inj h) (by simp)
      · rename_i ecatMap hdiscover
        obtain ⟨state', hlaunch, h⟩ := bind_eq_ok.mp h
        obtain rfl := MainOutcome.running.inj (Except.ok.inj h)
        exact ⟨found.1, found.2.1, found.2.2, ecatMap, hconfigure, by simpa using hstarts,
          hdiscover, hlaunch⟩

theorem main_of_running {Running : Type} {plugin : PluginMain Options Config Prepared}
    {shm : SharedMemory}
    {launch : ConfigFile → Config → Prepared → EcatMap → Except String Running}
    {argv : List String} {state : Running} {file : ConfigFile} {config : Config}
    {prepared : Prepared} {ecatMap : EcatMap}
    (hconfigure : plugin.configure lib host argv = .ok (some (file, config, prepared)))
    (hstarts : shm.starts = true)
    (hdiscover : discover shm.isOk (extractPdoIds (plugin.commonConfig config).robot) shm.passes =
      some ecatMap) (hlaunch : launch file config prepared ecatMap = .ok state) :
    plugin.main lib host shm launch argv = .ok (.running state) := by
  refine bind_eq_ok.mpr ⟨_, hconfigure, ?_⟩
  simp only
  rw [hstarts, Bool.not_true, if_neg Bool.false_ne_true, hdiscover]
  exact bind_eq_ok.mpr ⟨state, hlaunch, rfl⟩

/-- Two programs that differ in what they do with the devices: where one of them can go on with a
subset of the states of the other, its outcomes are those of the other with such a state. -/
theorem main_eq_ok_iff_of_launch {Running : Type} {plugin : PluginMain Options Config Prepared}
    {launch launch' : ConfigFile → Config → Prepared → EcatMap → Except String Running}
    {P : Running → Prop}
    (hlaunch : ∀ file config prepared ecatMap state,
      launch file config prepared ecatMap = .ok state ↔
        launch' file config prepared ecatMap = .ok state ∧ P state)
    (shm : SharedMemory) (argv : List String) (outcome : MainOutcome Running) :
    plugin.main lib host shm launch argv = .ok outcome ↔
      plugin.main lib host shm launch' argv = .ok outcome ∧
        ∀ state, outcome = .running state → P state := by
  -- an outcome without a state is one of both
  have hsame : ∀ {result : MainOutcome Running}, (∀ state, result ≠ .running state) →
      ((Except.ok result : Except String _) = .ok outcome ↔
        (Except.ok result : Except String _) = .ok outcome ∧
          ∀ state, outcome = .running state → P state) := by
    intro result hresult
    refine ⟨fun h => ⟨h, fun state hstate => ?_⟩, fun h => h.1⟩
    exact absurd ((Except.ok.inj h).trans hstate) (hresult state)
  unfold PluginMain.main
  cases plugin.configure lib host argv with
  | error what =>
    refine iff_of_false ?_ fun h => ?_
    · rintro ⟨⟩
    · exact absurd h.1 (by rintro ⟨⟩)
  | ok configured =>
    cases configured with
    | none => exact hsame (by rintro state ⟨⟩)
    | some found =>
      show (if !shm.starts then _ else _) = _ ↔ (if !shm.starts then _ else _) = _ ∧ _
      by_cases hstarts : (!shm.starts) = true
      · rw [if_pos hstarts, if_pos hstarts]
        exact hsame (by rintro state ⟨⟩)
      · rw [if_neg hstarts, if_neg hstarts]
        cases discover shm.isOk (extractPdoIds (plugin.commonConfig found.2.1).robot)
            shm.passes with
        | none => exact hsame (by rintro state ⟨⟩)
        | some ecatMap =>
          constructor
          · intro h
            obtain ⟨state, hstate, h⟩ := bind_eq_ok.mp h
            obtain ⟨hstate', hP⟩ := (hlaunch _ _ _ _ state).mp hstate
            obtain rfl := Except.ok.inj h
            refine ⟨bind_eq_ok.mpr ⟨state, hstate', rfl⟩, fun other hother => ?_⟩
            exact MainOutcome.running.inj hother ▸ hP
          · rintro ⟨h, hP⟩
            obtain ⟨state, hstate, h⟩ := bind_eq_ok.mp h
            obtain rfl := Except.ok.inj h
            exact bind_eq_ok.mpr ⟨state, (hlaunch _ _ _ _ state).mpr ⟨hstate, hP state rfl⟩, rfl⟩

/-- Discovery returns a map of all the devices that are expected, and of no others. -/
theorem mem_of_discover {ecatIds : Finset EcatId} {passes : List RxQueues} {m : EcatMap}
    (h : discover true ecatIds passes = some m) (id : EcatId) : id ∈ m ↔ id ∈ ecatIds := by
  obtain ⟨done, rest, -, rfl, hsize⟩ := discoverLoop_eq_some h
  have hwithin : (done.foldl (discoverOnce ecatIds) .empty).Within ecatIds := by
    rw [foldl_discoverOnce]
    exact fun id hid => (mem_mapAfter.mp hid).1
  refine ⟨hwithin id, fun hid => ?_⟩
  by_contra hnot
  exact hsize (hwithin.size_lt_iff.mpr ⟨id, hid, hnot⟩)

end EcatMiddleware.Core
