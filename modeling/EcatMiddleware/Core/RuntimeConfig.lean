import EcatMiddleware.Core.ConfigFile
import Mathlib.Data.List.Induction
import Mathlib.Data.Nat.Init

/-!
# The runtime configuration

The frequencies of the three adapters: their defaults, the `runtime` section, and the flags of the
command line, in this order.

* `Spells`: the argument lists that are accepted, and what they say.
* `runtime_of_arguments`: which frequency comes out, and that an accepted one has a period.
-/

namespace EcatMiddleware.Core

open FoldExcept

inductive Rate where
  | publishers
  | subscribers
  | service
  deriving DecidableEq, Repr

structure RuntimeConfig where
  ratePublishers : UInt32 := 1000
  rateSubscribers : UInt32 := 100
  rateService : UInt32 := 10
  deriving DecidableEq, Repr

def RuntimeConfig.get (cfg : RuntimeConfig) : Rate → UInt32
  | .publishers => cfg.ratePublishers
  | .subscribers => cfg.rateSubscribers
  | .service => cfg.rateService

variable (lib : YamlCpp)

/-- The microseconds of a period. -/
def periodFromRate (hz : UInt32) : Configured UInt32 :=
  if hz = 0 ∨ hz > 1000000 then
    .error (.configError "rate: must be between 1 and 1000000 Hz")
  else .ok (1000000 / hz)

/-- The frequency that `Process::start` logs, `none` where it divides by zero. -/
def loggedRate (period : UInt32) : Option UInt32 :=
  if period = 0 then none else some (1000000 / period)

/-- The lambda `check` of `validate`. -/
def checkRate (hz : UInt32) (field : String) : Configured Unit :=
  if hz = 0 ∨ hz > 1000000 then
    .error (.configError ("runtime." ++ field ++ ": must be between 1 and 1000000 Hz"))
  else .ok ()

def RuntimeConfig.validate (cfg : RuntimeConfig) : Configured Unit := do
  checkRate cfg.ratePublishers "publishers_hz"
  checkRate cfg.rateSubscribers "subscribers_hz"
  checkRate cfg.rateService "service_hz"

def parseRuntimeConfig (root : Yaml) : Configured RuntimeConfig := do
  let node ← sectionOf lib root "runtime" ""
  checkKeys lib node ["publishers_hz", "subscribers_hz", "service_hz"] "runtime"
  let cfg : RuntimeConfig := {}
  let publishers ← unsignedValue lib node "publishers_hz" cfg.ratePublishers "runtime"
  let subscribers ← unsignedValue lib node "subscribers_hz" cfg.rateSubscribers "runtime"
  let service ← unsignedValue lib node "service_hz" cfg.rateService "runtime"
  .ok ⟨publishers, subscribers, service⟩

structure RuntimeOverrides where
  publishers : Option UInt32 := none
  subscribers : Option UInt32 := none
  service : Option UInt32 := none
  deriving DecidableEq, Repr

namespace RuntimeOverrides

def get (overrides : RuntimeOverrides) : Rate → Option UInt32
  | .publishers => overrides.publishers
  | .subscribers => overrides.subscribers
  | .service => overrides.service

def set (overrides : RuntimeOverrides) (rate : Rate) (hz : UInt32) : RuntimeOverrides :=
  match rate with
  | .publishers => { overrides with publishers := some hz }
  | .subscribers => { overrides with subscribers := some hz }
  | .service => { overrides with service := some hz }

def apply (overrides : RuntimeOverrides) (cfg : RuntimeConfig) : RuntimeConfig where
  ratePublishers := overrides.publishers.getD cfg.ratePublishers
  rateSubscribers := overrides.subscribers.getD cfg.rateSubscribers
  rateService := overrides.service.getD cfg.rateService

end RuntimeOverrides

structure CommonOptions where
  configPath : String := ""
  runtime : RuntimeOverrides := {}
  help : Bool := false
  deriving DecidableEq, Repr

/-- The override that a flag is about. -/
def target (flag : String) : Option Rate :=
  if flag = "--rate-publishers" ∨ flag = "--rate_publishers" then some .publishers
  else if flag = "--rate-subscribers" ∨ flag = "--rate_subscribers" then some .subscribers
  else if flag = "--rate-service" ∨ flag = "--rate_service" then some .service
  else none

/-- `none` for a flag that is not known here. -/
def CommonOptions.consume (options : CommonOptions) (flag text : String) :
    Configured (Option CommonOptions) :=
  if flag = "--config" then .ok (some { options with configPath := text })
  else
    match target flag with
    | none => .ok none
    | some rate => do
      let hz ← unsignedValue lib (.map [(.scalar "rate", .scalar text)]) "rate" 0 flag
      .ok (some { options with runtime := options.runtime.set rate hz })

/-- The argument behind `flag`; a value does not begin with `--`. -/
def argumentValue (flag : String) : List String → Configured (String × List String)
  | [] => .error (.configError ("Missing value after " ++ flag))
  | text :: args =>
    if "--".toList.isPrefixOf text.toList then
      .error (.configError ("Missing value after " ++ flag))
    else .ok (text, args)

theorem eq_of_argumentValue {flag text : String} {args rest : List String}
    (h : argumentValue flag args = .ok (text, rest)) : args = text :: rest := by
  cases args with
  | nil => exact absurd h (by rintro ⟨⟩)
  | cons a args =>
    rw [argumentValue] at h
    split_ifs at h
    obtain ⟨rfl, rfl⟩ := Prod.mk.inj (Except.ok.inj h)
    rfl

/-- The loop over the arguments. -/
def parseArguments (options : CommonOptions) : List String → Configured CommonOptions
  | [] => .ok options
  | flag :: args =>
    if flag = "--help" ∨ flag = "-h" then parseArguments { options with help := true } args
    else
      match _h : argumentValue flag args with
      | .error e => .error e
      | .ok (text, rest) =>
        match options.consume lib flag text with
        | .error e => .error e
        | .ok none => .error (.configError ("Unknown argument: " ++ flag))
        | .ok (some options) => parseArguments options rest
termination_by args => args.length
decreasing_by
  · exact Nat.lt_succ_self _
  · rw [eq_of_argumentValue ‹argumentValue flag args = .ok (text, rest)›]
    simp only [List.length_cons]
    omega

/-- The first argument is the program. -/
def parseCommonOptions (argv : List String) : Configured CommonOptions :=
  parseArguments lib {} argv.tail

/-! ## What the arguments say -/

inductive Setting where
  | help
  | config (path : String)
  | rate (rate : Rate) (hz : UInt32)

/-- The two spellings of a flag. -/
def spellings : Rate → List String
  | .publishers => ["--rate-publishers", "--rate_publishers"]
  | .subscribers => ["--rate-subscribers", "--rate_subscribers"]
  | .service => ["--rate-service", "--rate_service"]

/-- A known flag with its value. -/
inductive Says : String → String → Setting → Prop
  | config (text : String) : Says "--config" text (.config text)
  | rate {flag text : String} {rate : Rate} {hz : UInt32} (hflag : flag ∈ spellings rate)
      (hnum : IsNumeral text hz.toNat) : Says flag text (.rate rate hz)

/-- The accepted argument lists, with what they say. -/
inductive Spells : List String → List Setting → Prop
  | nil : Spells [] []
  | help {flag : String} {args : List String} {settings : List Setting}
      (hflag : flag = "--help" ∨ flag = "-h") (rest : Spells args settings) :
      Spells (flag :: args) (.help :: settings)
  | setting {flag text : String} {setting : Setting} {args : List String} {settings : List Setting}
      (hreads : Says flag text setting) (htext : ¬ "--".toList <+: text.toList)
      (rest : Spells args settings) : Spells (flag :: text :: args) (setting :: settings)

def CommonOptions.put (options : CommonOptions) : Setting → CommonOptions
  | .help => { options with help := true }
  | .config path => { options with configPath := path }
  | .rate rate hz => { options with runtime := options.runtime.set rate hz }

variable {lib}

theorem target_eq_some_iff {flag : String} {rate : Rate} :
    target flag = some rate ↔ flag ∈ spellings rate := by
  unfold target
  constructor
  · intro h
    split_ifs at h with h₁ h₂ h₃
    all_goals
      obtain rfl := Option.some.inj h
      simpa [spellings]
  · intro h
    cases rate <;> (rcases List.mem_pair.mp h with rfl | rfl <;> rfl)

/-- A flag that is consumed says what is put into the options. -/
theorem consume_eq_some_iff {options options' : CommonOptions} {flag text : String} :
    options.consume lib flag text = .ok (some options') ↔
      ∃ setting, Says flag text setting ∧ options' = options.put setting := by
  have hvalue : ∀ flag', value lib (.map [(.scalar "rate", .scalar text)]) "rate"
      (toString (0 : UInt32).toNat) flag' = .ok text := by
    intro flag'
    rw [value_of_lookup_eq_some (rfl : Yaml.lookup _ "rate" = some (.scalar text))]
    rfl
  unfold CommonOptions.consume
  constructor
  · intro h
    split_ifs at h with hconfig
    · obtain rfl := hconfig
      exact ⟨.config text, .config text, (Option.some.inj (Except.ok.inj h)).symm⟩
    · split at h
      · exact absurd (Except.ok.inj h) (by simp)
      · rename_i rate htarget
        obtain ⟨hz, hhz, h⟩ := bind_eq_ok.mp h
        obtain ⟨text', htext, hnum⟩ := unsignedValue_eq_ok.mp hhz
        obtain rfl := Except.ok.inj ((hvalue flag).symm.trans htext)
        exact ⟨.rate rate hz, .rate (target_eq_some_iff.mp htarget) hnum,
          (Option.some.inj (Except.ok.inj h)).symm⟩
  · rintro ⟨setting, hreads, rfl⟩
    cases hreads with
    | config => rfl
    | @rate _ _ rate hz hflag hnum =>
      have htarget := target_eq_some_iff.mpr hflag
      have hconfig : flag ≠ "--config" := by
        rintro rfl
        exact absurd htarget (by rw [show target "--config" = none by decide]; simp)
      rw [if_neg hconfig, htarget]
      exact bind_eq_ok.mpr ⟨hz, unsignedValue_eq_ok.mpr ⟨text, hvalue flag, hnum⟩, rfl⟩

theorem onlyConfigErrors_consume (options : CommonOptions) (flag text : String) :
    OnlyConfigErrors (options.consume lib flag text) := by
  unfold CommonOptions.consume
  split_ifs
  · exact onlyConfigErrors_ok _
  · split
    · exact onlyConfigErrors_ok _
    · exact onlyConfigErrors_bind (onlyConfigErrors_unsignedValue _ _ _ _) fun _ _ =>
        onlyConfigErrors_ok _

theorem argumentValue_eq_ok_iff {flag text : String} {args rest : List String} :
    argumentValue flag args = .ok (text, rest) ↔
      args = text :: rest ∧ ¬ "--".toList <+: text.toList := by
  constructor
  · intro h
    obtain rfl := eq_of_argumentValue h
    refine ⟨rfl, fun hprefix => ?_⟩
    rw [argumentValue, if_pos (List.isPrefixOf_iff_prefix.mpr hprefix)] at h
    exact absurd h (by rintro ⟨⟩)
  · rintro ⟨rfl, hprefix⟩
    rw [argumentValue, if_neg fun h => hprefix (List.isPrefixOf_iff_prefix.mp h)]

theorem onlyConfigErrors_argumentValue (flag : String) (args : List String) :
    OnlyConfigErrors (argumentValue flag args) := by
  unfold argumentValue
  split
  · exact onlyConfigErrors_configError _
  · split_ifs
    · exact onlyConfigErrors_configError _
    · exact onlyConfigErrors_ok _

/-- No known flag asks for help. -/
theorem Says.not_help {flag text : String} {setting : Setting} (h : Says flag text setting) :
    ¬ (flag = "--help" ∨ flag = "-h") := by
  cases h with
  | config => decide
  | @rate _ _ rate hz hflag _ =>
    rintro (rfl | rfl) <;> cases rate <;> exact absurd hflag (by decide)

theorem parseArguments_flag {flag : String} (hflag : ¬ (flag = "--help" ∨ flag = "-h"))
    (options : CommonOptions) (args : List String) :
    parseArguments lib options (flag :: args) =
      argumentValue flag args >>= fun found => options.consume lib flag found.1 >>= fun consumed =>
        match consumed with
        | none => .error (.configError ("Unknown argument: " ++ flag))
        | some options => parseArguments lib options found.2 := by
  rw [parseArguments, if_neg hflag]
  split
  · rename_i e hvalue
    rw [hvalue]
    rfl
  · rename_i text rest hvalue
    rw [hvalue]
    show _ = options.consume lib flag text >>= _
    split
    · rename_i e hconsume
      rw [hconsume]
      rfl
    · rename_i hconsume
      rw [hconsume]
      rfl
    · rename_i options' hconsume
      rw [hconsume]
      rfl

/-- An argument list is read flag by flag. -/
theorem argument_induction {P : List String → Prop} (nil : P [])
    (help : ∀ flag args, (flag = "--help" ∨ flag = "-h") → P args → P (flag :: args))
    (flag : ∀ flag args, ¬ (flag = "--help" ∨ flag = "-h") →
      (∀ text rest, args = text :: rest → P rest) → P (flag :: args)) : ∀ args, P args := by
  intro args
  induction hn : args.length using Nat.strong_induction_on generalizing args with
  | _ n ih =>
    cases args with
    | nil => exact nil
    | cons f args =>
      by_cases hf : f = "--help" ∨ f = "-h"
      · exact help f args hf (ih args.length (by rw [← hn]; exact Nat.lt_succ_self _) args rfl)
      · refine flag f args hf ?_
        rintro text rest rfl
        refine ih rest.length ?_ rest rfl
        simp only [List.length_cons] at hn
        omega

/-- What is accepted is spelled out, and put into the options one after the other. -/
theorem parseArguments_eq_ok_iff (args : List String) (options options' : CommonOptions) :
    parseArguments lib options args = .ok options' ↔
      ∃ settings, Spells args settings ∧ options' = settings.foldl CommonOptions.put options := by
  constructor
  · intro h
    induction args using argument_induction generalizing options with
    | nil =>
      rw [parseArguments] at h
      exact ⟨[], .nil, (Except.ok.inj h).symm⟩
    | help flag args hflag ih =>
      rw [parseArguments, if_pos hflag] at h
      obtain ⟨settings, hspells, rfl⟩ := ih _ h
      exact ⟨.help :: settings, .help hflag hspells, rfl⟩
    | flag flag args hflag ih =>
      rw [parseArguments_flag hflag] at h
      obtain ⟨⟨text, rest⟩, hvalue, h⟩ := bind_eq_ok.mp h
      obtain ⟨consumed, hconsume, h⟩ := bind_eq_ok.mp h
      obtain ⟨rfl, htext⟩ := argumentValue_eq_ok_iff.mp hvalue
      cases consumed with
      | none => exact absurd h (by rintro ⟨⟩)
      | some next =>
        obtain ⟨setting, hreads, rfl⟩ := consume_eq_some_iff.mp hconsume
        obtain ⟨settings, hspells, rfl⟩ := ih text rest rfl _ h
        exact ⟨setting :: settings, .setting hreads htext hspells, rfl⟩
  · rintro ⟨settings, hspells, rfl⟩
    induction hspells generalizing options with
    | nil => rw [parseArguments, List.foldl_nil]
    | help hflag _ ih =>
      rw [parseArguments, if_pos hflag]
      exact ih _
    | setting hreads htext _ ih =>
      rw [parseArguments_flag hreads.not_help]
      refine bind_eq_ok.mpr ⟨_, argumentValue_eq_ok_iff.mpr ⟨rfl, htext⟩, ?_⟩
      exact bind_eq_ok.mpr ⟨_, consume_eq_some_iff.mpr ⟨_, hreads, rfl⟩, ih _⟩

theorem onlyConfigErrors_parseArguments (args : List String) (options : CommonOptions) :
    OnlyConfigErrors (parseArguments lib options args) := by
  induction args using argument_induction generalizing options with
  | nil =>
    rw [parseArguments]
    exact onlyConfigErrors_ok _
  | help flag args hflag ih =>
    rw [parseArguments, if_pos hflag]
    exact ih _
  | flag flag args hflag ih =>
    rw [parseArguments_flag hflag]
    refine onlyConfigErrors_bind (onlyConfigErrors_argumentValue flag args) fun found hfound => ?_
    refine onlyConfigErrors_bind (onlyConfigErrors_consume _ _ _) fun consumed _ => ?_
    cases consumed with
    | none => exact onlyConfigErrors_configError _
    | some next => exact ih found.1 found.2 (eq_of_argumentValue hfound) next

/-! ## Which frequency comes out -/

/-- The setting of the YAML document for a frequency. -/
def yamlKey : Rate → String
  | .publishers => "publishers_hz"
  | .subscribers => "subscribers_hz"
  | .service => "service_hz"

/-- The last flag decides, else the `runtime` section, else the default. -/
inductive Decides (lib : YamlCpp) (settings : List Setting) (runtime : List (Yaml × Yaml))
    (rate : Rate) : UInt32 → Prop
  | flag {pre post : List Setting} {hz : UInt32}
      (hlast : settings = pre ++ .rate rate hz :: post) (hpost : ∀ hz', .rate rate hz' ∉ post) :
      Decides lib settings runtime rate hz
  | yaml {node : Yaml} {text : String} {hz : UInt32} (hflags : ∀ hz', .rate rate hz' ∉ settings)
      (hnode : Yaml.lookup runtime (yamlKey rate) = some node)
      (htext : node.asString lib = .ok text) (hnum : IsNumeral text hz.toNat) :
      Decides lib settings runtime rate hz
  | fallback (hflags : ∀ hz', .rate rate hz' ∉ settings)
      (habsent : Yaml.lookup runtime (yamlKey rate) = none) :
      Decides lib settings runtime rate (({} : RuntimeConfig).get rate)

theorem RuntimeOverrides.get_set (overrides : RuntimeOverrides) (rate rate' : Rate) (hz : UInt32) :
    (overrides.set rate hz).get rate' = if rate' = rate then some hz else overrides.get rate' := by
  cases rate <;> cases rate' <;> rfl

theorem RuntimeOverrides.get_apply (overrides : RuntimeOverrides) (cfg : RuntimeConfig)
    (rate : Rate) : (overrides.apply cfg).get rate = (overrides.get rate).getD (cfg.get rate) := by
  cases rate <;> rfl

/-- The override is that of the last flag that names the frequency. -/
theorem get_foldl_put (rate : Rate) (options : CommonOptions) (settings : List Setting) :
    ((∀ hz, .rate rate hz ∉ settings) ∧
      (settings.foldl CommonOptions.put options).runtime.get rate = options.runtime.get rate) ∨
    ∃ pre hz post, settings = pre ++ .rate rate hz :: post ∧ (∀ hz', .rate rate hz' ∉ post) ∧
      (settings.foldl CommonOptions.put options).runtime.get rate = some hz := by
  induction settings using List.reverseRecOn with
  | nil => exact Or.inl ⟨fun _ => List.not_mem_nil, rfl⟩
  | append_singleton settings setting ih =>
    rw [List.foldl_append, List.foldl_cons, List.foldl_nil]
    by_cases hsame : ∃ hz, setting = .rate rate hz
    · obtain ⟨hz, rfl⟩ := hsame
      refine Or.inr ⟨settings, hz, [], rfl, fun _ => List.not_mem_nil, ?_⟩
      exact (RuntimeOverrides.get_set _ rate rate hz).trans (if_pos rfl)
    · have hkeep : ((settings.foldl CommonOptions.put options).put setting).runtime.get rate =
          (settings.foldl CommonOptions.put options).runtime.get rate := by
        cases setting with
        | help => rfl
        | config path => rfl
        | rate other hz =>
          have hne : rate ≠ other := by
            rintro rfl
            exact hsame ⟨hz, rfl⟩
          exact (RuntimeOverrides.get_set _ other rate hz).trans (if_neg hne)
      have hnot : ∀ hz, .rate rate hz ∉ [setting] := fun hz hmem =>
        hsame ⟨hz, (List.mem_singleton.mp hmem).symm⟩
      rw [hkeep]
      rcases ih with ⟨hnone, hget⟩ | ⟨pre, hz, post, rfl, hpost, hget⟩
      · left
        exact ⟨fun hz hmem => (List.mem_append.mp hmem).elim (hnone hz) (hnot hz), hget⟩
      · right
        refine ⟨pre, hz, post ++ [setting], by simp, fun hz' hmem => ?_, hget⟩
        exact (List.mem_append.mp hmem).elim (hpost hz') (hnot hz')

/-- What the `runtime` section says. -/
theorem get_parseRuntimeConfig {root : Yaml} {cfg : RuntimeConfig}
    (h : parseRuntimeConfig lib root = .ok cfg) :
    ∃ node, sectionOf lib root "runtime" "" = .ok node ∧
      ∀ rate, ∃ text, value lib node (yamlKey rate)
        (toString (({} : RuntimeConfig).get rate).toNat) "runtime" = .ok text ∧
        IsNumeral text (cfg.get rate).toNat := by
  obtain ⟨node, hnode, h⟩ := bind_eq_ok.mp h
  obtain ⟨_, -, h⟩ := bind_eq_ok.mp h
  obtain ⟨publishers, hpublishers, h⟩ := bind_eq_ok.mp h
  obtain ⟨subscribers, hsubscribers, h⟩ := bind_eq_ok.mp h
  obtain ⟨service, hservice, h⟩ := bind_eq_ok.mp h
  obtain rfl := Except.ok.inj h
  refine ⟨node, hnode, fun rate => ?_⟩
  cases rate with
  | publishers => exact unsignedValue_eq_ok.mp hpublishers
  | subscribers => exact unsignedValue_eq_ok.mp hsubscribers
  | service => exact unsignedValue_eq_ok.mp hservice

theorem exists_map_of_sectionOf {root node : Yaml} {key path : String}
    (h : sectionOf lib root key path = .ok node) : ∃ entries, node = .map entries := by
  obtain ⟨found, -, h⟩ := bind_eq_ok.mp h
  cases found with
  | none => exact ⟨[], (Except.ok.inj h).symm⟩
  | some found =>
    cases found with
    | map entries => exact ⟨entries, (Except.ok.inj h).symm⟩
    | null | scalar | sequence => exact absurd h (by rintro ⟨⟩)

/-- **The layers.** Flags over the `runtime` section over the defaults. -/
theorem decides_apply {argv : List String} {options : CommonOptions} {root : Yaml}
    {cfg : RuntimeConfig} (hoptions : parseCommonOptions lib argv = .ok options)
    (hcfg : parseRuntimeConfig lib root = .ok cfg) :
    ∃ settings runtime, Spells argv.tail settings ∧
      sectionOf lib root "runtime" "" = .ok (.map runtime) ∧
      ∀ rate, Decides lib settings runtime rate ((options.runtime.apply cfg).get rate) := by
  obtain ⟨settings, hspells, rfl⟩ := (parseArguments_eq_ok_iff _ _ _).mp hoptions
  obtain ⟨node, hnode, hcfg⟩ := get_parseRuntimeConfig hcfg
  obtain ⟨runtime, rfl⟩ := exists_map_of_sectionOf hnode
  refine ⟨settings, runtime, hspells, hnode, fun rate => ?_⟩
  rw [RuntimeOverrides.get_apply]
  rcases get_foldl_put rate {} settings with ⟨hnone, hget⟩ | ⟨pre, hz, post, hlast, hpost, hget⟩
  · have hempty : ({} : CommonOptions).runtime.get rate = none := by cases rate <;> rfl
    rw [hget, hempty]
    show Decides lib settings runtime rate (cfg.get rate)
    obtain ⟨text, htext, hnum⟩ := hcfg rate
    cases hlookup : Yaml.lookup runtime (yamlKey rate) with
    | none =>
      rw [value_of_lookup_eq_none hlookup] at htext
      obtain rfl := Except.ok.inj htext
      rw [UInt32.toNat_inj.mp (hnum.unique (isNumeral_toString _))]
      exact .fallback hnone hlookup
    | some found =>
      rw [value_of_lookup_eq_some hlookup, rethrow_eq_ok] at htext
      exact .yaml hnone hlookup htext hnum
  · rw [hget]
    exact .flag hlast hpost

/-! ## The period -/

/-- The one range check of `validate` and of `period_from_rate`. -/
theorem outOfRange_iff {hz : UInt32} :
    (hz = 0 ∨ hz > 1000000) ↔ ¬ (1 ≤ hz.toNat ∧ hz.toNat ≤ 1000000) := by
  have hzero : hz = 0 ↔ hz.toNat = 0 := UInt32.toNat_inj.symm
  have hmax : hz > 1000000 ↔ hz.toNat > 1000000 := UInt32.lt_iff_toNat_lt
  rw [hzero, hmax]
  omega

theorem checkRate_eq_ok {hz : UInt32} {field : String} :
    checkRate hz field = .ok () ↔ 1 ≤ hz.toNat ∧ hz.toNat ≤ 1000000 := by
  unfold checkRate
  rw [← not_iff_not, ← outOfRange_iff]
  split_ifs with h
  · exact iff_of_true (by rintro ⟨⟩) h
  · exact iff_of_false (fun hne => hne rfl) h

theorem range_of_validate {cfg : RuntimeConfig} (h : cfg.validate = .ok ()) (rate : Rate) :
    1 ≤ (cfg.get rate).toNat ∧ (cfg.get rate).toNat ≤ 1000000 := by
  obtain ⟨_, hpublishers, h⟩ := bind_eq_ok.mp h
  obtain ⟨_, hsubscribers, hservice⟩ := bind_eq_ok.mp h
  cases rate with
  | publishers => exact checkRate_eq_ok.mp hpublishers
  | subscribers => exact checkRate_eq_ok.mp hsubscribers
  | service => exact checkRate_eq_ok.mp hservice

theorem periodFromRate_of_range {hz : UInt32} (h : 1 ≤ hz.toNat ∧ hz.toNat ≤ 1000000) :
    ∃ period, periodFromRate hz = .ok period ∧ 1 ≤ period.toNat ∧ period.toNat ≤ 1000000 ∧
      (loggedRate period).isSome := by
  have hperiod : (1000000 / hz : UInt32).toNat = 1000000 / hz.toNat := UInt32.toNat_div _ _
  have hpos : 1 ≤ (1000000 / hz : UInt32).toNat := by
    rw [hperiod]
    exact Nat.div_pos h.2 h.1
  refine ⟨1000000 / hz, if_neg (outOfRange_iff.not_left.mpr h), hpos, ?_, ?_⟩
  · rw [hperiod]
    exact Nat.div_le_self _ _
  · have hne : (1000000 / hz : UInt32) ≠ 0 := by
      intro hzero
      rw [hzero] at hpos
      exact absurd hpos (by decide)
    rw [loggedRate, if_neg hne]
    rfl

/-- **The frequencies.** Which argument lists are accepted, which frequencies come out of the three
layers, and that those which `validate` accepts have a period. -/
theorem runtime_of_arguments (lib : YamlCpp) (argv : List String) :
    ((∃ options, parseCommonOptions lib argv = .ok options) ↔
      ∃ settings, Spells argv.tail settings) ∧
    ((¬ ∃ settings, Spells argv.tail settings) →
      ∃ what, parseCommonOptions lib argv = .error (.configError what)) ∧
    ∀ options root cfg, parseCommonOptions lib argv = .ok options →
      parseRuntimeConfig lib root = .ok cfg →
      (∃ settings runtime, Spells argv.tail settings ∧
        sectionOf lib root "runtime" "" = .ok (.map runtime) ∧
        ∀ rate, Decides lib settings runtime rate ((options.runtime.apply cfg).get rate)) ∧
      ((options.runtime.apply cfg).validate = .ok () → ∀ rate, ∃ period,
        periodFromRate ((options.runtime.apply cfg).get rate) = .ok period ∧
        1 ≤ period.toNat ∧ period.toNat ≤ 1000000 ∧ (loggedRate period).isSome) := by
  have hiff : (∃ options, parseCommonOptions lib argv = .ok options) ↔
      ∃ settings, Spells argv.tail settings := by
    constructor
    · rintro ⟨options, h⟩
      obtain ⟨settings, hspells, -⟩ := (parseArguments_eq_ok_iff _ _ _).mp h
      exact ⟨settings, hspells⟩
    · rintro ⟨settings, hspells⟩
      exact ⟨_, (parseArguments_eq_ok_iff _ _ _).mpr ⟨settings, hspells, rfl⟩⟩
  refine ⟨hiff, fun hno => ?_, fun options root cfg hoptions hcfg => ⟨?_, fun hvalid rate => ?_⟩⟩
  · refine (onlyConfigErrors_parseArguments _ _).eq_configError fun options hok => ?_
    exact hno (hiff.mp ⟨options, hok⟩)
  · exact decides_apply hoptions hcfg
  · exact periodFromRate_of_range (range_of_validate hvalid rate)

/-- The second spelling comes last; the `runtime` section and the defaults give the rest. -/
theorem runtime_of_arguments_example :
    ∃ options cfg, parseCommonOptions ⟨none, fun _ => "", fun _ _ => ""⟩
        ["plugin", "--rate-publishers", "500", "-h", "--rate_publishers", "250"] = .ok options ∧
      parseRuntimeConfig ⟨none, fun _ => "", fun _ _ => ""⟩ (.map [(.scalar "runtime",
        .map [(.scalar "publishers_hz", .scalar "20"),
          (.scalar "subscribers_hz", .scalar "200")])]) = .ok cfg ∧
      options.runtime.apply cfg = ⟨250, 200, 10⟩ ∧
      ∀ rate, ∃ period, periodFromRate ((options.runtime.apply cfg).get rate) = .ok period ∧
        1 ≤ period.toNat ∧ period.toNat ≤ 1000000 ∧ (loggedRate period).isSome := by
  have hspells : Spells ["--rate-publishers", "500", "-h", "--rate_publishers", "250"]
      [.rate .publishers 500, .help, .rate .publishers 250] := by
    refine .setting (.rate List.mem_cons_self ⟨by decide, by simp, rfl⟩) (by decide) ?_
    refine .help (Or.inr rfl) ?_
    exact .setting (.rate (by decide) ⟨by decide, by simp, rfl⟩) (by decide) .nil
  have hoptions : parseCommonOptions ⟨none, fun _ => "", fun _ _ => ""⟩
      ["plugin", "--rate-publishers", "500", "-h", "--rate_publishers", "250"] = .ok _ :=
    (parseArguments_eq_ok_iff _ _ _).mpr ⟨_, hspells, rfl⟩
  have hcfg : parseRuntimeConfig ⟨none, fun _ => "", fun _ _ => ""⟩ (.map [(.scalar "runtime",
      .map [(.scalar "publishers_hz", .scalar "20"), (.scalar "subscribers_hz", .scalar "200")])]) =
        .ok ⟨20, 200, 10⟩ := rfl
  exact ⟨_, _, hoptions, hcfg, rfl, ((runtime_of_arguments _ _).2.2 _ _ _ hoptions hcfg).2 rfl⟩

end EcatMiddleware.Core
