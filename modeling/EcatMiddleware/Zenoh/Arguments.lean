import EcatMiddleware.Core.RuntimeConfig
import EcatMiddleware.Zenoh.BridgePublisher

/-!
# The arguments of the Zenoh plugin

The flags of the transport beside those that all plugins know.

* `consumeArgs_eq_ok_iff`: the argument lists that are accepted, and what they say.
* `parseArgs_extends`: what becomes of the lists that the other plugins read.
-/

namespace EcatMiddleware.Zenoh

open EcatMiddleware.Core FoldExcept

def parseWireFormat (text : String) : Configured WireFormat :=
  if text = "protobuf" then .ok .protobuf
  else if text = "ros2cdr" then .ok .ros2Cdr
  else .error (.configError "zenoh.wire_format: expected protobuf or ros2cdr")

structure Options where
  common : CommonOptions := {}
  wireFormat : Option WireFormat := none
  zenohConfig : Option String := none
  deriving DecidableEq, Repr

variable (lib : YamlCpp)

/-- The body of the loop, for a flag with its value. -/
def Options.consume (options : Options) (flag text : String) : Configured Options := do
  match ← options.common.consume lib flag text with
  | some common => .ok { options with common := common }
  | none =>
    if flag = "--wire-format" then
      let wireFormat ← parseWireFormat text
      .ok { options with wireFormat := some wireFormat }
    else if flag = "--zenoh-config" then .ok { options with zenohConfig := some text }
    else .error (.configError ("Unknown argument: " ++ flag))

/-- The loop over the arguments. -/
def consumeArgs (options : Options) : List String → Configured Options
  | [] => .ok options
  | flag :: args =>
    if flag = "--help" ∨ flag = "-h" then
      consumeArgs { options with common := { options.common with help := true } } args
    else
      match _h : argumentValue flag args with
      | .error e => .error e
      | .ok (text, rest) =>
        match options.consume lib flag text with
        | .error e => .error e
        | .ok options => consumeArgs options rest
termination_by args => args.length
decreasing_by
  · exact Nat.lt_succ_self _
  · rw [eq_of_argumentValue ‹argumentValue flag args = .ok (text, rest)›]
    simp only [List.length_cons]
    omega

/-- The first argument is the program. -/
def parseArgs (argv : List String) : Configured Options := consumeArgs lib {} argv.tail

/-! ## What the arguments say -/

inductive TransportSetting where
  | common (setting : Setting)
  | wireFormat (wireFormat : WireFormat)
  | zenohConfig (path : String)

/-- The text of a wire format. -/
def WireFormat.text : WireFormat → String
  | .protobuf => "protobuf"
  | .ros2Cdr => "ros2cdr"

/-- A known flag with its value. -/
inductive SaysTransport : String → String → TransportSetting → Prop
  | common {flag text : String} {setting : Setting} (hreads : Says flag text setting) :
      SaysTransport flag text (.common setting)
  | wireFormat (wireFormat : WireFormat) :
      SaysTransport "--wire-format" wireFormat.text (.wireFormat wireFormat)
  | zenohConfig (text : String) : SaysTransport "--zenoh-config" text (.zenohConfig text)

/-- The accepted argument lists, with what they say. -/
inductive SpellsTransport : List String → List TransportSetting → Prop
  | nil : SpellsTransport [] []
  | help {flag : String} {args : List String} {settings : List TransportSetting}
      (hflag : flag = "--help" ∨ flag = "-h") (rest : SpellsTransport args settings) :
      SpellsTransport (flag :: args) (.common .help :: settings)
  | setting {flag text : String} {setting : TransportSetting} {args : List String}
      {settings : List TransportSetting} (hreads : SaysTransport flag text setting)
      (htext : ¬ "--".toList <+: text.toList) (rest : SpellsTransport args settings) :
      SpellsTransport (flag :: text :: args) (setting :: settings)

def Options.put (options : Options) : TransportSetting → Options
  | .common setting => { options with common := options.common.put setting }
  | .wireFormat wireFormat => { options with wireFormat := some wireFormat }
  | .zenohConfig path => { options with zenohConfig := some path }

variable {lib}

theorem parseWireFormat_eq_ok {text : String} {wireFormat : WireFormat} :
    parseWireFormat text = .ok wireFormat ↔ text = wireFormat.text := by
  unfold parseWireFormat
  constructor
  · intro h
    split_ifs at h with hprotobuf hros2
    · rw [← Except.ok.inj h]
      exact hprotobuf
    · rw [← Except.ok.inj h]
      exact hros2
  · rintro rfl
    cases wireFormat <;> rfl

/-- The common options know nothing of the transport. -/
theorem consume_transport (options : CommonOptions) (text : String) {flag : String}
    (hflag : flag ∈ ["--wire-format", "--zenoh-config"]) :
    options.consume lib flag text = .ok none := by
  rcases List.mem_pair.mp hflag with rfl | rfl <;> rfl

theorem optionsConsume_eq_ok_iff {options options' : Options} {flag text : String} :
    options.consume lib flag text = .ok options' ↔
      ∃ setting, SaysTransport flag text setting ∧ options' = options.put setting := by
  unfold Options.consume
  constructor
  · intro h
    obtain ⟨consumed, hconsume, h⟩ := bind_eq_ok.mp h
    cases consumed with
    | some common =>
      obtain ⟨setting, hreads, rfl⟩ := consume_eq_some_iff.mp hconsume
      exact ⟨.common setting, .common hreads, (Except.ok.inj h).symm⟩
    | none =>
      simp only at h
      split_ifs at h with hformat hconfig
      · obtain ⟨wireFormat, hparse, hput⟩ := bind_eq_ok.mp h
        rw [hformat, parseWireFormat_eq_ok.mp hparse]
        exact ⟨.wireFormat wireFormat, .wireFormat wireFormat, (Except.ok.inj hput).symm⟩
      · rw [hconfig]
        exact ⟨.zenohConfig text, .zenohConfig text, (Except.ok.inj h).symm⟩
  · rintro ⟨setting, hreads, rfl⟩
    cases hreads with
    | common hreads =>
      exact bind_eq_ok.mpr ⟨_, consume_eq_some_iff.mpr ⟨_, hreads, rfl⟩, rfl⟩
    | wireFormat wireFormat =>
      refine bind_eq_ok.mpr ⟨none, consume_transport _ _ (by simp), ?_⟩
      exact bind_eq_ok.mpr ⟨wireFormat, parseWireFormat_eq_ok.mpr rfl, rfl⟩
    | zenohConfig => exact bind_eq_ok.mpr ⟨none, consume_transport _ _ (by simp), rfl⟩

theorem SaysTransport.not_help {flag text : String} {setting : TransportSetting}
    (h : SaysTransport flag text setting) : ¬ (flag = "--help" ∨ flag = "-h") := by
  cases h with
  | common hreads => exact hreads.not_help
  | wireFormat => decide
  | zenohConfig => decide

theorem consumeArgs_flag {flag : String} (hflag : ¬ (flag = "--help" ∨ flag = "-h"))
    (options : Options) (args : List String) :
    consumeArgs lib options (flag :: args) =
      argumentValue flag args >>= fun found => options.consume lib flag found.1 >>= fun options =>
        consumeArgs lib options found.2 := by
  rw [consumeArgs, if_neg hflag]
  split
  · rename_i e hvalue
    rw [hvalue]
    rfl
  · rename_i text rest hvalue
    rw [hvalue]
    show _ = options.consume lib flag text >>= _
    split
    · rename_i e hconsume
      rw [hconsume]
      rfl
    · rename_i options' hconsume
      rw [hconsume]
      rfl

/-- What is accepted is spelled out, and put into the options one after the other. -/
theorem consumeArgs_eq_ok_iff (args : List String) (options options' : Options) :
    consumeArgs lib options args = .ok options' ↔
      ∃ settings, SpellsTransport args settings ∧
        options' = settings.foldl Options.put options := by
  constructor
  · intro h
    induction args using argument_induction generalizing options with
    | nil =>
      rw [consumeArgs] at h
      exact ⟨[], .nil, (Except.ok.inj h).symm⟩
    | help flag args hflag ih =>
      rw [consumeArgs, if_pos hflag] at h
      obtain ⟨settings, hspells, rfl⟩ := ih _ h
      exact ⟨.common .help :: settings, .help hflag hspells, rfl⟩
    | flag flag args hflag ih =>
      rw [consumeArgs_flag hflag] at h
      obtain ⟨⟨text, rest⟩, hvalue, h⟩ := bind_eq_ok.mp h
      obtain ⟨next, hconsume, h⟩ := bind_eq_ok.mp h
      obtain ⟨rfl, htext⟩ := argumentValue_eq_ok_iff.mp hvalue
      obtain ⟨setting, hreads, rfl⟩ := optionsConsume_eq_ok_iff.mp hconsume
      obtain ⟨settings, hspells, rfl⟩ := ih text rest rfl _ h
      exact ⟨setting :: settings, .setting hreads htext hspells, rfl⟩
  · rintro ⟨settings, hspells, rfl⟩
    induction hspells generalizing options with
    | nil => rw [consumeArgs, List.foldl_nil]
    | help hflag _ ih =>
      rw [consumeArgs, if_pos hflag]
      exact ih _
    | setting hreads htext _ ih =>
      rw [consumeArgs_flag hreads.not_help]
      refine bind_eq_ok.mpr ⟨_, argumentValue_eq_ok_iff.mpr ⟨rfl, htext⟩, ?_⟩
      exact bind_eq_ok.mpr ⟨_, optionsConsume_eq_ok_iff.mpr ⟨_, hreads, rfl⟩, ih _⟩

/-! ## The arguments of the other plugins -/

/-- The arguments without those of the transport. -/
def commonArgs : List String → List String
  | flag :: text :: args =>
    if flag = "--help" ∨ flag = "-h" then flag :: commonArgs (text :: args)
    else if flag ∈ ["--wire-format", "--zenoh-config"] then commonArgs args
    else flag :: text :: commonArgs args
  | args => args

/-- The argument vector without the flags of the transport. -/
def commonArguments (argv : List String) : List String := argv.take 1 ++ commonArgs argv.tail

/-- The settings that the other plugins know. -/
def commonSettings (settings : List TransportSetting) : List Setting :=
  settings.filterMap fun setting => match setting with
    | .common setting => some setting
    | _ => none

/-- The wire format of the last flag. -/
def lastWireFormat (settings : List TransportSetting) : Option WireFormat :=
  (settings.filterMap fun setting => match setting with
    | .wireFormat wireFormat => some wireFormat
    | _ => none).getLast?

/-- The session configuration of the last flag. -/
def lastZenohConfig (settings : List TransportSetting) : Option String :=
  (settings.filterMap fun setting => match setting with
    | .zenohConfig path => some path
    | _ => none).getLast?

theorem commonArgs_help {flag : String} (hflag : flag = "--help" ∨ flag = "-h")
    (args : List String) : commonArgs (flag :: args) = flag :: commonArgs args := by
  cases args with
  | nil => rfl
  | cons text args => rw [commonArgs, if_pos hflag]

theorem Says.not_transport {flag text : String} {setting : Setting} (h : Says flag text setting) :
    flag ∉ ["--wire-format", "--zenoh-config"] := by
  cases h with
  | config => decide
  | @rate _ _ rate hz hflag _ =>
    intro hmem
    rcases List.mem_pair.mp hmem with rfl | rfl <;> cases rate <;> exact absurd hflag (by decide)

/-- Without the flags of the transport the common settings are left. -/
theorem spells_commonArgs {args : List String} {settings : List TransportSetting}
    (h : SpellsTransport args settings) : Spells (commonArgs args) (commonSettings settings) := by
  induction h with
  | nil => exact .nil
  | help hflag _ ih =>
    rw [commonArgs_help hflag]
    exact .help hflag ih
  | @setting flag text setting args settings hreads htext _ ih =>
    rw [commonArgs, if_neg hreads.not_help]
    cases hreads with
    | common hreads =>
      rw [if_neg (Says.not_transport hreads)]
      exact .setting hreads htext ih
    | wireFormat => exact ih
    | zenohConfig => exact ih

theorem foldl_put (settings : List TransportSetting) (options : Options) :
    settings.foldl Options.put options =
      { common := (commonSettings settings).foldl CommonOptions.put options.common
        wireFormat := (lastWireFormat settings).or options.wireFormat
        zenohConfig := (lastZenohConfig settings).or options.zenohConfig } := by
  induction settings using List.reverseRecOn with
  | nil => rfl
  | append_singleton settings setting ih =>
    rw [List.foldl_append, ih, List.foldl_cons, List.foldl_nil]
    unfold commonSettings lastWireFormat lastZenohConfig
    cases setting with
    | common setting => simp [Options.put]
    | wireFormat wireFormat => simp [Options.put]
    | zenohConfig path => simp [Options.put]

/-- What is accepted is a list of flags; the options of the transport are those
of its last flags, and the others are what the other plugins read without these flags. -/
theorem parseArgs_eq_ok_iff {argv : List String} {options : Options} :
    parseArgs lib argv = .ok options ↔
      ∃ settings, SpellsTransport argv.tail settings ∧
        parseCommonOptions lib (commonArguments argv) = .ok options.common ∧
        options.wireFormat = lastWireFormat settings ∧
        options.zenohConfig = lastZenohConfig settings := by
  have hcommon : ∀ settings, SpellsTransport argv.tail settings →
      parseCommonOptions lib (commonArguments argv) =
        .ok ((commonSettings settings).foldl CommonOptions.put {}) := by
    intro settings hspells
    have hspells' := spells_commonArgs hspells
    refine (parseArguments_eq_ok_iff _ _ _).mpr ⟨_, ?_, rfl⟩
    cases argv with
    | nil =>
      have hnil : (commonArguments []).tail = commonArgs [] := rfl
      rwa [hnil]
    | cons program args => exact hspells'
  unfold parseArgs
  rw [consumeArgs_eq_ok_iff]
  refine exists_congr fun settings => and_congr_right fun hspells => ?_
  rw [hcommon settings hspells, foldl_put]
  obtain ⟨common, wireFormat, zenohConfig⟩ := options
  simp [eq_comm]

/-- What the other plugins accept says nothing of the transport. -/
theorem spellsTransport_of_spells {args : List String} {settings : List Setting}
    (h : Spells args settings) : SpellsTransport args (settings.map .common) := by
  induction h with
  | nil => exact .nil
  | help hflag _ ih => exact .help hflag ih
  | setting hreads htext _ ih => exact .setting (.common hreads) htext ih

theorem settings_map_common (settings : List Setting) :
    commonSettings (settings.map .common) = settings ∧
      lastWireFormat (settings.map .common) = none ∧
      lastZenohConfig (settings.map .common) = none := by
  unfold commonSettings lastWireFormat lastZenohConfig
  refine ⟨?_, ?_, ?_⟩
  · simp [List.filterMap_map]
  · simp [List.filterMap_map]
  · simp [List.filterMap_map]

/-- **The arguments** extend those of the other plugins: without the flags of the transport they are
read by these in the same way, and what these accept is accepted. -/
theorem parseArgs_extends (lib : YamlCpp) (argv : List String) :
    (∀ options, parseArgs lib argv = .ok options ↔
      ∃ settings, SpellsTransport argv.tail settings ∧
        parseCommonOptions lib (commonArguments argv) = .ok options.common ∧
        options.wireFormat = lastWireFormat settings ∧
        options.zenohConfig = lastZenohConfig settings) ∧
    ∀ options, parseCommonOptions lib argv = .ok options →
      parseArgs lib argv = .ok { common := options } := by
  refine ⟨fun options => parseArgs_eq_ok_iff, fun options h => ?_⟩
  obtain ⟨settings, hspells, rfl⟩ := (parseArguments_eq_ok_iff _ _ _).mp h
  obtain ⟨hcommon, hformat, hconfig⟩ := settings_map_common settings
  refine (consumeArgs_eq_ok_iff _ _ _).mpr ⟨_, spellsTransport_of_spells hspells, ?_⟩
  rw [foldl_put, hcommon, hformat, hconfig]
  rfl

end EcatMiddleware.Zenoh
