import EcatMiddleware.Core.AdapterService
import EcatMiddleware.Core.RuntimeConfig

/-!
# The DDS configuration

The `dds` section of the configuration file, and the policies that the two plugins make of it for
their readers and writers.

* `parseEndpointPolicy_eq_ok_iff`: the mappings that are read as a policy.
* `parseDdsConfig_valid`: what is read builds a service and both endpoints, in either plugin.
* `parseDdsConfig_render`: every valid configuration is read from a document that spells it.
* `parseDdsConfig_flat`: a flat policy is that of both endpoints.
-/

namespace EcatMiddleware.Dds

open EcatMiddleware.Core FoldExcept

/-! ## Endpoint policies -/

inductive Reliability where
  | bestEffort
  | reliable
  deriving DecidableEq, Repr

inductive Durability where
  | volatile
  | transientLocal
  | transient
  | persistent
  deriving DecidableEq, Repr

def int32Max : ℕ := 2147483647

structure ReaderPolicy where
  reliability : Reliability := .bestEffort
  durability : Durability := .volatile
  historyDepth : ℕ := 1
  deriving DecidableEq, Repr

def ReaderPolicy.isValid (policy : ReaderPolicy) : Bool :=
  policy.historyDepth > 0 && policy.historyDepth ≤ int32Max

abbrev EndpointPolicy := ReaderPolicy

/-- What the building of a policy throws. -/
inductive PolicyException where
  | config (e : ConfigException)
  | invalidArgument (what : String)

/-- The handler of `std::invalid_argument`. -/
def PolicyException.rethrow (path : String) : PolicyException → ConfigException
  | config e => e
  | invalidArgument what => .configError (path ++ ": " ++ what)

namespace ReaderPolicy

variable (policy : ReaderPolicy)

def setReliability (reliabilityStr : String) : Except PolicyException ReaderPolicy :=
  if reliabilityStr = "best_effort" then .ok { policy with reliability := .bestEffort }
  else if reliabilityStr = "reliable" then .ok { policy with reliability := .reliable }
  else .error (.invalidArgument ("Invalid reliability string: " ++ reliabilityStr))

def setDurability (durabilityStr : String) : Except PolicyException ReaderPolicy :=
  if durabilityStr = "volatile" then .ok { policy with durability := .volatile }
  else if durabilityStr = "transient_local" then .ok { policy with durability := .transientLocal }
  else if durabilityStr = "transient" then .ok { policy with durability := .transient }
  else if durabilityStr = "persistent" then .ok { policy with durability := .persistent }
  else .error (.invalidArgument ("Invalid durability string: " ++ durabilityStr))

def setHistoryDepth (historyDepth : ℕ) : ReaderPolicy :=
  { policy with historyDepth := historyDepth }

end ReaderPolicy

variable (lib : YamlCpp)

def parseEndpointPolicy (node : Yaml) (path : String) : Configured EndpointPolicy := do
  checkKeys lib node ["reliability", "durability", "history", "depth"] path
  let build : Except PolicyException ReaderPolicy := do
    let reliability ← (value lib node "reliability" "best_effort" path).mapError .config
    let policy ← ({} : ReaderPolicy).setReliability reliability
    let durability ← (value lib node "durability" "volatile" path).mapError .config
    let policy ← policy.setDurability durability
    let depth ← (unsignedValue lib node "depth" 1 path).mapError .config
    .ok (policy.setHistoryDepth depth.toNat)
  let policy ← build.mapError (PolicyException.rethrow path)
  let history ← value lib node "history" "keep_last" path
  if history ≠ "keep_last" then
    .error (.configError (path ++ ".history: only keep_last is supported"))
  else if !policy.isValid then
    .error (.configError (path ++ ".depth: must be between 1 and INT32_MAX"))
  else .ok policy

/-! ## The configuration -/

structure DdsConfig where
  domainId : UInt32 := 0
  declareToRos : Bool := false
  service : ServiceConfig := {}
  state : EndpointPolicy := {}
  command : EndpointPolicy := {}
  deriving DecidableEq, Repr

/-- `value<bool>`; `decodeBool` are the texts that the YAML library takes for a truth value. -/
def valueBool (decodeBool : String → Option Bool) (parent : Yaml) (key : String) (fallback : Bool)
    (path : String) : Configured Bool := do
  match ← parent.get lib key with
  | none => .ok fallback
  | some node =>
    let decoded : Option Bool := match node with
      | .scalar text => decodeBool text
      | _ => none
    rethrow (path ++ "." ++ key) (match decoded with
      | some flag => .ok flag
      | none => .error (.yamlException (lib.badConversion node)))

/-- The service of `parse_dds_config`. -/
def parseService (node : Yaml) : Configured ServiceConfig := do
  let service ← sectionOf lib node "service" "dds"
  checkKeys lib service ["transport", "command_uri", "timeout_ms"] "dds.service"
  let transport ← value lib service "transport" "zmq" "dds.service"
  if transport = "shm" then
    .error (.configError
      "dds.service.transport: shm is unsupported by the v3 master; use zmq")
  else if transport = "zmq" then
    let commandUri ←
      value lib service "command_uri" ({} : ServiceConfig).commandUri "dds.service"
    let timeoutMs ← unsignedValue lib service "timeout_ms" 1000 "dds.service"
    if commandUri = "" ∨ timeoutMs = 0 ∨ timeoutMs > 60000 then
      .error (.configError "dds.service: provide URI and timeout between 1 and 60000 ms")
    else .ok { transport := .zmq, commandUri, timeoutMs }
  else .error (.configError "dds.service.transport: expected shm or zmq")

/-- The policies of `parse_dds_config`. -/
def parseQos (node : Yaml) : Configured (EndpointPolicy × EndpointPolicy) := do
  let qos ← sectionOf lib node "qos" "dds"
  if (← qos.get lib "state").isSome || (← qos.get lib "command").isSome then
    checkKeys lib qos ["state", "command"] "dds.qos"
    let state ←
      parseEndpointPolicy lib (← sectionOf lib qos "state" "dds.qos") "dds.qos.state"
    let command ←
      parseEndpointPolicy lib (← sectionOf lib qos "command" "dds.qos") "dds.qos.command"
    .ok (state, command)
  else if qos.entries.length ≠ 0 then
    let policy ← parseEndpointPolicy lib qos "dds.qos"
    .ok (policy, policy)
  else .ok ({}, {})

def parseDdsConfig (decodeBool : String → Option Bool) (root : Yaml) : Configured DdsConfig := do
  let node ← sectionOf lib root "dds" ""
  checkKeys lib node
    ["domain", "domain_id", "declare_to_ros", "qos", "robot_name", "namespace", "service"] "dds"
  let domainKey := if (← node.get lib "domain_id").isSome then "domain_id" else "domain"
  let domainId ← unsignedValue lib node domainKey 0 "dds"
  let declareToRos ← valueBool lib decodeBool node "declare_to_ros" false "dds"
  let service ← parseService lib node
  let (state, command) ← parseQos lib node
  .ok { domainId, declareToRos, service, state, command }

def DdsConfig.validate (cfg : DdsConfig) : Configured Unit :=
  if cfg.domainId > 232 then .error (.configError "dds.domain_id: must be between 0 and 232")
  else if !cfg.state.isValid then
    .error (.configError "dds.qos.state.depth: invalid history depth")
  else if !cfg.command.isValid then
    .error (.configError "dds.qos.command.depth: invalid history depth")
  else .ok ()

/-! ## The policies of the plugins -/

/-- The policies that the CycloneDDS plugin sets, of a reader or a writer. -/
structure CycloneQos where
  keepLast : Int32
  reliability : Reliability
  durability : Durability
  deriving DecidableEq, Repr

/-- `apply_endpoint_policy` of the CycloneDDS plugin, with what its exception says. -/
def CycloneQos.applyEndpointPolicy (qos : CycloneQos) (policy : EndpointPolicy) :
    Except String CycloneQos :=
  if !policy.isValid then .error "Invalid DDS history depth"
  else .ok { qos with
    keepLast := Int32.ofNat policy.historyDepth
    reliability := policy.reliability
    durability := policy.durability }

inductive HistoryKind where
  | keepLast
  | keepAll
  deriving DecidableEq, Repr

/-- The policies that the FastDDS plugin sets. -/
structure FastQos where
  reliability : Reliability
  durability : Durability
  historyKind : HistoryKind
  historyDepth : Int32
  maxSamples : Int32
  maxSamplesPerInstance : Int32
  allocatedSamples : Int32
  deriving DecidableEq, Repr

/-- `apply_endpoint_policy` of the FastDDS plugin. A negative limit is no limit. -/
def FastQos.applyEndpointPolicy (qos : FastQos) (policy : EndpointPolicy) :
    Except String FastQos :=
  if !policy.isValid then .error "Invalid DDS history depth"
  else
    let depth := Int32.ofNat policy.historyDepth
    let maxSamples := if qos.maxSamples ≥ 0 then max qos.maxSamples depth else qos.maxSamples
    .ok { qos with
      reliability := policy.reliability
      durability := policy.durability
      historyKind := .keepLast
      historyDepth := depth
      maxSamples := maxSamples
      maxSamplesPerInstance :=
        if qos.maxSamplesPerInstance ≥ 0 then max qos.maxSamplesPerInstance depth
        else qos.maxSamplesPerInstance
      allocatedSamples :=
        if maxSamples ≥ 0 then min qos.allocatedSamples maxSamples else qos.allocatedSamples }

/-! ## What is read as a policy -/

/-- The mapping of texts. -/
def Yaml.texts (settings : List (String × String)) : List (Yaml × Yaml) :=
  settings.map fun setting => (.scalar setting.1, .scalar setting.2)

def Reliability.text : Reliability → String
  | bestEffort => "best_effort"
  | reliable => "reliable"

def Durability.text : Durability → String
  | volatile => "volatile"
  | transientLocal => "transient_local"
  | transient => "transient"
  | persistent => "persistent"

/-- The mapping spells the policy. -/
structure SpellsPolicy (entries : List (Yaml × Yaml)) (policy : EndpointPolicy) : Prop where
  keys : KnownKeys lib ["reliability", "durability", "history", "depth"] entries
  reliability : settingText lib entries "reliability" "best_effort" = some policy.reliability.text
  durability : settingText lib entries "durability" "volatile" = some policy.durability.text
  depth : ∃ text, settingText lib entries "depth" "1" = some text ∧
    IsNumeral text policy.historyDepth
  history : settingText lib entries "history" "keep_last" = some "keep_last"
  valid : policy.isValid = true

variable {lib}

theorem mapError_eq_ok {ε ε' α : Type} {f : ε → ε'} {x : Except ε α} {a : α} :
    x.mapError f = .ok a ↔ x = .ok a := by
  cases x <;> simp [Except.mapError]

theorem setReliability_eq_ok {policy policy' : ReaderPolicy} {text : String} :
    policy.setReliability text = .ok policy' ↔
      ∃ reliability : Reliability, text = reliability.text ∧
        policy' = { policy with reliability := reliability } := by
  unfold ReaderPolicy.setReliability
  constructor
  · intro h
    split_ifs at h with hbest hreliable
    · exact ⟨.bestEffort, hbest, (Except.ok.inj h).symm⟩
    · exact ⟨.reliable, hreliable, (Except.ok.inj h).symm⟩
  · rintro ⟨reliability, rfl, rfl⟩
    cases reliability <;> rfl

theorem setDurability_eq_ok {policy policy' : ReaderPolicy} {text : String} :
    policy.setDurability text = .ok policy' ↔
      ∃ durability : Durability, text = durability.text ∧
        policy' = { policy with durability := durability } := by
  unfold ReaderPolicy.setDurability
  constructor
  · intro h
    split_ifs at h with hvolatile hlocal htransient hpersistent
    · exact ⟨.volatile, hvolatile, (Except.ok.inj h).symm⟩
    · exact ⟨.transientLocal, hlocal, (Except.ok.inj h).symm⟩
    · exact ⟨.transient, htransient, (Except.ok.inj h).symm⟩
    · exact ⟨.persistent, hpersistent, (Except.ok.inj h).symm⟩
  · rintro ⟨durability, rfl, rfl⟩
    cases durability <;> rfl

/-- **The mappings that are read as a policy**, under any path. -/
theorem parseEndpointPolicy_eq_ok_iff {entries : List (Yaml × Yaml)} {path : String}
    {policy : EndpointPolicy} :
    parseEndpointPolicy lib (.map entries) path = .ok policy ↔ SpellsPolicy lib entries policy := by
  unfold parseEndpointPolicy
  constructor
  · intro h
    obtain ⟨⟨⟩, hkeys, h⟩ := bind_eq_ok.mp h
    obtain ⟨built, hbuild, h⟩ := bind_eq_ok.mp h
    obtain ⟨history, hhistory, h⟩ := bind_eq_ok.mp h
    obtain ⟨reliabilityStr, hreliability, hbuild⟩ := bind_eq_ok.mp (mapError_eq_ok.mp hbuild)
    obtain ⟨p, hp, hbuild⟩ := bind_eq_ok.mp hbuild
    obtain ⟨durabilityStr, hdurability, hbuild⟩ := bind_eq_ok.mp hbuild
    obtain ⟨q, hq, hbuild⟩ := bind_eq_ok.mp hbuild
    obtain ⟨depth, hdepth, hbuild⟩ := bind_eq_ok.mp hbuild
    obtain ⟨reliability, rfl, rfl⟩ := setReliability_eq_ok.mp hp
    obtain ⟨durability, rfl, rfl⟩ := setDurability_eq_ok.mp hq
    obtain rfl := Except.ok.inj hbuild
    split_ifs at h with hkeep hvalid
    obtain rfl := Except.ok.inj h
    obtain rfl := not_not.mp hkeep
    exact
      { keys := checkKeys_eq_ok_iff.mp hkeys
        reliability := value_eq_ok_iff.mp (mapError_eq_ok.mp hreliability)
        durability := value_eq_ok_iff.mp (mapError_eq_ok.mp hdurability)
        depth := unsignedValue_eq_ok_iff.mp (mapError_eq_ok.mp hdepth)
        history := value_eq_ok_iff.mp hhistory
        valid := by simpa using hvalid }
  · intro h
    have hmax : policy.historyDepth ≤ int32Max := by
      have hvalid := h.valid
      unfold ReaderPolicy.isValid at hvalid
      simp only [Bool.and_eq_true, decide_eq_true_eq] at hvalid
      exact hvalid.2
    have hnat : (UInt32.ofNat policy.historyDepth).toNat = policy.historyDepth := by
      apply UInt32.toNat_ofNat_of_lt'
      unfold int32Max at hmax
      show _ < 4294967296
      omega
    have hdepth : unsignedValue lib (.map entries) "depth" 1 path =
        .ok (UInt32.ofNat policy.historyDepth) := by
      rw [unsignedValue_eq_ok_iff, hnat]
      exact h.depth
    refine bind_eq_ok.mpr ⟨(), checkKeys_eq_ok_iff.mpr h.keys, bind_eq_ok.mpr ⟨policy, ?_, ?_⟩⟩
    · refine mapError_eq_ok.mpr (bind_eq_ok.mpr ⟨_, mapError_eq_ok.mpr
        (value_eq_ok_iff.mpr h.reliability), bind_eq_ok.mpr ⟨_, setReliability_eq_ok.mpr
          ⟨_, rfl, rfl⟩, bind_eq_ok.mpr ⟨_, mapError_eq_ok.mpr
            (value_eq_ok_iff.mpr h.durability), bind_eq_ok.mpr ⟨_, setDurability_eq_ok.mpr
              ⟨_, rfl, rfl⟩, bind_eq_ok.mpr ⟨_, mapError_eq_ok.mpr hdepth, ?_⟩⟩⟩⟩⟩)
      unfold ReaderPolicy.setHistoryDepth
      rw [hnat]
    · refine bind_eq_ok.mpr ⟨_, value_eq_ok_iff.mpr h.history, ?_⟩
      rw [if_neg (not_not.mpr rfl), h.valid]
      rfl

theorem SpellsPolicy.unique {entries : List (Yaml × Yaml)} {policy policy' : EndpointPolicy}
    (h : SpellsPolicy lib entries policy) (h' : SpellsPolicy lib entries policy') :
    policy = policy' := by
  have hparse : parseEndpointPolicy lib (.map entries) "" = .ok policy :=
    parseEndpointPolicy_eq_ok_iff.mpr h
  exact Except.ok.inj (hparse.symm.trans (parseEndpointPolicy_eq_ok_iff.mpr h'))

/-! ## What is read is valid -/

theorem isValid_iff {policy : EndpointPolicy} :
    policy.isValid = true ↔ 1 ≤ policy.historyDepth ∧ policy.historyDepth ≤ int32Max := by
  unfold ReaderPolicy.isValid
  simp only [Bool.and_eq_true, decide_eq_true_eq]
  exact Iff.rfl

theorem isValid_of_parseEndpointPolicy {node : Yaml} {key section_ path : String}
    {parent : Yaml} {policy : EndpointPolicy}
    (hnode : sectionOf lib parent key section_ = .ok node)
    (h : parseEndpointPolicy lib node path = .ok policy) : policy.isValid = true := by
  obtain ⟨entries, rfl⟩ := exists_map_of_sectionOf hnode
  exact (parseEndpointPolicy_eq_ok_iff.mp h).valid

theorem valid_of_parseService {node : Yaml} {service : ServiceConfig}
    (h : parseService lib node = .ok service) : service.Valid := by
  obtain ⟨section_, -, h⟩ := bind_eq_ok.mp h
  obtain ⟨⟨⟩, -, h⟩ := bind_eq_ok.mp h
  obtain ⟨transport, -, h⟩ := bind_eq_ok.mp h
  split_ifs at h
  obtain ⟨commandUri, -, h⟩ := bind_eq_ok.mp h
  obtain ⟨timeoutMs, -, h⟩ := bind_eq_ok.mp h
  split_ifs at h with hrange
  obtain rfl := Except.ok.inj h
  obtain ⟨huri, hrange⟩ := not_or.mp hrange
  obtain ⟨hzero, hmax⟩ := not_or.mp hrange
  refine ⟨rfl, huri, ?_, UInt32.le_iff_toNat_le.mp (UInt32.not_lt.mp hmax)⟩
  exact Nat.one_le_iff_ne_zero.mpr fun h => hzero (UInt32.toNat_inj.mp h)

theorem isValid_of_parseQos {node : Yaml} {state command : EndpointPolicy}
    (h : parseQos lib node = .ok (state, command)) :
    state.isValid = true ∧ command.isValid = true := by
  obtain ⟨qos, hqos, h⟩ := bind_eq_ok.mp h
  obtain ⟨foundState, -, h⟩ := bind_eq_ok.mp h
  obtain ⟨foundCommand, -, h⟩ := bind_eq_ok.mp h
  split_ifs at h
  · obtain ⟨⟨⟩, -, h⟩ := bind_eq_ok.mp h
    obtain ⟨stateNode, hstateNode, h⟩ := bind_eq_ok.mp h
    obtain ⟨parsedState, hstate, h⟩ := bind_eq_ok.mp h
    obtain ⟨commandNode, hcommandNode, h⟩ := bind_eq_ok.mp h
    obtain ⟨parsedCommand, hcommand, h⟩ := bind_eq_ok.mp h
    obtain ⟨rfl, rfl⟩ := Prod.mk.inj (Except.ok.inj h)
    exact ⟨isValid_of_parseEndpointPolicy hstateNode hstate,
      isValid_of_parseEndpointPolicy hcommandNode hcommand⟩
  · obtain ⟨policy, hpolicy, h⟩ := bind_eq_ok.mp h
    obtain ⟨rfl, rfl⟩ := Prod.mk.inj (Except.ok.inj h)
    have hvalid := isValid_of_parseEndpointPolicy hqos hpolicy
    exact ⟨hvalid, hvalid⟩
  · obtain ⟨rfl, rfl⟩ := Prod.mk.inj (Except.ok.inj h)
    exact ⟨rfl, rfl⟩

/-- The history of the policy, with room for it. -/
structure FastQos.Holds (qos : FastQos) (policy : EndpointPolicy) : Prop where
  reliability : qos.reliability = policy.reliability
  durability : qos.durability = policy.durability
  historyKind : qos.historyKind = .keepLast
  historyDepth : qos.historyDepth.toInt = policy.historyDepth
  samples : qos.maxSamples ≥ 0 →
    qos.historyDepth ≤ qos.maxSamples ∧ qos.allocatedSamples ≤ qos.maxSamples
  samplesPerInstance : qos.maxSamplesPerInstance ≥ 0 →
    qos.historyDepth ≤ qos.maxSamplesPerInstance

theorem toInt_ofNat_of_le {n : ℕ} (h : n ≤ int32Max) : (Int32.ofNat n).toInt = n := by
  unfold int32Max at h
  exact Int32.toInt_ofNat_of_lt (by show n < 2147483648; omega)

theorem CycloneQos.applyEndpointPolicy_of_isValid {policy : EndpointPolicy}
    (h : policy.isValid = true) (qos : CycloneQos) :
    ∃ qos' : CycloneQos, qos.applyEndpointPolicy policy = .ok qos' ∧
      qos'.reliability = policy.reliability ∧ qos'.durability = policy.durability ∧
      qos'.keepLast.toInt = policy.historyDepth := by
  unfold CycloneQos.applyEndpointPolicy
  rw [h, Bool.not_true, if_neg Bool.false_ne_true]
  exact ⟨_, rfl, rfl, rfl, toInt_ofNat_of_le (isValid_iff.mp h).2⟩

/-- The limit is raised to the depth, unless there is no limit. -/
theorem le_raised {limit depth : Int32} (h : (if limit ≥ 0 then max limit depth else limit) ≥ 0) :
    depth ≤ if limit ≥ 0 then max limit depth else limit := by
  by_cases hlimit : limit ≥ 0
  · rw [if_pos hlimit]
    show depth ≤ if limit ≤ depth then depth else limit
    split_ifs with hle
    · exact Int32.le_refl depth
    · exact (Int32.le_total limit depth).resolve_left hle
  · rw [if_neg hlimit] at h
    exact absurd h hlimit

theorem FastQos.applyEndpointPolicy_of_isValid {policy : EndpointPolicy}
    (h : policy.isValid = true) (qos : FastQos) :
    ∃ qos' : FastQos, qos.applyEndpointPolicy policy = .ok qos' ∧ qos'.Holds policy := by
  unfold FastQos.applyEndpointPolicy
  rw [h, Bool.not_true, if_neg Bool.false_ne_true]
  refine ⟨_, rfl, ?_⟩
  exact
    { reliability := rfl
      durability := rfl
      historyKind := rfl
      historyDepth := toInt_ofNat_of_le (isValid_iff.mp h).2
      samples := fun hlimit => by
        refine ⟨le_raised hlimit, ?_⟩
        show (if _ then min qos.allocatedSamples _ else _) ≤ _
        rw [if_pos hlimit]
        exact Std.min_le_right
      samplesPerInstance := le_raised }

theorem new_of_valid {config : ServiceConfig} (h : config.Valid) :
    ∃ server, AdapterServiceServer.new config = .ok server ∧ server.config = config := by
  have hrange : ¬ (config.commandUri = "" ∨ config.timeoutMs = 0 ∨ config.timeoutMs > 60000) := by
    have hmax : ¬ config.timeoutMs > 60000 :=
      UInt32.not_lt.mpr (UInt32.le_iff_toNat_le.mpr h.timeoutMs.2)
    rintro (huri | hzero | hgt)
    · exact h.commandUri huri
    · exact absurd h.timeoutMs.1 (by rw [hzero]; decide)
    · exact hmax hgt
  unfold AdapterServiceServer.new
  rw [dif_neg (not_not.mpr h.transport), dif_neg hrange]
  exact ⟨_, rfl, rfl⟩

variable {decodeBool : String → Option Bool}

theorem validate_eq_ok_iff {cfg : DdsConfig} (hstate : cfg.state.isValid = true)
    (hcommand : cfg.command.isValid = true) :
    cfg.validate = .ok () ↔ cfg.domainId.toNat ≤ 232 := by
  have hdomain : cfg.domainId > 232 ↔ cfg.domainId.toNat > 232 := UInt32.lt_iff_toNat_lt
  unfold DdsConfig.validate
  rw [hstate, hcommand]
  by_cases h : cfg.domainId > 232
  · rw [if_pos h]
    exact iff_of_false (by rintro ⟨⟩) (Nat.not_le.mpr (hdomain.mp h))
  · rw [if_neg h]
    exact iff_of_true rfl (Nat.not_lt.mp fun hlt => h (hdomain.mpr hlt))

theorem valid_of_parseDdsConfig {root : Yaml} {cfg : DdsConfig}
    (h : parseDdsConfig lib decodeBool root = .ok cfg) :
    cfg.service.Valid ∧ cfg.state.isValid = true ∧ cfg.command.isValid = true := by
  obtain ⟨node, -, h⟩ := bind_eq_ok.mp h
  obtain ⟨⟨⟩, -, h⟩ := bind_eq_ok.mp h
  obtain ⟨foundDomain, -, h⟩ := bind_eq_ok.mp h
  obtain ⟨domainId, -, h⟩ := bind_eq_ok.mp h
  obtain ⟨declareToRos, -, h⟩ := bind_eq_ok.mp h
  obtain ⟨service, hservice, h⟩ := bind_eq_ok.mp h
  obtain ⟨⟨state, command⟩, hqos, h⟩ := bind_eq_ok.mp h
  obtain rfl := Except.ok.inj h
  exact ⟨valid_of_parseService hservice, isValid_of_parseQos hqos⟩

/-- **What is accepted can be built**: the command server, and the endpoints of either plugin. -/
theorem parseDdsConfig_valid {root : Yaml} {cfg : DdsConfig}
    (h : parseDdsConfig lib decodeBool root = .ok cfg) :
    (∃ server, AdapterServiceServer.new cfg.service = .ok server ∧
      server.config = cfg.service) ∧
    (cfg.validate = .ok () ↔ cfg.domainId.toNat ≤ 232) ∧
    ∀ policy ∈ [cfg.state, cfg.command],
      (∀ qos : CycloneQos, ∃ qos' : CycloneQos, qos.applyEndpointPolicy policy = .ok qos' ∧
        qos'.reliability = policy.reliability ∧ qos'.durability = policy.durability ∧
        qos'.keepLast.toInt = policy.historyDepth) ∧
      ∀ qos : FastQos, ∃ qos' : FastQos, qos.applyEndpointPolicy policy = .ok qos' ∧
        qos'.Holds policy := by
  obtain ⟨hservice, hstate, hcommand⟩ := valid_of_parseDdsConfig h
  refine ⟨new_of_valid hservice, validate_eq_ok_iff hstate hcommand, ?_⟩
  intro policy hpolicy
  have hvalid : policy.isValid = true := by
    rcases List.mem_pair.mp hpolicy with rfl | rfl
    · exact hstate
    · exact hcommand
  exact ⟨CycloneQos.applyEndpointPolicy_of_isValid hvalid,
    FastQos.applyEndpointPolicy_of_isValid hvalid⟩

/-- A flat policy with a depth of three. -/
def flatDds : List (Yaml × Yaml) :=
  [(.scalar "domain_id", .scalar "5"), (.scalar "qos", .map (Yaml.texts [("depth", "3")]))]

theorem parseDdsConfig_valid_flat : ∃ cfg : DdsConfig,
    parseDdsConfig ⟨none, fun _ => "", fun _ _ => ""⟩ (fun _ => none)
      (.map [(.scalar "dds", .map flatDds)]) = .ok cfg ∧
    cfg.command.historyDepth = 3 ∧ cfg.validate = .ok () ∧
    ∃ server, AdapterServiceServer.new cfg.service = .ok server ∧
      server.config = cfg.service := by
  have hparse : parseDdsConfig ⟨none, fun _ => "", fun _ _ => ""⟩ (fun _ => none)
      (.map [(.scalar "dds", .map flatDds)]) =
        .ok { domainId := 5, state := { historyDepth := 3 }, command := { historyDepth := 3 } } :=
    rfl
  obtain ⟨hserver, hvalidate, -⟩ := parseDdsConfig_valid hparse
  exact ⟨_, hparse, rfl, hvalidate.mpr (by decide), hserver⟩

/-! ## Every valid configuration can be written -/

def ReaderPolicy.render (policy : ReaderPolicy) : Yaml :=
  .map (Yaml.texts [("reliability", policy.reliability.text),
    ("durability", policy.durability.text), ("history", "keep_last"),
    ("depth", toString policy.historyDepth)])

def DdsConfig.render (cfg : DdsConfig) : Yaml :=
  .map [(.scalar "dds", .map [
    (.scalar "domain_id", .scalar (toString cfg.domainId.toNat)),
    (.scalar "declare_to_ros", .scalar (if cfg.declareToRos then "true" else "false")),
    (.scalar "service", .map (Yaml.texts [("transport", "zmq"),
      ("command_uri", cfg.service.commandUri),
      ("timeout_ms", toString cfg.service.timeoutMs.toNat)])),
    (.scalar "qos", .map [(.scalar "state", cfg.state.render),
      (.scalar "command", cfg.command.render)])])]

theorem parseEndpointPolicy_render {policy : EndpointPolicy} (h : policy.isValid = true)
    (path : String) : parseEndpointPolicy lib policy.render path = .ok policy := by
  refine parseEndpointPolicy_eq_ok_iff.mpr ?_
  exact
    { keys := knownKeys_of_scalars (by simp [Yaml.texts])
      reliability := rfl
      durability := rfl
      depth := ⟨_, rfl, isNumeral_toString _⟩
      history := rfl
      valid := h }

theorem unsignedValue_render {entries : List (Yaml × Yaml)} {key : String} {n : UInt32}
    (h : Yaml.lookup entries key = some (.scalar (toString n.toNat))) (fallback : UInt32)
    (path : String) : unsignedValue lib (.map entries) key fallback path = .ok n := by
  refine unsignedValue_eq_ok_iff.mpr ⟨_, ?_, isNumeral_toString _⟩
  unfold settingText
  rw [h]
  rfl

theorem parseService_render {service : ServiceConfig} (h : service.Valid)
    {entries : List (Yaml × Yaml)} (hservice : Yaml.lookup entries "service" =
      some (.map (Yaml.texts [("transport", "zmq"), ("command_uri", service.commandUri),
        ("timeout_ms", toString service.timeoutMs.toNat)]))) :
    parseService lib (.map entries) = .ok service := by
  unfold parseService
  refine bind_eq_ok.mpr ⟨_, sectionOf_map_eq_ok.mpr ⟨_, rfl, Or.inl hservice⟩, ?_⟩
  refine bind_eq_ok.mpr ⟨(), checkKeys_eq_ok_iff.mpr
    (knownKeys_of_scalars (by simp [Yaml.texts])), ?_⟩
  refine bind_eq_ok.mpr ⟨"zmq", rfl, ?_⟩
  rw [if_neg (by decide), if_pos rfl]
  refine bind_eq_ok.mpr ⟨service.commandUri, rfl, ?_⟩
  refine bind_eq_ok.mpr ⟨service.timeoutMs, unsignedValue_render rfl _ _, ?_⟩
  obtain ⟨transport, commandUri, timeoutMs⟩ := service
  obtain rfl : transport = .zmq := h.transport
  rw [if_neg]
  rintro (huri | hzero | hgt)
  · exact h.commandUri huri
  · exact absurd h.timeoutMs.1 (by rw [hzero]; decide)
  · exact absurd h.timeoutMs.2 (Nat.not_le.mpr (UInt32.lt_iff_toNat_lt.mp hgt))

theorem parseQos_render {state command : EndpointPolicy} (hstate : state.isValid = true)
    (hcommand : command.isValid = true) {entries : List (Yaml × Yaml)}
    (hqos : Yaml.lookup entries "qos" = some (.map [(.scalar "state", state.render),
      (.scalar "command", command.render)])) :
    parseQos lib (.map entries) = .ok (state, command) := by
  unfold parseQos
  refine bind_eq_ok.mpr ⟨_, sectionOf_map_eq_ok.mpr ⟨_, rfl, Or.inl hqos⟩, ?_⟩
  refine bind_eq_ok.mpr ⟨some state.render, rfl, bind_eq_ok.mpr ⟨some command.render, rfl, ?_⟩⟩
  show (checkKeys lib _ _ _ >>= fun _ => _) = _
  refine bind_eq_ok.mpr ⟨(), checkKeys_eq_ok_iff.mpr (knownKeys_of_scalars (by simp)), ?_⟩
  refine bind_eq_ok.mpr ⟨state.render, rfl, ?_⟩
  refine bind_eq_ok.mpr ⟨state, parseEndpointPolicy_render hstate _, ?_⟩
  refine bind_eq_ok.mpr ⟨command.render, rfl, ?_⟩
  exact bind_eq_ok.mpr ⟨command, parseEndpointPolicy_render hcommand _, rfl⟩

/-- **Every valid configuration is read from the document that spells it.** -/
theorem parseDdsConfig_render (htrue : decodeBool "true" = some true)
    (hfalse : decodeBool "false" = some false) (cfg : DdsConfig) (hservice : cfg.service.Valid)
    (hstate : cfg.state.isValid = true) (hcommand : cfg.command.isValid = true) :
    parseDdsConfig lib decodeBool cfg.render = .ok cfg := by
  unfold parseDdsConfig
  refine bind_eq_ok.mpr ⟨_, rfl, ?_⟩
  refine bind_eq_ok.mpr ⟨(), checkKeys_eq_ok_iff.mpr (knownKeys_of_scalars (by simp)), ?_⟩
  refine bind_eq_ok.mpr ⟨_, rfl, ?_⟩
  refine bind_eq_ok.mpr ⟨cfg.domainId, unsignedValue_render rfl _ _, ?_⟩
  refine bind_eq_ok.mpr ⟨cfg.declareToRos, ?_, ?_⟩
  · show rethrow _ (match decodeBool _ with | some flag => _ | none => _) = _
    rw [rethrow_eq_ok]
    cases cfg.declareToRos
    · rw [if_neg Bool.false_ne_true, hfalse]
    · rw [if_pos rfl, htrue]
  · refine bind_eq_ok.mpr ⟨cfg.service, parseService_render hservice rfl, ?_⟩
    exact bind_eq_ok.mpr ⟨(cfg.state, cfg.command), parseQos_render hstate hcommand rfl, rfl⟩

/-- The domain, the flag, the timeout and the two policies all differ from the defaults. -/
theorem parseDdsConfig_render_reliable :
    let cfg : DdsConfig := { domainId := 7, declareToRos := true, service := { timeoutMs := 250 },
                             state := ⟨.reliable, .transientLocal, 10⟩,
                             command := ⟨.bestEffort, .volatile, 2147483647⟩ }
    parseDdsConfig ⟨none, fun _ => "", fun _ _ => ""⟩
      (fun text => if text = "true" then some true else if text = "false" then some false else none)
      cfg.render = .ok cfg :=
  parseDdsConfig_render rfl rfl _ ⟨rfl, by decide, by decide⟩ rfl rfl

/-! ## The flat policy -/

/-- The policy under `qos`, written out for both endpoints. -/
def splitEntry (entry : Yaml × Yaml) : Yaml × Yaml :=
  if entry.1.isText "qos" then
    (entry.1, .map [(.scalar "state", entry.2), (.scalar "command", entry.2)])
  else entry

def splitQos (entries : List (Yaml × Yaml)) : List (Yaml × Yaml) := entries.map splitEntry

theorem splitEntry_fst (entry : Yaml × Yaml) : (splitEntry entry).1 = entry.1 := by
  unfold splitEntry
  split_ifs <;> rfl

theorem Yaml.eq_of_isText {node : Yaml} {key key' : String} (h : node.isText key = true)
    (h' : node.isText key' = true) : key = key' := by
  cases node with
  | scalar text => exact (of_decide_eq_true h).symm.trans (of_decide_eq_true h')
  | null | sequence | map => exact absurd h Bool.false_ne_true

theorem find?_splitQos (entries : List (Yaml × Yaml)) (key : String) :
    (splitQos entries).find? (fun e => e.1.isText key) =
      (entries.find? fun e => e.1.isText key).map splitEntry := by
  unfold splitQos
  rw [List.find?_map]
  congr 2
  funext entry
  rw [Function.comp_apply, splitEntry_fst]

theorem lookup_splitQos_of_ne {key : String} (hkey : key ≠ "qos") (entries : List (Yaml × Yaml)) :
    Yaml.lookup (splitQos entries) key = Yaml.lookup entries key := by
  unfold Yaml.lookup
  rw [find?_splitQos]
  cases h : entries.find? fun e => e.1.isText key with
  | none => rfl
  | some entry =>
    have hfound : entry.1.isText key = true :=
      @List.find?_some _ (fun e : Yaml × Yaml => e.1.isText key) _ _ h
    have htext : ¬ entry.1.isText "qos" = true := fun hqos =>
      hkey (Yaml.eq_of_isText hfound hqos)
    show some (splitEntry entry).2 = some entry.2
    rw [splitEntry, if_neg htext]

theorem lookup_splitQos {entries : List (Yaml × Yaml)} {node : Yaml}
    (h : Yaml.lookup entries "qos" = some node) :
    Yaml.lookup (splitQos entries) "qos" =
      some (.map [(.scalar "state", node), (.scalar "command", node)]) := by
  unfold Yaml.lookup at h ⊢
  obtain ⟨entry, hfind, rfl⟩ := Option.map_eq_some_iff.mp h
  rw [find?_splitQos, hfind]
  show some (splitEntry entry).2 = _
  rw [splitEntry, if_pos (@List.find?_some _ (fun e : Yaml × Yaml => e.1.isText "qos") _ _ hfind)]

theorem knownKeys_splitQos {allowed : List String} {entries : List (Yaml × Yaml)} :
    KnownKeys lib allowed (splitQos entries) ↔ KnownKeys lib allowed entries := by
  unfold KnownKeys splitQos
  simp only [List.forall_mem_map, splitEntry_fst]

theorem value_congr {entries entries' : List (Yaml × Yaml)} {key : String}
    (h : Yaml.lookup entries key = Yaml.lookup entries' key) (fallback path : String) :
    value lib (.map entries) key fallback path = value lib (.map entries') key fallback path := by
  unfold value
  rw [Yaml.get_map, Yaml.get_map, h]

theorem unsignedValue_congr {entries entries' : List (Yaml × Yaml)} {key : String}
    (h : Yaml.lookup entries key = Yaml.lookup entries' key) (fallback : UInt32) (path : String) :
    unsignedValue lib (.map entries) key fallback path =
      unsignedValue lib (.map entries') key fallback path := by
  unfold unsignedValue
  rw [value_congr h]

theorem valueBool_congr {entries entries' : List (Yaml × Yaml)} {key : String}
    (h : Yaml.lookup entries key = Yaml.lookup entries' key) (fallback : Bool) (path : String) :
    valueBool lib decodeBool (.map entries) key fallback path =
      valueBool lib decodeBool (.map entries') key fallback path := by
  unfold valueBool
  rw [Yaml.get_map, Yaml.get_map, h]

theorem parseService_congr {entries entries' : List (Yaml × Yaml)}
    (h : Yaml.lookup entries "service" = Yaml.lookup entries' "service") :
    parseService lib (.map entries) = parseService lib (.map entries') := by
  unfold parseService sectionOf
  rw [Yaml.get_map, Yaml.get_map, h]

/-- What a flat policy is read as. -/
theorem parseQos_flat {entries es : List (Yaml × Yaml)}
    (hqos : Yaml.lookup entries "qos" = some (.map es)) (hstate : Yaml.lookup es "state" = none)
    (hcommand : Yaml.lookup es "command" = none) {policies : EndpointPolicy × EndpointPolicy} :
    parseQos lib (.map entries) = .ok policies ↔
      ∃ policy, SpellsPolicy lib es policy ∧ policies = (policy, policy) := by
  have hsection : sectionOf lib (.map entries) "qos" "dds" = .ok (.map es) :=
    sectionOf_map_eq_ok.mpr ⟨es, rfl, Or.inl hqos⟩
  have hparse : parseQos lib (.map entries) =
      if es.length ≠ 0 then
        parseEndpointPolicy lib (.map es) "dds.qos" >>= fun policy => .ok (policy, policy)
      else .ok ({}, {}) := by
    unfold parseQos
    rw [hsection]
    show ((Yaml.map es).get lib "state" >>= fun found => _) = _
    rw [Yaml.get_map, hstate]
    show ((Yaml.map es).get lib "command" >>= fun found => _) = _
    rw [Yaml.get_map, hcommand]
    rfl
  rw [hparse]
  split_ifs with hes
  · rw [bind_eq_ok]
    refine exists_congr fun policy => and_congr parseEndpointPolicy_eq_ok_iff ?_
    exact ⟨fun h => (Except.ok.inj h).symm, fun h => by rw [h]⟩
  · -- an empty `qos` leaves the defaults, which it also spells
    obtain rfl := List.length_eq_zero_iff.mp (not_not.mp hes)
    have hdefault : SpellsPolicy lib [] {} :=
      parseEndpointPolicy_eq_ok_iff.mp
        (rfl : parseEndpointPolicy lib (.map []) "dds.qos" = .ok {})
    constructor
    · intro h
      exact ⟨{}, hdefault, (Except.ok.inj h).symm⟩
    · rintro ⟨policy, hpolicy, rfl⟩
      rw [hpolicy.unique hdefault]

/-- What the document that names the endpoints is read as. -/
theorem parseQos_splitQos {entries es : List (Yaml × Yaml)}
    (hqos : Yaml.lookup entries "qos" = some (.map es))
    {policies : EndpointPolicy × EndpointPolicy} :
    parseQos lib (.map (splitQos entries)) = .ok policies ↔
      ∃ policy, SpellsPolicy lib es policy ∧ policies = (policy, policy) := by
  have hsection : sectionOf lib (.map (splitQos entries)) "qos" "dds" =
      .ok (.map [(.scalar "state", .map es), (.scalar "command", .map es)]) :=
    sectionOf_map_eq_ok.mpr ⟨_, rfl, Or.inl (lookup_splitQos hqos)⟩
  have hparse : parseQos lib (.map (splitQos entries)) =
      parseEndpointPolicy lib (.map es) "dds.qos.state" >>= fun state =>
        parseEndpointPolicy lib (.map es) "dds.qos.command" >>= fun command =>
          .ok (state, command) := by
    unfold parseQos
    rw [hsection]
    rfl
  rw [hparse, bind_eq_ok]
  constructor
  · rintro ⟨state, hstate, h⟩
    obtain ⟨command, hcommand, h⟩ := bind_eq_ok.mp h
    rw [parseEndpointPolicy_eq_ok_iff] at hstate hcommand
    obtain rfl := hstate.unique hcommand
    exact ⟨state, hstate, (Except.ok.inj h).symm⟩
  · rintro ⟨policy, hpolicy, rfl⟩
    refine ⟨policy, parseEndpointPolicy_eq_ok_iff.mpr hpolicy, ?_⟩
    exact bind_eq_ok.mpr ⟨policy, parseEndpointPolicy_eq_ok_iff.mpr hpolicy, rfl⟩

/-- **The two spellings.** A flat policy is accepted, and means the same, as the document that
writes it out for both endpoints. -/
theorem parseDdsConfig_flat {root root' dds es : List (Yaml × Yaml)} {cfg : DdsConfig}
    (hroot : Yaml.lookup root "dds" = some (.map dds))
    (hroot' : Yaml.lookup root' "dds" = some (.map (splitQos dds)))
    (hqos : Yaml.lookup dds "qos" = some (.map es)) (hstate : Yaml.lookup es "state" = none)
    (hcommand : Yaml.lookup es "command" = none) :
    parseDdsConfig lib decodeBool (.map root) = .ok cfg ↔
      parseDdsConfig lib decodeBool (.map root') = .ok cfg := by
  have hlookup : ∀ {key : String}, key ≠ "qos" →
      Yaml.lookup dds key = Yaml.lookup (splitQos dds) key := fun hkey =>
    (lookup_splitQos_of_ne hkey dds).symm
  have hsection : sectionOf lib (.map root) "dds" "" = .ok (.map dds) :=
    sectionOf_map_eq_ok.mpr ⟨dds, rfl, Or.inl hroot⟩
  have hsection' : sectionOf lib (.map root') "dds" "" = .ok (.map (splitQos dds)) :=
    sectionOf_map_eq_ok.mpr ⟨splitQos dds, rfl, Or.inl hroot'⟩
  unfold parseDdsConfig
  rw [hsection, hsection']
  show (checkKeys lib _ _ _ >>= fun _ => _) = _ ↔ (checkKeys lib _ _ _ >>= fun _ => _) = _
  refine bind_eq_ok_congr (fun _ => ?_) fun _ => ?_
  · rw [checkKeys_eq_ok_iff, checkKeys_eq_ok_iff, knownKeys_splitQos]
  rw [Yaml.get_map, Yaml.get_map, ← hlookup (by decide)]
  refine bind_eq_ok_congr (fun _ => Iff.rfl) fun found => ?_
  show (unsignedValue lib _ _ _ _ >>= fun _ => _) = _ ↔
    (unsignedValue lib _ _ _ _ >>= fun _ => _) = _
  rw [unsignedValue_congr (hlookup (by split_ifs <;> decide)),
    valueBool_congr (hlookup (by decide)), parseService_congr (hlookup (by decide))]
  refine bind_eq_ok_congr (fun _ => Iff.rfl) fun domainId => ?_
  refine bind_eq_ok_congr (fun _ => Iff.rfl) fun declareToRos => ?_
  refine bind_eq_ok_congr (fun _ => Iff.rfl) fun service => ?_
  -- the policies are all that the two documents spell in another way
  refine bind_eq_ok_congr (fun policies => ?_) fun policies => Iff.rfl
  exact (parseQos_flat hqos hstate hcommand).trans (parseQos_splitQos hqos).symm

theorem parseDdsConfig_flat_depth :
    parseDdsConfig ⟨none, fun _ => "", fun _ _ => ""⟩ (fun _ => none)
      (.map [(.scalar "dds", .map [(.scalar "domain_id", .scalar "5"),
        (.scalar "qos", .map [(.scalar "state", .map (Yaml.texts [("depth", "3")])),
          (.scalar "command", .map (Yaml.texts [("depth", "3")]))])])]) =
    .ok { domainId := 5, state := { historyDepth := 3 }, command := { historyDepth := 3 } } := by
  have hroot : Yaml.lookup [(.scalar "dds", .map flatDds)] "dds" = some (.map flatDds) := rfl
  exact (parseDdsConfig_flat hroot rfl rfl rfl rfl).mp rfl

end EcatMiddleware.Dds
