import EcatMiddleware.Core.ComponentName
import EcatMiddleware.Lib.FoldExcept
import EcatMiddleware.Tools.InspectorApp
import Mathlib.Data.List.Nodup
import Mathlib.Logic.Function.Basic

/-!
# The start of the shared-memory inspector

The arguments name the memories; `main` numbers them by their kind and opens one tab for each.

* `parseCli_eq_ok_iff`: the argument lists that are accepted, and what they say.
* `tabs_of_main`: the tabs, in the order of the arguments, with labels that are all different.
-/

namespace EcatMiddleware.Tools

open EcatMiddleware.Core FoldExcept

inductive SourceKind where
  | rx
  | tx
  | service
  deriving DecidableEq, Repr

def SourceKind.flag : SourceKind → String
  | .rx => "--rx"
  | .tx => "--tx"
  | .service => "--service"

def sourceFlag (arg : String) : Option SourceKind :=
  if arg = "--rx" then some .rx
  else if arg = "--tx" then some .tx
  else if arg = "--service" then some .service
  else none

structure CliOptions where
  sources : List (SourceKind × String) := []
  rate : Int32 := 10
  history : Bool := false
  keepLastQueue : Bool := false
  help : Bool := false
  deriving DecidableEq

/-- The loop over the arguments behind the program. What `std::stoi` throws says `stoi`. -/
def parseCli (options : CliOptions) : List String → Except String CliOptions
  | [] => .ok options
  | arg :: args =>
    if arg = "-h" ∨ arg = "--help" then parseCli { options with help := true } args
    else match sourceFlag arg, args with
      | some _, [] => .error ("Missing value after " ++ arg)
      | some kind, name :: args =>
        parseCli { options with sources := options.sources ++ [(kind, name)] } args
      | none, args =>
        if arg = "--rate" then
          match args with
          | [] => .error ("Missing value after " ++ arg)
          | text :: args =>
            match stoi text.toList with
            | .error _ => .error "stoi"
            | .ok rate =>
              if rate ≤ 0 then .error "--rate must be > 0"
              else parseCli { options with rate := rate } args
        else if arg = "--history" then parseCli { options with history := true } args
        else if arg = "--keep-last-queue" then parseCli { options with keepLastQueue := true } args
        else .error ("Unknown argument: " ++ arg)

/-! ## The tabs -/

def SourceKind.base : SourceKind → String
  | .rx => "RX"
  | .tx => "TX"
  | .service => "SRV"

def makeLabel (kind : SourceKind) (occurrence : ℕ) : String :=
  kind.base ++ if occurrence > 1 then toString occurrence else ""

def pdoName : String := "iit.advrf.Ec_slave_pdo"

/-- `declare` of the three bridges: the queues, and the types of their messages. -/
def SourceKind.queueNames : SourceKind → List (String × String)
  | .rx => ["imu", "motor", "gripper", "force_torque", "power_board", "pump", "valve"].map
      fun name => (name, pdoName)
  | .tx => ["motor", "pump", "valve", "gripper"].map fun name => (name, pdoName)
  | .service => [("request", "iit.advrf.Repl_cmd"), ("reply", "iit.advrf.Cmd_reply")]

/-- The capacities are those of the types of the queues. -/
def SourceKind.declare (capacity : SourceKind → String → ℕ) (kind : SourceKind) :
    List QueueDescriptor :=
  kind.queueNames.map fun queue => ⟨queue.1, queue.2, capacity kind queue.1⟩

/-- The constructor of an inspector; `opened` is what `SharedMemory::open` throws, or whether it
returns a pointer that is not null. -/
def makeInspector (capacity : SourceKind → String → ℕ) (kind : SourceKind) (name : String)
    (opened : Except String Bool) : Except String BridgeInspector := do
  let hasShm ← opened
  .ok { shmName := name, queues := kind.declare capacity, hasShm := hasShm }

/-- The loop of `main` over the sources, with its three counters. -/
def addSources (capacity : SourceKind → String → ℕ) (counts : SourceKind → ℕ)
    (opened : ℕ → Except String Bool) :
    List (SourceKind × String) → Except String (List (String × BridgeInspector))
  | [] => .ok []
  | (kind, name) :: sources => do
    let inspector ← makeInspector capacity kind name (opened 0)
    let tabs ← addSources capacity (Function.update counts kind (counts kind + 1))
      (fun index => opened (index + 1)) sources
    .ok ((makeLabel kind (counts kind + 1), inspector) :: tabs)

inductive InspectorOutcome where
  | help
  | noSources
  /-- `app.run` enters its loop. -/
  | running (app : InspectorApp)

/-- `main`, where `opened index` is what comes of opening the memory of the source `index`. -/
def main (capacity : SourceKind → String → ℕ) (opened : ℕ → Except String Bool)
    (args : List String) : Except String InspectorOutcome := do
  let cli ← parseCli {} args
  if cli.help then .ok .help
  else if cli.sources = [] then .ok .noSources
  else
    let tabs ← addSources capacity (fun _ => 0) opened cli.sources
    let app ← InspectorApp.start tabs cli.history cli.keepLastQueue
    .ok (.running app)

/-! ## What the arguments say -/

inductive CliSetting where
  | help
  | source (kind : SourceKind) (name : String)
  | rate (rate : Int32)
  | history
  | keepLastQueue

def CliOptions.put (options : CliOptions) : CliSetting → CliOptions
  | .help => { options with help := true }
  | .source kind name => { options with sources := options.sources ++ [(kind, name)] }
  | .rate rate => { options with rate := rate }
  | .history => { options with history := true }
  | .keepLastQueue => { options with keepLastQueue := true }

/-- The accepted argument lists, with what they say. -/
inductive SpellsCli : List String → List CliSetting → Prop
  | nil : SpellsCli [] []
  | help {arg : String} {args : List String} {settings : List CliSetting}
      (hflag : arg = "-h" ∨ arg = "--help") (rest : SpellsCli args settings) :
      SpellsCli (arg :: args) (.help :: settings)
  | source (kind : SourceKind) (name : String) {args : List String} {settings : List CliSetting}
      (rest : SpellsCli args settings) :
      SpellsCli (kind.flag :: name :: args) (.source kind name :: settings)
  | rate {text : String} {rate : Int32} {args : List String} {settings : List CliSetting}
      (htext : BeginsWith text.toList rate.toInt) (hpos : ¬ rate ≤ 0)
      (rest : SpellsCli args settings) :
      SpellsCli ("--rate" :: text :: args) (.rate rate :: settings)
  | history {args : List String} {settings : List CliSetting} (rest : SpellsCli args settings) :
      SpellsCli ("--history" :: args) (.history :: settings)
  | keepLastQueue {args : List String} {settings : List CliSetting}
      (rest : SpellsCli args settings) :
      SpellsCli ("--keep-last-queue" :: args) (.keepLastQueue :: settings)

theorem sourceFlag_flag (kind : SourceKind) : sourceFlag kind.flag = some kind := by
  cases kind <;> rfl

theorem eq_flag_of_sourceFlag {arg : String} {kind : SourceKind} (h : sourceFlag arg = some kind) :
    arg = kind.flag := by
  unfold sourceFlag at h
  split_ifs at h with hrx htx hservice
  · obtain rfl := Option.some.inj h
    exact hrx
  · obtain rfl := Option.some.inj h
    exact htx
  · obtain rfl := Option.some.inj h
    exact hservice

/-- The options that the arguments lead to. -/
def Leads (options : CliOptions) (args : List String) (options' : CliOptions) : Prop :=
  ∃ settings, SpellsCli args settings ∧ options' = settings.foldl CliOptions.put options

theorem Leads.cons {options options' : CliOptions} {args args' : List String}
    (setting : CliSetting) (h : Leads (options.put setting) args options')
    (hcons : ∀ settings, SpellsCli args settings → SpellsCli args' (setting :: settings)) :
    Leads options args' options' := by
  obtain ⟨settings, hspells, rfl⟩ := h
  exact ⟨setting :: settings, hcons settings hspells, rfl⟩

theorem leads_of_parseCli (options : CliOptions) (args : List String) :
    ∀ {options' : CliOptions}, parseCli options args = .ok options' →
      Leads options args options' := by
  fun_induction parseCli options args with
  | case1 options =>
    intro options' h
    exact ⟨[], .nil, (Except.ok.inj h).symm⟩
  | case2 options arg args hhelp ih =>
    intro options' h
    exact Leads.cons .help (ih h) fun _ rest => .help hhelp rest
  | case4 options arg _ kind name args hflag ih =>
    intro options' h
    obtain rfl := eq_flag_of_sourceFlag hflag
    exact Leads.cons (.source kind name) (ih h) fun _ rest => .source kind name rest
  | case8 options text args rate hrate hpos _ _ ih =>
    intro options' h
    exact Leads.cons (.rate rate) (ih h) fun _ rest => .rate (stoi_eq_ok_iff.mp hrate) hpos rest
  | case9 options args _ _ _ ih =>
    intro options' h
    exact Leads.cons .history (ih h) fun _ rest => .history rest
  | case10 options args _ _ _ _ ih =>
    intro options' h
    exact Leads.cons .keepLastQueue (ih h) fun _ rest => .keepLastQueue rest
  | case3 | case5 | case6 | case7 | case11 =>
    intro options' h
    exact absurd h (by rintro ⟨⟩)

theorem parseCli_of_spellsCli {args : List String} {settings : List CliSetting}
    (h : SpellsCli args settings) : ∀ options : CliOptions,
      parseCli options args = .ok (settings.foldl CliOptions.put options) := by
  induction h with
  | nil => exact fun _ => rfl
  | help hflag _ ih =>
    intro options
    unfold parseCli
    rw [if_pos hflag]
    exact ih _
  | source kind name _ ih =>
    intro options
    have hnot : ¬ (kind.flag = "-h" ∨ kind.flag = "--help") := by cases kind <;> decide
    unfold parseCli
    rw [if_neg hnot, sourceFlag_flag]
    exact ih _
  | rate htext hpos _ ih =>
    intro options
    unfold parseCli
    rw [if_neg (by decide), show sourceFlag "--rate" = none from rfl]
    show (match stoi _ with | .error _ => _ | .ok rate => _) = _
    rw [stoi_eq_ok_iff.mpr htext]
    show (if _ ≤ _ then _ else _) = _
    rw [if_neg hpos]
    exact ih _
  | history _ ih =>
    intro options
    unfold parseCli
    rw [if_neg (by decide), show sourceFlag "--history" = none from rfl]
    exact ih _
  | keepLastQueue _ ih =>
    intro options
    unfold parseCli
    rw [if_neg (by decide), show sourceFlag "--keep-last-queue" = none from rfl]
    exact ih _

/-- What is accepted is spelled out, and put into the options one after the other. -/
theorem parseCli_eq_ok_iff {args : List String} {options options' : CliOptions} :
    parseCli options args = .ok options' ↔ Leads options args options' := by
  constructor
  · exact leads_of_parseCli options args
  · rintro ⟨settings, hspells, rfl⟩
    exact parseCli_of_spellsCli hspells options

def CliSetting.source? : CliSetting → Option (SourceKind × String)
  | .source kind name => some (kind, name)
  | .help | .rate _ | .history | .keepLastQueue => none

/-- The sources are those of the arguments, in their order. -/
theorem sources_foldl_put (settings : List CliSetting) (options : CliOptions) :
    (settings.foldl CliOptions.put options).sources =
      options.sources ++ settings.filterMap CliSetting.source? := by
  induction settings generalizing options with
  | nil => exact (List.append_nil _).symm
  | cons setting settings ih =>
    rw [List.foldl_cons, ih]
    cases setting with
    | source kind name =>
      show options.sources ++ [(kind, name)] ++ _ = options.sources ++ ((kind, name) :: _)
      rw [List.append_assoc]
      rfl
    | help | rate | history | keepLastQueue => rfl

/-! ## The labels -/

/-- A label says which source of its kind it is. -/
theorem makeLabel_injective {kind kind' : SourceKind} {m n : ℕ} (hm : 0 < m) (hn : 0 < n)
    (h : makeLabel kind m = makeLabel kind' n) : kind = kind' ∧ m = n := by
  have hsuffix : ∀ {m n : ℕ}, 0 < m → 0 < n →
      (if m > 1 then toString m else "") = (if n > 1 then toString n else "") → m = n := by
    intro m n hm hn h
    by_cases hm1 : m > 1
    · by_cases hn1 : n > 1
      · rw [if_pos hm1, if_pos hn1] at h
        have hnumeral := isNumeral_toString m
        rw [h] at hnumeral
        exact hnumeral.unique (isNumeral_toString n)
      · rw [if_pos hm1, if_neg hn1] at h
        exact absurd h (isNumeral_toString m).nonempty
    · by_cases hn1 : n > 1
      · rw [if_neg hm1, if_pos hn1] at h
        exact absurd h.symm (isNumeral_toString n).nonempty
      · omega
  have hhead : ∀ (kind : SourceKind) (suffix : String),
      (kind.base ++ suffix).toList.head? = kind.base.toList.head? := by
    intro kind suffix
    rw [String.toList_append, List.head?_append_of_ne_nil]
    cases kind <;> decide
  have hkind : kind = kind' := by
    have hchar := congrArg (fun label => label.toList.head?) h
    unfold makeLabel at hchar
    replace hchar := (hhead kind _).symm.trans (hchar.trans (hhead kind' _))
    revert hchar
    cases kind <;> cases kind' <;> decide
  subst hkind
  unfold makeLabel at h
  exact ⟨rfl, hsuffix hm hn (String.append_right_inj kind.base |>.mp h)⟩

variable {capacity : SourceKind → String → ℕ}

/-- The first tab, and those behind it. -/
theorem addSources_cons_eq_ok {counts : SourceKind → ℕ} {opened : ℕ → Except String Bool}
    {kind : SourceKind} {name : String} {sources : List (SourceKind × String)}
    {tabs : List (String × BridgeInspector)}
    (h : addSources capacity counts opened ((kind, name) :: sources) = .ok tabs) :
    ∃ hasShm rest, opened 0 = .ok hasShm ∧
      addSources capacity (Function.update counts kind (counts kind + 1))
        (fun index => opened (index + 1)) sources = .ok rest ∧
      tabs = (makeLabel kind (counts kind + 1),
        { shmName := name, queues := kind.declare capacity, hasShm := hasShm }) :: rest := by
  obtain ⟨inspector, hinspector, h⟩ := bind_eq_ok.mp h
  obtain ⟨hasShm, hopened, hinspector⟩ := bind_eq_ok.mp hinspector
  obtain rfl := Except.ok.inj hinspector
  obtain ⟨rest, hrest, h⟩ := bind_eq_ok.mp h
  exact ⟨hasShm, rest, hopened, hrest, (Except.ok.inj h).symm⟩

/-- Each source has a number that those of its kind before it do not have. -/
theorem exists_of_mem_addSources {label : String} (sources : List (SourceKind × String)) :
    ∀ {counts : SourceKind → ℕ} {opened : ℕ → Except String Bool}
      {tabs : List (String × BridgeInspector)},
      addSources capacity counts opened sources = .ok tabs → label ∈ tabs.map Prod.fst →
        ∃ kind n, label = makeLabel kind n ∧ counts kind < n := by
  induction sources with
  | nil =>
    intro counts opened tabs htabs h
    rw [← Except.ok.inj htabs] at h
    exact absurd h List.not_mem_nil
  | cons source sources ih =>
    obtain ⟨kind, name⟩ := source
    intro counts opened tabs htabs h
    obtain ⟨hasShm, rest, -, hrest, rfl⟩ := addSources_cons_eq_ok htabs
    rcases List.mem_cons.mp h with rfl | h
    · exact ⟨kind, counts kind + 1, rfl, Nat.lt_succ_self _⟩
    · obtain ⟨kind', n, rfl, hn⟩ := ih hrest h
      refine ⟨kind', n, rfl, ?_⟩
      by_cases hkind : kind' = kind
      · subst hkind
        rw [Function.update_self] at hn
        omega
      · rwa [Function.update_of_ne hkind] at hn

theorem nodup_addSources (sources : List (SourceKind × String)) :
    ∀ {counts : SourceKind → ℕ} {opened : ℕ → Except String Bool}
      {tabs : List (String × BridgeInspector)},
      addSources capacity counts opened sources = .ok tabs → (tabs.map Prod.fst).Nodup := by
  induction sources with
  | nil =>
    intro counts opened tabs htabs
    rw [← Except.ok.inj htabs]
    exact List.nodup_nil
  | cons source sources ih =>
    obtain ⟨kind, name⟩ := source
    intro counts opened tabs htabs
    obtain ⟨hasShm, rest, -, hrest, rfl⟩ := addSources_cons_eq_ok htabs
    refine List.nodup_cons.mpr ⟨fun hmem => ?_, ih hrest⟩
    obtain ⟨kind', n, hlabel, hn⟩ := exists_of_mem_addSources sources hrest hmem
    obtain ⟨rfl, rfl⟩ := makeLabel_injective (Nat.succ_pos _) (Nat.zero_lt_of_lt hn) hlabel
    rw [Function.update_self] at hn
    omega

/-- The source with this index, and how many of its kind there are up to it. -/
theorem getElem?_addSources (sources : List (SourceKind × String)) :
    ∀ {counts : SourceKind → ℕ} {opened : ℕ → Except String Bool}
      {tabs : List (String × BridgeInspector)} {index : ℕ} {kind : SourceKind} {name : String},
      addSources capacity counts opened sources = .ok tabs →
      sources[index]? = some (kind, name) →
        ∃ hasShm, opened index = .ok hasShm ∧ tabs[index]? = some
          (makeLabel kind (counts kind + (sources.take (index + 1)).countP (·.1 = kind)),
            { shmName := name, queues := kind.declare capacity, hasShm := hasShm }) := by
  induction sources with
  | nil =>
    intro counts opened tabs index kind name _ h
    exact absurd h (by simp)
  | cons source sources ih =>
    obtain ⟨kind', name'⟩ := source
    intro counts opened tabs index kind name htabs h
    obtain ⟨hasShm, rest, hopened, hrest, rfl⟩ := addSources_cons_eq_ok htabs
    cases index with
    | zero =>
      obtain ⟨rfl, rfl⟩ := Prod.mk.inj (Option.some.inj h)
      refine ⟨hasShm, hopened, ?_⟩
      show some (makeLabel kind' (counts kind' + 1), _) = _
      rw [List.take_succ_cons, List.take_zero, List.countP_singleton, if_pos (decide_eq_true rfl)]
    | succ index =>
      obtain ⟨hasShm', hopened', hsource⟩ := ih hrest h
      refine ⟨hasShm', hopened', ?_⟩
      show rest[index]? = _
      rw [hsource, List.take_succ_cons, List.countP_cons]
      by_cases hkind : kind = kind'
      · subst hkind
        rw [Function.update_self, if_pos (decide_eq_true rfl),
          show ∀ m n : ℕ, m + 1 + n = m + (n + 1) by omega]
      · rw [Function.update_of_ne hkind, if_neg (by simpa using Ne.symm hkind)]
        rfl

theorem length_addSources (sources : List (SourceKind × String)) :
    ∀ {counts : SourceKind → ℕ} {opened : ℕ → Except String Bool}
      {tabs : List (String × BridgeInspector)},
      addSources capacity counts opened sources = .ok tabs → tabs.length = sources.length := by
  induction sources with
  | nil =>
    intro counts opened tabs htabs
    rw [← Except.ok.inj htabs]
    rfl
  | cons source sources ih =>
    intro counts opened tabs htabs
    obtain ⟨hasShm, rest, -, hrest, rfl⟩ := addSources_cons_eq_ok htabs
    exact congrArg Nat.succ (ih hrest)

/-- **The tabs** of the inspector, once it runs: one for each source of the arguments, in their
order, over the memory that is named, as it was opened, and with the queues of its kind. No two have
one label, and the label counts the sources of the kind up to it. -/
theorem tabs_of_main {opened : ℕ → Except String Bool} {args : List String} {app : InspectorApp}
    (h : main capacity opened args = .ok (.running app)) :
    ∃ settings, SpellsCli args settings ∧ (app.sources.map Source.label).Nodup ∧
      app.sources.length = (settings.filterMap CliSetting.source?).length ∧
      ∀ index kind name, (settings.filterMap CliSetting.source?)[index]? = some (kind, name) →
        ∃ source, app.sources[index]? = some source ∧ source.inspector.shmName = name ∧
          opened index = .ok source.inspector.hasShm ∧
          source.inspector.queues = kind.declare capacity ∧
          source.label = makeLabel kind
            (((settings.filterMap CliSetting.source?).take (index + 1)).countP (·.1 = kind)) := by
  obtain ⟨cli, hcli, h⟩ := bind_eq_ok.mp h
  obtain ⟨settings, hspells, rfl⟩ := parseCli_eq_ok_iff.mp hcli
  have hsources : (settings.foldl CliOptions.put {}).sources =
      settings.filterMap CliSetting.source? := sources_foldl_put settings {}
  split_ifs at h
  · exact absurd h (by rintro ⟨⟩)
  · exact absurd h (by rintro ⟨⟩)
  obtain ⟨tabs, htabs, h⟩ := bind_eq_ok.mp h
  obtain ⟨begun, hbegun, h⟩ := bind_eq_ok.mp h
  obtain rfl : begun = app := InspectorOutcome.running.inj (Except.ok.inj h)
  unfold InspectorApp.start at hbegun
  split_ifs at hbegun
  obtain rfl := Except.ok.inj hbegun
  rw [hsources] at htabs
  refine ⟨settings, hspells, ?_, ?_, fun index kind name hindex => ?_⟩
  · rw [List.map_map]
    exact nodup_addSources _ htabs
  · rw [List.length_map, length_addSources _ htabs]
  · obtain ⟨hasShm, hopened, htab⟩ := getElem?_addSources _ htabs hindex
    rw [Nat.zero_add] at htab
    refine ⟨_, (List.getElem?_map ..).trans (congrArg _ htab), rfl, hopened, rfl, rfl⟩

/-- Two memories of one kind, and one of another between them that is not there yet. -/
theorem tabs_of_main_three : ∃ app, main (fun _ _ => 8) (fun index => .ok (index ≠ 1))
      ["--rx", "/rx_left", "--service", "/service", "--history", "--rx", "/rx_right"] =
        .ok (.running app) ∧ (app.sources.map Source.label).Nodup ∧
      app.sources.map Source.label = ["RX", "SRV", "RX2"] := by
  have hmain : main (fun _ _ => 8) (fun index => .ok (index ≠ 1))
      ["--rx", "/rx_left", "--service", "/service", "--history", "--rx", "/rx_right"] =
        .ok (.running _) := rfl
  obtain ⟨-, -, hnodup, -⟩ := tabs_of_main hmain
  exact ⟨_, hmain, hnodup, by decide⟩

end EcatMiddleware.Tools
