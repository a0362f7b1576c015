import EcatMiddleware.Core.LoadRobotConfig

/-!
# Robot configurations from several files

A `RobotConfigBuilder` merges identity files and maps in any order. `load_robot_config` and
`parse_runtime_robot_config` merge one of each.

* `built_iff`: what comes out of any sequence of calls.
* `loadRobotConfig_eq_plugin`: the tools and the plugins read the same robot.
* `parseRobotConfig_render`: the configurations that some document is read as are those that are
  read back from a document of their own.
-/

namespace EcatMiddleware.Core

open FoldExcept InsertAll

/-- A call on a `RobotConfigBuilder`. -/
inductive BuilderCall where
  | fromEcatConfig (path : String)
  | fromRobotIdMap (path : String)

/-- The member of a `RobotConfigBuilder`. -/
structure RobotConfigBuilder where
  config : RobotConfig := {}

variable (lib : YamlCpp) (host : Host)

namespace RobotConfigBuilder

def fromEcatConfig (builder : RobotConfigBuilder) (path : String) :
    Configured RobotConfigBuilder := do
  .ok ⟨← loadFromEcatConfig lib host builder.config path⟩

def fromRobotIdMap (builder : RobotConfigBuilder) (path : String) :
    Configured RobotConfigBuilder := do
  .ok ⟨← loadFromRobotIdMap lib host builder.config path⟩

def call (builder : RobotConfigBuilder) : BuilderCall → Configured RobotConfigBuilder
  | .fromEcatConfig path => builder.fromEcatConfig lib host path
  | .fromRobotIdMap path => builder.fromRobotIdMap lib host path

def build (builder : RobotConfigBuilder) : Configured RobotConfig := do
  validate builder.config
  .ok builder.config

end RobotConfigBuilder

/-- `RobotConfigBuilder{}.from_….from_….build()`. -/
def built (calls : List BuilderCall) : Configured RobotConfig := do
  (← calls.foldlM (RobotConfigBuilder.call lib host) {}).build

variable {lib host}

/-! ## What is read from a file -/

/-- The text under a key, where there is one. -/
def SpellsText (lib : YamlCpp) (entries : List (Yaml × Yaml)) (key : String)
    (text? : Option String) : Prop :=
  (Yaml.lookup entries key).mapM (Yaml.asString lib) = .ok text?

theorem SpellsText.unique {entries : List (Yaml × Yaml)} {key : String} {a b : Option String}
    (ha : SpellsText lib entries key a) (hb : SpellsText lib entries key b) : a = b :=
  Except.ok.inj (Eq.trans (Eq.symm ha) hb)

theorem value_eq_ok_iff_spells {entries : List (Yaml × Yaml)} {key fallback path text : String} :
    value lib (.map entries) key fallback path = .ok text ↔
      ∃ text?, SpellsText lib entries key text? ∧ text = text?.getD fallback := by
  unfold SpellsText
  cases h : Yaml.lookup entries key with
  | none =>
    rw [value_of_lookup_eq_none h]
    constructor
    · intro htext
      exact ⟨none, rfl, (Except.ok.inj htext).symm⟩
    · rintro ⟨text?, hspells, rfl⟩
      rw [← Except.ok.inj hspells]
      rfl
  | some node =>
    rw [value_of_lookup_eq_some h, rethrow_eq_ok]
    constructor
    · intro htext
      refine ⟨some text, ?_, rfl⟩
      show some <$> node.asString lib = .ok (some text)
      rw [htext]
      rfl
    · rintro ⟨text?, hspells, rfl⟩
      obtain ⟨text, htext, hsome⟩ := bind_eq_ok.mp
        (show (node.asString lib >>= fun text => .ok (some text)) = .ok text? from hspells)
      rw [htext, ← Except.ok.inj hsome]
      rfl

/-- What one call adds. -/
inductive Piece where
  | identity (robotName? ns? : Option String)
  | joints (reads : List (EcatId × String))

namespace Piece

def robotName? : Piece → Option String
  | identity robotName? _ => robotName?
  | joints _ => none

def ns? : Piece → Option String
  | identity _ ns? => ns?
  | joints _ => none

def reads : Piece → List (EcatId × String)
  | identity _ _ => []
  | joints reads => reads

/-- The configuration with the piece merged in. -/
def mergeInto (cfg : RobotConfig) (piece : Piece) : RobotConfig where
  robotName := piece.robotName?.getD cfg.robotName
  ns := piece.ns?.getD cfg.ns
  mapEcatId := insertAll cfg.mapEcatId piece.reads

end Piece

/-- The section of the identity, and the name of its first setting. -/
inductive IdentitySection (lib : YamlCpp) (root : List (Yaml × Yaml)) :
    List (Yaml × Yaml) → String → Prop
  | modern {entries : List (Yaml × Yaml)} (hrobot : Yaml.lookup root "robot" = some (.map entries))
      (hkeys : KnownKeys lib robotSettings entries) : IdentitySection lib root entries "name"
  | legacy {entries : List (Yaml × Yaml)} (hrobot : Yaml.lookup root "robot" = none)
      (hdds : sectionOf lib (.map root) "dds" "" = .ok (.map entries)) :
      IdentitySection lib root entries "robot_name"

theorem identityValues_eq_ok_iff {cfg cfg' : RobotConfig} {entries : List (Yaml × Yaml)}
    {name path : String} : identityValues lib cfg (.map entries) name path = .ok cfg' ↔
      ∃ robotName? ns?, SpellsText lib entries name robotName? ∧
        SpellsText lib entries "namespace" ns? ∧
        cfg' = (Piece.identity robotName? ns?).mergeInto cfg := by
  unfold identityValues
  rw [bind_eq_ok]
  constructor
  · rintro ⟨robotName, hname, h⟩
    obtain ⟨ns, hns, h⟩ := bind_eq_ok.mp h
    obtain ⟨robotName?, hspells, rfl⟩ := value_eq_ok_iff_spells.mp hname
    obtain ⟨ns?, hspells', rfl⟩ := value_eq_ok_iff_spells.mp hns
    exact ⟨robotName?, ns?, hspells, hspells', (Except.ok.inj h).symm⟩
  · rintro ⟨robotName?, ns?, hname, hns, rfl⟩
    refine ⟨_, value_eq_ok_iff_spells.mpr ⟨robotName?, hname, rfl⟩, ?_⟩
    exact bind_eq_ok.mpr ⟨_, value_eq_ok_iff_spells.mpr ⟨ns?, hns, rfl⟩, rfl⟩

theorem mergeRobotIdentity_eq_ok_iff {cfg cfg' : RobotConfig} {root : List (Yaml × Yaml)} :
    mergeRobotIdentity lib cfg (.map root) = .ok cfg' ↔
      ∃ entries name robotName? ns?, IdentitySection lib root entries name ∧
        SpellsText lib entries name robotName? ∧ SpellsText lib entries "namespace" ns? ∧
        cfg' = (Piece.identity robotName? ns?).mergeInto cfg := by
  cases hrobot : Yaml.lookup root "robot" with
  | none =>
    rw [mergeRobotIdentity_legacy hrobot, bind_eq_ok]
    constructor
    · rintro ⟨node, hnode, h⟩
      obtain ⟨entries, rfl, -⟩ := sectionOf_map_eq_ok.mp hnode
      obtain ⟨robotName?, ns?, hname, hns, rfl⟩ := identityValues_eq_ok_iff.mp h
      exact ⟨entries, _, robotName?, ns?, .legacy hrobot hnode, hname, hns, rfl⟩
    · rintro ⟨entries, name, robotName?, ns?, hsection, hname, hns, rfl⟩
      cases hsection with
      | modern hrobot' _ => exact absurd (hrobot.symm.trans hrobot') (by simp)
      | legacy _ hdds =>
        exact ⟨_, hdds, identityValues_eq_ok_iff.mpr ⟨robotName?, ns?, hname, hns, rfl⟩⟩
  | some robot =>
    rw [mergeRobotIdentity_modern hrobot, bind_eq_ok]
    constructor
    · rintro ⟨node, hnode, h⟩
      obtain ⟨entries, rfl, hlookup⟩ := sectionOf_map_eq_ok.mp hnode
      obtain ⟨⟨⟩, hkeys, h⟩ := bind_eq_ok.mp h
      obtain ⟨robotName?, ns?, hname, hns, rfl⟩ := identityValues_eq_ok_iff.mp h
      have hmap : Yaml.lookup root "robot" = some (.map entries) := by
        rcases hlookup with hsome | ⟨hnone, -⟩
        · exact hsome
        · exact absurd (hrobot.symm.trans hnone) (by simp)
      exact ⟨entries, _, robotName?, ns?, .modern hmap (checkKeys_eq_ok_iff.mp hkeys),
        hname, hns, rfl⟩
    · rintro ⟨entries, name, robotName?, ns?, hsection, hname, hns, rfl⟩
      cases hsection with
      | modern hmap hkeys =>
        refine ⟨.map entries, sectionOf_map_eq_ok.mpr ⟨entries, rfl, Or.inl hmap⟩, ?_⟩
        refine bind_eq_ok.mpr ⟨(), checkKeys_eq_ok_iff.mpr hkeys, ?_⟩
        exact identityValues_eq_ok_iff.mpr ⟨robotName?, ns?, hname, hns, rfl⟩
      | legacy hnone _ => exact absurd (hrobot.symm.trans hnone) (by simp)

/-- What `jointMap` returns for the root of a file is a mapping. -/
theorem exists_map_of_jointMap {root : List (Yaml × Yaml)} {joints : Yaml × String}
    (h : jointMap lib (.map root) = .ok joints) :
    ∃ entries path, joints = (.map entries, path) := by
  have hsection : ∀ {es : List (Yaml × Yaml)} {parentPath path : String},
      (sectionOf lib (.map es) "joint_map" parentPath >>= fun node =>
        (.ok (node, path) : Configured (Yaml × String))) = .ok joints →
      ∃ entries path, joints = (.map entries, path) := fun h => by
    obtain ⟨node, hnode, h⟩ := bind_eq_ok.mp h
    obtain ⟨entries, rfl, -⟩ := sectionOf_map_eq_ok.mp hnode
    exact ⟨entries, _, (Except.ok.inj h).symm⟩
  obtain ⟨modern, -, h⟩ := bind_eq_ok.mp h
  cases modern with
  | false => exact hsection h
  | true =>
    obtain ⟨parent, hparent, h⟩ := bind_eq_ok.mp h
    obtain ⟨es, rfl, -⟩ := sectionOf_map_eq_ok.mp hparent
    exact hsection h

theorem mergeRobotIdMap_map_eq_ok_iff {cfg cfg' : RobotConfig} {root : List (Yaml × Yaml)} :
    mergeRobotIdMap lib cfg (.map root) = .ok cfg' ↔
      ∃ joints path reads, jointMap lib (.map root) = .ok (.map joints, path) ∧
        List.Forall₂ (Reads lib) joints reads ∧ cfg' = (Piece.joints reads).mergeInto cfg := by
  constructor
  · intro h
    obtain ⟨joints, hjoints, -⟩ := bind_eq_ok.mp h
    obtain ⟨entries, path, rfl⟩ := exists_map_of_jointMap hjoints
    obtain ⟨reads, hreads, rfl⟩ := (mergeRobotIdMap_eq_ok_iff hjoints cfg cfg').mp h
    exact ⟨entries, path, reads, hjoints, hreads, rfl⟩
  · rintro ⟨joints, path, reads, hjoints, hreads, rfl⟩
    exact (mergeRobotIdMap_eq_ok_iff hjoints cfg _).mpr ⟨reads, hreads, rfl⟩

/-! ## A sequence of calls -/

/-- What a call reads from its file. -/
inductive ReadsPiece (lib : YamlCpp) (host : Host) : BuilderCall → Piece → Prop
  | identity {path absolute name : String} {root entries : List (Yaml × Yaml)}
      {robotName? ns? : Option String}
      (hfile : ConfigFile.load lib host path = .ok ⟨.map root, absolute⟩)
      (hsection : IdentitySection lib root entries name)
      (hname : SpellsText lib entries name robotName?)
      (hns : SpellsText lib entries "namespace" ns?) :
      ReadsPiece lib host (.fromEcatConfig path) (.identity robotName? ns?)
  | joints {path absolute label : String} {root joints : List (Yaml × Yaml)}
      {reads : List (EcatId × String)}
      (hfile : ConfigFile.load lib host path = .ok ⟨.map root, absolute⟩)
      (hjoints : jointMap lib (.map root) = .ok (.map joints, label))
      (hreads : List.Forall₂ (Reads lib) joints reads) :
      ReadsPiece lib host (.fromRobotIdMap path) (.joints reads)

theorem load_eq_map {path : String} {file : ConfigFile}
    (h : ConfigFile.load lib host path = .ok file) :
    ∃ root absolute, file = ⟨.map root, absolute⟩ := by
  obtain ⟨root, hroot⟩ := exists_map_of_load h
  exact ⟨root, file.path, by rw [← hroot]⟩

theorem loadFromEcatConfig_eq_ok_iff {cfg cfg' : RobotConfig} {path : String} :
    loadFromEcatConfig lib host cfg path = .ok cfg' ↔
      ∃ piece, ReadsPiece lib host (.fromEcatConfig path) piece ∧ cfg' = piece.mergeInto cfg := by
  constructor
  · intro h
    obtain ⟨file, hfile, h⟩ := bind_eq_ok.mp h
    obtain ⟨root, absolute, rfl⟩ := load_eq_map hfile
    obtain ⟨entries, name, robotName?, ns?, hsection, hname, hns, rfl⟩ :=
      mergeRobotIdentity_eq_ok_iff.mp h
    exact ⟨_, .identity hfile hsection hname hns, rfl⟩
  · rintro ⟨piece, hpiece, rfl⟩
    cases hpiece with
    | identity hfile hsection hname hns =>
      refine bind_eq_ok.mpr ⟨_, hfile, ?_⟩
      exact mergeRobotIdentity_eq_ok_iff.mpr ⟨_, _, _, _, hsection, hname, hns, rfl⟩

theorem loadFromRobotIdMap_eq_ok_iff {cfg cfg' : RobotConfig} {path : String} :
    loadFromRobotIdMap lib host cfg path = .ok cfg' ↔
      ∃ piece, ReadsPiece lib host (.fromRobotIdMap path) piece ∧ cfg' = piece.mergeInto cfg := by
  constructor
  · intro h
    obtain ⟨file, hfile, h⟩ := bind_eq_ok.mp h
    obtain ⟨root, absolute, rfl⟩ := load_eq_map hfile
    obtain ⟨joints, label, reads, hjoints, hreads, rfl⟩ := mergeRobotIdMap_map_eq_ok_iff.mp h
    exact ⟨_, .joints hfile hjoints hreads, rfl⟩
  · rintro ⟨piece, hpiece, rfl⟩
    cases hpiece with
    | joints hfile hjoints hreads =>
      refine bind_eq_ok.mpr ⟨_, hfile, ?_⟩
      exact mergeRobotIdMap_map_eq_ok_iff.mpr ⟨_, _, _, hjoints, hreads, rfl⟩

/-- **One call.** What it adds depends on its file alone. -/
theorem call_eq_ok_iff (call : BuilderCall) (builder builder' : RobotConfigBuilder) :
    builder.call lib host call = .ok builder' ↔
      ∃ piece, ReadsPiece lib host call piece ∧ builder' = ⟨piece.mergeInto builder.config⟩ := by
  have hload : ∀ {load : Configured RobotConfig}, (∀ cfg, load = .ok cfg ↔
      ∃ piece, ReadsPiece lib host call piece ∧ cfg = piece.mergeInto builder.config) →
      ((load >>= fun cfg => .ok (RobotConfigBuilder.mk cfg)) = .ok builder' ↔
        ∃ piece, ReadsPiece lib host call piece ∧ builder' = ⟨piece.mergeInto builder.config⟩) := by
    intro load h
    rw [bind_eq_ok]
    constructor
    · rintro ⟨cfg, hcfg, hbuilder⟩
      obtain ⟨piece, hpiece, rfl⟩ := (h cfg).mp hcfg
      exact ⟨piece, hpiece, (Except.ok.inj hbuilder).symm⟩
    · rintro ⟨piece, hpiece, rfl⟩
      exact ⟨_, (h _).mpr ⟨piece, hpiece, rfl⟩, rfl⟩
  cases call with
  | fromEcatConfig path => exact hload fun _ => loadFromEcatConfig_eq_ok_iff
  | fromRobotIdMap path => exact hload fun _ => loadFromRobotIdMap_eq_ok_iff

/-- The last text that is given counts; the joints are assigned in the order of the calls. -/
def assembled (pieces : List Piece) : RobotConfig where
  robotName := (pieces.filterMap Piece.robotName?).getLast?.getD ""
  ns := (pieces.filterMap Piece.ns?).getLast?.getD ""
  mapEcatId := insertAll ∅ (pieces.flatMap Piece.reads)

theorem getLast?_filterMap_concat {α β : Type} (f : α → Option β) (l : List α) (a : α) (b : β) :
    ((l ++ [a]).filterMap f).getLast?.getD b = (f a).getD ((l.filterMap f).getLast?.getD b) := by
  rw [List.filterMap_append]
  cases h : f a with
  | none => simp [h]
  | some b' => simp [h]

theorem assembled_concat (pieces : List Piece) (piece : Piece) :
    assembled (pieces ++ [piece]) = piece.mergeInto (assembled pieces) := by
  unfold assembled Piece.mergeInto
  rw [getLast?_filterMap_concat, getLast?_filterMap_concat, List.flatMap_append, insertAll_append,
    List.flatMap_singleton]

theorem foldl_mergeInto (pieces : List Piece) :
    pieces.foldl (fun builder piece => RobotConfigBuilder.mk (piece.mergeInto builder.config)) {} =
      ⟨assembled pieces⟩ := by
  induction pieces using List.reverseRecOn with
  | nil => rfl
  | append_singleton pieces piece ih =>
    rw [List.foldl_append, List.foldl_cons, List.foldl_nil, ih, assembled_concat]

/-- What `validate` accepts. -/
structure RobotConfig.Valid (cfg : RobotConfig) : Prop where
  named : cfg.robotName ≠ ""
  devices : cfg.mapEcatId.keys ≠ []
  component : '/' ∉ cfg.robotName.toList

theorem validate_eq_ok_iff {cfg : RobotConfig} : validate cfg = .ok () ↔ cfg.Valid := by
  unfold validate
  constructor
  · intro h
    split_ifs at h with hnamed hdevices hcomponent
    exact ⟨hnamed, hdevices, hcomponent⟩
  · intro h
    rw [if_neg h.named, if_neg h.devices, if_neg h.component]

theorem validated_eq_ok_iff {cfg cfg' : RobotConfig} :
    (validate cfg >>= fun _ => .ok cfg) = (.ok cfg' : Configured RobotConfig) ↔
      cfg.Valid ∧ cfg' = cfg := by
  rw [bind_eq_ok]
  constructor
  · rintro ⟨⟨⟩, hvalid, h⟩
    exact ⟨validate_eq_ok_iff.mp hvalid, (Except.ok.inj h).symm⟩
  · rintro ⟨hvalid, rfl⟩
    exact ⟨(), validate_eq_ok_iff.mpr hvalid, rfl⟩

theorem built_eq_ok_iff {calls : List BuilderCall} {cfg : RobotConfig} :
    built lib host calls = .ok cfg ↔ ∃ pieces, List.Forall₂ (ReadsPiece lib host) calls pieces ∧
      cfg = assembled pieces ∧ cfg.Valid := by
  have hfold : ∀ builder, calls.foldlM (RobotConfigBuilder.call lib host) {} = .ok builder ↔
      ∃ pieces, List.Forall₂ (ReadsPiece lib host) calls pieces ∧ builder =
        pieces.foldl
          (fun builder piece => RobotConfigBuilder.mk (piece.mergeInto builder.config)) {} :=
    fun _ => foldlM_eq_ok_iff _ call_eq_ok_iff
  unfold built
  rw [bind_eq_ok]
  constructor
  · rintro ⟨builder, hbuilder, h⟩
    obtain ⟨pieces, hpieces, rfl⟩ := (hfold builder).mp hbuilder
    rw [foldl_mergeInto] at h
    obtain ⟨hvalid, rfl⟩ := validated_eq_ok_iff.mp h
    exact ⟨pieces, hpieces, rfl, hvalid⟩
  · rintro ⟨pieces, hpieces, rfl, hvalid⟩
    refine ⟨_, (hfold _).mpr ⟨pieces, hpieces, rfl⟩, ?_⟩
    rw [foldl_mergeInto]
    exact validated_eq_ok_iff.mpr ⟨hvalid, rfl⟩

/-! ## The order of the files -/

def BuilderCall.isIdentity : BuilderCall → Bool
  | .fromEcatConfig _ => true
  | .fromRobotIdMap _ => false

def Piece.isIdentity : Piece → Bool
  | .identity _ _ => true
  | .joints _ => false

theorem IdentitySection.unique {root es es' : List (Yaml × Yaml)} {name name' : String}
    (h : IdentitySection lib root es name) (h' : IdentitySection lib root es' name') :
    es = es' ∧ name = name' := by
  cases h with
  | modern hrobot _ =>
    cases h' with
    | modern hrobot' _ =>
      exact ⟨Yaml.map.inj (Option.some.inj (hrobot.symm.trans hrobot')), rfl⟩
    | legacy hrobot' _ => exact absurd (hrobot.symm.trans hrobot') (by simp)
  | legacy hrobot hdds =>
    cases h' with
    | modern hrobot' _ => exact absurd (hrobot.symm.trans hrobot') (by simp)
    | legacy _ hdds' => exact ⟨Yaml.map.inj (Except.ok.inj (hdds.symm.trans hdds')), rfl⟩

theorem Reads.unique {joint : Yaml × Yaml} {r r' : EcatId × String} (h : Reads lib joint r)
    (h' : Reads lib joint r') : r = r' :=
  Prod.ext (UInt32.toNat_inj.mp (h.id.unique h'.id)) (Except.ok.inj (h.name.symm.trans h'.name))

theorem ReadsPiece.unique {call : BuilderCall} {piece piece' : Piece}
    (h : ReadsPiece lib host call piece) (h' : ReadsPiece lib host call piece') :
    piece = piece' := by
  cases h with
  | identity hfile hsection hname hns =>
    cases h' with
    | identity hfile' hsection' hname' hns' =>
      cases Except.ok.inj (hfile.symm.trans hfile')
      obtain ⟨rfl, rfl⟩ := hsection.unique hsection'
      rw [hname.unique hname', hns.unique hns']
  | joints hfile hjoints hreads =>
    cases h' with
    | joints hfile' hjoints' hreads' =>
      cases Except.ok.inj (hfile.symm.trans hfile')
      cases Except.ok.inj (hjoints.symm.trans hjoints')
      have hunique : Relator.RightUnique (Reads lib) := fun _ _ _ => Reads.unique
      rw [List.right_unique_forall₂' hunique hreads hreads']

theorem ReadsPiece.isIdentity_eq {call : BuilderCall} {piece : Piece}
    (h : ReadsPiece lib host call piece) : call.isIdentity = piece.isIdentity := by
  cases h <;> rfl

theorem filterMap_filter_eq {α β : Type} {f : α → Option β} {p : α → Bool} (l : List α)
    (h : ∀ a, p a = false → f a = none) : (l.filter p).filterMap f = l.filterMap f := by
  rw [List.filterMap_filter]
  congr 1
  funext a
  cases ha : p a with
  | true => rfl
  | false => exact (h a ha).symm

theorem flatMap_filter_eq {α β : Type} {f : α → List β} {p : α → Bool} (l : List α)
    (h : ∀ a, p a = false → f a = []) : (l.filter p).flatMap f = l.flatMap f := by
  induction l with
  | nil => rfl
  | cons a l ih =>
    cases ha : p a with
    | true => rw [List.filter_cons_of_pos ha, List.flatMap_cons, List.flatMap_cons, ih]
    | false =>
      rw [List.filter_cons_of_neg (by simp [ha]), List.flatMap_cons, h a ha, ih, List.nil_append]

/-- The identity and the map are assembled apart from each other. -/
theorem assembled_congr {pieces pieces' : List Piece}
    (hidentity : pieces.filter Piece.isIdentity = pieces'.filter Piece.isIdentity)
    (hjoints : pieces.filter (!·.isIdentity) = pieces'.filter (!·.isIdentity)) :
    assembled pieces = assembled pieces' := by
  have hname : ∀ piece : Piece, piece.isIdentity = false → piece.robotName? = none ∧
      piece.ns? = none := fun piece h => by
    cases piece with
    | identity _ _ => exact absurd h (by rintro ⟨⟩)
    | joints _ => exact ⟨rfl, rfl⟩
  have hreads : ∀ piece : Piece, (!piece.isIdentity) = false → piece.reads = [] := fun piece h => by
    cases piece with
    | identity _ _ => rfl
    | joints _ => exact absurd h (by rintro ⟨⟩)
  unfold assembled
  rw [← filterMap_filter_eq pieces fun piece h => (hname piece h).1, hidentity,
    filterMap_filter_eq pieces' fun piece h => (hname piece h).1,
    ← filterMap_filter_eq pieces fun piece h => (hname piece h).2, hidentity,
    filterMap_filter_eq pieces' fun piece h => (hname piece h).2,
    ← flatMap_filter_eq pieces hreads, hjoints, flatMap_filter_eq pieces' hreads]

theorem built_of_same {calls calls' : List BuilderCall} {cfg : RobotConfig}
    (hidentity : calls.filter BuilderCall.isIdentity = calls'.filter BuilderCall.isIdentity)
    (hmaps : calls.filter (!·.isIdentity) = calls'.filter (!·.isIdentity))
    (h : built lib host calls = .ok cfg) : built lib host calls' = .ok cfg := by
  obtain ⟨pieces, hpieces, rfl, hvalid⟩ := built_eq_ok_iff.mp h
  have hmem : ∀ call, call ∈ calls' → call ∈ calls := fun call hcall => by
    cases hid : call.isIdentity with
    | true =>
      have hfilter : call ∈ calls'.filter BuilderCall.isIdentity :=
        List.mem_filter.mpr ⟨hcall, hid⟩
      rw [← hidentity] at hfilter
      exact (List.mem_filter.mp hfilter).1
    | false =>
      have hfilter : call ∈ calls'.filter (!·.isIdentity) :=
        List.mem_filter.mpr ⟨hcall, by rw [hid]; rfl⟩
      rw [← hmaps] at hfilter
      exact (List.mem_filter.mp hfilter).1
  have hread : ∀ call ∈ calls', ∃ piece, ReadsPiece lib host call piece := fun call hcall => by
    obtain ⟨piece, -, hpiece⟩ := exists_of_mem_forall₂ hpieces (hmem call hcall)
    exact ⟨piece, hpiece⟩
  obtain ⟨pieces', hpieces'⟩ := exists_forall₂ hread
  have hunique : ∀ call piece piece', ReadsPiece lib host call piece →
      ReadsPiece lib host call piece' → piece = piece' := fun _ _ _ => ReadsPiece.unique
  have hkind : ∀ call piece, ReadsPiece lib host call piece →
      call.isIdentity = piece.isIdentity := fun _ _ => ReadsPiece.isIdentity_eq
  have hother : ∀ call piece, ReadsPiece lib host call piece →
      (!call.isIdentity) = !piece.isIdentity := fun call piece h => by rw [hkind call piece h]
  have hsame : assembled pieces = assembled pieces' :=
    assembled_congr (filter_eq_of_forall₂ hunique hkind hpieces hpieces' hidentity)
      (filter_eq_of_forall₂ hunique hother hpieces hpieces' hmaps)
  rw [hsame] at hvalid ⊢
  exact built_eq_ok_iff.mpr ⟨pieces', hpieces', rfl, hvalid⟩

/-- **The order of the two kinds of files does not matter**: only that of the identity files among
each other, and that of the maps. -/
theorem built_shuffle {calls calls' : List BuilderCall}
    (hidentity : calls.filter BuilderCall.isIdentity = calls'.filter BuilderCall.isIdentity)
    (hmaps : calls.filter (!·.isIdentity) = calls'.filter (!·.isIdentity)) (cfg : RobotConfig) :
    built lib host calls = .ok cfg ↔ built lib host calls' = .ok cfg :=
  ⟨built_of_same hidentity hmaps, built_of_same hidentity.symm hmaps.symm⟩

/-- A robot described by three files: a map, and an identity whose name a later file replaces. -/
def threeFiles : Host where
  ecCfg := some "/robot/ec_cfg.yaml"
  canonical := .ok
  absolute := .ok
  loadFile path :=
    if path = "/robot/ec_cfg.yaml" then
      .ok (.map [(.scalar "robot", .map [(.scalar "robot_id_map_path", .scalar "map.yaml")])])
    else if path = "/robot/map.yaml" then
      .ok (.map [(.scalar "joint_map", .map [(.scalar "7", .scalar "hip")])])
    else if path = "/robot/config.yaml" then
      .ok (.map [(.scalar "robot", .map [(.scalar "name", .scalar "kyon"),
        (.scalar "namespace", .scalar "lab")])])
    else .ok (.map [(.scalar "dds", .map [(.scalar "robot_name", .scalar "left")])])

/-- The map may come between the identities; the first namespace stays. -/
theorem built_shuffle_three : ∃ cfg, cfg.robotName = "left" ∧ cfg.ns = "lab" ∧
    built ⟨none, fun _ => "", fun _ _ => ""⟩ threeFiles [.fromEcatConfig "/robot/config.yaml",
      .fromRobotIdMap "/robot/map.yaml", .fromEcatConfig "/robot/left.yaml"] = .ok cfg ∧
    built ⟨none, fun _ => "", fun _ _ => ""⟩ threeFiles [.fromRobotIdMap "/robot/map.yaml",
      .fromEcatConfig "/robot/config.yaml", .fromEcatConfig "/robot/left.yaml"] = .ok cfg :=
  ⟨_, rfl, rfl, rfl, (built_shuffle rfl rfl _).mp rfl⟩

/-! ## The two loaders -/

/-- What a map and an identity make together. -/
def joined (identity joints : Piece) : RobotConfig := joints.mergeInto (identity.mergeInto {})

theorem tryLoad_eq_ok_iff {mapPath identityPath : String} (hne : mapPath ≠ identityPath)
    {cfg : RobotConfig} : tryLoad lib host mapPath identityPath = .ok cfg ↔
      ∃ identity joints, ReadsPiece lib host (.fromEcatConfig identityPath) identity ∧
        ReadsPiece lib host (.fromRobotIdMap mapPath) joints ∧ cfg = joined identity joints ∧
        cfg.Valid := by
  have hswap : ∀ {identity joints : Piece},
      ReadsPiece lib host (.fromEcatConfig identityPath) identity →
      ReadsPiece lib host (.fromRobotIdMap mapPath) joints →
      identity.mergeInto (joints.mergeInto {}) = joined identity joints := by
    intro identity joints hidentity hjoints
    cases hidentity
    cases hjoints
    rfl
  unfold tryLoad
  rw [if_neg hne, bind_eq_ok]
  constructor
  · rintro ⟨cfg₁, hmap, h⟩
    obtain ⟨cfg₂, hidentity, h⟩ := bind_eq_ok.mp h
    obtain ⟨joints, hjoints, rfl⟩ := loadFromRobotIdMap_eq_ok_iff.mp hmap
    obtain ⟨identity, hpiece, rfl⟩ := loadFromEcatConfig_eq_ok_iff.mp hidentity
    obtain ⟨hvalid, rfl⟩ := validated_eq_ok_iff.mp h
    exact ⟨identity, joints, hpiece, hjoints, hswap hpiece hjoints, hvalid⟩
  · rintro ⟨identity, joints, hidentity, hjoints, rfl, hvalid⟩
    refine ⟨_, loadFromRobotIdMap_eq_ok_iff.mpr ⟨joints, hjoints, rfl⟩, ?_⟩
    refine bind_eq_ok.mpr ⟨_, loadFromEcatConfig_eq_ok_iff.mpr ⟨identity, hidentity, rfl⟩, ?_⟩
    rw [hswap hidentity hjoints]
    exact validated_eq_ok_iff.mpr ⟨hvalid, rfl⟩

theorem load_parseRuntimeRobotConfig_eq_ok_iff {mapPath identityPath env : String}
    (henv : host.ecCfg = some env) (hmap : robotIdMapPath lib host = .ok mapPath)
    {cfg : RobotConfig} : (∃ file, ConfigFile.load lib host identityPath = .ok file ∧
        parseRuntimeRobotConfig lib host file.root = .ok cfg) ↔
      ∃ identity joints, ReadsPiece lib host (.fromEcatConfig identityPath) identity ∧
        ReadsPiece lib host (.fromRobotIdMap mapPath) joints ∧ cfg = joined identity joints ∧
        cfg.Valid := by
  have hparse : ∀ root, parseRuntimeRobotConfig lib host root =
      mergeRobotIdentity lib {} root >>= fun cfg =>
        loadFromRobotIdMap lib host cfg mapPath >>= fun cfg =>
          validate cfg >>= fun _ => .ok cfg := fun root => by
    unfold parseRuntimeRobotConfig loadFromRobotIdMap
    simp only [henv, hmap, bind_assoc]
    rfl
  constructor
  · rintro ⟨file, hfile, h⟩
    rw [hparse] at h
    obtain ⟨cfg₁, hidentity, h⟩ := bind_eq_ok.mp h
    obtain ⟨cfg₂, hjoints, h⟩ := bind_eq_ok.mp h
    obtain ⟨identity, hpiece, rfl⟩ := loadFromEcatConfig_eq_ok_iff.mp
      (bind_eq_ok.mpr ⟨file, hfile, hidentity⟩ : loadFromEcatConfig lib host {} identityPath = _)
    obtain ⟨joints, hreads, rfl⟩ := loadFromRobotIdMap_eq_ok_iff.mp hjoints
    obtain ⟨hvalid, rfl⟩ := validated_eq_ok_iff.mp h
    exact ⟨identity, joints, hpiece, hreads, rfl, hvalid⟩
  · rintro ⟨identity, joints, hidentity, hjoints, rfl, hvalid⟩
    obtain ⟨file, hfile, h⟩ := bind_eq_ok.mp
      (loadFromEcatConfig_eq_ok_iff.mpr ⟨identity, hidentity, rfl⟩ :
        loadFromEcatConfig lib host {} identityPath = .ok (identity.mergeInto {}))
    refine ⟨file, hfile, ?_⟩
    rw [hparse]
    refine bind_eq_ok.mpr ⟨_, h, ?_⟩
    refine bind_eq_ok.mpr ⟨_, loadFromRobotIdMap_eq_ok_iff.mpr ⟨joints, hjoints, rfl⟩, ?_⟩
    exact validated_eq_ok_iff.mpr ⟨hvalid, rfl⟩

theorem loadRobotConfig_eq_some_iff {mapPath identityPath : String} {cfg : RobotConfig} :
    loadRobotConfig lib host mapPath identityPath = .ok (some cfg) ↔
      tryLoad lib host mapPath identityPath = .ok cfg := by
  unfold loadRobotConfig
  cases h : tryLoad lib host mapPath identityPath with
  | ok cfg' =>
    constructor
    · intro hsome
      rw [Option.some.inj (Except.ok.inj hsome)]
    · intro hok
      rw [Except.ok.inj hok]
  | error e =>
    cases e with
    | configError what => exact iff_of_false (by rintro ⟨⟩) (by rintro ⟨⟩)
    | yamlException what => exact iff_of_false (by rintro ⟨⟩) (by rintro ⟨⟩)

/-- **The tools and the plugins read the same robot**, where the map that a tool is given is the one
that `EC_CFG` refers to: `load_robot_config` merges the map first, the plugins the identity. -/
theorem loadRobotConfig_eq_plugin {mapPath identityPath env : String}
    (henv : host.ecCfg = some env) (hmap : robotIdMapPath lib host = .ok mapPath)
    (cfg : RobotConfig) :
    loadRobotConfig lib host mapPath identityPath = .ok (some cfg) ↔
      ∃ file, ConfigFile.load lib host identityPath = .ok file ∧
        parseRuntimeRobotConfig lib host file.root = .ok cfg := by
  rw [loadRobotConfig_eq_some_iff]
  by_cases hpath : mapPath = identityPath
  · subst hpath
    unfold tryLoad
    rw [if_pos rfl, bind_eq_ok]
  · rw [tryLoad_eq_ok_iff hpath, load_parseRuntimeRobotConfig_eq_ok_iff henv hmap]

theorem loadRobotConfig_eq_plugin_kyon : ∃ cfg file, cfg.robotName = "kyon" ∧
    ConfigFile.load ⟨none, fun _ => "", fun _ _ => ""⟩ threeFiles "/robot/config.yaml" = .ok file ∧
    parseRuntimeRobotConfig ⟨none, fun _ => "", fun _ _ => ""⟩ threeFiles file.root = .ok cfg := by
  have hmap : robotIdMapPath ⟨none, fun _ => "", fun _ _ => ""⟩ threeFiles =
      .ok "/robot/map.yaml" := by decide +kernel
  have hload : loadRobotConfig ⟨none, fun _ => "", fun _ _ => ""⟩ threeFiles "/robot/map.yaml"
      "/robot/config.yaml" = .ok (some ⟨"kyon", "lab", insertAll ∅ [(7, "hip")]⟩) := rfl
  obtain ⟨file, hfile, h⟩ := (loadRobotConfig_eq_plugin rfl hmap _).mp hload
  exact ⟨_, file, rfl, hfile, h⟩

/-! ## A document of its own -/

/-- A document that spells the configuration, its ids in decimal. -/
def RobotConfig.render (cfg : RobotConfig) : Yaml :=
  .map [(.scalar "robot", .map [
    (.scalar "name", .scalar cfg.robotName),
    (.scalar "namespace", .scalar cfg.ns),
    (.scalar "joint_map", .map ((assignments cfg.mapEcatId).map fun joint =>
      (.scalar (toString joint.1.toNat), .scalar joint.2)))])]

/-- Every device has a positive id and a name. -/
def RobotConfig.NamesDevices (cfg : RobotConfig) : Prop :=
  ∀ id name, cfg.mapEcatId.lookup id = some name → id ≠ 0 ∧ name ≠ ""

theorem namesDevices_of_reads {joints : List (Yaml × Yaml)} {reads : List (EcatId × String)}
    (h : List.Forall₂ (Reads lib) joints reads) (cfg : RobotConfig)
    (hempty : cfg.mapEcatId = ∅) : ((Piece.joints reads).mergeInto cfg).NamesDevices := by
  intro id name hlookup
  have hmem : (id, name) ∈ reads := by
    rcases mem_of_lookup_insertAll reads cfg.mapEcatId hlookup with hold | hmem
    · rw [hempty, AList.lookup_empty] at hold
      exact absurd hold (by simp)
    · exact hmem
  obtain ⟨joint, -, hread⟩ := exists_of_mem_forall₂ h.flip hmem
  exact ⟨hread.positive, hread.nonempty⟩

theorem spelled_of_parseRobotConfig {root : List (Yaml × Yaml)} {cfg : RobotConfig}
    (h : parseRobotConfig lib (.map root) = .ok cfg) : cfg.Valid ∧ cfg.NamesDevices := by
  obtain ⟨cfg₁, hidentity, h⟩ := bind_eq_ok.mp h
  obtain ⟨cfg₂, hmap, h⟩ := bind_eq_ok.mp h
  obtain ⟨hvalid, rfl⟩ := validated_eq_ok_iff.mp h
  obtain ⟨joints, path, reads, -, hreads, rfl⟩ := mergeRobotIdMap_map_eq_ok_iff.mp hmap
  exact ⟨hvalid, namesDevices_of_reads hreads cfg₁ (mapEcatId_mergeRobotIdentity hidentity)⟩

/-- A root that is no mapping has no name for the robot. -/
theorem exists_map_of_parseRobotConfig {root : Yaml} {cfg : RobotConfig}
    (h : parseRobotConfig lib root = .ok cfg) : ∃ entries, root = .map entries := by
  cases root with
  | map entries => exact ⟨entries, rfl⟩
  | null | scalar | sequence => exact absurd h (by rintro ⟨⟩)

theorem parseRobotConfig_of_spelled {cfg : RobotConfig} (hvalid : cfg.Valid)
    (hdevices : cfg.NamesDevices) : parseRobotConfig lib cfg.render = .ok cfg := by
  have hreads : List.Forall₂ (Reads lib)
      ((assignments cfg.mapEcatId).map fun joint =>
        (Yaml.scalar (toString joint.1.toNat), Yaml.scalar joint.2))
      (assignments cfg.mapEcatId) := by
    refine List.forall₂_map_left_iff.mpr (List.forall₂_same.mpr fun joint hjoint => ?_)
    obtain ⟨hpos, hname⟩ := hdevices joint.1 joint.2 (mem_assignments.mp hjoint)
    exact ⟨⟨_, rfl, isNumeral_toString _⟩, hpos, rfl, hname⟩
  have hkeys : KnownKeys lib robotSettings [
      (.scalar "name", .scalar cfg.robotName), (.scalar "namespace", .scalar cfg.ns),
      (.scalar "joint_map", .map ((assignments cfg.mapEcatId).map fun joint =>
        (.scalar (toString joint.1.toNat), .scalar joint.2)))] :=
    knownKeys_of_scalars (by simp [robotSettings])
  have hcfg : (Piece.joints (assignments cfg.mapEcatId)).mergeInto
      ((Piece.identity (some cfg.robotName) (some cfg.ns)).mergeInto {}) = cfg := by
    show RobotConfig.mk cfg.robotName cfg.ns (insertAll ∅ (assignments cfg.mapEcatId)) = cfg
    rw [insertAll_assignments]
  refine bind_eq_ok.mpr ⟨_, mergeRobotIdentity_eq_ok_iff.mpr
    ⟨_, _, _, _, .modern rfl hkeys, rfl, rfl, rfl⟩, ?_⟩
  refine bind_eq_ok.mpr ⟨_, mergeRobotIdMap_map_eq_ok_iff.mpr ⟨_, _, _, rfl, hreads, rfl⟩, ?_⟩
  rw [hcfg]
  exact validated_eq_ok_iff.mpr ⟨hvalid, rfl⟩

/-- **What is accepted can be written down again**: a configuration is read from some document, in
either layout, exactly when it is read back from its own. -/
theorem parseRobotConfig_render (lib : YamlCpp) (cfg : RobotConfig) :
    (∃ root, parseRobotConfig lib root = .ok cfg) ↔ parseRobotConfig lib cfg.render = .ok cfg := by
  constructor
  · rintro ⟨root, h⟩
    obtain ⟨entries, rfl⟩ := exists_map_of_parseRobotConfig h
    obtain ⟨hvalid, hdevices⟩ := spelled_of_parseRobotConfig h
    exact parseRobotConfig_of_spelled hvalid hdevices
  · intro h
    exact ⟨_, h⟩

end EcatMiddleware.Core
