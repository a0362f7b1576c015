import EcatMiddleware.Core.ConfigTopics
import EcatMiddleware.Core.RobotConfig

/-!
# The names of a robot

The topics of a robot and the namespace of its ROS node are built from the same configuration. A
topic leaves the empty parts of the namespace out, the node namespace does not.

* `components_topic`, `components_buildNodeNamespace`: the components of both.
* `wellFormed_iff`: the names are well formed exactly when the configured namespace is.
-/

namespace EcatMiddleware.Dds

open EcatMiddleware.Core

/-- `build_node_namespace`. -/
def buildNodeNamespace (ns robotName : String) : String := "/" ++ ns ++ "/cyclonedds/" ++ robotName

/-- The names of a robot, and of its device `deviceName`, have no empty component and share the
components of the namespace. -/
structure WellFormed (cfg : RobotConfig) (deviceName : String) : Prop where
  topics : ∀ topic ∈ configTopics [cfg.ns, cfg.robotName] deviceName, "" ∉ components topic
  oneSlash : ∃ c rest, (buildNodeNamespace cfg.ns cfg.robotName).toList = '/' :: c :: rest ∧ c ≠ '/'
  node : "" ∉ (components (buildNodeNamespace cfg.ns cfg.robotName)).tail
  sameNamespace : ∃ parts,
    components (buildNodeNamespace cfg.ns cfg.robotName) =
      "" :: parts ++ ["cyclonedds", cfg.robotName] ∧
    ∀ topic ∈ configTopics [cfg.ns, cfg.robotName] deviceName, ∃ root rest,
      components topic = root :: parts ++ cfg.robotName :: rest

/-- An accepted robot name is a single component. -/
theorem components_robotName {cfg : RobotConfig} (h : validate cfg = .ok ()) :
    cfg.robotName ≠ "" ∧ components cfg.robotName = [cfg.robotName] := by
  unfold validate at h
  split_ifs at h with hname hmap hslash
  exact ⟨hname, components_of_notMem hslash⟩

theorem components_buildNodeNamespace {ns robotName : String}
    (h : components robotName = [robotName]) :
    components (buildNodeNamespace ns robotName) =
      "" :: components ns ++ ["cyclonedds", robotName] := by
  have hassoc : buildNodeNamespace ns robotName =
      "" ++ "/" ++ ns ++ "/" ++ "cyclonedds" ++ "/" ++ robotName := by
    simp [buildNodeNamespace, String.append_assoc]
  have hfixed : components "cyclonedds" = ["cyclonedds"] := components_of_notMem (by decide)
  rw [hassoc, components_slash, components_slash, components_slash, h, hfixed, components_empty]
  simp

/-- A name without empty components is nonempty and does not start with a slash. -/
theorem exists_head_of_notMem {name : String} (h : "" ∉ components name) :
    ∃ c rest, name.toList = c :: rest ∧ c ≠ '/' := by
  cases hname : name.toList with
  | nil => simp [components, hname] at h
  | cons c rest =>
    refine ⟨c, rest, rfl, fun hc => h ?_⟩
    simp [components, hname, List.splitOn_cons_eq_if_modifyHead, hc]

theorem ne_empty_of_notMem {name : String} (h : "" ∉ components name) : name ≠ "" := by
  rintro rfl
  exact h (by simp [components_empty])

/-- The components of a topic of a robot whose namespace has no empty component. -/
theorem components_topic {ns robotName topic : String} (hns : "" ∉ components ns)
    (hrobot : robotName ≠ "") (hsingle : components robotName = [robotName])
    (h : Rooted [ns, robotName] topic) :
    ∃ root rest, root ≠ "" ∧ "" ∉ rest ∧
      components topic = root :: components ns ++ robotName :: rest := by
  obtain ⟨root, suffix, hroot, hne, hsuffix, rfl⟩ := h
  refine ⟨root, components suffix, hne, hsuffix, ?_⟩
  rw [components_build, hroot]
  simp [ne_empty_of_notMem hns, hrobot, hsingle]

/-- **Well-formed names.** The names of an accepted robot are well formed exactly when no component
of its namespace is empty. -/
theorem wellFormed_iff (cfg : RobotConfig) (deviceName : String) (h : validate cfg = .ok ())
    (hname : deviceName ≠ "") (hdev : '/' ∉ deviceName.toList) :
    WellFormed cfg deviceName ↔ "" ∉ components cfg.ns := by
  obtain ⟨hrobot, hsingle⟩ := components_robotName h
  have hnode := @components_buildNodeNamespace cfg.ns cfg.robotName hsingle
  constructor
  · intro hwf hns
    refine hwf.node ?_
    rw [hnode]
    simp [hns]
  · intro hns
    have htopic := fun topic (ht : topic ∈ configTopics [cfg.ns, cfg.robotName] deviceName) =>
      components_topic hns hrobot hsingle (rooted_of_mem hname hdev ht)
    refine ⟨fun topic ht => ?_, ?_, ?_, components cfg.ns, hnode, fun topic ht => ?_⟩
    · obtain ⟨root, rest, hroot, hrest, heq⟩ := htopic topic ht
      rw [heq]
      simp [hroot.symm, hns, hrobot.symm, hrest]
    · obtain ⟨c, rest, heq, hc⟩ := exists_head_of_notMem hns
      refine ⟨c, rest ++ ("/cyclonedds/" ++ cfg.robotName).toList, ?_, hc⟩
      simp [buildNodeNamespace, heq]
    · rw [hnode]
      simp [hns, hrobot.symm]
    · obtain ⟨root, rest, -, -, heq⟩ := htopic topic ht
      exact ⟨root, rest, heq⟩

/-- The robot `kyon` with one device. -/
def kyon (ns : String) : RobotConfig :=
  { robotName := "kyon", ns := ns, mapEcatId := (∅ : IdNames).insert 7 "hip" }

/-- The namespace `advrf`. -/
theorem wellFormed_advrf : WellFormed (kyon "advrf") "hip" :=
  (wellFormed_iff (kyon "advrf") "hip" rfl (by decide) (by decide)).mpr (by decide)

/-- The default namespace: the node is `//cyclonedds/kyon`. -/
theorem not_wellFormed_default :
    validate (kyon "") = .ok () ∧ (kyon "").ns = ({} : RobotConfig).ns ∧
      buildNodeNamespace (kyon "").ns (kyon "").robotName = "//cyclonedds/kyon" ∧
      (∀ topic ∈ configTopics [(kyon "").ns, (kyon "").robotName] "hip", "" ∉ components topic) ∧
      ¬ WellFormed (kyon "") "hip" := by
  refine ⟨rfl, rfl, by decide, fun topic ht => ?_, fun h => h.node ?_⟩
  · -- the topics leave the empty namespace out
    obtain ⟨root, suffix, hroot, hne, hsuffix, rfl⟩ := rooted_of_mem (by decide) (by decide) ht
    have hns : ([(kyon "").ns, (kyon "").robotName].filter (· ≠ "")).flatMap components =
        ["kyon"] := rfl
    rw [components_build, hroot, hns]
    simp [hne.symm, hsuffix]
  · decide

end EcatMiddleware.Dds
