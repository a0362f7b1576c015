import Mathlib.Data.List.Basic

/-!
# Topic names

Topic names have the form `rt/<namespace...>/<suffix>`, with the empty parts of the namespace left
out; those of services begin with `rq` and `rr`.

* `components_build`: what stands between the slashes of a name.
* `rooted_of_mem`: every topic has the namespace between its root and its suffix.
-/

namespace EcatMiddleware.Core

/-- `TopicNamespace`: the namespace components. -/
abbrev TopicNamespace := List String

namespace TopicNamespace

/-- `build`. -/
def build (ns : TopicNamespace) (root suffix : String) : String :=
  (ns.foldl (fun topic part => if part = "" then topic else topic ++ "/" ++ part) root) ++
    "/" ++ suffix

/-- A ROS topic. -/
def rt (ns : TopicNamespace) (suffix : String) : String := ns.build "rt" suffix

/-- A ROS service request. -/
def rq (ns : TopicNamespace) (suffix : String) : String := ns.build "rq" suffix

/-- A ROS service reply. -/
def rr (ns : TopicNamespace) (suffix : String) : String := ns.build "rr" suffix

/-! ## State topics -/

def jointState (ns : TopicNamespace) : String := ns.rt "rx/joint_states"

def motor (ns : TopicNamespace) : String := ns.rt "rx/motors"

def gripper (ns : TopicNamespace) : String := ns.rt "rx/grippers"

def valve (ns : TopicNamespace) : String := ns.rt "rx/valves"

def imu (ns : TopicNamespace) (deviceName : String) : String := ns.rt ("rx/imu/" ++ deviceName)

def forceTorque (ns : TopicNamespace) (deviceName : String) : String :=
  ns.rt ("rx/force_torque/" ++ deviceName)

def powerBoard (ns : TopicNamespace) (deviceName : String) : String :=
  ns.rt ("rx/power_board/" ++ deviceName)

def pump (ns : TopicNamespace) (deviceName : String) : String := ns.rt ("rx/pump/" ++ deviceName)

/-! ## Command topics -/

def jointCmd (ns : TopicNamespace) : String := ns.rt "tx/joints"

def motorCmd (ns : TopicNamespace) : String := ns.rt "tx/motors"

def valveCmd (ns : TopicNamespace) : String := ns.rt "tx/valves"

def gripperCmd (ns : TopicNamespace) : String := ns.rt "tx/grippers"

def pumpCmd (ns : TopicNamespace) : String := ns.rt "tx/pumps"

def powerBoardCmd (ns : TopicNamespace) : String := ns.rt "tx/power_board"

def forceTorqueCmd (ns : TopicNamespace) : String := ns.rt "tx/force_torque"

/-! ## Service topics -/

def request (ns : TopicNamespace) : String := ns.rq "replCmdRequest"

def reply (ns : TopicNamespace) : String := ns.rr "replCmdReply"

/-! ## Parameter topics -/

def getRequest (ns : TopicNamespace) : String := ns.rq "parameters/getRequest"

def getReply (ns : TopicNamespace) : String := ns.rr "parameters/getReply"

def getCmdRequest (ns : TopicNamespace) : String := ns.rq "parameters/getCmdRequest"

def getCmdReply (ns : TopicNamespace) : String := ns.rr "parameters/getCmdReply"

def setRequest (ns : TopicNamespace) : String := ns.rq "parameters/setRequest"

def setReply (ns : TopicNamespace) : String := ns.rr "parameters/setReply"

def listRequest (ns : TopicNamespace) : String := ns.rq "parameters/listRequest"

def listReply (ns : TopicNamespace) : String := ns.rr "parameters/listReply"

def listGetRequest (ns : TopicNamespace) : String := ns.rq "parameters/listGetRequest"

def listGetReply (ns : TopicNamespace) : String := ns.rr "parameters/listGetReply"

end TopicNamespace

example : TopicNamespace.motor ["", "kyon"] = "rt/kyon/rx/motors" := by decide

/-- `ConfigTopics`: the topics of the four groups, those of single devices for `deviceName`. -/
def configTopics (ns : TopicNamespace) (deviceName : String) : List String :=
  [ns.jointState, ns.motor, ns.gripper, ns.valve] ++
  [ns.imu deviceName, ns.forceTorque deviceName, ns.powerBoard deviceName, ns.pump deviceName] ++
  [ns.jointCmd, ns.motorCmd, ns.valveCmd, ns.gripperCmd, ns.pumpCmd, ns.powerBoardCmd,
    ns.forceTorqueCmd] ++
  [ns.getRequest, ns.getReply, ns.getCmdRequest, ns.getCmdReply, ns.setRequest, ns.setReply,
    ns.listRequest, ns.listReply, ns.listGetRequest, ns.listGetReply] ++
  [ns.request, ns.reply]

/-! ## Components -/

/-- The parts of a name between its slashes. -/
def components (name : String) : List String := (name.toList.splitOn '/').map String.ofList

/-- A name without slashes is a single component. -/
theorem components_of_notMem {name : String} (h : '/' ∉ name.toList) :
    components name = [name] := by
  simp [components, List.splitOn_eq_singleton h]

theorem components_empty : components "" = [""] := rfl

theorem components_slash (name name' : String) :
    components (name ++ "/" ++ name') = components name ++ components name' := by
  have h : (name ++ "/" ++ name').toList = name.toList ++ '/' :: name'.toList := by
    simp [String.toList_append]
  rw [components, h, List.splitOn_append_cons_self, List.map_append]
  rfl

/-- The components of a leading part stay in front. -/
theorem components_foldl (ns : TopicNamespace) (root : String) :
    components (ns.foldl (fun topic part => if part = "" then topic else topic ++ "/" ++ part)
      root) = components root ++ (ns.filter (· ≠ "")).flatMap components := by
  induction ns generalizing root with
  | nil => simp
  | cons part ns ih =>
    rw [List.foldl_cons, ih]
    by_cases h : part = ""
    · simp [h]
    · rw [if_neg h, components_slash, List.filter_cons_of_pos (by simpa using h),
        List.flatMap_cons, List.append_assoc]

/-- The components of a topic: the root, the namespace without its empty parts, the suffix. -/
theorem components_build (ns : TopicNamespace) (root suffix : String) :
    components (ns.build root suffix) =
      components root ++ (ns.filter (· ≠ "")).flatMap components ++ components suffix := by
  rw [TopicNamespace.build, components_slash, components_foldl]

/-- A name that is the namespace between a root and the rest, none of these with an empty part. -/
def Rooted (ns : TopicNamespace) (topic : String) : Prop :=
  ∃ root suffix, components root = [root] ∧ root ≠ "" ∧ "" ∉ components suffix ∧
    topic = ns.build root suffix

theorem rooted_rt {ns : TopicNamespace} {suffix : String} (h : "" ∉ components suffix) :
    Rooted ns (ns.rt suffix) := ⟨"rt", suffix, rfl, by decide, h, rfl⟩

theorem rooted_rq {ns : TopicNamespace} {suffix : String} (h : "" ∉ components suffix) :
    Rooted ns (ns.rq suffix) := ⟨"rq", suffix, rfl, by decide, h, rfl⟩

theorem rooted_rr {ns : TopicNamespace} {suffix : String} (h : "" ∉ components suffix) :
    Rooted ns (ns.rr suffix) := ⟨"rr", suffix, rfl, by decide, h, rfl⟩

/-- A suffix that ends in the name of a device. -/
theorem rooted_device {ns : TopicNamespace} {kind deviceName : String}
    (hkind : "" ∉ components kind) (hname : deviceName ≠ "") (hdev : '/' ∉ deviceName.toList) :
    Rooted ns (ns.rt (kind ++ "/" ++ deviceName)) := by
  refine rooted_rt ?_
  rw [components_slash, components_of_notMem hdev]
  simpa [hkind] using hname.symm

theorem rooted_of_mem {ns : TopicNamespace} {deviceName topic : String} (hname : deviceName ≠ "")
    (hdev : '/' ∉ deviceName.toList) (h : topic ∈ configTopics ns deviceName) :
    Rooted ns topic := by
  simp only [configTopics, List.mem_append, or_assoc] at h
  rcases h with h | h | h | h | h
  · rcases (by simpa using h) with rfl | rfl | rfl | rfl <;> exact rooted_rt (by decide +kernel)
  · have hdevice : ∀ kind, "" ∉ components kind → Rooted ns (ns.rt (kind ++ "/" ++ deviceName)) :=
      fun kind hkind => rooted_device hkind hname hdev
    rcases (by simpa using h) with rfl | rfl | rfl | rfl
    · exact hdevice "rx/imu" (by decide +kernel)
    · exact hdevice "rx/force_torque" (by decide +kernel)
    · exact hdevice "rx/power_board" (by decide +kernel)
    · exact hdevice "rx/pump" (by decide +kernel)
  · rcases (by simpa using h) with rfl | rfl | rfl | rfl | rfl | rfl | rfl <;>
      exact rooted_rt (by decide +kernel)
  · rcases (by simpa using h) with rfl | rfl | rfl | rfl | rfl | rfl | rfl | rfl | rfl | rfl <;>
      first | exact rooted_rq (by decide +kernel) | exact rooted_rr (by decide +kernel)
  · rcases (by simpa using h) with rfl | rfl
    · exact rooted_rq (by decide +kernel)
    · exact rooted_rr (by decide +kernel)

end EcatMiddleware.Core
