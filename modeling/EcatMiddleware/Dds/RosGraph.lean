import EcatMiddleware.Dds.NodeNamespace
import EcatMiddleware.Dds.Service
import EcatMiddleware.Lib.FoldExcept
import EcatMiddleware.Lib.Roster
import Mathlib.Data.List.DropRight
import Mathlib.Data.List.ReduceOption

/-!
# The ROS graph

The DDS entities of an adapter are declared to ROS as those of a node. A bridge keeps the
identifiers of the readers and the writers, and publishes them all after each change. The writer of
`ros_discovery_info` is transient-local and keeps one sample: this is what a ROS tool gets that
joins later.

* `retained_after_calls`: what such a tool sees after any calls, and any failures.
* `retained_of_initRosGraphBridge`: what it sees of an adapter that has been initialized.
-/

namespace EcatMiddleware.Dds

open FoldExcept

/-! ## Identifiers -/

abbrev GidBytes := Vector UInt8 16

/-- The GUID of an entity. -/
structure Guid where
  guidPrefix : Vector UInt8 12
  entityId : Vector UInt8 4
  deriving DecidableEq

/-- `guid_to_gid` of FastDDS; CycloneDDS copies the sixteen bytes. -/
def guidToGid (guid : Guid) : GidBytes := guid.guidPrefix ++ guid.entityId

/-- A GUID with the same bytes throughout. -/
def guidOf (byte : UInt8) : Guid := ⟨Vector.replicate 12 byte, Vector.replicate 4 byte⟩

structure Gid where
  data : Vector UInt8 16
  deriving DecidableEq, Repr

def makeGid (gid : GidBytes) : Gid := ⟨gid⟩

/-- FastDDS fills the data with zeros, and copies the bytes over them. -/
def makeRosGid (gid : GidBytes) : Gid :=
  ⟨Vector.ofFn fun i => (gid.toList ++ (Vector.replicate 16 0).toList.drop gid.size).getD i 0⟩

def Plugin.makeGid : Plugin → GidBytes → Gid
  | .cyclonedds => Dds.makeGid
  | .fastdds => makeRosGid

/-! ## The state -/

inductive Side where
  | reader
  | writer
  deriving DecidableEq, Repr

/-- The identifiers of the readers and of the writers, each without repetitions. -/
structure RosGraphState where
  readerGids : Roster GidBytes := .empty
  writerGids : Roster GidBytes := .empty

namespace RosGraphState

def gids (s : RosGraphState) : Side → Roster GidBytes
  | .reader => s.readerGids
  | .writer => s.writerGids

def addReaderGid (s : RosGraphState) (gid : GidBytes) : RosGraphState :=
  { s with readerGids := s.readerGids.add gid }

def addWriterGid (s : RosGraphState) (gid : GidBytes) : RosGraphState :=
  { s with writerGids := s.writerGids.add gid }

def removeReaderGid (s : RosGraphState) (gid : GidBytes) : RosGraphState :=
  { s with readerGids := s.readerGids.remove gid }

def removeWriterGid (s : RosGraphState) (gid : GidBytes) : RosGraphState :=
  { s with writerGids := s.writerGids.remove gid }

end RosGraphState

/-! ## The bridge -/

structure NodeEntitiesInfo where
  nodeNamespace : String
  nodeName : String
  readerGidSeq : List Gid
  writerGidSeq : List Gid
  deriving DecidableEq, Repr

def NodeEntitiesInfo.gidSeq (info : NodeEntitiesInfo) : Side → List Gid
  | .reader => info.readerGidSeq
  | .writer => info.writerGidSeq

structure ParticipantEntitiesInfo where
  gid : Gid
  nodeEntitiesInfoSeq : List NodeEntitiesInfo
  deriving DecidableEq, Repr

structure RosGraphBridge where
  nodeName : String
  nodeNamespace : String
  participantGid : GidBytes
  state : RosGraphState := {}
  /-- The sample that the writer keeps. -/
  retained : Option ParticipantEntitiesInfo := none

/-- A call on a bridge. An entity is known by its GUID; in CycloneDDS its lookup may fail, and in
FastDDS there is none for a null pointer. -/
inductive GraphCall where
  | addWriter (writer : Option Guid)
  | removeWriter (writer : Option Guid)
  | addReader (reader : Option Guid)
  | removeReader (reader : Option Guid)
  | publish
  deriving DecidableEq

def Plugin.withoutGid : Plugin → Except String Unit
  | .cyclonedds => .error "Failed to retrieve CycloneDDS entity GUID"
  | .fastdds => .ok ()

def Plugin.writeFailed : Plugin → String → String
  | .cyclonedds, what => what
  | .fastdds, _ => "Failed to publish ros_discovery_info"

/-- What a `string<256>` of a message holds of a text, in the types that are generated for a
library: a text of up to 256 bytes as it is. Of a longer one FastDDS keeps the head, and CycloneDDS
does not write the message. -/
structure BoundedString where
  hold : String → String
  hold_of_le : ∀ text, text.utf8ByteSize ≤ 256 → hold text = text

/-- The `string<256>` of FastDDS, for ASCII texts. -/
def asciiHead : BoundedString where
  hold text := if text.utf8ByteSize ≤ 256 then text else String.ofList (text.toList.take 256)
  hold_of_le _ h := if_pos h

section

variable (plugin : Plugin) (string256 : BoundedString)

namespace RosGraphBridge

def nodeInfo (b : RosGraphBridge) : NodeEntitiesInfo where
  nodeNamespace := string256.hold b.nodeNamespace
  nodeName := string256.hold b.nodeName
  readerGidSeq := b.state.readerGids.members.map plugin.makeGid
  writerGidSeq := b.state.writerGids.members.map plugin.makeGid

def participantInfo (b : RosGraphBridge) : ParticipantEntitiesInfo :=
  ⟨plugin.makeGid b.participantGid, [b.nodeInfo plugin string256]⟩

/-- A write that fails leaves what the writer keeps. -/
def publishLocked (b : RosGraphBridge) (write : Except String Unit) :
    Except String Unit × RosGraphBridge :=
  match write with
  | .ok () => (.ok (), { b with retained := some (b.participantInfo plugin string256) })
  | .error what => (.error (plugin.writeFailed what), b)

/-- The change of the state, and then the message. -/
def changeAndPublish (b : RosGraphBridge) (change : RosGraphState → GidBytes → RosGraphState)
    (entity : Option Guid) (write : Except String Unit) : Except String Unit × RosGraphBridge :=
  match entity with
  | none => (plugin.withoutGid, b)
  | some guid =>
    { b with state := change b.state (guidToGid guid) }.publishLocked plugin string256 write

def addWriter (b : RosGraphBridge) :=
  b.changeAndPublish plugin string256 RosGraphState.addWriterGid

def removeWriter (b : RosGraphBridge) :=
  b.changeAndPublish plugin string256 RosGraphState.removeWriterGid

def addReader (b : RosGraphBridge) :=
  b.changeAndPublish plugin string256 RosGraphState.addReaderGid

def removeReader (b : RosGraphBridge) :=
  b.changeAndPublish plugin string256 RosGraphState.removeReaderGid

/-- A call holds the mutex from its first look at the state to the end. -/
def call (b : RosGraphBridge) :
    GraphCall → Except String Unit → Except String Unit × RosGraphBridge
  | .addWriter writer => b.addWriter plugin string256 writer
  | .removeWriter writer => b.removeWriter plugin string256 writer
  | .addReader reader => b.addReader plugin string256 reader
  | .removeReader reader => b.removeReader plugin string256 reader
  | .publish => b.publishLocked plugin string256

/-- Calls in the order in which they get the mutex, each with the result of its write. The bridge
stays as it is when a call throws. -/
def run (b : RosGraphBridge) (calls : List (GraphCall × Except String Unit)) : RosGraphBridge :=
  calls.foldl (fun b c => (b.call plugin string256 c.1 c.2).2) b

end RosGraphBridge

/-! ## The bridge of an adapter -/

/-- What the DDS library does for a bridge: the writer and the GUID of the participant, and the
result of each write. -/
structure GraphTransport where
  participant : Except String Guid
  write : ℕ → Except String Unit

def Plugin.buildNodeNamespace : Plugin → String → String → String
  | .cyclonedds, ns, robotName => Dds.buildNodeNamespace ns robotName
  | .fastdds, ns, robotName => "/" ++ ns ++ "/fastdds/" ++ robotName

/-- The constructor publishes. -/
def RosGraphBridge.new (transport : GraphTransport) (nodeName nodeNamespace : String) :
    Except String RosGraphBridge := do
  let participant ← transport.participant
  let b : RosGraphBridge :=
    { nodeName, nodeNamespace, participantGid := guidToGid participant }
  match b.publishLocked plugin string256 (transport.write 0) with
  | (.ok (), b) => .ok b
  | (.error what, _) => .error what

/-- What an adapter registers for ROS: a publisher, a subscriber or a server. -/
inductive Connectable where
  | publisher (writer : Option Guid)
  | subscriber (reader : Option Guid)
  | server (reader writer : Option Guid)
  deriving DecidableEq

def Connectable.connectRosGraphBridge : Connectable → List GraphCall
  | .publisher writer => [.addWriter writer]
  | .subscriber reader => [.addReader reader]
  | .server reader writer => [.addReader reader, .addWriter writer]

/-- The calls one after the other, up to the first that throws. -/
def RosGraphBridge.callAll (transport : GraphTransport) :
    RosGraphBridge → ℕ → List GraphCall → Except String RosGraphBridge
  | b, _, [] => .ok b
  | b, n, c :: calls =>
    match b.call plugin string256 c (transport.write n) with
    | (.ok (), b) => callAll transport b (n + 1) calls
    | (.error what, _) => .error what

def initRosGraphBridge (transport : GraphTransport) (nodeName ns robotName : String)
    (connectables : List Connectable) (declareToRos : Bool) :
    Except String (Option RosGraphBridge) :=
  if !declareToRos then .ok none
  else do
    let nodeNamespace := plugin.buildNodeNamespace ns robotName
    let b ← RosGraphBridge.new plugin string256 transport nodeName nodeNamespace
    let b ← b.callAll plugin string256 transport 1
      (connectables.flatMap Connectable.connectRosGraphBridge)
    .ok (some b)

end

/-! ## The identifiers of both libraries -/

theorem guidToGid_injective : Function.Injective guidToGid := by
  rintro ⟨pre₁, id₁⟩ ⟨pre₂, id₂⟩ h
  obtain ⟨rfl, rfl⟩ := Vector.append_inj h
  rfl

theorem makeRosGid_eq : makeRosGid = makeGid := by
  funext gid
  show Gid.mk _ = Gid.mk gid
  congr 1
  apply Vector.ext
  intro i hi
  simp

theorem makeGid_eq (plugin : Plugin) : plugin.makeGid = makeGid := by
  cases plugin with
  | cyclonedds => rfl
  | fastdds => exact makeRosGid_eq

theorem makeGid_injective (plugin : Plugin) : Function.Injective plugin.makeGid := by
  rw [makeGid_eq]
  exact fun _ _ h => Gid.mk.inj h

/-! ## One call -/

/-- How a call changes the identifiers of a side. -/
def GraphCall.changeOf : Side → GraphCall → Option (Roster.Change GidBytes)
  | .reader, .addReader reader => reader.map (.add ∘ guidToGid)
  | .reader, .removeReader reader => reader.map (.remove ∘ guidToGid)
  | .writer, .addWriter writer => writer.map (.add ∘ guidToGid)
  | .writer, .removeWriter writer => writer.map (.remove ∘ guidToGid)
  | _, _ => none

/-- The call gets as far as the write. -/
def GraphCall.writes : GraphCall → Bool
  | .addWriter entity | .removeWriter entity | .addReader entity | .removeReader entity =>
    entity.isSome
  | .publish => true

/-- The message of the call is written. -/
def heard (c : GraphCall × Except String Unit) : Bool := c.1.writes && c.2.isOk

namespace RosGraphBridge

variable {plugin : Plugin} {string256 : BoundedString}

/-- The bridge is that of the same node. -/
structure SameNode (b b' : RosGraphBridge) : Prop where
  nodeName : b'.nodeName = b.nodeName
  nodeNamespace : b'.nodeNamespace = b.nodeNamespace
  participantGid : b'.participantGid = b.participantGid

theorem SameNode.trans {b₁ b₂ b₃ : RosGraphBridge} (h₁ : b₁.SameNode b₂) (h₂ : b₂.SameNode b₃) :
    b₁.SameNode b₃ :=
  ⟨h₂.1.trans h₁.1, h₂.2.trans h₁.2, h₂.3.trans h₁.3⟩

/-- What a call does to a bridge; `state` is the state after it. -/
structure Called (plugin : Plugin) (string256 : BoundedString) (b : RosGraphBridge) (writes : Bool)
    (write : Except String Unit) (state : RosGraphState)
    (done : Except String Unit × RosGraphBridge) : Prop where
  node : b.SameNode done.2
  state : done.2.state = state
  retained : done.2.retained =
    if writes && write.isOk then some (done.2.participantInfo plugin string256) else b.retained
  returns : writes = true → (done.1 = .ok () ↔ write.isOk = true)

theorem publishLocked_called (b : RosGraphBridge) (write : Except String Unit) :
    b.Called plugin string256 true write b.state (b.publishLocked plugin string256 write) := by
  cases write with
  | ok _ => exact ⟨⟨rfl, rfl, rfl⟩, rfl, rfl, fun _ => iff_of_true rfl rfl⟩
  | error what =>
    exact ⟨⟨rfl, rfl, rfl⟩, rfl, rfl, fun _ => iff_of_false (by rintro ⟨⟩) Bool.false_ne_true⟩

theorem changeAndPublish_called (b : RosGraphBridge)
    (change : RosGraphState → GidBytes → RosGraphState) (entity : Option Guid)
    (write : Except String Unit) :
    b.Called plugin string256 entity.isSome write
      (entity.elim b.state (change b.state ∘ guidToGid))
      (b.changeAndPublish plugin string256 change entity write) := by
  cases entity with
  | none => exact ⟨⟨rfl, rfl, rfl⟩, rfl, rfl, fun h => absurd h Bool.false_ne_true⟩
  | some guid =>
    obtain ⟨⟨hname, hnamespace, hgid⟩, hstate, hretained, hreturns⟩ :=
      @publishLocked_called plugin string256 { b with state := change b.state (guidToGid guid) }
        write
    exact ⟨⟨hname, hnamespace, hgid⟩, hstate, hretained, hreturns⟩

/-- **One call** changes a side as it says, and publishes what the bridge then is. -/
theorem call_called (b : RosGraphBridge) (c : GraphCall) (write : Except String Unit) :
    ∃ state, b.Called plugin string256 c.writes write state (b.call plugin string256 c write) ∧
      ∀ side, state.gids side = (c.changeOf side).elim (b.state.gids side)
        (b.state.gids side).change := by
  cases c with
  | publish => exact ⟨_, publishLocked_called b write, fun side => by cases side <;> rfl⟩
  | addWriter entity =>
    refine ⟨_, changeAndPublish_called b _ entity write, fun side => ?_⟩
    cases side <;> cases entity <;> rfl
  | removeWriter entity =>
    refine ⟨_, changeAndPublish_called b _ entity write, fun side => ?_⟩
    cases side <;> cases entity <;> rfl
  | addReader entity =>
    refine ⟨_, changeAndPublish_called b _ entity write, fun side => ?_⟩
    cases side <;> cases entity <;> rfl
  | removeReader entity =>
    refine ⟨_, changeAndPublish_called b _ entity write, fun side => ?_⟩
    cases side <;> cases entity <;> rfl

/-! ## Any calls -/

variable (b : RosGraphBridge) (calls : List (GraphCall × Except String Unit))

theorem run_concat (c : GraphCall × Except String Unit) :
    b.run plugin string256 (calls ++ [c]) =
      ((b.run plugin string256 calls).call plugin string256 c.1 c.2).2 := by
  unfold run
  rw [List.foldl_concat]

theorem sameNode_run : b.SameNode (b.run plugin string256 calls) := by
  induction calls using List.reverseRecOn with
  | nil => exact ⟨rfl, rfl, rfl⟩
  | append_singleton calls c ih =>
    obtain ⟨state, hcalled, -⟩ :=
      @call_called plugin string256 (b.run plugin string256 calls) c.1 c.2
    rw [run_concat]
    exact ih.trans hcalled.node

/-- The identifiers of a side are what its calls make of them. -/
theorem gids_run (side : Side) : (b.run plugin string256 calls).state.gids side =
    (calls.filterMap fun c => c.1.changeOf side).foldl Roster.change (b.state.gids side) := by
  induction calls using List.reverseRecOn with
  | nil => rfl
  | append_singleton calls c ih =>
    obtain ⟨state, hcalled, hgids⟩ :=
      @call_called plugin string256 (b.run plugin string256 calls) c.1 c.2
    rw [run_concat, hcalled.state, hgids side, ih, List.filterMap_append, List.foldl_append]
    cases h : c.1.changeOf side with
    | none => simp [h]
    | some change => simp [h]

/-- The calls up to the last whose message is written. -/
def heardCalls (calls : List (GraphCall × Except String Unit)) :
    List (GraphCall × Except String Unit) :=
  calls.rdropWhile fun c => !heard c

theorem retained_run (h : b.retained = some (b.participantInfo plugin string256)) :
    (b.run plugin string256 calls).retained =
      some ((b.run plugin string256 (heardCalls calls)).participantInfo plugin string256) := by
  induction calls using List.reverseRecOn with
  | nil => exact h
  | append_singleton calls c ih =>
    obtain ⟨state, hcalled, -⟩ :=
      @call_called plugin string256 (b.run plugin string256 calls) c.1 c.2
    unfold heardCalls at ih ⊢
    by_cases hc : heard c = true
    · rw [List.rdropWhile_concat_neg _ _ _ (by simp [hc]), run_concat, hcalled.retained,
        if_pos (by simpa [heard] using hc)]
    · rw [List.rdropWhile_concat_pos _ _ _ (by simp [hc]), run_concat, hcalled.retained,
        if_neg (by simpa [heard] using hc), ih]

/-! ## The message -/

theorem gidSeq_nodeInfo (side : Side) :
    (b.nodeInfo plugin string256).gidSeq side = (b.state.gids side).members.map plugin.makeGid := by
  cases side <;> rfl

theorem nodup_gidSeq (side : Side) : ((b.nodeInfo plugin string256).gidSeq side).Nodup := by
  rw [gidSeq_nodeInfo]
  exact (b.state.gids side).nodup.map (makeGid_injective plugin)

theorem mem_gidSeq {side : Side} {gid : GidBytes} :
    plugin.makeGid gid ∈ (b.nodeInfo plugin string256).gidSeq side ↔ gid ∈ b.state.gids side := by
  rw [gidSeq_nodeInfo, List.mem_map_of_injective (makeGid_injective plugin)]
  rfl

variable {b}

theorem new_eq_ok {transport : GraphTransport} {nodeName nodeNamespace : String}
    (h : new plugin string256 transport nodeName nodeNamespace = .ok b) :
    (∃ participant, transport.participant = .ok participant ∧
        b.participantGid = guidToGid participant) ∧
      b.nodeName = nodeName ∧ b.nodeNamespace = nodeNamespace ∧ b.state = {} ∧
      b.retained = some (b.participantInfo plugin string256) := by
  obtain ⟨participant, hparticipant, h⟩ := bind_eq_ok.mp h
  unfold publishLocked at h
  cases hwrite : transport.write 0 with
  | error what =>
    rw [hwrite] at h
    exact absurd h (by rintro ⟨⟩)
  | ok _ =>
    rw [hwrite] at h
    obtain rfl := Except.ok.inj h
    exact ⟨⟨participant, hparticipant, rfl⟩, rfl, rfl, rfl, rfl⟩

/-- **What a ROS tool sees**, whenever it joins: the node, and of each side the entities that were
last added, as of the last call whose message could be written. A call that writes and returns is
such a call. -/
theorem retained_after_calls {transport : GraphTransport} {nodeName nodeNamespace : String}
    (h : new plugin string256 transport nodeName nodeNamespace = .ok b)
    (calls : List (GraphCall × Except String Unit)) :
    (∃ participant node, transport.participant = .ok participant ∧
      (b.run plugin string256 calls).retained =
        some ⟨plugin.makeGid (guidToGid participant), [node]⟩ ∧
      node.nodeName = string256.hold nodeName ∧
      node.nodeNamespace = string256.hold nodeNamespace ∧
      ∀ side, (node.gidSeq side).Nodup ∧ ∀ gid, plugin.makeGid gid ∈ node.gidSeq side ↔
        Roster.latestChange gid ((heardCalls calls).filterMap fun c => c.1.changeOf side) =
          some (.add gid)) ∧
    ∀ c write, c.writes = true →
      ((b.run plugin string256 calls).call plugin string256 c write).1 = .ok () →
      heardCalls (calls ++ [(c, write)]) = calls ++ [(c, write)] := by
  obtain ⟨⟨participant, hparticipant, hgid⟩, hname, hnamespace, hstate, hretained⟩ := new_eq_ok h
  refine ⟨⟨participant, (b.run plugin string256 (heardCalls calls)).nodeInfo plugin string256,
    hparticipant, ?_, ?_, ?_, fun side => ⟨nodup_gidSeq _ side, fun gid => ?_⟩⟩,
    fun c write hwrites hreturns => ?_⟩
  · rw [retained_run b calls hretained, ← hgid]
    unfold participantInfo
    rw [(sameNode_run b _).participantGid]
  · exact congrArg string256.hold ((sameNode_run b _).nodeName.trans hname)
  · exact congrArg string256.hold ((sameNode_run b _).nodeNamespace.trans hnamespace)
  · have hnone : gid ∉ b.state.gids side := by
      rw [hstate]
      cases side <;> exact Roster.notMem_empty gid
    rw [mem_gidSeq, gids_run, Roster.mem_changes_iff]
    exact or_iff_left fun hlisted => hnone hlisted.2
  · obtain ⟨state, hcalled, -⟩ :=
      @call_called plugin string256 (b.run plugin string256 calls) c write
    have hwrite := (hcalled.returns hwrites).mp hreturns
    exact List.rdropWhile_concat_neg _ _ _ (by simp [heard, hwrites, hwrite])

/-- A removal whose message is lost: the writer is still seen. -/
theorem retained_after_calls_lost :
    ∃ b node, new .fastdds asciiHead ⟨.ok (guidOf 1), fun _ => .ok ()⟩ "rx_node" "/a/fastdds/r" =
        .ok b ∧
      (b.run .fastdds asciiHead [(.addWriter (some (guidOf 2)), .ok ()),
        (.removeWriter (some (guidOf 2)), .error "timeout")]).retained =
        some ⟨makeRosGid (guidToGid (guidOf 1)), [node]⟩ ∧ node.nodeName = "rx_node" ∧
      makeRosGid (guidToGid (guidOf 2)) ∈ node.writerGidSeq := by
  obtain ⟨⟨guid, node, hguid, hretained, hname, -, hside⟩, -⟩ :=
    @retained_after_calls .fastdds asciiHead _ ⟨.ok (guidOf 1), fun _ => .ok ()⟩ "rx_node"
      "/a/fastdds/r" rfl [(.addWriter (some (guidOf 2)), .ok ()),
        (.removeWriter (some (guidOf 2)), .error "timeout")]
  obtain rfl := Except.ok.inj hguid
  have hlisted := ((hside .writer).2 (guidToGid (guidOf 2))).mpr (by decide)
  exact ⟨_, node, rfl, hretained, hname.trans (asciiHead.hold_of_le _ (by decide)), hlisted⟩

/-! ## The bridge of an adapter -/

/-- A call that does not write leaves the state. -/
theorem state_of_not_writes {c : GraphCall} (h : c.writes = false) (write : Except String Unit) :
    (b.call plugin string256 c write).2 = b := by
  cases c with
  | publish => exact absurd h (by rintro ⟨⟩)
  | addWriter entity | removeWriter entity | addReader entity | removeReader entity =>
    obtain rfl : entity = none := by simpa [GraphCall.writes] using h
    rfl

theorem callAll_eq_ok {transport : GraphTransport} (calls : List GraphCall) :
    ∀ {b b' : RosGraphBridge} {n : ℕ}, b.callAll plugin string256 transport n calls = .ok b' →
      b.retained = some (b.participantInfo plugin string256) →
      b.SameNode b' ∧ b'.retained = some (b'.participantInfo plugin string256) ∧
        ∀ side, b'.state.gids side =
          (calls.filterMap (GraphCall.changeOf side)).foldl Roster.change (b.state.gids side) := by
  induction calls with
  | nil =>
    intro b b' n h hretained
    obtain rfl := Except.ok.inj h
    exact ⟨⟨rfl, rfl, rfl⟩, hretained, fun _ => rfl⟩
  | cons c calls ih =>
    intro b b' n h hretained
    obtain ⟨state, hcalled, hgids⟩ := @call_called plugin string256 b c (transport.write n)
    unfold callAll at h
    split at h
    · rename_i after hafter
      rw [hafter] at hcalled
      have hkept : after.retained = some (after.participantInfo plugin string256) := by
        rw [hcalled.retained]
        by_cases hwrites : c.writes = true
        · rw [hwrites, (hcalled.returns hwrites).mp rfl]
          rfl
        · obtain rfl : after = b := by
            rw [← @state_of_not_writes plugin string256 b c (Bool.eq_false_iff.mpr hwrites)
              (transport.write n), hafter]
          rw [Bool.eq_false_iff.mpr hwrites, Bool.false_and, if_neg Bool.false_ne_true,
            hretained]
      obtain ⟨hnode, hlast, hside⟩ := ih h hkept
      refine ⟨hcalled.node.trans hnode, hlast, fun side => ?_⟩
      rw [hside side, hcalled.state, hgids side]
      cases hchange : c.changeOf side with
      | none => rw [List.filterMap_cons_none hchange]; rfl
      | some change => rw [List.filterMap_cons_some hchange]; rfl
    · exact absurd h (by rintro ⟨⟩)

/-- CycloneDDS goes on only with an entity that it knows. -/
theorem writes_of_callAll {transport : GraphTransport} (calls : List GraphCall) :
    ∀ {b b' : RosGraphBridge} {n : ℕ}, b.callAll .cyclonedds string256 transport n calls = .ok b' →
      ∀ c ∈ calls, c.writes = true := by
  induction calls with
  | nil => exact fun _ c hc => absurd hc List.not_mem_nil
  | cons c calls ih =>
    intro b b' n h
    unfold callAll at h
    split at h
    · rename_i after hafter
      refine List.forall_mem_cons.mpr ⟨?_, ih h⟩
      by_contra hwrites
      have hthrows : (b.call .cyclonedds string256 c (transport.write n)).1 ≠ .ok () := by
        cases c with
        | publish => exact absurd rfl hwrites
        | addWriter entity | removeWriter entity | addReader entity | removeReader entity =>
          obtain rfl : entity = none := by simpa [GraphCall.writes] using hwrites
          rintro ⟨⟩
      exact hthrows (congrArg Prod.fst hafter)
    · exact absurd h (by rintro ⟨⟩)

end RosGraphBridge

/-- The readers or the writers that are registered. -/
def Connectable.entities : Side → Connectable → List (Option Guid)
  | .reader, .subscriber reader => [reader]
  | .reader, .server reader _ => [reader]
  | .writer, .publisher writer => [writer]
  | .writer, .server _ writer => [writer]
  | _, _ => []

theorem changes_connectRosGraphBridge (side : Side) (connectables : List Connectable) :
    (connectables.flatMap Connectable.connectRosGraphBridge).filterMap (GraphCall.changeOf side) =
      ((connectables.flatMap (Connectable.entities side)).reduceOption.map guidToGid).map .add := by
  induction connectables with
  | nil => rfl
  | cons c connectables ih =>
    rw [List.flatMap_cons, List.flatMap_cons, List.filterMap_append, ih, List.reduceOption_append,
      List.map_append, List.map_append]
    congr 1
    cases side <;> rcases c with (_ | _) | (_ | _) | ⟨_ | _, _ | _⟩ <;> rfl

theorem nodup_reduceOption {entities : List (Option Guid)} (h : entities.Nodup) :
    entities.reduceOption.Nodup := by
  refine h.filterMap fun a a' guid ha ha' => ?_
  exact (Option.mem_def.mp ha).trans (Option.mem_def.mp ha').symm

theorem not_writes_of_none {side : Side} {c : Connectable} (h : none ∈ c.entities side) :
    ∃ call ∈ c.connectRosGraphBridge, call.writes = false := by
  cases side <;> cases c <;>
    simp_all [Connectable.entities, Connectable.connectRosGraphBridge, GraphCall.writes]

/-- **What a ROS tool sees of an adapter** that has been initialized: its node, and each entity that
it registered once. CycloneDDS starts only if all of them have an identifier. -/
theorem retained_of_initRosGraphBridge {plugin : Plugin} {string256 : BoundedString}
    {transport : GraphTransport} {nodeName ns robotName : String} {connectables : List Connectable}
    {bridge : Option RosGraphBridge}
    (h : initRosGraphBridge plugin string256 transport nodeName ns robotName connectables true =
      .ok bridge) :
    ∃ b participant node, bridge = some b ∧ transport.participant = .ok participant ∧
      b.retained = some ⟨plugin.makeGid (guidToGid participant), [node]⟩ ∧
      node.nodeName = string256.hold nodeName ∧
      node.nodeNamespace = string256.hold (plugin.buildNodeNamespace ns robotName) ∧
      ∀ side,
        let entities := connectables.flatMap (Connectable.entities side)
        (node.gidSeq side).Nodup ∧
        (∀ gid, plugin.makeGid gid ∈ node.gidSeq side ↔
          ∃ guid, some guid ∈ entities ∧ guidToGid guid = gid) ∧
        (∀ guid, plugin.makeGid (guidToGid guid) ∈ node.gidSeq side ↔ some guid ∈ entities) ∧
        (entities.Nodup → node.gidSeq side =
          (entities.reduceOption.map guidToGid).map plugin.makeGid) ∧
        (plugin = .cyclonedds → none ∉ entities) := by
  obtain ⟨created, hnew, h⟩ := bind_eq_ok.mp h
  obtain ⟨b, hcalls, h⟩ := bind_eq_ok.mp h
  obtain ⟨⟨participant, hparticipant, hgid⟩, hname, hnamespace, hstate, hretained⟩ :=
    RosGraphBridge.new_eq_ok hnew
  obtain ⟨hnode, hlast, hside⟩ := RosGraphBridge.callAll_eq_ok _ hcalls hretained
  refine ⟨b, participant, b.nodeInfo plugin string256, (Except.ok.inj h).symm, hparticipant, ?_,
    ?_, ?_, fun side => ?_⟩
  · rw [hlast, ← hgid, ← hnode.participantGid]
    rfl
  · exact congrArg string256.hold (hnode.nodeName.trans hname)
  · exact congrArg string256.hold (hnode.nodeNamespace.trans hnamespace)
  intro entities
  have hadded : b.state.gids side =
      (entities.reduceOption.map guidToGid).foldl Roster.add .empty := by
    rw [hside side, changes_connectRosGraphBridge, List.foldl_map, hstate]
    cases side <;> rfl
  have hmem : ∀ gid, plugin.makeGid gid ∈ (b.nodeInfo plugin string256).gidSeq side ↔
      ∃ guid, some guid ∈ entities ∧ guidToGid guid = gid := by
    intro gid
    rw [RosGraphBridge.mem_gidSeq, hadded, Roster.mem_foldl_add, List.mem_map,
      or_iff_left (Roster.notMem_empty gid)]
    simp only [List.reduceOption_mem_iff]
  refine ⟨RosGraphBridge.nodup_gidSeq b side, hmem, fun guid => ?_, fun hnodup => ?_, ?_⟩
  · rw [hmem]
    refine ⟨fun ⟨guid', hguid', he⟩ => ?_, fun hguid => ⟨guid, hguid, rfl⟩⟩
    rwa [← guidToGid_injective he]
  · rw [RosGraphBridge.gidSeq_nodeInfo, hadded, Roster.members_foldl_add _ _
      ((nodup_reduceOption hnodup).map guidToGid_injective) fun gid _ => Roster.notMem_empty gid]
    rfl
  · rintro rfl hnone
    obtain ⟨c, hc, hentity⟩ := List.mem_flatMap.mp hnone
    obtain ⟨call, hcall, hwrites⟩ := not_writes_of_none hentity
    have hall := RosGraphBridge.writes_of_callAll _ hcalls call
      (List.mem_flatMap.mpr ⟨c, hc, hcall⟩)
    exact Bool.false_ne_true (hwrites.symm.trans hall)

theorem retained_of_initRosGraphBridge_server :
    ∃ b node, initRosGraphBridge .cyclonedds asciiHead ⟨.ok (guidOf 1), fun _ => .ok ()⟩
        "service_node" "a" "r" [.server (some (guidOf 2)) (some (guidOf 3))] true = .ok (some b) ∧
      b.retained = some ⟨makeGid (guidToGid (guidOf 1)), [node]⟩ ∧
      node.nodeNamespace = "/a/cyclonedds/r" ∧
      node.readerGidSeq = [makeGid (guidToGid (guidOf 2))] ∧
      node.writerGidSeq = [makeGid (guidToGid (guidOf 3))] := by
  obtain ⟨b, guid, node, hb, hguid, hretained, -, hnamespace, hside⟩ :=
    @retained_of_initRosGraphBridge .cyclonedds asciiHead
      ⟨.ok (guidOf 1), fun _ => .ok ()⟩ "service_node" "a" "r"
      [.server (some (guidOf 2)) (some (guidOf 3))] _ rfl
  obtain rfl := Except.ok.inj hguid
  refine ⟨b, node, congrArg Except.ok hb, hretained, ?_, ?_, ?_⟩
  · exact hnamespace.trans (asciiHead.hold_of_le _ (by decide))
  · exact (hside .reader).2.2.2.1 (List.nodup_singleton _)
  · exact (hside .writer).2.2.2.1 (List.nodup_singleton _)

end EcatMiddleware.Dds
