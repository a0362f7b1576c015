import EcatMiddleware.Dds.ChannelMessages
import EcatMiddleware.Dds.JointStates
import EcatMiddleware.Paths.StateMessage

/-!
# The rows of a message

The aggregated messages are parallel sequences, filled by one conversion for each payload and by a
push of the name after it. Read across, they are rows.

* `AddsRow`: a case of a `switch`, with the push of the name, adds one row.
* `feed_rows`, `appendLoop_rows`: the rows after any number of PDOs.
* `rows_aligned`: the sequences of a message are as long as its names, and the entries at one index
  are those of one PDO.
-/

namespace EcatMiddleware.Paths

open EcatMiddleware.Core Dds FoldExcept Pb Zenoh

/-! ## Rows -/

/-- What one valve adds to a message. -/
structure ValveRow where
  name : String
  encoderPosition : F32
  force : F32
  pressure1 : F32
  pressure2 : F32
  current : F32
  temperature : F32
  fault : UInt32
  rtt : UInt32
  opIdxAck : UInt32
  aux : F32
  currentRefFb : F32
  positionRefFb : F32
  forceRefFb : F32

def valveRow (name : String) (pdo : EcSlavePdo) : ValveRow :=
  let pb := pdo.hyqkneeRxPdo?.getD {}
  { name := name
    encoderPosition := pb.encoderPosition
    force := pb.force
    pressure1 := pb.pressure1
    pressure2 := pb.pressure2
    current := pb.current
    temperature := pb.temperature
    fault := pb.fault
    rtt := pb.rtt
    opIdxAck := pb.opIdxAck
    aux := pb.aux
    currentRefFb := pb.currentRefFb
    positionRefFb := pb.positionRefFb
    forceRefFb := pb.forceRefFb }

def valveMessage (header : Idl.Header) (rows : List ValveRow) : Idl.Valve where
  header := header
  name := rows.map ValveRow.name
  encoderPosition := rows.map ValveRow.encoderPosition
  force := rows.map ValveRow.force
  pressure1 := rows.map ValveRow.pressure1
  pressure2 := rows.map ValveRow.pressure2
  current := rows.map ValveRow.current
  temperature := rows.map ValveRow.temperature
  fault := rows.map ValveRow.fault
  rtt := rows.map ValveRow.rtt
  opIdxAck := rows.map ValveRow.opIdxAck
  aux := rows.map ValveRow.aux
  currentRefFb := rows.map ValveRow.currentRefFb
  positionRefFb := rows.map ValveRow.positionRefFb
  forceRefFb := rows.map ValveRow.forceRefFb

theorem valveMessage_concat (header : Idl.Header) (rows : List ValveRow) (name : String)
    (pdo : EcSlavePdo) :
    AggregateMessage.pushName name
        (valveFromHyqKnee (pdo.hyqkneeRxPdo?.getD {}) (valveMessage header rows)) =
      valveMessage header (rows ++ [valveRow name pdo]) := by
  simp only [valveMessage, List.map_append]
  rfl

/-- What one gripper adds to a message. -/
structure GripperRow where
  name : String
  statusword : UInt32
  motorPos : F32
  linkPos : F32
  demandedPos : F32
  demandedVel : F32
  errorCode : UInt32

def gripperRow (name : String) (pdo : EcSlavePdo) : GripperRow :=
  let pb := pdo.gripperRxPdo?.getD {}
  { name := name
    statusword := pb.statusword
    motorPos := pb.motorPos
    linkPos := pb.linkPos
    demandedPos := pb.demandedPos
    demandedVel := pb.demandedVel
    errorCode := pb.errorCode }

def gripperMessage (header : Idl.Header) (rows : List GripperRow) : Idl.Gripper where
  header := header
  name := rows.map GripperRow.name
  statusword := rows.map GripperRow.statusword
  motorPos := rows.map GripperRow.motorPos
  linkPos := rows.map GripperRow.linkPos
  demandedPos := rows.map GripperRow.demandedPos
  demandedVel := rows.map GripperRow.demandedVel
  errorCode := rows.map GripperRow.errorCode

theorem gripperMessage_concat (header : Idl.Header) (rows : List GripperRow) (name : String)
    (pdo : EcSlavePdo) :
    AggregateMessage.pushName name
        (gripperFromGripper (pdo.gripperRxPdo?.getD {}) (gripperMessage header rows)) =
      gripperMessage header (rows ++ [gripperRow name pdo]) := by
  simp only [gripperMessage, List.map_append]
  rfl

/-- The row of a joint, which to the serializer may also be a valve. -/
def serializedJointRow (num : Numeric) (name : String) (pdo : EcSlavePdo) : JointRow :=
  match pdo.type with
  | .rxHyqKnee => ⟨name, 0, 0, num.floatToDouble (pdo.hyqkneeRxPdo?.getD {}).force⟩
  | _ => jointRow num name pdo

/-- A case of the serializer, which has all cases of the publisher. -/
theorem jointMessage_concat (num : Numeric) {pdo : EcSlavePdo} {convert}
    (h : serializeJointStateSwitch num pdo = some convert) (header : Idl.Header)
    (rows : List JointRow) (name : String) :
    ∃ msg, convert (jointMessage header rows) = .ok msg ∧
      AggregateMessage.pushName name msg =
        jointMessage header (rows ++ [serializedJointRow num name pdo]) := by
  unfold serializeJointStateSwitch at h
  unfold serializedJointRow jointRow jointMessage
  simp only [List.map_append]
  cases htype : pdo.type <;> rw [htype] at h <;> first
    | (obtain rfl := Option.some.inj h; exact ⟨_, rfl, rfl⟩)
    | exact absurd h (by simp)

/-- The messages of parallel sequences whose conversions do not raise. -/
inductive RowTopic where
  | jointState
  | valve
  | gripper
  deriving DecidableEq, Repr

namespace RowTopic

def Msg : RowTopic → Type
  | jointState => Idl.JointState
  | valve => Idl.Valve
  | gripper => Idl.Gripper

instance : (topic : RowTopic) → AggregateMessage topic.Msg
  | jointState => inferInstanceAs (AggregateMessage Idl.JointState)
  | valve => inferInstanceAs (AggregateMessage Idl.Valve)
  | gripper => inferInstanceAs (AggregateMessage Idl.Gripper)

def Row : RowTopic → Type
  | jointState => JointRow
  | valve => ValveRow
  | gripper => GripperRow

/-- The `switch` of the DDS publisher. -/
def switch (num : Numeric) : (topic : RowTopic) → Switch topic.Msg
  | jointState => jointStateSwitch num
  | valve => valveSwitch
  | gripper => gripperSwitch

/-- The `switch` of the Zenoh serializer. -/
def serializeSwitch (num : Numeric) : (topic : RowTopic) → Switch topic.Msg
  | jointState => serializeJointStateSwitch num
  | valve => serializeValveSwitch
  | gripper => serializeGripperSwitch

/-- The row of a PDO under a name. -/
def row (num : Numeric) : (topic : RowTopic) → String → EcSlavePdo → topic.Row
  | jointState => serializedJointRow num
  | valve => valveRow
  | gripper => gripperRow

/-- The message with the given rows. -/
def ofRows : (topic : RowTopic) → Idl.Header → List topic.Row → topic.Msg
  | jointState => jointMessage
  | valve => valveMessage
  | gripper => gripperMessage

/-- The names that a message lists. -/
def name : (topic : RowTopic) → topic.Msg → List String
  | jointState => Idl.JointState.name
  | valve => Idl.Valve.name
  | gripper => Idl.Gripper.name

/-- The lengths of the other sequences. -/
def lengths : (topic : RowTopic) → topic.Msg → List ℕ
  | jointState => fun msg : Idl.JointState =>
    [msg.position.length, msg.velocity.length, msg.effort.length]
  | valve => ChannelPublisher.valve.lengths
  | gripper => ChannelPublisher.gripper.lengths

/-- The entries at one index, when every sequence has one. -/
def entry : (topic : RowTopic) → topic.Msg → ℕ → Option topic.Row
  | jointState => fun (msg : Idl.JointState) i => do
    let name ← msg.name[i]?
    let position ← msg.position[i]?
    let velocity ← msg.velocity[i]?
    let effort ← msg.effort[i]?
    some (⟨name, position, velocity, effort⟩ : JointRow)
  | valve => fun (msg : Idl.Valve) i => do
    let name ← msg.name[i]?
    let encoderPosition ← msg.encoderPosition[i]?
    let force ← msg.force[i]?
    let pressure1 ← msg.pressure1[i]?
    let pressure2 ← msg.pressure2[i]?
    let current ← msg.current[i]?
    let temperature ← msg.temperature[i]?
    let fault ← msg.fault[i]?
    let rtt ← msg.rtt[i]?
    let opIdxAck ← msg.opIdxAck[i]?
    let aux ← msg.aux[i]?
    let currentRefFb ← msg.currentRefFb[i]?
    let positionRefFb ← msg.positionRefFb[i]?
    let forceRefFb ← msg.forceRefFb[i]?
    some (⟨name, encoderPosition, force, pressure1, pressure2, current, temperature, fault, rtt,
      opIdxAck, aux, currentRefFb, positionRefFb, forceRefFb⟩ : ValveRow)
  | gripper => fun (msg : Idl.Gripper) i => do
    let name ← msg.name[i]?
    let statusword ← msg.statusword[i]?
    let motorPos ← msg.motorPos[i]?
    let linkPos ← msg.linkPos[i]?
    let demandedPos ← msg.demandedPos[i]?
    let demandedVel ← msg.demandedVel[i]?
    let errorCode ← msg.errorCode[i]?
    some (⟨name, statusword, motorPos, linkPos, demandedPos, demandedVel, errorCode⟩ : GripperRow)

variable (topic : RowTopic)

/-- `msg` lists `rows`: every sequence is as long as the names, and the entries at an index are the
row there. -/
structure Lists (msg : topic.Msg) (rows : List topic.Row) : Prop where
  lengths : ∀ n ∈ topic.lengths msg, n = (topic.name msg).length
  entry : ∀ i, topic.entry msg i = rows[i]?

theorem lengths_ofRows (header : Idl.Header) (rows : List topic.Row) :
    ∀ n ∈ topic.lengths (topic.ofRows header rows), n = rows.length := by
  cases topic with
  | jointState =>
    change List JointRow at rows
    show ∀ n ∈ _, n = (rows : List JointRow).length
    simp [lengths, ofRows, jointMessage]
  | valve =>
    change List ValveRow at rows
    show ∀ n ∈ _, n = (rows : List ValveRow).length
    simp [lengths, ChannelPublisher.lengths, ofRows, valveMessage]
  | gripper =>
    change List GripperRow at rows
    show ∀ n ∈ _, n = (rows : List GripperRow).length
    simp [lengths, ChannelPublisher.lengths, ofRows, gripperMessage]

theorem length_name_ofRows (header : Idl.Header) (rows : List topic.Row) :
    (topic.name (topic.ofRows header rows)).length = rows.length := by
  cases topic with
  | jointState => exact List.length_map _
  | valve => exact List.length_map _
  | gripper => exact List.length_map _

theorem entry_ofRows (header : Idl.Header) (rows : List topic.Row) (i : ℕ) :
    topic.entry (topic.ofRows header rows) i = rows[i]? := by
  cases topic with
  | jointState =>
    change List JointRow at rows
    show _ = (rows : List JointRow)[i]?
    simp only [entry, ofRows, jointMessage, List.getElem?_map]
    cases rows[i]? <;> rfl
  | valve =>
    change List ValveRow at rows
    show _ = (rows : List ValveRow)[i]?
    simp only [entry, ofRows, valveMessage, List.getElem?_map]
    cases rows[i]? <;> rfl
  | gripper =>
    change List GripperRow at rows
    show _ = (rows : List GripperRow)[i]?
    simp only [entry, ofRows, gripperMessage, List.getElem?_map]
    cases rows[i]? <;> rfl

theorem lists_ofRows (header : Idl.Header) (rows : List topic.Row) :
    topic.Lists (topic.ofRows header rows) rows where
  lengths n hn := by
    rw [topic.length_name_ofRows]
    exact topic.lengths_ofRows header rows n hn
  entry := topic.entry_ofRows header rows

@[simp] theorem setHeader_ofRows (header header' : Idl.Header) (rows : List topic.Row) :
    AggregateMessage.setHeader header (topic.ofRows header' rows) = topic.ofRows header rows := by
  cases topic <;> rfl

theorem ofRows_nil : topic.ofRows {} [] = AggregateMessage.empty := by cases topic <;> rfl

/-! ## One case of a switch -/

variable (num : Numeric)

/-- A case of `switch` does not raise, and adds one row with the push of the name. -/
def AddsRow (switch : Switch topic.Msg) : Prop :=
  ∀ pdo convert, switch pdo = some convert → ∀ header rows name, ∃ msg,
    convert (topic.ofRows header rows) = .ok msg ∧
      AggregateMessage.pushName name msg = topic.ofRows header (rows ++ [topic.row num name pdo])

theorem addsRow_serializeSwitch : topic.AddsRow num (topic.serializeSwitch num) := by
  intro pdo convert h header rows name
  cases topic with
  | jointState => exact jointMessage_concat num h header rows name
  | valve =>
    change serializeValveSwitch pdo = some convert at h
    unfold serializeValveSwitch at h
    split_ifs at h
    obtain rfl := Option.some.inj h
    exact ⟨_, rfl, valveMessage_concat header rows name pdo⟩
  | gripper =>
    change serializeGripperSwitch pdo = some convert at h
    unfold serializeGripperSwitch at h
    split_ifs at h
    obtain rfl := Option.some.inj h
    exact ⟨_, rfl, gripperMessage_concat header rows name pdo⟩

/-- What the publisher accepts, the serializer converts in the same way. -/
theorem serializeSwitch_of_switch {pdo : EcSlavePdo} {convert}
    (h : topic.switch num pdo = some convert) : topic.serializeSwitch num pdo = some convert := by
  cases topic with
  | jointState =>
    change jointStateSwitch num pdo = some convert at h
    show serializeJointStateSwitch num pdo = some convert
    unfold jointStateSwitch at h
    unfold serializeJointStateSwitch
    cases htype : pdo.type <;> rw [htype] at h <;> first
      | exact h
      | exact absurd h (by simp)
  | valve =>
    change valveSwitch pdo = some convert at h
    show serializeValveSwitch pdo = some convert
    rw [serializeValveSwitch_eq]
    exact h
  | gripper =>
    change gripperSwitch pdo = some convert at h
    show serializeGripperSwitch pdo = some convert
    rw [serializeGripperSwitch_eq]
    exact h

theorem addsRow_switch : topic.AddsRow num (topic.switch num) :=
  fun pdo convert h => topic.addsRow_serializeSwitch num pdo convert
    (topic.serializeSwitch_of_switch num h)

/-! ## Any number of PDOs -/

section

variable {topic num} {switch : Switch topic.Msg}

/-- **One PDO.** What `process` rejects leaves the message as it was. -/
theorem process_rows (hswitch : topic.AddsRow num switch) (names : IdNames) (clock : Clock)
    (pdo : EcSlavePdo) (header : Idl.Header) (rows : List topic.Row) :
    ∃ header', process switch names clock pdo (topic.ofRows header rows) =
      .ok ((switch pdo).isSome, topic.ofRows header' (rows ++
        if (switch pdo).isSome then [topic.row num (deviceName names pdo) pdo] else [])) := by
  cases hcase : switch pdo with
  | none =>
    refine ⟨header, ?_⟩
    rw [process_of_none _ names hcase]
    simp
  | some convert =>
    obtain ⟨msg, hconvert, hpush⟩ := hswitch pdo convert hcase header rows (deviceName names pdo)
    refine ⟨headerFromProtobuf clock pdo, ?_⟩
    rw [process_of_some _ names hcase, hconvert]
    show Except.ok (true, AggregateMessage.setHeader (headerFromProtobuf clock pdo)
      (AggregateMessage.pushName (deviceName names pdo) msg)) = _
    rw [hpush, topic.setHeader_ofRows]
    rfl

/-- **The publisher.** -/
theorem feed_rows (hswitch : topic.AddsRow num switch) (names : IdNames)
    (fed : List (Clock × EcSlavePdo)) (p : PdoPublisher topic.Msg) :
    ∃ p' header, PdoPublisher.feed switch names fed p = .ok p' ∧
      p'.message = topic.ofRows header
        (((fed.map Prod.snd).filter fun pdo => (switch pdo).isSome).map fun pdo =>
          topic.row num (deviceName names pdo) pdo) := by
  obtain ⟨p', hok, header, hmsg⟩ := foldlM_inv
    (fun p f => PdoPublisher.consume switch names f.1 f.2 p)
    (fun q done => ∃ header, q.message = topic.ofRows header
      (((done.map Prod.snd).filter fun pdo => (switch pdo).isSome).map fun pdo =>
        topic.row num (deviceName names pdo) pdo))
    (l := fed) (fun f _ q done hq => by
      obtain ⟨header, hmsg⟩ := hq
      obtain ⟨header', hok⟩ := process_rows hswitch names f.1 f.2 header
        (((done.map Prod.snd).filter fun pdo => (switch pdo).isSome).map fun pdo =>
          topic.row num (deviceName names pdo) pdo)
      rw [← hmsg] at hok
      refine ⟨_, by rw [PdoPublisher.consume, hok]; rfl, header', ?_⟩
      rw [List.map_append, List.filter_append, List.map_append]
      cases hsome : (switch f.2).isSome <;> simp [hsome])
    (s := p.beginCycle) ⟨{}, topic.ofRows_nil.symm⟩
  exact ⟨p', header, hok, hmsg⟩

/-- **The loop of the serializer**, where it does not return early. -/
theorem appendLoop_rows (hswitch : topic.AddsRow num switch) {pdos : List EcSlavePdo}
    {msg : topic.Msg} :
    ∀ {rows : List topic.Row},
      appendLoop switch pdos (topic.ofRows {} rows) = .ok (some msg) →
      msg = topic.ofRows {} (rows ++ pdos.map fun pdo => topic.row num pdo.header.strId pdo) := by
  induction pdos with
  | nil =>
    intro rows h
    rw [List.map_nil, List.append_nil]
    exact (Option.some.inj (Except.ok.inj h)).symm
  | cons pdo pdos ih =>
    intro rows h
    obtain ⟨-, hnone⟩ | ⟨convert, converted, -, hcase, hconvert, h⟩ := appendLoop_cons switch h
    · exact absurd hnone (by rintro ⟨⟩)
    · obtain ⟨msg', hok, hpush⟩ := hswitch pdo convert hcase {} rows pdo.header.strId
      rw [hconvert] at hok
      rw [Except.ok.inj hok, hpush] at h
      rw [ih h, List.map_cons, List.append_assoc, List.singleton_append]

end

end RowTopic

/-! ## Both plugins -/

/-- **The sequences of a message are aligned.** After any cycle of the publisher, and after the loop
of the serializer over any list that it accepts, all of them are as long as the names, and the
entries at `i` are those of the PDO accepted as number `i`; a PDO that `process` rejects changes
nothing. -/
theorem rows_aligned (topic : RowTopic) (num : Numeric) :
    (∀ (names : IdNames) (fed : List (Clock × EcSlavePdo)) (p : PdoPublisher topic.Msg),
      ∃ p', PdoPublisher.feed (topic.switch num) names fed p = .ok p' ∧
        topic.Lists p'.message
          (((fed.map Prod.snd).filter fun pdo => (topic.switch num pdo).isSome).map fun pdo =>
            topic.row num (deviceName names pdo) pdo)) ∧
    (∀ (pdos : List EcSlavePdo) (msg : topic.Msg),
      appendLoop (topic.serializeSwitch num) pdos AggregateMessage.empty = .ok (some msg) →
      topic.Lists msg (pdos.map fun pdo => topic.row num pdo.header.strId pdo)) ∧
    ∀ (names : IdNames) (clock : Clock) (pdo : EcSlavePdo) (msg msg' : topic.Msg)
      (accepted : Bool), process (topic.switch num) names clock pdo msg = .ok (accepted, msg') →
      accepted = (topic.switch num pdo).isSome ∧ (accepted = false → msg' = msg) := by
  refine ⟨fun names fed p => ?_, fun pdos msg h => ?_,
    fun names clock pdo msg msg' accepted h => ?_⟩
  · obtain ⟨p', header, hok, hmsg⟩ := RowTopic.feed_rows (topic.addsRow_switch num) names fed p
    refine ⟨p', hok, ?_⟩
    rw [hmsg]
    exact topic.lists_ofRows header _
  · rw [← topic.ofRows_nil] at h
    rw [RowTopic.appendLoop_rows (topic.addsRow_serializeSwitch num) h, List.nil_append]
    exact topic.lists_ofRows {} _
  · cases hcase : topic.switch num pdo with
    | none =>
      rw [process_of_none _ names hcase] at h
      obtain ⟨rfl, rfl⟩ := Prod.mk.inj (Except.ok.inj h)
      exact ⟨rfl, fun _ => rfl⟩
    | some convert =>
      rw [process_of_some _ names hcase] at h
      obtain ⟨converted, -, h⟩ := bind_eq_ok.mp h
      obtain ⟨rfl, -⟩ := Prod.mk.inj (Except.ok.inj h)
      exact ⟨rfl, fun hfalse => absurd hfalse (by decide)⟩

/-- Two valves with a gripper between them, which the valve publisher rejects. -/
theorem rows_aligned_valves :
    let valve (index : Int32) (force : F32) : EcSlavePdo :=
      { type := .rxHyqKnee, header? := some { index? := some index, stamp? := some ⟨1, 0⟩ },
        hyqkneeRxPdo? := some { force := force } }
    let fed : List (Clock × EcSlavePdo) :=
      [(⟨0, 1⟩, valve 4 ⟨1⟩), (⟨0, 2⟩, { type := .rxGripper }), (⟨0, 3⟩, valve 7 ⟨2⟩)]
    ∃ p', PdoPublisher.feed (RowTopic.valve.switch ⟨fun _ => 0, fun _ => 0, fun _ => 0⟩) ∅ fed
        .new = .ok p' ∧
      (∀ n ∈ RowTopic.valve.lengths p'.message, n = (RowTopic.valve.name p'.message).length) ∧
      RowTopic.valve.entry p'.message 1 = some (valveRow (deviceName ∅ (valve 7 ⟨2⟩))
        (valve 7 ⟨2⟩)) := by
  intro valve fed
  obtain ⟨p', hok, hlists⟩ :=
    (rows_aligned .valve ⟨fun _ => 0, fun _ => 0, fun _ => 0⟩).1 ∅ fed .new
  exact ⟨p', hok, hlists.lengths, hlists.entry 1⟩

end EcatMiddleware.Paths
