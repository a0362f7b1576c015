import EcatMiddleware.Data.Repl
import Mathlib.Logic.Basic

/-!
# The REPL service

The command server of the middleware. A request is one ZeroMQ transaction with the master, and its
result says whether the master executed the command, refused it, or may have done either.

* `executeZmq_outcome`: the four ways a transaction ends, with what its socket did.
* `processRequest_classified`: the result tells these ways apart, and the plain reply is an ACK
  exactly when the result is a success.
-/

namespace EcatMiddleware.Core

/-! ## Configuration -/

inductive ServiceTransport where
  | shm
  | zmq
  deriving DecidableEq, Repr

structure ServiceConfig where
  transport : ServiceTransport := .zmq
  commandUri : String := "tcp://127.0.0.1:5555"
  timeoutMs : UInt32 := 1000
  deriving DecidableEq, Repr

/-- The configurations a server is built with. -/
structure ServiceConfig.Valid (config : ServiceConfig) : Prop where
  transport : config.transport = .zmq
  commandUri : config.commandUri ≠ ""
  timeoutMs : 1 ≤ config.timeoutMs.toNat ∧ config.timeoutMs.toNat ≤ 60000

/-- The server. `started` is the only thing that changes after its construction. -/
structure AdapterServiceServer where
  config : ServiceConfig
  valid : config.Valid
  started : Bool := false

/-- The constructor; `std::invalid_argument` carries its text. -/
def AdapterServiceServer.new (config : ServiceConfig := {}) :
    Except String AdapterServiceServer :=
  if ht : config.transport ≠ .zmq then
    .error "REPL SHM service is unsupported by the v3 master; use zmq"
  else if hc : config.commandUri = "" ∨ config.timeoutMs = 0 ∨ config.timeoutMs > 60000 then
    .error "REPL: provide URI and timeout between 1 and 60000 ms"
  else .ok
    { config
      valid :=
        { transport := not_not.mp ht
          commandUri := fun h => hc (.inl h)
          timeoutMs := by
            obtain ⟨-, h⟩ := not_or.mp hc
            obtain ⟨h₀, h₁⟩ := not_or.mp h
            exact ⟨Nat.one_le_iff_ne_zero.mpr fun h => h₀ (UInt32.toNat_inj.mp h),
              UInt32.le_iff_toNat_le.mp (UInt32.not_lt.mp h₁)⟩ } }

namespace AdapterServiceServer

/-- `start`: local readiness only. -/
def start (server : AdapterServiceServer) : AdapterServiceServer × Bool :=
  let started := server.config.transport == .zmq
  ({ server with started }, started)

def close (server : AdapterServiceServer) : AdapterServiceServer := { server with started := false }

def ready (server : AdapterServiceServer) : Bool :=
  server.started && server.config.transport == .zmq

/-- `is_ok`. -/
def isOk (server : AdapterServiceServer) : Bool := server.ready

@[simp] theorem ready_eq (server : AdapterServiceServer) : server.ready = server.started := by
  simp [ready, server.valid.transport]

@[simp] theorem start_ready (server : AdapterServiceServer) : server.start.1.ready := by
  simp [start, server.valid.transport]

@[simp] theorem close_ready (server : AdapterServiceServer) : server.close.ready = false := by
  simp [close]

end AdapterServiceServer

/-! ## Socket -/

abbrev Bytes := List UInt8

/-- `what()` of a `zmq::error_t`. -/
abbrev ZmqError := String

/-- What one transaction meets: each call may throw, `send` may refuse, `recv` may time out. -/
structure ZmqBehaviour where
  context : Except ZmqError Unit := .ok ()
  socket : Except ZmqError Unit := .ok ()
  setLinger : Int32 → Except ZmqError Unit := fun _ => .ok ()
  setSndtimeo : Int32 → Except ZmqError Unit := fun _ => .ok ()
  setRcvtimeo : Int32 → Except ZmqError Unit := fun _ => .ok ()
  connect : String → Except ZmqError Unit := fun _ => .ok ()
  send : List Bytes → Except ZmqError Bool
  recv : Except ZmqError (Option Bytes)

/-- The generated Protobuf code. -/
structure ProtobufLib where
  isInitialized : Pb.ReplCmd → Bool
  serializeAsString : Pb.ReplCmd → Bytes
  parseFromArray : Bytes → Int32 → Option Pb.CmdReply

/-- What the socket took from and gave to the server. -/
inductive SocketEvent where
  | handed (frames : List Bytes)
  | received (incoming : Bytes)
  deriving DecidableEq, Repr

/-- The flag that the exception handler reads, and the trace of the socket. -/
structure Transaction where
  sent : Bool := false
  events : List SocketEvent := []
  deriving DecidableEq, Repr

/-- The `try` block: an exception keeps the flag as it was set. -/
abbrev TryZmq := ExceptT ZmqError (StateM Transaction)

namespace ZmqBehaviour

def sendMultipart (zmq : ZmqBehaviour) (frames : List Bytes) : TryZmq Bool := do
  let accepted ← zmq.send frames
  if accepted then
    modify fun t => { t with events := t.events ++ [.handed frames] }
  return accepted

def receive (zmq : ZmqBehaviour) : TryZmq (Option Bytes) := do
  let incoming ← zmq.recv
  if let some bytes := incoming then
    modify fun t => { t with events := t.events ++ [.received bytes] }
  return incoming

/-- A fresh `REQ` socket, connected to the master. -/
def openSocket (zmq : ZmqBehaviour) (config : ServiceConfig) : Except ZmqError Unit := do
  zmq.context
  zmq.socket
  zmq.setLinger 0
  zmq.setSndtimeo config.timeoutMs.toInt32
  zmq.setRcvtimeo config.timeoutMs.toInt32
  zmq.connect config.commandUri

end ZmqBehaviour

/-! ## Requests -/

structure ServiceResult where
  success : Bool := false
  outcomeUnknown : Bool := false
  message : String := ""
  reply : Pb.CmdReply := {}
  deriving DecidableEq, Repr

/-- The first frame, which the master routes by. -/
def routingHeader (type : Pb.CmdType) : String :=
  if type = .ecatMasterCmd ∨ type = .foeMaster then "MASTER_CMD" else "ESC_CMD"

/-- `addstr` of the routing header, then of the body. -/
def outgoing (lib : ProtobufLib) (request : Pb.ReplCmd) : List Bytes :=
  [(routingHeader request.type).toUTF8.data.toList, lib.serializeAsString request]

/-- The reply gets the request's header, when the request has one. -/
def withHeader (request : Pb.ReplCmd) (reply : Pb.CmdReply) : Pb.CmdReply :=
  match request.header? with
  | some header => { reply with header? := some header }
  | none => reply

/-- What is made of a message of the master. -/
def judge (lib : ProtobufLib) (request : Pb.ReplCmd) (incoming : Bytes) : ServiceResult :=
  let malformed : ServiceResult :=
    { success := false
      outcomeUnknown := true
      message := "Malformed or unexpected master reply; command outcome unknown" }
  match lib.parseFromArray incoming (Int32.ofNat incoming.length) with
  | none => malformed
  | some reply =>
    if reply.cmdType ≠ request.type ∨ (reply.type ≠ .ack ∧ reply.type ≠ .nack) then malformed
    else
      { success := reply.type == .ack
        outcomeUnknown := false
        message := reply.msg
        reply := withHeader request reply }

/-- The `try` block of `execute_zmq`. -/
def exchange (lib : ProtobufLib) (zmq : ZmqBehaviour) (config : ServiceConfig)
    (request : Pb.ReplCmd) : TryZmq ServiceResult := do
  zmq.openSocket config
  if !(← zmq.sendMultipart (outgoing lib request)) then
    return { success := false, outcomeUnknown := false, message := "ZeroMQ send failed" }
  modify fun t => { t with sent := true }
  match ← zmq.receive with
  | none =>
    return {
      success := false
      outcomeUnknown := true
      message := "Master reply timeout; command outcome unknown; no automatic retry" }
  | some incoming => return judge lib request incoming

def executeZmq (lib : ProtobufLib) (zmq : ZmqBehaviour) (config : ServiceConfig)
    (request : Pb.ReplCmd) : StateM Transaction ServiceResult := do
  if !lib.isInitialized request then
    return { success := false, outcomeUnknown := false, message := "Uninitialized REPL command" }
  match ← (exchange lib zmq config request).run with
  | .ok result => return result
  | .error what =>
    return { success := false, outcomeUnknown := (← get).sent, message := "ZeroMQ: " ++ what }

def makeNack (request : Pb.ReplCmd) (message : String) : Pb.CmdReply :=
  withHeader request { type := .nack, cmdType := request.type, msg := message }

/-- The plain reply that a result is reduced to. -/
def replyOfResult (request : Pb.ReplCmd) (result : ServiceResult) : Pb.CmdReply :=
  if result.reply.type = .ack ∨ result.reply.type = .nack then result.reply
  else makeNack request result.message

namespace AdapterServiceServer

variable (server : AdapterServiceServer) (lib : ProtobufLib) (zmq : ZmqBehaviour)
  (request : Pb.ReplCmd)

/-- `process_request_result`, with the trace of its transaction. -/
def processRequestResult : ServiceResult × Transaction :=
  if !server.ready then
    ({ success := false, outcomeUnknown := false, message := "REPL service is not started" }, {})
  else (executeZmq lib zmq server.config request).run {}

def processRequest : Pb.CmdReply :=
  replyOfResult request (server.processRequestResult lib zmq request).1

end AdapterServiceServer

/-! ## Outcomes of a transaction -/

section Outcome

variable (lib : ProtobufLib) (request : Pb.ReplCmd)

/-- The message is an ACK or a NACK for this type of command. -/
structure Accepts (incoming : Bytes) (reply : Pb.CmdReply) : Prop where
  parsed : lib.parseFromArray incoming (Int32.ofNat incoming.length) = some reply
  cmdType : reply.cmdType = request.type
  type : reply.type = .ack ∨ reply.type = .nack

/-- The command went to the socket. -/
def Handed (t : Transaction) : Prop := ∃ frames, .handed frames ∈ t.events

/-- The master answered the command with `reply`. -/
def Answered (t : Transaction) (reply : Pb.CmdReply) : Prop :=
  ∃ incoming, .received incoming ∈ t.events ∧ Accepts lib request incoming reply

/-- How a transaction ends: its result, and what its socket did. -/
inductive Outcome : ServiceResult → Transaction → Prop where
  | notHanded (message : String) : Outcome { message } {}
  | unanswered (message : String) :
      Outcome { outcomeUnknown := true, message }
        { sent := true, events := [.handed (outgoing lib request)] }
  | rejected (message : String) (incoming : Bytes)
      (none_accepted : ∀ reply, ¬ Accepts lib request incoming reply) :
      Outcome { outcomeUnknown := true, message }
        { sent := true, events := [.handed (outgoing lib request), .received incoming] }
  | answered (incoming : Bytes) (reply : Pb.CmdReply)
      (accepted : Accepts lib request incoming reply) :
      Outcome
        { success := reply.type == .ack
          message := reply.msg
          reply := withHeader request reply }
        { sent := true, events := [.handed (outgoing lib request), .received incoming] }

variable {lib request}

theorem Accepts.unique {incoming : Bytes} {reply reply' : Pb.CmdReply}
    (h : Accepts lib request incoming reply) (h' : Accepts lib request incoming reply') :
    reply = reply' := by
  have heq := h.parsed.symm.trans h'.parsed
  exact Option.some.inj heq

@[simp] theorem withHeader_type (reply : Pb.CmdReply) :
    (withHeader request reply).type = reply.type := by
  unfold withHeader
  split <;> rfl

@[simp] theorem withHeader_cmdType (reply : Pb.CmdReply) :
    (withHeader request reply).cmdType = reply.cmdType := by
  unfold withHeader
  split <;> rfl

theorem withHeader_header {header : Pb.Header} (h : request.header? = some header)
    (reply : Pb.CmdReply) : (withHeader request reply).header? = some header := by
  simp [withHeader, h]

theorem judge_of_accepts {incoming : Bytes} {reply : Pb.CmdReply}
    (h : Accepts lib request incoming reply) :
    judge lib request incoming =
      { success := reply.type == .ack
        message := reply.msg
        reply := withHeader request reply } := by
  have hc : ¬ (reply.cmdType ≠ request.type ∨ (reply.type ≠ .ack ∧ reply.type ≠ .nack)) := by
    rintro (hne | ⟨hack, hnack⟩)
    · exact hne h.cmdType
    · exact h.type.elim hack hnack
  simp only [judge, h.parsed, if_neg hc]

theorem judge_of_not_accepts {incoming : Bytes}
    (h : ∀ reply, ¬ Accepts lib request incoming reply) :
    judge lib request incoming =
      { outcomeUnknown := true
        message := "Malformed or unexpected master reply; command outcome unknown" } := by
  cases hparse : lib.parseFromArray incoming (Int32.ofNat incoming.length) with
  | none => simp only [judge, hparse]
  | some reply =>
    have hc : reply.cmdType ≠ request.type ∨ (reply.type ≠ .ack ∧ reply.type ≠ .nack) := by
      refine Decidable.byContradiction fun hc => ?_
      rw [not_or, not_not, not_and_or, not_not, not_not] at hc
      exact h reply ⟨hparse, hc.1, hc.2⟩
    simp only [judge, hparse, if_pos hc]

/-- A message of the master ends the transaction. -/
theorem judge_outcome (incoming : Bytes) :
    Outcome lib request (judge lib request incoming)
      { sent := true, events := [.handed (outgoing lib request), .received incoming] } := by
  by_cases h : ∃ reply, Accepts lib request incoming reply
  · obtain ⟨reply, h⟩ := h
    rw [judge_of_accepts h]
    exact .answered incoming reply h
  · have h' := not_exists.mp h
    rw [judge_of_not_accepts h']
    exact .rejected _ incoming h'

end Outcome

/-- The `try` block, call by call. -/
theorem exchange_run (lib : ProtobufLib) (zmq : ZmqBehaviour) (config : ServiceConfig)
    (request : Pb.ReplCmd) :
    (exchange lib zmq config request).run.run {} =
      match zmq.openSocket config, zmq.send (outgoing lib request), zmq.recv with
      | .error what, _, _ => (.error what, {})
      | .ok _, .error what, _ => (.error what, {})
      | .ok _, .ok false, _ => (.ok { message := "ZeroMQ send failed" }, {})
      | .ok _, .ok true, .error what =>
        (.error what, { sent := true, events := [.handed (outgoing lib request)] })
      | .ok _, .ok true, .ok none =>
        (.ok
          { outcomeUnknown := true
            message := "Master reply timeout; command outcome unknown; no automatic retry" },
          { sent := true, events := [.handed (outgoing lib request)] })
      | .ok _, .ok true, .ok (some incoming) =>
        (.ok (judge lib request incoming),
          { sent := true, events := [.handed (outgoing lib request), .received incoming] }) := by
  unfold exchange ZmqBehaviour.sendMultipart ZmqBehaviour.receive
  cases zmq.openSocket config with
  | error what => rfl
  | ok _ =>
    cases zmq.send (outgoing lib request) with
    | error what => rfl
    | ok accepted =>
      cases accepted with
      | false => rfl
      | true =>
        cases zmq.recv with
        | error what => rfl
        | ok incoming => cases incoming <;> rfl

theorem executeZmq_run (lib : ProtobufLib) (zmq : ZmqBehaviour) (config : ServiceConfig)
    (request : Pb.ReplCmd) :
    (executeZmq lib zmq config request).run {} =
      if lib.isInitialized request then
        match (exchange lib zmq config request).run.run {} with
        | (.ok result, t) => (result, t)
        | (.error what, t) => ({ outcomeUnknown := t.sent, message := "ZeroMQ: " ++ what }, t)
      else ({ message := "Uninitialized REPL command" }, {}) := by
  unfold executeZmq
  cases lib.isInitialized request with
  | false => rfl
  | true =>
    rcases h : (exchange lib zmq config request).run.run {} with ⟨_ | result, t⟩
    all_goals
      simp only [Bool.not_true, Bool.false_eq_true, if_false, if_true, StateT.run_bind, h]
      rfl

/-- Every transaction ends in one of the four ways. -/
theorem executeZmq_outcome (lib : ProtobufLib) (zmq : ZmqBehaviour) (config : ServiceConfig)
    (request : Pb.ReplCmd) :
    Outcome lib request ((executeZmq lib zmq config request).run {}).1
      ((executeZmq lib zmq config request).run {}).2 := by
  rw [executeZmq_run]
  split
  · rw [exchange_run]
    rcases zmq.openSocket config with _ | _ | _
    · exact .notHanded _
    rcases zmq.send (outgoing lib request) with _ | _ | _
    · exact .notHanded _
    · exact .notHanded _
    rcases zmq.recv with _ | _ | incoming
    · exact .unanswered _
    · exact .unanswered _
    · exact judge_outcome incoming
  · exact .notHanded _

/-! ## Results -/

section Results

variable (lib : ProtobufLib) (request : Pb.ReplCmd)

/-- The result and the trace of a request agree on what the master did with the command. -/
structure Classified (result : ServiceResult) (t : Transaction) : Prop where
  success : result.success = true → ∃ reply, Answered lib request t reply ∧ reply.type = .ack
  outcomeUnknown : result.outcomeUnknown = true ↔
    Handed t ∧ ¬ ∃ reply, Answered lib request t reply
  notExecuted : result.success = false → result.outcomeUnknown = false →
    ¬ Handed t ∨ ∃ reply, Answered lib request t reply ∧ reply.type = .nack

/-- The plain reply says of a result whether it is a success. -/
structure Reports (result : ServiceResult) (reply : Pb.CmdReply) : Prop where
  type : reply.type = .ack ∨ reply.type = .nack
  cmdType : reply.cmdType = request.type
  header : ∀ header, request.header? = some header → reply.header? = some header
  ack : reply.type = .ack ↔ result.success = true

variable {lib request}

theorem not_handed_nil : ¬ Handed {} := by
  rintro ⟨frames, h⟩
  exact absurd h List.not_mem_nil

theorem not_answered_of_none_received {t : Transaction}
    (h : ∀ incoming, .received incoming ∉ t.events) : ¬ ∃ reply, Answered lib request t reply := by
  rintro ⟨reply, incoming, hmem, -⟩
  exact h incoming hmem

theorem answered_iff {frames : List Bytes} {incoming : Bytes} {reply : Pb.CmdReply} :
    Answered lib request { sent := true, events := [.handed frames, .received incoming] } reply ↔
      Accepts lib request incoming reply := by
  simp [Answered]

theorem handed_cons {sent : Bool} {frames : List Bytes} {events : List SocketEvent} :
    Handed { sent, events := .handed frames :: events } := ⟨frames, List.mem_cons_self⟩

theorem Outcome.answered_unique {result : ServiceResult} {t : Transaction}
    (h : Outcome lib request result t) {reply reply' : Pb.CmdReply}
    (ha : Answered lib request t reply) (ha' : Answered lib request t reply') : reply = reply' := by
  cases h with
  | notHanded message => exact absurd ⟨reply, ha⟩ (not_answered_of_none_received (by simp))
  | unanswered message => exact absurd ⟨reply, ha⟩ (not_answered_of_none_received (by simp))
  | rejected message incoming => exact (answered_iff.mp ha).unique (answered_iff.mp ha')
  | answered incoming => exact (answered_iff.mp ha).unique (answered_iff.mp ha')

/-- Success is an ACK of the master. -/
theorem Outcome.success_iff {result : ServiceResult} {t : Transaction}
    (h : Outcome lib request result t) :
    result.success = true ↔ ∃ reply, Answered lib request t reply ∧ reply.type = .ack := by
  cases h with
  | notHanded message =>
    refine ⟨nofun, fun ⟨reply, ha, _⟩ => ?_⟩
    exact absurd ⟨reply, ha⟩ (not_answered_of_none_received (by simp))
  | unanswered message =>
    refine ⟨nofun, fun ⟨reply, ha, _⟩ => ?_⟩
    exact absurd ⟨reply, ha⟩ (not_answered_of_none_received (by simp))
  | rejected message incoming none_accepted =>
    exact ⟨nofun, fun ⟨reply, ha, _⟩ => absurd (answered_iff.mp ha) (none_accepted reply)⟩
  | answered incoming reply accepted =>
    refine ⟨fun h => ⟨reply, answered_iff.mpr accepted, beq_iff_eq.mp h⟩, ?_⟩
    rintro ⟨reply', ha, hack⟩
    rw [accepted.unique (answered_iff.mp ha)]
    exact beq_iff_eq.mpr hack

/-- The outcome is unknown when the command was handed over and not answered. -/
theorem Outcome.outcomeUnknown_iff {result : ServiceResult} {t : Transaction}
    (h : Outcome lib request result t) :
    result.outcomeUnknown = true ↔ Handed t ∧ ¬ ∃ reply, Answered lib request t reply := by
  cases h with
  | notHanded message => exact ⟨nofun, fun h => absurd h.1 not_handed_nil⟩
  | unanswered message =>
    exact ⟨fun _ => ⟨handed_cons, not_answered_of_none_received (by simp)⟩, fun _ => rfl⟩
  | rejected message incoming none_accepted =>
    refine ⟨fun _ => ⟨handed_cons, ?_⟩, fun _ => rfl⟩
    rintro ⟨reply, ha⟩
    exact none_accepted reply (answered_iff.mp ha)
  | answered incoming reply accepted =>
    exact ⟨nofun, fun h => absurd ⟨reply, answered_iff.mpr accepted⟩ h.2⟩

theorem Outcome.classified {result : ServiceResult} {t : Transaction}
    (h : Outcome lib request result t) : Classified lib request result t where
  success := h.success_iff.mp
  outcomeUnknown := h.outcomeUnknown_iff
  notExecuted hsuccess hunknown := by
    by_cases hhanded : Handed t
    · have hknown := mt h.outcomeUnknown_iff.mpr (Bool.eq_false_iff.mp hunknown)
      rw [not_and, not_not] at hknown
      obtain ⟨reply, hanswered⟩ := hknown hhanded
      have hack : reply.type ≠ .ack := fun hack =>
        Bool.eq_false_iff.mp hsuccess (h.success_iff.mpr ⟨reply, hanswered, hack⟩)
      obtain ⟨incoming, hmem, accepted⟩ := hanswered
      exact .inr ⟨reply, ⟨incoming, hmem, accepted⟩, accepted.type.resolve_left hack⟩
    · exact .inl hhanded

/-- The plain reply is the master's answer, or a NACK of the server when there is none. -/
theorem Outcome.reply_cases {result : ServiceResult} {t : Transaction}
    (h : Outcome lib request result t) :
    (∃ reply, Answered lib request t reply ∧
        replyOfResult request result = withHeader request reply) ∨
      (¬ ∃ reply, Answered lib request t reply) ∧
        replyOfResult request result = makeNack request result.message := by
  cases h with
  | notHanded message => exact .inr ⟨not_answered_of_none_received (by simp), rfl⟩
  | unanswered message => exact .inr ⟨not_answered_of_none_received (by simp), rfl⟩
  | rejected message incoming none_accepted =>
    refine .inr ⟨?_, rfl⟩
    rintro ⟨reply, h⟩
    exact none_accepted reply (answered_iff.mp h)
  | answered incoming reply accepted =>
    refine .inl ⟨reply, answered_iff.mpr accepted, ?_⟩
    have htype : (withHeader request reply).type = .ack ∨
        (withHeader request reply).type = .nack := by
      rw [withHeader_type]
      exact accepted.type
    exact if_pos htype

theorem Outcome.reports {result : ServiceResult} {t : Transaction}
    (h : Outcome lib request result t) : Reports request result (replyOfResult request result) := by
  rcases h.reply_cases with ⟨reply, hanswered, heq⟩ | ⟨hnone, heq⟩
  · have htype : reply.type = .ack ↔ result.success = true := by
      rw [h.success_iff]
      refine ⟨fun hack => ⟨reply, hanswered, hack⟩, ?_⟩
      rintro ⟨reply', hanswered', hack⟩
      rwa [h.answered_unique hanswered hanswered']
    obtain ⟨incoming, -, accepted⟩ := hanswered
    rw [heq]
    exact
      { type := by rw [withHeader_type]; exact accepted.type
        cmdType := (withHeader_cmdType reply).trans accepted.cmdType
        header := fun _ hheader => withHeader_header hheader reply
        ack := by rw [withHeader_type]; exact htype }
  · have hsuccess : result.success ≠ true := by
      rw [Ne, h.success_iff]
      rintro ⟨reply, hanswered, -⟩
      exact hnone ⟨reply, hanswered⟩
    rw [heq]
    exact
      { type := .inr (withHeader_type _)
        cmdType := withHeader_cmdType _
        header := fun _ hheader => withHeader_header hheader _
        ack := by simp [makeNack, hsuccess] }

end Results

namespace AdapterServiceServer

variable (server : AdapterServiceServer) (lib : ProtobufLib) (zmq : ZmqBehaviour)
  (request : Pb.ReplCmd)

theorem processRequestResult_outcome :
    Outcome lib request (server.processRequestResult lib zmq request).1
      (server.processRequestResult lib zmq request).2 := by
  unfold processRequestResult
  split
  · exact .notHanded _
  · exact executeZmq_outcome lib zmq server.config request

/-- The master answers the request with `reply`: everything that has to go well before does. -/
structure MasterReplies (reply : Pb.CmdReply) : Prop where
  started : server.started = true
  isInitialized : lib.isInitialized request = true
  openSocket : zmq.openSocket server.config = .ok ()
  send : zmq.send (outgoing lib request) = .ok true
  recv : ∃ incoming, zmq.recv = .ok (some incoming) ∧ Accepts lib request incoming reply

/-- The socket takes the request: everything that has to go well before does. -/
structure SocketTakes : Prop where
  started : server.started = true
  isInitialized : lib.isInitialized request = true
  openSocket : zmq.openSocket server.config = .ok ()
  send : zmq.send (outgoing lib request) = .ok true

/-- A request of which the socket has any trace was taken by it. -/
theorem socketTakes_of_mem {event : SocketEvent}
    (h : event ∈ (server.processRequestResult lib zmq request).2.events) :
    server.SocketTakes lib zmq request := by
  cases hstarted : server.started with
  | false => simp [processRequestResult, hstarted] at h
  | true =>
    cases hinit : lib.isInitialized request with
    | false => simp [processRequestResult, hstarted, executeZmq_run, hinit] at h
    | true =>
      simp only [processRequestResult, ready_eq, hstarted, Bool.not_true, Bool.false_eq_true,
        if_false, executeZmq_run, hinit, if_true, exchange_run] at h
      rcases hopen : zmq.openSocket server.config with _ | _ | _
      · simp [hopen] at h
      rcases hsend : zmq.send (outgoing lib request) with _ | _ | _
      · simp [hopen, hsend] at h
      · simp [hopen, hsend] at h
      exact ⟨hstarted, hinit, hopen, hsend⟩

/-- What the socket does with a request that it takes. -/
theorem events_of_socketTakes (h : server.SocketTakes lib zmq request) :
    (server.processRequestResult lib zmq request).2.events = .handed (outgoing lib request) ::
      match zmq.recv with
      | .ok (some incoming) => [.received incoming]
      | _ => [] := by
  obtain ⟨hstarted, hinit, hopen, hsend⟩ := h
  simp only [processRequestResult, ready_eq, hstarted, Bool.not_true, Bool.false_eq_true, if_false,
    executeZmq_run, hinit, if_true, exchange_run, hopen, hsend]
  rcases zmq.recv with _ | _ | _ <;> rfl

/-- The trace of a request has it handed over exactly when the socket takes it. -/
theorem handed_iff_socketTakes :
    Handed (server.processRequestResult lib zmq request).2 ↔
      server.SocketTakes lib zmq request := by
  constructor
  · rintro ⟨frames, hmem⟩
    exact server.socketTakes_of_mem lib zmq request hmem
  · intro h
    refine ⟨outgoing lib request, ?_⟩
    rw [server.events_of_socketTakes lib zmq request h]
    exact List.mem_cons_self

/-- The trace of a request has an answer exactly when the master gives one. -/
theorem answered_iff_masterReplies (reply : Pb.CmdReply) :
    Answered lib request (server.processRequestResult lib zmq request).2 reply ↔
      server.MasterReplies lib zmq request reply := by
  constructor
  · rintro ⟨incoming, hmem, accepted⟩
    have h := server.socketTakes_of_mem lib zmq request hmem
    rw [server.events_of_socketTakes lib zmq request h] at hmem
    refine ⟨h.started, h.isInitialized, h.openSocket, h.send, incoming, ?_, accepted⟩
    rcases hrecv : zmq.recv with _ | _ | incoming'
    · simp [hrecv] at hmem
    · simp [hrecv] at hmem
    · obtain rfl : incoming = incoming' := by simpa [hrecv] using hmem
      rfl
  · rintro ⟨hstarted, hinit, hopen, hsend, incoming, hrecv, accepted⟩
    refine ⟨incoming, ?_, accepted⟩
    rw [server.events_of_socketTakes lib zmq request ⟨hstarted, hinit, hopen, hsend⟩, hrecv]
    exact List.mem_cons_of_mem _ List.mem_cons_self

/-- **Every outcome is classified.** The detailed result and the plain reply of every request agree
on what the trace of its transaction says; and what the trace says is what the socket and the
master did. -/
theorem processRequest_classified :
    Classified lib request (server.processRequestResult lib zmq request).1
        (server.processRequestResult lib zmq request).2 ∧
      Reports request (server.processRequestResult lib zmq request).1
        (server.processRequest lib zmq request) ∧
      (Handed (server.processRequestResult lib zmq request).2 ↔
        server.SocketTakes lib zmq request) ∧
      ∀ reply, Answered lib request (server.processRequestResult lib zmq request).2 reply ↔
        server.MasterReplies lib zmq request reply :=
  ⟨(server.processRequestResult_outcome lib zmq request).classified,
    (server.processRequestResult_outcome lib zmq request).reports,
    server.handed_iff_socketTakes lib zmq request,
    server.answered_iff_masterReplies lib zmq request⟩

end AdapterServiceServer

end EcatMiddleware.Core
