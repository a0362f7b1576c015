import EcatMiddleware.Core.AdapterService
import EcatMiddleware.Dds.ReplConverter

/-!
# The DDS command service

A DDS request becomes a Protobuf request, the service of the core handles it, and its reply becomes
the DDS response. The identifier of the request goes around the core; its header would have to go
through it.

* `header_of_converted`: the core gives a converted header back.
* `processRequestDds_header`: the header of the response is the master's, or empty.
* `processRequestDds_iff`: when the response keeps the header of its request.
-/

namespace EcatMiddleware.Dds

open EcatMiddleware.Core

section

variable (server : AdapterServiceServer) (lib : ProtobufLib) (typeNumber : Pb.ReplyType → UInt8)
  (zmq : ZmqBehaviour) (request : Idl.ReplCmdRequest)

/-- `DDSAdapterService::process_request_dds`. -/
def processRequestDds : Idl.ReplCmdResponse :=
  let pbReq := fromDdsRequest request {}
  let pbResp := server.processRequest lib zmq pbReq
  let resp := responseFromProtobuf typeNumber pbResp {}
  { resp with requestId := request.requestId }

/-- The master answers the converted request with `reply`. -/
def MasterReplied (reply : Pb.CmdReply) : Prop :=
  server.MasterReplies lib zmq (fromDdsRequest request {}) reply

/-- What a client expects of the response to its request. -/
structure Answers (response : Idl.ReplCmdResponse) : Prop where
  requestId : response.requestId = request.requestId
  success : response.success = true ↔
    ∃ reply, MasterReplied server lib zmq request reply ∧ reply.type = .ack
  header : response.header = request.request.header

/-- The header of the request is the one that the master sends, or empty if it sends none. -/
def HeaderSentBack : Prop :=
  (∃ reply, MasterReplied server lib zmq request reply ∧
      request.request.header = headerFromReply reply) ∨
    (¬ ∃ reply, MasterReplied server lib zmq request reply) ∧ request.request.header = {}

theorem processRequestDds_requestId :
    (processRequestDds server lib typeNumber zmq request).requestId = request.requestId := rfl

theorem MasterReplied.unique {reply reply' : Pb.CmdReply}
    (h : MasterReplied server lib zmq request reply)
    (h' : MasterReplied server lib zmq request reply') : reply = reply' := by
  have houtcome := server.processRequestResult_outcome lib zmq (fromDdsRequest request {})
  exact houtcome.answered_unique ((server.answered_iff_masterReplies lib zmq _ _).mpr h)
    ((server.answered_iff_masterReplies lib zmq _ _).mpr h')

theorem processRequestDds_success :
    (processRequestDds server lib typeNumber zmq request).success = true ↔
      ∃ reply, MasterReplied server lib zmq request reply ∧ reply.type = .ack := by
  have houtcome := server.processRequestResult_outcome lib zmq (fromDdsRequest request {})
  have hack : (server.processRequest lib zmq (fromDdsRequest request {})).type = .ack ↔
      (server.processRequestResult lib zmq (fromDdsRequest request {})).1.success = true :=
    houtcome.reports.ack
  have hsuccess : (processRequestDds server lib typeNumber zmq request).success =
      ((server.processRequest lib zmq (fromDdsRequest request {})).type == .ack) := rfl
  rw [hsuccess, beq_iff_eq, hack, houtcome.success_iff]
  simp only [server.answered_iff_masterReplies lib zmq]
  rfl

/-- A request without a header leaves the master's in place. -/
theorem withHeader_of_none {request : Pb.ReplCmd} (h : request.header? = none)
    (reply : Pb.CmdReply) : withHeader request reply = reply := by
  simp [withHeader, h]

/-- A request that had its header converted too would get it back. -/
theorem header_of_converted {pbReq : Pb.ReplCmd} {header : Idl.Header} {pbHeader : Pb.Header}
    (h : pbReq.header? = some (fromDdsHeader header pbHeader)) :
    headerFromReply (server.processRequest lib zmq pbReq) = header := by
  have hreports := (server.processRequestResult_outcome lib zmq pbReq).reports
  exact headerFromReply_fromDdsHeader header pbHeader _ (hreports.header _ h)

/-- **The header of the response** is not the request's: the conversion drops it. -/
theorem processRequestDds_header :
    (∃ reply, MasterReplied server lib zmq request reply ∧
        (processRequestDds server lib typeNumber zmq request).header = headerFromReply reply) ∨
      (¬ ∃ reply, MasterReplied server lib zmq request reply) ∧
        (processRequestDds server lib typeNumber zmq request).header = {} := by
  have houtcome := server.processRequestResult_outcome lib zmq (fromDdsRequest request {})
  have hheader : (processRequestDds server lib typeNumber zmq request).header =
      headerFromReply (server.processRequest lib zmq (fromDdsRequest request {})) := rfl
  have hnone := fromDdsRequest_header request {}
  rw [hheader]
  unfold AdapterServiceServer.processRequest
  have hcases := houtcome.reply_cases
  simp only [server.answered_iff_masterReplies lib zmq] at hcases
  rcases hcases with ⟨reply, hanswered, heq⟩ | ⟨hunanswered, heq⟩
  · rw [heq, withHeader_of_none hnone]
    exact .inl ⟨reply, hanswered, rfl⟩
  · rw [heq, makeNack, withHeader_of_none hnone]
    exact .inr ⟨hunanswered, rfl⟩

end

/-- **Header preservation.** A response answers its request exactly when the request has the header
that the master sends back. -/
theorem processRequestDds_iff (server : AdapterServiceServer) (lib : ProtobufLib)
    (typeNumber : Pb.ReplyType → UInt8) (zmq : ZmqBehaviour) (request : Idl.ReplCmdRequest) :
    Answers server lib zmq request (processRequestDds server lib typeNumber zmq request) ↔
      HeaderSentBack server lib zmq request := by
  have hheader := processRequestDds_header server lib typeNumber zmq request
  constructor
  · intro h
    rcases hheader with ⟨reply, hreplied, heq⟩ | ⟨hnone, heq⟩
    · exact .inl ⟨reply, hreplied, h.header.symm.trans heq⟩
    · exact .inr ⟨hnone, h.header.symm.trans heq⟩
  · intro h
    refine ⟨processRequestDds_requestId server lib typeNumber zmq request,
      processRequestDds_success server lib typeNumber zmq request, ?_⟩
    rcases hheader, h with
      ⟨⟨reply, hreplied, heq⟩ | ⟨hnone, heq⟩, ⟨reply', hreplied', heq'⟩ | ⟨hnone', heq'⟩⟩
    · rw [heq, heq', hreplied.unique server lib zmq request hreplied']
    · exact absurd ⟨reply, hreplied⟩ hnone'
    · exact absurd ⟨reply', hreplied'⟩ hnone
    · rw [heq, heq']

/-- A master that takes every command and answers with an empty message. -/
def ackingMaster : ZmqBehaviour where
  send _ := .ok true
  recv := .ok (some [])

/-- Every message reads as the ACK of a control command, without a header. -/
def ackingLib : ProtobufLib where
  isInitialized _ := true
  serializeAsString _ := []
  parseFromArray _ _ := some { type := .ack, cmdType := .ctrlCmd }

/-- A start command for board 42. -/
def startRequest : Idl.ReplCmdRequest where
  requestId := { guid := 1, seq := 7 }
  request :=
    { type := 2
      header := { frameId := "client-456", stamp := { sec := 12, nanosec := 34 } }
      ctrlCmd := { type := 11, boardId := 42 } }

/-- The server with the default configuration. -/
def defaultServer : AdapterServiceServer where
  config := {}
  valid := { transport := rfl, commandUri := by decide, timeoutMs := by decide }

/-- The command is acknowledged, and the response has lost the client's header. -/
theorem ack_loses_header :
    let response := processRequestDds defaultServer.start.1 ackingLib (fun _ => 0) ackingMaster
      startRequest
    response.success = true ∧
      ¬ Answers defaultServer.start.1 ackingLib ackingMaster startRequest response := by
  intro response
  refine ⟨rfl, fun h => ?_⟩
  have hheader : response.header = {} := rfl
  have hne : ({} : Idl.Header) ≠ startRequest.request.header := by decide
  exact hne (hheader.symm.trans h.header)

end EcatMiddleware.Dds
