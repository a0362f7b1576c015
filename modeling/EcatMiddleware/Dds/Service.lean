import EcatMiddleware.Lib.KeepLast
import EcatMiddleware.Lib.Run
import Mathlib.Logic.Function.Basic

/-!
# Service calls over DDS

Clients `ι` publish requests on one topic and read the replies of one server from another. Each
reply reaches the reader of every client. A call, made by a thread `κ`, publishes its request and
takes the first sample with data from its client's reader.

The readers and the writers keep their last samples; a full one drops the oldest. `replies` are the
samples of the reply writer that a client still has to get: what is left of the last ones it wrote.
-/

namespace EcatMiddleware.Dds

/-! ## State -/

/-- A sample of a reader; `none` when its `valid_data` is false. -/
abbrev Sample (α : Type) := Option α

/-- `History::KeepLast` of the readers and the writers. -/
def historyDepth : ℕ := 10

inductive Plugin where
  | cyclonedds
  | fastdds
  deriving DecidableEq, Repr

/-- Where the loop of a call stands: before `take`, or before the look at the clock. -/
inductive Phase where
  | taking
  | checking
  deriving DecidableEq, Repr

/-- One plugin looks at the clock after every sample, the other takes until there is none. -/
def Plugin.afterInvalid : Plugin → Phase
  | .cyclonedds => .checking
  | .fastdds => .taking

structure Call (ι Req : Type) where
  client : ι
  request : Req
  phase : Phase := .taking
  deriving DecidableEq, Repr

/-- What a server does with a request: `callback` sees the request and its surroundings, and
answers with the identifier of the request. -/
structure Service (Env Req Resp Id : Type) where
  callback : Env → Req → Resp
  requestId : Req → Id
  responseId : Resp → Id
  answers : ∀ env request, responseId (callback env request) = requestId request

/-- The two topics, the server, and the calls in progress. `returned` records what the calls of the
past returned, each with its request. -/
structure Network (ι κ Req Resp : Type) where
  requests : ι → List Req := fun _ => []
  serverReader : List (Sample Req) := []
  serving : Option Req := none
  replies : ι → List Resp := fun _ => []
  reader : ι → List (Sample Resp) := fun _ => []
  calls : κ → Option (Call ι Req) := fun _ => none
  returned : List (Req × Resp) := []

/-- A step of a client, of the server or of the middleware. -/
inductive Action (ι κ Env Req : Type) where
  | call (thread : κ) (client : ι) (request : Req)
  | poll (thread : κ)
  | sleep (thread : κ)
  | expire (thread : κ)
  | take
  | reply (env : Env)
  | deliverRequest (client : ι)
  | deliverReply (client : ι)
  | noticeServer
  | notice (client : ι)
  deriving DecidableEq, Repr

/-! ## Steps -/

section Step

variable {ι κ Env Req Resp Id : Type} [DecidableEq ι] [DecidableEq κ]

namespace Network

/-- `call`: the request is written, then the loop starts. -/
def call (s : Network ι κ Req Resp) (thread : κ) (client : ι) (request : Req) :
    Option (Network ι κ Req Resp) :=
  match s.calls thread with
  | some _ => none
  | none => some { s with
      requests := Function.update s.requests client
        (KeepLast.push historyDepth (s.requests client) request)
      calls := Function.update s.calls thread (some { client, request }) }

/-- One `take` of a call: the first sample with data is what the call returns. -/
def poll (plugin : Plugin) (s : Network ι κ Req Resp) (thread : κ) :
    Option (Network ι κ Req Resp) :=
  match s.calls thread with
  | some { client, request, phase := .taking } =>
    match s.reader client with
    | [] => some { s with
        calls := Function.update s.calls thread (some { client, request, phase := .checking }) }
    | none :: rest => some { s with
        reader := Function.update s.reader client rest
        calls := Function.update s.calls thread
          (some { client, request, phase := plugin.afterInvalid }) }
    | some response :: rest => some { s with
        reader := Function.update s.reader client rest
        calls := Function.update s.calls thread none
        returned := s.returned ++ [(request, response)] }
  | _ => none

/-- There is time left: the loop goes round. -/
def sleep (s : Network ι κ Req Resp) (thread : κ) : Option (Network ι κ Req Resp) :=
  match s.calls thread with
  | some { client, request, phase := .checking } => some { s with
      calls := Function.update s.calls thread (some { client, request }) }
  | _ => none

/-- The timeout is over: the call returns nothing. -/
def expire (s : Network ι κ Req Resp) (thread : κ) : Option (Network ι κ Req Resp) :=
  match s.calls thread with
  | some { phase := .checking, .. } => some { s with
      calls := Function.update s.calls thread none }
  | _ => none

/-- `spin_once` of the server takes a sample; one without data is skipped. -/
def take (s : Network ι κ Req Resp) : Option (Network ι κ Req Resp) :=
  match s.serving, s.serverReader with
  | none, sample :: rest => some { s with serverReader := rest, serving := sample }
  | _, _ => none

/-- `spin_once` of the server writes the response, which goes to every client. -/
def reply (service : Service Env Req Resp Id) (s : Network ι κ Req Resp) (env : Env) :
    Option (Network ι κ Req Resp) :=
  match s.serving with
  | none => none
  | some request => some { s with
      serving := none
      replies := fun client =>
        KeepLast.push historyDepth (s.replies client) (service.callback env request) }

def deliverRequest (s : Network ι κ Req Resp) (client : ι) : Option (Network ι κ Req Resp) :=
  match s.requests client with
  | [] => none
  | request :: rest => some { s with
      requests := Function.update s.requests client rest
      serverReader := KeepLast.push historyDepth s.serverReader (some request) }

def deliverReply (s : Network ι κ Req Resp) (client : ι) : Option (Network ι κ Req Resp) :=
  match s.replies client with
  | [] => none
  | response :: rest => some { s with
      replies := Function.update s.replies client rest
      reader := Function.update s.reader client
        (KeepLast.push historyDepth (s.reader client) (some response)) }

/-- A sample without data: a writer has come or gone. -/
def noticeServer (s : Network ι κ Req Resp) : Network ι κ Req Resp :=
  { s with serverReader := KeepLast.push historyDepth s.serverReader none }

def notice (s : Network ι κ Req Resp) (client : ι) : Network ι κ Req Resp :=
  { s with
    reader := Function.update s.reader client
      (KeepLast.push historyDepth (s.reader client) none) }

end Network

def step (plugin : Plugin) (service : Service Env Req Resp Id) (s : Network ι κ Req Resp) :
    Action ι κ Env Req → Option (Network ι κ Req Resp)
  | .call thread client request => s.call thread client request
  | .poll thread => s.poll plugin thread
  | .sleep thread => s.sleep thread
  | .expire thread => s.expire thread
  | .take => s.take
  | .reply env => s.reply service env
  | .deliverRequest client => s.deliverRequest client
  | .deliverReply client => s.deliverReply client
  | .noticeServer => some s.noticeServer
  | .notice client => some (s.notice client)

end Step

end EcatMiddleware.Dds
