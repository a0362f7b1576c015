import EcatMiddleware.Dds.AdapterService
import EcatMiddleware.Dds.Service

/-!
# Correlation of service calls

Whose response a call returns. A call looks at no identifier, so it has to be alone when it starts.

* `step_outstanding`, `step_calling`, `step_returned`: what a step can do to the calls.
* `calls_return_own_response`: calls that start alone return their own response.
* `late_reply_returned`: another call may return the response to an earlier request.
-/

set_option linter.unusedSectionVars false

namespace EcatMiddleware.Dds

open EcatMiddleware.Core

/-! ## What a step can do -/

section Inversion

variable {ι κ Env Req Resp Id : Type} [DecidableEq ι] [DecidableEq κ]
  (plugin : Plugin) (service : Service Env Req Resp Id)

/-- A reply with this identifier is, or may yet come, in front of the client. -/
inductive Outstanding (s : Network ι κ Req Resp) (client : ι) : Id → Prop where
  | requested (author : ι) (request : Req) (h : request ∈ s.requests author) :
      Outstanding s client (service.requestId request)
  | queued (request : Req) (h : some request ∈ s.serverReader) :
      Outstanding s client (service.requestId request)
  | served (request : Req) (h : s.serving = some request) :
      Outstanding s client (service.requestId request)
  | replied (response : Resp) (h : response ∈ s.replies client) :
      Outstanding s client (service.responseId response)
  | arrived (response : Resp) (h : some response ∈ s.reader client) :
      Outstanding s client (service.responseId response)

variable {plugin service}

theorem mem_of_mem_update_push {α : Type} {f : ι → List α} {i j : ι} {depth : ℕ} {x y : α}
    (h : x ∈ Function.update f i (KeepLast.push depth (f i) y) j) :
    x ∈ f j ∨ j = i ∧ x = y := by
  by_cases hj : j = i
  · subst hj
    rw [Function.update_self] at h
    exact (KeepLast.mem_of_mem_push h).imp_right fun hx => ⟨rfl, hx⟩
  · rw [Function.update_of_ne hj] at h
    exact .inl h

theorem mem_of_mem_update_tail {α : Type} {f : ι → List α} {i j : ι} {x y : α} {rest : List α}
    (hf : f i = y :: rest) (h : x ∈ Function.update f i rest j) : x ∈ f j := by
  by_cases hj : j = i
  · subst hj
    rw [Function.update_self] at h
    rw [hf]
    exact List.mem_cons_of_mem _ h
  · rwa [Function.update_of_ne hj] at h

/-! ### Identifiers -/

variable {s s' : Network ι κ Req Resp} {client : ι} {ident : Id}

theorem outstanding_call {thread : κ} {author : ι} {request : Req}
    (h : s.call thread author request = some s') (hid : Outstanding service s' client ident) :
    Outstanding service s client ident ∨ ident = service.requestId request := by
  unfold Network.call at h
  split at h
  · cases h
  cases h
  cases hid with
  | requested d q hq =>
    rcases mem_of_mem_update_push hq with hq | ⟨-, rfl⟩
    · exact .inl (.requested d q hq)
    · exact .inr rfl
  | queued q hq => exact .inl (.queued q hq)
  | served q hq => exact .inl (.served q hq)
  | replied p hp => exact .inl (.replied p hp)
  | arrived p hp => exact .inl (.arrived p hp)

/-- A step that only takes from the readers makes nothing outstanding. -/
theorem Outstanding.of_reader (hid : Outstanding service s' client ident)
    (hrequests : s'.requests = s.requests)
    (hserverReader : ∀ q, some q ∈ s'.serverReader → some q ∈ s.serverReader)
    (hserving : s'.serving = s.serving) (hreplies : s'.replies = s.replies)
    (hreader : ∀ p, some p ∈ s'.reader client → some p ∈ s.reader client) :
    Outstanding service s client ident := by
  cases hid with
  | requested d q hq => exact .requested d q (hrequests ▸ hq)
  | queued q hq => exact .queued q (hserverReader q hq)
  | served q hq => exact .served q (hserving ▸ hq)
  | replied p hp => exact .replied p (hreplies ▸ hp)
  | arrived p hp => exact .arrived p (hreader p hp)

theorem outstanding_poll {thread : κ} (h : s.poll plugin thread = some s')
    (hid : Outstanding service s' client ident) : Outstanding service s client ident := by
  unfold Network.poll at h
  split at h
  · split at h
    · cases h
      exact hid.of_reader rfl (fun _ h => h) rfl rfl (fun _ h => h)
    · next hreader =>
      cases h
      exact hid.of_reader rfl (fun _ h => h) rfl rfl fun _ => mem_of_mem_update_tail hreader
    · next hreader =>
      cases h
      exact hid.of_reader rfl (fun _ h => h) rfl rfl fun _ => mem_of_mem_update_tail hreader
  · cases h

theorem outstanding_sleep {thread : κ} (h : s.sleep thread = some s')
    (hid : Outstanding service s' client ident) : Outstanding service s client ident := by
  unfold Network.sleep at h
  split at h
  · cases h
    exact hid.of_reader rfl (fun _ h => h) rfl rfl (fun _ h => h)
  · cases h

theorem outstanding_expire {thread : κ} (h : s.expire thread = some s')
    (hid : Outstanding service s' client ident) : Outstanding service s client ident := by
  unfold Network.expire at h
  split at h
  · cases h
    exact hid.of_reader rfl (fun _ h => h) rfl rfl (fun _ h => h)
  · cases h

theorem outstanding_take (h : s.take = some s') (hid : Outstanding service s' client ident) :
    Outstanding service s client ident := by
  unfold Network.take at h
  split at h
  · next sample rest _ hreader =>
    cases h
    cases hid with
    | requested d q hq => exact .requested d q hq
    | queued q hq => exact .queued q (by rw [hreader]; exact List.mem_cons_of_mem _ hq)
    | served q hq => exact .queued q (by rw [hreader, ← show sample = some q from hq]; simp)
    | replied p hp => exact .replied p hp
    | arrived p hp => exact .arrived p hp
  · cases h

theorem outstanding_reply {env : Env} (h : s.reply service env = some s')
    (hid : Outstanding service s' client ident) : Outstanding service s client ident := by
  unfold Network.reply at h
  split at h
  · cases h
  · next request hserving =>
    cases h
    cases hid with
    | requested d q hq => exact .requested d q hq
    | queued q hq => exact .queued q hq
    | served q hq => cases hq
    | replied p hp =>
      rcases KeepLast.mem_of_mem_push hp with hp | rfl
      · exact .replied p hp
      · -- the callback answers with the identifier of the request that was served
        rw [service.answers]
        exact .served request hserving
    | arrived p hp => exact .arrived p hp

theorem outstanding_deliverRequest {author : ι} (h : s.deliverRequest author = some s')
    (hid : Outstanding service s' client ident) : Outstanding service s client ident := by
  unfold Network.deliverRequest at h
  split at h
  · cases h
  · next request rest hrequests =>
    cases h
    cases hid with
    | requested d q hq => exact .requested d q (mem_of_mem_update_tail hrequests hq)
    | queued q hq =>
      rcases KeepLast.mem_of_mem_push hq with hq | hq
      · exact .queued q hq
      · rw [Option.some.inj hq]
        exact .requested author request (by rw [hrequests]; exact List.mem_cons_self)
    | served q hq => exact .served q hq
    | replied p hp => exact .replied p hp
    | arrived p hp => exact .arrived p hp

theorem outstanding_deliverReply {addressee : ι} (h : s.deliverReply addressee = some s')
    (hid : Outstanding service s' client ident) : Outstanding service s client ident := by
  unfold Network.deliverReply at h
  split at h
  · cases h
  · next response rest hreplies =>
    cases h
    cases hid with
    | requested d q hq => exact .requested d q hq
    | queued q hq => exact .queued q hq
    | served q hq => exact .served q hq
    | replied p hp => exact .replied p (mem_of_mem_update_tail hreplies hp)
    | arrived p hp =>
      rcases mem_of_mem_update_push hp with hp | ⟨rfl, heq⟩
      · exact .arrived p hp
      · rw [Option.some.inj heq]
        exact .replied response (by rw [hreplies]; exact List.mem_cons_self)

/-- Only a call makes an identifier outstanding: its own. -/
theorem step_outstanding {action : Action ι κ Env Req} (h : step plugin service s action = some s')
    (hid : Outstanding service s' client ident) :
    Outstanding service s client ident ∨
      ∃ thread author request, action = .call thread author request ∧
        ident = service.requestId request := by
  cases action with
  | call thread author request =>
    exact (outstanding_call h hid).imp_right fun heq => ⟨thread, author, request, rfl, heq⟩
  | poll thread => exact .inl (outstanding_poll h hid)
  | sleep thread => exact .inl (outstanding_sleep h hid)
  | expire thread => exact .inl (outstanding_expire h hid)
  | take => exact .inl (outstanding_take h hid)
  | reply env => exact .inl (outstanding_reply h hid)
  | deliverRequest author => exact .inl (outstanding_deliverRequest h hid)
  | deliverReply addressee => exact .inl (outstanding_deliverReply h hid)
  | noticeServer =>
    cases h
    refine .inl (hid.of_reader rfl (fun q hq => ?_) rfl rfl (fun _ h => h))
    exact (KeepLast.mem_of_mem_push hq).resolve_right nofun
  | notice addressee =>
    cases h
    refine .inl (hid.of_reader rfl (fun _ h => h) rfl rfl fun p hp => ?_)
    exact (mem_of_mem_update_push hp).resolve_right fun h => nomatch h.2

/-! ### Calls and what they return -/

theorem eq_some_of_update {f : κ → Option (Call ι Req)} {i j : κ} {v : Option (Call ι Req)}
    {call : Call ι Req} (h : Function.update f i v j = some call) :
    f j = some call ∨ j = i ∧ v = some call := by
  by_cases hj : j = i
  · subst hj
    rw [Function.update_self] at h
    exact .inr ⟨rfl, h⟩
  · rw [Function.update_of_ne hj] at h
    exact .inl h

/-- The call is in progress, in whichever phase. -/
def Calling (s : Network ι κ Req Resp) (thread : κ) (client : ι) (request : Req) : Prop :=
  ∃ phase, s.calls thread = some { client, request, phase }

variable {thread : κ} {request : Req}

theorem calling_of_update {k : κ} {v : Option (Call ι Req)}
    (hcalls : s'.calls = Function.update s.calls k v)
    (hv : ∀ call, v = some call → Calling s k call.client call.request)
    (h : Calling s' thread client request) :
    Calling s thread client request := by
  obtain ⟨phase, h⟩ := h
  rw [hcalls] at h
  rcases eq_some_of_update h with hold | ⟨rfl, hnew⟩
  · exact ⟨phase, hold⟩
  · exact hv _ hnew

theorem calling_poll {k : κ} (h : s.poll plugin k = some s')
    (hcall : Calling s' thread client request) : Calling s thread client request := by
  unfold Network.poll at h
  split at h
  · next c r hk =>
    have hold : Calling s k c r := ⟨_, hk⟩
    split at h
    · cases h
      exact calling_of_update rfl (fun _ heq => Option.some.inj heq ▸ hold) hcall
    · cases h
      exact calling_of_update rfl (fun _ heq => Option.some.inj heq ▸ hold) hcall
    · cases h
      exact calling_of_update rfl (by simp) hcall
  · cases h

theorem calling_sleep {k : κ} (h : s.sleep k = some s')
    (hcall : Calling s' thread client request) : Calling s thread client request := by
  unfold Network.sleep at h
  split at h
  · next c r hk =>
    cases h
    exact calling_of_update rfl (fun _ heq => Option.some.inj heq ▸ ⟨_, hk⟩) hcall
  · cases h

theorem calling_expire {k : κ} (h : s.expire k = some s')
    (hcall : Calling s' thread client request) : Calling s thread client request := by
  unfold Network.expire at h
  split at h
  · cases h
    exact calling_of_update rfl (by simp) hcall
  · cases h

theorem calling_call {k : κ} {author : ι} {question : Req} (h : s.call k author question = some s')
    (hcall : Calling s' thread client request) :
    Calling s thread client request ∨ k = thread ∧ author = client ∧ question = request := by
  unfold Network.call at h
  split at h
  · cases h
  cases h
  obtain ⟨phase, hcall⟩ := hcall
  rcases eq_some_of_update hcall with hold | ⟨rfl, hnew⟩
  · exact .inl ⟨phase, hold⟩
  · cases hnew
    exact .inr ⟨rfl, rfl, rfl⟩

/-- What a step of the server or the middleware leaves alone. -/
def SameCalls (s' s : Network ι κ Req Resp) : Prop := s'.calls = s.calls ∧ s'.returned = s.returned

theorem sameCalls_take (h : s.take = some s') : SameCalls s' s := by
  unfold Network.take at h
  split at h <;> cases h
  exact ⟨rfl, rfl⟩

theorem sameCalls_reply {env : Env} (h : s.reply service env = some s') : SameCalls s' s := by
  unfold Network.reply at h
  split at h <;> cases h
  exact ⟨rfl, rfl⟩

theorem sameCalls_deliverRequest {author : ι} (h : s.deliverRequest author = some s') :
    SameCalls s' s := by
  unfold Network.deliverRequest at h
  split at h <;> cases h
  exact ⟨rfl, rfl⟩

theorem sameCalls_deliverReply {addressee : ι} (h : s.deliverReply addressee = some s') :
    SameCalls s' s := by
  unfold Network.deliverReply at h
  split at h <;> cases h
  exact ⟨rfl, rfl⟩

theorem SameCalls.calling (h : SameCalls s' s) (hcall : Calling s' thread client request) :
    Calling s thread client request := by
  obtain ⟨phase, hcall⟩ := hcall
  exact ⟨phase, by rw [← h.1, hcall]⟩

/-- A call in progress was in progress before, or has just begun. -/
theorem step_calling {action : Action ι κ Env Req} (h : step plugin service s action = some s')
    (hcall : Calling s' thread client request) :
    Calling s thread client request ∨ action = .call thread client request := by
  cases action with
  | call k author question =>
    refine (calling_call h hcall).imp_right ?_
    rintro ⟨rfl, rfl, rfl⟩
    rfl
  | poll k => exact .inl (calling_poll h hcall)
  | sleep k => exact .inl (calling_sleep h hcall)
  | expire k => exact .inl (calling_expire h hcall)
  | take => exact .inl ((sameCalls_take h).calling hcall)
  | reply env => exact .inl ((sameCalls_reply h).calling hcall)
  | deliverRequest author => exact .inl ((sameCalls_deliverRequest h).calling hcall)
  | deliverReply addressee => exact .inl ((sameCalls_deliverReply h).calling hcall)
  | noticeServer =>
    cases h
    exact .inl hcall
  | notice addressee =>
    cases h
    exact .inl hcall

theorem returned_poll {k : κ} (h : s.poll plugin k = some s') {pair : Req × Resp}
    (hpair : pair ∈ s'.returned) :
    pair ∈ s.returned ∨
      ∃ author, Calling s k author pair.1 ∧ some pair.2 ∈ s.reader author := by
  unfold Network.poll at h
  split at h
  · next author question hk =>
    split at h
    · cases h
      exact .inl hpair
    · cases h
      exact .inl hpair
    · next response rest hreader =>
      cases h
      rcases List.mem_append.mp hpair with hpair | hpair
      · exact .inl hpair
      · rw [List.mem_singleton.mp hpair]
        exact .inr ⟨author, ⟨_, hk⟩, by rw [hreader]; exact List.mem_cons_self⟩
  · cases h

/-- A call returns what is in front of its client. -/
theorem step_returned {action : Action ι κ Env Req} (h : step plugin service s action = some s')
    {pair : Req × Resp} (hpair : pair ∈ s'.returned) :
    pair ∈ s.returned ∨
      ∃ k author, Calling s k author pair.1 ∧
        Outstanding service s author (service.responseId pair.2) := by
  cases action with
  | call k author question =>
    simp only [step, Network.call] at h
    split at h <;> cases h
    exact .inl hpair
  | poll k =>
    refine (returned_poll h hpair).imp_right ?_
    rintro ⟨author, hcall, hreader⟩
    exact ⟨k, author, hcall, .arrived _ hreader⟩
  | sleep k =>
    simp only [step, Network.sleep] at h
    split at h <;> cases h
    exact .inl hpair
  | expire k =>
    simp only [step, Network.expire] at h
    split at h <;> cases h
    exact .inl hpair
  | take => exact .inl ((sameCalls_take h).2 ▸ hpair)
  | reply env => exact .inl ((sameCalls_reply h).2 ▸ hpair)
  | deliverRequest author => exact .inl ((sameCalls_deliverRequest h).2 ▸ hpair)
  | deliverReply addressee => exact .inl ((sameCalls_deliverReply h).2 ▸ hpair)
  | noticeServer =>
    cases h
    exact .inl hpair
  | notice addressee =>
    cases h
    exact .inl hpair

/-! ## Correlation -/

variable (service)

/-- Every response that a call has returned is the response to its request. -/
def Matched (s : Network ι κ Req Resp) : Prop :=
  ∀ pair ∈ s.returned, service.responseId pair.2 = service.requestId pair.1

/-- A call starts alone: no other call is in progress, and no reply to another request is, or may
yet come, in front of its client. -/
def AloneAtStart (s : Network ι κ Req Resp) : Action ι κ Env Req → Prop
  | .call _ client request =>
    (∀ thread, s.calls thread = none) ∧
      ∀ ident, Outstanding service s client ident → ident = service.requestId request
  | _ => True

/-- At most one call is in progress, and only its own reply may come. -/
structure Correlated (s : Network ι κ Req Resp) : Prop where
  matched : Matched service s
  own : ∀ {thread client request ident}, Calling s thread client request →
    Outstanding service s client ident → ident = service.requestId request
  alone : ∀ {thread thread' client client' request request'}, Calling s thread client request →
    Calling s thread' client' request' → thread = thread'

variable {service}

theorem correlated_init : Correlated service ({} : Network ι κ Req Resp) where
  matched := fun _ h => absurd h List.not_mem_nil
  own := fun ⟨_, h⟩ => nomatch h
  alone := fun ⟨_, h⟩ => nomatch h

theorem not_calling (hnone : ∀ thread, s.calls thread = none) :
    ¬ Calling s thread client request := by
  rintro ⟨phase, h⟩
  rw [hnone thread] at h
  cases h

theorem correlated_step {s s' : Network ι κ Req Resp} {action : Action ι κ Env Req}
    (hs : Correlated service s) (halone : AloneAtStart service s action)
    (h : step plugin service s action = some s') : Correlated service s' where
  matched := by
    intro pair hpair
    rcases step_returned h hpair with hpair | ⟨k, author, hcall, hid⟩
    · exact hs.matched pair hpair
    · exact hs.own hcall hid
  own := by
    intro thread client request ident hcall hid
    rcases step_calling h hcall with hold | rfl
    · rcases step_outstanding h hid with hid | ⟨k, author, question, rfl, -⟩
      · exact hs.own hold hid
      · exact absurd hold (not_calling halone.1)
    · rcases step_outstanding h hid with hid | ⟨k, author, question, heq, rfl⟩
      · exact halone.2 ident hid
      · cases heq
        rfl
  alone := by
    intro thread thread' client client' request request' hcall hcall'
    rcases step_calling h hcall with hold | rfl
    · rcases step_calling h hcall' with hold' | rfl
      · exact hs.alone hold hold'
      · exact absurd hold (not_calling halone.1)
    · rcases step_calling h hcall' with hold' | heq
      · exact absurd hold' (not_calling halone.1)
      · cases heq
        rfl

/-- **Correlation.** When every call starts alone, every call returns its own response. -/
theorem matched_of_aloneAtStart (actions : List (Action ι κ Env Req))
    {t : Network ι κ Req Resp}
    (hmeets : Run.Meets (step plugin service) (AloneAtStart service) {} actions)
    (hrun : Run.run (step plugin service) {} actions = some t) : Matched service t :=
  (Run.inv_of_meets (fun _ _ _ hs halone h => correlated_step hs halone h) actions
    correlated_init hmeets hrun).matched

end Inversion

/-! ## The command service -/

/-- The DDS command service. What surrounds a request is the server's state and the master. -/
def ddsService (lib : ProtobufLib) (typeNumber : Pb.ReplyType → UInt8) :
    Service (AdapterServiceServer × ZmqBehaviour) Idl.ReplCmdRequest Idl.ReplCmdResponse
      Idl.RequestHeader where
  callback env request := processRequestDds env.1 lib typeNumber env.2 request
  requestId request := request.requestId
  responseId response := response.requestId
  answers env request := processRequestDds_requestId env.1 lib typeNumber env.2 request

/-- **Calls that start alone** return the response to their own command. -/
theorem calls_return_own_response {ι κ : Type} [DecidableEq ι] [DecidableEq κ] (plugin : Plugin)
    (lib : ProtobufLib) (typeNumber : Pb.ReplyType → UInt8)
    (actions : List (Action ι κ (AdapterServiceServer × ZmqBehaviour) Idl.ReplCmdRequest))
    (t : Network ι κ Idl.ReplCmdRequest Idl.ReplCmdResponse)
    (hmeets : Run.Meets (step plugin (ddsService lib typeNumber))
      (AloneAtStart (ddsService lib typeNumber)) {} actions)
    (hrun : Run.run (step plugin (ddsService lib typeNumber)) {} actions = some t) :
    Matched (ddsService lib typeNumber) t :=
  matched_of_aloneAtStart actions hmeets hrun

/-- The service for a master that acknowledges every command. -/
abbrev ackingService := ddsService ackingLib (fun _ => 0)

/-- A call that waits for its reply. -/
def promptCall :
    List (Action Unit Unit (AdapterServiceServer × ZmqBehaviour) Idl.ReplCmdRequest) :=
  [.call () () startRequest, .deliverRequest (), .take, .poll (), .sleep (),
    .reply (defaultServer.start.1, ackingMaster), .deliverReply (), .poll ()]

theorem promptCall_returns_own_response :
    ∃ t, Run.run (step .cyclonedds ackingService) {} promptCall = some t ∧
      t.returned.map (·.2.requestId) = [startRequest.requestId] ∧ Matched ackingService t := by
  have hmeets : Run.Meets (step .cyclonedds ackingService) (AloneAtStart ackingService) {}
      promptCall := by
    have hnone : ∀ ident, ¬ Outstanding ackingService
        ({} : Network Unit Unit Idl.ReplCmdRequest Idl.ReplCmdResponse) () ident := by
      intro ident h
      cases h <;> contradiction
    simp [promptCall, Run.Meets, AloneAtStart, hnone]
  exact ⟨_, rfl, rfl, calls_return_own_response .cyclonedds ackingLib (fun _ => 0) promptCall _
    hmeets rfl⟩

/-- Every call has an identifier of its own. -/
def OwnIds {ι κ Env Req Resp Id : Type} (service : Service Env Req Resp Id)
    (actions : List (Action ι κ Env Req)) : Prop :=
  (actions.filterMap fun
    | .call _ _ request => some (service.requestId request)
    | _ => none).Nodup

/-- A stop command for board 42, after the start command. -/
def stopRequest : Idl.ReplCmdRequest where
  requestId := { guid := 1, seq := 8 }
  request := { type := 2, ctrlCmd := { type := 12, boardId := 42 } }

/-- The reply to the first call comes after its timeout. -/
def lateReply :
    List (Action Unit Unit (AdapterServiceServer × ZmqBehaviour) Idl.ReplCmdRequest) :=
  [.call () () startRequest, .deliverRequest (), .take, .poll (), .expire (),
    .reply (defaultServer.start.1, ackingMaster), .deliverReply (), .call () () stopRequest,
    .poll ()]

/-- The second call returns the ACK of the first one's command. -/
theorem late_reply_returned :
    OwnIds ackingService lateReply ∧
      ∃ t, Run.run (step .cyclonedds ackingService) {} lateReply = some t ∧
        ¬ Matched ackingService t := by
  refine ⟨by unfold OwnIds; decide, _, rfl, ?_⟩
  intro hmatched
  have hids : startRequest.requestId = stopRequest.requestId := by
    exact hmatched _ List.mem_cons_self
  exact absurd hids (by decide)

end EcatMiddleware.Dds
