import EcatMiddleware.Lib.Pipe
import EcatMiddleware.Dds.ServiceCalls

/-!
# The order of requests and replies

What a run makes of the requests that the clients issue and of the replies that the server writes,
whatever the order of the steps. Full histories lose samples; nothing else does, and nothing is
invented, repeated or overtaken.

* `replies_in_order`: every client takes from one sequence of replies, in its order.
* `requests_in_order`: the server answers an interleaving of what the clients issue.
-/

set_option linter.unusedSectionVars false

namespace EcatMiddleware.Dds

open EcatMiddleware.Core
open KeepLast (Remains)

section Histories

variable {ι κ Env Req Resp Id : Type} [DecidableEq ι] [DecidableEq κ]

/-- The history of requests that the step writes to has room. -/
def RequestRoom (s : Network ι κ Req Resp) : Action ι κ Env Req → Prop
  | .call _ client _ => (s.requests client).length < historyDepth
  | .deliverRequest _ | .noticeServer => s.serverReader.length < historyDepth
  | _ => True

/-- The history of replies to the client that the step writes to has room. -/
def ReplyRoom (client : ι) (s : Network ι κ Req Resp) : Action ι κ Env Req → Prop
  | .reply _ => (s.replies client).length < historyDepth
  | .deliverReply addressee | .notice addressee =>
    addressee = client → (s.reader client).length < historyDepth
  | _ => True

/-- The requests that a client issues. -/
def issued (client : ι) : Action ι κ Env Req → List Req
  | .call _ author request => if author = client then [request] else []
  | _ => []

/-- What the server answers, with its answer. -/
def answered (service : Service Env Req Resp Id) (s : Network ι κ Req Resp) :
    Action ι κ Env Req → List (Req × Resp)
  | .reply env => s.serving.toList.map fun request => (request, service.callback env request)
  | _ => []

/-- What a call takes from the reader of its client, and returns. -/
def taken (s : Network ι κ Req Resp) : Action ι κ Env Req → List (ι × Req × Resp)
  | .poll thread =>
    match s.calls thread with
    | some { client, request, phase := .taking } =>
      match s.reader client with
      | some response :: _ => [(client, request, response)]
      | _ => []
    | _ => []
  | _ => []

/-- The responses that calls of the client took. -/
def responsesOf (client : ι) (history : List (ι × Req × Resp)) : List Resp :=
  history.filterMap fun entry => if entry.1 = client then some entry.2.2 else none

/-- The replies on their way to a client. -/
def arriving (s : Network ι κ Req Resp) (client : ι) : List Resp :=
  (s.reader client).filterMap id ++ s.replies client

end Histories

/-! ## Replies -/

section Replies

variable {ι κ Env Req Resp Id : Type} [DecidableEq ι] [DecidableEq κ] {plugin : Plugin}
  {service : Service Env Req Resp Id} {s s' : Network ι κ Req Resp} {client : ι}

/-- Nothing is taken, answered or delivered. -/
theorem arriving_of_same {action : Action ι κ Env Req} (htaken : taken s action = [])
    (hanswered : answered service s action = []) (hreader : s'.reader client = s.reader client)
    (hreplies : s'.replies client = s.replies client) :
    Remains (ReplyRoom client s action) (responsesOf client (taken s action) ++ arriving s' client)
      (arriving s client ++ (answered service s action).map Prod.snd) := by
  unfold arriving
  rw [htaken, hanswered, hreader, hreplies, List.map_nil, List.append_nil]
  exact Remains.refl _

theorem arriving_poll {thread : κ} (h : s.poll plugin thread = some s') :
    responsesOf client (taken s (.poll thread : Action ι κ Env Req)) ++ arriving s' client =
      arriving s client := by
  unfold Network.poll at h
  split at h
  · next c request hcall =>
    split at h
    · next hreader =>
      cases h
      simp [taken, hcall, hreader, responsesOf, arriving]
    · next rest hreader =>
      cases h
      by_cases hc : client = c
      · subst hc
        simp [taken, hcall, hreader, responsesOf, arriving]
      · simp [taken, hcall, hreader, responsesOf, arriving, Function.update_of_ne hc]
    · next response rest hreader =>
      cases h
      by_cases hc : client = c
      · subst hc
        simp [taken, hcall, hreader, responsesOf, arriving]
      · simp [taken, hcall, hreader, responsesOf, arriving, Function.update_of_ne hc, Ne.symm hc]
  · cases h

theorem arriving_reply {env : Env} (h : s.reply service env = some s') :
    Remains ((s.replies client).length < historyDepth) (arriving s' client)
      (arriving s client ++
        (answered service s (.reply env : Action ι κ Env Req)).map Prod.snd) := by
  unfold Network.reply at h
  split at h
  · cases h
  · next request hserving =>
    cases h
    have hpush := Remains.push historyDepth (s.replies client) (service.callback env request)
    have happend := (Remains.refl ((s.reader client).filterMap id)).append hpush
    simpa [answered, hserving, arriving] using happend

theorem arriving_deliverReply {addressee : ι} (h : s.deliverReply addressee = some s') :
    Remains (addressee = client → (s.reader client).length < historyDepth) (arriving s' client)
      (arriving s client) := by
  unfold Network.deliverReply at h
  split at h
  · cases h
  · next response rest hreplies =>
    cases h
    unfold arriving
    by_cases hc : client = addressee
    · subst hc
      simp only [Function.update_self, hreplies]
      have hpush := (Remains.push historyDepth (s.reader client) (some response)).filterMap id
      rw [List.filterMap_append] at hpush
      have happend := hpush.append (Remains.refl rest)
      rw [List.append_assoc] at happend
      exact happend.mono fun hroom => hroom trivial
    · simp only [Function.update_of_ne hc]
      exact Remains.refl _

theorem arriving_notice (s : Network ι κ Req Resp) (client addressee : ι) :
    Remains (addressee = client → (s.reader client).length < historyDepth)
      (arriving (s.notice addressee) client)
      (arriving s client) := by
  unfold arriving Network.notice
  by_cases hc : client = addressee
  · subst hc
    simp only [Function.update_self]
    have hpush := (Remains.push historyDepth (s.reader client) none).filterMap id
    rw [List.filterMap_append] at hpush
    refine Remains.append ?_ (Remains.refl _)
    rw [show [none].filterMap (id : Sample Resp → Option Resp) = [] by rfl, List.append_nil]
      at hpush
    exact hpush.mono fun hroom => hroom trivial
  · simp only [Function.update_of_ne hc]
    exact Remains.refl _

/-- **One step** passes on, takes or loses what is on its way to a client. -/
theorem arriving_step (client : ι) {action : Action ι κ Env Req}
    (h : step plugin service s action = some s') :
    Remains (ReplyRoom client s action) (responsesOf client (taken s action) ++ arriving s' client)
      (arriving s client ++ (answered service s action).map Prod.snd) := by
  cases action with
  | call thread author request =>
    simp only [step, Network.call] at h
    split at h <;> cases h
    exact arriving_of_same rfl rfl rfl rfl
  | poll thread =>
    rw [arriving_poll h]
    exact Remains.of_eq (List.append_nil _).symm
  | sleep thread =>
    simp only [step, Network.sleep] at h
    split at h <;> cases h
    exact arriving_of_same rfl rfl rfl rfl
  | expire thread =>
    simp only [step, Network.expire] at h
    split at h <;> cases h
    exact arriving_of_same rfl rfl rfl rfl
  | take =>
    simp only [step, Network.take] at h
    split at h <;> cases h
    exact arriving_of_same rfl rfl rfl rfl
  | reply env => exact arriving_reply h
  | deliverRequest author =>
    simp only [step, Network.deliverRequest] at h
    split at h <;> cases h
    exact arriving_of_same rfl rfl rfl rfl
  | deliverReply addressee =>
    show Remains _ (arriving s' client) (arriving s client ++ [])
    rw [List.append_nil]
    exact arriving_deliverReply h
  | noticeServer =>
    cases h
    exact arriving_of_same rfl rfl rfl rfl
  | notice addressee =>
    cases h
    show Remains _ (arriving (s.notice addressee) client) (arriving s client ++ [])
    rw [List.append_nil]
    exact arriving_notice s client addressee

theorem returned_step {action : Action ι κ Env Req} (h : step plugin service s action = some s') :
    s'.returned = s.returned ++ (taken s action).map Prod.snd := by
  cases action with
  | poll thread =>
    simp only [step, Network.poll] at h
    unfold taken
    split at h
    · next hcall =>
      split at h <;> cases h <;> simp_all
    · cases h
  | call thread author request =>
    simp only [step, Network.call] at h
    split at h <;> cases h
    simp [taken]
  | sleep thread =>
    simp only [step, Network.sleep] at h
    split at h <;> cases h
    simp [taken]
  | expire thread =>
    simp only [step, Network.expire] at h
    split at h <;> cases h
    simp [taken]
  | take =>
    simp only [step, Network.take] at h
    split at h <;> cases h
    simp [taken]
  | reply env =>
    simp only [step, Network.reply] at h
    split at h <;> cases h
    simp [taken]
  | deliverRequest author =>
    simp only [step, Network.deliverRequest] at h
    split at h <;> cases h
    simp [taken]
  | deliverReply addressee =>
    simp only [step, Network.deliverReply] at h
    split at h <;> cases h
    simp [taken]
  | noticeServer | notice =>
    cases h
    simp [taken, Network.noticeServer, Network.notice]

theorem returned_run (actions : List (Action ι κ Env Req)) :
    ∀ {s t : Network ι κ Req Resp}, Run.run (step plugin service) s actions = some t →
      t.returned = s.returned ++
        (Run.trace (step plugin service) taken s actions).map Prod.snd := by
  induction actions with
  | nil =>
    intro s t hrun
    obtain rfl := Option.some.inj hrun
    simp [Run.trace]
  | cons action actions ih =>
    intro s t hrun
    obtain ⟨s', hs', hrun'⟩ := Run.run_cons_eq_some.mp hrun
    rw [ih hrun', returned_step hs', Run.trace_cons hs', List.map_append, List.append_assoc]

/-- **Replies in order**: the responses that a client's calls return are taken from the sequence of
the replies that the server wrote, in its order and none twice. All of them are returned, or are
still on their way to the client, where neither the history of the reply writer nor that of the
client's reader overflows. -/
theorem replies_in_order (client : ι) (actions : List (Action ι κ Env Req))
    {t : Network ι κ Req Resp} (hrun : Run.run (step plugin service) {} actions = some t) :
    t.returned = (Run.trace (step plugin service) taken {} actions).map Prod.snd ∧
      Remains (Run.Meets (step plugin service) (ReplyRoom client) {} actions)
        (responsesOf client (Run.trace (step plugin service) taken {} actions) ++
          arriving t client)
        ((Run.trace (step plugin service) (answered service) {} actions).map Prod.snd) := by
  refine ⟨?_, ?_⟩
  · rw [returned_run actions hrun]
    rfl
  have hremains := Run.remains_of_run (fun _ _ _ => arriving_step client) actions hrun
  rw [Run.trace_map_of_append (responsesOf client) rfl fun _ _ => List.filterMap_append,
    Run.trace_map_of_append (List.map Prod.snd) rfl fun _ _ => List.map_append] at hremains
  exact hremains

end Replies

/-- Two clients call; one takes the answer to the other's command, which comes first. -/
def twoClients :
    List (Action Bool Bool (AdapterServiceServer × ZmqBehaviour) Idl.ReplCmdRequest) :=
  [.call true true startRequest, .call false false stopRequest, .deliverRequest false, .take,
    .deliverRequest true, .reply (defaultServer.start.1, ackingMaster), .deliverReply true,
    .poll true, .take, .reply (defaultServer.start.1, ackingMaster), .deliverReply false,
    .deliverReply false]

theorem twoClients_replies_in_order :
    ∃ t, Run.run (step .fastdds ackingService) {} twoClients = some t ∧
      t.returned =
          (Run.trace (step .fastdds ackingService) taken {} twoClients).map Prod.snd ∧
        Remains (Run.Meets (step .fastdds ackingService) (ReplyRoom true) {} twoClients)
          (responsesOf true (Run.trace (step .fastdds ackingService) taken {} twoClients) ++
            arriving t true)
          ((Run.trace (step .fastdds ackingService) (answered ackingService) {} twoClients).map
            Prod.snd) :=
  ⟨_, rfl, replies_in_order true twoClients rfl⟩

/-! ## Requests -/

section Requests

variable {ι κ Env Req Resp Id : Type} [DecidableEq ι] [DecidableEq κ] {plugin : Plugin}
  {service : Service Env Req Resp Id} {s s' : Network ι κ Req Resp} {client : ι}

/-- The requests of one author. -/
def requestsOf (author : ι) (requests : List (ι × Req)) : List Req :=
  requests.filterMap fun entry => if entry.1 = author then some entry.2 else none

theorem requestsOf_append (author : ι) (xs ys : List (ι × Req)) :
    requestsOf author (xs ++ ys) = requestsOf author xs ++ requestsOf author ys :=
  List.filterMap_append

theorem requestsOf_singleton (client author : ι) (request : Req) :
    requestsOf client [(author, request)] = if author = client then [request] else [] := by
  by_cases hc : author = client <;> simp [requestsOf, hc]

/-- Whose requests the server holds. -/
structure Authors (s : Network ι κ Req Resp) where
  queue : List (Sample (ι × Req))
  serving : Option (ι × Req)
  queue_eq : queue.map (Option.map Prod.snd) = s.serverReader
  serving_eq : serving.map Prod.snd = s.serving

namespace Authors

/-- The requests of a client that the server has not answered. -/
def held (authors : Authors s) (client : ι) : List Req :=
  requestsOf client authors.serving.toList ++
    (requestsOf client (authors.queue.filterMap id) ++ s.requests client)

/-- What a step makes of the requests of each client, with the authors of what it answers. -/
def Steps (service : Service Env Req Resp Id) (authors : Authors s) (action : Action ι κ Env Req)
    (s' : Network ι κ Req Resp) : Prop :=
  ∃ (authors' : Authors s') (served : List (ι × Req)),
    served.map Prod.snd = (answered service s action).map Prod.fst ∧
      ∀ client, Remains (RequestRoom s action) (requestsOf client served ++ authors'.held client)
        (authors.held client ++ issued client action)

variable (authors : Authors s)

/-- The server and the requests are left alone. -/
theorem steps_of_same {action : Action ι κ Env Req} (hanswered : answered service s action = [])
    (hissued : ∀ client, issued client action = []) (hrequests : s'.requests = s.requests)
    (hqueue : s'.serverReader = s.serverReader) (hserving : s'.serving = s.serving) :
    authors.Steps service action s' := by
  refine ⟨⟨authors.queue, authors.serving, ?_, ?_⟩, [], ?_, fun client => ?_⟩
  · rw [authors.queue_eq, hqueue]
  · rw [authors.serving_eq, hserving]
  · rw [hanswered]
    rfl
  · unfold held
    rw [hissued, hrequests, List.append_nil]
    exact Remains.refl _

theorem steps_call {thread : κ} {author : ι} {request : Req}
    (h : s.call thread author request = some s') :
    authors.Steps service (.call thread author request) s' := by
  unfold Network.call at h
  split at h <;> cases h
  refine ⟨⟨authors.queue, authors.serving, authors.queue_eq, authors.serving_eq⟩, [], rfl,
    fun client => ?_⟩
  have hrequests : Remains ((s.requests author).length < historyDepth)
      (Function.update s.requests author
        (KeepLast.push historyDepth (s.requests author) request) client)
      (s.requests client ++ if author = client then [request] else []) := by
    by_cases hc : client = author
    · subst hc
      rw [Function.update_self, if_pos rfl]
      exact Remains.push _ _ _
    · rw [Function.update_of_ne hc, if_neg (Ne.symm hc), List.append_nil]
      exact Remains.refl _
  have hheld := (Remains.refl (requestsOf client authors.serving.toList)).append
    ((Remains.refl (requestsOf client (authors.queue.filterMap id))).append hrequests)
  unfold held
  rw [List.append_assoc, List.append_assoc]
  exact hheld

theorem steps_take (h : s.take = some s') :
    authors.Steps service (.take : Action ι κ Env Req) s' := by
  unfold Network.take at h
  split at h <;> cases h
  next sample rest hserving hqueue =>
  obtain ⟨queue, serving, hq, hs⟩ := authors
  rw [hqueue, List.map_eq_cons_iff] at hq
  obtain ⟨first, others, rfl, hfirst, hothers⟩ := hq
  refine ⟨⟨others, first, hothers, hfirst⟩, [], rfl, fun client => Remains.of_eq ?_⟩
  obtain rfl : serving = none := by
    rw [hserving] at hs
    exact Option.map_eq_none_iff.mp hs
  show requestsOf client first.toList ++ (requestsOf client (others.filterMap id) ++
    s.requests client) = [] ++ (requestsOf client ((first :: others).filterMap id) ++
      s.requests client) ++ []
  cases first with
  | none => simp [requestsOf]
  | some entry =>
    have hcons : (some entry :: others).filterMap id = [entry] ++ others.filterMap id := rfl
    rw [hcons, requestsOf_append]
    simp

theorem steps_reply {env : Env} (h : s.reply service env = some s') :
    authors.Steps service (.reply env : Action ι κ Env Req) s' := by
  unfold Network.reply at h
  split at h
  · cases h
  · next request hserving =>
    cases h
    obtain ⟨queue, serving, hq, hs⟩ := authors
    rw [hserving] at hs
    obtain ⟨entry, rfl, hentry⟩ := Option.map_eq_some_iff.mp hs
    refine ⟨⟨queue, none, hq, rfl⟩, [entry], ?_, fun client => Remains.of_eq ?_⟩
    · simp [answered, hserving, hentry]
    · simp [held, requestsOf, issued]

theorem steps_deliverRequest {author : ι} (h : s.deliverRequest author = some s') :
    authors.Steps service (.deliverRequest author : Action ι κ Env Req) s' := by
  unfold Network.deliverRequest at h
  split at h
  · cases h
  · next request rest hrequests =>
    cases h
    refine ⟨⟨KeepLast.push historyDepth authors.queue (some (author, request)), authors.serving,
      ?_, authors.serving_eq⟩, [], rfl, fun client => ?_⟩
    · rw [KeepLast.map_push, authors.queue_eq]
      rfl
    have hlength : authors.queue.length = s.serverReader.length := by
      rw [← authors.queue_eq, List.length_map]
    have hpush := Remains.push historyDepth authors.queue (some (author, request))
    rw [hlength] at hpush
    have hqueue : Remains (s.serverReader.length < historyDepth)
        (requestsOf client ((KeepLast.push historyDepth authors.queue
          (some (author, request))).filterMap id))
        (requestsOf client (authors.queue.filterMap id) ++
          if author = client then [request] else []) := by
      have hmap := (hpush.filterMap id).filterMap
        fun entry => if entry.1 = client then some entry.2 else none
      rw [List.filterMap_append, List.filterMap_append] at hmap
      rw [← requestsOf_singleton]
      exact hmap
    have hrequest : (if author = client then [request] else []) ++
        Function.update s.requests author rest client = s.requests client := by
      by_cases hc : client = author
      · subst hc
        rw [Function.update_self, if_pos rfl, hrequests, List.singleton_append]
      · rw [Function.update_of_ne hc, if_neg (Ne.symm hc), List.nil_append]
    have hheld := (Remains.refl (requestsOf client authors.serving.toList)).append
      (hqueue.append (Remains.refl (Function.update s.requests author rest client)))
    rw [List.append_assoc (requestsOf client (authors.queue.filterMap id)), hrequest] at hheld
    show Remains _ _ (authors.held client ++ [])
    rw [List.append_nil]
    exact hheld

theorem steps_noticeServer :
    authors.Steps service (.noticeServer : Action ι κ Env Req) s.noticeServer := by
  refine ⟨⟨KeepLast.push historyDepth authors.queue none, authors.serving, ?_,
    authors.serving_eq⟩, [], rfl, fun client => ?_⟩
  · rw [KeepLast.map_push, authors.queue_eq]
    rfl
  have hlength : authors.queue.length = s.serverReader.length := by
    rw [← authors.queue_eq, List.length_map]
  have hpush := (Remains.push historyDepth authors.queue none).filterMap id
  rw [hlength, List.filterMap_append] at hpush
  have hqueue := hpush.filterMap fun entry => if entry.1 = client then some entry.2 else none
  rw [show [none].filterMap (id : Sample (ι × Req) → Option (ι × Req)) = [] by rfl,
    List.append_nil] at hqueue
  have hheld := (Remains.refl (requestsOf client authors.serving.toList)).append
    (hqueue.append (Remains.refl (s.requests client)))
  show Remains _ _ (authors.held client ++ [])
  rw [List.append_nil]
  exact hheld

/-- **One step** of the requests. -/
theorem steps {action : Action ι κ Env Req} (h : step plugin service s action = some s') :
    authors.Steps service action s' := by
  cases action with
  | call thread author request => exact authors.steps_call h
  | poll thread =>
    simp only [step, Network.poll] at h
    split at h
    · split at h <;> cases h <;> exact authors.steps_of_same rfl (fun _ => rfl) rfl rfl rfl
    · cases h
  | sleep thread =>
    simp only [step, Network.sleep] at h
    split at h <;> cases h
    exact authors.steps_of_same rfl (fun _ => rfl) rfl rfl rfl
  | expire thread =>
    simp only [step, Network.expire] at h
    split at h <;> cases h
    exact authors.steps_of_same rfl (fun _ => rfl) rfl rfl rfl
  | take => exact authors.steps_take h
  | reply env => exact authors.steps_reply h
  | deliverRequest author => exact authors.steps_deliverRequest h
  | deliverReply addressee =>
    simp only [step, Network.deliverReply] at h
    split at h <;> cases h
    exact authors.steps_of_same rfl (fun _ => rfl) rfl rfl rfl
  | noticeServer =>
    cases h
    exact authors.steps_noticeServer
  | notice addressee =>
    cases h
    exact authors.steps_of_same rfl (fun _ => rfl) rfl rfl rfl

theorem run (actions : List (Action ι κ Env Req)) :
    ∀ {s t : Network ι κ Req Resp} (authors : Authors s),
      Run.run (step plugin service) s actions = some t →
      ∃ (authors' : Authors t) (served : List (ι × Req)),
        served.map Prod.snd =
            (Run.trace (step plugin service) (answered service) s actions).map Prod.fst ∧
          ∀ client, Remains (Run.Meets (step plugin service) RequestRoom s actions)
            (requestsOf client served ++ authors'.held client)
            (authors.held client ++ actions.flatMap (issued client)) := by
  induction actions with
  | nil =>
    intro s t authors hrun
    obtain rfl := Option.some.inj hrun
    exact ⟨authors, [], rfl, fun client => Remains.of_eq (List.append_nil _).symm⟩
  | cons action actions ih =>
    intro s t authors hrun
    obtain ⟨s', hs', hrun'⟩ := Run.run_cons_eq_some.mp hrun
    obtain ⟨authors', served, hserved, hfirst⟩ := authors.steps hs'
    obtain ⟨authors'', served', hserved', hrest⟩ := ih authors' hrun'
    refine ⟨authors'', served ++ served', ?_, fun client => ?_⟩
    · rw [Run.trace_cons hs', List.map_append, List.map_append, hserved, hserved']
    · have hstep := ((hfirst client).mono fun hmeets :
        Run.Meets (step plugin service) RequestRoom s (action :: actions) => hmeets.1).append
          (Remains.refl (actions.flatMap (issued client)))
      have hothers := (Remains.refl (requestsOf client served)).append
        ((hrest client).mono fun hmeets :
          Run.Meets (step plugin service) RequestRoom s (action :: actions) => hmeets.2 s' hs')
      rw [List.append_assoc, List.append_assoc, ← List.flatMap_cons] at hstep
      rw [requestsOf_append, List.append_assoc]
      exact hothers.trans hstep

end Authors

/-- **Requests in order**: what the server answers is an interleaving of parts of what the clients
issue, each in its order and none twice. Where no history of requests overflows, every request is
answered or still on its way. -/
theorem requests_in_order (actions : List (Action ι κ Env Req)) {t : Network ι κ Req Resp}
    (hrun : Run.run (step plugin service) {} actions = some t) :
    ∃ (authors : Authors t) (served : List (ι × Req)),
      served.map Prod.snd =
          (Run.trace (step plugin service) (answered service) {} actions).map Prod.fst ∧
        ∀ client, Remains (Run.Meets (step plugin service) RequestRoom {} actions)
          (requestsOf client served ++ authors.held client) (actions.flatMap (issued client)) :=
  Authors.run actions ⟨[], none, rfl, rfl⟩ hrun

end Requests

theorem twoClients_requests_in_order :
    ∃ t, Run.run (step .fastdds ackingService) {} twoClients = some t ∧
      ∃ (authors : Authors t) (served : List (Bool × Idl.ReplCmdRequest)),
        served.map Prod.snd =
            (Run.trace (step .fastdds ackingService) (answered ackingService) {} twoClients).map
              Prod.fst ∧
          ∀ client, Remains (Run.Meets (step .fastdds ackingService) RequestRoom {} twoClients)
            (requestsOf client served ++ authors.held client)
            (twoClients.flatMap (issued client)) :=
  ⟨_, rfl, requests_in_order twoClients rfl⟩

end EcatMiddleware.Dds
