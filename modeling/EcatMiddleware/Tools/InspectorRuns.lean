import EcatMiddleware.Tools.InspectorApp
import Mathlib.Data.List.Induction

/-!
# The snapshots over a run of the inspector

* `snapshot_of_run`: the snapshot of a source is the one that its polls leave, with
  `--keep-last-queue` the last one that was not empty.
* `frozen_of_run`: while the inspector is paused, no snapshot changes unless a key asks for it.
-/

namespace EcatMiddleware.Tools

/-! ## What the polls leave -/

/-- What came of a poll or of a reconnection. -/
inductive Outcome where
  | polled (snapshot : InspectorSnapshot)
  | reconnected (snapshot : InspectorSnapshot)
  | failed (snapshot : InspectorSnapshot)

namespace Outcome

def snapshot : Outcome → InspectorSnapshot
  | polled snapshot => snapshot
  | reconnected snapshot => snapshot
  | failed snapshot => snapshot

/-- A poll that found every queue empty. -/
def foundNothing : Outcome → Bool
  | polled snapshot => snapshot.totalBuffered = 0
  | reconnected _ => false
  | failed _ => false

end Outcome

namespace Source

def pollOutcome (source : Source) (memory : Memory) (history keepLastQueue : Bool) : Outcome :=
  match source.inspector.poll memory history keepLastQueue with
  | (_, .ok snapshot) => .polled snapshot
  | (_, .error what) => .failed (source.failed history what)

def reconnectOutcome (source : Source) (memory : Memory) (history keepLastQueue : Bool) :
    Outcome :=
  match source.inspector.reconnectAndPoll memory history keepLastQueue with
  | (_, .ok snapshot) => .reconnected snapshot
  | (_, .error what) => .failed (source.failed history what)

end Source

/-- The last outcome, apart from polls that found nothing, if it did find something. -/
def kept (outcomes : List Outcome) : Option InspectorSnapshot :=
  ((outcomes.reverse.find? fun outcome => !outcome.foundNothing).map Outcome.snapshot).filter
    fun snapshot => snapshot.totalBuffered ≠ 0

def last (initial : InspectorSnapshot) (outcomes : List Outcome) : InspectorSnapshot :=
  (outcomes.getLast?.map Outcome.snapshot).getD initial

/-- The snapshot to show after these outcomes. -/
def shown (keepLastQueue : Bool) (initial : InspectorSnapshot) (outcomes : List Outcome) :
    InspectorSnapshot :=
  if keepLastQueue then (kept outcomes).getD (last initial outcomes) else last initial outcomes

theorem last_concat (initial : InspectorSnapshot) (outcomes : List Outcome) (outcome : Outcome) :
    last initial (outcomes ++ [outcome]) = outcome.snapshot := by
  unfold last
  rw [List.getLast?_concat]
  rfl

theorem kept_concat_of_foundNothing (outcomes : List Outcome) {outcome : Outcome}
    (h : outcome.foundNothing = true) : kept (outcomes ++ [outcome]) = kept outcomes := by
  unfold kept
  rw [List.reverse_concat, List.find?_cons_of_neg (by simp [h])]

theorem kept_concat (outcomes : List Outcome) {outcome : Outcome}
    (h : outcome.foundNothing = false) : kept (outcomes ++ [outcome]) =
      (some outcome.snapshot).filter fun snapshot => snapshot.totalBuffered ≠ 0 := by
  unfold kept
  rw [List.reverse_concat, List.find?_cons_of_pos (by simp [h]), Option.map_some]

theorem totalBuffered_of_kept {outcomes : List Outcome} {snapshot : InspectorSnapshot}
    (h : kept outcomes = some snapshot) : snapshot.totalBuffered ≠ 0 := by
  unfold kept at h
  simpa using (Option.filter_eq_some_iff.mp h).2

theorem totalBuffered_last {initial : InspectorSnapshot} (hinitial : initial.totalBuffered = 0)
    {outcomes : List Outcome} (h : kept outcomes = none) :
    (last initial outcomes).totalBuffered = 0 := by
  induction outcomes using List.reverseRecOn with
  | nil => exact hinitial
  | append_singleton outcomes outcome _ =>
    rw [last_concat]
    cases hfound : outcome.foundNothing with
    | true =>
      cases outcome with
      | polled snapshot => exact of_decide_eq_true hfound
      | reconnected _ | failed _ => exact absurd hfound Bool.false_ne_true
    | false =>
      rw [kept_concat outcomes hfound, Option.filter_eq_none_iff] at h
      simpa using h outcome.snapshot rfl

theorem shown_concat (keepLastQueue : Bool) (initial : InspectorSnapshot) (outcomes : List Outcome)
    {outcome : Outcome} (h : outcome.foundNothing = false) :
    shown keepLastQueue initial (outcomes ++ [outcome]) = outcome.snapshot := by
  unfold shown
  rw [last_concat, kept_concat outcomes h, Option.filter_some]
  split_ifs <;> rfl

theorem shown_false_concat (initial : InspectorSnapshot) (outcomes : List Outcome)
    (outcome : Outcome) : shown false initial (outcomes ++ [outcome]) = outcome.snapshot := by
  unfold shown
  rw [if_neg Bool.false_ne_true, last_concat]

/-- A poll that found nothing replaces a snapshot that shows nothing. -/
theorem shown_concat_of_foundNothing {initial : InspectorSnapshot}
    (hinitial : initial.totalBuffered = 0) (outcomes : List Outcome) {outcome : Outcome}
    (h : outcome.foundNothing = true) : shown true initial (outcomes ++ [outcome]) =
      if (shown true initial outcomes).totalBuffered = 0 then outcome.snapshot
      else shown true initial outcomes := by
  unfold shown
  rw [if_pos rfl, if_pos rfl, last_concat, kept_concat_of_foundNothing outcomes h]
  cases hkept : kept outcomes with
  | none => exact (if_pos (totalBuffered_last hinitial hkept)).symm
  | some snapshot => exact (if_neg (totalBuffered_of_kept hkept)).symm

/-! ## One source -/

/-- A source as its outcomes leave it. -/
structure Leaves (keepLastQueue : Bool) (initial : InspectorSnapshot) (outcomes : List Outcome)
    (source : Source) : Prop where
  snapshot : source.snapshot = shown keepLastQueue initial outcomes
  error : source.snapshot.totalBuffered ≠ 0 → source.snapshot.error = ""

theorem clear_error {snapshot : InspectorSnapshot} (h : snapshot.error = "") :
    { snapshot with error := "" } = snapshot := by
  rw [← h]

theorem leaves_poll {keepLastQueue : Bool} {initial : InspectorSnapshot}
    (hinitial : initial.totalBuffered = 0) {outcomes : List Outcome} {source : Source}
    (h : Leaves keepLastQueue initial outcomes source) (memory : Memory) (history : Bool) :
    Leaves keepLastQueue initial (outcomes ++ [source.pollOutcome memory history keepLastQueue])
      (source.poll memory history keepLastQueue) := by
  unfold Source.pollOutcome Source.poll
  rcases hpoll : source.inspector.poll memory history keepLastQueue with ⟨inspector, result⟩
  cases result with
  | error what =>
    have hfailed : (Outcome.failed (source.failed history what)).foundNothing = false := rfl
    exact ⟨(shown_concat keepLastQueue initial outcomes hfailed).symm, fun hne => absurd rfl hne⟩
  | ok snapshot =>
    obtain ⟨-, herror⟩ := poll_eq_ok hpoll
    cases keepLastQueue with
    | false =>
      refine ⟨?_, fun _ => rfl⟩
      rw [shown_false_concat]
      exact clear_error herror
    | true =>
      by_cases hfound : snapshot.totalBuffered > 0
      · have hsome : (Outcome.polled snapshot).foundNothing = false :=
          decide_eq_false (show ¬ snapshot.totalBuffered = 0 by omega)
        refine ⟨?_, fun _ => rfl⟩
        rw [shown_concat true initial outcomes hsome]
        show { (if snapshot.totalBuffered > 0 then snapshot else _ : InspectorSnapshot) with
          error := "" } = snapshot
        rw [if_pos hfound, clear_error herror]
      · have hnothing : (Outcome.polled snapshot).foundNothing = true :=
          decide_eq_true (show snapshot.totalBuffered = 0 by omega)
        refine ⟨?_, fun _ => rfl⟩
        rw [shown_concat_of_foundNothing hinitial outcomes hnothing, ← h.snapshot]
        show { (if snapshot.totalBuffered > 0 then snapshot
          else if source.snapshot.totalBuffered = 0 then snapshot else source.snapshot :
            InspectorSnapshot) with error := "" } = _
        rw [if_neg hfound]
        by_cases hold : source.snapshot.totalBuffered = 0
        · rw [if_pos hold, if_pos hold, clear_error herror]
          rfl
        · rw [if_neg hold, if_neg hold, clear_error (h.error hold)]

theorem leaves_reconnect (keepLastQueue : Bool) (initial : InspectorSnapshot)
    (outcomes : List Outcome) (source : Source) (memory : Memory) (history : Bool) :
    Leaves keepLastQueue initial
      (outcomes ++ [source.reconnectOutcome memory history keepLastQueue])
      (source.reconnect memory history keepLastQueue) := by
  unfold Source.reconnectOutcome Source.reconnect
  rcases hpoll : source.inspector.reconnectAndPoll memory history keepLastQueue
    with ⟨inspector, result⟩
  cases result with
  | error what =>
    have hfailed : (Outcome.failed (source.failed history what)).foundNothing = false := rfl
    exact ⟨(shown_concat keepLastQueue initial outcomes hfailed).symm, fun hne => absurd rfl hne⟩
  | ok snapshot =>
    have hconnected : (Outcome.reconnected snapshot).foundNothing = false := rfl
    refine ⟨?_, fun _ => rfl⟩
    rw [shown_concat keepLastQueue initial outcomes hconnected]
    exact clear_error (reconnectAndPoll_eq_ok hpoll).2

/-! ## All sources -/

namespace InspectorApp

/-- What a step does to the source with this index. -/
def outcomesOf (index : ℕ) (app : InspectorApp) : Input → List Outcome
  | .frame due memory _ _ =>
    if app.mustPoll due ∧ app.active = index then
      (app.sources[index]?.map (·.pollOutcome memory app.history app.keepLastQueue)).toList
    else []
  | .input key? typed _ memories =>
    if (app.process key? typed).2 = .reconnect then
      (app.sources[index]?.map
        (·.reconnectOutcome (memories index) app.history app.keepLastQueue)).toList
    else []

theorem sources_act (app : InspectorApp) (memories : ℕ → Memory) (action : Action) :
    (app.act memories action).sources =
      if action = .reconnect then app.reconnectAll memories else app.sources := by
  cases action with
  | selectSource index =>
    show (if index < app.sources.length then app.select index else app).sources = app.sources
    split_ifs <;> rfl
  | none | redraw | quit | nextSource | previousSource | toggleHistory | reconnect => rfl

theorem sources_input (app : InspectorApp) (key? : Option Key) (typed : String) (due : Bool)
    (memories : ℕ → Memory) : (app.input key? typed due memories).sources =
      if (app.process key? typed).2 = .reconnect then app.reconnectAll memories
      else app.sources := by
  unfold input
  by_cases hnone : (app.process key? typed).2 = .none
  · rw [if_pos hnone, hnone]
    rfl
  · rw [if_neg hnone, sources_act]
    rfl

theorem keepLastQueue_act (app : InspectorApp) (memories : ℕ → Memory) (action : Action) :
    (app.act memories action).keepLastQueue = app.keepLastQueue := by
  cases action with
  | selectSource index =>
    show (if index < app.sources.length then app.select index else app).keepLastQueue = _
    split_ifs <;> rfl
  | none | redraw | quit | nextSource | previousSource | toggleHistory | reconnect => rfl

theorem keepLastQueue_step {app app' : InspectorApp} {input : Input}
    (h : app.step input = some app') : app'.keepLastQueue = app.keepLastQueue := by
  cases input with
  | frame due memory height width =>
    obtain ⟨-, rfl⟩ := step_frame.mp h
    unfold frame
    rw [refresh_eq]
  | input key? typed due memories =>
    obtain ⟨-, rfl⟩ := step_input.mp h
    unfold InspectorApp.input
    by_cases hnone : (app.process key? typed).2 = .none
    · rw [if_pos hnone]
    · rw [if_neg hnone, keepLastQueue_act]

/-- The source with this index is as its outcomes leave it. -/
def LeavesAt (index : ℕ) (keepLastQueue : Bool) (initial : InspectorSnapshot)
    (outcomes : List Outcome) (app : InspectorApp) : Prop :=
  app.keepLastQueue = keepLastQueue ∧
    ∃ source, app.sources[index]? = some source ∧ Leaves keepLastQueue initial outcomes source

theorem leavesAt_step {index : ℕ} {keepLastQueue : Bool} {initial : InspectorSnapshot}
    (hinitial : initial.totalBuffered = 0) {outcomes : List Outcome} {app app' : InspectorApp}
    {input : Input} (h : LeavesAt index keepLastQueue initial outcomes app)
    (hstep : app.step input = some app') :
    LeavesAt index keepLastQueue initial (outcomes ++ outcomesOf index app input) app' := by
  obtain ⟨rfl, source, hsource, hleaves⟩ := h
  refine ⟨keepLastQueue_step hstep, ?_⟩
  cases input with
  | frame due memory height width =>
    obtain ⟨-, rfl⟩ := step_frame.mp hstep
    show ∃ source, (app.refresh due memory).sources[index]? = some source ∧
      Leaves _ _ (outcomes ++ if app.mustPoll due ∧ app.active = index then _ else []) source
    unfold refresh
    by_cases hmust : app.mustPoll due = true
    · rw [if_pos hmust]
      by_cases hactive : app.active = index
      · subst hactive
        rw [if_pos ⟨hmust, rfl⟩, hsource]
        refine ⟨source.poll memory app.history app.keepLastQueue, ?_,
          leaves_poll hinitial hleaves memory app.history⟩
        show (app.sources.modify app.active _)[app.active]? = _
        rw [List.getElem?_modify_eq, hsource]
        rfl
      · rw [if_neg (fun hand => hactive hand.2), List.append_nil]
        refine ⟨source, ?_, hleaves⟩
        show (app.sources.modify app.active _)[index]? = _
        rw [List.getElem?_modify_ne _ _ hactive, hsource]
    · rw [if_neg hmust, if_neg (fun hand => hmust hand.1), List.append_nil]
      exact ⟨source, hsource, hleaves⟩
  | input key? typed due memories =>
    obtain ⟨-, rfl⟩ := step_input.mp hstep
    rw [sources_input]
    show ∃ source, _ ∧
      Leaves _ _ (outcomes ++ if (app.process key? typed).2 = .reconnect then _ else []) source
    by_cases hreconnect : (app.process key? typed).2 = .reconnect
    · rw [if_pos hreconnect, if_pos hreconnect, getElem?_reconnectAll, hsource]
      exact ⟨_, rfl, leaves_reconnect app.keepLastQueue initial outcomes source _ _⟩
    · rw [if_neg hreconnect, if_neg hreconnect, List.append_nil]
      exact ⟨source, hsource, hleaves⟩

theorem leavesAt_run {index : ℕ} {keepLastQueue : Bool} {initial : InspectorSnapshot}
    (hinitial : initial.totalBuffered = 0) (inputs : List Input) :
    ∀ {outcomes : List Outcome} {app app' : InspectorApp},
      LeavesAt index keepLastQueue initial outcomes app → Run.run step app inputs = some app' →
        LeavesAt index keepLastQueue initial
          (outcomes ++ Run.trace step (outcomesOf index) app inputs) app' := by
  induction inputs with
  | nil =>
    intro outcomes app app' h hrun
    rw [← Option.some.inj hrun, Run.trace, List.append_nil]
    exact h
  | cons input inputs ih =>
    intro outcomes app app' h hrun
    obtain ⟨next, hstep, hrun⟩ := Run.run_cons_eq_some.mp hrun
    rw [Run.trace_cons hstep, ← List.append_assoc]
    exact ih (leavesAt_step hinitial h hstep) hrun

/-- **The snapshot of every source, over any run**: what its last poll or reconnection returned;
with `--keep-last-queue`, what the last one returned that was no poll of empty queues, where that
did show something. -/
theorem snapshot_of_run {sources : List (String × BridgeInspector)}
    {history keepLastQueue : Bool} {begun app : InspectorApp} {inputs : List Input}
    (hstart : start sources history keepLastQueue = .ok begun)
    (hrun : Run.run step begun inputs = some app) {index : ℕ} {label : String}
    {inspector : BridgeInspector} (hsource : sources[index]? = some (label, inspector)) :
    ∃ source, app.sources[index]? = some source ∧ source.snapshot =
      shown keepLastQueue { shmName := inspector.shmName }
        (Run.trace step (outcomesOf index) begun inputs) := by
  have hbegun : LeavesAt index keepLastQueue { shmName := inspector.shmName } [] begun := by
    unfold start at hstart
    split_ifs at hstart
    obtain rfl := Except.ok.inj hstart
    refine ⟨rfl, ⟨label, inspector, { shmName := inspector.shmName }, false⟩, ?_, ?_, ?_⟩
    · show (sources.map _)[index]? = _
      rw [List.getElem?_map, hsource]
      rfl
    · cases keepLastQueue <;> rfl
    · exact fun hne => absurd rfl hne
  obtain ⟨-, source, hsource, hleaves⟩ := leavesAt_run rfl inputs hbegun hrun
  exact ⟨source, hsource, hleaves.snapshot⟩

/-- A message, then a poll that finds nothing: the message stays. -/
theorem snapshot_of_run_kept : ∃ app source,
    Run.run step (motorInspector true) [.frame true (holding ["a"]) 24 80,
      .input none "" true fun _ => holding [], .frame true (holding []) 24 80] = some app ∧
    app.sources[0]? = some source ∧ source.snapshot.totalBuffered = 1 := by
  have hstart : start [("RX", motorBridge)] false true = .ok (motorInspector true) := rfl
  have hrun : Run.run step (motorInspector true) [.frame true (holding ["a"]) 24 80,
      .input none "" true fun _ => holding [], .frame true (holding []) 24 80] = some _ := rfl
  obtain ⟨source, hsource, hsnapshot⟩ := snapshot_of_run hstart hrun
    (rfl : [("RX", motorBridge)][0]? = some _)
  exact ⟨_, source, hrun, hsource, by rw [hsnapshot]; rfl⟩

end InspectorApp

/-! ## The pause -/

/-- The keys that end the pause, switch the source or the mode, connect again or quit. -/
def Key.asks : Key → Bool
  | .char c => c ∈ ['q', 'Q', '\t', 'p', 'P', 'h', 'H', 'c', 'C'] || ('1' ≤ c && c ≤ '9')
  | .backTab => true
  | .up | .down | .pageUp | .pageDown | .home | .other => false

def Input.asks : Input → Bool
  | .frame _ _ _ _ => false
  | .input key? _ _ _ => key?.any Key.asks

namespace InspectorTui

theorem sourceKey_of_not_asks {c : Char} (h : (Key.char c).asks = false) (sourceCount : ℕ) :
    sourceKey sourceCount c = .none := by
  unfold sourceKey
  unfold Key.asks at h
  rw [Bool.or_eq_false_iff, Bool.and_eq_false_iff] at h
  apply if_neg
  rintro ⟨hlow, hhigh, -⟩
  rcases h.2 with h | h
  · exact of_decide_eq_false h hlow
  · exact of_decide_eq_false h hhigh

theorem paused_selectUp (tui : InspectorTui) : tui.selectUp.paused = tui.paused := by
  unfold selectUp
  split_ifs <;> rfl

theorem paused_selectDown (tui : InspectorTui) : tui.selectDown.paused = tui.paused := by
  unfold selectDown
  split_ifs <;> rfl

/-- The other keys move the view at most. -/
theorem processInput_of_not_asks (tui : InspectorTui) (sourceCount : ℕ) (typed : String) {key : Key}
    (h : key.asks = false) :
    ((tui.processInput sourceCount typed key).2 = .none ∨
      (tui.processInput sourceCount typed key).2 = .redraw) ∧
    (tui.processInput sourceCount typed key).1.paused = tui.paused := by
  unfold processInput
  split
  case h_14 | h_15 => exact ⟨Or.inr rfl, paused_selectUp tui⟩
  case h_16 | h_17 => exact ⟨Or.inr rfl, paused_selectDown tui⟩
  case h_21 => exact ⟨Or.inl (sourceKey_of_not_asks h sourceCount), rfl⟩
  all_goals first
    | exact absurd h (by decide)
    | exact ⟨Or.inr rfl, rfl⟩
    | exact ⟨Or.inl rfl, rfl⟩

end InspectorTui

namespace InspectorApp

/-- Nothing is polled in this state, and the sources are these. -/
structure Frozen (sources : List Source) (active : ℕ) (app : InspectorApp) : Prop where
  kept : app.sources = sources
  same : app.active = active
  paused : app.tui.paused = true
  idle : app.forcePoll = false
  polled : ∃ source, sources[active]? = some source ∧ source.hasSnapshot = true

theorem Frozen.mustPoll {sources : List Source} {active : ℕ} {app : InspectorApp}
    (h : Frozen sources active app) (due : Bool) : ¬ app.mustPoll due = true := by
  obtain ⟨source, hsource, hpolled⟩ := h.polled
  unfold InspectorApp.mustPoll
  rw [h.idle, h.kept, h.same, hsource, h.paused]
  simp [hpolled]

theorem frozen_step {sources : List Source} {active : ℕ} (app : InspectorApp) (input : Input)
    (app' : InspectorApp) (h : Frozen sources active app) (hkey : input.asks = false)
    (hstep : app.step input = some app') : Frozen sources active app' := by
  cases input with
  | frame due memory height width =>
    obtain ⟨-, rfl⟩ := step_frame.mp hstep
    unfold frame refresh
    rw [if_neg (h.mustPoll due)]
    exact ⟨h.kept, h.same, (InspectorTui.paused_draw _ _ _ _ _).trans h.paused, h.idle,
      h.polled⟩
  | input key? typed due memories =>
    obtain ⟨-, rfl⟩ := step_input.mp hstep
    have hview : ((app.process key? typed).2 = .none ∨ (app.process key? typed).2 = .redraw) ∧
        (app.process key? typed).1.paused = app.tui.paused := by
      cases key? with
      | none => exact ⟨Or.inl rfl, rfl⟩
      | some key => exact app.tui.processInput_of_not_asks app.sources.length typed hkey
    obtain ⟨haction, hpaused⟩ := hview
    unfold InspectorApp.input
    rcases haction with haction | haction
    · rw [if_pos haction]
      exact ⟨h.kept, h.same, hpaused.trans h.paused, h.idle, h.polled⟩
    · rw [if_neg (by rw [haction]; decide), haction]
      exact ⟨h.kept, h.same, hpaused.trans h.paused, h.idle, h.polled⟩

/-- **The pause.** After a frame that is drawn in the pause, no run without the keys that ask for
it polls: all snapshots, the source and the pause stay as they are, whatever is filtered, scrolled
and selected. -/
theorem frozen_of_run {sources : List (String × BridgeInspector)} {history keepLastQueue : Bool}
    {begun app framed app' : InspectorApp} {before inputs : List Input} {due : Bool}
    {memory : Memory} {height width : ℕ}
    (hstart : start sources history keepLastQueue = .ok begun)
    (hbefore : Run.run step begun before = some app)
    (hframe : app.step (.frame due memory height width) = some framed)
    (hpaused : framed.tui.paused = true) (hkeys : ∀ input ∈ inputs, input.asks = false)
    (hrun : Run.run step framed inputs = some app') :
    app'.sources = framed.sources ∧ app'.active = framed.active ∧ app'.tui.paused = true := by
  have hinv : app.Inv := inv_run before (inv_start hstart) hbefore
  obtain ⟨source, hsource, hpolled, -, -⟩ := getElem?_refresh hinv due memory
  obtain ⟨-, rfl⟩ := step_frame.mp hframe
  have hforce : (app.frame due memory height width).1.forcePoll = false := by
    unfold frame
    rw [refresh_eq]
  have hactive : (app.frame due memory height width).1.active = app.active := by
    unfold frame
    rw [refresh_eq]
  have hfrozen : Frozen (app.frame due memory height width).1.sources app.active
      (app.frame due memory height width).1 :=
    ⟨rfl, hactive, hpaused, hforce, source, hsource, hpolled⟩
  have hend := Run.inv_of_meets frozen_step inputs hfrozen
    (Run.meets_of_forall inputs hkeys) hrun
  exact ⟨hend.kept, hend.same.trans hactive.symm, hend.paused⟩

/-- The queue grows in the pause, the snapshot does not. -/
theorem frozen_of_run_one : ∃ app framed app',
    Run.run step (motorInspector false) [.frame true (holding ["a"]) 24 80,
      .input (some (.char 'p')) "" true fun _ => holding []] = some app ∧
    app.step (.frame true (holding ["a", "b"]) 24 80) = some framed ∧
    Run.run step framed [.input (some .down) "" true fun _ => holding [],
      .frame true (holding ["a", "b", "c"]) 24 80] = some app' ∧
    app'.sources = framed.sources ∧ app'.active = framed.active ∧ app'.tui.paused = true := by
  have hstart : start [("RX", motorBridge)] false false = .ok (motorInspector false) := rfl
  have hbefore : Run.run step (motorInspector false) [.frame true (holding ["a"]) 24 80,
      .input (some (.char 'p')) "" true fun _ => holding []] = some _ := rfl
  have hkeys : ∀ input ∈ [Input.input (some .down) "" true fun _ => holding [],
      .frame true (holding ["a", "b", "c"]) 24 80], input.asks = false := by
    simp [Input.asks, Key.asks]
  exact ⟨_, _, _, hbefore, rfl, rfl, frozen_of_run hstart hbefore rfl rfl hkeys rfl⟩

end InspectorApp

end EcatMiddleware.Tools
