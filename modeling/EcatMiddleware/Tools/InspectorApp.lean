import EcatMiddleware.Lib.Run
import EcatMiddleware.Tools.InspectorTui

/-!
# The shared-memory inspector

`InspectorApp::run` polls the active source, draws it, and waits for a key or for the next poll.

Each step of the two loops takes what the outside world answers. `frame_current` says what every
frame of a run shows of the active source.
-/

namespace EcatMiddleware.Tools

/-! ## Sources -/

structure QueueDescriptor where
  name : String
  protoName : String
  capacity : ℕ

/-- What the reads of a queue return or throw; other programs use the memory at the same time, so
that the three need not agree. -/
structure QueueView where
  peekAll : Except String (List String)
  peekLatest : Except String (Option String)
  size : ℕ

/-- The messages that the reader of a queue adds. -/
def QueueView.read (view : QueueView) (history : Bool) : Except String (List String) :=
  if history then view.peekAll else view.peekLatest.map Option.toList

/-- The shared memory, as the calls of one poll or of one reconnection find it. -/
structure Memory where
  /-- What `SharedMemory::open` throws, or whether it returns a pointer that is not null. -/
  opened : Except String Bool
  isOk : Bool
  hasBridge : Bool
  view : String → QueueView

/-- `BridgeInspector`, without the times of its statistics; `hasShm` says that `shm_` is not null,
and `queues` are those that `declare` registers. -/
structure BridgeInspector where
  shmName : String
  queues : List QueueDescriptor
  hasShm : Bool := true
  initialized : Bool := false
  totalObserved : String → ℕ := fun _ => 0

namespace BridgeInspector

def initializeBridge (inspector : BridgeInspector) (memory : Memory) :
    Except String BridgeInspector :=
  if inspector.initialized then .ok inspector
  else if !inspector.hasShm || !memory.isOk then
    .error ("Unable to open shared memory '" ++ inspector.shmName ++ "'")
  else if !memory.hasBridge then
    .error ("Shared memory '" ++ inspector.shmName ++ "' returned a null bridge")
  else .ok { inspector with initialized := true }

/-- A queue without a message has no entry in the map of the source. -/
def read (inspector : BridgeInspector) (memory : Memory) (history : Bool) :
    Except String (String → List String) :=
  inspector.queues.foldlM (fun messages queue => do
    let received ← (memory.view queue.name).read history
    return fun name => if name = queue.name then messages name ++ received else messages name)
    fun _ => []

def updateStats (inspector : BridgeInspector) (messages : String → List String) :
    BridgeInspector :=
  { inspector with
    totalObserved := fun name => inspector.totalObserved name + (messages name).length }

def makeSnapshot (inspector : BridgeInspector) (memory : Memory) (messages : String → List String)
    (history keepLastQueue : Bool) : InspectorSnapshot where
  shmName := inspector.shmName
  queues := inspector.queues.map fun queue => {
    name := queue.name
    protoName := queue.protoName
    buffered := (memory.view queue.name).size
    capacity := queue.capacity
    observedMessages := inspector.totalObserved queue.name
    messages := messages queue.name }
  totalBuffered := inspector.queues.foldl (fun total queue =>
    total + (memory.view queue.name).size) 0
  history := history
  keepLastQueue := keepLastQueue

/-- `poll`, with the bridge as it is left when it throws: a read that throws has connected. -/
def poll (inspector : BridgeInspector) (memory : Memory) (history keepLastQueue : Bool) :
    BridgeInspector × Except String InspectorSnapshot :=
  match inspector.initializeBridge memory with
  | .error what => (inspector, .error what)
  | .ok connected =>
    match connected.read memory history with
    | .error what => (connected, .error what)
    | .ok messages =>
      let updated := connected.updateStats messages
      (updated, .ok (updated.makeSnapshot memory messages history keepLastQueue))

/-- `reconnect`: everything is forgotten before the memory is opened again. -/
def reconnect (inspector : BridgeInspector) (memory : Memory) :
    BridgeInspector × Except String Unit :=
  let closed := { inspector with
    hasShm := false, initialized := false, totalObserved := fun _ => 0 }
  match memory.opened with
  | .error what => (closed, .error what)
  | .ok hasShm =>
    let opened := { closed with hasShm := hasShm }
    match opened.initializeBridge memory with
    | .error what => (opened, .error what)
    | .ok connected => (connected, .ok ())

/-- The calls of `reconnect_source`. -/
def reconnectAndPoll (inspector : BridgeInspector) (memory : Memory)
    (history keepLastQueue : Bool) : BridgeInspector × Except String InspectorSnapshot :=
  match inspector.reconnect memory with
  | (left, .error what) => (left, .error what)
  | (connected, .ok ()) => connected.poll memory history keepLastQueue

end BridgeInspector

/-- The entries of `sources_`, of `snapshots` and of `has_snapshot` with one index. -/
structure Source where
  label : String
  inspector : BridgeInspector
  snapshot : InspectorSnapshot
  hasSnapshot : Bool

namespace Source

def failed (source : Source) (history : Bool) (what : String) : InspectorSnapshot :=
  { shmName := source.inspector.shmName, history := history, error := what }

/-- `poll_source`. -/
def poll (source : Source) (memory : Memory) (history keepLastQueue : Bool) : Source :=
  match source.inspector.poll memory history keepLastQueue with
  | (inspector, .ok snapshot) =>
    let kept := if !keepLastQueue then snapshot
      else if snapshot.totalBuffered > 0 then snapshot
      else if source.snapshot.totalBuffered = 0 then snapshot
      else source.snapshot
    { source with inspector := inspector, snapshot := { kept with error := "" },
                  hasSnapshot := true }
  | (inspector, .error what) =>
    { source with inspector := inspector, snapshot := source.failed history what,
                  hasSnapshot := true }

/-- `reconnect_source`. -/
def reconnect (source : Source) (memory : Memory) (history keepLastQueue : Bool) : Source :=
  match source.inspector.reconnectAndPoll memory history keepLastQueue with
  | (inspector, .ok snapshot) =>
    { source with inspector := inspector, snapshot := { snapshot with error := "" },
                  hasSnapshot := true }
  | (inspector, .error what) =>
    { source with inspector := inspector, snapshot := source.failed history what,
                  hasSnapshot := true }

end Source

/-! ## The loop of `run` -/

/-- Where the loop is: before a frame, in the loop that waits for a key, or behind it. -/
inductive Phase where
  | top
  | waiting
  | stopped
  deriving DecidableEq, Repr

structure InspectorApp where
  sources : List Source
  tui : InspectorTui := {}
  history : Bool
  keepLastQueue : Bool
  active : ℕ := 0
  forcePoll : Bool := true
  phase : Phase := .top

/-- What the outside world answers to the loop. -/
inductive Input where
  /-- A frame: whether the next poll is due, and the size of the terminal. -/
  | frame (due : Bool) (memory : Memory) (height width : ℕ)
  /-- `getch`, what is typed into the prompt of a filter, whether the next poll is due after it, and
  the memories that a reconnection finds. -/
  | input (key? : Option Key) (typed : String) (due : Bool) (memories : ℕ → Memory)

namespace InspectorApp

def mustPoll (app : InspectorApp) (due : Bool) : Bool :=
  app.forcePoll || app.sources[app.active]?.all (!·.hasSnapshot) || (!app.tui.paused && due)

/-- The poll before a frame. -/
def refresh (app : InspectorApp) (due : Bool) (memory : Memory) : InspectorApp :=
  if app.mustPoll due then
    { app with
      sources := app.sources.modify app.active (·.poll memory app.history app.keepLastQueue)
      forcePoll := false }
  else app

/-- Poll and draw, `none` for a terminal that is too small. -/
def frame (app : InspectorApp) (due : Bool) (memory : Memory) (height width : ℕ) :
    InspectorApp × Option Screen :=
  let app := app.refresh due memory
  let snapshot := (app.sources[app.active]?.map Source.snapshot).getD {}
  let drawn := app.tui.draw snapshot app.active height width
  ({ app with tui := drawn.1, phase := .waiting }, drawn.2)

/-- Another source is shown, from its top, and polled at once. -/
def select (app : InspectorApp) (index : ℕ) : InspectorApp :=
  { app with active := index, tui := app.tui.resetSelection, forcePoll := true }

def reconnectAll (app : InspectorApp) (memories : ℕ → Memory) : List Source :=
  app.sources.mapIdx fun index source =>
    source.reconnect (memories index) app.history app.keepLastQueue

/-- The `switch` over the actions. -/
def act (app : InspectorApp) (memories : ℕ → Memory) : Action → InspectorApp
  | .none => app
  | .redraw => app
  | .quit => { app with phase := .stopped }
  | .nextSource => app.select ((app.active + 1) % app.sources.length)
  | .previousSource => app.select ((app.active + app.sources.length - 1) % app.sources.length)
  | .selectSource index => if index < app.sources.length then app.select index else app
  | .toggleHistory => { app with history := !app.history, forcePoll := true }
  | .reconnect =>
    { app with sources := app.reconnectAll memories, tui := app.tui.resetSelection,
               forcePoll := false }

/-- `process_input`; `getch` returns `ERR` when there is no key. -/
def process (app : InspectorApp) (key? : Option Key) (typed : String) : InspectorTui × Action :=
  match key? with
  | none => (app.tui, .none)
  | some key => app.tui.processInput app.sources.length typed key

/-- One iteration of the inner loop. -/
def input (app : InspectorApp) (key? : Option Key) (typed : String) (due : Bool)
    (memories : ℕ → Memory) : InspectorApp :=
  let processed := app.process key? typed
  let next := { app with tui := processed.1 }
  if processed.2 = .none then
    { next with phase := if !next.tui.paused && due then .top else .waiting }
  else { next with phase := .top }.act memories processed.2

/-- One step of the two loops. -/
def step (app : InspectorApp) : Input → Option InspectorApp
  | .frame due memory height width =>
    if app.phase = .top then some (app.frame due memory height width).1 else none
  | .input key? typed due memories =>
    if app.phase = .waiting then some (app.input key? typed due memories) else none

/-- The state in which `run` enters its loop. -/
def start (sources : List (String × BridgeInspector)) (history keepLastQueue : Bool) :
    Except String InspectorApp :=
  if sources = [] then .error "No shared memory source configured"
  else .ok {
    sources := sources.map fun source =>
      ⟨source.1, source.2, { shmName := source.2.shmName }, false⟩
    history := history
    keepLastQueue := keepLastQueue }

end InspectorApp

/-! ## One poll -/

/-- What a poll returns is a snapshot in the mode that was asked for, without an error. -/
theorem poll_eq_ok {inspector inspector' : BridgeInspector} {memory : Memory}
    {history keepLastQueue : Bool} {snapshot : InspectorSnapshot}
    (h : inspector.poll memory history keepLastQueue = (inspector', .ok snapshot)) :
    snapshot.history = history ∧ snapshot.error = "" := by
  unfold BridgeInspector.poll at h
  split at h
  · exact absurd (Prod.mk.inj h).2 (by rintro ⟨⟩)
  · split at h
    · exact absurd (Prod.mk.inj h).2 (by rintro ⟨⟩)
    · obtain rfl := Except.ok.inj (Prod.mk.inj h).2
      exact ⟨rfl, rfl⟩

theorem reconnectAndPoll_eq_ok {inspector inspector' : BridgeInspector} {memory : Memory}
    {history keepLastQueue : Bool} {snapshot : InspectorSnapshot}
    (h : inspector.reconnectAndPoll memory history keepLastQueue = (inspector', .ok snapshot)) :
    snapshot.history = history ∧ snapshot.error = "" := by
  unfold BridgeInspector.reconnectAndPoll at h
  split at h
  · exact absurd (Prod.mk.inj h).2 (by rintro ⟨⟩)
  · exact poll_eq_ok h

namespace Source

theorem hasSnapshot_poll (source : Source) (memory : Memory) (history keepLastQueue : Bool) :
    (source.poll memory history keepLastQueue).hasSnapshot = true := by
  unfold poll
  split <;> rfl

theorem history_poll (source : Source) (memory : Memory) (history : Bool) :
    (source.poll memory history false).snapshot.history = history := by
  unfold poll
  split
  · next inspector snapshot h => exact (poll_eq_ok h).1
  · rfl

theorem history_reconnect (source : Source) (memory : Memory) (history keepLastQueue : Bool) :
    (source.reconnect memory history keepLastQueue).snapshot.history = history := by
  unfold reconnect
  split
  · next inspector snapshot h => exact (reconnectAndPoll_eq_ok h).1
  · rfl

end Source

/-! ## What every frame shows -/

namespace InspectorApp

/-- The active source exists, and is in the current mode unless the next frame polls it. -/
structure Inv (app : InspectorApp) : Prop where
  inRange : app.active < app.sources.length
  mode : app.forcePoll = false → app.keepLastQueue = false →
    ∀ source, app.sources[app.active]? = some source → source.hasSnapshot = true →
      source.snapshot.history = app.history

theorem inv_start {sources : List (String × BridgeInspector)} {history keepLastQueue : Bool}
    {app : InspectorApp} (h : start sources history keepLastQueue = .ok app) : app.Inv := by
  unfold start at h
  split_ifs at h with hempty
  obtain rfl := Except.ok.inj h
  refine ⟨?_, by rintro ⟨⟩⟩
  show 0 < (sources.map _).length
  rw [List.length_map]
  exact List.length_pos_of_ne_nil hempty

theorem idle_of_not_mustPoll {app : InspectorApp} {due : Bool} (h : ¬ app.mustPoll due = true) :
    app.forcePoll = false ∧
      ∀ source, app.sources[app.active]? = some source → source.hasSnapshot = true := by
  unfold mustPoll at h
  rw [Bool.or_eq_true, Bool.or_eq_true, not_or, not_or] at h
  refine ⟨Bool.eq_false_iff.mpr h.1.1, fun source hsource => ?_⟩
  have hpolled := h.1.2
  rw [hsource] at hpolled
  simpa using hpolled

theorem forcePoll_refresh (app : InspectorApp) (due : Bool) (memory : Memory) :
    (app.refresh due memory).forcePoll = false := by
  unfold refresh
  by_cases h : app.mustPoll due = true
  · rw [if_pos h]
  · rw [if_neg h]
    exact (idle_of_not_mustPoll h).1

/-- The active source after the poll: it has been polled, now or before. -/
theorem getElem?_refresh {app : InspectorApp} (hinv : app.Inv) (due : Bool) (memory : Memory) :
    ∃ source, (app.refresh due memory).sources[app.active]? = some source ∧
      source.hasSnapshot = true ∧
      (app.keepLastQueue = false → source.snapshot.history = app.history) ∧
      (app.mustPoll due = true → ∃ old, app.sources[app.active]? = some old ∧
        source = old.poll memory app.history app.keepLastQueue) := by
  obtain ⟨old, hold⟩ : ∃ old, app.sources[app.active]? = some old :=
    ⟨_, List.getElem?_eq_getElem hinv.inRange⟩
  unfold refresh
  by_cases hmust : app.mustPoll due = true
  · rw [if_pos hmust]
    refine ⟨old.poll memory app.history app.keepLastQueue, ?_, ?_, ?_, fun _ => ⟨old, hold, rfl⟩⟩
    · show (app.sources.modify _ _)[app.active]? = _
      rw [List.getElem?_modify_eq, hold]
      rfl
    · exact old.hasSnapshot_poll _ _ _
    · intro hkeep
      rw [hkeep]
      exact old.history_poll _ _
  · rw [if_neg hmust]
    obtain ⟨hforce, hpolled⟩ := idle_of_not_mustPoll hmust
    refine ⟨old, hold, hpolled old hold, fun hkeep => ?_, fun h => absurd h hmust⟩
    exact hinv.mode hforce hkeep old hold (hpolled old hold)

theorem length_refresh (app : InspectorApp) (due : Bool) (memory : Memory) :
    (app.refresh due memory).sources.length = app.sources.length := by
  unfold refresh
  split_ifs
  · exact List.length_modify _ _ _
  · rfl

/-- The poll changes the sources only. -/
theorem refresh_eq (app : InspectorApp) (due : Bool) (memory : Memory) :
    app.refresh due memory =
      { app with sources := (app.refresh due memory).sources, forcePoll := false } := by
  have hforce := app.forcePoll_refresh due memory
  unfold refresh at hforce ⊢
  split_ifs at hforce ⊢
  · rfl
  · rw [← hforce]

theorem inv_frame {app : InspectorApp} (hinv : app.Inv) (due : Bool) (memory : Memory)
    (height width : ℕ) : (app.frame due memory height width).1.Inv := by
  obtain ⟨source, hsource, -, hmode, -⟩ := getElem?_refresh hinv due memory
  unfold frame
  rw [refresh_eq]
  refine ⟨?_, fun _ hkeep source' hsource' _ => ?_⟩
  · show app.active < (app.refresh due memory).sources.length
    rw [length_refresh]
    exact hinv.inRange
  · obtain rfl := Option.some.inj (hsource.symm.trans hsource')
    exact hmode hkeep

theorem inv_select {app : InspectorApp} {index : ℕ} (h : index < app.sources.length) :
    (app.select index).Inv := ⟨h, by rintro ⟨⟩⟩

theorem getElem?_reconnectAll (app : InspectorApp) (memories : ℕ → Memory) (index : ℕ) :
    (app.reconnectAll memories)[index]? = app.sources[index]?.map fun source =>
      source.reconnect (memories index) app.history app.keepLastQueue := List.getElem?_mapIdx

theorem inv_act {app : InspectorApp} (hinv : app.Inv) (memories : ℕ → Memory) (action : Action) :
    (app.act memories action).Inv := by
  have hpos : 0 < app.sources.length := by have := hinv.inRange; omega
  cases action with
  | none => exact hinv
  | redraw => exact hinv
  | quit => exact ⟨hinv.inRange, hinv.mode⟩
  | nextSource => exact inv_select (Nat.mod_lt _ hpos)
  | previousSource => exact inv_select (Nat.mod_lt _ hpos)
  | selectSource index =>
    show (if index < app.sources.length then app.select index else app).Inv
    by_cases hindex : index < app.sources.length
    · rw [if_pos hindex]
      exact inv_select hindex
    · rw [if_neg hindex]
      exact hinv
  | toggleHistory => exact ⟨hinv.inRange, by rintro ⟨⟩⟩
  | reconnect =>
    refine ⟨?_, fun _ _ source hsource _ => ?_⟩
    · show app.active < (app.reconnectAll memories).length
      rw [reconnectAll, List.length_mapIdx]
      exact hinv.inRange
    · obtain ⟨old, -, rfl⟩ := Option.map_eq_some_iff.mp
        ((app.getElem?_reconnectAll memories app.active).symm.trans hsource)
      exact old.history_reconnect _ _ _

theorem inv_input {app : InspectorApp} (hinv : app.Inv) (key? : Option Key) (typed : String)
    (due : Bool) (memories : ℕ → Memory) : (app.input key? typed due memories).Inv := by
  unfold input
  by_cases hnone : (app.process key? typed).2 = .none
  · rw [if_pos hnone]
    exact ⟨hinv.inRange, hinv.mode⟩
  · rw [if_neg hnone]
    apply inv_act
    exact ⟨hinv.inRange, hinv.mode⟩

theorem step_frame {app app' : InspectorApp} {due : Bool} {memory : Memory} {height width : ℕ} :
    app.step (.frame due memory height width) = some app' ↔
      app.phase = .top ∧ (app.frame due memory height width).1 = app' :=
  Option.ite_none_right_eq_some.trans (and_congr_right fun _ => Option.some_inj)

theorem step_input {app app' : InspectorApp} {key? : Option Key} {typed : String} {due : Bool}
    {memories : ℕ → Memory} : app.step (.input key? typed due memories) = some app' ↔
      app.phase = .waiting ∧ app.input key? typed due memories = app' :=
  Option.ite_none_right_eq_some.trans (and_congr_right fun _ => Option.some_inj)

theorem inv_step (app : InspectorApp) (input : Input) (app' : InspectorApp) (hinv : app.Inv)
    (h : app.step input = some app') : app'.Inv := by
  cases input with
  | frame due memory height width =>
    obtain ⟨-, rfl⟩ := step_frame.mp h
    exact inv_frame hinv _ _ _ _
  | input key? typed due memories =>
    obtain ⟨-, rfl⟩ := step_input.mp h
    exact inv_input hinv _ _ _ _

theorem inv_run (inputs : List Input) {app app' : InspectorApp} (hinv : app.Inv)
    (h : Run.run step app inputs = some app') : app'.Inv := Run.inv_of_run inv_step inputs hinv h

/-! ## The frames of a run -/

/-- The source and the mode of a frame. -/
def drawn (app : InspectorApp) : Input → List (ℕ × Bool)
  | .frame _ _ _ _ => [(app.active, app.history)]
  | .input _ _ _ _ => []

/-- Where the next frame may do without a poll, `last` is the source and the mode of the last
one. -/
structure Follows (last : Option (ℕ × Bool)) (app : InspectorApp) : Prop where
  same : app.forcePoll = false → last = some (app.active, app.history)
  waiting : app.phase = .waiting → app.forcePoll = false

theorem follows_frame (app : InspectorApp) (due : Bool) (memory : Memory) (height width : ℕ) :
    Follows (some (app.active, app.history)) (app.frame due memory height width).1 := by
  unfold frame
  rw [refresh_eq]
  exact ⟨fun _ => rfl, fun _ => rfl⟩

theorem follows_act {last : Option (ℕ × Bool)} {app : InspectorApp}
    (hsame : last = some (app.active, app.history)) (hphase : app.phase = .top)
    (hforce : app.forcePoll = false) (memories : ℕ → Memory) (action : Action) :
    Follows last (app.act memories action) := by
  have hkeep : Follows last app := ⟨fun _ => hsame, fun _ => hforce⟩
  have hselect : ∀ index, Follows last (app.select index) := fun index =>
    ⟨by rintro ⟨⟩, fun h => absurd (hphase.symm.trans h) (by decide)⟩
  cases action with
  | none => exact hkeep
  | redraw => exact hkeep
  | quit => exact ⟨fun _ => hsame, by rintro ⟨⟩⟩
  | nextSource => exact hselect _
  | previousSource => exact hselect _
  | selectSource index =>
    show Follows last (if index < app.sources.length then app.select index else app)
    split_ifs
    · exact hselect index
    · exact hkeep
  | toggleHistory => exact ⟨by rintro ⟨⟩, fun h => absurd (hphase.symm.trans h) (by decide)⟩
  | reconnect => exact ⟨fun _ => hsame, fun _ => rfl⟩

theorem follows_input {last : Option (ℕ × Bool)} {app : InspectorApp} (h : Follows last app)
    (hphase : app.phase = .waiting) (key? : Option Key) (typed : String) (due : Bool)
    (memories : ℕ → Memory) : Follows last (app.input key? typed due memories) := by
  have hforce := h.waiting hphase
  unfold input
  by_cases hnone : (app.process key? typed).2 = .none
  · rw [if_pos hnone]
    exact ⟨h.same, fun _ => hforce⟩
  · rw [if_neg hnone]
    apply follows_act
    · exact h.same hforce
    · rfl
    · exact hforce

/-- A frame that does not poll follows one of the same source in the same mode. -/
theorem follows_run (inputs : List Input) : ∀ {last : Option (ℕ × Bool)} {app app' : InspectorApp},
    Follows last app → Run.run step app inputs = some app' →
      Follows (last.toList ++ Run.trace step drawn app inputs).getLast? app' := by
  induction inputs with
  | nil =>
    intro last app app' h hrun
    rw [← Option.some.inj hrun, Run.trace, List.append_nil]
    cases last with
    | none => exact h
    | some last => exact h
  | cons input inputs ih =>
    intro last app app' h hrun
    obtain ⟨next, hstep, hrun⟩ := Run.run_cons_eq_some.mp hrun
    rw [Run.trace_cons hstep]
    cases input with
    | frame due memory height width =>
      obtain ⟨-, rfl⟩ := step_frame.mp hstep
      have hrest := ih (follows_frame app due memory height width) hrun
      show Follows (last.toList ++ ((app.active, app.history) :: _)).getLast? app'
      rw [List.getLast?_append_of_ne_nil _ (List.cons_ne_nil _ _)]
      exact hrest
    | input key? typed due memories =>
      obtain ⟨hphase, rfl⟩ := step_input.mp hstep
      exact ih (follows_input h hphase key? typed due memories) hrun

/-- **What is drawn.** In any run, a frame shows the active source: a snapshot that was polled, in
the mode that is on unless the last queue is kept; and it polls the source itself unless the frame
before it is of the same source in the same mode. -/
theorem frame_current {sources : List (String × BridgeInspector)} {history keepLastQueue : Bool}
    {begun app : InspectorApp} {inputs : List Input}
    (hstart : start sources history keepLastQueue = .ok begun)
    (hrun : Run.run step begun inputs = some app) (due : Bool) (memory : Memory)
    (height width : ℕ) :
    ∃ source, (app.frame due memory height width).1.sources[app.active]? = some source ∧
      (app.frame due memory height width).2 =
        (app.tui.draw source.snapshot app.active height width).2 ∧
      source.hasSnapshot = true ∧
      (app.keepLastQueue = false → source.snapshot.history = app.history) ∧
      ((∃ old, app.sources[app.active]? = some old ∧
          source = old.poll memory app.history app.keepLastQueue) ∨
        (app.sources[app.active]? = some source ∧
          (Run.trace step drawn begun inputs).getLast? = some (app.active, app.history))) := by
  obtain ⟨source, hsource, hpolled, hmode, hfresh⟩ :=
    getElem?_refresh (inv_run inputs (inv_start hstart) hrun) due memory
  refine ⟨source, hsource, ?_, hpolled, hmode, ?_⟩
  · unfold frame
    rw [refresh_eq]
    show (app.tui.draw ((Option.map _ (app.refresh due memory).sources[app.active]?).getD {})
      app.active height width).2 = _
    rw [hsource]
    rfl
  · by_cases hmust : app.mustPoll due = true
    · exact Or.inl (hfresh hmust)
    · have hbegun : Follows none begun := by
        unfold start at hstart
        split_ifs at hstart
        rw [← Except.ok.inj hstart]
        exact ⟨by rintro ⟨⟩, by rintro ⟨⟩⟩
      unfold refresh at hsource
      rw [if_neg hmust] at hsource
      have hforce := (idle_of_not_mustPoll hmust).1
      exact Or.inr ⟨hsource, (follows_run inputs hbegun hrun).same hforce⟩

/-- A memory whose queues all hold these messages. -/
def holding (messages : List String) : Memory where
  opened := .ok true
  isOk := true
  hasBridge := true
  view _ := ⟨.ok messages, .ok messages.getLast?, messages.length⟩

/-- One bridge with one queue. -/
def motorBridge : BridgeInspector where
  shmName := "/rx"
  queues := [⟨"motor", "iit.advrf.Ec_slave_pdo", 8⟩]

/-- The inspector of that bridge. -/
def motorInspector (keepLastQueue : Bool) : InspectorApp where
  sources := [⟨"RX", motorBridge, { shmName := "/rx" }, false⟩]
  history := false
  keepLastQueue := keepLastQueue

/-- After `h` the next frame is in the mode of the whole history. -/
theorem frame_current_history : ∃ app source,
    Run.run step (motorInspector false) [.frame true (holding ["a"]) 24 80,
      .input (some (.char 'h')) "" false fun _ => holding []] = some app ∧
    (app.frame false (holding ["a", "b"]) 24 80).1.sources[app.active]? = some source ∧
    source.hasSnapshot = true ∧ source.snapshot.history = true := by
  have hstart : start [("RX", motorBridge)] false false = .ok (motorInspector false) := rfl
  have hrun : Run.run step (motorInspector false) [.frame true (holding ["a"]) 24 80,
      .input (some (.char 'h')) "" false fun _ => holding []] = some _ := rfl
  obtain ⟨source, hsource, -, hpolled, hmode, -⟩ :=
    frame_current hstart hrun false (holding ["a", "b"]) 24 80
  exact ⟨_, source, hrun, hsource, hpolled, hmode rfl⟩

end InspectorApp

end EcatMiddleware.Tools
