import EcatMiddleware.Lib.Run

/-!
# The lifecycle of a plugin

`PluginExec` starts its adapters, waits for a termination signal or an adapter that is not healthy,
and joins the worker threads. Signal handler, `start`, `stop` and the workers write one flag.

* `step`: the owner's calls, the steps of the main thread and of each worker, what the adapters
  throw there, and signals.
* `running_of_step`: only the first store of `start` sets the flag.
* `keepsRequest_iff`: a run keeps every termination request exactly when no request has been handled
  where `start` makes that store.
-/

namespace EcatMiddleware.Core

inductive Signal where
  | sigint
  | sigterm
  deriving DecidableEq, Repr

/-- Where a worker thread is in its loop. -/
inductive WorkerPc where
  | test
  | body
  | unhealthy
  | done
  deriving DecidableEq, Repr

/-- A `Process`. Its thread is joinable when it is `some`. -/
structure Process where
  hasAdapter : Bool
  thread : Option WorkerPc := none
  deriving DecidableEq, Repr

/-- Where the main thread is in the members of `PluginExec`. -/
inductive MainPc where
  | unconstructed
  | install (signals : List Signal)
  | idle
  | enter (waitForExit : Bool)
  | starting (waitForExit : Bool) (next : ℕ)
  | failed (waitForExit : Bool)
  | waiting
  | stopping (destroying : Bool)
  | joining (destroying : Bool) (next : ℕ)
  | clearInstance
  | destroyed
  | terminated
  deriving DecidableEq, Repr

/-- The executor, and whether its handler has run. -/
structure PluginExec where
  pc : MainPc := .unconstructed
  hasInstance : Bool := false
  installed : List Signal := []
  running : Bool := false
  processes : List Process := []
  handled : Bool := false
  deriving DecidableEq, Repr

/-- The calls of the owner, and the steps of the threads and of the system. -/
inductive Action where
  | construct
  | registerAdapter (hasAdapter : Bool)
  | start (waitForExit : Bool)
  | stop
  | destroy
  /-- The next step of the call in progress; `adapterStarts` is what `adapter_->start()` returns. -/
  | main (adapterStarts : Bool)
  /-- The next step of a worker; `health` is the outcome of the health check, where it is due. -/
  | worker (i : ℕ) (health : Option Bool)
  /-- `adapter_->start()` throws, or the thread cannot be created: the exception leaves `start`, and
  the scope of the owner destroys the executor. -/
  | startThrows
  /-- The adapter of a worker throws from `is_ok` or `spin_once`; the thread catches nothing. -/
  | workerThrows (i : ℕ)
  | signal (sig : Signal)
  deriving DecidableEq, Repr

namespace PluginExec

/-- The thread of a process. -/
def setThread (s : PluginExec) (i : ℕ) (thread : Option WorkerPc) : PluginExec :=
  { s with processes := s.processes.modify i fun p => { p with thread := thread } }

/-- Where `start` goes after its loop. -/
def afterStarting (waitForExit : Bool) : MainPc := if waitForExit then .waiting else .idle

/-- `Process::start` of process `i`. -/
def startProcess (s : PluginExec) (waitForExit : Bool) (i : ℕ) (p : Process)
    (adapterStarts : Bool) : PluginExec :=
  if !p.hasAdapter || !adapterStarts then { s with pc := .failed waitForExit }
  -- a thread must not be assigned to one that is joinable
  else if p.thread.isSome then { s with pc := .terminated }
  else { s.setThread i (some .test) with pc := .starting waitForExit (i + 1) }

/-- One step of the constructor, `start`, `stop` or the destructor. -/
def mainStep (s : PluginExec) (adapterStarts : Bool) : Option PluginExec :=
  match s.pc with
  | .install [] => some { s with pc := .idle }
  | .install (sig :: signals) =>
    some { s with installed := sig :: s.installed, pc := .install signals }
  | .enter waitForExit => some { s with running := true, pc := .starting waitForExit 0 }
  | .starting waitForExit i =>
    match s.processes[i]? with
    | none => some { s with pc := afterStarting waitForExit }
    | some p => some (s.startProcess waitForExit i p adapterStarts)
  | .failed waitForExit => some { s with running := false, pc := afterStarting waitForExit }
  | .waiting => some (if s.running then s else { s with pc := .stopping false })
  | .stopping destroying => some { s with running := false, pc := .joining destroying 0 }
  | .joining destroying i =>
    match s.processes[i]? with
    | none => some { s with pc := if destroying then .clearInstance else .idle }
    | some p =>
      match p.thread with
      | none => some { s with pc := .joining destroying (i + 1) }
      | some .done => some { s.setThread i none with pc := .joining destroying (i + 1) }
      | some _ => none
  | .clearInstance => some { s with hasInstance := false, pc := .destroyed }
  | _ => none

/-- One step of the loop of a worker. -/
def workerStep (s : PluginExec) (i : ℕ) (health : Option Bool) : Option PluginExec :=
  match s.processes[i]?.bind Process.thread with
  | some .test => some (s.setThread i (some (if s.running then .body else .done)))
  | some .body => some (s.setThread i (some (if health = some false then .unhealthy else .test)))
  | some .unhealthy => some { s.setThread i (some .done) with running := false }
  | _ => none

/-- An exception in the loop of `start`. -/
def startThrows (s : PluginExec) : Option PluginExec :=
  match s.pc with
  | .starting _ i =>
    if (s.processes[i]?.map Process.hasAdapter).getD false then some { s with pc := .stopping true }
    else none
  | _ => none

/-- An exception in the body of the loop of a worker ends the program. -/
def workerThrows (s : PluginExec) (i : ℕ) : Option PluginExec :=
  match s.processes[i]?.bind Process.thread with
  | some .body => some { s with pc := .terminated }
  | _ => none

/-- `SignalHandler`. -/
def signalHandler (s : PluginExec) : PluginExec :=
  { s with running := if s.hasInstance then false else s.running, handled := true }

/-- A call that the owner makes between two others. -/
def call (s : PluginExec) (s' : PluginExec) : Option PluginExec :=
  if s.pc = .idle then some s' else none

/-- What an action does while the program runs. -/
def perform (s : PluginExec) : Action → Option PluginExec
  | .construct =>
    if s.pc = .unconstructed then
      some { s with hasInstance := true, pc := .install [.sigint, .sigterm] }
    else none
  | .registerAdapter hasAdapter =>
    s.call { s with processes := s.processes ++ [{ hasAdapter := hasAdapter }] }
  | .start waitForExit => s.call { s with pc := .enter waitForExit }
  | .stop => s.call { s with pc := .stopping false }
  | .destroy => s.call { s with pc := .stopping true }
  | .main adapterStarts => s.mainStep adapterStarts
  | .worker i health => s.workerStep i health
  | .startThrows => s.startThrows
  | .workerThrows i => s.workerThrows i
  | .signal sig =>
    -- without a handler the signal ends the program
    some (if sig ∈ s.installed then s.signalHandler else { s with pc := .terminated })

/-- One step of the program. -/
def step (s : PluginExec) (a : Action) : Option PluginExec :=
  if s.pc = .terminated then none else s.perform a

/-! ## Who writes the flag -/

variable {s s' : PluginExec} {a : Action}

/-- The step is the store of `start`. -/
def Stores (s : PluginExec) (a : Action) : Prop :=
  (∃ waitForExit, s.pc = .enter waitForExit) ∧ ∃ adapterStarts, a = .main adapterStarts

/-- Where `stop` has made its store and `start` cannot make one, or nothing is constructed yet. -/
def Stopped : MainPc → Prop
  | .unconstructed | .joining _ _ | .clearInstance | .destroyed => True
  | _ => False

/-- Where the executor exists. -/
def Live : MainPc → Prop
  | .unconstructed | .destroyed | .terminated => False
  | _ => True

/-- Before construction and after destruction nothing can set the flag. -/
theorem stopped_of_not_live {pc : MainPc} (hpc : pc ≠ .terminated) (h : ¬ Live pc) :
    Stopped pc := by
  cases pc with
  | unconstructed => trivial
  | destroyed => trivial
  | terminated => exact absurd rfl hpc
  | _ => exact absurd trivial h

/-- What holds as long as no request is lost. -/
structure Inv (s : PluginExec) : Prop where
  kept : s.handled = true → s.running = false
  stopped : Stopped s.pc → s.running = false
  live : Live s.pc → s.hasInstance = true

namespace Inv

theorem running_of {pc : MainPc} (hs : s.Inv) (hpc : s.pc = pc) (h : Stopped pc) :
    s.running = false := hs.stopped (hpc ▸ h)

theorem hasInstance_of {pc : MainPc} (hs : s.Inv) (hpc : s.pc = pc) (h : Live pc) :
    s.hasInstance = true := hs.live (hpc ▸ h)

/-- The main thread goes on, without a store. -/
theorem goto {pc : MainPc} (hs : s.Inv) (hstop : Stopped pc → s.running = false)
    (hlive : Live pc → s.hasInstance = true) : Inv { s with pc := pc } :=
  ⟨hs.kept, hstop, hlive⟩

/-- Any thread clears the flag. -/
theorem clear (hs : s.Inv) : Inv { s with running := false } :=
  ⟨fun _ => rfl, fun _ => rfl, hs.live⟩

theorem setThread (hs : s.Inv) (i : ℕ) (thread : Option WorkerPc) : (s.setThread i thread).Inv :=
  ⟨hs.kept, hs.stopped, hs.live⟩

theorem startProcess (hs : s.Inv) (hlive : s.hasInstance = true) (waitForExit : Bool) (i : ℕ)
    (p : Process) (adapterStarts : Bool) :
    (s.startProcess waitForExit i p adapterStarts).Inv := by
  unfold PluginExec.startProcess
  split_ifs
  · exact hs.goto False.elim fun _ => hlive
  · exact hs.goto False.elim False.elim
  · exact (hs.setThread i _).goto False.elim fun _ => hlive

/-- A step of the main thread. The store of `start` needs that no request was handled. -/
theorem mainStep {adapterStarts : Bool} (hs : s.Inv)
    (hstore : (∃ waitForExit, s.pc = .enter waitForExit) → s.handled = false)
    (h : s.mainStep adapterStarts = some s') : s'.Inv := by
  unfold PluginExec.mainStep at h
  cases hpc : s.pc with
  | unconstructed => simp [hpc] at h
  | idle => simp [hpc] at h
  | destroyed => simp [hpc] at h
  | terminated => simp [hpc] at h
  | install signals =>
    have hexists := hs.hasInstance_of hpc trivial
    cases signals with
    | nil =>
      obtain rfl : _ = s' := by simpa [hpc] using h
      exact hs.goto False.elim fun _ => hexists
    | cons sig signals =>
      obtain rfl : _ = s' := by simpa [hpc] using h
      exact ⟨hs.kept, False.elim, fun _ => hexists⟩
  | enter waitForExit =>
    have hexists := hs.hasInstance_of hpc trivial
    obtain rfl : _ = s' := by simpa [hpc] using h
    refine ⟨fun hhandled => ?_, False.elim, fun _ => hexists⟩
    rw [hstore ⟨waitForExit, hpc⟩] at hhandled
    exact absurd hhandled Bool.false_ne_true
  | starting waitForExit i =>
    have hexists := hs.hasInstance_of hpc trivial
    cases hp : s.processes[i]? with
    | none =>
      obtain rfl : _ = s' := by simpa [hpc, hp] using h
      refine hs.goto (fun hstop => ?_) fun _ => hexists
      cases waitForExit <;> exact hstop.elim
    | some p =>
      obtain rfl : _ = s' := by simpa [hpc, hp] using h
      exact hs.startProcess hexists _ _ _ _
  | failed waitForExit =>
    have hexists := hs.hasInstance_of hpc trivial
    obtain rfl : _ = s' := by simpa [hpc] using h
    exact hs.clear.goto (fun _ => rfl) fun _ => hexists
  | waiting =>
    have hexists := hs.hasInstance_of hpc trivial
    obtain rfl : _ = s' := by simpa [hpc] using h
    split_ifs
    · exact hs
    · exact hs.goto False.elim fun _ => hexists
  | stopping destroying =>
    have hexists := hs.hasInstance_of hpc trivial
    obtain rfl : _ = s' := by simpa [hpc] using h
    exact hs.clear.goto (fun _ => rfl) fun _ => hexists
  | joining destroying i =>
    have hexists := hs.hasInstance_of hpc trivial
    have hstopped := hs.running_of hpc trivial
    cases hp : s.processes[i]? with
    | none =>
      obtain rfl : _ = s' := by simpa [hpc, hp] using h
      exact hs.goto (fun _ => hstopped) fun _ => hexists
    | some p =>
      cases hthread : p.thread with
      | none =>
        obtain rfl : _ = s' := by simpa [hpc, hp, hthread] using h
        exact hs.goto (fun _ => hstopped) fun _ => hexists
      | some pc =>
        cases pc with
        | done =>
          obtain rfl : _ = s' := by simpa [hpc, hp, hthread] using h
          exact (hs.setThread i none).goto (fun _ => hstopped) fun _ => hexists
        | test => simp [hpc, hp, hthread] at h
        | body => simp [hpc, hp, hthread] at h
        | unhealthy => simp [hpc, hp, hthread] at h
  | clearInstance =>
    obtain rfl : _ = s' := by simpa [hpc] using h
    exact ⟨hs.kept, fun _ => hs.running_of hpc trivial, False.elim⟩

theorem workerStep {i : ℕ} {health : Option Bool} (hs : s.Inv)
    (h : s.workerStep i health = some s') : s'.Inv := by
  unfold PluginExec.workerStep at h
  split at h
  · obtain rfl := Option.some.inj h
    exact hs.setThread i _
  · obtain rfl := Option.some.inj h
    exact hs.setThread i _
  · obtain rfl := Option.some.inj h
    exact (hs.setThread i _).clear
  · exact absurd h nofun

theorem startThrows (hs : s.Inv) (h : s.startThrows = some s') : s'.Inv := by
  unfold PluginExec.startThrows at h
  split at h
  · next hpc =>
    split_ifs at h
    rw [← Option.some.inj h]
    exact hs.goto False.elim fun _ => hs.hasInstance_of hpc trivial
  · exact absurd h nofun

theorem workerThrows {i : ℕ} (hs : s.Inv) (h : s.workerThrows i = some s') : s'.Inv := by
  unfold PluginExec.workerThrows at h
  split at h
  · rw [← Option.some.inj h]
    exact hs.goto False.elim False.elim
  · exact absurd h nofun

/-- The handler clears the flag; without an instance it is clear. -/
theorem signalHandler (hs : s.Inv) (hpc : s.pc ≠ .terminated) : s.signalHandler.Inv := by
  have hclear : s.signalHandler.running = false := by
    show (if s.hasInstance then false else s.running) = false
    split_ifs with hinstance
    · rfl
    · exact hs.stopped (stopped_of_not_live hpc (mt hs.live hinstance))
  exact ⟨fun _ => hclear, fun _ => hclear, hs.live⟩

/-- A call of the owner, made where the main thread is idle. -/
theorem of_call {t : PluginExec} (ht : s.pc = .idle → t.Inv) (h : s.call t = some s') :
    s'.Inv := by
  unfold PluginExec.call at h
  split_ifs at h with hpc
  rw [← Option.some.inj h]
  exact ht hpc

/-- **One step.** -/
theorem step (hs : s.Inv) (hstore : Stores s a → s.handled = false)
    (h : s.step a = some s') : s'.Inv := by
  unfold PluginExec.step at h
  split_ifs at h with hterminated
  have hidle : s.pc = .idle → s.hasInstance = true := fun hpc => hs.hasInstance_of hpc trivial
  cases a with
  | construct =>
    unfold PluginExec.perform at h
    split_ifs at h with hpc
    rw [← Option.some.inj h]
    exact ⟨hs.kept, False.elim, fun _ => rfl⟩
  | registerAdapter hasAdapter =>
    refine of_call (fun _ => ?_) h
    exact ⟨hs.kept, hs.stopped, hs.live⟩
  | start waitForExit => exact of_call (fun hpc => hs.goto False.elim fun _ => hidle hpc) h
  | stop => exact of_call (fun hpc => hs.goto False.elim fun _ => hidle hpc) h
  | destroy => exact of_call (fun hpc => hs.goto False.elim fun _ => hidle hpc) h
  | main adapterStarts => exact hs.mainStep (fun henter => hstore ⟨henter, _, rfl⟩) h
  | worker i health => exact hs.workerStep h
  | startThrows => exact hs.startThrows h
  | workerThrows i => exact hs.workerThrows h
  | signal sig =>
    rw [← Option.some.inj h]
    split_ifs
    · exact hs.signalHandler hterminated
    · exact hs.goto False.elim False.elim

end Inv

theorem inv_initial : Inv {} := ⟨fun _ => rfl, fun _ => rfl, False.elim⟩

/-! ## Runs -/

/-- Once a request is handled, no step of the run sets the flag. -/
def KeepsRequest (actions : List Action) : Prop :=
  ∀ before a after s s', actions = before ++ a :: after → Run.run step {} before = some s →
    s.handled = true → s.step a = some s' → s'.running = false

/-- No request was handled where `start` makes its store. -/
def Timely (s : PluginExec) (a : Action) : Prop := Stores s a → s.handled = false

theorem handled_mainStep {adapterStarts : Bool} (h : s.mainStep adapterStarts = some s') :
    s'.handled = s.handled := by
  unfold mainStep startProcess at h
  grind [setThread]

theorem handled_workerStep {i : ℕ} {health : Option Bool} (h : s.workerStep i health = some s') :
    s'.handled = s.handled := by
  unfold workerStep at h
  grind [setThread]

theorem handled_startThrows (h : s.startThrows = some s') : s'.handled = s.handled := by
  unfold startThrows at h
  grind

theorem handled_workerThrows {i : ℕ} (h : s.workerThrows i = some s') :
    s'.handled = s.handled := by
  unfold workerThrows at h
  grind

theorem handled_call {t : PluginExec} (ht : t.handled = s.handled) (h : s.call t = some s') :
    s'.handled = s.handled := by
  unfold call at h
  split_ifs at h
  rw [← Option.some.inj h, ht]

/-- The handler's mark stays. -/
theorem handled_of_step (hs : s.handled = true) (h : s.step a = some s') : s'.handled = true := by
  unfold step at h
  split_ifs at h
  cases a with
  | construct =>
    unfold perform at h
    split_ifs at h
    rw [← Option.some.inj h]
    exact hs
  | registerAdapter hasAdapter => exact (handled_call (by rfl) h).trans hs
  | start waitForExit => exact (handled_call (by rfl) h).trans hs
  | stop => exact (handled_call (by rfl) h).trans hs
  | destroy => exact (handled_call (by rfl) h).trans hs
  | main adapterStarts => exact (handled_mainStep h).trans hs
  | worker i health => exact (handled_workerStep h).trans hs
  | startThrows => exact (handled_startThrows h).trans hs
  | workerThrows i => exact (handled_workerThrows h).trans hs
  | signal sig =>
    rw [← Option.some.inj h]
    split_ifs
    · rfl
    · exact hs

/-- **Requests are kept** in a run exactly when `start` never makes its store after one. -/
theorem keepsRequest_iff (actions : List Action) :
    KeepsRequest actions ↔ Run.Meets step Timely {} actions := by
  rw [Run.meets_iff]
  constructor
  · intro h before a after s heq hrun hstores
    by_contra hhandled
    obtain ⟨⟨waitForExit, hpc⟩, adapterStarts, rfl⟩ := hstores
    have hstep : s.step (.main adapterStarts) =
        some { s with running := true, pc := .starting waitForExit 0 } := by
      simp [step, perform, mainStep, hpc]
    have hfalse := h before _ after s _ heq hrun (by simpa using hhandled) hstep
    exact Bool.false_ne_true hfalse.symm
  · intro h before a after s s' heq hrun hhandled hstep
    have hmeets : Run.Meets step Timely {} before := by
      refine (Run.meets_iff before).mpr fun b c d t hb ht => ?_
      exact h b c (d ++ a :: after) t (by rw [heq, hb]; simp) ht
    have hinv : s.Inv :=
      Run.inv_of_meets (fun _ _ _ hs hc h => hs.step hc h) before inv_initial hmeets hrun
    exact (hinv.step (h before a after s heq hrun) hstep).kept (handled_of_step hhandled hstep)

/-- SIGINT is handled between the registration and `start`. -/
def earlySignal : List Action :=
  [.construct, .main true, .main true, .main true, .registerAdapter true, .signal .sigint,
    .start true, .main true, .main true, .main true, .worker 0 none]

/-- The early request is lost: the worker spins, and `start` waits. -/
theorem earlySignal_lost :
    Run.run step {} earlySignal =
        some { pc := .waiting, hasInstance := true, installed := [.sigterm, .sigint],
               running := true, processes := [⟨true, some .body⟩], handled := true } ∧
      ¬ KeepsRequest earlySignal := by
  refine ⟨by decide, fun h => ?_⟩
  have hstore := h (earlySignal.take 7) (.main true) (earlySignal.drop 8) _ _ rfl rfl rfl rfl
  exact Bool.false_ne_true hstore.symm

end PluginExec

end EcatMiddleware.Core
