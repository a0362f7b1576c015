import Mathlib.Algebra.Order.BigOperators.Group.List
import Mathlib.Algebra.Order.Group.Nat
import Mathlib.Algebra.GroupWithZero.Nat
import EcatMiddleware.Core.PluginExec

/-!
# How a plugin ends

`stop` clears the flag and joins the threads one after the other, while the threads go on until
they see the flag. The destructor then gives up the instance that the signal handler looks for.

* `Move`, `WorkerMove`: everything that a step of the main thread or of a worker can do.
* `Threads`: which threads are joined at each place of the main thread.
* `destroyed_final`: nothing uses the executor after its destructor.
* `terminated_cases`: when `start` always waits, only an early signal or an exception in a worker
  ends the program early.
* `shutdown_ends`: a shutdown ends under every order of steps, with all threads joined.
-/

namespace EcatMiddleware.Core.PluginExec

variable {s s' : PluginExec} {a : Action}

/-- What a step of the main thread can do. -/
inductive Move (s : PluginExec) : PluginExec → Prop
  | installed (hpc : s.pc = .install []) : Move s { s with pc := .idle }
  | install {sig : Signal} {signals : List Signal} (hpc : s.pc = .install (sig :: signals)) :
    Move s { s with installed := sig :: s.installed, pc := .install signals }
  | store {w : Bool} (hpc : s.pc = .enter w) :
    Move s { s with running := true, pc := .starting w 0 }
  | started {w : Bool} {i : ℕ} (hpc : s.pc = .starting w i) (hp : s.processes[i]? = none) :
    Move s { s with pc := afterStarting w }
  | refuse {w : Bool} {i : ℕ} (hpc : s.pc = .starting w i) : Move s { s with pc := .failed w }
  | spawn {w : Bool} {i : ℕ} {p : Process} (hpc : s.pc = .starting w i)
    (hp : s.processes[i]? = some p) (hthread : p.thread = none) :
    Move s { s.setThread i (some .test) with pc := .starting w (i + 1) }
  | abort {w : Bool} {i : ℕ} {p : Process} (hpc : s.pc = .starting w i)
    (hp : s.processes[i]? = some p) (hthread : p.thread ≠ none) :
    Move s { s with pc := .terminated }
  | failed {w : Bool} (hpc : s.pc = .failed w) :
    Move s { s with running := false, pc := afterStarting w }
  | wait (hpc : s.pc = .waiting) (hrunning : s.running = true) : Move s s
  | leave (hpc : s.pc = .waiting) (hrunning : s.running = false) :
    Move s { s with pc := .stopping false }
  | stop {d : Bool} (hpc : s.pc = .stopping d) :
    Move s { s with running := false, pc := .joining d 0 }
  | skip {d : Bool} {i : ℕ} {p : Process} (hpc : s.pc = .joining d i)
    (hp : s.processes[i]? = some p) (hthread : p.thread = none) :
    Move s { s with pc := .joining d (i + 1) }
  | join {d : Bool} {i : ℕ} {p : Process} (hpc : s.pc = .joining d i)
    (hp : s.processes[i]? = some p) (hthread : p.thread = some .done) :
    Move s { s.setThread i none with pc := .joining d (i + 1) }
  | joined {d : Bool} {i : ℕ} (hpc : s.pc = .joining d i) (hp : s.processes[i]? = none) :
    Move s { s with pc := if d then .clearInstance else .idle }
  | cleared (hpc : s.pc = .clearInstance) :
    Move s { s with hasInstance := false, pc := .destroyed }

theorem move_of_startProcess {w : Bool} {i : ℕ} {p : Process} {adapterStarts : Bool}
    (hpc : s.pc = .starting w i) (hp : s.processes[i]? = some p) :
    Move s (s.startProcess w i p adapterStarts) := by
  unfold startProcess
  split_ifs with hstart hthread
  · exact .refuse hpc
  · exact .abort hpc hp (Option.isSome_iff_ne_none.mp hthread)
  · exact .spawn hpc hp (by simpa using hthread)

/-- **Inversion** of the steps of the main thread. -/
theorem move_of_mainStep {adapterStarts : Bool} (h : s.mainStep adapterStarts = some s') :
    Move s s' := by
  unfold mainStep at h
  cases hpc : s.pc with
  | unconstructed => simp [hpc] at h
  | idle => simp [hpc] at h
  | destroyed => simp [hpc] at h
  | terminated => simp [hpc] at h
  | install signals =>
    cases signals with
    | nil =>
      obtain rfl : _ = s' := by simpa [hpc] using h
      exact .installed hpc
    | cons sig signals =>
      obtain rfl : _ = s' := by simpa [hpc] using h
      exact .install hpc
  | enter w =>
    obtain rfl : _ = s' := by simpa [hpc] using h
    exact .store hpc
  | starting w i =>
    cases hp : s.processes[i]? with
    | none =>
      obtain rfl : _ = s' := by simpa [hpc, hp] using h
      exact .started hpc hp
    | some p =>
      obtain rfl : _ = s' := by simpa [hpc, hp] using h
      exact move_of_startProcess hpc hp
  | failed w =>
    obtain rfl : _ = s' := by simpa [hpc] using h
    exact .failed hpc
  | waiting =>
    obtain rfl : _ = s' := by simpa [hpc] using h
    split_ifs with hrunning
    · exact .wait hpc hrunning
    · exact .leave hpc (by simpa using hrunning)
  | stopping d =>
    obtain rfl : _ = s' := by simpa [hpc] using h
    exact .stop hpc
  | joining d i =>
    cases hp : s.processes[i]? with
    | none =>
      obtain rfl : _ = s' := by simpa [hpc, hp] using h
      exact .joined hpc hp
    | some p =>
      cases hthread : p.thread with
      | none =>
        obtain rfl : _ = s' := by simpa [hpc, hp, hthread] using h
        exact .skip hpc hp hthread
      | some pc =>
        cases pc with
        | done =>
          obtain rfl : _ = s' := by simpa [hpc, hp, hthread] using h
          exact .join hpc hp hthread
        | test => simp [hpc, hp, hthread] at h
        | body => simp [hpc, hp, hthread] at h
        | unhealthy => simp [hpc, hp, hthread] at h
  | clearInstance =>
    obtain rfl : _ = s' := by simpa [hpc] using h
    exact .cleared hpc

/-- What a step of worker `i` can do, from one place of its loop to the next. -/
inductive WorkerMove (s : PluginExec) (i : ℕ) : WorkerPc → WorkerPc → PluginExec → Prop
  | enter (hrunning : s.running = true) : WorkerMove s i .test .body (s.setThread i (some .body))
  | leave (hrunning : s.running = false) : WorkerMove s i .test .done (s.setThread i (some .done))
  | again : WorkerMove s i .body .test (s.setThread i (some .test))
  | unhealthy : WorkerMove s i .body .unhealthy (s.setThread i (some .unhealthy))
  | clear : WorkerMove s i .unhealthy .done { s.setThread i (some .done) with running := false }

/-- **Inversion** of the steps of a worker. -/
theorem workerMove_of_workerStep {i : ℕ} {health : Option Bool}
    (h : s.workerStep i health = some s') :
    ∃ p pc pc', s.processes[i]? = some p ∧ p.thread = some pc ∧ WorkerMove s i pc pc' s' := by
  unfold workerStep at h
  cases hthread : s.processes[i]?.bind Process.thread with
  | none => simp [hthread] at h
  | some pc =>
    obtain ⟨p, hp, hpc⟩ := Option.bind_eq_some_iff.mp hthread
    rw [hthread] at h
    cases pc with
    | test =>
      obtain rfl := Option.some.inj h
      cases hrunning : s.running with
      | true => exact ⟨p, _, _, hp, hpc, .enter hrunning⟩
      | false => exact ⟨p, _, _, hp, hpc, .leave hrunning⟩
    | body =>
      obtain rfl := Option.some.inj h
      by_cases hhealth : health = some false
      · rw [if_pos hhealth]
        exact ⟨p, _, _, hp, hpc, .unhealthy⟩
      · rw [if_neg hhealth]
        exact ⟨p, _, _, hp, hpc, .again⟩
    | unhealthy =>
      obtain rfl := Option.some.inj h
      exact ⟨p, _, _, hp, hpc, .clear⟩
    | done => exact absurd h nofun

/-- **Inversion** of the exceptions. -/
theorem of_startThrows (h : s.startThrows = some s') :
    (∃ w i, s.pc = .starting w i) ∧ s' = { s with pc := .stopping true } := by
  unfold startThrows at h
  split at h
  · next w i hpc =>
    split_ifs at h
    exact ⟨⟨w, i, hpc⟩, (Option.some.inj h).symm⟩
  · exact absurd h nofun

theorem of_workerThrows {i : ℕ} (h : s.workerThrows i = some s') :
    (∃ p, s.processes[i]? = some p ∧ p.thread = some .body) ∧
      s' = { s with pc := .terminated } := by
  unfold workerThrows at h
  cases hthread : s.processes[i]?.bind Process.thread with
  | none => simp [hthread] at h
  | some pc =>
    rw [hthread] at h
    cases pc with
    | body => exact ⟨Option.bind_eq_some_iff.mp hthread, (Option.some.inj h).symm⟩
    | test | unhealthy | done => exact absurd h nofun

theorem processes_setThread_self {i : ℕ} {p : Process} {thread : Option WorkerPc}
    (hp : (s.setThread i thread).processes[i]? = some p) : p.thread = thread := by
  rw [setThread, List.getElem?_modify_eq] at hp
  obtain ⟨q, -, rfl⟩ := Option.map_eq_some_iff.mp hp
  rfl

theorem processes_setThread_of_ne {i j : ℕ} (thread : Option WorkerPc) (hij : i ≠ j) :
    (s.setThread i thread).processes[j]? = s.processes[j]? :=
  List.getElem?_modify_ne _ _ hij

/-! ## Which threads are joined -/

/-- Process `i` has no thread there. `waits` is whether every `start` waits for the exit. -/
def Joined (waits : Prop) : MainPc → ℕ → Prop
  | .unconstructed, _ | .install _, _ | .clearInstance, _ | .destroyed, _ => True
  | .joining _ next, i => i < next
  | .idle, _ | .enter _, _ => waits
  | .starting _ next, i => waits ∧ next ≤ i
  | _, _ => False

/-- In a `start` that does not wait. -/
def Returns : MainPc → Prop
  | .enter w | .starting w _ | .failed w => w = false
  | _ => False

/-- Where the handler of `sig` may be missing. -/
def Unhandled (sig : Signal) : MainPc → Prop
  | .unconstructed | .terminated => True
  | .install signals => sig ∈ signals
  | _ => False

/-- The threads that are joined, and the handlers that are installed. -/
structure Threads (waits : Prop) (s : PluginExec) : Prop where
  joined : ∀ i p, s.processes[i]? = some p → Joined waits s.pc i → p.thread = none
  waiting : waits → ¬ Returns s.pc
  installed : ∀ sig, sig ∈ s.installed ∨ Unhandled sig s.pc
  instanceGone : s.pc = .destroyed → s.hasInstance = false

/-- The owner keeps to `start` calls that wait, if `waits`. -/
def Allowed (waits : Prop) (a : Action) : Prop := waits → a ≠ .start false

namespace Threads

variable {waits : Prop}

theorem initial : Threads waits {} :=
  ⟨fun i p hp => by simp at hp, fun _ => id, fun _ => .inr trivial, nofun⟩

theorem joined_of {pc : MainPc} {i : ℕ} {p : Process} (hs : s.Threads waits) (hpc : s.pc = pc)
    (hp : s.processes[i]? = some p) (h : Joined waits pc i) : p.thread = none :=
  hs.joined i p hp (hpc ▸ h)

/-- After the loop of a `start`, which does not return to its caller if `waits`. -/
theorem not_joined_afterStarting {w : Bool} {i : ℕ} (hw : waits → w ≠ false) :
    ¬ Joined waits (afterStarting w) i := by
  intro h
  cases w with
  | false => exact hw h rfl
  | true => exact h

theorem joined_move (hs : s.Threads waits) (h : Move s s') {i : ℕ} {p : Process}
    (hp : s'.processes[i]? = some p) (hi : Joined waits s'.pc i) : p.thread = none := by
  cases h with
  | installed hpc => exact hs.joined_of hpc hp trivial
  | install hpc => exact hs.joined_of hpc hp trivial
  | store hpc => exact hs.joined_of hpc hp hi.1
  | started hpc =>
    refine absurd hi (not_joined_afterStarting fun hw => ?_)
    have hreturns := hs.waiting hw
    rwa [hpc] at hreturns
  | refuse => exact hi.elim
  | @spawn w j _ hpc =>
    obtain ⟨hw, hle⟩ : waits ∧ j + 1 ≤ i := hi
    have hne : j ≠ i := by omega
    rw [processes_setThread_of_ne _ hne] at hp
    exact hs.joined_of hpc hp ⟨hw, by omega⟩
  | abort => exact hi.elim
  | failed hpc =>
    refine absurd hi (not_joined_afterStarting fun hw => ?_)
    have hreturns := hs.waiting hw
    rwa [hpc] at hreturns
  | wait => exact hs.joined i p hp hi
  | leave => exact hi.elim
  | stop => exact absurd hi (Nat.not_lt_zero i)
  | @skip d j q hpc hq hthread =>
    rcases Nat.lt_succ_iff_lt_or_eq.mp hi with hlt | rfl
    · exact hs.joined_of hpc hp hlt
    · rw [hq] at hp
      rwa [← Option.some.inj hp]
  | @join d j _ hpc =>
    rcases Nat.lt_succ_iff_lt_or_eq.mp hi with hlt | rfl
    · have hne : j ≠ i := by omega
      rw [processes_setThread_of_ne _ hne] at hp
      exact hs.joined_of hpc hp hlt
    · exact processes_setThread_self hp
  | @joined d j hpc hend =>
    have hlt : i < s.processes.length := (List.getElem?_eq_some_iff.mp hp).1
    have hlen : s.processes.length ≤ j := List.getElem?_eq_none_iff.mp hend
    exact hs.joined_of hpc hp (by show i < j; omega)
  | cleared hpc => exact hs.joined_of hpc hp trivial

theorem waiting_move (hs : s.Threads waits) (h : Move s s') (hw : waits) : ¬ Returns s'.pc := by
  have hreturns := hs.waiting hw
  cases h with
  | installed | install | abort | leave | stop | skip | join | cleared => exact id
  | store hpc => rwa [hpc] at hreturns
  | refuse hpc => rwa [hpc] at hreturns
  | spawn hpc => rwa [hpc] at hreturns
  | wait => exact hreturns
  | @started w => cases w <;> exact id
  | @failed w => cases w <;> exact id
  | @joined d => cases d <;> exact id

theorem installed_move (hs : s.Threads waits) (h : Move s s') (sig : Signal) :
    sig ∈ s'.installed ∨ Unhandled sig s'.pc := by
  have hsig := hs.installed sig
  cases h with
  | @install sig' signals hpc =>
    rw [hpc] at hsig
    rcases hsig with hmem | hmem
    · exact .inl (List.mem_cons_of_mem sig' hmem)
    · rcases List.mem_cons.mp hmem with rfl | hmem
      · exact .inl List.mem_cons_self
      · exact .inr hmem
  | wait => exact hsig
  | abort => exact .inr trivial
  | installed hpc =>
    rw [hpc] at hsig
    exact .inl (hsig.resolve_right List.not_mem_nil)
  | store hpc | started hpc | refuse hpc | spawn hpc | failed hpc | leave hpc
  | stop hpc | skip hpc | join hpc | joined hpc | cleared hpc =>
    rw [hpc] at hsig
    exact .inl (hsig.resolve_right id)

theorem instanceGone_move (hs : s.Threads waits) (h : Move s s') (hpc' : s'.pc = .destroyed) :
    s'.hasInstance = false := by
  cases h with
  | cleared => rfl
  | wait => exact hs.instanceGone hpc'
  | @started w => cases w <;> exact absurd hpc' nofun
  | @failed w => cases w <;> exact absurd hpc' nofun
  | @joined d => cases d <;> exact absurd hpc' nofun
  | installed | install | store | refuse | spawn | abort | leave | stop | skip | join =>
    exact absurd hpc' nofun

theorem move (hs : s.Threads waits) (h : Move s s') : s'.Threads waits :=
  ⟨fun _ _ => hs.joined_move h, hs.waiting_move h, hs.installed_move h, hs.instanceGone_move h⟩

/-- A thread that takes steps is not joined. -/
theorem setThread {i : ℕ} {p : Process} {pc : WorkerPc} (hs : s.Threads waits)
    (hp : s.processes[i]? = some p) (hthread : p.thread = some pc) (thread : Option WorkerPc) :
    (s.setThread i thread).Threads waits := by
  refine ⟨fun j q hq hj => ?_, hs.waiting, hs.installed, hs.instanceGone⟩
  by_cases hij : i = j
  · subst hij
    have hnone := hs.joined i p hp hj
    rw [hthread] at hnone
    exact absurd hnone nofun
  · rw [processes_setThread_of_ne _ hij] at hq
    exact hs.joined j q hq hj

theorem workerMove {i : ℕ} {p : Process} {pc pc' : WorkerPc} (hs : s.Threads waits)
    (hp : s.processes[i]? = some p) (hthread : p.thread = some pc)
    (h : WorkerMove s i pc pc' s') : s'.Threads waits := by
  cases h with
  | clear =>
    have hset := hs.setThread hp hthread (some .done)
    exact ⟨hset.joined, hset.waiting, hset.installed, hset.instanceGone⟩
  | enter | leave | again | unhealthy => exact hs.setThread hp hthread _

/-- A call of the owner, made where the main thread is idle. -/
theorem of_call {t : PluginExec} (ht : s.pc = .idle → t.Threads waits) (h : s.call t = some s') :
    s'.Threads waits := by
  unfold call at h
  split_ifs at h with hpc
  rw [← Option.some.inj h]
  exact ht hpc

theorem installed_of {pc : MainPc} (hs : s.Threads waits) (hpc : s.pc = pc) (sig : Signal)
    (h : ¬ Unhandled sig pc) : sig ∈ s.installed :=
  (hs.installed sig).resolve_right (hpc ▸ h)

/-- The owner, idle, begins a call. -/
theorem goto_of_idle (pc : MainPc) (hs : s.Threads waits) (hpc : s.pc = .idle)
    (hjoined : ∀ i, Joined waits pc i → waits) (hreturns : waits → ¬ Returns pc)
    (halive : pc ≠ .destroyed) : Threads waits { s with pc := pc } where
  joined i _ hp hi := hs.joined_of hpc hp (hjoined i hi)
  waiting := hreturns
  installed sig := .inl (hs.installed_of hpc sig id)
  instanceGone h := absurd h halive

/-- A process without a thread is registered. -/
theorem register (hs : s.Threads waits) (hasAdapter : Bool) :
    Threads waits { s with processes := s.processes ++ [{ hasAdapter := hasAdapter }] } := by
  refine ⟨fun i p hp hi => ?_, hs.waiting, hs.installed, hs.instanceGone⟩
  by_cases hlt : i < s.processes.length
  · rw [List.getElem?_append_left hlt] at hp
    exact hs.joined i p hp hi
  · rw [List.getElem?_append_right (by omega)] at hp
    rw [List.mem_singleton.mp (List.mem_of_getElem? hp)]

/-- The program ends. -/
theorem terminated (s : PluginExec) : Threads waits { s with pc := .terminated } :=
  ⟨fun _ _ _ => False.elim, fun _ => id, fun _ => .inr trivial, nofun⟩

/-- **One step.** -/
theorem step (hs : s.Threads waits) (ha : Allowed waits a) (h : s.step a = some s') :
    s'.Threads waits := by
  unfold PluginExec.step at h
  split_ifs at h with hterminated
  cases a with
  | construct =>
    unfold perform at h
    split_ifs at h with hpc
    rw [← Option.some.inj h]
    refine ⟨fun i p hp _ => hs.joined_of hpc hp trivial, fun _ => id, fun sig => .inr ?_, nofun⟩
    show sig ∈ [Signal.sigint, .sigterm]
    cases sig <;> decide
  | registerAdapter hasAdapter =>
    apply of_call (fun _ => hs.register hasAdapter) h
  | start w =>
    refine of_call (fun hpc => hs.goto_of_idle (.enter w) hpc (fun _ => id) ?_ nofun) h
    rintro hw rfl
    exact ha hw rfl
  | stop =>
    exact of_call (fun hpc => hs.goto_of_idle (.stopping false) hpc (fun _ => False.elim)
      (fun _ => id) nofun) h
  | destroy =>
    exact of_call (fun hpc => hs.goto_of_idle (.stopping true) hpc (fun _ => False.elim)
      (fun _ => id) nofun) h
  | main adapterStarts => exact hs.move (move_of_mainStep h)
  | worker i health =>
    obtain ⟨p, pc, pc', hp, hthread, hmove⟩ := workerMove_of_workerStep h
    exact hs.workerMove hp hthread hmove
  | startThrows =>
    obtain ⟨⟨w, i, hpc⟩, rfl⟩ := of_startThrows h
    exact ⟨fun _ _ _ => False.elim, fun _ => id, fun sig => .inl (hs.installed_of hpc sig id),
      nofun⟩
  | workerThrows i =>
    obtain ⟨-, rfl⟩ := of_workerThrows h
    exact terminated s
  | signal sig =>
    rw [← Option.some.inj h]
    split_ifs
    · refine ⟨hs.joined, hs.waiting, hs.installed, fun hpc => ?_⟩
      exact hs.instanceGone hpc
    · exact terminated s

theorem run {actions : List Action} {t : PluginExec} (hallowed : ∀ a ∈ actions, Allowed waits a)
    (hrun : Run.run PluginExec.step {} actions = some t) : t.Threads waits :=
  Run.inv_of_meets (fun _ _ _ hs ha h => hs.step ha h) actions initial
    (Run.meets_of_forall actions hallowed) hrun

end Threads

theorem call_eq_some {t : PluginExec} : s.call t = some s' ↔ s.pc = .idle ∧ t = s' := by
  unfold call
  split_ifs with hpc <;> simp [hpc]

theorem pc_workerMove {i : ℕ} {pc pc' : WorkerPc} (h : WorkerMove s i pc pc' s') :
    s'.pc = s.pc := by
  cases h <;> rfl

/-- No process is assigned a thread on top of one that it has. -/
theorem pc_move_ne_terminated (hs : s.Threads True) (h : Move s s') (hpc : s.pc ≠ .terminated) :
    s'.pc ≠ .terminated := by
  cases h with
  | abort hstarting hp hthread =>
    exact absurd (hs.joined_of hstarting hp ⟨trivial, le_rfl⟩) hthread
  | wait => exact hpc
  | @started w => cases w <;> exact nofun
  | @failed w => cases w <;> exact nofun
  | @joined d => cases d <;> exact nofun
  | installed | install | store | refuse | spawn | leave | stop | skip | join | cleared =>
    exact nofun

/-- In a run whose `start` calls all wait, only two steps end the program early: a signal that comes
before its handler is installed, and an exception that an adapter throws in its worker. -/
theorem terminated_cases (actions : List Action) (hstart : ∀ b ∈ actions, b ≠ .start false)
    (hrun : Run.run step {} actions = some s) (hstep : s.step a = some s')
    (hpc : s'.pc = .terminated) :
    (∃ sig, a = .signal sig ∧ sig ∉ s.installed ∧ Unhandled sig s.pc) ∨
      ∃ i p, a = .workerThrows i ∧ s.processes[i]? = some p ∧ p.thread = some .body := by
  have hs : s.Threads True := Threads.run (fun b hb _ => hstart b hb) hrun
  unfold step at hstep
  split_ifs at hstep with hterminated
  cases a with
  | construct =>
    unfold perform at hstep
    split_ifs at hstep
    rw [← Option.some.inj hstep] at hpc
    exact absurd hpc nofun
  | registerAdapter hasAdapter =>
    obtain ⟨-, rfl⟩ := call_eq_some.mp hstep
    exact absurd hpc hterminated
  | start w =>
    obtain ⟨-, rfl⟩ := call_eq_some.mp hstep
    exact absurd hpc nofun
  | stop =>
    obtain ⟨-, rfl⟩ := call_eq_some.mp hstep
    exact absurd hpc nofun
  | destroy =>
    obtain ⟨-, rfl⟩ := call_eq_some.mp hstep
    exact absurd hpc nofun
  | main adapterStarts =>
    exact absurd hpc (pc_move_ne_terminated hs (move_of_mainStep hstep) hterminated)
  | worker i health =>
    obtain ⟨p, pc, pc', -, -, hmove⟩ := workerMove_of_workerStep hstep
    rw [pc_workerMove hmove] at hpc
    exact absurd hpc hterminated
  | startThrows =>
    obtain ⟨-, rfl⟩ := of_startThrows hstep
    exact absurd hpc nofun
  | workerThrows i =>
    obtain ⟨⟨p, hp, hthread⟩, -⟩ := of_workerThrows hstep
    exact .inr ⟨i, p, rfl, hp, hthread⟩
  | signal sig =>
    rw [← Option.some.inj hstep] at hpc
    refine .inl ⟨sig, rfl, ?_⟩
    split_ifs at hpc with hmem
    · exact absurd hpc hterminated
    · exact ⟨hmem, (hs.installed sig).resolve_left hmem⟩

/-- An adapter throws in its worker, while `start` waits. -/
theorem terminated_cases_throw :
    (∃ sig, Action.workerThrows 0 = .signal sig ∧ sig ∉ [Signal.sigterm, .sigint] ∧
        Unhandled sig .waiting) ∨
      ∃ i p, Action.workerThrows 0 = .workerThrows i ∧
        [Process.mk true (some .body)][i]? = some p ∧ p.thread = some .body :=
  terminated_cases [.construct, .main true, .main true, .main true, .registerAdapter true,
      .start true, .main true, .main true, .main true, .worker 0 none]
    (s := ⟨.waiting, true, [.sigterm, .sigint], true, [⟨true, some .body⟩], false⟩)
    (by decide) (by decide) rfl rfl

/-- A second `start` that finds the first one's threads ends the program too. -/
example : (Run.run step {} [.construct, .main true, .main true, .main true, .registerAdapter true,
    .start false, .main true, .main true, .main true, .start false, .main true,
    .main true]).map PluginExec.pc = some .terminated := by decide

/-! ## After the destructor -/

/-- Nothing but signals is left, and the handler finds no instance. -/
theorem step_of_destroyed (hs : s.Threads False) (hpc : s.pc = .destroyed)
    (h : s.step a = some s') :
    (∃ sig, a = .signal sig) ∧ s' = { s with handled := s'.handled } := by
  unfold step at h
  rw [hpc, if_neg nofun] at h
  cases a with
  | construct =>
    unfold perform at h
    rw [hpc, if_neg nofun] at h
    exact absurd h nofun
  | registerAdapter hasAdapter | start w | stop | destroy =>
    obtain ⟨hidle, -⟩ := call_eq_some.mp h
    rw [hpc] at hidle
    exact absurd hidle nofun
  | main adapterStarts =>
    have hnone : s.mainStep adapterStarts = none := by
      unfold mainStep
      rw [hpc]
    exact absurd (h.symm.trans hnone) nofun
  | worker i health =>
    obtain ⟨p, pc, pc', hp, hthread, -⟩ := workerMove_of_workerStep h
    rw [hs.joined_of hpc hp trivial] at hthread
    exact absurd hthread nofun
  | startThrows =>
    obtain ⟨⟨w, i, hstarting⟩, -⟩ := of_startThrows h
    rw [hpc] at hstarting
    exact absurd hstarting nofun
  | workerThrows i =>
    obtain ⟨⟨p, hp, hthread⟩, -⟩ := of_workerThrows h
    rw [hs.joined_of hpc hp trivial] at hthread
    exact absurd hthread nofun
  | signal sig =>
    refine ⟨⟨sig, rfl⟩, ?_⟩
    have hmem := hs.installed_of hpc sig id
    have hgone := hs.instanceGone hpc
    obtain rfl := Option.some.inj h
    rw [if_pos hmem, signalHandler, hgone]
    rfl

/-- **After the destructor** no thread is left, no step but a signal is possible, and a signal does
not touch the executor. -/
theorem destroyed_final (before later : List Action) {t : PluginExec}
    (hbefore : Run.run step {} before = some s) (hpc : s.pc = .destroyed)
    (hlater : Run.run step s later = some t) :
    (∀ p ∈ s.processes, p.thread = none) ∧ (∀ b ∈ later, ∃ sig, b = .signal sig) ∧
      t = { s with handled := t.handled } := by
  have hs : s.Threads False := Threads.run (fun _ _ => False.elim) hbefore
  refine ⟨fun p hp => ?_, ?_⟩
  · obtain ⟨i, hi⟩ := List.mem_iff_getElem?.mp hp
    exact hs.joined_of hpc hi trivial
  clear hbefore
  induction later generalizing s with
  | nil =>
    obtain rfl := Option.some.inj hlater
    exact ⟨fun b hb => absurd hb List.not_mem_nil, rfl⟩
  | cons b later ih =>
    obtain ⟨s', hstep, hrest⟩ := Run.run_cons_eq_some.mp hlater
    obtain ⟨hsignal, hsame⟩ := step_of_destroyed hs hpc hstep
    have hs' := hs.step False.elim hstep
    have hpc' : s'.pc = .destroyed := by rw [hsame]; exact hpc
    obtain ⟨hall, ht⟩ := ih hpc' hrest hs'
    refine ⟨List.forall_mem_cons.mpr ⟨hsignal, hall⟩, ?_⟩
    rw [ht, hsame]

/-- The whole life of a plugin: it ends on SIGTERM, and a later SIGINT changes nothing. -/
theorem destroyed_final_sigterm :
    (∀ p ∈ [Process.mk true none], p.thread = none) ∧
      (∀ b ∈ [Action.signal .sigint], ∃ sig, b = .signal sig) ∧
      (⟨.destroyed, false, [.sigterm, .sigint], false, [⟨true, none⟩], true⟩ : PluginExec) =
        ⟨.destroyed, false, [.sigterm, .sigint], false, [⟨true, none⟩], true⟩ :=
  destroyed_final [.construct, .main true, .main true, .main true, .registerAdapter true,
      .start true, .main true, .main true, .worker 0 none, .main true, .worker 0 none,
      .signal .sigterm, .worker 0 none, .main true, .main true, .main true, .main true, .destroy,
      .main true, .main true, .main true, .main true]
    [.signal .sigint]
    (s := ⟨.destroyed, false, [.sigterm, .sigint], false, [⟨true, none⟩], true⟩)
    (t := ⟨.destroyed, false, [.sigterm, .sigint], false, [⟨true, none⟩], true⟩)
    (by decide) rfl rfl

/-! ## A shutdown ends -/

/-- The steps of the main thread and of the workers, and the exceptions there. -/
def Internal : Action → Bool
  | .main _ | .worker _ _ | .startThrows | .workerThrows _ => true
  | _ => false

/-- The steps that are no calls of the owner. -/
def Autonomous (a : Action) : Prop := Internal a = true ∨ ∃ sig, a = .signal sig

/-- Between the end of the wait and the return of `stop` or the destructor. -/
def ShuttingDown : MainPc → Prop
  | .waiting | .stopping _ | .joining _ _ | .clearInstance => True
  | _ => False

/-- Where the shutdown has returned. -/
def Returned (s : PluginExec) : Prop :=
  (s.pc = .idle ∨ s.pc = .destroyed) ∧ ∀ p ∈ s.processes, p.thread = none

/-- In a shutdown, or after it. -/
structure Ending (s : PluginExec) : Prop where
  threads : s.Threads False
  running : s.running = false
  ends : ShuttingDown s.pc ∨ s.Returned

/-- How many steps a thread can take that sees the flag cleared. -/
def workerRank : Option WorkerPc → ℕ
  | some .body => 2
  | some .test | some .unhealthy => 1
  | _ => 0

/-- How many steps the main thread can take, with `n` processes to join. -/
def mainRank (n : ℕ) : MainPc → ℕ
  | .waiting => n + 4
  | .stopping _ => n + 3
  | .joining _ next => n - next + 2
  | .clearInstance => 1
  | _ => 0

theorem one_le_mainRank (n : ℕ) {pc : MainPc} (h : ShuttingDown pc) : 1 ≤ mainRank n pc := by
  cases pc with
  | waiting | stopping | joining | clearInstance =>
    simp only [mainRank]
    omega
  | _ => exact h.elim

def workersRank (s : PluginExec) : ℕ := (s.processes.map fun p => workerRank p.thread).sum

def rank (s : PluginExec) : ℕ := mainRank s.processes.length s.pc + s.workersRank

theorem workerRank_le (thread : Option WorkerPc) : workerRank thread ≤ 2 := by
  rcases thread with _ | ⟨_ | _ | _ | _⟩ <;> decide

theorem workersRank_le : s.workersRank ≤ s.processes.length * 2 := by
  have h := List.sum_le_card_nsmul (s.processes.map fun p => workerRank p.thread) 2
    (by simpa using fun (p : Process) _ => workerRank_le p.thread)
  rwa [List.length_map] at h

theorem rank_le : s.rank ≤ 3 * s.processes.length + 4 := by
  have hworkers := s.workersRank_le
  have hmain : mainRank s.processes.length s.pc ≤ s.processes.length + 4 := by
    unfold mainRank
    split <;> omega
  unfold rank
  omega

theorem sum_map_modify {α : Type*} {g : α → ℕ} {f : α → α} {x : α} : ∀ {l : List α} {i : ℕ},
    l[i]? = some x → ((l.modify i f).map g).sum + g x = (l.map g).sum + g (f x)
  | [], i, h => by simp at h
  | y :: l, 0, h => by
    obtain rfl : y = x := by simpa using h
    simp only [List.modify_zero_cons, List.map_cons, List.sum_cons]
    omega
  | y :: l, i + 1, h => by
    have ih := sum_map_modify (g := g) (f := f) (l := l) (i := i) (by simpa using h)
    simp only [List.modify_succ_cons, List.map_cons, List.sum_cons]
    omega

theorem workersRank_setThread {i : ℕ} {p : Process} (hp : s.processes[i]? = some p)
    (thread : Option WorkerPc) :
    (s.setThread i thread).workersRank + workerRank p.thread =
      s.workersRank + workerRank thread :=
  sum_map_modify (g := fun p : Process => workerRank p.thread)
    (f := fun p => { p with thread := thread }) hp

theorem length_setThread (i : ℕ) (thread : Option WorkerPc) :
    (s.setThread i thread).processes.length = s.processes.length :=
  List.length_modify _ _ _

/-- A worker moves on, and does not set the flag. -/
theorem eq_of_workerMove {i : ℕ} {pc pc' : WorkerPc} (h : WorkerMove s i pc pc' s') :
    ∃ running, (s.running = false → running = false) ∧
      s' = { s.setThread i (some pc') with running := running } := by
  cases h with
  | clear => exact ⟨false, fun _ => rfl, rfl⟩
  | enter | leave | again | unhealthy => exact ⟨s.running, id, rfl⟩

theorem workerRank_workerMove {i : ℕ} {pc pc' : WorkerPc} (hrunning : s.running = false)
    (h : WorkerMove s i pc pc' s') : workerRank (some pc') < workerRank (some pc) := by
  cases h with
  | enter htrue => exact absurd (hrunning.symm.trans htrue) nofun
  | leave | again | unhealthy | clear => decide

namespace Ending

/-- A worker that is not joined is in a shutdown, and gets closer to its end. -/
theorem workerMove {i : ℕ} {p : Process} {pc pc' : WorkerPc} (hs : s.Ending)
    (hp : s.processes[i]? = some p) (hthread : p.thread = some pc)
    (h : WorkerMove s i pc pc' s') : s'.Ending ∧ 1 + s'.rank ≤ s.rank := by
  have hends : ShuttingDown s.pc := by
    refine hs.ends.resolve_right fun hreturned => ?_
    have hnone := hreturned.2 p (List.mem_of_getElem? hp)
    exact absurd (hnone.symm.trans hthread) nofun
  have hthreads := hs.threads.workerMove hp hthread h
  have hlower := workerRank_workerMove hs.running h
  have hsum := workersRank_setThread hp (some pc')
  obtain ⟨running, hrunning, rfl⟩ := eq_of_workerMove h
  refine ⟨⟨hthreads, hrunning hs.running, .inl hends⟩, ?_⟩
  show 1 + (mainRank (s.setThread i (some pc')).processes.length s.pc +
    (s.setThread i (some pc')).workersRank) ≤ mainRank s.processes.length s.pc + s.workersRank
  rw [length_setThread]
  rw [hthread] at hsum
  omega

theorem move (hs : s.Ending) (h : Move s s') : s'.Ending ∧ 1 + s'.rank ≤ s.rank := by
  have hthreads := hs.threads.move h
  have hpc : ∀ {pc}, s.pc = pc → pc ≠ .idle → pc ≠ .destroyed → ShuttingDown pc := by
    rintro pc rfl hidle hdestroyed
    exact hs.ends.resolve_right fun hreturned => hreturned.1.elim hidle hdestroyed
  unfold rank
  cases h with
  | installed h | install h | store h | started h | refuse h | spawn h | abort h | failed h =>
    exact (hpc h nofun nofun).elim
  | wait h hrunning => exact absurd (hs.running.symm.trans hrunning) nofun
  | leave h =>
    refine ⟨⟨hthreads, hs.running, .inl trivial⟩, ?_⟩
    rw [h]
    show 1 + (s.processes.length + 3 + s.workersRank) ≤ s.processes.length + 4 + s.workersRank
    omega
  | stop h =>
    refine ⟨⟨hthreads, rfl, .inl trivial⟩, ?_⟩
    rw [h]
    show 1 + (s.processes.length - 0 + 2 + s.workersRank) ≤ s.processes.length + 3 + s.workersRank
    omega
  | @skip d i p h hp hthread =>
    have hlt := (List.getElem?_eq_some_iff.mp hp).1
    refine ⟨⟨hthreads, hs.running, .inl trivial⟩, ?_⟩
    rw [h]
    show 1 + (s.processes.length - (i + 1) + 2 + s.workersRank) ≤
      s.processes.length - i + 2 + s.workersRank
    omega
  | @join d i p h hp hthread =>
    have hlt := (List.getElem?_eq_some_iff.mp hp).1
    have hsum := workersRank_setThread hp none
    rw [hthread] at hsum
    refine ⟨⟨hthreads, hs.running, .inl trivial⟩, ?_⟩
    rw [h]
    show 1 + ((s.setThread i none).processes.length - (i + 1) + 2 +
      (s.setThread i none).workersRank) ≤ s.processes.length - i + 2 + s.workersRank
    rw [length_setThread]
    simp only [workerRank] at hsum
    omega
  | @joined d i h hp =>
    have hnone : ∀ p ∈ s.processes, p.thread = none := by
      intro p hmem
      obtain ⟨j, hj⟩ := List.mem_iff_getElem?.mp hmem
      have hlt := (List.getElem?_eq_some_iff.mp hj).1
      have hlen := List.getElem?_eq_none_iff.mp hp
      exact hs.threads.joined_of h hj (by show j < i; omega)
    rw [h]
    cases d with
    | false =>
      refine ⟨⟨hthreads, hs.running, .inr ⟨.inl rfl, hnone⟩⟩, ?_⟩
      show 1 + (0 + s.workersRank) ≤ s.processes.length - i + 2 + s.workersRank
      omega
    | true =>
      refine ⟨⟨hthreads, hs.running, .inl trivial⟩, ?_⟩
      show 1 + (1 + s.workersRank) ≤ s.processes.length - i + 2 + s.workersRank
      omega
  | cleared h =>
    refine ⟨⟨hthreads, hs.running, .inr ⟨.inr rfl, fun p hmem => ?_⟩⟩, ?_⟩
    · obtain ⟨j, hj⟩ := List.mem_iff_getElem?.mp hmem
      exact hs.threads.joined_of h hj trivial
    · rw [h]
      show 1 + (0 + s.workersRank) ≤ 1 + s.workersRank
      omega

theorem pc_ne_terminated (hs : s.Ending) : s.pc ≠ .terminated := by
  intro hpc
  rcases hs.ends with hends | ⟨hidle | hdestroyed, -⟩
  · rwa [hpc] at hends
  · exact absurd (hpc.symm.trans hidle) nofun
  · exact absurd (hpc.symm.trans hdestroyed) nofun

/-- An exception in a worker ends a shutdown, and the program. -/
theorem workerThrows {i : ℕ} (hs : s.Ending) (h : s.workerThrows i = some s') :
    s'.pc = .terminated ∧ 1 + s'.rank ≤ s.rank := by
  obtain ⟨⟨p, hp, hthread⟩, rfl⟩ := of_workerThrows h
  have hends : ShuttingDown s.pc := by
    refine hs.ends.resolve_right fun hreturned => ?_
    have hnone := hreturned.2 p (List.mem_of_getElem? hp)
    exact absurd (hnone.symm.trans hthread) nofun
  have hmain := one_le_mainRank s.processes.length hends
  refine ⟨rfl, ?_⟩
  show 1 + (0 + s.workersRank) ≤ mainRank s.processes.length s.pc + s.workersRank
  omega

/-- **One step** of a thread, or a signal. -/
theorem step (hs : s.Ending) (ha : Autonomous a) (h : s.step a = some s') :
    (s'.Ending ∨ s'.pc = .terminated ∧ ∃ i, a = .workerThrows i) ∧
      (if Internal a then 1 else 0) + s'.rank ≤ s.rank := by
  unfold PluginExec.step at h
  split_ifs at h with hterminated
  rcases ha with hinternal | ⟨sig, rfl⟩
  · rw [if_pos hinternal]
    cases a with
    | main adapterStarts =>
      obtain ⟨hs', hrank⟩ := hs.move (move_of_mainStep h)
      exact ⟨.inl hs', hrank⟩
    | worker i health =>
      obtain ⟨p, pc, pc', hp, hthread, hmove⟩ := workerMove_of_workerStep h
      obtain ⟨hs', hrank⟩ := hs.workerMove hp hthread hmove
      exact ⟨.inl hs', hrank⟩
    | startThrows =>
      obtain ⟨⟨w, i, hpc⟩, -⟩ := of_startThrows h
      rcases hs.ends with hends | ⟨hidle | hdestroyed, -⟩
      · rw [hpc] at hends
        exact hends.elim
      · exact absurd (hpc.symm.trans hidle) nofun
      · exact absurd (hpc.symm.trans hdestroyed) nofun
    | workerThrows i =>
      obtain ⟨hpc, hrank⟩ := hs.workerThrows h
      exact ⟨.inr ⟨hpc, i, rfl⟩, hrank⟩
    | construct | registerAdapter | start | stop | destroy | signal =>
      exact absurd hinternal nofun
  · have hmem : sig ∈ s.installed := by
      refine (hs.threads.installed sig).resolve_right fun hunhandled => ?_
      rcases hs.ends with hends | ⟨hpc | hpc, -⟩
      · cases hpc : s.pc <;> rw [hpc] at hends hunhandled <;>
          first | exact hends | exact hunhandled
      · rwa [hpc] at hunhandled
      · rwa [hpc] at hunhandled
    obtain rfl := Option.some.inj h
    rw [if_pos hmem]
    refine ⟨.inl ⟨⟨hs.threads.joined, nofun, hs.threads.installed, hs.threads.instanceGone⟩, ?_,
      hs.ends⟩, ?_⟩
    · show (if s.hasInstance then false else s.running) = false
      split_ifs
      · rfl
      · exact hs.running
    · show 0 + s.rank ≤ s.rank
      omega

/-- **No deadlock**: until it has returned, a shutdown can take a step. -/
theorem progress (hs : s.Ending) (hreturned : ¬ s.Returned) :
    ∃ b, Internal b = true ∧ (s.step b).isSome := by
  have hends := hs.ends.resolve_right hreturned
  have hmain : (s.mainStep true).isSome → ∃ b, Internal b = true ∧ (s.step b).isSome := by
    refine fun h => ⟨.main true, rfl, ?_⟩
    unfold PluginExec.step
    rwa [if_neg]
    rintro hpc
    rwa [hpc] at hends
  have hworker : ∀ i, (s.workerStep i none).isSome →
      ∃ b, Internal b = true ∧ (s.step b).isSome := by
    refine fun i h => ⟨.worker i none, rfl, ?_⟩
    unfold PluginExec.step
    rwa [if_neg]
    rintro hpc
    rwa [hpc] at hends
  cases hpc : s.pc with
  | waiting => exact hmain (by simp [mainStep, hpc])
  | stopping d => exact hmain (by simp [mainStep, hpc])
  | clearInstance => exact hmain (by simp [mainStep, hpc])
  | joining d i =>
    cases hp : s.processes[i]? with
    | none => exact hmain (by simp [mainStep, hpc, hp])
    | some p =>
      rcases hthread : p.thread with _ | pc
      · exact hmain (by simp [mainStep, hpc, hp, hthread])
      · cases pc with
        | done => exact hmain (by simp [mainStep, hpc, hp, hthread])
        | test | body | unhealthy => exact hworker i (by simp [workerStep, hp, hthread])
  | _ => rw [hpc] at hends; exact hends.elim

end Ending

theorem Returned.rank (h : s.Returned) : s.rank = 0 := by
  have hmain : mainRank s.processes.length s.pc = 0 := by
    rcases h.1 with hpc | hpc <;> rw [hpc] <;> rfl
  have hworkers : s.workersRank = 0 := by
    apply List.sum_eq_zero
    rintro n hn
    obtain ⟨p, hp, rfl⟩ := List.mem_map.mp hn
    rw [h.2 p hp]
    rfl
  unfold PluginExec.rank
  omega

theorem step_of_terminated (hpc : s.pc = .terminated) (b : Action) : s.step b = none :=
  if_pos hpc

/-- **A shutdown ends**: once the flag is clear, the threads take at most `3 n + 4` steps in any
order, with signals in between, and they can take one until the call has returned and every thread
is joined, or an adapter has thrown in its worker and so ended the program. -/
theorem shutdown_ends (before later : List Action) {t : PluginExec}
    (hbefore : Run.run step {} before = some s) (hrunning : s.running = false)
    (hpc : ShuttingDown s.pc) (hlater : ∀ b ∈ later, Autonomous b)
    (hrun : Run.run step s later = some t) :
    later.countP Internal ≤ 3 * s.processes.length + 4 ∧
      ((∀ b, Internal b = true → t.step b = none) ↔ t.Returned ∨ t.pc = .terminated) ∧
      (t.pc = .terminated → ∃ i, .workerThrows i ∈ later) := by
  have hs : s.Ending := ⟨Threads.run (fun _ _ => False.elim) hbefore, hrunning, .inl hpc⟩
  have hmeets : Run.Meets step (fun _ b => Autonomous b) s later :=
    Run.meets_of_forall later hlater
  have hstep : ∀ (u : PluginExec) (b : Action) (u' : PluginExec),
      (u.Ending ∨ u.pc = .terminated) → Autonomous b → u.step b = some u' →
      (u'.Ending ∨ u'.pc = .terminated) ∧ (if Internal b then 1 else 0) + u'.rank ≤ u.rank := by
    rintro u b u' (hu | hu) hb h
    · obtain ⟨hu', hrank⟩ := hu.step hb h
      exact ⟨hu'.imp_right And.left, hrank⟩
    · rw [step_of_terminated hu] at h
      exact absurd h nofun
  have ht : t.Ending ∨ t.pc = .terminated :=
    Run.inv_of_meets (fun u b u' hu hb h => (hstep u b u' hu hb h).1) later (.inl hs) hmeets hrun
  refine ⟨?_, ⟨fun hstuck => ?_, ?_⟩, fun hterminated => ?_⟩
  · have hcount : later.countP Internal + t.rank ≤ s.rank :=
      Run.countP_add_le_of_meets hstep later (.inl hs) hmeets hrun
    have hrank := s.rank_le
    omega
  · rcases ht with ht | ht
    · by_contra hreturned
      obtain ⟨b, hb, hsome⟩ := ht.progress (not_or.mp hreturned).1
      rw [hstuck b hb] at hsome
      exact absurd hsome nofun
    · exact .inr ht
  · rintro (hreturned | hterminated) b hb
    · cases hb' : t.step b with
      | none => rfl
      | some t' =>
        have ht' : t.Ending := by
          refine ht.resolve_right fun hpc => ?_
          rcases hreturned.1 with h | h <;> exact absurd (hpc.symm.trans h) nofun
        have hlower := (ht'.step (.inl hb) hb').2
        rw [hreturned.rank, if_pos hb] at hlower
        omega
    · exact step_of_terminated hterminated b
  · -- without such an exception the shutdown goes on to its end
    by_contra hnone
    push Not at hnone
    have hquiet : Run.Meets step (fun _ b => Autonomous b ∧ ∀ i, b ≠ .workerThrows i) s later :=
      Run.meets_of_forall later fun b hb => ⟨hlater b hb, fun i hi => hnone i (hi ▸ hb)⟩
    have hending : t.Ending :=
      Run.inv_of_meets (fun u b u' (hu : u.Ending) hb h =>
        (hu.step hb.1 h).1.resolve_right fun hthrown =>
          let ⟨i, hi⟩ := hthrown.2
          hb.2 i hi) later hs hquiet hrun
    exact hending.pc_ne_terminated hterminated

/-- SIGINT while the worker is in its body: six steps end the wait, and the thread is joined. -/
theorem shutdown_ends_sigint :
    [Action.worker 0 none, .main true, .signal .sigterm, .main true, .worker 0 none, .main true,
        .main true].countP Internal ≤ 3 * 1 + 4 ∧
      ((∀ b, Internal b = true → (⟨.idle, true, [.sigterm, .sigint], false, [⟨true, none⟩], true⟩ :
          PluginExec).step b = none) ↔
        Returned ⟨.idle, true, [.sigterm, .sigint], false, [⟨true, none⟩], true⟩ ∨
          MainPc.idle = .terminated) ∧
      (MainPc.idle = .terminated → ∃ i, Action.workerThrows i ∈ [.worker 0 none, .main true,
        .signal .sigterm, .main true, .worker 0 none, .main true, .main true]) :=
  shutdown_ends [.construct, .main true, .main true, .main true, .registerAdapter true,
      .start true, .main true, .main true, .main true, .worker 0 none, .signal .sigint]
    [.worker 0 none, .main true, .signal .sigterm, .main true, .worker 0 none, .main true,
      .main true]
    (s := ⟨.waiting, true, [.sigterm, .sigint], false, [⟨true, some .body⟩], true⟩)
    (t := ⟨.idle, true, [.sigterm, .sigint], false, [⟨true, none⟩], true⟩)
    (by decide) rfl trivial
    (by
      simp only [List.forall_mem_cons]
      exact ⟨.inl rfl, .inl rfl, .inr ⟨_, rfl⟩, .inl rfl, .inl rfl, .inl rfl, .inl rfl, nofun⟩)
    (by decide)

/-- The same shutdown, in which the adapter throws in its worker. -/
example : (Run.run step {} [.construct, .main true, .main true, .main true, .registerAdapter true,
    .start true, .main true, .main true, .main true, .worker 0 none, .signal .sigint, .main true,
    .main true, .workerThrows 0]).map PluginExec.pc = some .terminated := by decide

end EcatMiddleware.Core.PluginExec
