import Mathlib.Data.List.Basic

/-!
# Runs of a partial step function

An action is enabled in some states only. A run takes one enabled action after the other; an
invariant holds in every run whose actions all meet a condition under which they keep it, and a
measure that some of the actions lower bounds how many of those a run can take.
-/

namespace Run

variable {σ α : Type*} (step : σ → α → Option σ)

/-- The state after the actions, if each is enabled when its turn comes. -/
def run (s : σ) : List α → Option σ
  | [] => some s
  | a :: actions => (step s a).bind fun s' => run s' actions

/-- What the actions of a run emit, one after the other. -/
def trace {β : Type*} (emit : σ → α → List β) (s : σ) : List α → List β
  | [] => []
  | a :: actions => emit s a ++ match step s a with
    | some s' => trace emit s' actions
    | none => []

/-- Every action meets `condition` in the state in which it is taken. -/
def Meets (condition : σ → α → Prop) (s : σ) : List α → Prop
  | [] => True
  | a :: actions => condition s a ∧ ∀ s', step s a = some s' → Meets condition s' actions

variable {step}

theorem run_cons_eq_some {s t : σ} {a : α} {actions : List α} :
    run step s (a :: actions) = some t ↔
      ∃ s', step s a = some s' ∧ run step s' actions = some t :=
  Option.bind_eq_some_iff

theorem trace_cons {β : Type*} {emit : σ → α → List β} {s s' : σ} {a : α}
    (h : step s a = some s') (actions : List α) :
    trace step emit s (a :: actions) = emit s a ++ trace step emit s' actions := by
  rw [trace, h]

/-- **The invariant rule** for runs under a condition. -/
theorem inv_of_meets {condition : σ → α → Prop} {I : σ → Prop}
    (hstep : ∀ s a s', I s → condition s a → step s a = some s' → I s') (actions : List α) :
    ∀ {s t : σ}, I s → Meets step condition s actions → run step s actions = some t → I t := by
  induction actions with
  | nil =>
    intro s t hs _ hrun
    rwa [← Option.some.inj hrun]
  | cons a actions ih =>
    intro s t hs hmeets hrun
    obtain ⟨s', hs', hrun'⟩ := run_cons_eq_some.mp hrun
    exact ih (hstep s a s' hs hmeets.1 hs') (hmeets.2 s' hs') hrun'

theorem Meets.cons {condition : σ → α → Prop} {s s' : σ} {a : α} {actions : List α}
    (ha : condition s a) (hs : step s a = some s') (h : Meets step condition s' actions) :
    Meets step condition s (a :: actions) :=
  ⟨ha, fun t ht => by rwa [← Option.some.inj (hs.symm.trans ht)]⟩

theorem meets_of_forall {allowed : α → Prop} (actions : List α) : ∀ {s : σ},
    (∀ a ∈ actions, allowed a) → Meets step (fun _ a => allowed a) s actions := by
  induction actions with
  | nil => exact fun _ => trivial
  | cons a actions ih =>
    intro s h
    exact ⟨h a List.mem_cons_self, fun _ _ => ih fun b hb => h b (List.mem_cons_of_mem a hb)⟩

/-- The invariant rule for all runs. -/
theorem inv_of_run {I : σ → Prop} (hstep : ∀ s a s', I s → step s a = some s' → I s')
    (actions : List α) {s t : σ} (hs : I s) (hrun : run step s actions = some t) : I t := by
  have hmeets : Meets step (fun _ _ => True) s actions := meets_of_forall actions fun _ _ => trivial
  exact inv_of_meets (fun s a s' h _ => hstep s a s' h) actions hs hmeets hrun

/-- **The measure rule.** No action raises the measure and the counted ones lower it. -/
theorem countP_add_le_of_meets {condition : σ → α → Prop} {I : σ → Prop} {μ : σ → ℕ}
    {counted : α → Bool}
    (hstep : ∀ s a s', I s → condition s a → step s a = some s' →
      I s' ∧ (if counted a then 1 else 0) + μ s' ≤ μ s) (actions : List α) :
    ∀ {s t : σ}, I s → Meets step condition s actions → run step s actions = some t →
      actions.countP counted + μ t ≤ μ s := by
  induction actions with
  | nil =>
    intro s t _ _ hrun
    obtain rfl := Option.some.inj hrun
    rw [List.countP_nil]
    omega
  | cons a actions ih =>
    intro s t hs hmeets hrun
    obtain ⟨s', hs', hrun'⟩ := run_cons_eq_some.mp hrun
    obtain ⟨hinv, hlower⟩ := hstep s a s' hs hmeets.1 hs'
    have hrest := ih hinv (hmeets.2 s' hs') hrun'
    rw [List.countP_cons]
    omega

/-- The condition holds of each action, in the state that the actions before it lead to. -/
theorem meets_iff {condition : σ → α → Prop} (actions : List α) : ∀ {s : σ},
    Meets step condition s actions ↔ ∀ before a after t, actions = before ++ a :: after →
      run step s before = some t → condition t a := by
  induction actions with
  | nil =>
    intro s
    refine iff_of_true trivial fun before a after t h => ?_
    simp at h
  | cons a actions ih =>
    intro s
    constructor
    · rintro ⟨ha, hrest⟩ before b after t heq hrun
      rcases List.cons_eq_append_iff.mp heq with ⟨rfl, h⟩ | ⟨before', rfl, h⟩
      · obtain ⟨rfl, -⟩ := List.cons.inj h
        rwa [← Option.some.inj hrun]
      · obtain ⟨s', hs', hrun'⟩ := run_cons_eq_some.mp hrun
        exact ih.mp (hrest s' hs') before' b after t h hrun'
    · intro h
      refine ⟨h [] a actions s rfl rfl, fun s' hs' => ih.mpr fun before b after t heq hrun => ?_⟩
      apply h (a :: before) b after t
      · rw [heq, List.cons_append]
      · exact run_cons_eq_some.mpr ⟨s', hs', hrun⟩

end Run
