import EcatMiddleware.Lib.KeepLast
import EcatMiddleware.Lib.Run

/-!
# What a run passes on

A part of the state holds elements that some actions put in and others take out. If no step changes
their order or loses one for another reason than want of room, no run does.
-/

namespace Run

open KeepLast (Remains)

variable {σ α β : Type*} {step : σ → α → Option σ}

/-- A map of lists that goes through their concatenation goes through a trace. -/
theorem trace_map_of_append {γ : Type*} (f : List β → List γ) (hnil : f [] = [])
    (happend : ∀ xs ys, f (xs ++ ys) = f xs ++ f ys) (emit : σ → α → List β)
    (actions : List α) :
    ∀ s, trace step (fun s a => f (emit s a)) s actions = f (trace step emit s actions) := by
  induction actions with
  | nil => exact fun s => hnil.symm
  | cons a actions ih =>
    intro s
    unfold trace
    rw [happend]
    cases step s a with
    | none =>
      show f (emit s a) ++ [] = f (emit s a) ++ f []
      rw [hnil]
    | some s' =>
      show f (emit s a) ++ trace step _ s' actions = f (emit s a) ++ f (trace step emit s' actions)
      rw [ih]

/-- **The pipe rule**: what comes out, and what is still held, is what remains of what went in. -/
theorem remains_of_run {taken entered : σ → α → List β} {held : σ → List β} {room : σ → α → Prop}
    (hstep : ∀ s a s', step s a = some s' →
      Remains (room s a) (taken s a ++ held s') (held s ++ entered s a)) (actions : List α) :
    ∀ {s t : σ}, run step s actions = some t →
      Remains (Meets step room s actions) (trace step taken s actions ++ held t)
        (held s ++ trace step entered s actions) := by
  induction actions with
  | nil =>
    intro s t hrun
    obtain rfl := Option.some.inj hrun
    exact Remains.of_eq (by simp [trace])
  | cons a actions ih =>
    intro s t hrun
    obtain ⟨s', hs', hrun'⟩ := run_cons_eq_some.mp hrun
    rw [trace_cons hs', trace_cons hs', List.append_assoc, ← List.append_assoc (held s)]
    have hrest : Remains (Meets step room s (a :: actions)) (trace step taken s' actions ++ held t)
        (held s' ++ trace step entered s' actions) :=
      (ih hrun').mono fun hmeets => hmeets.2 s' hs'
    have hfirst : Remains (Meets step room s (a :: actions)) (taken s a ++ held s')
        (held s ++ entered s a) := (hstep s a s' hs').mono And.left
    have hboth := (Remains.refl (taken s a)).append hrest
    have hentered := hfirst.append (Remains.refl (trace step entered s' actions))
    rw [List.append_assoc] at hentered
    exact hboth.trans hentered

/-- **The log rule**: if each step logs what remains of what it emits, so does the run. -/
theorem logged_of_run {γ : Type*} {log : σ → List γ} {emit : σ → α → List β} {f : β → γ}
    {room : σ → α → Prop}
    (hstep : ∀ s a s', step s a = some s' →
      ∃ taken, log s' = log s ++ taken.map f ∧ Remains (room s a) taken (emit s a))
    (actions : List α) :
    ∀ {s t : σ}, run step s actions = some t →
      ∃ taken, log t = log s ++ taken.map f ∧
        Remains (Meets step room s actions) taken (trace step emit s actions) := by
  induction actions with
  | nil =>
    intro s t hrun
    obtain rfl := Option.some.inj hrun
    exact ⟨[], (List.append_nil _).symm, Remains.refl _⟩
  | cons a actions ih =>
    intro s t hrun
    obtain ⟨s', hs', hrun'⟩ := run_cons_eq_some.mp hrun
    obtain ⟨first, hlog, hfirst⟩ := hstep s a s' hs'
    obtain ⟨rest, hlog', hrest⟩ := ih hrun'
    refine ⟨first ++ rest, ?_, ?_⟩
    · rw [hlog', hlog, List.map_append, List.append_assoc]
    · rw [trace_cons hs']
      exact (hfirst.mono And.left).append (hrest.mono fun hmeets => hmeets.2 s' hs')

end Run
