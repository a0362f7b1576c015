import Mathlib.Data.List.Basic
import Mathlib.Data.List.Forall2

/-!
# Folds that may raise

A fold whose step may raise an exception: the invariant rule for folds in which no step raises, and
the rule for those in which one element makes every state raise. `foldUntil` keeps the state that
the exception leaves behind. `bind_eq_ok` takes a computation apart.
-/

namespace FoldExcept

universe u

theorem bind_eq_ok {ε : Type*} {α β : Type u} {x : Except ε α} {f : α → Except ε β} {b : β} :
    x >>= f = .ok b ↔ ∃ a, x = .ok a ∧ f a = .ok b := by
  cases x with
  | error e => simp [bind, Except.bind]
  | ok a => simp [bind, Except.bind]

/-- Computations that return the same, whatever they throw. -/
theorem bind_eq_ok_congr {ε : Type*} {α β : Type u} {x x' : Except ε α} {f f' : α → Except ε β}
    {b : β} (hx : ∀ a, x = .ok a ↔ x' = .ok a) (hf : ∀ a, f a = .ok b ↔ f' a = .ok b) :
    x >>= f = .ok b ↔ x' >>= f' = .ok b := by
  rw [bind_eq_ok, bind_eq_ok]
  exact exists_congr fun a => and_congr (hx a) (hf a)

variable {ε σ α : Type*} (step : σ → α → Except ε σ)

/-- `I s done` is kept when `s` is what the elements `done` have left. -/
theorem foldlM_inv_from (I : σ → List α → Prop) {l : List α}
    (hstep : ∀ a ∈ l, ∀ s done, I s done → ∃ s', step s a = .ok s' ∧ I s' (done ++ [a])) :
    ∀ {s : σ} {done : List α}, I s done →
      ∃ s', l.foldlM step s = .ok s' ∧ I s' (done ++ l) := by
  induction l with
  | nil =>
    intro s done h
    exact ⟨s, rfl, by rwa [List.append_nil]⟩
  | cons a l ih =>
    intro s done h
    obtain ⟨s₁, hs₁, h₁⟩ := hstep a List.mem_cons_self s done h
    obtain ⟨s₂, hs₂, h₂⟩ := ih (fun b hb => hstep b (List.mem_cons_of_mem _ hb)) h₁
    refine ⟨s₂, ?_, by rwa [List.append_assoc] at h₂⟩
    rw [List.foldlM_cons, hs₁]
    exact hs₂

/-- **The invariant rule.** -/
theorem foldlM_inv (I : σ → List α → Prop) {l : List α}
    (hstep : ∀ a ∈ l, ∀ s done, I s done → ∃ s', step s a = .ok s' ∧ I s' (done ++ [a]))
    {s : σ} (h : I s []) : ∃ s', l.foldlM step s = .ok s' ∧ I s' l :=
  foldlM_inv_from step I hstep h

/-- An element that makes every state raise makes the fold raise. -/
theorem foldlM_raises {l : List α} {a : α} (ha : a ∈ l) (h : ∀ s, ∃ e, step s a = .error e) :
    ∀ s, ∃ e, l.foldlM step s = .error e := by
  induction l with
  | nil => exact absurd ha List.not_mem_nil
  | cons b l ih =>
    intro s
    rw [List.foldlM_cons]
    cases hb : step s b with
    | error e => exact ⟨e, rfl⟩
    | ok s' =>
      rcases List.mem_cons.mp ha with rfl | hl
      · obtain ⟨e, he⟩ := h s
        rw [he] at hb
        exact absurd hb (by simp)
      · exact ih hl s'

theorem exists_forall₂ {β : Type*} {reads : α → β → Prop} {l : List α}
    (h : ∀ a ∈ l, ∃ b, reads a b) : ∃ bs, List.Forall₂ reads l bs := by
  induction l with
  | nil => exact ⟨[], .nil⟩
  | cons a l ih =>
    obtain ⟨b, hb⟩ := h a List.mem_cons_self
    obtain ⟨bs, hbs⟩ := ih fun c hc => h c (List.mem_cons_of_mem _ hc)
    exact ⟨b :: bs, .cons hb hbs⟩

theorem exists_of_mem_forall₂ {β : Type*} {reads : α → β → Prop} {l : List α} {bs : List β}
    (h : List.Forall₂ reads l bs) {a : α} (ha : a ∈ l) : ∃ b ∈ bs, reads a b := by
  induction h with
  | nil => exact absurd ha List.not_mem_nil
  | @cons c b l bs hb _ ih =>
    rcases List.mem_cons.mp ha with rfl | ha
    · exact ⟨b, List.mem_cons_self, hb⟩
    · obtain ⟨b', hmem, hb'⟩ := ih ha
      exact ⟨b', List.mem_cons_of_mem _ hmem, hb'⟩

/-- What is read from the elements with `p`, where it tells whether its element has `p`. -/
theorem filter_eq_of_forall₂ {β : Type*} {reads : α → β → Prop} {p : α → Bool} {q : β → Bool}
    (hunique : ∀ a b b', reads a b → reads a b' → b = b') (hpq : ∀ a b, reads a b → p a = q b)
    {l l' : List α} {bs bs' : List β} (h : List.Forall₂ reads l bs)
    (h' : List.Forall₂ reads l' bs') (hl : l.filter p = l'.filter p) :
    bs.filter q = bs'.filter q := by
  have hfilter : ∀ {l : List α} {bs : List β}, List.Forall₂ reads l bs →
      List.Forall₂ reads (l.filter p) (bs.filter q) := fun h =>
    List.rel_filter (fun a b hab => Bool.eq_iff_iff.mp (hpq a b hab)) h
  have hsame := hfilter h
  rw [hl] at hsame
  exact List.right_unique_forall₂' hunique hsame (hfilter h')

/-- Where a step accepts `a` exactly when `a` is read as some `b`, the fold accepts exactly the
lists that are read element by element, and the state is the fold of what was read. -/
theorem foldlM_eq_ok_iff {β : Type*} {reads : α → β → Prop} {next : σ → β → σ}
    (hstep : ∀ a s s', step s a = .ok s' ↔ ∃ b, reads a b ∧ s' = next s b) {l : List α} :
    ∀ {s s' : σ}, l.foldlM step s = .ok s' ↔
      ∃ bs, List.Forall₂ reads l bs ∧ s' = bs.foldl next s := by
  induction l with
  | nil =>
    intro s s'
    simp [pure, Except.pure, List.forall₂_nil_left_iff, eq_comm]
  | cons a l ih =>
    intro s s'
    rw [List.foldlM_cons]
    constructor
    · intro h
      obtain ⟨s₁, ha, h⟩ := bind_eq_ok.mp h
      obtain ⟨b, hb, rfl⟩ := (hstep a s s₁).mp ha
      obtain ⟨bs, hbs, rfl⟩ := ih.mp h
      exact ⟨b :: bs, .cons hb hbs, rfl⟩
    · rintro ⟨_, hbs, rfl⟩
      cases hbs with
      | cons hb hbs =>
        rw [(hstep a s _).mpr ⟨_, hb, rfl⟩]
        exact ih.mpr ⟨_, hbs, rfl⟩

/-- A fold on states of another form. -/
theorem foldlM_map {τ : Type*} {step' : τ → α → Except ε τ} {f : σ → τ}
    (hstep : ∀ s a, step' (f s) a = (step s a).map f) {l : List α} :
    ∀ s, l.foldlM step' (f s) = (l.foldlM step s).map f := by
  induction l with
  | nil => exact fun s => rfl
  | cons a l ih =>
    intro s
    rw [List.foldlM_cons, List.foldlM_cons, hstep]
    cases step s a with
    | error e => rfl
    | ok s' => exact ih s'

/-! ## Up to the exception -/

/-- The state in which the first step raises, or the last one: what comes later is not done. -/
def foldUntil : σ → List α → σ
  | s, [] => s
  | s, a :: l =>
    match step s a with
    | .ok s' => foldUntil s' l
    | .error _ => s

variable {step}

theorem foldUntil_append_of_ok {l : List α} (l' : List α) {s' : σ} :
    ∀ {s : σ}, l.foldlM step s = .ok s' → foldUntil step s (l ++ l') = foldUntil step s' l' := by
  induction l with
  | nil =>
    intro s h
    rw [Except.ok.inj h, List.nil_append]
  | cons a l ih =>
    intro s h
    rw [List.foldlM_cons] at h
    obtain ⟨s₁, ha, h⟩ := bind_eq_ok.mp h
    rw [List.cons_append, foldUntil, ha]
    exact ih h

theorem foldUntil_append_of_error {l : List α} (l' : List α) {e : ε} :
    ∀ {s : σ}, l.foldlM step s = .error e → foldUntil step s (l ++ l') = foldUntil step s l := by
  induction l with
  | nil => exact fun h => absurd h (by rintro ⟨⟩)
  | cons a l ih =>
    intro s h
    rw [List.foldlM_cons] at h
    rw [List.cons_append, foldUntil, foldUntil]
    cases ha : step s a with
    | error e => rfl
    | ok s₁ =>
      rw [ha] at h
      exact ih h

/-- Without an exception this is the fold. -/
theorem foldUntil_of_ok {l : List α} {s s' : σ} (h : l.foldlM step s = .ok s') :
    foldUntil step s l = s' := by
  rw [← List.append_nil l, foldUntil_append_of_ok [] h, foldUntil]

theorem foldUntil_map {τ : Type*} {step' : τ → α → Except ε τ} {f : σ → τ}
    (hstep : ∀ s a, step' (f s) a = (step s a).map f) {l : List α} :
    ∀ s, foldUntil step' (f s) l = f (foldUntil step s l) := by
  induction l with
  | nil => exact fun s => rfl
  | cons a l ih =>
    intro s
    rw [foldUntil, foldUntil, hstep]
    cases step s a with
    | error e => rfl
    | ok s' => exact ih s'

/-- What every step keeps, the steps before the exception keep. -/
theorem foldUntil_inv (I : σ → Prop) {l : List α}
    (hstep : ∀ a ∈ l, ∀ s s', I s → step s a = .ok s' → I s') :
    ∀ {s : σ}, I s → I (foldUntil step s l) := by
  induction l with
  | nil => exact id
  | cons a l ih =>
    intro s h
    rw [foldUntil]
    cases ha : step s a with
    | error e => exact h
    | ok s' =>
      exact ih (fun b hb => hstep b (List.mem_cons_of_mem _ hb))
        (hstep a List.mem_cons_self s s' h ha)

end FoldExcept
