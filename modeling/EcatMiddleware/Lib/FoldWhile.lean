import Mathlib.Data.List.TakeWhile

/-!
# Loops that break

`foldWhile` goes through a list and breaks after the first element that the step refuses.

* `foldWhile_eq_foldl`: where a predicate decides what the step refuses, it is a fold over the
  elements before the first one refused.
* `takeWhile_eq_filter_iff`: when these are all elements that are not refused.
-/

namespace FoldWhile

variable {σ α : Type*}

/-- `for a in l { if (!step(a)) break; }`. -/
def foldWhile (step : σ → α → Bool × σ) : σ → List α → σ
  | s, [] => s
  | s, a :: l =>
    let done := step s a
    if done.1 then foldWhile step done.2 l else done.2

theorem foldWhile_map {β : Type*} (step : σ → α → Bool × σ) (f : β → α) (l : List β) :
    ∀ s : σ, foldWhile step s (l.map f) = foldWhile (fun s b => step s (f b)) s l := by
  induction l with
  | nil => exact fun _ => rfl
  | cons b l ih =>
    intro s
    show (if (step s (f b)).1 then foldWhile step (step s (f b)).2 (l.map f)
      else (step s (f b)).2) = _
    rw [ih]
    rfl

/-- `I` is what must hold of the state and the rest of the list for `p` to decide the next step. -/
theorem foldWhile_eq_foldl {step : σ → α → Bool × σ} {p : α → Bool} (I : σ → List α → Prop)
    (htaken : ∀ s a l, I s (a :: l) → p a = true → (step s a).1 = true ∧ I (step s a).2 l)
    (hrefused : ∀ s a l, I s (a :: l) → p a = false → step s a = (false, s)) (l : List α) :
    ∀ {s : σ}, I s l →
      foldWhile step s l = (l.takeWhile p).foldl (fun s a => (step s a).2) s := by
  induction l with
  | nil => exact fun _ => rfl
  | cons a l ih =>
    intro s hs
    show (if (step s a).1 then foldWhile step (step s a).2 l else (step s a).2) = _
    cases hp : p a with
    | true =>
      obtain ⟨htrue, hrest⟩ := htaken s a l hs hp
      rw [if_pos htrue, List.takeWhile_cons_of_pos hp, List.foldl_cons]
      exact ih hrest
    | false =>
      rw [hrefused s a l hs hp, List.takeWhile_cons_of_neg (by simp [hp])]
      rfl

/-- The elements before the first refused one are among those that are not refused. -/
theorem takeWhile_sublist_filter (p : α → Bool) (l : List α) :
    (l.takeWhile p).Sublist (l.filter p) := by
  have hall : (l.takeWhile p).filter p = l.takeWhile p :=
    List.filter_eq_self.mpr fun a ha => List.mem_takeWhile_imp ha
  rw [← hall]
  exact (List.takeWhile_sublist p).filter p

theorem takeWhile_eq_filter_iff (p : α → Bool) (l : List α) :
    l.takeWhile p = l.filter p ↔ l.Pairwise fun a b => p b = true → p a = true := by
  induction l with
  | nil => simp
  | cons a l ih =>
    rw [List.pairwise_cons, ← ih]
    cases hp : p a with
    | true => simp [List.takeWhile_cons_of_pos hp, List.filter_cons_of_pos hp]
    | false =>
      have hneg : ¬ p a = true := by simp [hp]
      rw [List.takeWhile_cons_of_neg hneg, List.filter_cons_of_neg hneg]
      constructor
      · intro h
        have hnone : l.filter p = [] := h.symm
        refine ⟨fun b hb hpb => ?_, ?_⟩
        · exact absurd hpb (List.filter_eq_nil_iff.mp hnone b hb)
        · rw [hnone]
          exact List.sublist_nil.mp (hnone ▸ takeWhile_sublist_filter p l)
      · rintro ⟨h, -⟩
        refine (List.filter_eq_nil_iff.mpr fun b hb hpb => ?_).symm
        exact Bool.false_ne_true (h b hb hpb)

end FoldWhile
