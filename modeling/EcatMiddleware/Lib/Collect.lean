import Mathlib.Data.Finset.Lattice.Lemmas

/-!
# Collecting from tables, each key once

`collect` walks through tables in order and takes the entry of every wanted key from the first
table that has one. `collect_spec` says which keys it takes and which entries.
-/

namespace Keyed

variable {κ α : Type*}

/-- A table, with the order in which its keys are visited. -/
structure Table (κ α : Type*) where
  keys : List κ
  entry : κ → Option α

/-- The entry of `k` in the first table that has one. -/
def firstEntry (ts : List (Table κ α)) (k : κ) : Option α := ts.findSome? fun t => t.entry k

@[simp] theorem firstEntry_nil (k : κ) : firstEntry ([] : List (Table κ α)) k = none := rfl

theorem firstEntry_cons (t : Table κ α) (ts : List (Table κ α)) (k : κ) :
    firstEntry (t :: ts) k = (t.entry k).or (firstEntry ts k) := by
  simp only [firstEntry, List.findSome?_cons]
  cases t.entry k <;> rfl

variable [DecidableEq κ] (wanted : κ → Bool)

/-- One key: its entry is taken if it is wanted and was not taken before. -/
def collectKey (entry : κ → Option α) (s : Finset κ × List α) (k : κ) : Finset κ × List α :=
  match entry k with
  | none => s
  | some a => if wanted k && decide (k ∉ s.1) then (insert k s.1, s.2 ++ [a]) else s

def collectTable (s : Finset κ × List α) (t : Table κ α) : Finset κ × List α :=
  t.keys.foldl (collectKey wanted t.entry) s

def collect (ts : List (Table κ α)) (s : Finset κ × List α) : Finset κ × List α :=
  ts.foldl (collectTable wanted) s

/-- From `s` to `s'` the keys with `P` that `s` lacks are taken, each once, with entries `f`. -/
def Collected (P : κ → Prop) (f : κ → Option α) (s s' : Finset κ × List α) : Prop :=
  ∃ (ks : List κ) (as : List α), ks.Nodup ∧ (∀ k, k ∈ ks ↔ k ∉ s.1 ∧ P k) ∧
    s'.1 = s.1 ∪ ks.toFinset ∧ s'.2 = s.2 ++ as ∧ as.map some = ks.map f

namespace Collected

variable {P Q R : κ → Prop} {f g h : κ → Option α} {s s' s'' : Finset κ × List α}

theorem of_forall_not (hP : ∀ k, k ∉ s.1 → ¬ P k) : Collected P f s s :=
  ⟨[], [], List.nodup_nil, by simpa using hP, by simp, by simp, rfl⟩

theorem single {k : κ} {a : α} (hk : k ∉ s.1) (hP : ∀ j, P j ↔ j = k) (hf : f k = some a) :
    Collected P f s (insert k s.1, s.2 ++ [a]) := by
  refine ⟨[k], [a], List.nodup_singleton k, fun j => ?_, ?_, rfl, by simp [hf]⟩
  · rw [List.mem_singleton, hP]
    exact ⟨fun hj => ⟨hj ▸ hk, hj⟩, fun hj => hj.2⟩
  · ext j
    simp

theorem congr (hf : Collected P f s s') (hPQ : ∀ k, k ∉ s.1 → (Q k ↔ P k))
    (hfg : ∀ k, k ∉ s.1 → P k → g k = f k) : Collected Q g s s' := by
  obtain ⟨ks, as, hnd, hks, hs, ho, has⟩ := hf
  refine ⟨ks, as, hnd, fun k => ?_, hs, ho, ?_⟩
  · rw [hks]
    exact ⟨fun hk => ⟨hk.1, (hPQ k hk.1).mpr hk.2⟩, fun hk => ⟨hk.1, (hPQ k hk.1).mp hk.2⟩⟩
  · rw [has]
    exact List.map_congr_left fun k hk => (hfg k ((hks k).mp hk).1 ((hks k).mp hk).2).symm

/-- What is taken first hides the later entries of the same keys. -/
theorem trans (h₁ : Collected P f s s') (h₂ : Collected Q g s' s'')
    (hf : ∀ k, P k → h k = f k) (hg : ∀ k, ¬ P k → h k = g k) :
    Collected (fun k => P k ∨ Q k) h s s'' := by
  obtain ⟨ks₁, as₁, hnd₁, hks₁, hs₁, ho₁, has₁⟩ := h₁
  obtain ⟨ks₂, as₂, hnd₂, hks₂, hs₂, ho₂, has₂⟩ := h₂
  have hseen : ∀ k, k ∈ s'.1 ↔ k ∈ s.1 ∨ P k := by
    intro k
    rw [hs₁, Finset.mem_union, List.mem_toFinset, hks₁]
    tauto
  refine ⟨ks₁ ++ ks₂, as₁ ++ as₂, ?_, fun k => ?_, ?_, ?_, ?_⟩
  · refine List.Nodup.append hnd₁ hnd₂ fun k h₁ h₂ => ?_
    exact ((hks₂ k).mp h₂).1 ((hseen k).mpr (Or.inr ((hks₁ k).mp h₁).2))
  · rw [List.mem_append, hks₁, hks₂, hseen]
    tauto
  · rw [hs₂, hs₁, List.toFinset_append, Finset.union_assoc]
  · rw [ho₂, ho₁, List.append_assoc]
  · rw [List.map_append, List.map_append, has₁, has₂]
    congr 1
    · exact List.map_congr_left fun k hk => (hf k ((hks₁ k).mp hk).2).symm
    · refine List.map_congr_left fun k hk => (hg k fun hP => ?_).symm
      exact ((hks₂ k).mp hk).1 ((hseen k).mpr (Or.inr hP))

end Collected

theorem collectKey_spec (entry : κ → Option α) (s : Finset κ × List α) (k : κ) :
    Collected (fun j => j = k ∧ wanted j ∧ (entry j).isSome) entry s
      (collectKey wanted entry s k) := by
  unfold collectKey
  cases he : entry k with
  | none =>
    refine Collected.of_forall_not fun j _ hj => ?_
    rw [hj.1, he] at hj
    exact absurd hj.2.2 (by simp)
  | some a =>
    simp only [Bool.and_eq_true, decide_eq_true_eq]
    by_cases hk : wanted k ∧ k ∉ s.1
    · rw [if_pos hk]
      refine Collected.single hk.2 (fun j => ⟨fun hj => hj.1, fun hj => ⟨hj, ?_⟩⟩) he
      rw [hj, he]
      exact ⟨hk.1, rfl⟩
    · rw [if_neg hk]
      exact Collected.of_forall_not fun j hj hP => hk ⟨hP.1 ▸ hP.2.1, hP.1 ▸ hj⟩

theorem foldl_collectKey_spec (entry : κ → Option α) (ks : List κ) :
    ∀ s : Finset κ × List α, Collected (fun k => k ∈ ks ∧ wanted k ∧ (entry k).isSome) entry s
      (ks.foldl (collectKey wanted entry) s) := by
  induction ks with
  | nil => exact fun s => Collected.of_forall_not fun k _ hk => by simp at hk
  | cons k ks ih =>
    intro s
    refine ((collectKey_spec wanted entry s k).trans (ih _) (h := entry)
      (fun _ _ => rfl) fun _ _ => rfl).congr (fun j _ => ?_) fun _ _ _ => rfl
    rw [List.mem_cons]
    tauto

/-- **Collecting.** Every wanted key with an entry is taken once, from the first table with one. -/
theorem collect_spec {ts : List (Table κ α)}
    (hkeys : ∀ t ∈ ts, ∀ k, (t.entry k).isSome → k ∈ t.keys) :
    ∀ s : Finset κ × List α, Collected (fun k => wanted k ∧ (firstEntry ts k).isSome)
      (firstEntry ts) s (collect wanted ts s) := by
  induction ts with
  | nil => exact fun s => Collected.of_forall_not fun k _ hk => by simp at hk
  | cons t ts ih =>
    intro s
    have ht := foldl_collectKey_spec wanted t.entry t.keys s
    have hts := ih (fun t' ht' => hkeys t' (List.mem_cons_of_mem _ ht')) (collectTable wanted s t)
    have hk := hkeys t List.mem_cons_self
    -- a wanted key outside the first table's share has no entry in the first table
    have hnone : ∀ k, wanted k →
        ¬ (k ∈ t.keys ∧ wanted k ∧ (t.entry k).isSome) → t.entry k = none := by
      intro k hw hn
      by_contra hne
      have hsome := Option.isSome_iff_ne_none.mpr hne
      exact hn ⟨hk k hsome, hw, hsome⟩
    refine Collected.congr (ht.trans hts
      (h := fun k => if k ∈ t.keys ∧ wanted k ∧ (t.entry k).isSome then t.entry k
        else firstEntry ts k)
      (fun k hP => if_pos hP) (fun k hP => if_neg hP)) (fun k _ => ?_) fun k _ hPQ => ?_
    · rw [firstEntry_cons]
      constructor
      · rintro ⟨hw, hs⟩
        by_cases hP : k ∈ t.keys ∧ wanted k ∧ (t.entry k).isSome
        · exact Or.inl hP
        · rw [hnone k hw hP, Option.none_or] at hs
          exact Or.inr ⟨hw, hs⟩
      · rintro (⟨_, hw, hs⟩ | ⟨hw, hs⟩)
        · exact ⟨hw, by rw [Option.isSome_or, hs, Bool.true_or]⟩
        · exact ⟨hw, by rw [Option.isSome_or, hs, Bool.or_true]⟩
    · rw [firstEntry_cons]
      by_cases hP : k ∈ t.keys ∧ wanted k ∧ (t.entry k).isSome
      · obtain ⟨a, ha⟩ := Option.isSome_iff_exists.mp hP.2.2
        rw [if_pos hP, ha, Option.some_or]
      · have hw : wanted k := hPQ.elim (fun h => h.2.1) fun h => h.1
        rw [if_neg hP, hnone k hw hP, Option.none_or]

end Keyed
