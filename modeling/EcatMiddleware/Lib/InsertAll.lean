import Mathlib.Data.List.AList
import Mathlib.Data.Finset.Card

/-!
# Maps filled entry by entry

`insertAll m l` assigns the entries of `l` one after the other, so that a later entry replaces an
earlier one with the same key. Exactly when the keys are distinct does the map hold every entry.
Every map is filled from its own entries (`insertAll_assignments`).
-/

namespace InsertAll

variable {α β : Type*} [DecidableEq α]

def insertAll (m : AList fun _ : α => β) (l : List (α × β)) : AList fun _ : α => β :=
  l.foldl (fun m r => m.insert r.1 r.2) m

@[simp] theorem insertAll_nil (m : AList fun _ : α => β) : insertAll m [] = m := rfl

@[simp] theorem insertAll_cons (m : AList fun _ : α => β) (r : α × β) (l : List (α × β)) :
    insertAll m (r :: l) = insertAll (m.insert r.1 r.2) l := rfl

theorem insertAll_append (m : AList fun _ : α => β) (l l' : List (α × β)) :
    insertAll m (l ++ l') = insertAll (insertAll m l) l' := List.foldl_append

theorem mem_insertAll {a : α} (l : List (α × β)) (m : AList fun _ : α => β) :
    a ∈ insertAll m l ↔ a ∈ m ∨ a ∈ l.map Prod.fst := by
  induction l generalizing m with
  | nil => simp
  | cons r l ih =>
    rw [insertAll_cons, ih, AList.mem_insert, List.map_cons, List.mem_cons]
    tauto

/-- The size of the map is the number of distinct keys. -/
theorem length_keys_insertAll (l : List (α × β)) :
    (insertAll ∅ l).keys.length = (l.map Prod.fst).toFinset.card := by
  rw [← List.toFinset_card_of_nodup (AList.keys_nodup _)]
  congr 1
  ext a
  rw [List.mem_toFinset, List.mem_toFinset, AList.mem_keys.symm, mem_insertAll]
  simp [AList.notMem_empty]

theorem length_keys_insertAll_eq_iff (l : List (α × β)) :
    (insertAll ∅ l).keys.length = l.length ↔ (l.map Prod.fst).Nodup := by
  rw [length_keys_insertAll, ← List.length_map Prod.fst, List.card_toFinset]
  constructor
  · intro h
    exact List.dedup_eq_self.mp ((List.dedup_sublist _).eq_of_length h)
  · intro h
    rw [List.dedup_eq_self.mpr h]

theorem lookup_insertAll_of_notMem {a : α} {l : List (α × β)} (m : AList fun _ : α => β)
    (h : a ∉ l.map Prod.fst) : (insertAll m l).lookup a = m.lookup a := by
  induction l generalizing m with
  | nil => rfl
  | cons r l ih =>
    rw [List.map_cons, List.mem_cons, not_or] at h
    rw [insertAll_cons, ih _ h.2, AList.lookup_insert_ne h.1]

theorem mem_of_lookup_insertAll {a : α} {b : β} (l : List (α × β)) (m : AList fun _ : α => β)
    (h : (insertAll m l).lookup a = some b) : m.lookup a = some b ∨ (a, b) ∈ l := by
  induction l generalizing m with
  | nil => exact Or.inl h
  | cons r l ih =>
    rcases ih _ h with hinsert | hmem
    · by_cases hkey : a = r.1
      · subst hkey
        rw [AList.lookup_insert] at hinsert
        rw [← Option.some.inj hinsert]
        exact Or.inr List.mem_cons_self
      · rw [AList.lookup_insert_ne hkey] at hinsert
        exact Or.inl hinsert
    · exact Or.inr (List.mem_cons_of_mem _ hmem)

/-- Under distinct keys no entry is lost. -/
theorem lookup_insertAll {r : α × β} {l : List (α × β)} (m : AList fun _ : α => β)
    (hnodup : (l.map Prod.fst).Nodup) (hr : r ∈ l) :
    (insertAll m l).lookup r.1 = some r.2 := by
  induction l generalizing m with
  | nil => exact absurd hr List.not_mem_nil
  | cons s l ih =>
    rw [List.map_cons, List.nodup_cons] at hnodup
    rcases List.mem_cons.mp hr with rfl | hr
    · rw [insertAll_cons, lookup_insertAll_of_notMem _ hnodup.1, AList.lookup_insert]
    · exact ih _ hnodup.2 hr

/-! ## The entries of a map -/

/-- The entries, the one that was assigned last at the end. -/
def assignments (m : AList fun _ : α => β) : List (α × β) :=
  m.entries.reverse.map fun s => (s.1, s.2)

theorem mem_assignments {m : AList fun _ : α => β} {r : α × β} :
    r ∈ assignments m ↔ m.lookup r.1 = some r.2 := by
  unfold assignments
  rw [List.mem_map, ← Option.mem_def, AList.mem_lookup_iff]
  constructor
  · rintro ⟨s, hs, rfl⟩
    exact List.mem_reverse.mp hs
  · intro h
    exact ⟨⟨r.1, r.2⟩, List.mem_reverse.mpr h, rfl⟩

/-- **A map is filled from its own entries.** -/
theorem insertAll_assignments (m : AList fun _ : α => β) : insertAll ∅ (assignments m) = m := by
  obtain ⟨entries, hnodup⟩ := m
  induction entries with
  | nil => rfl
  | cons s entries ih =>
    have happend : assignments ⟨s :: entries, hnodup⟩ =
        assignments ⟨entries, List.nodupKeys_of_nodupKeys_cons hnodup⟩ ++ [(s.1, s.2)] := by
      unfold assignments
      rw [List.reverse_cons, List.map_append, List.map_singleton]
    rw [happend, insertAll_append, ih, insertAll_cons, insertAll_nil]
    exact (AList.mk_cons_eq_insert s entries hnodup).symm

end InsertAll
