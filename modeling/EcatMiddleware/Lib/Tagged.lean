import Mathlib.Data.List.Nodup
import Mathlib.Data.List.Pairwise

/-!
# Lists without repetition

* `nodup_flatten_iff`: a list put together from blocks, where a tag tells the elements of different
  blocks apart.
* `nodup_filterMap_iff`: the values of a partial function on a list.
-/

namespace Tagged

variable {α β τ : Type*}

/-- The elements of a block have its tag. -/
def Consistent (tag : α → τ) (blocks : List (τ × List α)) : Prop :=
  ∀ block ∈ blocks, ∀ a ∈ block.2, tag a = block.1

theorem pairwise_disjoint {tag : α → τ} {blocks : List (τ × List α)}
    (htag : Consistent tag blocks) (hblocks : (blocks.map Prod.fst).Nodup) :
    (blocks.map Prod.snd).Pairwise List.Disjoint := by
  rw [List.pairwise_map]
  refine (List.pairwise_map.mp hblocks).imp_of_mem fun {b b'} hb hb' hne a ha ha' => hne ?_
  exact (htag b hb a ha).symm.trans (htag b' hb' a ha')

theorem nodup_flatten_iff {tag : α → τ} {blocks : List (τ × List α)}
    (htag : Consistent tag blocks) (hblocks : (blocks.map Prod.fst).Nodup) :
    (blocks.map Prod.snd).flatten.Nodup ↔ ∀ block ∈ blocks, block.2.Nodup := by
  rw [List.nodup_flatten, and_iff_left (pairwise_disjoint htag hblocks)]
  exact List.forall_mem_map

/-- No value in common. -/
def Apart (f : α → Option β) (a a' : α) : Prop := ∀ b, f a = some b → f a' ≠ some b

instance (f : α → Option β) : Std.Symm (Apart f) :=
  ⟨fun _ _ h b hb' hb => h b hb hb'⟩

theorem pairwise_apart_iff {f : α → Option β} {l : List α} :
    (l.filterMap f).Nodup ↔ l.Pairwise (Apart f) := by
  rw [List.Nodup, List.pairwise_filterMap]
  apply iff_of_eq
  congr 1
  ext a a'
  constructor
  · exact fun h b hb hb' => h b hb b hb' rfl
  · rintro h b hb b' hb' rfl
    exact h b hb hb'

theorem nodup_filterMap_iff {f : α → Option β} {l : List α} (hl : l.Nodup) :
    (l.filterMap f).Nodup ↔ ∀ a ∈ l, ∀ a' ∈ l, ∀ b, f a = some b → f a' = some b → a = a' := by
  rw [pairwise_apart_iff]
  constructor
  · intro h a ha a' ha' b hb hb'
    by_contra hne
    exact h.forall ha ha' hne b hb hb'
  · intro h
    refine hl.pairwise_of_forall_ne fun a ha a' ha' hne b hb hb' => hne ?_
    exact h a ha a' ha' b hb hb'

end Tagged
