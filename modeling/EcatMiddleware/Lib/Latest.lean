import Mathlib.Data.List.Basic
import Mathlib.Data.List.Nodup

/-!
# The latest element of a keyed stream

A stream of elements, each with at most one key. `latest key k l` is the last element of `l` with
key `k`: what a table indexed by keys holds at `k` after `l` was written to it.
-/

namespace Keyed

variable {α κ : Type*} [DecidableEq κ] (key : α → Option κ)

/-- The last element of `l` whose key is `k`. -/
def latest (k : κ) (l : List α) : Option α := l.findRev? fun a => key a = some k

@[simp] theorem latest_nil (k : κ) : latest key k [] = none := rfl

theorem latest_eq_find?_reverse (k : κ) (l : List α) :
    latest key k l = l.reverse.find? fun a => key a = some k := List.findRev?_eq_find?_reverse

/-- A second stream hides the first one at every key that it writes. -/
theorem latest_concat (k : κ) (l : List α) (a : α) :
    latest key k (l ++ [a]) = if key a = some k then some a else latest key k l := by
  rw [latest_eq_find?_reverse, List.reverse_append]
  by_cases h : key a = some k
  · simp [h]
  · simp [h, latest_eq_find?_reverse]

theorem latest_concat_self {k : κ} {a : α} (l : List α) (h : key a = some k) :
    latest key k (l ++ [a]) = some a := by rw [latest_concat, if_pos h]

/-- An element without the key does not change what is held there. -/
theorem latest_concat_ne {k : κ} {a : α} (l : List α) (h : key a ≠ some k) :
    latest key k (l ++ [a]) = latest key k l := by rw [latest_concat, if_neg h]

theorem mem_of_latest {k : κ} {l : List α} {a : α} (h : latest key k l = some a) : a ∈ l := by
  rw [latest_eq_find?_reverse] at h
  exact List.mem_reverse.mp (List.mem_of_find?_eq_some h)

theorem key_of_latest {k : κ} {l : List α} {a : α} (h : latest key k l = some a) :
    key a = some k := by
  rw [latest_eq_find?_reverse] at h
  simpa using List.find?_some h

/-- Something is held at `k` exactly when the stream has an element with that key. -/
theorem latest_isSome_iff {k : κ} {l : List α} :
    (latest key k l).isSome ↔ ∃ a ∈ l, key a = some k := by
  simp [latest_eq_find?_reverse, List.find?_isSome]

theorem exists_latest {k : κ} {l : List α} {a : α} (ha : a ∈ l) (h : key a = some k) :
    ∃ b, latest key k l = some b :=
  Option.isSome_iff_exists.mp ((latest_isSome_iff key).mpr ⟨a, ha, h⟩)

theorem latest_eq_none_iff {k : κ} {l : List α} :
    latest key k l = none ↔ ∀ a ∈ l, key a ≠ some k := by
  rw [← Option.not_isSome_iff_eq_none, latest_isSome_iff]
  push Not
  rfl

/-- The held element stands after all others with the key. -/
theorem latest_eq_some_iff {k : κ} {l : List α} {a : α} :
    latest key k l = some a ↔
      ∃ l₁ l₂, l = l₁ ++ a :: l₂ ∧ key a = some k ∧ ∀ b ∈ l₂, key b ≠ some k := by
  rw [latest_eq_find?_reverse, List.find?_eq_some_iff_append]
  constructor
  · rintro ⟨ha, as, bs, hl, has⟩
    refine ⟨bs.reverse, as.reverse, ?_, by simpa using ha, fun b hb => ?_⟩
    · simpa using congrArg List.reverse hl
    · simpa using has b (by simpa using hb)
  · rintro ⟨l₁, l₂, rfl, ha, hl₂⟩
    refine ⟨by simpa using ha, l₂.reverse, l₁.reverse, by simp, fun b hb => ?_⟩
    simpa using hl₂ b (by simpa using hb)

end Keyed
