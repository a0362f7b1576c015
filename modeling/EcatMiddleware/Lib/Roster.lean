import EcatMiddleware.Lib.Latest
import Mathlib.Data.List.Induction

/-!
# Rosters

A roster lists what has been added and not been removed since, each once, in the order in which it
came. After any changes it lists what was last added and not last removed (`mem_changes_iff`).
-/

structure Roster (α : Type*) where
  members : List α
  nodup : members.Nodup

namespace Roster

variable {α : Type*}

/-- Nothing is listed. -/
def empty : Roster α := ⟨[], List.nodup_nil⟩

instance : Membership α (Roster α) := ⟨fun r a => a ∈ r.members⟩

theorem mem_members {r : Roster α} {a : α} : a ∈ r.members ↔ a ∈ r := Iff.rfl

@[simp] theorem notMem_empty (a : α) : a ∉ (empty : Roster α) := List.not_mem_nil

variable [DecidableEq α]

instance (r : Roster α) (a : α) : Decidable (a ∈ r) := inferInstanceAs (Decidable (a ∈ r.members))

/-- Adds a member at the end, unless it is there. -/
def add (r : Roster α) (a : α) : Roster α :=
  if h : a ∈ r.members then r
  else ⟨r.members ++ [a], List.nodup_append.mpr ⟨r.nodup, List.nodup_singleton a,
    fun b hb c hc => by
    obtain rfl := List.mem_singleton.mp hc
    rintro rfl
    exact h hb⟩⟩

def remove (r : Roster α) (a : α) : Roster α :=
  ⟨r.members.filter (· ≠ a), r.nodup.filter _⟩

theorem add_of_mem {r : Roster α} {a : α} (h : a ∈ r) : r.add a = r := dif_pos h

theorem members_add {r : Roster α} {a : α} (h : a ∉ r) : (r.add a).members = r.members ++ [a] := by
  have hnot : a ∉ r.members := h
  unfold add
  rw [dif_neg hnot]

@[simp] theorem mem_add {r : Roster α} {a b : α} : b ∈ r.add a ↔ b = a ∨ b ∈ r := by
  by_cases h : a ∈ r
  · rw [add_of_mem h]
    exact ⟨Or.inr, by rintro (rfl | hb) <;> assumption⟩
  · rw [← mem_members, members_add h, List.mem_append, List.mem_singleton, or_comm]
    rfl

@[simp] theorem mem_remove {r : Roster α} {a b : α} : b ∈ r.remove a ↔ b ≠ a ∧ b ∈ r := by
  show b ∈ r.members.filter (· ≠ a) ↔ _
  rw [List.mem_filter, and_comm]
  simp [mem_members]

/-! ## Changes -/

inductive Change (α : Type*) where
  | add (a : α)
  | remove (a : α)
  deriving DecidableEq, Repr

/-- The one that is added or removed. -/
def Change.subject : Change α → α
  | .add a => a
  | .remove a => a

/-- The last change of what is listed of `a`. -/
def latestChange (a : α) (changes : List (Change α)) : Option (Change α) :=
  Keyed.latest (fun c => some c.subject) a changes

theorem latestChange_concat (a : α) (changes : List (Change α)) (c : Change α) :
    latestChange a (changes ++ [c]) = if c.subject = a then some c else latestChange a changes := by
  unfold latestChange
  rw [Keyed.latest_concat]
  simp only [Option.some.injEq]

def change (r : Roster α) : Change α → Roster α
  | .add a => r.add a
  | .remove a => r.remove a

theorem mem_change_of_ne {r : Roster α} {c : Change α} {a : α} (h : c.subject ≠ a) :
    a ∈ r.change c ↔ a ∈ r := by
  cases c with
  | add b => exact mem_add.trans (or_iff_right (Ne.symm h))
  | remove b => exact mem_remove.trans (and_iff_right (Ne.symm h))

/-- **After any changes** a roster lists what was last added, and of what was not changed what it
listed before. -/
theorem mem_changes_iff (r : Roster α) (changes : List (Change α)) (a : α) :
    a ∈ changes.foldl change r ↔
      latestChange a changes = some (.add a) ∨ latestChange a changes = none ∧ a ∈ r := by
  induction changes using List.reverseRecOn with
  | nil => simp [latestChange]
  | append_singleton changes c ih =>
    rw [List.foldl_concat, latestChange_concat]
    by_cases h : c.subject = a
    · rw [if_pos h]
      subst h
      cases c with
      | add b => exact iff_of_true (mem_add.mpr (Or.inl rfl)) (Or.inl rfl)
      | remove b => exact iff_of_false (fun hmem => (mem_remove.mp hmem).1 rfl) (by simp)
    · rw [if_neg h, mem_change_of_ne h, ih]

theorem mem_foldl_add {new : List α} {a : α} : ∀ {r : Roster α},
    a ∈ new.foldl add r ↔ a ∈ new ∨ a ∈ r := by
  induction new with
  | nil => simp
  | cons b new ih =>
    intro r
    rw [List.foldl_cons, ih, mem_add, List.mem_cons, or_left_comm, or_assoc]

/-- Those who come and are not there yet are listed in the order in which they come. -/
theorem members_foldl_add (new : List α) : ∀ r : Roster α, new.Nodup → (∀ a ∈ new, a ∉ r) →
    (new.foldl add r).members = r.members ++ new := by
  induction new with
  | nil => exact fun r _ _ => (List.append_nil _).symm
  | cons a new ih =>
    intro r hnodup hnew
    obtain ⟨ha, hnodup⟩ := List.nodup_cons.mp hnodup
    rw [List.foldl_cons, ih (r.add a) hnodup ?_, members_add (hnew a List.mem_cons_self),
      List.append_assoc, List.singleton_append]
    intro b hb hmem
    rcases mem_add.mp hmem with rfl | hmem
    · exact ha hb
    · exact hnew b (List.mem_cons_of_mem _ hb) hmem

end Roster
