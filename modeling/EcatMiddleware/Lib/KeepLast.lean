import Mathlib.Data.List.DropRight

/-!
# Bounded queues

A queue that keeps its last `depth` elements: pushing to a full queue drops the oldest ones.
`Remains room xs ys`: `xs` is what such queues leave of `ys`, all of it if there is room.
-/

namespace KeepLast

variable {α : Type*}

/-- Append `x`, then drop what is too old. -/
def push (depth : ℕ) (queue : List α) (x : α) : List α := (queue ++ [x]).rtake depth

theorem mem_of_mem_push {depth : ℕ} {queue : List α} {x y : α} (h : y ∈ push depth queue x) :
    y ∈ queue ∨ y = x := by
  have hmem := List.mem_of_mem_drop h
  rw [List.mem_append, List.mem_singleton] at hmem
  exact hmem

theorem map_push {β : Type*} (f : α → β) (depth : ℕ) (queue : List α) (x : α) :
    (push depth queue x).map f = push depth (queue.map f) (f x) := by
  unfold push List.rtake
  rw [List.map_drop, List.map_append, List.map_singleton, List.length_append, List.length_append,
    List.length_map, List.length_singleton, List.length_singleton]

theorem length_push_le (depth : ℕ) (queue : List α) (x : α) :
    (push depth queue x).length ≤ depth := by
  unfold push List.rtake
  rw [List.length_drop]
  omega

/-- A queue that is not too long is its own last part. -/
theorem rtake_of_length_le {depth : ℕ} {queue : List α} (h : queue.length ≤ depth) :
    queue.rtake depth = queue := by
  unfold List.rtake
  rw [Nat.sub_eq_zero_of_le h, List.drop_zero]

theorem rtake_one_concat (l : List α) (x : α) : (l ++ [x]).rtake 1 = [x] := by
  rw [List.rtake_concat_succ, List.rtake_zero, List.nil_append]

theorem push_rtake (depth : ℕ) (l : List α) (x : α) :
    push depth (l.rtake depth) x = (l ++ [x]).rtake depth := by
  unfold push
  cases depth with
  | zero => simp
  | succ n =>
    rw [List.rtake_concat_succ, List.rtake_concat_succ]
    congr 1
    unfold List.rtake
    rw [List.drop_drop, List.length_drop]
    congr 1
    omega

/-- Pushing one element after the other keeps the last ones of all. -/
theorem foldl_push (depth : ℕ) (l : List α) :
    ∀ l₀ : List α, l.foldl (push depth) (l₀.rtake depth) = (l₀ ++ l).rtake depth := by
  induction l with
  | nil => simp
  | cons x l ih =>
    intro l₀
    rw [List.foldl_cons, push_rtake, ih, List.append_assoc, List.singleton_append]

/-- Elements are lost, if at all, for want of room. -/
def Remains (room : Prop) (xs ys : List α) : Prop := xs.Sublist ys ∧ (room → xs = ys)

namespace Remains

variable {room : Prop} {xs ys zs xs' ys' : List α}

theorem refl (xs : List α) : Remains room xs xs := ⟨List.Sublist.refl xs, fun _ => rfl⟩

theorem of_eq (h : xs = ys) : Remains room xs ys := h ▸ refl xs

theorem append (h : Remains room xs ys) (h' : Remains room xs' ys') :
    Remains room (xs ++ xs') (ys ++ ys') :=
  ⟨h.1.append h'.1, fun hroom => congrArg₂ (· ++ ·) (h.2 hroom) (h'.2 hroom)⟩

theorem trans (h : Remains room xs ys) (h' : Remains room ys zs) : Remains room xs zs :=
  ⟨h.1.trans h'.1, fun hroom => (h.2 hroom).trans (h'.2 hroom)⟩

theorem mono {room' : Prop} (h : Remains room xs ys) (hroom : room' → room) :
    Remains room' xs ys := ⟨h.1, fun h' => h.2 (hroom h')⟩

theorem filterMap {β : Type*} (f : α → Option β) (h : Remains room xs ys) :
    Remains room (xs.filterMap f) (ys.filterMap f) :=
  ⟨h.1.filterMap f, fun hroom => congrArg _ (h.2 hroom)⟩

theorem push (depth : ℕ) (queue : List α) (x : α) :
    Remains (queue.length < depth) (push depth queue x) (queue ++ [x]) := by
  refine ⟨List.drop_sublist _ _, fun hroom => rtake_of_length_le ?_⟩
  rw [List.length_append, List.length_singleton]
  omega

end Remains

end KeepLast
