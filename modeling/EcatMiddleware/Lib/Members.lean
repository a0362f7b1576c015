import EcatMiddleware.Lib.FoldExcept

/-!
# Calls to the members of a list

A list of machines, the members, each of which takes calls and may raise. A call names the place of
the member that takes it. `callsTo` are the calls that one member gets.

* `inTurn`: the calls of a round, member after member.
* `foldlM_callAt_ok`: without an exception every member is what its own calls make of it.
* `foldUntil_callAt_prefix`: up to an exception, it is what the first of them make of it.
* `foldUntil_callAt_other`: calls to other members leave a member as it is, also up to an exception.
* `foldlM_callAt_block`, `foldUntil_callAt_block`: calls to one member only.
-/

namespace Members

/-! ## Places in a list -/

/-- The elements before and behind a place. -/
theorem exists_split {α : Type*} {l : List α} {i : ℕ} {a : α} (h : l[i]? = some a) :
    ∃ before after, l = before ++ a :: after ∧ before.length = i := by
  obtain ⟨hlt, rfl⟩ := List.getElem?_eq_some_iff.mp h
  refine ⟨l.take i, l.drop (i + 1), ?_, List.length_take_of_le (Nat.le_of_lt hlt)⟩
  rw [← List.drop_eq_getElem_cons hlt, List.take_append_drop]

/-- The first element with a property. -/
theorem exists_first {α : Type*} {P : α → Prop} {l : List α} (h : ∃ a ∈ l, P a) :
    ∃ before a after, l = before ++ a :: after ∧ P a ∧ ∀ b ∈ before, ¬ P b := by
  classical
  obtain ⟨a, ha, hPa⟩ := h
  cases hfind : l.find? fun a => decide (P a) with
  | none => exact absurd hPa (by simpa using List.find?_eq_none.mp hfind a ha)
  | some x =>
    obtain ⟨hx, before, after, hl, hbefore⟩ := List.find?_eq_some_iff_append.mp hfind
    exact ⟨before, x, after, hl, by simpa using hx, fun b hb => by simpa using hbefore b hb⟩

/-! ## Calls -/

variable {ε P C : Type*} (recv : P → C → Except ε P)

/-- One call to the member at the place that it names. -/
def callAt (ps : List P) (call : ℕ × C) : Except ε (List P) :=
  match ps[call.1]? with
  | none => .ok ps
  | some p => (recv p call.2).map fun p' => ps.set call.1 p'

/-- The calls to the member at `i`. -/
def callsTo (i : ℕ) (calls : List (ℕ × C)) : List C :=
  calls.filterMap fun call => if call.1 = i then some call.2 else none

@[simp] theorem callsTo_append (i : ℕ) (calls calls' : List (ℕ × C)) :
    callsTo i (calls ++ calls') = callsTo i calls ++ callsTo i calls' := List.filterMap_append

theorem callsTo_cons_self (i : ℕ) (c : C) (calls : List (ℕ × C)) :
    callsTo i ((i, c) :: calls) = c :: callsTo i calls :=
  List.filterMap_cons_some (if_pos rfl)

theorem callsTo_cons_of_ne {i j : ℕ} (h : j ≠ i) (c : C) (calls : List (ℕ × C)) :
    callsTo i ((j, c) :: calls) = callsTo i calls :=
  List.filterMap_cons_none (if_neg h)

theorem callsTo_block_self (i : ℕ) (block : List C) :
    callsTo i (block.map fun c => (i, c)) = block := by
  induction block with
  | nil => rfl
  | cons c block ih => rw [List.map_cons, callsTo_cons_self, ih]

theorem callsTo_eq_nil {i : ℕ} {calls : List (ℕ × C)} (h : ∀ call ∈ calls, call.1 ≠ i) :
    callsTo i calls = [] := by
  refine List.filterMap_eq_nil_iff.mpr fun call hcall => if_neg (h call hcall)

/-- Calls whose parts are those of a block are a block. -/
theorem exists_block {C' : Type*} {f : C → C'} {i : ℕ} {block : List C'} {calls : List (ℕ × C)}
    (h : calls.map (fun call => (call.1, f call.2)) = block.map fun c => (i, c)) :
    ∃ block' : List C, calls = block'.map (fun c => (i, c)) ∧ block'.map f = block := by
  induction block generalizing calls with
  | nil =>
    obtain rfl := List.map_eq_nil_iff.mp h
    exact ⟨[], rfl, rfl⟩
  | cons c block ih =>
    obtain ⟨⟨j, c'⟩, calls, rfl, hcall, hcalls⟩ := List.map_eq_cons_iff.mp h
    obtain ⟨rfl, rfl⟩ := Prod.mk.inj hcall
    obtain ⟨block', rfl, rfl⟩ := ih hcalls
    exact ⟨c' :: block', rfl, rfl⟩

/-- The calls to a member, with something taken from every call. -/
theorem callsTo_map {C' : Type*} (f : C → C') (i : ℕ) (calls : List (ℕ × C)) :
    callsTo i (calls.map fun call => (call.1, f call.2)) = (callsTo i calls).map f := by
  induction calls with
  | nil => rfl
  | cons call calls ih =>
    obtain ⟨j, c⟩ := call
    rw [List.map_cons]
    by_cases h : j = i
    · subst h
      rw [callsTo_cons_self, callsTo_cons_self, ih, List.map_cons]
    · rw [callsTo_cons_of_ne h, callsTo_cons_of_ne h, ih]

/-! ## Rounds -/

/-- The calls `calls i` to every member `i`, member after member. -/
def inTurn (n : ℕ) (calls : ℕ → List C) : List (ℕ × C) :=
  (List.range n).flatMap fun i => (calls i).map fun c => (i, c)

theorem inTurn_succ (n : ℕ) (calls : ℕ → List C) :
    inTurn (n + 1) calls = inTurn n calls ++ (calls n).map fun c => (n, c) := by
  unfold inTurn
  rw [List.range_succ, List.flatMap_append, List.flatMap_singleton]

theorem mem_inTurn {n : ℕ} {calls : ℕ → List C} {i : ℕ} {c : C} :
    (i, c) ∈ inTurn n calls ↔ i < n ∧ c ∈ calls i := by
  unfold inTurn
  rw [List.mem_flatMap]
  constructor
  · rintro ⟨j, hj, hmem⟩
    obtain ⟨c', hc', heq⟩ := List.mem_map.mp hmem
    obtain ⟨rfl, rfl⟩ := Prod.mk.inj heq
    exact ⟨List.mem_range.mp hj, hc'⟩
  · rintro ⟨hi, hc⟩
    exact ⟨i, List.mem_range.mpr hi, List.mem_map_of_mem hc⟩

theorem callsTo_inTurn_of_le {n i : ℕ} (h : n ≤ i) (calls : ℕ → List C) :
    callsTo i (inTurn n calls) = [] := by
  refine callsTo_eq_nil fun call hcall => ?_
  have hlt := (mem_inTurn.mp hcall).1
  omega

/-- A member gets its calls of the round. -/
theorem callsTo_inTurn {n i : ℕ} (h : i < n) (calls : ℕ → List C) :
    callsTo i (inTurn n calls) = calls i := by
  induction n with
  | zero => exact absurd h (by omega)
  | succ n ih =>
    rw [inTurn_succ, callsTo_append]
    by_cases hi : i = n
    · subst hi
      rw [callsTo_inTurn_of_le (Nat.le_refl i), callsTo_block_self, List.nil_append]
    · rw [ih (by omega), callsTo_eq_nil, List.append_nil]
      intro call hcall
      obtain ⟨c, -, rfl⟩ := List.mem_map.mp hcall
      exact fun h => hi h.symm

/-- The members before `i`, then `i`, then the others. -/
theorem inTurn_split {n i : ℕ} (h : i < n) (calls : ℕ → List C) :
    ∃ rest, inTurn n calls = inTurn i calls ++ ((calls i).map fun c => (i, c)) ++ rest := by
  induction n with
  | zero => exact absurd h (by omega)
  | succ n ih =>
    rw [inTurn_succ]
    by_cases hi : i = n
    · subst hi
      exact ⟨[], (List.append_nil _).symm⟩
    · obtain ⟨rest, hrest⟩ := ih (by omega)
      exact ⟨rest ++ (calls n).map fun c => (n, c), by rw [hrest, List.append_assoc]⟩

variable {recv}

/-! ## One call -/

theorem callAt_of_getElem? {ps : List P} {i : ℕ} {p : P} (h : ps[i]? = some p) (c : C) :
    callAt recv ps (i, c) = (recv p c).map fun p' => ps.set i p' := by
  unfold callAt
  rw [h]

/-- A call that does not raise is one of its member, or of none. -/
theorem callAt_ok {ps ps' : List P} {i : ℕ} {c : C} (h : callAt recv ps (i, c) = .ok ps') :
    (ps[i]? = none ∧ ps' = ps) ∨
      ∃ p p', ps[i]? = some p ∧ recv p c = .ok p' ∧ ps' = ps.set i p' := by
  cases hp : ps[i]? with
  | none =>
    unfold callAt at h
    rw [hp] at h
    exact Or.inl ⟨rfl, (Except.ok.inj h).symm⟩
  | some p =>
    rw [callAt_of_getElem? hp] at h
    cases hr : recv p c with
    | error e =>
      rw [hr] at h
      exact absurd h (by rintro ⟨⟩)
    | ok p' =>
      rw [hr] at h
      exact Or.inr ⟨p, p', rfl, hr, (Except.ok.inj h).symm⟩

theorem getElem?_set_self_of_some {ps : List P} {i : ℕ} {p : P} (h : ps[i]? = some p) (p' : P) :
    (ps.set i p')[i]? = some p' :=
  List.getElem?_set_self (List.getElem?_eq_some_iff.mp h).1

/-- A call to another member leaves a member as it is. -/
theorem callAt_other {ps ps' : List P} {i j : ℕ} {c : C} (hne : j ≠ i)
    (h : callAt recv ps (j, c) = .ok ps') : ps'[i]? = ps[i]? := by
  rcases callAt_ok h with ⟨-, rfl⟩ | ⟨p, p', -, -, rfl⟩
  · rfl
  · rw [List.getElem?_set_ne hne]

/-! ## Many calls -/

/-- **Without an exception** a member takes its own calls. -/
theorem foldlM_callAt_ok {calls : List (ℕ × C)} :
    ∀ {ps ps' : List P}, calls.foldlM (callAt recv) ps = .ok ps' → ∀ {i : ℕ} {p : P},
      ps[i]? = some p → ∃ p', ps'[i]? = some p' ∧ (callsTo i calls).foldlM recv p = .ok p' := by
  induction calls with
  | nil =>
    intro ps ps' h i p hp
    obtain rfl := Except.ok.inj h
    exact ⟨p, hp, rfl⟩
  | cons call calls ih =>
    intro ps ps' h i p hp
    obtain ⟨j, c⟩ := call
    rw [List.foldlM_cons] at h
    obtain ⟨ps₁, hcall, h⟩ := FoldExcept.bind_eq_ok.mp h
    by_cases hj : j = i
    · subst hj
      rcases callAt_ok hcall with ⟨hnone, -⟩ | ⟨q, q', hq, hrecv, rfl⟩
      · rw [hp] at hnone
        exact absurd hnone (by simp)
      · obtain rfl : p = q := Option.some.inj (hp.symm.trans hq)
        obtain ⟨p', hp', hcalls⟩ := ih h (getElem?_set_self_of_some hp q')
        refine ⟨p', hp', ?_⟩
        rw [callsTo_cons_self, List.foldlM_cons, hrecv]
        exact hcalls
    · rw [callsTo_cons_of_ne hj]
      exact ih h ((callAt_other hj hcall).trans hp)

/-- Calls to other members leave a member as it is. -/
theorem foldUntil_callAt_other {i : ℕ} {calls : List (ℕ × C)} (h : ∀ call ∈ calls, call.1 ≠ i)
    (ps : List P) : (FoldExcept.foldUntil (callAt recv) ps calls)[i]? = ps[i]? :=
  FoldExcept.foldUntil_inv (fun ps' : List P => ps'[i]? = ps[i]?)
    (fun call hcall _ _ hps hstep => (callAt_other (h call hcall) hstep).trans hps) rfl

/-- **Up to an exception** a member takes the first ones of its own calls. -/
theorem foldUntil_callAt_prefix {calls : List (ℕ × C)} {i : ℕ} :
    ∀ {ps : List P} {p : P}, ps[i]? = some p → ∃ made, made.IsPrefix (callsTo i calls) ∧
      (FoldExcept.foldUntil (callAt recv) ps calls)[i]? =
        some (FoldExcept.foldUntil recv p made) := by
  induction calls with
  | nil => exact fun hp => ⟨[], List.prefix_rfl, hp⟩
  | cons call calls ih =>
    intro ps p hp
    obtain ⟨j, c⟩ := call
    rw [FoldExcept.foldUntil]
    cases hcall : callAt recv ps (j, c) with
    | error e => exact ⟨[], List.nil_prefix, hp⟩
    | ok ps₁ =>
      by_cases hj : j = i
      · subst hj
        rw [callAt_of_getElem? hp] at hcall
        cases hrecv : recv p c with
        | error e =>
          rw [hrecv] at hcall
          exact absurd hcall (by rintro ⟨⟩)
        | ok p₁ =>
          rw [hrecv] at hcall
          obtain rfl := Except.ok.inj hcall
          obtain ⟨made, hmade, hfinal⟩ := ih (getElem?_set_self_of_some hp p₁)
          refine ⟨c :: made, ?_, ?_⟩
          · rw [callsTo_cons_self]
            exact List.cons_prefix_cons.mpr ⟨rfl, hmade⟩
          · rw [FoldExcept.foldUntil, hrecv]
            exact hfinal
      · rw [callsTo_cons_of_ne hj]
        exact ih ((callAt_other hj hcall).trans hp)

/-- Calls to one member only. -/
theorem foldlM_callAt_block {i : ℕ} {block : List C} :
    ∀ {ps : List P} {p : P}, ps[i]? = some p →
      (block.map fun c => (i, c)).foldlM (callAt recv) ps =
        (block.foldlM recv p).map fun p' => ps.set i p' := by
  induction block with
  | nil =>
    intro ps p hp
    obtain ⟨hlt, rfl⟩ := List.getElem?_eq_some_iff.mp hp
    show Except.ok ps = Except.ok (ps.set i ps[i])
    rw [List.set_getElem_self]
  | cons c block ih =>
    intro ps p hp
    rw [List.map_cons, List.foldlM_cons, List.foldlM_cons, callAt_of_getElem? hp]
    cases hrecv : recv p c with
    | error e => rfl
    | ok p₁ =>
      show (block.map fun c => (i, c)).foldlM (callAt recv) (ps.set i p₁) =
        (block.foldlM recv p₁).map fun p' => ps.set i p'
      rw [ih (getElem?_set_self_of_some hp p₁)]
      cases block.foldlM recv p₁ with
      | error e => rfl
      | ok p₂ => exact congrArg Except.ok (List.set_set _)

theorem foldUntil_callAt_block {i : ℕ} {block : List C} :
    ∀ {ps : List P} {p : P}, ps[i]? = some p →
      (FoldExcept.foldUntil (callAt recv) ps (block.map fun c => (i, c)))[i]? =
        some (FoldExcept.foldUntil recv p block) := by
  induction block with
  | nil => exact fun hp => hp
  | cons c block ih =>
    intro ps p hp
    rw [List.map_cons, FoldExcept.foldUntil, FoldExcept.foldUntil, callAt_of_getElem? hp]
    cases hrecv : recv p c with
    | error e => exact hp
    | ok p₁ => exact ih (getElem?_set_self_of_some hp p₁)

end Members
