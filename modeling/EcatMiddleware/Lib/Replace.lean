import Mathlib.Data.List.Infix
import Mathlib.Algebra.GroupWithZero.Nat

/-!
# Replacing the occurrences of a token

`replaceFrom` is the loop that searches for a token, replaces what it finds in place and goes on
behind what it put in; `substitute` reads a text once from left to right and replaces several
tokens on the way. One loop is one reading (`replaceFrom_append`). Two loops, one after the other,
are one reading exactly when the first brings about no new occurrence of the second token
(`substitute_substitute_eq_iff`).
-/

namespace Replace

variable {α : Type*} [DecidableEq α]

/-- A text to search for. -/
abbrev Token (α : Type*) := { t : List α // t ≠ [] }

/-- The first position from `offset` on at which the token occurs. -/
def find (t : Token α) (s : List α) (offset : ℕ) : Option ℕ :=
  ((s.drop offset).tails.findIdx? fun tail => t.1.isPrefixOf tail).map (· + offset)

theorem find_eq_some {t : Token α} {s : List α} {offset i : ℕ} (h : find t s offset = some i) :
    offset ≤ i ∧ t.1 <+: s.drop i := by
  obtain ⟨j, hj, rfl⟩ := Option.map_eq_some_iff.mp h
  refine ⟨Nat.le_add_left _ _, ?_⟩
  obtain ⟨hlt, hprefix, -⟩ := List.findIdx?_eq_some_iff_getElem.mp hj
  rw [List.getElem_tails, List.drop_drop, Nat.add_comm] at hprefix
  exact List.isPrefixOf_iff_prefix.mp hprefix

/-- Replaces in place what is found from `offset` on, and goes on behind what was put in. -/
def replaceFrom (t : Token α) (d s : List α) (offset : ℕ) : List α :=
  match _h : find t s offset with
  | none => s
  | some i => replaceFrom t d (s.take i ++ d ++ s.drop (i + t.1.length)) (i + d.length)
termination_by s.length - offset
decreasing_by
  obtain ⟨hle, hprefix⟩ := find_eq_some ‹find t s offset = some i›
  have hlength := hprefix.length_le
  have hpos := List.length_pos_iff.mpr t.2
  rw [List.length_drop] at hlength
  simp only [List.length_append, List.length_take, List.length_drop]
  omega

/-- The token that a text begins with. -/
def tokenAt (tokens : List (Token α)) (s : List α) : Option (Token α) :=
  tokens.find? fun t => t.1.isPrefixOf s

/-- Reads a text from left to right and writes `d` for the tokens that it meets. The next `skip`
characters belong to the token met last. -/
def substituteFrom (tokens : List (Token α)) (d : List α) : ℕ → List α → List α
  | _, [] => []
  | skip + 1, _ :: s => substituteFrom tokens d skip s
  | 0, b :: s =>
    match tokenAt tokens (b :: s) with
    | some t => d ++ substituteFrom tokens d (t.1.length - 1) s
    | none => b :: substituteFrom tokens d 0 s

/-- All tokens of the text are replaced, and nothing that was put in. -/
def substitute (tokens : List (Token α)) (d s : List α) : List α := substituteFrom tokens d 0 s

theorem prefix_of_tokenAt {tokens : List (Token α)} {s : List α} {t : Token α}
    (h : tokenAt tokens s = some t) : t.1 <+: s := by
  have hprefix : t.1.isPrefixOf s = true := by simpa using List.find?_some h
  exact List.isPrefixOf_iff_prefix.mp hprefix

theorem tokenAt_singleton (t : Token α) (s : List α) : tokenAt [t] (t.1 ++ s) = some t := by
  have hprefix : t.1.isPrefixOf (t.1 ++ s) = true :=
    List.isPrefixOf_iff_prefix.mpr (List.prefix_append _ _)
  rw [tokenAt, List.find?_cons, hprefix]

theorem substituteFrom_eq_drop (tokens : List (Token α)) (d : List α) (skip : ℕ) (s : List α) :
    substituteFrom tokens d skip s = substitute tokens d (s.drop skip) := by
  induction s generalizing skip with
  | nil => cases skip <;> rfl
  | cons b s ih =>
    cases skip with
    | zero => rfl
    | succ skip => exact ih skip

@[simp] theorem substitute_nil (tokens : List (Token α)) (d : List α) :
    substitute tokens d [] = [] := rfl

theorem substitute_token {tokens : List (Token α)} {t : Token α} {s : List α}
    (h : tokenAt tokens (t.1 ++ s) = some t) (d : List α) :
    substitute tokens d (t.1 ++ s) = d ++ substitute tokens d s := by
  obtain ⟨b, u, hu⟩ := List.exists_cons_of_ne_nil t.2
  have hskip : substituteFrom tokens d (t.1.length - 1) (u ++ s) = substitute tokens d s := by
    rw [substituteFrom_eq_drop, hu, List.length_cons, Nat.add_sub_cancel, List.drop_left]
  rw [← hskip, hu, List.cons_append, substitute, substituteFrom]
  rw [hu, List.cons_append] at h
  rw [h]
  simp only [hu]

theorem substitute_cons {tokens : List (Token α)} {b : α} {s : List α}
    (h : tokenAt tokens (b :: s) = none) (d : List α) :
    substitute tokens d (b :: s) = b :: substitute tokens d s := by
  rw [substitute, substituteFrom, h]
  rfl

/-- A text is read token by token, or character by character where none begins. -/
theorem scan_induction (tokens : List (Token α)) {P : List α → Prop} (nil : P [])
    (token : ∀ t s, tokenAt tokens (t.1 ++ s) = some t → P s → P (t.1 ++ s))
    (skip : ∀ b s, tokenAt tokens (b :: s) = none → P s → P (b :: s)) : ∀ s, P s := by
  intro s
  induction hn : s.length using Nat.strong_induction_on generalizing s with
  | _ n ih =>
    cases h : tokenAt tokens s with
    | some t =>
      obtain ⟨rest, rfl⟩ := prefix_of_tokenAt h
      refine token t rest h (ih rest.length ?_ rest rfl)
      have := List.length_pos_iff.mpr t.2
      rw [List.length_append] at hn
      omega
    | none =>
      cases s with
      | nil => exact nil
      | cons b s => exact skip b s h (ih s.length (by rw [← hn]; exact Nat.lt_succ_self _) s rfl)

/-! ## The loop -/

theorem find_nil (t : Token α) (pre : List α) : find t (pre ++ []) pre.length = none := by
  rw [find, List.drop_left]
  have hnot : t.1.isPrefixOf [] = false :=
    Bool.eq_false_iff.mpr fun h => t.2 (List.prefix_nil.mp (List.isPrefixOf_iff_prefix.mp h))
  simp [List.findIdx?_cons, hnot]

theorem find_token (t : Token α) (pre s : List α) :
    find t (pre ++ (t.1 ++ s)) pre.length = some pre.length := by
  obtain ⟨b, u, hu⟩ := List.exists_cons_of_ne_nil t.2
  have hprefix : t.1.isPrefixOf (b :: (u ++ s)) = true := by
    rw [List.isPrefixOf_iff_prefix, hu, ← List.cons_append]
    exact List.prefix_append _ _
  have hcons : t.1 ++ s = b :: (u ++ s) := by rw [hu, List.cons_append]
  rw [find, List.drop_left, hcons, List.tails_cons, List.findIdx?_cons, if_pos hprefix]
  simp

theorem find_cons {t : Token α} {b : α} {s : List α} (h : tokenAt [t] (b :: s) = none)
    (pre : List α) :
    find t (pre ++ b :: s) pre.length = find t ((pre ++ [b]) ++ s) (pre ++ [b]).length := by
  have hnot : t.1.isPrefixOf (b :: s) = false :=
    Bool.eq_false_iff.mpr (List.find?_eq_none.mp h t (List.mem_singleton_self t))
  rw [find, find, List.drop_left, List.drop_left, List.tails_cons, List.findIdx?_cons, hnot,
    if_neg Bool.false_ne_true, Option.map_map, List.length_append, List.length_singleton]
  congr 1
  funext i
  exact (Nat.add_right_comm i 1 pre.length).trans (Nat.add_assoc i pre.length 1)

theorem replaceFrom_of_none {t : Token α} {d s : List α} {offset : ℕ}
    (h : find t s offset = none) : replaceFrom t d s offset = s := by
  rw [replaceFrom]
  split
  · rfl
  · rename_i i hi
    rw [h] at hi
    exact absurd hi (by simp)

theorem replaceFrom_of_some {t : Token α} {d s : List α} {offset i : ℕ}
    (h : find t s offset = some i) : replaceFrom t d s offset =
      replaceFrom t d (s.take i ++ d ++ s.drop (i + t.1.length)) (i + d.length) := by
  rw [replaceFrom]
  split
  · rename_i hi
    rw [h] at hi
    exact absurd hi (by simp)
  · rename_i j hj
    obtain rfl := Option.some.inj (h.symm.trans hj)
    rfl

/-- **The loop is one reading** of what is behind the offset. -/
theorem replaceFrom_append (t : Token α) (d rest : List α) :
    ∀ pre, replaceFrom t d (pre ++ rest) pre.length = pre ++ substitute [t] d rest := by
  induction rest using scan_induction [t] with
  | nil => exact fun pre => replaceFrom_of_none (find_nil t pre)
  | token t' s h ih =>
    intro pre
    obtain rfl : t' = t := List.mem_singleton.mp (List.mem_of_find?_eq_some h)
    rw [replaceFrom_of_some (find_token t' pre s), substitute_token h, List.take_left,
      ← List.append_assoc pre t'.1 s, ← List.length_append, List.drop_left,
      ← List.length_append, ih, List.append_assoc]
  | skip b s h ih =>
    intro pre
    have hstep : replaceFrom t d (pre ++ b :: s) pre.length =
        replaceFrom t d ((pre ++ [b]) ++ s) (pre ++ [b]).length := by
      have happend : pre ++ b :: s = (pre ++ [b]) ++ s := by simp
      cases hfind : find t (pre ++ b :: s) pre.length with
      | none =>
        rw [replaceFrom_of_none hfind, replaceFrom_of_none ((find_cons h pre).symm.trans hfind),
          happend]
      | some i =>
        rw [replaceFrom_of_some hfind, replaceFrom_of_some ((find_cons h pre).symm.trans hfind),
          happend]
    rw [hstep, ih, substitute_cons h, List.append_assoc, List.singleton_append]

/-! ## Occurrences -/

/-- The number of positions at which the token occurs. -/
def occurrences (t : Token α) (s : List α) : ℕ := s.tails.countP fun tail => t.1.isPrefixOf tail

theorem occurrences_nil (t : Token α) : occurrences t [] = 0 := by
  refine List.countP_eq_zero.mpr fun tail htail hprefix => t.2 ?_
  obtain rfl := List.mem_singleton.mp htail
  exact List.prefix_nil.mp (List.isPrefixOf_iff_prefix.mp hprefix)

theorem occurrences_cons (t : Token α) (b : α) (s : List α) :
    occurrences t (b :: s) = occurrences t s + if t.1.isPrefixOf (b :: s) then 1 else 0 := by
  rw [occurrences, List.tails_cons, List.countP_cons]
  rfl

/-- The character `a` begins the token, and does not come again in it. -/
def HeadOnce (t : Token α) (a : α) : Prop := ∃ u, t.1 = a :: u ∧ a ∉ u

theorem occurrences_append_of_notMem {t : Token α} {a : α} (ht : HeadOnce t a) {u : List α}
    (hu : a ∉ u) (s : List α) : occurrences t (u ++ s) = occurrences t s := by
  obtain ⟨u', ht, -⟩ := ht
  induction u with
  | nil => rfl
  | cons b u ih =>
    rw [List.mem_cons, not_or] at hu
    have hnot : ¬ t.1.isPrefixOf (b :: (u ++ s)) = true := by
      rw [List.isPrefixOf_iff_prefix, ht, List.cons_prefix_cons]
      exact fun h => hu.1 h.1
    rw [List.cons_append, occurrences_cons, if_neg hnot, Nat.add_zero, ih hu.2]

theorem occurrences_token {t : Token α} {a : α} (ht : HeadOnce t a) (s : List α) :
    occurrences t (t.1 ++ s) = occurrences t s + 1 := by
  have hprefix : t.1.isPrefixOf (t.1 ++ s) = true :=
    List.isPrefixOf_iff_prefix.mpr (List.prefix_append _ _)
  obtain ⟨u, hu, hau⟩ := ht
  rw [hu, List.cons_append] at hprefix ⊢
  rw [occurrences_cons, hu, if_pos hprefix, occurrences_append_of_notMem ⟨u, hu, hau⟩ hau]

/-! ## Some of the occurrences -/

/-- `x` is `s` with `n` of its occurrences replaced. -/
inductive Replaced (t : Token α) (d : List α) : List α → List α → ℕ → Prop
  | nil : Replaced t d [] [] 0
  | keep (b : α) {s x : List α} {n : ℕ} : Replaced t d s x n → Replaced t d (b :: s) (b :: x) n
  | put {s x : List α} {n : ℕ} : Replaced t d s x n → Replaced t d (t.1 ++ s) (d ++ x) (n + 1)

namespace Replaced

variable {t : Token α} {d s x : List α} {a : α} {n : ℕ}

omit [DecidableEq α] in
theorem append (p : List α) (h : Replaced t d s x n) : Replaced t d (p ++ s) (p ++ x) n := by
  induction p with
  | nil => exact h
  | cons b p ih => exact .keep b ih

omit [DecidableEq α] in
theorem length (h : Replaced t d s x n) :
    x.length + n * t.1.length = s.length + n * d.length := by
  induction h with
  | nil => simp
  | keep b _ ih =>
    rw [List.length_cons, List.length_cons]
    omega
  | put _ ih =>
    rw [List.length_append, List.length_append, Nat.add_mul, Nat.add_mul]
    omega

theorem le_occurrences (ht : HeadOnce t a) (h : Replaced t d s x n) : n ≤ occurrences t s := by
  induction h with
  | nil => exact Nat.zero_le _
  | keep b _ ih =>
    rw [occurrences_cons]
    exact ih.trans (Nat.le_add_right _ _)
  | put _ ih =>
    rw [occurrences_token ht]
    exact Nat.succ_le_succ ih

omit [DecidableEq α] in
/-- No occurrence begins in characters other than `a`: they are kept. -/
theorem exists_append (ht : HeadOnce t a) {u : List α} (hu : a ∉ u) :
    ∀ {x : List α}, Replaced t d (u ++ s) x n → ∃ y, x = u ++ y := by
  obtain ⟨u', ht, -⟩ := ht
  induction u with
  | nil => exact fun _ => ⟨_, rfl⟩
  | cons b u ih =>
    rw [List.mem_cons, not_or] at hu
    intro x h
    rw [List.cons_append] at h
    generalize hs : b :: (u ++ s) = s' at h
    cases h with
    | nil => exact absurd hs (by simp)
    | keep c h =>
      obtain ⟨rfl, rfl⟩ := List.cons.inj hs
      obtain ⟨y, rfl⟩ := ih hu.2 h
      exact ⟨y, rfl⟩
    | put h =>
      rw [ht, List.cons_append] at hs
      exact absurd (List.cons.inj hs).1.symm hu.1

omit [DecidableEq α] in
/-- A token that is put in its own place changes nothing. -/
theorem eq_self (h : Replaced t t.1 s x n) : x = s := by
  induction h with
  | nil => rfl
  | keep b _ ih => rw [ih]
  | put _ ih => rw [ih]

/-- One reading replaces all occurrences. -/
theorem substitute (ht : HeadOnce t a) (s : List α) :
    Replaced t d s (substitute [t] d s) (occurrences t s) := by
  induction s using scan_induction [t] with
  | nil =>
    rw [occurrences_nil]
    exact .nil
  | token t' s h ih =>
    obtain rfl : t' = t := List.mem_singleton.mp (List.mem_of_find?_eq_some h)
    rw [substitute_token h, occurrences_token ht]
    exact .put ih
  | skip b s h ih =>
    have hnot := List.find?_eq_none.mp h t (List.mem_singleton_self t)
    rw [substitute_cons h, occurrences_cons, if_neg hnot, Nat.add_zero]
    exact .keep b ih

/-- All occurrences are replaced. -/
theorem eq_substitute (ht : HeadOnce t a) (h : Replaced t d s x n) (hn : n = occurrences t s) :
    x = Replace.substitute [t] d s := by
  induction h with
  | nil => rfl
  | @keep b s x n h ih =>
    rw [occurrences_cons] at hn
    have hle := h.le_occurrences ht
    by_cases hprefix : t.1.isPrefixOf (b :: s) = true
    · rw [if_pos hprefix] at hn
      omega
    · rw [if_neg hprefix] at hn
      have hnone : tokenAt [t] (b :: s) = none :=
        List.find?_eq_none.mpr fun t' ht' => List.mem_singleton.mp ht' ▸ hprefix
      rw [substitute_cons hnone, ← ih hn]
  | put _ ih =>
    rw [occurrences_token ht] at hn
    rw [substitute_token (tokenAt_singleton t _), ← ih (Nat.succ.inj hn)]

/-- A reading in which another text is put in place of the token tells how many were replaced. -/
theorem eq_occurrences (ht : HeadOnce t a) (hd : d.length = t.1.length) (hne : d ≠ t.1)
    (h : Replaced t d s x n) (hx : x = Replace.substitute [t] d s) : n = occurrences t s := by
  induction h with
  | nil => exact (occurrences_nil t).symm
  | @keep b s x n h ih =>
    cases hat : tokenAt [t] (b :: s) with
    | none =>
      have hnot := List.find?_eq_none.mp hat t (List.mem_singleton_self t)
      rw [substitute_cons hat] at hx
      rw [occurrences_cons, if_neg hnot, Nat.add_zero]
      exact ih (List.cons.inj hx).2
    | some t' =>
      obtain rfl : t' = t := List.mem_singleton.mp (List.mem_of_find?_eq_some hat)
      -- the occurrence is kept in `x`, and `d` stands in its place in the reading
      obtain ⟨rest, hrest⟩ := prefix_of_tokenAt hat
      obtain ⟨u, hu, hau⟩ := ht
      rw [← hrest, substitute_token (tokenAt_singleton t' rest)] at hx
      rw [hu, List.cons_append] at hrest
      obtain ⟨rfl, rfl⟩ := List.cons.inj hrest
      obtain ⟨y, rfl⟩ := h.exists_append ⟨u, hu, hau⟩ hau
      rw [← List.cons_append, ← hu] at hx
      exact absurd (List.append_inj_left hx hd.symm).symm hne
  | put _ ih =>
    rw [substitute_token (tokenAt_singleton t _)] at hx
    rw [occurrences_token ht, ih (List.append_cancel_left hx)]

/-- **Which replacements are complete**: those of all occurrences, and any where the token itself
is put in. -/
theorem eq_substitute_iff (ht : HeadOnce t a) (h : Replaced t d s x n) :
    x = Replace.substitute [t] d s ↔ n = occurrences t s ∨ d = t.1 := by
  constructor
  · intro hx
    by_cases hd : d.length = t.1.length
    · by_cases hne : d = t.1
      · exact Or.inr hne
      · exact Or.inl (h.eq_occurrences ht hd hne hx)
    · left
      have hle := h.le_occurrences ht
      have hlength := h.length
      have hall := (Replaced.substitute (d := d) ht s).length
      rw [← hx] at hall
      have hmul : (occurrences t s - n) * t.1.length = (occurrences t s - n) * d.length := by
        rw [Nat.sub_mul, Nat.sub_mul]
        omega
      rcases Nat.eq_zero_or_pos (occurrences t s - n) with hzero | hpos
      · omega
      · exact absurd (Nat.eq_of_mul_eq_mul_left hpos hmul).symm hd
  · rintro (hn | rfl)
    · exact h.eq_substitute ht hn
    · rw [h.eq_self, (Replaced.substitute ht s).eq_self]

end Replaced

/-! ## Two tokens -/

/-- The tokens begin with the same character, which occurs only there, and neither begins the
other: their occurrences never overlap. -/
structure Apart (t₁ t₂ : Token α) (a : α) : Prop where
  headOnce₁ : HeadOnce t₁ a
  headOnce₂ : HeadOnce t₂ a
  not_prefix₁ : ¬ t₁.1 <+: t₂.1
  not_prefix₂ : ¬ t₂.1 <+: t₁.1

section Apart

variable {t₁ t₂ : Token α} {a : α}

omit [DecidableEq α] in
theorem Apart.not_prefix_append (h : Apart t₁ t₂ a) (s : List α) : ¬ t₁.1 <+: t₂.1 ++ s :=
  fun hp => (List.prefix_or_prefix_of_prefix hp (List.prefix_append _ _)).elim
    h.not_prefix₁ h.not_prefix₂

/-- No token begins before the next `a`. -/
theorem substitute_append_of_notMem {t : Token α} (ht : HeadOnce t a) {u : List α} (hu : a ∉ u)
    (d s : List α) : substitute [t] d (u ++ s) = u ++ substitute [t] d s := by
  obtain ⟨u', ht, -⟩ := ht
  induction u with
  | nil => rfl
  | cons b u ih =>
    rw [List.mem_cons, not_or] at hu
    have hnone : tokenAt [t] (b :: (u ++ s)) = none := by
      refine List.find?_eq_none.mpr fun t' ht' hprefix => hu.1 ?_
      obtain rfl := List.mem_singleton.mp ht'
      rw [List.isPrefixOf_iff_prefix, ht, List.cons_prefix_cons] at hprefix
      exact hprefix.1
    rw [List.cons_append, substitute_cons hnone, ih hu.2, List.cons_append]

/-- Another token is read over. -/
theorem Apart.substitute_token (h : Apart t₁ t₂ a) (d s : List α) :
    substitute [t₁] d (t₂.1 ++ s) = t₂.1 ++ substitute [t₁] d s := by
  have hnot := h.not_prefix_append s
  obtain ⟨u, hu, hau⟩ := h.headOnce₂
  rw [hu, List.cons_append] at hnot ⊢
  have hnone : tokenAt [t₁] (a :: (u ++ s)) = none := by
    refine List.find?_eq_none.mpr fun t' ht' hprefix => hnot ?_
    obtain rfl := List.mem_singleton.mp ht'
    exact List.isPrefixOf_iff_prefix.mp hprefix
  rw [substitute_cons hnone, substitute_append_of_notMem h.headOnce₁ hau, List.cons_append]

omit [DecidableEq α] in
theorem Apart.symm (h : Apart t₁ t₂ a) : Apart t₂ t₁ a :=
  ⟨h.headOnce₂, h.headOnce₁, h.not_prefix₂, h.not_prefix₁⟩

theorem Apart.occurrences_token (h : Apart t₁ t₂ a) (s : List α) :
    occurrences t₁ (t₂.1 ++ s) = occurrences t₁ s := by
  have hnot := h.not_prefix_append s
  obtain ⟨u, hu, hau⟩ := h.headOnce₂
  rw [hu, List.cons_append] at hnot ⊢
  rw [occurrences_cons, if_neg fun hp => hnot (List.isPrefixOf_iff_prefix.mp hp), Nat.add_zero,
    occurrences_append_of_notMem h.headOnce₁ hau]

/-- The reading for both tokens replaces, in the text that the reading for the first has left,
the occurrences of the second that were there before. -/
theorem Apart.replaced (h : Apart t₁ t₂ a) (d s : List α) :
    Replaced t₂ d (substitute [t₁] d s) (substitute [t₁, t₂] d s) (occurrences t₂ s) := by
  induction s using scan_induction [t₁, t₂] with
  | nil =>
    rw [occurrences_nil]
    exact .nil
  | token t s hat ih =>
    rw [Replace.substitute_token hat]
    rcases List.mem_pair.mp (List.mem_of_find?_eq_some hat) with rfl | rfl
    · rw [Replace.substitute_token (tokenAt_singleton t s), h.symm.occurrences_token]
      exact ih.append d
    · rw [h.substitute_token, Replace.occurrences_token h.headOnce₂]
      exact .put ih
  | skip b s hat ih =>
    have hnone := List.find?_eq_none.mp hat
    have hnone₁ : tokenAt [t₁] (b :: s) = none := List.find?_eq_none.mpr fun t ht =>
      List.mem_singleton.mp ht ▸ hnone t₁ List.mem_cons_self
    rw [substitute_cons hat, substitute_cons hnone₁, occurrences_cons,
      if_neg (hnone t₂ (List.mem_cons_of_mem _ List.mem_cons_self)), Nat.add_zero]
    exact .keep b ih

/-- **Two loops are one reading** exactly when the first brings about no new occurrence of the
second token, or the second token is itself what is put in. -/
theorem Apart.substitute_substitute_eq_iff (h : Apart t₁ t₂ a) (d s : List α) :
    substitute [t₂] d (substitute [t₁] d s) = substitute [t₁, t₂] d s ↔
      occurrences t₂ s = occurrences t₂ (substitute [t₁] d s) ∨ d = t₂.1 := by
  rw [← (h.replaced d s).eq_substitute_iff h.headOnce₂, eq_comm]

end Apart

/-! ## The text between the tokens -/

/-- `s` is what the pieces give with the token between them, and no piece holds the token. -/
structure Pieces (t : Token α) (s : List α) (pieces : List (List α)) : Prop where
  eq : t.1.intercalate pieces = s
  free : ∀ p ∈ pieces, ¬ t.1 <:+: p

section Pieces

variable {t : Token α} {a : α}

omit [DecidableEq α] in
/-- A token that begins in a piece ends in it: behind the piece comes the character `a`. -/
theorem HeadOnce.prefix_of_prefix_append (ht : HeadOnce t a) {b : α} {p y : List α}
    (hy : ∀ c ∈ y.head?, c = a) (h : t.1 <+: b :: (p ++ y)) : t.1 <+: b :: p := by
  obtain ⟨u, hu, hau⟩ := ht
  rw [hu, List.cons_prefix_cons] at h ⊢
  refine ⟨h.1, ?_⟩
  rcases List.prefix_or_prefix_of_prefix h.2 (List.prefix_append p y) with hp | ⟨z, rfl⟩
  · exact hp
  · cases z with
    | nil => rw [List.append_nil]
    | cons c z =>
      obtain ⟨y', rfl⟩ := (List.prefix_append_right_inj p).mp h.2
      obtain rfl := hy c rfl
      exact absurd (List.mem_append_right p List.mem_cons_self) hau

theorem HeadOnce.occurrences_append (ht : HeadOnce t a) {y : List α} (hy : ∀ c ∈ y.head?, c = a)
    (p : List α) : occurrences t (p ++ y) = occurrences t p + occurrences t y := by
  induction p with
  | nil => rw [List.nil_append, occurrences_nil, Nat.zero_add]
  | cons b p ih =>
    have hiff : t.1.isPrefixOf (b :: (p ++ y)) = t.1.isPrefixOf (b :: p) := by
      rw [Bool.eq_iff_iff, List.isPrefixOf_iff_prefix, List.isPrefixOf_iff_prefix]
      refine ⟨ht.prefix_of_prefix_append hy, fun h => ?_⟩
      exact h.trans (List.prefix_append (b :: p) y)
    rw [List.cons_append, occurrences_cons, occurrences_cons, ih, hiff]
    omega

theorem HeadOnce.substitute_append (ht : HeadOnce t a) {y : List α} (hy : ∀ c ∈ y.head?, c = a)
    (d : List α) {p : List α} (hp : ¬ t.1 <:+: p) :
    substitute [t] d (p ++ y) = p ++ substitute [t] d y := by
  induction p with
  | nil => rfl
  | cons b p ih =>
    have hnone : tokenAt [t] (b :: (p ++ y)) = none := by
      refine List.find?_eq_none.mpr fun t' ht' hprefix => hp ?_
      obtain rfl := List.mem_singleton.mp ht'
      exact (ht.prefix_of_prefix_append hy (List.isPrefixOf_iff_prefix.mp hprefix)).isInfix
    rw [List.cons_append, substitute_cons hnone, List.cons_append,
      ih fun h => hp (h.trans (List.suffix_cons b p).isInfix)]

omit [DecidableEq α] in
theorem HeadOnce.head_append (ht : HeadOnce t a) (s : List α) : ∀ c ∈ (t.1 ++ s).head?, c = a := by
  obtain ⟨u, hu, -⟩ := ht
  rw [hu]
  rintro c ⟨⟩
  rfl

/-- The text that is read and its occurrences, piece by piece. -/
theorem Apart.substitute_pieces {t₁ t₂ : Token α} (h : Apart t₁ t₂ a) (d : List α)
    {pieces : List (List α)} :
    ∀ {s}, Pieces t₁ s pieces → substitute [t₁] d s = d.intercalate pieces ∧
      occurrences t₂ s = (pieces.map (occurrences t₂)).sum := by
  induction pieces with
  | nil =>
    rintro s ⟨rfl, -⟩
    exact ⟨rfl, occurrences_nil t₂⟩
  | cons p pieces ih =>
    rintro s ⟨rfl, hfree⟩
    have hp := hfree p List.mem_cons_self
    have hnil : ∀ c ∈ ([] : List α).head?, c = a := by rintro c ⟨⟩
    cases pieces with
    | nil =>
      have hread := h.headOnce₁.substitute_append hnil d hp
      rw [List.append_nil, substitute_nil, List.append_nil] at hread
      rw [List.intercalate_singleton, List.intercalate_singleton]
      exact ⟨hread, (Nat.add_zero _).symm⟩
    | cons q pieces =>
      obtain ⟨hread, hocc⟩ := ih ⟨rfl, fun p hp => hfree p (List.mem_cons_of_mem _ hp)⟩
      have hhead := h.headOnce₁.head_append (t₁.1.intercalate (q :: pieces))
      rw [List.intercalate_cons_cons, List.intercalate_cons_cons, List.append_assoc,
        List.append_assoc]
      constructor
      · rw [h.headOnce₁.substitute_append hhead d hp,
          Replace.substitute_token (tokenAt_singleton t₁ _), hread]
      · rw [h.headOnce₂.occurrences_append hhead, h.symm.occurrences_token, hocc]
        rfl

/-- Every text has its pieces. -/
theorem exists_pieces (t : Token α) (s : List α) : ∃ pieces, Pieces t s pieces := by
  suffices h : ∃ p pieces, Pieces t s (p :: pieces) by
    obtain ⟨p, pieces, h⟩ := h
    exact ⟨p :: pieces, h⟩
  induction s using scan_induction [t] with
  | nil =>
    refine ⟨[], [], List.intercalate_singleton, fun p hp hinfix => t.2 ?_⟩
    obtain rfl := List.mem_singleton.mp hp
    exact List.infix_nil.mp hinfix
  | token t' s hat ih =>
    obtain rfl : t' = t := List.mem_singleton.mp (List.mem_of_find?_eq_some hat)
    obtain ⟨p, pieces, rfl, hfree⟩ := ih
    refine ⟨[], p :: pieces, List.intercalate_cons_cons, fun q hq => ?_⟩
    rcases List.mem_cons.mp hq with rfl | hq
    · exact fun hinfix => t'.2 (List.infix_nil.mp hinfix)
    · exact hfree q hq
  | skip b s hat ih =>
    obtain ⟨p, pieces, rfl, hfree⟩ := ih
    refine ⟨b :: p, pieces, ?_, fun q hq hinfix => ?_⟩
    · exact List.intercalate_cons_cons_left
    · rcases List.mem_cons.mp hq with rfl | hq
      · rcases List.infix_cons_iff.mp hinfix with hprefix | hinfix
        · refine List.find?_eq_none.mp hat t (List.mem_singleton_self t) ?_
          have hp : p <+: t.1.intercalate (p :: pieces) := by
            cases pieces with
            | nil => rw [List.intercalate_singleton]
            | cons q pieces =>
              rw [List.intercalate_cons_cons, List.append_assoc]
              exact List.prefix_append _ _
          rw [List.isPrefixOf_iff_prefix]
          exact hprefix.trans ((List.prefix_cons_inj b).mpr hp)
        · exact hfree p List.mem_cons_self hinfix
      · exact hfree q (List.mem_cons_of_mem _ hq) hinfix

end Pieces

/-- **Two loops, piece by piece.** What the first puts between the pieces must bring about no
occurrence of the second token beside those in the pieces. -/
theorem Apart.substitute_substitute_eq_iff_pieces {t₁ t₂ : Token α} {a : α} (h : Apart t₁ t₂ a)
    (d s : List α) :
    substitute [t₂] d (substitute [t₁] d s) = substitute [t₁, t₂] d s ↔
      (∀ pieces, Pieces t₁ s pieces →
        occurrences t₂ (d.intercalate pieces) = (pieces.map (occurrences t₂)).sum) ∨
      d = t₂.1 := by
  rw [h.substitute_substitute_eq_iff]
  refine or_congr_left ⟨fun heq pieces hpieces => ?_, fun hall => ?_⟩
  · obtain ⟨hread, hocc⟩ := h.substitute_pieces d hpieces
    rw [← hread, ← hocc, heq]
  · obtain ⟨pieces, hpieces⟩ := exists_pieces t₁ s
    obtain ⟨hread, hocc⟩ := h.substitute_pieces d hpieces
    rw [hread, hocc, hall pieces hpieces]

end Replace
