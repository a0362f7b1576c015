import Mathlib.Data.List.Basic
import Mathlib.Data.List.TakeWhile

/-!
# Scanning lists

`rfind` is the last position of an element (`rfind_append_cons`). `Alphabet.scan` reads the signed
number that a text begins with: blanks are skipped, one sign may follow, then come as many digits as
there are, and whatever stands behind them is not looked at. `Alphabet.Reads` is the grammar of what
is read, and `scan_eq_some_iff` says that the two agree.
-/

namespace Scan

variable {α : Type*}

/-! ## The longest run -/

/-- `p` fails where the list begins, if it begins anywhere. -/
def StopsAt (p : α → Bool) (l : List α) : Prop := ∀ a ∈ l.head?, p a = false

theorem stopsAt_nil (p : α → Bool) : StopsAt p [] := by
  rintro a ⟨⟩

theorem stopsAt_cons {p : α → Bool} {a : α} (h : p a = false) (l : List α) :
    StopsAt p (a :: l) := by
  rintro b ⟨⟩
  exact h

theorem stopsAt_dropWhile (p : α → Bool) (l : List α) : StopsAt p (l.dropWhile p) := by
  intro a ha
  have hnot := List.head?_dropWhile_not p l
  rw [Option.mem_def.mp ha] at hnot
  exact hnot

theorem takeWhile_append_of_stop {p : α → Bool} {l rest : List α} (hl : ∀ a ∈ l, p a = true)
    (hrest : StopsAt p rest) : (l ++ rest).takeWhile p = l := by
  rw [List.takeWhile_append_of_pos hl]
  cases rest with
  | nil => simp
  | cons a rest => rw [List.takeWhile_cons_of_neg (by simp [hrest a rfl]), List.append_nil]

theorem dropWhile_append_of_stop {p : α → Bool} {l rest : List α} (hl : ∀ a ∈ l, p a = true)
    (hrest : StopsAt p rest) : (l ++ rest).dropWhile p = rest := by
  rw [List.dropWhile_append_of_pos hl]
  cases rest with
  | nil => rfl
  | cons a rest => rw [List.dropWhile_cons_of_neg (by simp [hrest a rfl])]

/-! ## The last occurrence -/

/-- A list with the element in it is cut at its last occurrence. -/
theorem exists_append_cons {a : α} {l : List α} (h : a ∈ l) :
    ∃ before after, l = before ++ a :: after ∧ a ∉ after := by
  obtain ⟨after, before, hl, hafter⟩ := List.eq_append_cons_of_mem (List.mem_reverse.mpr h)
  refine ⟨before.reverse, after.reverse, ?_, by rwa [List.mem_reverse]⟩
  rw [← List.reverse_reverse l, hl, List.reverse_append, List.reverse_cons, List.append_assoc,
    List.singleton_append]

section LastPosition

variable [DecidableEq α]

/-- The last position of an element. -/
def rfind (a : α) : List α → Option ℕ
  | [] => none
  | b :: l =>
    match rfind a l with
    | some pos => some (pos + 1)
    | none => if b = a then some 0 else none

theorem rfind_eq_none {a : α} {l : List α} (h : a ∉ l) : rfind a l = none := by
  induction l with
  | nil => rfl
  | cons b l ih =>
    rw [List.mem_cons, not_or] at h
    rw [rfind, ih h.2]
    exact if_neg (Ne.symm h.1)

theorem rfind_append_cons {a : α} {after : List α} (h : a ∉ after) (before : List α) :
    rfind a (before ++ a :: after) = some before.length := by
  induction before with
  | nil =>
    rw [List.nil_append, rfind, rfind_eq_none h]
    exact if_pos rfl
  | cons b before ih => rw [List.cons_append, rfind, ih, List.length_cons]

/-- There is one way to cut a list there. -/
theorem append_cons_unique {a : α} {before before' after after' : List α}
    (h : before ++ a :: after = before' ++ a :: after') (hafter : a ∉ after)
    (hafter' : a ∉ after') : after = after' := by
  have hlength : some before.length = some before'.length := by
    rw [← rfind_append_cons hafter, h, rfind_append_cons hafter']
  have htail := List.append_inj_right h (Option.some.inj hlength)
  exact (List.cons.inj htail).2

end LastPosition

/-! ## Signed numbers -/

/-- The characters that signed numbers are written with. -/
structure Alphabet (α : Type*) where
  isSpace : α → Bool
  isDigit : α → Bool
  plus : α
  minus : α
  plus_ne_minus : plus ≠ minus
  isSpace_plus : isSpace plus = false
  isSpace_minus : isSpace minus = false
  isDigit_plus : isDigit plus = false
  isDigit_minus : isDigit minus = false
  isSpace_of_isDigit : ∀ a, isDigit a = true → isSpace a = false

namespace Alphabet

variable (A : Alphabet α)

/-- A sign that may be left out, with whether it is a minus. -/
inductive Sign : List α → Bool → Prop
  | none : Sign [] false
  | plus : Sign [A.plus] false
  | minus : Sign [A.minus] true

/-- A text that begins with a number. -/
inductive Reads (negative : Bool) (digits : List α) : List α → Prop
  | intro {blanks sign rest : List α} (hblanks : ∀ a ∈ blanks, A.isSpace a = true)
      (hsign : A.Sign sign negative) (hne : digits ≠ [])
      (hdigits : ∀ a ∈ digits, A.isDigit a = true) (hrest : StopsAt A.isDigit rest) :
      Reads negative digits (blanks ++ (sign ++ (digits ++ rest)))

variable {A}

/-- The blanks end where the number begins. -/
theorem Sign.stopsAt {sign text : List α} {negative : Bool} (hsign : A.Sign sign negative)
    {a : α} (ha : A.isDigit a = true) : StopsAt A.isSpace (sign ++ a :: text) := by
  cases hsign with
  | none => exact stopsAt_cons (A.isSpace_of_isDigit a ha) _
  | plus => exact stopsAt_cons A.isSpace_plus _
  | minus => exact stopsAt_cons A.isSpace_minus _

/-- A text of digits is read as a whole. -/
theorem reads_self {text : List α} (hne : text ≠ []) (h : ∀ a ∈ text, A.isDigit a = true) :
    A.Reads false text text := by
  have hreads : A.Reads false text ([] ++ ([] ++ (text ++ []))) :=
    .intro (by simp) .none hne h (stopsAt_nil _)
  rwa [List.nil_append, List.nil_append, List.append_nil] at hreads

section Scanning

variable [DecidableEq α]

variable (A) in
/-- Takes the sign off, and says whether it was a minus. -/
def stripSign : List α → Bool × List α
  | [] => (false, [])
  | a :: text =>
    if a = A.minus then (true, text)
    else if a = A.plus then (false, text)
    else (false, a :: text)

variable (A) in
/-- The sign and the digits of the number that a text begins with. -/
def scan (text : List α) : Option (Bool × List α) :=
  let stripped := A.stripSign (text.dropWhile A.isSpace)
  let digits := stripped.2.takeWhile A.isDigit
  if digits = [] then none else some (stripped.1, digits)

theorem stripSign_append {sign text : List α} {negative : Bool} (hsign : A.Sign sign negative)
    {a : α} (ha : A.isDigit a = true) :
    A.stripSign (sign ++ a :: text) = (negative, a :: text) := by
  cases hsign with
  | none =>
    have hminus : a ≠ A.minus := by
      rintro rfl
      exact Bool.false_ne_true (A.isDigit_minus.symm.trans ha)
    have hplus : a ≠ A.plus := by
      rintro rfl
      exact Bool.false_ne_true (A.isDigit_plus.symm.trans ha)
    rw [List.nil_append, stripSign, if_neg hminus, if_neg hplus]
  | plus => rw [List.singleton_append, stripSign, if_neg A.plus_ne_minus, if_pos rfl]
  | minus => rw [List.singleton_append, stripSign, if_pos rfl]

theorem exists_sign (text : List α) :
    ∃ sign, A.Sign sign (A.stripSign text).1 ∧ text = sign ++ (A.stripSign text).2 := by
  cases text with
  | nil => exact ⟨[], .none, rfl⟩
  | cons a text =>
    rw [stripSign]
    split_ifs with hminus hplus
    · exact ⟨[a], hminus ▸ .minus, rfl⟩
    · exact ⟨[a], hplus ▸ .plus, rfl⟩
    · exact ⟨[], .none, rfl⟩

theorem Reads.scan_eq {text digits : List α} {negative : Bool}
    (h : A.Reads negative digits text) : A.scan text = some (negative, digits) := by
  obtain @⟨blanks, sign, rest, hblanks, hsign, hne, hdigits, hrest⟩ := h
  obtain ⟨a, tail, rfl⟩ := List.exists_cons_of_ne_nil hne
  have ha := hdigits a List.mem_cons_self
  have hspaces : (blanks ++ (sign ++ (a :: tail ++ rest))).dropWhile A.isSpace =
      sign ++ (a :: tail ++ rest) := dropWhile_append_of_stop hblanks (hsign.stopsAt ha)
  have hrun : (a :: tail ++ rest).takeWhile A.isDigit = a :: tail :=
    takeWhile_append_of_stop hdigits hrest
  have hsigned : A.stripSign (sign ++ (a :: tail ++ rest)) = (negative, a :: tail ++ rest) :=
    stripSign_append hsign ha
  unfold scan
  rw [hspaces, hsigned]
  simp only
  rw [hrun]
  exact if_neg hne

theorem reads_of_scan {text digits : List α} {negative : Bool}
    (h : A.scan text = some (negative, digits)) : A.Reads negative digits text := by
  obtain ⟨sign, hsign, hsplit⟩ := exists_sign (A := A) (text.dropWhile A.isSpace)
  unfold scan at h
  generalize A.stripSign (text.dropWhile A.isSpace) = stripped at h hsign hsplit
  simp only at h
  split_ifs at h with hne
  obtain ⟨rfl, rfl⟩ := Prod.mk.inj (Option.some.inj h)
  -- the text is what the scan passes over, one part after the other
  have htext : text = text.takeWhile A.isSpace ++
      (sign ++ (stripped.2.takeWhile A.isDigit ++ stripped.2.dropWhile A.isDigit)) := by
    rw [List.takeWhile_append_dropWhile, ← hsplit, List.takeWhile_append_dropWhile]
  rw [htext]
  exact .intro (fun _ => List.mem_takeWhile_imp) hsign hne (fun _ => List.mem_takeWhile_imp)
    (stopsAt_dropWhile _ _)

theorem scan_eq_some_iff {text digits : List α} {negative : Bool} :
    A.scan text = some (negative, digits) ↔ A.Reads negative digits text :=
  ⟨reads_of_scan, Reads.scan_eq⟩

end Scanning

end Alphabet

end Scan
