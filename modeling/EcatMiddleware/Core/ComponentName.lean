import EcatMiddleware.Core.ConfigFile
import EcatMiddleware.Core.PdoUtils
import EcatMiddleware.Lib.Scan

/-!
# The id in a component name

`get_ecat_id` hands what stands behind the last underscore to `std::stoi`, which reads the number
that a text begins with: blanks and a sign may come first, and what follows the digits is ignored.

1. `stoi_eq_ok_iff`: what `std::stoi` returns, by the grammar of `Lib.Scan`.
2. `getEcatId_eq_iff`: the names for which an id other than `-1` is returned, and which id it is.
3. `getEcatId_ecatName`: the fallback name of a device is read back as its id.
4. `documented_iff`: the names for which the result is the documented one.
-/

namespace EcatMiddleware.Core

open Scan

/-! ## `std::stoi` -/

/-- The characters of a number in the C locale. -/
def cLocale : Alphabet Char where
  isSpace c := c ∈ [' ', '\t', '\n', '\x0b', '\x0c', '\r']
  isDigit := Char.isDigit
  plus := '+'
  minus := '-'
  plus_ne_minus := by decide
  isSpace_plus := by decide
  isSpace_minus := by decide
  isDigit_plus := by decide
  isDigit_minus := by decide
  isSpace_of_isDigit c hc := by
    obtain ⟨hlow, -⟩ := Char.isDigit_iff_toNat.mp hc
    have hblank : ∀ b ∈ [' ', '\t', '\n', '\x0b', '\x0c', '\r'], b.toNat < '0'.toNat := by simp
    exact decide_eq_false fun hmem => Nat.not_lt.mpr hlow (hblank c hmem)

/-- The number of a sign and a text of digits. -/
def signedValue (negative : Bool) (digits : List Char) : ℤ :=
  if negative then -(decimalValue digits : ℤ) else decimalValue digits

/-- `strtol` in base ten, `none` where it finds no number. -/
def strtol (text : List Char) : Option ℤ :=
  (cLocale.scan text).map fun number => signedValue number.1 number.2

inductive StoiError where
  | invalidArgument
  | outOfRange
  deriving DecidableEq, Repr

def intMin : ℤ := -2147483648

def intMax : ℤ := 2147483647

/-- A number outside `long` is outside `int`, and throws the same. -/
def stoi (text : List Char) : Except StoiError Int32 :=
  match strtol text with
  | none => .error .invalidArgument
  | some n => if intMin ≤ n ∧ n ≤ intMax then .ok (Int32.ofInt n) else .error .outOfRange

/-- The text begins with a number, and the number is `n`. -/
def BeginsWith (text : List Char) (n : ℤ) : Prop :=
  ∃ negative digits, cLocale.Reads negative digits text ∧ signedValue negative digits = n

theorem strtol_eq_some_iff {text : List Char} {n : ℤ} :
    strtol text = some n ↔ BeginsWith text n := by
  unfold strtol
  rw [Option.map_eq_some_iff]
  constructor
  · rintro ⟨⟨negative, digits⟩, hscan, rfl⟩
    exact ⟨negative, digits, Alphabet.scan_eq_some_iff.mp hscan, rfl⟩
  · rintro ⟨negative, digits, hreads, rfl⟩
    exact ⟨(negative, digits), hreads.scan_eq, rfl⟩

theorem BeginsWith.unique {text : List Char} {m n : ℤ} (hm : BeginsWith text m)
    (hn : BeginsWith text n) : m = n :=
  Option.some.inj ((strtol_eq_some_iff.mpr hm).symm.trans (strtol_eq_some_iff.mpr hn))

theorem toInt_bounds (id : Int32) : intMin ≤ id.toInt ∧ id.toInt ≤ intMax := by
  have hlow := id.le_toInt
  have hhigh := id.toInt_lt
  unfold intMin intMax
  omega

theorem toInt_ofInt_of_bounds {n : ℤ} (h : intMin ≤ n ∧ n ≤ intMax) :
    (Int32.ofInt n).toInt = n := by
  unfold intMin intMax at h
  exact Int32.toInt_ofInt_of_le (by omega) (by omega)

theorem stoi_eq_ok_iff {text : List Char} {id : Int32} :
    stoi text = .ok id ↔ BeginsWith text id.toInt := by
  rw [← strtol_eq_some_iff]
  unfold stoi
  constructor
  · intro h
    split at h
    · cases h
    · next n hn =>
      split_ifs at h with hbounds
      obtain rfl := Except.ok.inj h
      rw [toInt_ofInt_of_bounds hbounds, hn]
  · intro h
    rw [h]
    simp only
    rw [if_pos (toInt_bounds id), Int32.ofInt_toInt]

/-! ## `get_ecat_id` -/

def getEcatId (componentName : String) : Int32 :=
  match rfind '_' componentName.toList with
  | none => -1
  | some pos =>
    if pos + 1 ≥ componentName.length then -1
    else match stoi (componentName.toList.drop (pos + 1)) with
      | .ok id => id
      | .error _ => -1

/-- `text` is what stands behind the last underscore of the name. -/
def BehindUnderscore (name text : String) : Prop :=
  ∃ before, name = before ++ "_" ++ text ∧ '_' ∉ text.toList

theorem toList_underscore (before text : String) :
    (before ++ "_" ++ text).toList = before.toList ++ '_' :: text.toList := by
  rw [String.toList_append, String.toList_append, List.append_assoc]
  rfl

theorem exists_behindUnderscore {name : String} (h : '_' ∈ name.toList) :
    ∃ text, BehindUnderscore name text := by
  obtain ⟨before, after, hsplit, hafter⟩ := exists_append_cons h
  refine ⟨String.ofList after, String.ofList before, ?_, by rwa [String.toList_ofList]⟩
  apply String.toList_inj.mp
  rw [toList_underscore, String.toList_ofList, String.toList_ofList, hsplit]

theorem BehindUnderscore.mem {name text : String} (h : BehindUnderscore name text) :
    '_' ∈ name.toList := by
  obtain ⟨before, rfl, -⟩ := h
  rw [toList_underscore]
  exact List.mem_append_right _ List.mem_cons_self

theorem BehindUnderscore.unique {name text text' : String} (h : BehindUnderscore name text)
    (h' : BehindUnderscore name text') : text = text' := by
  obtain ⟨before, rfl, htext⟩ := h
  obtain ⟨before', hsplit, htext'⟩ := h'
  have hlists := congrArg String.toList hsplit
  rw [toList_underscore, toList_underscore] at hlists
  exact String.toList_inj.mp (append_cons_unique hlists htext htext')

/-- The early exit agrees with `std::stoi`, which finds no number in an empty text. -/
theorem getEcatId_of_behindUnderscore {name text : String} (h : BehindUnderscore name text) :
    getEcatId name =
      match stoi text.toList with
      | .ok id => id
      | .error _ => -1 := by
  obtain ⟨before, rfl, htext⟩ := h
  unfold getEcatId
  rw [toList_underscore, rfind_append_cons htext]
  simp only
  split_ifs with hend
  · rw [← String.length_toList, toList_underscore, List.length_append, List.length_cons] at hend
    have hnil : text.toList = [] := List.length_eq_zero_iff.mp (by omega)
    rw [hnil]
    rfl
  · have hdrop : (before.toList ++ '_' :: text.toList).drop (before.toList.length + 1) =
        text.toList := by
      rw [List.drop_append, List.drop_of_length_le (Nat.le_succ _), List.nil_append,
        Nat.add_sub_cancel_left, List.drop_succ_cons, List.drop_zero]
    rw [hdrop]

theorem getEcatId_of_notMem {name : String} (h : '_' ∉ name.toList) : getEcatId name = -1 := by
  unfold getEcatId
  rw [rfind_eq_none h]

/-- **Other than `-1` are just the ids that `std::stoi` finds behind the last underscore.** -/
theorem getEcatId_eq_iff {name : String} {id : Int32} (hid : id ≠ -1) :
    getEcatId name = id ↔
      ∃ text, BehindUnderscore name text ∧ BeginsWith text.toList id.toInt := by
  by_cases hmem : '_' ∈ name.toList
  · obtain ⟨text, htext⟩ := exists_behindUnderscore hmem
    have hread : getEcatId name = id ↔ stoi text.toList = .ok id := by
      rw [getEcatId_of_behindUnderscore htext]
      split
      · next id' hok => rw [hok, Except.ok.injEq]
      · next e herror =>
        rw [herror]
        exact ⟨fun h => absurd h.symm hid, by rintro ⟨⟩⟩
    rw [hread, stoi_eq_ok_iff]
    constructor
    · exact fun h => ⟨text, htext, h⟩
    · rintro ⟨text', htext', h⟩
      rwa [htext.unique htext']
  · rw [getEcatId_of_notMem hmem]
    constructor
    · exact fun h => absurd h.symm hid
    · rintro ⟨text, htext, -⟩
      exact absurd htext.mem hmem

example : getEcatId "left_arm_12" = 12 ∧ getEcatId "motor_ +7" = 7 ∧ getEcatId "motor_-5" = -5 ∧
    getEcatId "motor_" = -1 ∧ getEcatId "motor_2147483648" = -1 := by decide

/-- A number that fits, except `-1`, is the id. -/
theorem toInt_getEcatId {name text : String} {n : ℤ} (htext : BehindUnderscore name text)
    (hbegins : BeginsWith text.toList n) (hbounds : intMin ≤ n ∧ n ≤ intMax) (hn : n ≠ -1) :
    (getEcatId name).toInt = n := by
  have hint := toInt_ofInt_of_bounds hbounds
  have hne : Int32.ofInt n ≠ -1 := fun h => hn (hint.symm.trans (congrArg Int32.toInt h))
  have hid : getEcatId name = Int32.ofInt n :=
    (getEcatId_eq_iff hne).mpr ⟨text, htext, by rwa [hint]⟩
  rw [hid, hint]

/-! ## The documented ids -/

theorem isDigit_of_mem_digits {c : Char} (h : c ∈ "0123456789".toList) : c.isDigit = true := by
  have hall : ∀ c ∈ "0123456789".toList, c.isDigit = true := by simp
  exact hall c h

/-- A numeral is read as a whole. -/
theorem IsNumeral.beginsWith {text : String} {n : ℕ} (h : IsNumeral text n) :
    BeginsWith text.toList n := by
  have hne : text.toList ≠ [] := fun hnil => h.nonempty (String.toList_eq_nil_iff.mp hnil)
  have hreads : cLocale.Reads false text.toList text.toList :=
    Alphabet.reads_self hne fun c hc => isDigit_of_mem_digits (h.digits c hc)
  exact ⟨false, _, hreads, congrArg Nat.cast h.value⟩

/-- The name ends in an underscore and a numeral in the range of `int`, which denotes `n`. -/
def HasId (name : String) (n : ℕ) : Prop :=
  ∃ text, BehindUnderscore name text ∧ IsNumeral text n ∧ (n : ℤ) ≤ intMax

/-- Every name that has an id is given it. -/
theorem HasId.toInt_getEcatId {name : String} {n : ℕ} (h : HasId name n) :
    (getEcatId name).toInt = n := by
  obtain ⟨text, htext, hnum, hle⟩ := h
  have hlow : intMin ≤ (n : ℤ) := by
    unfold intMin
    omega
  exact Core.toInt_getEcatId htext hnum.beginsWith ⟨hlow, hle⟩ (by omega)

theorem hasId_ecatName {id : EcatId} (h : (id.toNat : ℤ) ≤ intMax) :
    HasId (ecatName id) id.toNat := by
  have hnum := isNumeral_toString id.toNat
  have hunderscore : '_' ∉ (toString id.toNat).toList := fun hmem =>
    Bool.false_ne_true (isDigit_of_mem_digits (hnum.digits _ hmem))
  exact ⟨_, ⟨"ecat", rfl, hunderscore⟩, hnum, h⟩

/-- The fallback name of a device leads back to the device. -/
theorem getEcatId_ecatName {id : EcatId} (h : (id.toNat : ℤ) ≤ intMax) :
    (getEcatId (ecatName id)).toInt = id.toNat := (hasId_ecatName h).toInt_getEcatId

/-- The documented result: the id of a name that has one, and `-1` for every other name. -/
structure Documented (name : String) : Prop where
  id : ∀ n : ℕ, (getEcatId name).toInt = n ↔ HasId name n
  invalid : (∀ n, ¬ HasId name n) → getEcatId name = -1

/-- What stands behind the last underscore is no numeral, but begins with a number in the range of
`int` that is not `-1`. -/
def Misread (name : String) : Prop :=
  ∃ text n, BehindUnderscore name text ∧ (∀ m, ¬ IsNumeral text m) ∧ BeginsWith text.toList n ∧
    (intMin ≤ n ∧ n ≤ intMax) ∧ n ≠ -1

/-- No name that has an id is misread. -/
theorem Misread.not_hasId {name : String} (h : Misread name) (n : ℕ) : ¬ HasId name n := by
  obtain ⟨text, -, htext, hnot, -⟩ := h
  rintro ⟨text', htext', hnum, -⟩
  rw [← htext.unique htext'] at hnum
  exact hnot n hnum

/-- A misread name is given an id. -/
theorem Misread.getEcatId_ne {name : String} (h : Misread name) : getEcatId name ≠ -1 := by
  obtain ⟨text, n, htext, -, hbegins, hbounds, hn⟩ := h
  have hid := toInt_getEcatId htext hbegins hbounds hn
  intro hinvalid
  rw [hinvalid] at hid
  exact hn hid.symm

/-- Of a name that is not misread, an id is its own. -/
theorem hasId_of_getEcatId_ne {name : String} (h : ¬ Misread name) (hid : getEcatId name ≠ -1) :
    ∃ n : ℕ, (getEcatId name).toInt = n ∧ HasId name n := by
  obtain ⟨text, htext, hbegins⟩ := (getEcatId_eq_iff hid).mp rfl
  have hbounds := toInt_bounds (getEcatId name)
  by_cases hnum : ∃ m, IsNumeral text m
  · obtain ⟨m, hm⟩ := hnum
    have heq := hbegins.unique hm.beginsWith
    exact ⟨m, heq, text, htext, hm, by omega⟩
  · have hne : (getEcatId name).toInt ≠ -1 := fun heq => hid (Int32.toInt_inj.mp heq)
    exact absurd ⟨text, _, htext, not_exists.mp hnum, hbegins, hbounds, hne⟩ h

/-- **The result is the documented one just for the names that are not misread.** -/
theorem documented_iff (name : String) : Documented name ↔ ¬ Misread name := by
  constructor
  · intro hdoc hmis
    exact hmis.getEcatId_ne (hdoc.invalid hmis.not_hasId)
  · intro hmis
    refine ⟨fun n => ⟨fun hid => ?_, HasId.toInt_getEcatId⟩, fun hnone => ?_⟩
    · have hne : getEcatId name ≠ -1 := by
        intro hinvalid
        rw [hinvalid, show (-1 : Int32).toInt = -1 from rfl] at hid
        omega
      obtain ⟨m, hm, hhas⟩ := hasId_of_getEcatId_ne hmis hne
      rwa [← Int.ofNat_inj.mp (hm.symm.trans hid)]
    · by_contra hne
      obtain ⟨m, -, hhas⟩ := hasId_of_getEcatId_ne hmis hne
      exact hnone m hhas

/-- Letters behind the number of a motor. -/
theorem not_documented_motor_12abc :
    getEcatId "motor_12abc" = 12 ∧ ¬ Documented "motor_12abc" := by
  have hid : getEcatId "motor_12abc" = 12 := by decide
  refine ⟨hid, fun hdoc => ?_⟩
  have htext : BehindUnderscore "motor_12abc" "12abc" := ⟨"motor", rfl, by decide⟩
  have hnone : ∀ n, ¬ HasId "motor_12abc" n := by
    rintro n ⟨text, htext', hnum, -⟩
    rw [← htext.unique htext'] at hnum
    exact absurd (isDigit_of_mem_digits (hnum.digits 'a' (by decide))) (by decide)
  rw [hdoc.invalid hnone] at hid
  exact absurd hid (by decide)

end EcatMiddleware.Core
