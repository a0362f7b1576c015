import EcatMiddleware.Lib.FoldExcept

/-!
# Configuration files

The access functions of the configuration over a YAML document. What the YAML library says when it
throws, and what it makes of a null node, are the parameter `YamlCpp`.

* `OnlyConfigErrors`: what translates every exception of the YAML library.
* `unsignedValue_cases`: which texts are read as which numbers, and that all others are refused.
-/

namespace EcatMiddleware.Core

open FoldExcept

inductive Yaml where
  | null
  | scalar (text : String)
  | sequence (items : List Yaml)
  | map (entries : List (Yaml × Yaml))

/-- The exceptions of the configuration: its own, and those of the YAML library. -/
inductive ConfigException where
  | configError (what : String)
  | yamlException (what : String)
  deriving DecidableEq, Repr

/-- `as<std::string>` of a null node throws where `nullText` is `none`. -/
structure YamlCpp where
  nullText : Option String
  badConversion : Yaml → String
  badSubscript : Yaml → String → String

abbrev Configured := Except ConfigException

namespace Yaml

def isMap : Yaml → Bool
  | .map _ => true
  | _ => false

def isScalar : Yaml → Bool
  | .scalar _ => true
  | _ => false

/-- What an iteration over the node visits. -/
def entries : Yaml → List (Yaml × Yaml)
  | .map entries => entries
  | _ => []

/-- A node that compares equal to the text. -/
def isText (key : String) : Yaml → Bool
  | .scalar text => text = key
  | _ => false

end Yaml

variable (lib : YamlCpp)

/-- `node[key]`, `none` for the undefined node. -/
def Yaml.get (node : Yaml) (key : String) : Configured (Option Yaml) :=
  match node with
  | .scalar _ => .error (.yamlException (lib.badSubscript node key))
  | .map entries => .ok ((entries.find? fun e => e.1.isText key).map Prod.snd)
  | .null => .ok none
  | .sequence _ => .ok none

/-- `node.as<std::string>()`. -/
def Yaml.asString (node : Yaml) : Configured String :=
  match node with
  | .scalar text => .ok text
  | .null => match lib.nullText with
    | some text => .ok text
    | none => .error (.yamlException (lib.badConversion node))
  | _ => .error (.yamlException (lib.badConversion node))

/-- The handler of a `YAML::Exception`: a `ConfigError` with the path and what it said. -/
def rethrow (path : String) {α : Type} (result : Configured α) : Configured α :=
  match result with
  | .error (.yamlException what) => .error (.configError (path ++ ": " ++ what))
  | .error (.configError what) => .error (.configError what)
  | .ok a => .ok a

/-- `section`: the mapping under `key`, an empty one when there is none. -/
def sectionOf (parent : Yaml) (key : String) (path : String) : Configured Yaml := do
  match ← parent.get lib key with
  | none => .ok (.map [])
  | some node =>
    if node.isMap then .ok node
    else .error (.configError
      ((if path = "" then key else path ++ "." ++ key) ++ ": expected a mapping"))

def checkKeys (node : Yaml) (allowed : List String) (path : String) : Configured Unit :=
  node.entries.forM fun entry => do
    let key ← entry.1.asString lib
    if key ∈ allowed then .ok ()
    else .error (.configError (path ++ "." ++ key ++ ": unknown setting"))

/-- `value<std::string>`. -/
def value (parent : Yaml) (key : String) (fallback : String) (path : String) :
    Configured String := do
  match ← parent.get lib key with
  | none => .ok fallback
  | some node => rethrow (path ++ "." ++ key) (node.asString lib)

/-- The number a text of digits denotes. -/
def decimalValue (digits : List Char) : ℕ :=
  digits.foldl (fun n c => 10 * n + (c.toNat - '0'.toNat)) 0

/-- `std::stoull` of a text of digits, `none` where it throws `std::out_of_range`. -/
def stoull (digits : List Char) : Option ℕ :=
  if decimalValue digits < 18446744073709551616 then some (decimalValue digits) else none

def uint32Max : ℕ := 4294967295

def unsignedValue (parent : Yaml) (key : String) (fallback : UInt32) (path : String) :
    Configured UInt32 := do
  let text ← value lib parent key (toString fallback.toNat) path
  if text = "" || text.toList.any (fun c => c ∉ "0123456789".toList) then
    .error (.configError (path ++ "." ++ key ++ ": expected an unsigned integer"))
  else match stoull text.toList with
    | none => .error (.configError (path ++ "." ++ key ++ ": integer out of range"))
    | some number =>
      if number > uint32Max then
        .error (.configError (path ++ "." ++ key ++ ": integer out of range"))
      else .ok (UInt32.ofNat number)

/-! ## What is accepted -/

variable {lib}

theorem rethrow_eq_ok {path : String} {α : Type} {result : Configured α} {a : α} :
    rethrow path result = .ok a ↔ result = .ok a := by
  unfold rethrow
  split <;> simp

/-! ## What is thrown -/

/-- No exception of the YAML library comes out. -/
def OnlyConfigErrors {α : Type} (result : Configured α) : Prop :=
  ∀ what, result ≠ .error (.yamlException what)

@[simp] theorem onlyConfigErrors_ok {α : Type} (a : α) :
    OnlyConfigErrors (.ok a : Configured α) := by
  rintro what ⟨⟩

@[simp] theorem onlyConfigErrors_configError {α : Type} (what : String) :
    OnlyConfigErrors (.error (.configError what) : Configured α) := by
  rintro what' ⟨⟩

theorem onlyConfigErrors_bind_iff {α β : Type} {x : Configured α} {f : α → Configured β} :
    OnlyConfigErrors (x >>= f) ↔
      OnlyConfigErrors x ∧ ∀ a, x = .ok a → OnlyConfigErrors (f a) := by
  cases x with
  | error e =>
    have herror : OnlyConfigErrors (.error e : Configured β) ↔
        OnlyConfigErrors (.error e : Configured α) := by
      simp [OnlyConfigErrors]
    exact herror.trans (and_iff_left (by rintro a ⟨⟩)).symm
  | ok a =>
    refine ⟨fun h => ⟨onlyConfigErrors_ok a, ?_⟩, fun h => h.2 a rfl⟩
    rintro _ ⟨⟩
    exact h

theorem onlyConfigErrors_bind {α β : Type} {x : Configured α} {f : α → Configured β}
    (hx : OnlyConfigErrors x) (hf : ∀ a, x = .ok a → OnlyConfigErrors (f a)) :
    OnlyConfigErrors (x >>= f) := onlyConfigErrors_bind_iff.mpr ⟨hx, hf⟩

theorem onlyConfigErrors_foldlM {σ α : Type} {step : σ → α → Configured σ} {l : List α}
    (h : ∀ s a, OnlyConfigErrors (step s a)) : ∀ s, OnlyConfigErrors (l.foldlM step s) := by
  induction l with
  | nil => exact onlyConfigErrors_ok
  | cons a l ih => exact fun s => onlyConfigErrors_bind (h s a) fun s' _ => ih s'

theorem onlyConfigErrors_rethrow (path : String) {α : Type} (result : Configured α) :
    OnlyConfigErrors (rethrow path result) := by
  unfold rethrow
  split <;> simp

theorem OnlyConfigErrors.eq_configError {α : Type} {result : Configured α}
    (h : OnlyConfigErrors result) (hok : ∀ a, result ≠ .ok a) :
    ∃ what, result = .error (.configError what) := by
  match result with
  | .ok a => exact absurd rfl (hok a)
  | .error (.configError what) => exact ⟨what, rfl⟩
  | .error (.yamlException what) => exact absurd rfl (h what)

/-- The node that a mapping holds under `key`. -/
def Yaml.lookup (entries : List (Yaml × Yaml)) (key : String) : Option Yaml :=
  (entries.find? fun e => e.1.isText key).map Prod.snd

theorem Yaml.get_map (entries : List (Yaml × Yaml)) (key : String) :
    (Yaml.map entries).get lib key = .ok (Yaml.lookup entries key) := rfl

/-- The section of a mapping is a mapping: the one under the key, or an empty one. -/
theorem sectionOf_map_eq_ok {entries : List (Yaml × Yaml)} {key path : String} {node : Yaml} :
    sectionOf lib (.map entries) key path = .ok node ↔ ∃ es, node = .map es ∧
      (Yaml.lookup entries key = some node ∨ Yaml.lookup entries key = none ∧ es = []) := by
  unfold sectionOf
  rw [Yaml.get_map]
  cases h : Yaml.lookup entries key with
  | none =>
    constructor
    · intro hnode
      exact ⟨[], (Except.ok.inj hnode).symm, Or.inr ⟨rfl, rfl⟩⟩
    · rintro ⟨es, rfl, hes | ⟨-, rfl⟩⟩
      · exact absurd hes (by simp)
      · rfl
  | some found =>
    simp only [bind, Except.bind]
    cases found with
    | map es =>
      show (Except.ok (Yaml.map es) : Configured Yaml) = Except.ok node ↔ _
      constructor
      · intro hnode
        obtain rfl := Except.ok.inj hnode
        exact ⟨es, rfl, Or.inl rfl⟩
      · rintro ⟨es', -, hes | ⟨hnone, -⟩⟩
        · rw [Option.some.inj hes]
        · exact absurd hnone (by simp)
    | null | scalar | sequence =>
      refine iff_of_false (by rintro ⟨⟩) ?_
      rintro ⟨es, rfl, hes | ⟨hnone, -⟩⟩
      · exact absurd hes (by simp)
      · exact absurd hnone (by simp)

theorem onlyConfigErrors_sectionOf (entries : List (Yaml × Yaml)) (key path : String) :
    OnlyConfigErrors (sectionOf lib (.map entries) key path) := by
  refine onlyConfigErrors_bind (onlyConfigErrors_ok _) fun found _ => ?_
  split
  · exact onlyConfigErrors_ok _
  · split
    · exact onlyConfigErrors_ok _
    · exact onlyConfigErrors_configError _

theorem value_of_lookup_eq_none {entries : List (Yaml × Yaml)} {key : String}
    (h : Yaml.lookup entries key = none) (fallback path : String) :
    value lib (.map entries) key fallback path = .ok fallback := by
  unfold value
  rw [Yaml.get_map, h]
  rfl

theorem value_of_lookup_eq_some {entries : List (Yaml × Yaml)} {key : String} {node : Yaml}
    (h : Yaml.lookup entries key = some node) (fallback path : String) :
    value lib (.map entries) key fallback path =
      rethrow (path ++ "." ++ key) (node.asString lib) := by
  unfold value
  rw [Yaml.get_map, h]
  rfl

theorem onlyConfigErrors_value (entries : List (Yaml × Yaml)) (key fallback path : String) :
    OnlyConfigErrors (value lib (.map entries) key fallback path) := by
  cases h : Yaml.lookup entries key with
  | none =>
    rw [value_of_lookup_eq_none h]
    exact onlyConfigErrors_ok fallback
  | some node =>
    rw [value_of_lookup_eq_some h]
    exact onlyConfigErrors_rethrow _ _

/-! ## The keys of a section -/

/-- The keys are texts up to the first one that is not allowed. -/
def KeysRead (lib : YamlCpp) (allowed : List String) (entries : List (Yaml × Yaml)) : Prop :=
  ∀ pre entry post, entries = pre ++ entry :: post →
    (∀ e ∈ pre, ∃ key ∈ allowed, e.1.asString lib = .ok key) →
    ∃ key, entry.1.asString lib = .ok key

theorem keysRead_cons {allowed : List String} {entry : Yaml × Yaml}
    {entries : List (Yaml × Yaml)} : KeysRead lib allowed (entry :: entries) ↔
      ∃ key, entry.1.asString lib = .ok key ∧ (key ∈ allowed → KeysRead lib allowed entries) := by
  constructor
  · intro h
    obtain ⟨key, hkey⟩ := h [] entry entries rfl (by simp)
    refine ⟨key, hkey, fun hallowed pre e post hsplit hpre => ?_⟩
    refine h (entry :: pre) e post (by rw [hsplit, List.cons_append]) fun e' he' => ?_
    rcases List.mem_cons.mp he' with rfl | he'
    · exact ⟨key, hallowed, hkey⟩
    · exact hpre e' he'
  · rintro ⟨key, hkey, hrest⟩ pre e post hsplit hpre
    cases pre with
    | nil =>
      obtain ⟨rfl, -⟩ := List.cons.inj hsplit
      exact ⟨key, hkey⟩
    | cons e' pre =>
      obtain ⟨rfl, rfl⟩ := List.cons.inj hsplit
      obtain ⟨key', hallowed, hkey'⟩ := hpre entry List.mem_cons_self
      obtain rfl := Except.ok.inj (hkey.symm.trans hkey')
      exact hrest hallowed pre e post rfl fun e' he' => hpre e' (List.mem_cons_of_mem _ he')

/-- A conversion that fails throws an exception of the library. -/
theorem onlyConfigErrors_asString (node : Yaml) :
    OnlyConfigErrors (node.asString lib) ↔ ∃ key, node.asString lib = .ok key := by
  constructor
  · intro h
    cases hkey : node.asString lib with
    | ok key => exact ⟨key, rfl⟩
    | error e =>
      obtain ⟨what, rfl⟩ : ∃ what, e = .yamlException what := by
        cases node with
        | scalar text => exact absurd hkey (by rintro ⟨⟩)
        | sequence | map => exact ⟨_, (Except.error.inj hkey).symm⟩
        | null =>
          rw [Yaml.asString] at hkey
          split at hkey
          · exact absurd hkey (by rintro ⟨⟩)
          · exact ⟨_, (Except.error.inj hkey).symm⟩
      exact absurd hkey (h what)
  · rintro ⟨key, hkey⟩
    rw [hkey]
    exact onlyConfigErrors_ok key

/-- **The keys are read outside of every handler.** -/
theorem onlyConfigErrors_checkKeys (entries : List (Yaml × Yaml)) (allowed : List String)
    (path : String) : OnlyConfigErrors (checkKeys lib (.map entries) allowed path) ↔
      KeysRead lib allowed entries := by
  induction entries with
  | nil =>
    refine iff_of_true (onlyConfigErrors_ok _) fun pre e post hsplit => ?_
    exact absurd hsplit (by simp)
  | cons entry entries ih =>
    have hcons : checkKeys lib (.map (entry :: entries)) allowed path =
        entry.1.asString lib >>= fun key =>
          (if key ∈ allowed then .ok () else
            .error (.configError (path ++ "." ++ key ++ ": unknown setting"))) >>= fun _ =>
          checkKeys lib (.map entries) allowed path := by
      rw [← bind_assoc]
      rfl
    rw [hcons, onlyConfigErrors_bind_iff, onlyConfigErrors_asString, keysRead_cons]
    constructor
    · rintro ⟨⟨key, hkey⟩, hrest⟩
      refine ⟨key, hkey, fun hallowed => ih.mp ?_⟩
      have hnext := hrest key hkey
      rw [if_pos hallowed] at hnext
      exact hnext
    · rintro ⟨key, hkey, hrest⟩
      refine ⟨⟨key, hkey⟩, fun key' hkey' => ?_⟩
      obtain rfl := Except.ok.inj (hkey.symm.trans hkey')
      by_cases hallowed : key ∈ allowed
      · rw [if_pos hallowed]
        exact ih.mpr (hrest hallowed)
      · rw [if_neg hallowed]
        exact onlyConfigErrors_configError _

/-! ## What a section says -/

/-- The text of a setting, where it has one. -/
def settingText (lib : YamlCpp) (entries : List (Yaml × Yaml)) (key fallback : String) :
    Option String :=
  match Yaml.lookup entries key with
  | none => some fallback
  | some node => (node.asString lib).toOption

/-- Every key is one of these texts. -/
def KnownKeys (lib : YamlCpp) (allowed : List String) (entries : List (Yaml × Yaml)) : Prop :=
  ∀ entry ∈ entries, ∃ key ∈ allowed, entry.1.asString lib = .ok key

theorem value_eq_ok_iff {entries : List (Yaml × Yaml)} {key fallback path text : String} :
    value lib (.map entries) key fallback path = .ok text ↔
      settingText lib entries key fallback = some text := by
  unfold settingText
  cases h : Yaml.lookup entries key with
  | none =>
    rw [value_of_lookup_eq_none h]
    simp
  | some node =>
    rw [value_of_lookup_eq_some h, rethrow_eq_ok]
    show node.asString lib = .ok text ↔ (node.asString lib).toOption = some text
    cases node.asString lib <;> simp [Except.toOption]

theorem checkKeys_eq_ok_iff {allowed : List String} {path : String}
    {entries : List (Yaml × Yaml)} :
    checkKeys lib (.map entries) allowed path = .ok () ↔ KnownKeys lib allowed entries := by
  induction entries with
  | nil => exact iff_of_true rfl fun entry h => absurd h List.not_mem_nil
  | cons entry entries ih =>
    have hcons : checkKeys lib (.map (entry :: entries)) allowed path =
        (entry.1.asString lib >>= fun key => if key ∈ allowed then .ok () else
          .error (.configError (path ++ "." ++ key ++ ": unknown setting"))) >>= fun _ =>
        checkKeys lib (.map entries) allowed path := rfl
    unfold KnownKeys at ih ⊢
    rw [hcons, List.forall_mem_cons, bind_eq_ok]
    constructor
    · rintro ⟨⟨⟩, hentry, hrest⟩
      obtain ⟨key, hkey, hallowed⟩ := bind_eq_ok.mp hentry
      split_ifs at hallowed with hmem
      exact ⟨⟨key, hmem, hkey⟩, ih.mp hrest⟩
    · rintro ⟨⟨key, hmem, hkey⟩, hrest⟩
      refine ⟨(), bind_eq_ok.mpr ⟨key, hkey, ?_⟩, ih.mpr hrest⟩
      rw [if_pos hmem]

theorem knownKeys_of_scalars {allowed : List String} {entries : List (Yaml × Yaml)}
    (h : ∀ entry ∈ entries, ∃ key ∈ allowed, entry.1 = .scalar key) :
    KnownKeys lib allowed entries := by
  intro entry hentry
  obtain ⟨key, hkey, hscalar⟩ := h entry hentry
  exact ⟨key, hkey, by rw [hscalar]; rfl⟩

/-! ## Unsigned integers -/

/-- A nonempty text of ASCII digits, which denotes `n`. -/
structure IsNumeral (text : String) (n : ℕ) : Prop where
  nonempty : text ≠ ""
  digits : ∀ c ∈ text.toList, c ∈ "0123456789".toList
  value : decimalValue text.toList = n

theorem IsNumeral.unique {text : String} {m n : ℕ} (hm : IsNumeral text m)
    (hn : IsNumeral text n) : m = n := hm.value.symm.trans hn.value

theorem mem_digits_of_isDigit {c : Char} (h : c.isDigit = true) : c ∈ "0123456789".toList := by
  obtain ⟨hlow, hhigh⟩ := Char.isDigit_iff_toNat.mp h
  have hmem : c.toNat ∈ List.range' 48 10 :=
    List.mem_range'_1.mpr ⟨hlow, Nat.lt_succ_of_le hhigh⟩
  have hall : ∀ n ∈ List.range' 48 10, Char.ofNat n ∈ "0123456789".toList := by decide
  rw [← Char.ofNat_toNat c]
  exact hall _ hmem

/-- `std::to_string` writes a numeral. -/
theorem isNumeral_toString (n : ℕ) : IsNumeral (toString n) n where
  nonempty := Nat.repr_ne_empty
  digits c hc := by
    rw [Nat.toString_eq_repr, Nat.toList_repr] at hc
    exact mem_digits_of_isDigit (Nat.isDigit_of_mem_toDigits (by decide) (by decide) hc)
  value := by
    rw [Nat.toString_eq_repr, Nat.toList_repr]
    exact Nat.ofDigitChars_ten_toDigits

/-- What the check on the characters lets pass. -/
theorem digitCheck_iff {text : String} :
    (text = "" || text.toList.any (fun c => c ∉ "0123456789".toList)) = false ↔
      IsNumeral text (decimalValue text.toList) := by
  rw [Bool.or_eq_false_iff, decide_eq_false_iff_not, List.any_eq_false]
  simp only [decide_eq_true_eq, not_not]
  exact ⟨fun h => ⟨h.1, h.2, rfl⟩, fun h => ⟨h.nonempty, h.digits⟩⟩

/-- The text of a numeral in range is read as its number. -/
theorem unsignedValue_of_numeral {parent : Yaml} {key path text : String} {fallback : UInt32}
    {n : ℕ} (hv : value lib parent key (toString fallback.toNat) path = .ok text)
    (hn : IsNumeral text n) (hle : n ≤ uint32Max) :
    unsignedValue lib parent key fallback path = .ok (UInt32.ofNat n) := by
  obtain rfl := hn.value
  have hstoull : stoull text.toList = some (decimalValue text.toList) := by
    rw [uint32Max] at hle
    rw [stoull, if_pos (by omega)]
  unfold unsignedValue
  rw [hv]
  simp only [bind, Except.bind]
  rw [digitCheck_iff.mpr hn, if_neg Bool.false_ne_true, hstoull]
  exact if_neg (Nat.not_lt.mpr hle)

/-- Every other text is refused. -/
theorem unsignedValue_of_not_numeral {parent : Yaml} {key path text : String} {fallback : UInt32}
    (hv : value lib parent key (toString fallback.toNat) path = .ok text)
    (hn : ∀ n ≤ uint32Max, ¬ IsNumeral text n) :
    ∃ what, unsignedValue lib parent key fallback path = .error (.configError what) := by
  unfold unsignedValue
  rw [hv]
  simp only [bind, Except.bind]
  split_ifs with hbad
  · exact ⟨_, rfl⟩
  · have hnum := digitCheck_iff.mp (Bool.eq_false_iff.mpr hbad)
    unfold stoull
    split_ifs
    · exact ⟨_, if_pos (Nat.lt_of_not_le fun hle => hn _ hle hnum)⟩
    · exact ⟨_, rfl⟩

/-- The number that is returned is the one that the text denotes. -/
theorem unsignedValue_eq_ok {parent : Yaml} {key path : String} {fallback n : UInt32} :
    unsignedValue lib parent key fallback path = .ok n ↔
      ∃ text, value lib parent key (toString fallback.toNat) path = .ok text ∧
        IsNumeral text n.toNat := by
  constructor
  · intro h
    obtain ⟨text, hv, -⟩ := bind_eq_ok.mp h
    by_cases hnum : ∃ m ≤ uint32Max, IsNumeral text m
    · obtain ⟨m, hle, hm⟩ := hnum
      rw [unsignedValue_of_numeral hv hm hle] at h
      rw [← Except.ok.inj h, UInt32.toNat_ofNat_of_lt' (Nat.lt_succ_of_le hle)]
      exact ⟨text, hv, hm⟩
    · obtain ⟨what, hwhat⟩ := unsignedValue_of_not_numeral hv fun m hle hm => hnum ⟨m, hle, hm⟩
      rw [hwhat] at h
      exact absurd h (by rintro ⟨⟩)
  · rintro ⟨text, hv, hn⟩
    rw [unsignedValue_of_numeral hv hn (Nat.le_of_lt_succ n.toNat_lt), UInt32.ofNat_toNat]

theorem unsignedValue_eq_ok_iff {entries : List (Yaml × Yaml)} {key path : String}
    {fallback n : UInt32} :
    unsignedValue lib (.map entries) key fallback path = .ok n ↔
      ∃ text, settingText lib entries key (toString fallback.toNat) = some text ∧
        IsNumeral text n.toNat := by
  rw [unsignedValue_eq_ok]
  exact exists_congr fun text => and_congr_left fun _ => value_eq_ok_iff

theorem onlyConfigErrors_unsignedValue (entries : List (Yaml × Yaml)) (key path : String)
    (fallback : UInt32) :
    OnlyConfigErrors (unsignedValue lib (.map entries) key fallback path) := by
  refine onlyConfigErrors_bind (onlyConfigErrors_value _ _ _ _) fun text _ => ?_
  split_ifs
  · exact onlyConfigErrors_configError _
  · split
    · exact onlyConfigErrors_configError _
    · split_ifs
      · exact onlyConfigErrors_configError _
      · exact onlyConfigErrors_ok _

/-- What the library makes of a null node: no text at all, or the text `null`. -/
def YamlCpp.NullDocumented (lib : YamlCpp) : Prop :=
  lib.nullText = none ∨ lib.nullText = some "null"

/-- The text of a node is a numeral only where the node is a scalar. -/
theorem eq_scalar_of_isNumeral (hlib : lib.NullDocumented) {node : Yaml} {text : String} {n : ℕ}
    (h : node.asString lib = .ok text) (hn : IsNumeral text n) : node = .scalar text := by
  cases node with
  | scalar t => rw [Except.ok.inj h]
  | sequence items => exact absurd h (by rintro ⟨⟩)
  | map entries => exact absurd h (by rintro ⟨⟩)
  | null =>
    unfold Yaml.asString at h
    rcases hlib with hnull | hnull <;> rw [hnull] at h
    · exact absurd h (by rintro ⟨⟩)
    · -- `n` is no digit
      obtain rfl := Except.ok.inj h
      exact absurd (hn.digits 'n' (by decide)) (by decide)

/-- **Unsigned integers.** Every case of `unsigned_value` over a mapping. -/
theorem unsignedValue_cases (lib : YamlCpp) (hlib : lib.NullDocumented)
    (entries : List (Yaml × Yaml)) (key path : String) (fallback : UInt32) :
    (Yaml.lookup entries key = none →
      unsignedValue lib (.map entries) key fallback path = .ok fallback) ∧
    (∀ text n, Yaml.lookup entries key = some (.scalar text) → IsNumeral text n →
      n ≤ uint32Max → ∃ number : UInt32, number.toNat = n ∧
        unsignedValue lib (.map entries) key fallback path = .ok number) ∧
    ∀ node, Yaml.lookup entries key = some node →
      (∀ text n, node = .scalar text → IsNumeral text n → uint32Max < n) →
      ∃ what, unsignedValue lib (.map entries) key fallback path =
        .error (.configError what) := by
  refine ⟨fun h => ?_, fun text n h hn hle => ?_, fun node h hbad => ?_⟩
  · exact unsignedValue_eq_ok.mpr ⟨_, value_of_lookup_eq_none h _ _, isNumeral_toString _⟩
  · have hnat := UInt32.toNat_ofNat_of_lt' (Nat.lt_succ_of_le hle)
    exact ⟨UInt32.ofNat n, hnat, unsignedValue_eq_ok.mpr
      ⟨text, value_of_lookup_eq_some h _ _, hnat.symm ▸ hn⟩⟩
  · refine (onlyConfigErrors_unsignedValue entries key path fallback).eq_configError fun m hm => ?_
    obtain ⟨text, hv, hn⟩ := unsignedValue_eq_ok.mp hm
    rw [value_of_lookup_eq_some h, rethrow_eq_ok] at hv
    have hlt := hbad text _ (eq_scalar_of_isNumeral hlib hv hn) hn
    exact absurd (Nat.le_of_lt_succ m.toNat_lt) (Nat.not_le.mpr hlt)

/-- Leading zeros are accepted, and `2 ^ 64 + 7` is refused. -/
theorem unsignedValue_cases_seven :
    (∃ number : UInt32, number.toNat = 7 ∧
      unsignedValue ⟨none, fun _ => "", fun _ _ => ""⟩
        (.map [(.scalar "rate", .scalar "007")]) "rate" 0 "--rate" = .ok number) ∧
    ∃ what, unsignedValue ⟨none, fun _ => "", fun _ _ => ""⟩
        (.map [(.scalar "rate", .scalar "18446744073709551623")]) "rate" 0 "--rate" =
      .error (.configError what) := by
  refine ⟨(unsignedValue_cases _ (Or.inl rfl) _ _ _ _).2.1 "007" 7 rfl ⟨by decide, by simp, rfl⟩
    (by decide), (unsignedValue_cases _ (Or.inl rfl) _ _ _ _).2.2 _ rfl fun text n ht hn => ?_⟩
  obtain rfl := Yaml.scalar.inj ht
  rw [← hn.value]
  decide

end EcatMiddleware.Core
