import CrateShelf.Proofs.FileName
import CrateShelf.Proofs.Outcome
import CrateShelf.Proofs.Text.Lines
import CrateShelf.Version
import Mathlib.Data.List.TakeWhile

/-!
# Semantic versions

A semantic version has three numbers, perhaps the identifiers of a
pre-release, and perhaps those of a build.  It is written with dots between
numbers and between identifiers, a hyphen in front of the pre-release and a
plus sign in front of the build.

Main statement: the key of a semantic version is its numbers and the text of
its pre-release, and it has one unless a number has too many digits.
-/

namespace CrateShelf

/-! ## Numbers -/

namespace Text

variable
    {char : Char}
    {digits : List Char}

theorem toNat_of_isDigit (plain : char.isDigit = true) :
    48 ≤ char.toNat ∧ char.toNat ≤ 57 :=
  Char.isDigit_iff_toNat.1 plain

theorem isDigit_of_isDigit (plain : char.isDigit = true) :
    isDigit char = true := by
  have bounds := toNat_of_isDigit plain
  exact Runs.contains_of_mem_first 48 10 char.toNat _ bounds.1 (by omega)

/-- The digits of ASCII are decimal. -/
theorem decimalValue?_of_isDigit (plain : char.isDigit = true) :
    decimalValue? char = some (char.toNat - 48) := by
  have bounds := toNat_of_isDigit plain
  unfold decimalValue? decimalZeros
  rw [List.find?_cons_of_pos (by simp; omega)]
  rfl

theorem readDecimal?_of_isDigit
    (some_ : digits ≠ [])
    (plain : ∀ digit ∈ digits, digit.isDigit = true) :
    readDecimal? digits = some (Nat.ofDigitChars 10 digits 0) := by
  have all :
      ∀ total, digits.foldl
          (fun total digit => do
            return (← total) * 10 + (← decimalValue? digit)) (some total) =
        some (Nat.ofDigitChars 10 digits total) := by
    clear some_
    induction digits with
    | nil => exact fun total => rfl
    | cons digit digits inductionStep =>
        rw [List.forall_mem_cons] at plain
        intro total
        have step :
            (do return (← some total) * 10 + (← decimalValue? digit) :
              Option Nat) = some (10 * total + (digit.toNat - 48)) := by
          rw [decimalValue?_of_isDigit plain.1, Nat.mul_comm]
          rfl
        rw [List.foldl_cons, step, inductionStep plain.2,
          Nat.ofDigitChars_cons]
        rfl
  rw [readDecimal?, List.isEmpty_eq_false_iff.2 some_]
  exact all 0

end Text

/-- The digits of a number. -/
def decimal (number : Nat) : List Char :=
  Nat.toDigits 10 number

theorem isDigit_of_mem_decimal
    {digit : Char}
    {number : Nat}
    (member : digit ∈ decimal number) :
    digit.isDigit = true :=
  Nat.isDigit_of_mem_toDigits (by decide) (by decide) member

@[simp]
theorem decimal_ne_nil (number : Nat) : decimal number ≠ [] :=
  Nat.toDigits_ne_nil

theorem readDecimal?_decimal (number : Nat) :
    Text.readDecimal? (decimal number) = some number := by
  rw [Text.readDecimal?_of_isDigit (decimal_ne_nil number)
    fun digit => isDigit_of_mem_decimal]
  exact congrArg some Nat.ofDigitChars_ten_toDigits

theorem decimal_injective : Function.Injective decimal := by
  intro first second same
  have read := readDecimal?_decimal first
  rw [same, readDecimal?_decimal] at read
  exact (Option.some.inj read).symm

theorem length_decimal_le
    {first second : Nat}
    (least : first ≤ second) :
    (decimal first).length ≤ (decimal second).length := by
  have below := (Nat.length_toDigits_le_iff (by decide)
    (Nat.length_toDigits_pos (b := 10) (n := second))).1 (Nat.le_refl _)
  exact (Nat.length_toDigits_le_iff (by decide) Nat.length_toDigits_pos).2
    (Nat.lt_of_le_of_lt least below)

/-- A number is read if it does not have too many digits. -/
theorem VersionKey.readNumber_decimal_eq_ok_iff
    {number value : Nat} :
    readNumber (decimal number) = .ok value ↔
      (decimal number).length ≤ NumberError.digitLimit ∧ value = number := by
  have digits : (decimal number).all Text.isDigit = true :=
    List.all_eq_true.2 fun digit member =>
      Text.isDigit_of_isDigit (isDigit_of_mem_decimal member)
  have decimals :
      (decimal number).takeWhile Text.isDecimal = decimal number := by
    rw [List.takeWhile_eq_self_iff]
    intro digit member
    rw [Text.isDecimal,
      Text.decimalValue?_of_isDigit (isDigit_of_mem_decimal member)]
    rfl
  have some_ : (decimal number).isEmpty = false :=
    List.isEmpty_eq_false_iff.2 (decimal_ne_nil number)
  simp only [readNumber, some_, digits, decimals, readDecimal?_decimal,
    Bool.not_true, Bool.or_false, Bool.false_eq_true, if_false]
  split
  · rename_i long
    simp [Nat.not_le.2 long]
  · rename_i short
    simp [Nat.not_lt.1 short, eq_comm]

/-! ## Identifiers -/

/-- Whether a character may stand in an identifier. -/
def isIdentifierChar (char : Char) : Bool :=
  char.isAlphanum || char = '-'

/-- An identifier of a pre-release: a number, or a word that is none. -/
inductive Identifier where
  | number (value : Nat)
  | word (chars : List Char)
      (plain : ∀ char ∈ chars, isIdentifierChar char = true)
      (worded : ∃ char ∈ chars, char.isDigit = false)

namespace Identifier

variable {first second identifier : Identifier}

/-- An identifier as it is written. -/
def text : Identifier → List Char
  | number value => decimal value
  | word chars _ _ => chars

theorem isIdentifierChar_of_mem_text
    {char : Char}
    (member : char ∈ identifier.text) :
    isIdentifierChar char = true := by
  cases identifier with
  | number value =>
      have digit := isDigit_of_mem_decimal member
      simp [isIdentifierChar, Char.isAlphanum, digit]
  | word chars plain worded => exact plain char member

theorem text_ne_nil (identifier : Identifier) : identifier.text ≠ [] := by
  cases identifier with
  | number value => exact decimal_ne_nil value
  | word chars plain worded =>
      obtain ⟨char, member, -⟩ := worded
      exact List.ne_nil_of_mem member

/-- A word is never written as the beginning of a number. -/
theorem not_prefix_decimal
    {chars : List Char}
    {value : Nat}
    (worded : ∃ char ∈ chars, char.isDigit = false) :
    ¬ chars <+: decimal value := by
  intro inside
  obtain ⟨char, member, noDigit⟩ := worded
  have digit := isDigit_of_mem_decimal (inside.subset member)
  rw [noDigit] at digit
  cases digit

/-- Different identifiers are written differently. -/
theorem text_injective : Function.Injective text := by
  intro first second same
  cases first with
  | number value =>
      cases second with
      | number other => exact congrArg number (decimal_injective same)
      | word chars plain worded =>
          exact absurd ⟨[], (List.append_nil _).trans same.symm⟩
            (not_prefix_decimal worded)
  | word chars plain worded =>
      cases second with
      | number value =>
          exact absurd ⟨[], (List.append_nil _).trans same⟩
            (not_prefix_decimal worded)
      | word others _ _ =>
          cases same
          rfl

end Identifier

/-! ## Versions -/

/-- A semantic version. -/
structure SemanticVersion where
  major : Nat
  minor : Nat
  patch : Nat
  preRelease : List Identifier := []
  build : List (List Char) := []
  plainBuild : ∀ identifier ∈ build, identifier ≠ [] ∧
    ∀ char ∈ identifier, isIdentifierChar char = true := by decide

namespace SemanticVersion

/-- Texts with a dot between each two. -/
def dotted (texts : List (List Char)) : List Char :=
  ['.'].intercalate texts

/-- Texts with dots behind a mark, if there are any. -/
def marked (mark : Char) : List (List Char) → List Char
  | [] => []
  | text :: texts => mark :: dotted (text :: texts)

/-- The identifiers of a pre-release as they are written. -/
def preReleaseText (identifiers : List Identifier) : List Char :=
  dotted (identifiers.map Identifier.text)

/-- The numbers of a version. -/
def core (version : SemanticVersion) : List Nat :=
  [version.major, version.minor, version.patch]

/-- A version as it is written. -/
def toText (version : SemanticVersion) : String :=
  String.ofList
    (dotted (version.core.map decimal) ++
      marked '-' (version.preRelease.map Identifier.text) ++
      marked '+' version.build)

/-- Whether no number of a version has too many digits. -/
def IsShort (version : SemanticVersion) : Prop :=
  ∀ number ∈ version.core,
    (decimal number).length ≤ NumberError.digitLimit

/-- The numbers of a version and the text of its pre-release. -/
def key (version : SemanticVersion) : VersionKey where
  numbers := version.core
  isRelease := version.preRelease.isEmpty
  preRelease := String.ofList (preReleaseText version.preRelease)

variable
    {mark : Char}
    {front : List Char}
    {texts : List (List Char)}

theorem cutFirst_append_marked
    (absent : mark ∉ front)
    (texts : List (List Char)) :
    (Text.cutFirst mark (front ++ marked mark texts)).1 = front ∧
      (Text.cutFirst mark (front ++ marked mark texts)).2.getD [] =
        dotted texts := by
  cases texts with
  | nil =>
      rw [marked, List.append_nil, Text.cutFirst_of_not_mem absent]
      exact ⟨rfl, rfl⟩
  | cons text texts =>
      rw [marked, Text.cutFirst_append absent]
      exact ⟨rfl, rfl⟩

theorem not_mem_dotted
    (different : mark ≠ '.')
    (absent : ∀ text ∈ texts, mark ∉ text) :
    mark ∉ dotted texts := by
  intro member
  rcases Text.mem_intercalate member with same | ⟨text, known, inside⟩
  · exact different same
  · exact absent text known inside

theorem not_mem_marked
    {other : Char}
    (different : mark ≠ '.')
    (alsoDifferent : mark ≠ other)
    (absent : ∀ text ∈ texts, mark ∉ text) :
    mark ∉ marked other texts := by
  cases texts with
  | nil => exact List.not_mem_nil
  | cons text texts =>
      rw [marked, List.mem_cons, not_or]
      exact ⟨alsoDifferent, not_mem_dotted different absent⟩

theorem not_mem_core
    (noDigit : mark.isDigit = false)
    (version : SemanticVersion) :
    ∀ text ∈ version.core.map decimal, mark ∉ text := by
  intro text known member
  obtain ⟨number, -, rfl⟩ := List.mem_map.1 known
  rw [isDigit_of_mem_decimal member] at noDigit
  cases noDigit

theorem not_mem_preRelease
    (noIdentifier : isIdentifierChar mark = false)
    (version : SemanticVersion) :
    ∀ text ∈ version.preRelease.map Identifier.text, mark ∉ text := by
  intro text known member
  obtain ⟨identifier, -, rfl⟩ := List.mem_map.1 known
  rw [Identifier.isIdentifierChar_of_mem_text member] at noIdentifier
  cases noIdentifier

/-- Texts that are no empty ones are not written as nothing. -/
theorem dotted_eq_nil_iff (some_ : ∀ text ∈ texts, text ≠ []) :
    dotted texts = [] ↔ texts = [] := by
  constructor
  · intro nothing
    cases texts with
    | nil => rfl
    | cons text texts =>
        obtain ⟨char, member⟩ :=
          List.exists_mem_of_ne_nil text (some_ text List.mem_cons_self)
        have inside : char ∈ dotted (text :: texts) :=
          Text.mem_intercalate_of_mem ⟨text, List.mem_cons_self, member⟩
        rw [nothing] at inside
        cases inside
  · rintro rfl
    rfl

/-- The numbers are read if none has too many digits. -/
theorem mapM_readNumber_eq_ok_iff
    (version : SemanticVersion)
    (numbers : List Nat) :
    (version.core.map decimal).mapM VersionKey.readNumber = .ok numbers ↔
      version.IsShort ∧ numbers = version.core := by
  have read :
      version.IsShort →
        (version.core.map decimal).mapM VersionKey.readNumber =
          .ok version.core := fun short =>
    mapM_map_eq_ok decimal VersionKey.readNumber fun number member =>
      VersionKey.readNumber_decimal_eq_ok_iff.2 ⟨short number member, rfl⟩
  constructor
  · intro found
    have short : version.IsShort := by
      intro number member
      obtain ⟨value, read⟩ :=
        exists_mapM_eq_ok_iff.1 ⟨numbers, found⟩ (decimal number)
          (List.mem_map_of_mem member)
      exact (VersionKey.readNumber_decimal_eq_ok_iff.1 read).1
    rw [read short] at found
    exact ⟨short, (Except.ok.inj found).symm⟩
  · rintro ⟨short, rfl⟩
    exact read short

/-- A semantic version has a key unless a number has too many digits: its
numbers and the text of its pre-release. -/
theorem ofVersion_toText_eq_ok_iff
    (version : SemanticVersion)
    (key : VersionKey) :
    VersionKey.ofVersion version.toText = .ok key ↔
      version.IsShort ∧ key = version.key := by
  have noPlus :
      '+' ∉ dotted (version.core.map decimal) ++
        marked '-' (version.preRelease.map Identifier.text) := by
    rw [List.mem_append, not_or]
    exact ⟨not_mem_dotted (by decide) (not_mem_core (by decide) version),
      not_mem_marked (by decide) (by decide)
        (not_mem_preRelease (by decide) version)⟩
  have noHyphen : '-' ∉ dotted (version.core.map decimal) :=
    not_mem_dotted (by decide) (not_mem_core (by decide) version)
  have withoutBuild := (cutFirst_append_marked noPlus version.build).1
  obtain ⟨numbers, identifiers⟩ :=
    cutFirst_append_marked noHyphen
      (version.preRelease.map Identifier.text)
  have split :
      Text.splitAt '.' (dotted (version.core.map decimal)) =
        version.core.map decimal :=
    Text.splitAt_intercalate (by simp [core])
      (not_mem_core (by decide) version)
  have isRelease :
      (dotted (version.preRelease.map Identifier.text)).isEmpty =
        version.preRelease.isEmpty := by
    rw [Bool.eq_iff_iff, List.isEmpty_iff, List.isEmpty_iff,
      dotted_eq_nil_iff, List.map_eq_nil_iff]
    intro text known
    obtain ⟨identifier, -, rfl⟩ := List.mem_map.1 known
    exact identifier.text_ne_nil
  simp only [VersionKey.ofVersion, toText, String.toList_ofList, withoutBuild,
    numbers, identifiers, split, isRelease]
  rw [bind_eq_ok_iff]
  simp only [mapM_readNumber_eq_ok_iff, pure_eq_ok, Except.ok.injEq]
  constructor
  · rintro ⟨_, ⟨short, rfl⟩, rfl⟩
    exact ⟨short, rfl⟩
  · rintro ⟨short, rfl⟩
    exact ⟨_, ⟨short, rfl⟩, rfl⟩

end SemanticVersion

end CrateShelf
