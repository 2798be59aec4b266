import CrateShelf.Proofs.Version.Semantic
import CrateShelf.Version
import Mathlib.Data.Prod.Lex
import Mathlib.Data.String.Basic
import Mathlib.Data.Sum.Order
import Mathlib.Order.WithBot

/-!
# The precedence of semantic versions

Versions are ranked by their numbers; of the same numbers, a pre-release comes
before the release.  Pre-releases are ranked by their identifiers from the
left, numbers by value and before all words.  Their keys, however, hold them as
texts, in which two is above ten, and a hyphen within an identifier is below
the dot behind a shorter one.

Main statements: the keys of versions are in a linear order, namely that of
their parts one after the other; keys are the same exactly if the precedence
is; and they are in the order of precedence exactly if neither of the versions
is read above the other although it is lower.
-/

namespace CrateShelf

/-! ## Keys -/

namespace VersionKey

/-- What versions are ranked by. -/
abbrev Rank := List Nat ×ₗ Bool ×ₗ String

/-- The rank of a key. -/
def rank (key : VersionKey) : Rank :=
  toLex (key.numbers, toLex (key.isRelease, key.preRelease))

section LinearOrder

variable
    {Part : Type}
    [LinearOrder Part]
    [DecidableLT Part]
    [DecidableEq Part]
    (first second : Part)

theorem compareOfLessAndEq_eq_gt_iff :
    compareOfLessAndEq first second = .gt ↔ second < first :=
  compareOfLessAndEq_eq_gt le_antisymm le_total not_le first second

/-- Parts and then something else compare as more if the first of them that
differ do. -/
theorem compareOfLessAndEq_then_eq_gt_iff (rest : Ordering) :
    (compareOfLessAndEq first second).then rest = .gt ↔
      second < first ∨ second = first ∧ rest = .gt := by
  have equal : compareOfLessAndEq first second = .eq ↔ first = second :=
    compareOfLessAndEq_eq_eq le_refl not_le
  rw [Ordering.then_eq_gt, compareOfLessAndEq_eq_gt_iff, equal, eq_comm]

end LinearOrder

/-- A key is newer than another if it ranks above it. -/
theorem newer_iff (first second : VersionKey) :
    first.newer second = true ↔ second.rank < first.rank := by
  have releases :
      Ord.compare first.isRelease second.isRelease =
        compareOfLessAndEq first.isRelease second.isRelease :=
    LinearOrder.compare_eq_compareOfLessAndEq _ _
  rw [newer, beq_iff_eq, compare, releases, rank, rank,
    Prod.Lex.toLex_lt_toLex, Prod.Lex.toLex_lt_toLex]
  refine (compareOfLessAndEq_then_eq_gt_iff _ _ _).trans ?_
  refine or_congr_right <| and_congr_right fun _ => ?_
  refine (compareOfLessAndEq_then_eq_gt_iff _ _ _).trans ?_
  exact or_congr_right <| and_congr_right fun _ =>
    compareOfLessAndEq_eq_gt_iff _ _

end VersionKey

/-! ## Identifiers -/

namespace Identifier

variable {first second : Identifier}

/-- What identifiers are ranked by: numbers come before words. -/
abbrev Rank := Nat ⊕ₗ List Char

/-- The rank of an identifier. -/
def rank : Identifier → Rank
  | number value => toLex (.inl value)
  | word chars _ _ => toLex (.inr chars)

theorem rank_injective : Function.Injective rank := by
  intro first second same
  cases first with
  | number value =>
      cases second with
      | number other => cases same; rfl
      | word chars plain worded => cases same
  | word chars plain worded =>
      cases second with
      | number value => cases same
      | word others _ _ => cases same; rfl

/-- A higher identifier is not written as the beginning of a lower one. -/
theorem not_text_prefix_text (lower : first.rank < second.rank) :
    ¬ second.text <+: first.text := by
  intro begins
  cases first with
  | number value =>
      cases second with
      | number other =>
          have less : value < other := Sum.Lex.inl_lt_inl_iff.1 lower
          have same : decimal other = decimal value :=
            begins.eq_of_length_le (length_decimal_le less.le)
          exact less.ne' (decimal_injective same)
      | word chars plain worded => exact not_prefix_decimal worded begins
  | word chars plain worded =>
      cases second with
      | number value => exact absurd lower Sum.Lex.not_inr_lt_inl
      | word others _ _ =>
          have less : chars < others := Sum.Lex.inr_lt_inr_iff.1 lower
          obtain ⟨rest, rfl⟩ := begins
          exact List.le_append_left less

end Identifier

/-! ## Texts in order -/

section Texts

variable
    {char : Char}
    {lower higher tail : List Char}

/-- Of the characters of identifiers only the hyphen is below the dot. -/
theorem eq_hyphen_or_dot_lt (plain : isIdentifierChar char = true) :
    char = '-' ∨ '.' < char := by
  have upToDot :
      ∀ number < 47, isIdentifierChar (Char.ofNat number) = true →
        Char.ofNat number = '-' := by
    decide
  rcases Nat.lt_or_ge char.toNat 47 with below | above
  · have same := upToDot char.toNat below
    rw [Char.ofNat_toNat] at same
    exact .inl (same plain)
  · exact .inr (UInt32.lt_iff_toNat_lt.2 above)

theorem lt_dot_iff (plain : isIdentifierChar char = true) :
    char < '.' ↔ char = '-' := by
  constructor
  · intro below
    exact (eq_hyphen_or_dot_lt plain).resolve_right below.not_gt
  · rintro rfl
    decide

theorem append_lt_append_iff (front first second : List Char) :
    front ++ first < front ++ second ↔ first < second :=
  StrictMono.lt_iff_lt fun _ _ => List.append_left_lt

/-- Whether a text is above another that goes on with a dot, if it does, is
told by the two, unless the other is the beginning of it and is followed there
by a hyphen. -/
theorem append_lt_append_iff_of_not_prefix
    (plain : ∀ char ∈ higher, isIdentifierChar char = true)
    (ends : tail = [] ∨ ∃ rest, tail = '.' :: rest)
    (noBeginning : ¬ higher <+: lower)
    (rest : List Char) :
    higher ++ rest < lower ++ tail ↔
      higher < lower ∨ tail ≠ [] ∧ lower ++ ['-'] <+: higher := by
  -- Until the lower text ends or the heads differ, both texts go on alike.
  induction lower generalizing higher with
  | nil =>
      cases higher with
      | nil => exact absurd (List.prefix_refl _) noBeginning
      | cons char higher =>
          -- What follows the lower text is a dot, if anything; only a hyphen
          -- is below it.
          have plainHead := plain char List.mem_cons_self
          have noDot : char ≠ '.' := by
            rintro rfl
            exact absurd plainHead (by decide)
          rcases ends with rfl | ⟨left, rfl⟩
          · simp
          · simp [List.cons_lt_cons_iff, noDot, lt_dot_iff plainHead, eq_comm]
  | cons char lower inductionStep =>
      cases higher with
      | nil => exact absurd List.nil_prefix noBeginning
      | cons other higher =>
          rw [List.forall_mem_cons] at plain
          rw [List.cons_append, List.cons_append, List.cons_append,
            List.cons_lt_cons_iff, List.cons_lt_cons_iff,
            List.cons_prefix_cons]
          by_cases same : other = char
          · subst same
            rw [List.cons_prefix_cons] at noBeginning
            have others := inductionStep plain.2
              fun begins => noBeginning ⟨rfl, begins⟩
            simp only [lt_irrefl, true_and, false_or]
            exact others
          · simp [same, Ne.symm same]

end Texts

/-! ## Lists of identifiers -/

namespace SemanticVersion

variable {lower higher : List Identifier}

/-- Whether the first of two lists is lower, but is written as a text that is
above that of the other: in the first identifiers that differ, either the lower
one is the text above, or it is followed by others and is the beginning of the
higher one, which goes on with a hyphen. -/
inductive ReadsAbove : List Identifier → List Identifier → Prop where
  | here {first second : Identifier} {others more : List Identifier}
      (lower : first.rank < second.rank)
      (above : second.text < first.text ∨
        others ≠ [] ∧ first.text ++ ['-'] <+: second.text) :
      ReadsAbove (first :: others) (second :: more)
  | later {first : Identifier} {others more : List Identifier}
      (above : ReadsAbove others more) :
      ReadsAbove (first :: others) (first :: more)

theorem ReadsAbove.rank_lt (above : ReadsAbove lower higher) :
    lower.map Identifier.rank < higher.map Identifier.rank := by
  induction above with
  | here less _ => exact List.cons_lt_cons_iff.2 (.inl less)
  | later _ inductionStep =>
      exact List.cons_lt_cons_iff.2 (.inr ⟨rfl, inductionStep⟩)

theorem preReleaseText_cons (identifier : Identifier) (others : List Identifier) :
    preReleaseText (identifier :: others) =
      identifier.text ++ marked '.' (others.map Identifier.text) := by
  cases others with
  | nil =>
      rw [List.map_nil, marked, List.append_nil, preReleaseText,
        List.map_singleton, dotted, List.intercalate_singleton]
  | cons next others =>
      rw [List.map_cons, marked, ← List.singleton_append (x := '.'),
        ← List.append_assoc]
      exact List.intercalate_cons_cons

theorem marked_eq (others : List Identifier) :
    (others = [] ∧ marked '.' (others.map Identifier.text) = []) ∨
      (others ≠ [] ∧
        marked '.' (others.map Identifier.text) = '.' :: preReleaseText others) := by
  cases others with
  | nil => exact .inl ⟨rfl, rfl⟩
  | cons next others => exact .inr ⟨List.cons_ne_nil _ _, rfl⟩

/-- Where the first identifiers differ, they tell the order of the texts. -/
theorem preReleaseText_lt_iff_of_rank_lt
    {first second : Identifier}
    (less : first.rank < second.rank)
    (others more : List Identifier) :
    preReleaseText (second :: more) < preReleaseText (first :: others) ↔
      ReadsAbove (first :: others) (second :: more) := by
  have ends :
      marked '.' (others.map Identifier.text) = [] ∨
        ∃ rest, marked '.' (others.map Identifier.text) = '.' :: rest :=
    (marked_eq others).imp And.right fun goesOn => ⟨_, goesOn.2⟩
  have goesOn :
      marked '.' (others.map Identifier.text) ≠ [] ↔ others ≠ [] := by
    rcases marked_eq others with ⟨nothing, same⟩ | ⟨some_, same⟩
    · rw [same]
      simp [nothing]
    · simp [some_, same]
  rw [preReleaseText_cons, preReleaseText_cons,
    append_lt_append_iff_of_not_prefix
      (fun char => Identifier.isIdentifierChar_of_mem_text) ends
      (Identifier.not_text_prefix_text less), goesOn]
  constructor
  · exact .here less
  · intro above
    cases above with
    | here _ above => exact above
    | later _ => exact absurd less (lt_irrefl _)

/-- Texts of lists of which the first is lower are the other way round exactly
if the first reads above the second. -/
theorem preReleaseText_lt_iff
    (some_ : lower ≠ [])
    (less : lower.map Identifier.rank < higher.map Identifier.rank) :
    preReleaseText higher < preReleaseText lower ↔ ReadsAbove lower higher := by
  -- The first identifiers that differ tell the order; those before cancel.
  induction lower generalizing higher with
  | nil => exact absurd rfl some_
  | cons first others inductionStep =>
      cases higher with
      | nil => exact absurd less (List.not_lt_nil _)
      | cons second more =>
          rw [List.map_cons, List.map_cons, List.cons_lt_cons_iff] at less
          rcases less with less | ⟨same, less⟩
          · exact preReleaseText_lt_iff_of_rank_lt less others more
          · cases Identifier.rank_injective same
            have shorter :
                ReadsAbove (first :: others) (first :: more) ↔
                  ReadsAbove others more := by
              constructor
              · intro above
                cases above with
                | here less _ => exact absurd less (lt_irrefl _)
                | later above => exact above
              · exact .later
            rw [preReleaseText_cons, preReleaseText_cons, append_lt_append_iff, shorter]
            rcases marked_eq others with ⟨rfl, nothing⟩ | ⟨others_, goesOn⟩
            · rw [nothing]
              exact iff_of_false (List.not_lt_nil _) nofun
            · rcases marked_eq more with ⟨rfl, -⟩ | ⟨-, alsoGoesOn⟩
              · exact absurd less (List.not_lt_nil _)
              · rw [goesOn, alsoGoesOn, List.cons_lt_cons_self,
                  inductionStep others_ less]

theorem splitAt_preReleaseText (some_ : lower ≠ []) :
    Text.splitAt '.' (preReleaseText lower) = lower.map Identifier.text := by
  apply Text.splitAt_intercalate
  · rwa [ne_eq, List.map_eq_nil_iff]
  · intro text known member
    obtain ⟨identifier, -, rfl⟩ := List.mem_map.1 known
    exact absurd (Identifier.isIdentifierChar_of_mem_text member) (by decide)

theorem preReleaseText_inj (some_ : lower ≠ []) (alsoSome : higher ≠ []) :
    preReleaseText lower = preReleaseText higher ↔ lower = higher := by
  constructor
  · intro same
    have texts := congrArg (Text.splitAt '.') same
    rw [splitAt_preReleaseText some_, splitAt_preReleaseText alsoSome] at texts
    exact Identifier.text_injective.list_map texts
  · rintro rfl
    rfl

theorem map_rank_inj :
    lower.map Identifier.rank = higher.map Identifier.rank ↔
      lower = higher :=
  (List.map_injective_iff.2 Identifier.rank_injective).eq_iff

/-- Texts are in the order of the lists exactly if neither list reads above
the other. -/
theorem preReleaseText_lt_iff_rank_lt_iff
    (some_ : lower ≠ [])
    (alsoSome : higher ≠ []) :
    (preReleaseText lower < preReleaseText higher ↔
        lower.map Identifier.rank < higher.map Identifier.rank) ↔
      ¬ (ReadsAbove lower higher ∨ ReadsAbove higher lower) := by
  rcases lt_trichotomy (lower.map Identifier.rank)
      (higher.map Identifier.rank) with less | same | more
  · have different : preReleaseText lower ≠ preReleaseText higher := by
      rw [ne_eq, preReleaseText_inj some_ alsoSome, ← map_rank_inj]
      exact less.ne
    have notBelow : ¬ ReadsAbove higher lower :=
      fun above => above.rank_lt.not_gt less
    rw [iff_true_right less, or_iff_left notBelow,
      ← preReleaseText_lt_iff some_ less, not_lt]
    exact ⟨le_of_lt, fun least => lt_of_le_of_ne least different⟩
  · cases map_rank_inj.1 same
    have notAbove : ¬ ReadsAbove lower lower :=
      fun above => lt_irrefl _ above.rank_lt
    simp [notAbove]
  · have notAbove : ¬ ReadsAbove lower higher :=
      fun above => above.rank_lt.not_gt more
    rw [iff_false_right more.not_gt, or_iff_right notAbove,
      preReleaseText_lt_iff alsoSome more]

/-! ## Versions -/

variable {first second : SemanticVersion}

/-- What pre-releases are ranked by; a release comes behind them. -/
def preReleaseRank : List Identifier → WithTop (List Identifier.Rank)
  | [] => ⊤
  | identifier :: others =>
    ((identifier :: others).map Identifier.rank : List Identifier.Rank)

/-- The precedence of a version: its numbers, then whether it is a release,
then the identifiers of the pre-release from the left. -/
def precedence (version : SemanticVersion) :
    List Nat ×ₗ WithTop (List Identifier.Rank) :=
  toLex (version.core, preReleaseRank version.preRelease)

/-- Whether a version precedes another of the same numbers, but its
pre-release is written as a text above that of the other. -/
def IsMisread (first second : SemanticVersion) : Prop :=
  first.core = second.core ∧ ReadsAbove first.preRelease second.preRelease

theorem preReleaseRank_injective : Function.Injective preReleaseRank := by
  intro lower higher same
  cases lower with
  | nil =>
      cases higher with
      | nil => rfl
      | cons identifier others => cases same
  | cons identifier others =>
      cases higher with
      | nil => cases same
      | cons other more => exact map_rank_inj.1 (WithTop.coe_injective same)

theorem preReleaseRank_lt_of_readsAbove (above : ReadsAbove lower higher) :
    preReleaseRank lower < preReleaseRank higher := by
  have less := above.rank_lt
  cases above with
  | here _ _ => exact WithTop.coe_lt_coe.2 less
  | later _ => exact WithTop.coe_lt_coe.2 less

/-- The keys are the same exactly if the precedence is. -/
theorem key_eq_key_iff :
    first.key = second.key ↔ first.precedence = second.precedence := by
  rw [precedence, precedence, toLex_inj, Prod.mk.injEq,
    preReleaseRank_injective.eq_iff, key, key, VersionKey.mk.injEq,
    String.ofList_inj]
  refine and_congr_right fun _ => ?_
  cases first.preRelease with
  | nil => cases second.preRelease <;> simp [preReleaseText, dotted]
  | cons identifier others =>
      cases second.preRelease with
      | nil => simp
      | cons other more =>
          rw [preReleaseText_inj (List.cons_ne_nil _ _) (List.cons_ne_nil _ _)]
          exact and_iff_right rfl

/-- Of the same numbers, keys are in the order of precedence exactly if
neither pre-release reads above the other. -/
theorem preRelease_lt_iff_preReleaseRank_lt_iff
    (lower higher : List Identifier) :
    ((lower.isEmpty < higher.isEmpty ∨ lower.isEmpty = higher.isEmpty ∧
          String.ofList (preReleaseText lower) <
            String.ofList (preReleaseText higher)) ↔
        preReleaseRank lower < preReleaseRank higher) ↔
      ¬ (ReadsAbove lower higher ∨ ReadsAbove higher lower) := by
  have neverAbove : ∀ identifiers,
      ¬ (ReadsAbove [] identifiers ∨ ReadsAbove identifiers []) := by
    rintro identifiers (above | above)
    · cases above
    · cases above
  cases lower with
  | nil =>
      refine iff_of_true ?_ (neverAbove higher)
      cases higher with
      | nil => simp [preReleaseText]
      | cons identifier others => simp [preReleaseRank]
  | cons identifier others =>
      cases higher with
      | nil =>
          refine iff_of_true ?_ (not_or.2 (not_or.1 (neverAbove _)).symm)
          simp [preReleaseRank]
      | cons other more =>
          rw [← preReleaseText_lt_iff_rank_lt_iff (List.cons_ne_nil _ _)
            (List.cons_ne_nil _ _), String.lt_iff_toList_lt,
            String.toList_ofList, String.toList_ofList]
          simp [preReleaseRank]

/-- The keys are in the order of precedence exactly if neither version is
misread. -/
theorem rank_key_lt_iff_precedence_lt_iff :
    (first.key.rank < second.key.rank ↔
        first.precedence < second.precedence) ↔
      ¬ (first.IsMisread second ∨ second.IsMisread first) := by
  rw [VersionKey.rank, VersionKey.rank, Prod.Lex.toLex_lt_toLex,
    Prod.Lex.toLex_lt_toLex, precedence, precedence, Prod.Lex.toLex_lt_toLex,
    IsMisread, IsMisread]
  by_cases same : first.core = second.core
  · simp only [key, same, lt_irrefl, true_and, false_or]
    exact preRelease_lt_iff_preReleaseRank_lt_iff _ _
  · simp [key, same, Ne.symm same]

theorem IsMisread.precedence_lt (misread : first.IsMisread second) :
    first.precedence < second.precedence := by
  obtain ⟨same, above⟩ := misread
  rw [precedence, precedence, Prod.Lex.toLex_lt_toLex]
  refine .inr ⟨same, ?_⟩
  exact preReleaseRank_lt_of_readsAbove above

/-- A version whose key is not below that of another is not below the other
itself exactly if it is not misread. -/
theorem precedence_le_iff_of_rank_key_le
    (notAbove : second.key.rank ≤ first.key.rank) :
    second.precedence ≤ first.precedence ↔ ¬ first.IsMisread second := by
  constructor
  · intro least misread
    exact misread.precedence_lt.not_ge least
  · intro wellRead
    by_contra notLeast
    have less : first.precedence < second.precedence := not_le.1 notLeast
    have alsoWellRead : ¬ second.IsMisread first :=
      fun misread => misread.precedence_lt.not_gt less
    have agree :=
      rank_key_lt_iff_precedence_lt_iff.2 (not_or.2 ⟨wellRead, alsoWellRead⟩)
    exact (agree.2 less).not_ge notAbove

end SemanticVersion

end CrateShelf
