import CrateShelf.Proofs.Finder.Session
import CrateShelf.Proofs.Text.Casing
import Mathlib.Data.List.Basic

/-!
# Matching at once and step by step

A line matches a query if the lower-cased query can be found in the
lower-cased line by leaving out characters.  A search asks this for one
beginning of the query after the other and never comes back to a line that
did not match.  That is right as long as a line that matches a query matches
its beginnings too; but a capital sigma is lower-cased differently at the end
of a word, so that a beginning may ask for a character which the whole query
does not ask for.

Main statement: the candidates of a search are the lines that match its query
for all lines exactly when the lower-cased beginnings of the query can be
found in the lower-cased query.
-/

namespace CrateShelf.Finder

/-! ## One line -/

/-- A query is met in a line exactly when leaving out characters of the line
gives the query. -/
theorem isSome_reach_iff (query line : List Char) :
    (reach query line).isSome = true ↔ query.Sublist line := by
  induction line generalizing query with
  | nil => cases query <;> simp
  | cons char line inductionStep =>
      cases query with
      | nil => simp
      | cons wanted query =>
          rw [reach, Option.isSome_map]
          split
          · rename_i same
            rw [inductionStep, same, List.cons_sublist_cons]
          · rename_i different
            rw [inductionStep, List.sublist_cons_iff]
            simp [different]

/-- A window is found exactly when there was one before or the query can be
found in the rest of the line. -/
theorem isSome_windowFrom_iff
    (first : Char)
    (query : List Char)
    (best : Option Window)
    (offset : Nat)
    (line : List Char) :
    (windowFrom first query best offset line).isSome = true ↔
      best.isSome = true ∨ (first :: query).Sublist line := by
  induction line generalizing best offset with
  | nil => simp [windowFrom]
  | cons char line inductionStep =>
      rw [windowFrom]
      split
      · rename_i same
        have found := isSome_reach_iff query line
        rw [same, List.cons_sublist_cons, ← found]
        split
        · rename_i nothing
          simp [nothing]
        · rename_i count some
          simp [inductionStep, some]
      · rename_i different
        rw [inductionStep, List.sublist_cons_iff]
        simp [Ne.symm different]

theorem isSome_bestWindow_iff
    (first : Char)
    (query line : List Char) :
    (bestWindow first query line).isSome = true ↔
      (first :: query).Sublist line := by
  simp [bestWindow, isSome_windowFrom_iff]

/-- A line matches a query if the query is empty, or if leaving out
characters of the lower-cased line, which must not be empty, gives the
lower-cased query. -/
theorem isMatch_iff (query line : String) :
    isMatch query line = true ↔
      query.toList = [] ∨
        line.toList ≠ [] ∧
          (Text.lower query.toList).Sublist (Text.lower line.toList) := by
  unfold isMatch score?
  cases query.toList with
  | nil => simp
  | cons wanted query =>
      cases line.toList with
      | nil => simp
      | cons char text =>
          cases lowered : Text.lower (wanted :: query) with
          | nil => simp at lowered
          | cons first others =>
              have found :=
                isSome_bestWindow_iff first others (Text.lower (char :: text))
              simp only [lowered, bestWindow?, reduceCtorEq, false_or, ne_eq,
                not_false_eq_true, true_and, ← found]
              cases bestWindow first others (Text.lower (char :: text)) <;> rfl

/-! ## All lines -/

/-- The numbers of the lines that match a query, in order. -/
def matching (lines : List String) (query : String) : List Nat :=
  (List.range lines.length).filter fun index =>
    isMatch query (lines[index]?.getD "")

/-- Whether every beginning of a query, lower-cased, can be found in the
lower-cased query. -/
def IsSteady (query : List Char) : Prop :=
  ∀ count ≤ query.length,
    (Text.lower (query.take count)).Sublist (Text.lower query)

instance (query : List Char) : Decidable (IsSteady query) :=
  inferInstanceAs (Decidable (∀ count ≤ query.length,
    (Text.lower (query.take count)).Sublist (Text.lower query)))

/-- The lines that match every beginning of a query match the query. -/
theorem survivors_sublist_matching
    (lines : List String)
    (query : List Char) :
    (survivors lines query).Sublist (matching lines (String.ofList query)) := by
  apply List.monotone_filter_right
  intro index matches_
  have whole := of_decide_eq_true matches_ query.length (Nat.le_refl _)
  rwa [List.take_length] at whole

/-- Beginnings of a steady query match whatever the query matches. -/
theorem IsSteady.isMatch_take
    {query : List Char}
    {line : String}
    (steady : IsSteady query)
    (matches_ : isMatch (String.ofList query) line = true)
    {count : Nat}
    (least : count ≤ query.length) :
    isMatch (String.ofList (query.take count)) line = true := by
  simp only [isMatch_iff, String.toList_ofList] at matches_ ⊢
  rcases matches_ with nothing | ⟨filled, found⟩
  · exact Or.inl (by simp [nothing])
  · exact Or.inr ⟨filled, (steady count least).trans found⟩

theorem IsSteady.survivors_eq
    {query : List Char}
    (steady : IsSteady query)
    (lines : List String) :
    survivors lines query = matching lines (String.ofList query) := by
  apply List.filter_congr
  intro index _
  rw [Bool.eq_iff_iff, decide_eq_true_eq]
  constructor
  · intro all
    simpa using all query.length (Nat.le_refl _)
  · intro matches_ count least
    exact steady.isMatch_take matches_ least

/-- A query that is not steady matches itself, but not all its beginnings
match it. -/
theorem survivors_ne_of_not_isSteady
    {query : List Char}
    (unsteady : ¬ IsSteady query) :
    survivors [String.ofList query] query ≠
      matching [String.ofList query] (String.ofList query) := by
  have filled : query ≠ [] := by
    rintro rfl
    exact unsteady fun count _ => by simp
  have itself : isMatch (String.ofList query) (String.ofList query) = true := by
    rw [isMatch_iff]
    exact Or.inr ⟨by simpa using filled, List.Sublist.refl _⟩
  have found : 0 ∈ matching [String.ofList query] (String.ofList query) := by
    simp [matching, itself]
  intro same
  rw [← same] at found
  apply unsteady
  intro count least
  have matches_ :
      isMatch (String.ofList (query.take count)) (String.ofList query) =
        true := by
    simpa using of_decide_eq_true (List.mem_filter.1 found).2 count least
  rw [isMatch_iff] at matches_
  simp only [String.toList_ofList] at matches_
  rcases matches_ with nothing | ⟨_, beginning⟩
  · simp [nothing]
  · exact beginning

/-- A query is steady if there is no capital sigma before its last
character. -/
theorem isSteady_of_plain
    {query : List Char}
    (plain : 'Σ' ∉ query.dropLast) :
    IsSteady query := by
  intro count least
  rcases Nat.lt_or_eq_of_le least with less | equal
  · have shorter : query.take count <+: query.dropLast := by
      rw [List.dropLast_eq_take]
      exact List.take_prefix_take_left (by omega)
    have begins :=
      Text.lower_prefix_lower
        (fun member => plain (shorter.mem member)) (query.drop count)
    rw [List.take_append_drop] at begins
    exact begins.sublist
  · rw [equal, List.take_length]

/-! ## Searches -/

namespace Search

/-- Whatever was done, the candidates are the lines that match every
beginning of the query. -/
theorem candidates_run
    (lines : List String)
    (limit : Int)
    (operations : List Operation) :
    ((start lines limit).run operations).candidates =
      survivors lines
        ((start lines limit).run operations).query.toList := by
  rw [((settled_start lines limit).run operations).candidates_eq]
  simp [query]

/--
For a query, the candidates of all searches with it are the lines that match
it exactly when the query is steady, which it is without a capital sigma
before its last character.  No candidate of any search fails to match.
-/
theorem candidates_eq_matching_iff (query : String) :
    ((∀ lines limit operations,
        ((start lines limit).run operations).query = query →
          ((start lines limit).run operations).candidates =
            matching lines query) ↔
      IsSteady query.toList) ∧
    ('Σ' ∉ query.toList.dropLast → IsSteady query.toList) ∧
    ∀ lines limit operations,
      ((start lines limit).run operations).query = query →
        ((start lines limit).run operations).candidates.Sublist
          (matching lines query) := by
  refine ⟨⟨fun always => ?_, fun steady => ?_⟩, isSteady_of_plain, ?_⟩
  · by_contra unsteady
    have added :
        ((start [query] 0).run [.append query.toList]).query = query := by
      simp [run, perform, Search.query, start, rank]
    have same := always [query] 0 [.append query.toList] added
    rw [candidates_run, added] at same
    have different := survivors_ne_of_not_isSteady unsteady
    rw [String.ofList_toList] at different
    exact different same
  · rintro lines limit operations rfl
    rw [candidates_run, steady.survivors_eq, String.ofList_toList]
  · rintro lines limit operations rfl
    rw [candidates_run]
    simpa using survivors_sublist_matching lines
      ((start lines limit).run operations).query.toList

/-- Not every line that matches the query is a candidate: the whole word is
not found in itself, since its beginning ends in the final form of sigma. -/
theorem not_always_candidates :
    ¬ ∀ lines limit operations,
      ((start lines limit).run operations).candidates =
        matching lines ((start lines limit).run operations).query := by
  intro claimed
  have unsteady : ¬ IsSteady "ΑΣΑ".toList := by
    decide
  have added :
      ((start ["ΑΣΑ"] 40).run [.append "ΑΣΑ".toList]).query = "ΑΣΑ" := by
    simp [run, perform, Search.query, start, rank]
  have same := claimed ["ΑΣΑ"] 40 [.append "ΑΣΑ".toList]
  rw [candidates_run, added] at same
  exact survivors_ne_of_not_isSteady unsteady same

end Search

end CrateShelf.Finder
