import CrateShelf.Proofs.Settings.Keyed

/-!
# Merged settings

A table is laid over another one entry by entry: what is under a name then
depends on what both have under that name, and on nothing else.  Along a path
of names this goes on for as long as both have a table.

Main statement: laying settings over others keeps what they say, and keeps of
the others what is not in their way; doing it once more changes nothing.
-/

namespace CrateShelf

/-- The entries of a setting that may be a table. -/
def Setting.entries : Option Setting → Settings
  | some (.table entries) => entries
  | _ => []

@[simp]
theorem Setting.entries_none : Setting.entries none = [] := rfl

@[simp]
theorem Setting.entries_table (entries : Settings) :
    Setting.entries (some (.table entries)) = entries := rfl

theorem Setting.entries_of_not_isTable
    {value : Setting}
    (noTable : value.isTable = false) :
    Setting.entries (some value) = [] := by
  cases value with
  | table entries => cases noTable
  | _ => rfl

namespace Settings

variable
    {settings base update : Settings}
    {name : String}
    {value : Setting}
    {path : List String}

/-! ## Entries -/

theorem IsKeyed.entries
    (keyed : IsKeyed settings)
    (name : String) :
    IsKeyed (Setting.entries (settings.get? name)) := by
  unfold Setting.entries
  split
  · rename_i entries found
    exact keyed.of_mem (keyed.get?_eq_some_iff.1 found)
  · trivial

/-- A setting that is put where it is already changes nothing. -/
theorem put_of_get? (found : settings.get? name = some value) :
    settings.put name value = settings := by
  induction settings with
  | nil => cases found
  | cons entry rest inductionStep =>
      obtain ⟨known, old⟩ := entry
      rw [get?_cons] at found
      rw [put]
      split at found
      · rename_i same
        cases found
        rw [if_pos same.symm]
      · rename_i different
        rw [if_neg (Ne.symm different), inductionStep found]

/-- A setting under a new name is put behind the others. -/
theorem put_of_fresh (fresh : ∀ entry ∈ settings, entry.1 ≠ name) :
    settings.put name value = settings ++ [(name, value)] := by
  induction settings with
  | nil => rfl
  | cons entry rest inductionStep =>
      obtain ⟨known, old⟩ := entry
      rw [put, if_neg (fresh _ List.mem_cons_self), List.cons_append,
        inductionStep fun other member =>
          fresh other (List.mem_cons_of_mem _ member)]

/-! ## One name -/

theorem exists_of_isTable (isTable : value.isTable = true) :
    ∃ entries, value = .table entries := by
  cases value with
  | table entries => exact ⟨entries, rfl⟩
  | _ => cases isTable

theorem mergeOne_none (value : Setting) : mergeOne none value = value := by
  cases value with
  | table entries => rfl
  | _ => rfl

theorem mergeOne_of_not_isTable
    (noTable : value.isTable = false)
    (old : Option Setting) :
    mergeOne old value = value := by
  cases value with
  | table entries => cases noTable
  | _ => rfl

/-- Under each name stands what the two make of it together. -/
theorem get?_merge
    (keyed : IsKeyed update)
    (base : Settings)
    (name : String) :
    (base.merge update).get? name =
      match update.get? name with
      | some value => some (mergeOne (base.get? name) value)
      | none => base.get? name := by
  induction update generalizing base with
  | nil => rfl
  | cons entry rest inductionStep =>
      obtain ⟨known, value⟩ := entry
      obtain ⟨fresh, -, others⟩ := keyed
      rw [merge, inductionStep others, get?_cons]
      by_cases same : name = known
      · subst same
        rw [if_pos rfl, get?_eq_none fresh, get?_put_self]
      · rw [if_neg same, get?_put_of_ne _ _ _ _ same]

/-- Settings under new names come behind the others. -/
theorem merge_of_fresh
    (keyed : IsKeyed update)
    (fresh : ∀ entry ∈ update, ∀ other ∈ base, other.1 ≠ entry.1) :
    base.merge update = base ++ update := by
  induction update generalizing base with
  | nil => rw [merge, List.append_nil]
  | cons entry rest inductionStep =>
      obtain ⟨known, value⟩ := entry
      obtain ⟨apart, -, others⟩ := keyed
      have new := fresh _ List.mem_cons_self
      rw [merge, get?_eq_none new, mergeOne_none, put_of_fresh new,
        inductionStep others, ← List.append_cons]
      intro entry member other among
      rcases List.mem_append.1 among with before | here
      · exact fresh entry (List.mem_cons_of_mem _ member) other before
      · rw [List.mem_singleton.1 here]
        exact (apart entry member).symm

/-- A table takes the place of a table that is merged with it; anything else
counts as an empty one. -/
theorem mergeOne_table
    (keyed : IsKeyed update)
    (old : Option Setting) :
    mergeOne old (.table update) =
      .table (merge (Setting.entries old) update) := by
  have alone : merge [] update = update := by
    rw [merge_of_fresh keyed (by simp), List.nil_append]
  cases old with
  | none => rw [mergeOne_none, Setting.entries_none, alone]
  | some old =>
      cases old with
      | table base => rfl
      | _ =>
          rw [Setting.entries_of_not_isTable rfl, alone]
          rfl

/-- Behind a name, tables that are merged go on being merged, unless there is
something else than a table over them. -/
theorem entries_get?_merge
    (keyed : IsKeyed update)
    (base : Settings)
    (name : String) :
    Setting.entries ((base.merge update).get? name) =
      if ∃ value, update.get? name = some value ∧ value.isTable = false
      then []
      else
        merge (Setting.entries (base.get? name))
          (Setting.entries (update.get? name)) := by
  have inner := keyed.entries name
  rw [get?_merge keyed]
  cases found : update.get? name with
  | none => simp [merge]
  | some value =>
      cases isTable : value.isTable with
      | false =>
          rw [if_pos ⟨value, rfl, isTable⟩]
          dsimp only
          rw [mergeOne_of_not_isTable isTable]
          exact Setting.entries_of_not_isTable isTable
      | true =>
          obtain ⟨entries, rfl⟩ := exists_of_isTable isTable
          rw [found, Setting.entries_table] at inner
          rw [if_neg (by simp [isTable])]
          exact congrArg (Setting.entries ∘ some) (mergeOne_table inner _)

/-! ## Paths of names -/

theorem find?_empty (path : List String) : find? [] path = none := by
  unfold find?
  split
  · rfl
  · rfl
  · rfl

/-- Behind its first name, a path goes on in the table there. -/
theorem find?_cons
    (settings : Settings)
    (name : String)
    (more : path ≠ []) :
    settings.find? (name :: path) =
      find? (Setting.entries (settings.get? name)) path := by
  obtain ⟨next, path, rfl⟩ := List.exists_cons_of_ne_nil more
  rw [find?]
  · cases settings.get? name with
    | none => rw [Setting.entries_none, find?_empty]
    | some value =>
        cases value with
        | table entries => rfl
        | _ => rw [Setting.entries_of_not_isTable rfl, find?_empty]
  · simp

/-- A path of which the merged settings have something leads through tables
over them for as long as these have anything. -/
theorem find?_merge_cons
    (keyed : IsKeyed update)
    (base : Settings)
    (name : String)
    (more : path ≠ []) :
    (base.merge update).find? (name :: path) =
      if ∃ value, update.get? name = some value ∧ value.isTable = false
      then none
      else
        (merge (Setting.entries (base.get? name))
          (Setting.entries (update.get? name))).find? path := by
  rw [find?_cons _ _ more, entries_get?_merge keyed]
  split
  · exact find?_empty path
  · rfl

/-- What settings say is kept when they are laid over others. -/
theorem find?_merge_of_update
    (keyed : IsKeyed update)
    (found : update.find? path = some value)
    (noTable : value.isTable = false) :
    (base.merge update).find? path = some value := by
  induction path generalizing base update with
  | nil => cases found
  | cons name path inductionStep =>
      by_cases last : path = []
      · subst last
        rw [find?] at found ⊢
        rw [get?_merge keyed, found]
        exact congrArg some (mergeOne_of_not_isTable noTable _)
      · rw [find?_cons _ _ last] at found
        rw [find?_merge_cons keyed base name last, if_neg]
        · exact inductionStep (keyed.entries name) found
        · -- Nothing is found behind a setting that is no table.
          rintro ⟨other, here, otherNoTable⟩
          rw [here, Setting.entries_of_not_isTable otherNoTable, find?_empty]
            at found
          cases found

/-- What settings say is kept where others that are laid over them say
nothing, and nothing that ends the path. -/
theorem find?_merge_of_base
    (keyed : IsKeyed update)
    (found : base.find? path = some value)
    (absent : update.find? path = none)
    (through : ∀ front, front <+: path → ∀ upper,
      update.find? front = some upper → upper.isTable = true) :
    (base.merge update).find? path = some value := by
  induction path generalizing base update with
  | nil => cases found
  | cons name path inductionStep =>
      by_cases last : path = []
      · subst last
        rw [find?] at found absent ⊢
        rw [get?_merge keyed, absent]
        exact found
      · rw [find?_cons _ _ last] at found absent
        rw [find?_merge_cons keyed base name last, if_neg]
        · refine inductionStep (keyed.entries name) found absent ?_
          intro front leads upper upperThere
          by_cases start : front = []
          · subst start
            rw [find?] at upperThere
            cases upperThere
          · rw [← find?_cons _ _ start] at upperThere
            exact through (name :: front)
              (List.cons_prefix_cons.2 ⟨rfl, leads⟩) upper upperThere
        · rintro ⟨other, here, noTable⟩
          have table := through [name]
            (List.cons_prefix_cons.2 ⟨rfl, List.nil_prefix⟩) other here
          rw [noTable] at table
          cases table

/-- Merged settings say nothing of which none of the two says anything. -/
theorem find?_ne_none_of_merge
    (keyed : IsKeyed update)
    (found : (base.merge update).find? path ≠ none) :
    base.find? path ≠ none ∨ update.find? path ≠ none := by
  induction path generalizing base update with
  | nil => exact absurd rfl found
  | cons name path inductionStep =>
      by_cases last : path = []
      · subst last
        rw [find?] at found ⊢
        rw [find?]
        rw [get?_merge keyed] at found
        cases here : update.get? name with
        | none =>
            rw [here] at found
            exact .inl found
        | some value => exact .inr (Option.some_ne_none value)
      · rw [find?_cons _ _ last, find?_cons _ _ last]
        rw [find?_merge_cons keyed base name last] at found
        split at found
        · exact absurd rfl found
        · exact inductionStep (keyed.entries name) found

/-! ## Merging again -/

/-- Where each entry is taken in already, nothing changes. -/
theorem merge_eq_self
    (takenIn : ∀ entry ∈ update, ∃ value,
      settings.get? entry.1 = some value ∧
        mergeOne (some value) entry.2 = value) :
    settings.merge update = settings := by
  induction update with
  | nil => rfl
  | cons entry rest inductionStep =>
      obtain ⟨value, found, same⟩ := takenIn entry List.mem_cons_self
      rw [merge, found, same, put_of_get? found]
      exact inductionStep fun other member =>
        takenIn other (List.mem_cons_of_mem _ member)

theorem merge_merge_of_mergeOne
    (keyed : IsKeyed update)
    (again : ∀ entry ∈ update, ∀ old,
      mergeOne (some (mergeOne old entry.2)) entry.2 =
        mergeOne old entry.2)
    (base : Settings) :
    (base.merge update).merge update = base.merge update := by
  apply merge_eq_self
  rintro ⟨name, value⟩ member
  refine ⟨mergeOne (base.get? name) value, ?_, again _ member _⟩
  rw [get?_merge keyed, keyed.get?_eq_some_iff.2 member]

/-- A setting that took the place of another one is not changed by taking it
again. -/
theorem mergeOne_mergeOne
    (value : Setting)
    (keyed : value.IsKeyed)
    (old : Option Setting) :
    mergeOne (some (mergeOne old value)) value = mergeOne old value := by
  match value with
  | .table entries =>
      rw [mergeOne_table keyed, mergeOne_table keyed, Setting.entries]
      have again : ∀ entry ∈ entries, ∀ old,
          mergeOne (some (mergeOne old entry.2)) entry.2 =
            mergeOne old entry.2 := fun (name, value) member =>
        have _ : sizeOf value < 1 + sizeOf entries := by
          have less := List.sizeOf_lt_of_mem member
          rw [Prod.mk.sizeOf_spec] at less
          omega
        mergeOne_mergeOne value (IsKeyed.of_mem keyed member)
      rw [merge_merge_of_mergeOne keyed again]
  | .null | .bool _ | .int _ | .real _ | .text _ | .time _ | .list _ => rfl
termination_by sizeOf value

/--
Whatever settings are laid over others: a setting of theirs that is no table
is found at its path; a setting of the others is found at its path if they
have none there, and if what they have on the way there are tables; there is
nothing at any other path; and laying them over the result once more changes
nothing.
-/
theorem merge_lays_over
    (base update : Settings)
    (keyed : IsKeyed update) :
    let merged := base.merge update
    (∀ path value, update.find? path = some value →
      value.isTable = false → merged.find? path = some value) ∧
    (∀ path value, base.find? path = some value →
      update.find? path = none →
      (∀ front, front <+: path → ∀ upper,
        update.find? front = some upper → upper.isTable = true) →
      merged.find? path = some value) ∧
    (∀ path, merged.find? path ≠ none →
      base.find? path ≠ none ∨ update.find? path ≠ none) ∧
    merged.merge update = merged := by
  refine ⟨fun path value => find?_merge_of_update keyed,
    fun path value => find?_merge_of_base keyed,
    fun path => find?_ne_none_of_merge keyed, ?_⟩
  exact merge_merge_of_mergeOne keyed
    (fun entry member =>
      mergeOne_mergeOne entry.2 (IsKeyed.of_mem keyed member)) base

/-- Settings that give a width, a number in the place of a table, and a table
in the place of nothing. -/
def narrowSettings : Settings := [
  ("render", .table [("width", .int 72)]),
  ("search", .int 5),
  ("registry", .table [("root", .table [("home", .text "reg")])])]

/-- What is said of the width counts, the other entries beside it and
elsewhere stay, and all that was below the search is gone. -/
theorem merge_lays_over_narrowSettings :
    IsKeyed narrowSettings ∧
      let merged := usual.merge narrowSettings
      merged.find? ["render", "width"] = some (.int 72) ∧
        merged.find? ["registry", "root", "home"] = some (.text "reg") ∧
        merged.find? ["render", "style"] = some (.text "monokai") ∧
        merged.find? ["index"] =
          some (.table [("skip_doc_hidden", .bool true)]) ∧
        merged.find? ["search", "visible_limit"] = none ∧
        merged.merge narrowSettings = merged := by
  have keyed : IsKeyed narrowSettings := by
    simp [narrowSettings, IsKeyed, Setting.IsKeyed]
  obtain ⟨said, kept, -, again⟩ := merge_lays_over usual narrowSettings keyed
  refine ⟨keyed, said _ _ rfl rfl, said _ _ rfl rfl, ?_, ?_, rfl, again⟩
  · refine kept _ _ rfl rfl fun front leads upper upperThere => ?_
    -- The paths on the way are the empty one, that of the table and the whole.
    rcases List.prefix_cons_iff.1 leads with rfl | ⟨rest, rfl, more⟩
    · cases upperThere
    · rcases List.prefix_cons_iff.1 more with rfl | ⟨rest, rfl, below⟩
      · cases upperThere
        rfl
      · rw [List.prefix_nil.1 below] at upperThere
        cases upperThere
  · refine kept _ _ rfl rfl fun front leads upper upperThere => ?_
    rcases List.prefix_cons_iff.1 leads with rfl | ⟨rest, rfl, more⟩
    · cases upperThere
    · rw [List.prefix_nil.1 more] at upperThere
      cases upperThere

end Settings

end CrateShelf
