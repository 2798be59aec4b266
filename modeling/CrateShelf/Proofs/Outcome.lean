/-!
# Results and errors

How results that may be errors are put together: a step after an error never
happens, and a list of checks passes exactly when each of them does.
-/

namespace CrateShelf

variable {Error α β : Type}

@[simp]
theorem ok_bind (value : α) (next : α → Except Error β) :
    (Except.ok value >>= next) = next value := rfl

@[simp]
theorem error_bind (error : Error) (next : α → Except Error β) :
    (Except.error error >>= next) = Except.error error := rfl

@[simp]
theorem pure_eq_ok (value : α) :
    (pure value : Except Error α) = .ok value := rfl

@[simp]
theorem throw_eq_error (error : Error) :
    (throw error : Except Error α) = .error error := rfl

/-- Two steps succeed when both do. -/
theorem bind_eq_ok_iff
    {result : Except Error α}
    {next : α → Except Error β}
    {value : β} :
    (result >>= next) = .ok value ↔
      ∃ first, result = .ok first ∧ next first = .ok value := by
  cases result with
  | error error => simp
  | ok first => simp

/-- Two steps fail when one does, the second only after the first. -/
theorem bind_eq_error_iff
    {result : Except Error α}
    {next : α → Except Error β}
    {error : Error} :
    (result >>= next) = .error error ↔
      result = .error error ∨
        ∃ first, result = .ok first ∧ next first = .error error := by
  cases result with
  | error other => simp
  | ok first => simp

/-- Wording an error differently does not touch a success. -/
theorem mapError_eq_ok_iff
    {Other : Type}
    {result : Except Error α}
    {change : Error → Other}
    {value : α} :
    result.mapError change = .ok value ↔ result = .ok value := by
  cases result with
  | ok first =>
      constructor
      all_goals
        intro same
        cases same
        rfl
  | error error =>
      constructor
      all_goals
        intro same
        cases same

theorem mapError_eq_error_iff
    {Other : Type}
    {result : Except Error α}
    {change : Error → Other}
    {error : Other} :
    result.mapError change = .error error ↔
      ∃ first, result = .error first ∧ change first = error := by
  cases result with
  | ok value =>
      constructor
      · intro same
        cases same
      · rintro ⟨first, same, -⟩
        cases same
  | error first =>
      constructor
      · intro same
        cases same
        exact ⟨first, rfl, rfl⟩
      · rintro ⟨_, same, rfl⟩
        cases same
        rfl

/-- A list of checks passes exactly when every one of them does. -/
theorem forM_eq_ok_iff
    {items : List α}
    {check : α → Except Error Unit} :
    items.forM check = .ok () ↔ ∀ item ∈ items, check item = .ok () := by
  induction items with
  | nil => simp
  | cons item items inductionStep =>
      simp only [List.forM_eq_forM] at inductionStep
      simp only [List.forM_eq_forM, List.forM_cons, List.forall_mem_cons,
        bind_eq_ok_iff, inductionStep]
      constructor
      · rintro ⟨_, passed, others⟩
        exact ⟨passed, others⟩
      · rintro ⟨passed, others⟩
        exact ⟨(), passed, others⟩

/-- Reading item by item what is read as something gives all that. -/
theorem mapM_eq_ok_map
    {items : List α}
    {read : α → Except Error β}
    (value : α → β)
    (each : ∀ item ∈ items, read item = .ok (value item)) :
    items.mapM read = .ok (items.map value) := by
  induction items with
  | nil => rfl
  | cons item items inductionStep =>
      rw [List.forall_mem_cons] at each
      simp only [List.map_cons, List.mapM_cons, each.1,
        inductionStep each.2, ok_bind, pure_eq_ok]

/-- Reading what was written item by item gives the items back. -/
theorem mapM_map_eq_ok
    {items : List α}
    (write : α → β)
    (read : β → Except Error α)
    (each : ∀ item ∈ items, read (write item) = .ok item) :
    (items.map write).mapM read = .ok items := by
  have all : items.mapM (read ∘ write) = .ok (items.map id) :=
    mapM_eq_ok_map id each
  rwa [List.map_id, ← List.mapM_map] at all

/-- Reading item by item fails at the first item that cannot be read. -/
theorem mapM_eq_error_iff
    {items : List α}
    {read : α → Except Error β}
    {error : Error} :
    items.mapM read = .error error ↔
      ∃ before item after,
        items = before ++ item :: after ∧
          (∀ earlier ∈ before, ∃ value, read earlier = .ok value) ∧
          read item = .error error := by
  induction items with
  | nil => simp
  | cons first items inductionStep =>
      simp only [List.mapM_cons, bind_eq_error_iff, pure_eq_ok,
        reduceCtorEq, and_false, exists_false, or_false, inductionStep]
      constructor
      · rintro (failed | ⟨value, read, before, item, after, rfl, all, failed⟩)
        · exact ⟨[], first, items, rfl, by simp, failed⟩
        · refine ⟨first :: before, item, after, rfl, ?_, failed⟩
          exact List.forall_mem_cons.2 ⟨⟨value, read⟩, all⟩
      · rintro ⟨before, item, after, shape, all, failed⟩
        cases before with
        | nil =>
            cases shape
            exact Or.inl failed
        | cons other before =>
            cases shape
            rw [List.forall_mem_cons] at all
            obtain ⟨⟨value, read⟩, all⟩ := all
            exact Or.inr ⟨value, read, before, item, after, rfl, all, failed⟩

/-- Reading item by item succeeds exactly when every item can be read. -/
theorem exists_mapM_eq_ok_iff
    {items : List α}
    {read : α → Except Error β} :
    (∃ values, items.mapM read = .ok values) ↔
      ∀ item ∈ items, ∃ value, read item = .ok value := by
  induction items with
  | nil => simp
  | cons first items inductionStep =>
      simp only [List.mapM_cons, bind_eq_ok_iff, pure_eq_ok,
        List.forall_mem_cons, ← inductionStep]
      constructor
      · rintro ⟨_, value, read, values, others, _⟩
        exact ⟨⟨value, read⟩, values, others⟩
      · rintro ⟨⟨value, read⟩, values, others⟩
        exact ⟨value :: values, value, read, values, others, rfl⟩

/-- Going through items and one more succeeds when the last step does after
the others. -/
theorem foldlM_concat_eq_ok_iff
    {step : β → α → Except Error β}
    {start value : β}
    {items : List α}
    {item : α} :
    (items ++ [item]).foldlM step start = .ok value ↔
      ∃ earlier,
        items.foldlM step start = .ok earlier ∧
          step earlier item = .ok value := by
  simp only [List.foldlM_append, List.foldlM_cons, List.foldlM_nil,
    bind_pure, bind_eq_ok_iff]

theorem toOption_eq_some_iff
    {result : Except Error α}
    {value : α} :
    result.toOption = some value ↔ result = .ok value := by
  cases result with
  | error error => simp [Except.toOption]
  | ok other => simp [Except.toOption]

end CrateShelf
