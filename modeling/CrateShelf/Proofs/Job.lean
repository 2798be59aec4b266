import CrateShelf.Proofs.Outcome
import CrateShelf.World

/-!
# What jobs do

A job is given a world; it leaves another one and has a result, or it ends
with an error.  A job that only asks leaves the world as it was, but for the
log.  What has been said before makes no difference to what a job does.
-/

namespace CrateShelf

/-! ## Worlds -/

/-- Whether two worlds differ at most in what has been said. -/
structure World.IsAlike (first second : World) : Prop where
  files_eq : first.files = second.files
  environment_eq : first.environment = second.environment
  known_eq : first.known? = second.known?
  keywords_eq : first.keywords? = second.keywords?

namespace World.IsAlike

variable {first second third : World}

theorem refl (world : World) : world.IsAlike world := ⟨rfl, rfl, rfl, rfl⟩

theorem symm (alike : first.IsAlike second) : second.IsAlike first :=
  ⟨alike.files_eq.symm, alike.environment_eq.symm, alike.known_eq.symm,
    alike.keywords_eq.symm⟩

theorem trans
    (alike : first.IsAlike second)
    (also : second.IsAlike third) :
    first.IsAlike third :=
  ⟨alike.files_eq.trans also.files_eq,
    alike.environment_eq.trans also.environment_eq,
    alike.known_eq.trans also.known_eq,
    alike.keywords_eq.trans also.keywords_eq⟩

end World.IsAlike

namespace Job

variable {Error Other α β : Type}

/-- The result of a job in a world, and the world that it leaves. -/
def on (job : Job Error α) (world : World) : Except Error α × World :=
  StateT.run (ExceptT.run job) world

@[simp]
theorem on_pure (value : α) (world : World) :
    on (pure value : Job Error α) world = (.ok value, world) := rfl

@[simp]
theorem on_throw (error : Error) (world : World) :
    on (throw error : Job Error α) world = (.error error, world) := rfl

@[simp]
theorem on_get (world : World) :
    on (get : Job Error World) world = (.ok world, world) := rfl

@[simp]
theorem on_modify (change : World → World) (world : World) :
    on (modify change : Job Error Unit) world = (.ok (), change world) := rfl

@[simp]
theorem on_note (entry : LogEntry) (world : World) :
    on (note entry : Job Error Unit) world =
      (.ok (), { world with log := world.log ++ [entry] }) := rfl

@[simp]
theorem on_noteAll (entries : List LogEntry) (world : World) :
    on (noteAll entries : Job Error Unit) world =
      (.ok (), { world with log := world.log ++ entries }) := rfl

@[simp]
theorem on_print (line : String) (world : World) :
    on (print line : Job Error Unit) world =
      (.ok (), { world with printed := world.printed ++ [line] }) := rfl

theorem on_ofExcept
    (convert : Error → Other)
    (result : Except Error α)
    (world : World) :
    on (ofExcept convert result) world =
      (result.mapError convert, world) := by
  cases result with
  | ok value => rfl
  | error error => rfl

/-- A job whose errors are seen otherwise does what it does. -/
theorem on_adapt
    (convert : Error → Other)
    (job : Job Error α)
    (world : World) :
    on (adapt convert job) world =
      ((on job world).1.mapError convert, (on job world).2) := by
  change StateT.run
    (ExceptT.run (ExceptT.mk (Except.mapError convert <$> job))) world = _
  rw [ExceptT.run_mk, StateT.run_map]
  rfl

theorem on_attempt (job : Job Error α) (world : World) :
    on (attempt job : Job Other (Except Error α)) world =
      (.ok (on job world).1, (on job world).2) := rfl

/-- What is done after a job is done in the world that it leaves, unless it
ended with an error. -/
theorem on_bind (job : Job Error α) (next : α → Job Error β) (world : World) :
    on (job >>= next) world =
      match on job world with
      | (.ok value, later) => on (next value) later
      | (.error error, later) => (.error error, later) := by
  change StateT.run (ExceptT.run (job >>= next)) world = _
  rw [ExceptT.run_bind, StateT.run_bind]
  unfold on
  cases StateT.run (ExceptT.run job) world with
  | mk result later =>
      cases result with
      | ok value => rfl
      | error error => rfl

theorem on_bind_ok
    {job : Job Error α}
    {next : α → Job Error β}
    {world later : World}
    {value : α}
    (first : on job world = (.ok value, later)) :
    on (job >>= next) world = on (next value) later := by
  rw [on_bind, first]

theorem on_bind_error
    {job : Job Error α}
    {next : α → Job Error β}
    {world later : World}
    {error : Error}
    (first : on job world = (.error error, later)) :
    on (job >>= next) world = (.error error, later) := by
  rw [on_bind, first]

theorem on_ask
    (blame : DiskFault → Error)
    (question : FileTree → Except DiskFault α)
    (world : World) :
    on (ask blame question) world =
      ((question world.files).mapError blame, world) := by
  unfold ask
  rw [on_bind_ok (on_get world)]
  cases question world.files with
  | ok answer => rfl
  | error fault => rfl

theorem on_change
    (blame : DiskFault → Error)
    (operation : FileTree → Except DiskFault FileTree)
    (world : World) :
    on (change blame operation) world =
      match operation world.files with
      | .ok files => (.ok (), { world with files })
      | .error fault => (.error (blame fault), world) := by
  unfold change
  rw [on_bind, on_ask]
  cases operation world.files with
  | ok files => rfl
  | error fault => rfl

/-! ## Asking -/

/-- A job has a result in a world and leaves everything but the log. -/
def Answers
    (job : Job Error α)
    (world : World)
    (result : Except Error α) : Prop :=
  ∃ log, on job world = (result, { world with log })

theorem answers_pure (value : α) (world : World) :
    Answers (pure value : Job Error α) world (.ok value) :=
  ⟨world.log, rfl⟩

theorem answers_throw (error : Error) (world : World) :
    Answers (throw error : Job Error α) world (.error error) :=
  ⟨world.log, rfl⟩

theorem answers_ask
    (blame : DiskFault → Error)
    (question : FileTree → Except DiskFault α)
    (world : World) :
    Answers (ask blame question) world
      ((question world.files).mapError blame) :=
  ⟨world.log, on_ask blame question world⟩

/-- What is asked after an answer is asked in the same world, but for the
log. -/
theorem Answers.bind
    {job : Job Error α}
    {next : α → Job Error β}
    {world : World}
    {first : Except Error α}
    {second : α → Except Error β}
    (answers : job.Answers world first)
    (then_ : ∀ value log, first = .ok value →
      (next value).Answers { world with log } (second value)) :
    (job >>= next).Answers world (first >>= second) := by
  obtain ⟨log, done⟩ := answers
  cases first with
  | error error => exact ⟨log, on_bind_error done⟩
  | ok value =>
      obtain ⟨later, alsoDone⟩ := then_ value log rfl
      exact ⟨later, (on_bind_ok done).trans alsoDone⟩

/-- A job that starts with a look at the world answers what it does with the
world that it sees. -/
theorem answers_get_bind
    (next : World → Job Error α)
    (world : World)
    (result : Except Error α) :
    (get >>= next).Answers world result ↔
      (next world).Answers world result := by
  unfold Answers
  rw [on_bind_ok (on_get world)]

/-- Asking item by item answers as reading item by item does. -/
theorem answers_mapM
    {items : List α}
    {step : α → Job Error β}
    {read : α → Except Error β}
    (world : World)
    (each : ∀ item ∈ items, ∀ log,
      (step item).Answers { world with log } (read item)) :
    Answers (items.mapM step) world (items.mapM read) := by
  induction items generalizing world with
  | nil => exact answers_pure [] world
  | cons item items inductionStep =>
      rw [List.forall_mem_cons] at each
      rw [List.mapM_cons, List.mapM_cons]
      apply Answers.bind (each.1 world.log)
      intro value log _
      apply Answers.bind
      · exact inductionStep { world with log } fun other member _ =>
          each.2 other member _
      · intro values _ _
        exact answers_pure (value :: values) _

/-! ## Working -/

/-- Whether a job ends with a result and a world for which something holds,
or with an error for which something else does. -/
def Ends
    (job : Job Error α)
    (world : World)
    (Done : α → World → Prop)
    (Failed : Error → Prop) : Prop :=
  match on job world with
  | (.ok value, later) => Done value later
  | (.error error, _) => Failed error

variable
    {world : World}
    {Done : α → World → Prop}
    {Failed : Error → Prop}

theorem ends_change
    {blame : DiskFault → Error}
    {operation : FileTree → Except DiskFault FileTree}
    {Done : Unit → World → Prop}
    (done : ∀ files, operation world.files = .ok files →
      Done () { world with files })
    (failed : ∀ fault, Failed (blame fault)) :
    Ends (change blame operation) world Done Failed := by
  unfold Ends
  rw [on_change]
  cases changed : operation world.files with
  | ok files => exact done files changed
  | error fault => exact failed fault

theorem Ends.mono
    {job : Job Error α}
    {Also : α → World → Prop}
    (ends : job.Ends world Done Failed)
    (weaker : ∀ value later, Done value later → Also value later) :
    job.Ends world Also Failed := by
  unfold Ends at ends ⊢
  split
  · rename_i value later ended
    rw [ended] at ends
    exact weaker value later ends
  · rename_i error later ended
    rw [ended] at ends
    exact ends

theorem Ends.of_failed
    {job : Job Error α}
    {Also : Error → Prop}
    (ends : job.Ends world Done Failed)
    (weaker : ∀ error, Failed error → Also error) :
    job.Ends world Done Also := by
  unfold Ends at ends ⊢
  split
  · rename_i value later ended
    rw [ended] at ends
    exact ends
  · rename_i error later ended
    rw [ended] at ends
    exact weaker error ends

/-- One job after another. -/
theorem Ends.bind
    {job : Job Error α}
    {next : α → Job Error β}
    {Middle : α → World → Prop}
    {Done : β → World → Prop}
    (first : job.Ends world Middle Failed)
    (then_ : ∀ value later, Middle value later →
      (next value).Ends later Done Failed) :
    (job >>= next).Ends world Done Failed := by
  unfold Ends at first ⊢
  rw [on_bind]
  split at first
  · rename_i value later ended
    exact then_ value later first
  · exact first

/-- What is done after a job that is known to end well. -/
theorem ends_bind_of_ok
    {job : Job Error β}
    {next : β → Job Error α}
    {later : World}
    {value : β}
    (first : on job world = (.ok value, later))
    (then_ : (next value).Ends later Done Failed) :
    (job >>= next).Ends world Done Failed := by
  unfold Ends
  rw [on_bind_ok first]
  exact then_

/-- What would be done after an error is not done. -/
theorem ends_bind_of_error
    {job : Job Error β}
    {next : β → Job Error α}
    {later : World}
    {error : Error}
    (first : on job world = (.error error, later))
    (failed : Failed error) :
    (job >>= next).Ends world Done Failed := by
  unfold Ends
  rw [on_bind_error first]
  exact failed

/-- What is done after something is said is done in a world that is alike. -/
theorem ends_note_bind
    {entry : LogEntry}
    {next : Unit → Job Error α}
    (then_ : ∀ later, world.IsAlike later →
      (next ()).Ends later Done Failed) :
    (note entry >>= next).Ends world Done Failed :=
  ends_bind_of_ok (on_note entry world) (then_ _ ⟨rfl, rfl, rfl, rfl⟩)

theorem ends_print_bind
    {line : String}
    {next : Unit → Job Error α}
    (then_ : ∀ later, world.IsAlike later →
      (next ()).Ends later Done Failed) :
    (print line >>= next).Ends world Done Failed :=
  ends_bind_of_ok (on_print line world) (then_ _ ⟨rfl, rfl, rfl, rfl⟩)

/-- What is done after a question is done in the same world. -/
theorem ends_ask_bind
    {blame : DiskFault → Error}
    {question : FileTree → Except DiskFault β}
    {next : β → Job Error α}
    (then_ : ∀ answer, question world.files = .ok answer →
      (next answer).Ends world Done Failed)
    (failed : ∀ fault, Failed (blame fault)) :
    (ask blame question >>= next).Ends world Done Failed := by
  unfold Ends
  rw [on_bind, on_ask]
  cases asked : question world.files with
  | ok answer => exact then_ answer asked
  | error fault => exact failed fault

/-- What is done after a change is done with the changed files. -/
theorem ends_change_bind
    {blame : DiskFault → Error}
    {operation : FileTree → Except DiskFault FileTree}
    {next : Unit → Job Error α}
    (then_ : ∀ files, operation world.files = .ok files →
      (next ()).Ends { world with files } Done Failed)
    (failed : ∀ fault, Failed (blame fault)) :
    (change blame operation >>= next).Ends world Done Failed := by
  unfold Ends
  rw [on_bind, on_change]
  cases changed : operation world.files with
  | ok files => exact then_ files changed
  | error fault => exact failed fault

/-- What each of several jobs in a row preserves. -/
theorem ends_forM
    {step : α → Job Error PUnit}
    (Holds : List α → World → Prop)
    (items : List α)
    (each : ∀ before item after world,
      before ++ item :: after = items →
        Holds before world →
          (step item).Ends world
            (fun _ later => Holds (before ++ [item]) later) Failed)
    (holds : Holds [] world) :
    (items.forM step).Ends world (fun _ later => Holds items later)
      Failed := by
  have rest :
      ∀ after before world,
        before ++ after = items →
          Holds before world →
            (after.forM step).Ends world (fun _ later => Holds items later)
              Failed := by
    intro after
    induction after with
    | nil =>
        intro before world whole held
        rw [List.append_nil] at whole
        rw [whole] at held
        exact held
    | cons item after inductionStep =>
        intro before world whole held
        change Ends (step item >>= fun _ => after.forM step) world _ _
        apply (each before item after world whole held).bind
        intro _ later alsoHeld
        apply inductionStep (before ++ [item]) later _ alsoHeld
        rw [List.append_assoc]
        exact whole
  exact rest items [] world rfl holds

/-! ## Maintaining -/

section Maintains

/-- Whether what holds of the world before a job holds after it, however the
job ends. -/
def Maintains (job : Job Error α) (Holds : World → Prop) : Prop :=
  ∀ world, Holds world → Holds (on job world).2

variable {Holds : World → Prop}

theorem maintains_pure (value : α) :
    Maintains (pure value : Job Error α) Holds :=
  fun _ holds => holds

/-- What would be done after an error is not done. -/
theorem maintains_throw_bind (error : Error) (next : α → Job Error β) :
    Maintains (throw error >>= next) Holds :=
  fun _ holds => holds

theorem maintains_modify
    {change : World → World}
    (kept : ∀ world, Holds world → Holds (change world)) :
    Maintains (modify change : Job Error Unit) Holds :=
  kept

/-- A job that only asks maintains what does not depend on the log. -/
theorem maintains_of_answers
    {job : Job Error α}
    (kept : ∀ world log, Holds world → Holds { world with log })
    (answers : ∀ world, ∃ result, job.Answers world result) :
    job.Maintains Holds := by
  intro world holds
  rcases answers world with ⟨result, log, done⟩
  rw [done]
  exact kept world log holds

theorem maintains_change
    {blame : DiskFault → Error}
    {operation : FileTree → Except DiskFault FileTree}
    (kept : ∀ world files, operation world.files = .ok files →
      Holds world → Holds { world with files }) :
    Maintains (change blame operation) Holds := by
  intro world holds
  rw [on_change]
  cases changed : operation world.files with
  | ok files => exact kept world files changed holds
  | error fault => exact holds

/-- One job after another. -/
theorem Maintains.bind
    {job : Job Error α}
    {next : α → Job Error β}
    (first : job.Maintains Holds)
    (then_ : ∀ value, (next value).Maintains Holds) :
    (job >>= next).Maintains Holds := by
  intro world holds
  have between := first world holds
  rw [on_bind]
  split
  · rename_i value later ended
    rw [ended] at between
    exact then_ value later between
  · rename_i error later ended
    rw [ended] at between
    exact between

theorem maintains_forM
    {step : α → Job Error PUnit}
    {items : List α}
    (each : ∀ item ∈ items, (step item).Maintains Holds) :
    (items.forM step).Maintains Holds := by
  induction items with
  | nil => exact maintains_pure PUnit.unit
  | cons item items inductionStep =>
      rw [List.forall_mem_cons] at each
      exact each.1.bind fun _ => inductionStep each.2

end Maintains

/-! ## Preserving -/

/-- Whether what holds of the files before a job holds after it, however the
job ends. -/
def Preserves (job : Job Error α) (Holds : FileTree → Prop) : Prop :=
  ∀ world, Holds world.files → Holds (on job world).2.files

variable {Holds : FileTree → Prop}

theorem preserves_pure (value : α) :
    Preserves (pure value : Job Error α) Holds :=
  maintains_pure value

/-- What would be done after an error is not done. -/
theorem preserves_throw_bind (error : Error) (next : α → Job Error β) :
    Preserves (throw error >>= next) Holds :=
  maintains_throw_bind error next

theorem preserves_note (entry : LogEntry) :
    Preserves (note entry : Job Error Unit) Holds :=
  maintains_modify fun _ holds => holds

theorem preserves_noteAll (entries : List LogEntry) :
    Preserves (noteAll entries : Job Error Unit) Holds :=
  maintains_modify fun _ holds => holds

/-- A job that only asks preserves everything. -/
theorem preserves_of_answers
    {job : Job Error α}
    (answers : ∀ world, ∃ result, job.Answers world result) :
    job.Preserves Holds :=
  maintains_of_answers (fun _ _ holds => holds) answers

theorem preserves_ask
    (blame : DiskFault → Error)
    (question : FileTree → Except DiskFault α) :
    Preserves (ask blame question) Holds :=
  preserves_of_answers fun world => ⟨_, answers_ask blame question world⟩

theorem preserves_change
    {blame : DiskFault → Error}
    {operation : FileTree → Except DiskFault FileTree}
    (kept : ∀ files later, operation files = .ok later →
      Holds files → Holds later) :
    Preserves (change blame operation) Holds :=
  maintains_change fun world => kept world.files

/-- One job after another. -/
theorem Preserves.bind
    {job : Job Error α}
    {next : α → Job Error β}
    (first : job.Preserves Holds)
    (then_ : ∀ value, (next value).Preserves Holds) :
    (job >>= next).Preserves Holds :=
  Maintains.bind first then_

theorem preserves_forM
    {step : α → Job Error PUnit}
    {items : List α}
    (each : ∀ item ∈ items, (step item).Preserves Holds) :
    (items.forM step).Preserves Holds :=
  maintains_forM each

/-! ## Talking -/

/-- Whether a job does the same whatever has been said before. -/
def IsDeaf (job : Job Error α) : Prop :=
  ∀ first second : World, first.IsAlike second →
    (on job first).1 = (on job second).1 ∧
      (on job first).2.IsAlike (on job second).2

theorem IsDeaf.exists_on
    {job : Job Error α}
    {first second later : World}
    {result : Except Error α}
    (deaf : job.IsDeaf)
    (alike : first.IsAlike second)
    (done : on job first = (result, later)) :
    ∃ other, on job second = (result, other) ∧ later.IsAlike other := by
  rcases deaf first second alike with ⟨same, alsoAlike⟩
  rw [done] at same alsoAlike
  exact ⟨(on job second).2, Prod.ext same.symm rfl, alsoAlike⟩

theorem isDeaf_pure (value : α) : IsDeaf (pure value : Job Error α) :=
  fun _ _ alike => ⟨rfl, alike⟩

theorem isDeaf_throw_bind (error : Error) (next : α → Job Error β) :
    IsDeaf (throw error >>= next) :=
  fun _ _ alike => ⟨rfl, alike⟩

theorem isDeaf_note (entry : LogEntry) :
    IsDeaf (note entry : Job Error Unit) :=
  fun _ _ alike => ⟨rfl, alike.files_eq, alike.environment_eq, alike.known_eq,
    alike.keywords_eq⟩

theorem isDeaf_noteAll (entries : List LogEntry) :
    IsDeaf (noteAll entries : Job Error Unit) :=
  fun _ _ alike => ⟨rfl, alike.files_eq, alike.environment_eq, alike.known_eq,
    alike.keywords_eq⟩

theorem isDeaf_remember (locations : List Location) :
    IsDeaf (modify fun world : World =>
      { world with known? := some locations, keywords? := none } :
        Job Error Unit) :=
  fun _ _ alike => ⟨rfl, alike.files_eq, alike.environment_eq, rfl, rfl⟩

theorem isDeaf_ask
    (blame : DiskFault → Error)
    (question : FileTree → Except DiskFault α) :
    IsDeaf (ask blame question) := by
  intro first second alike
  rw [on_ask, on_ask, alike.files_eq]
  exact ⟨rfl, alike⟩

theorem isDeaf_change
    (blame : DiskFault → Error)
    (operation : FileTree → Except DiskFault FileTree) :
    IsDeaf (change blame operation) := by
  intro first second alike
  rw [on_change, on_change, alike.files_eq]
  cases operation second.files with
  | ok files =>
      exact ⟨rfl, rfl, alike.environment_eq, alike.known_eq,
        alike.keywords_eq⟩
  | error fault => exact ⟨rfl, alike⟩

/-- One job after another. -/
theorem IsDeaf.bind
    {job : Job Error α}
    {next : α → Job Error β}
    (deaf : job.IsDeaf)
    (then_ : ∀ value, (next value).IsDeaf) :
    (job >>= next).IsDeaf := by
  intro first second alike
  rcases deaf first second alike with ⟨same, alsoAlike⟩
  rw [on_bind, on_bind]
  cases ends : on job first with
  | mk result middle =>
      cases alsoEnds : on job second with
      | mk other later =>
          rw [ends, alsoEnds] at same alsoAlike
          cases same
          cases result with
          | ok value => exact then_ value middle later alsoAlike
          | error error => exact ⟨rfl, alsoAlike⟩

/-- A job that only asks about files does not listen. -/
theorem isDeaf_of_answers
    {job : Job Error α}
    {read : FileTree → Except Error α}
    (answers : ∀ world, job.Answers world (read world.files)) :
    job.IsDeaf := by
  intro first second alike
  rcases answers first with ⟨log, done⟩
  rcases answers second with ⟨alsoLog, alsoDone⟩
  rw [done, alsoDone, alike.files_eq]
  exact ⟨rfl, rfl, alike.environment_eq, alike.known_eq, alike.keywords_eq⟩

theorem IsDeaf.adapt
    {job : Job Error α}
    (deaf : job.IsDeaf)
    (convert : Error → Other) :
    (Job.adapt convert job).IsDeaf := by
  intro first second alike
  rcases deaf first second alike with ⟨same, alsoAlike⟩
  rw [on_adapt, on_adapt, same]
  exact ⟨rfl, alsoAlike⟩

theorem isDeaf_forM
    {step : α → Job Error PUnit}
    {items : List α}
    (each : ∀ item, (step item).IsDeaf) :
    IsDeaf (items.forM step) := by
  induction items with
  | nil => exact isDeaf_pure PUnit.unit
  | cons item items inductionStep =>
      exact (each item).bind fun _ => inductionStep

end Job

end CrateShelf
