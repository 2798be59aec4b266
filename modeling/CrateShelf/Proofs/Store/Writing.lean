import CrateShelf.Proofs.Store.Survey

/-!
# Writing what a store holds

When the records of a crate are written, the disk shows them in the place of
those that the crate had, and the list of all records is made to say so.

Main statement: writing the records of a crate takes a disk that shows a
shelf to one that shows it with these records, or ends with an error of the
disk or of what cannot be packed.
-/

namespace CrateShelf

/-- Whether an error comes from the disk, or from what cannot be packed. -/
def StoreError.isExternal : StoreError → Bool
  | unwritable _ _ | unwritableIndex _ _ | disk _ | unpackable _ => true
  | _ => false

namespace Store

theorem isExternal_ofFault
    {foreseen : DiskFault → StoreError}
    (external : ∀ fault, (foreseen fault).isExternal = true)
    (fault : DiskFault) :
    (StoreError.ofFault foreseen fault).isExternal = true := by
  unfold StoreError.ofFault
  split
  · rfl
  · exact external fault

variable
    {store : Store}
    {site : Site}
    {start : FileTree}
    {shelf : Shelf}
    {index? : Option Bytes}
    {crate : CrateId}
    {records : List Record}
    {world : World}

/-! ## Replacing the files of a crate -/

/-- Whether the files of a crate are removed and all others as they were. -/
structure Cleared
    (site : Site)
    (start files : FileTree)
    (name : String)
    (later : FileTree) : Prop where
  frame : site.Frame start later
  content : ∀ steps,
    site.content? later steps =
      if [name] <+: steps then none else site.content? files steps

/-- The directory of a crate is removed if it is there, before something else
is done. -/
theorem ends_clear_bind
    (free : site.IsFree start)
    {blame : DiskFault → StoreError}
    (external : ∀ fault, (blame fault).isExternal = true)
    {name : String}
    (plain : ".." ∉ [name])
    (frame : site.Frame start world.files)
    {Result : Type}
    {next : Job StoreError Result}
    {Done : Result → World → Prop}
    (then_ : ∀ files,
      Cleared site start world.files name files →
        next.Ends { world with files } Done (·.isExternal = true)) :
    Job.Ends
      (Job.ask blame (·.isTaken (site.path [name])) >>= fun taken =>
        if taken = true then
          Job.change blame (·.removeTree (site.path [name])) >>= fun _ => next
        else next)
      world Done (·.isExternal = true) := by
  refine Job.ends_ask_bind ?_ external
  intro taken answer
  cases taken with
  | true =>
      refine Job.ends_change_bind ?_ external
      intro files removed
      obtain ⟨framed, content⟩ :=
        frame.removeTree free plain (by simp) removed
      exact then_ files ⟨framed, content⟩
  | false =>
      apply then_ world.files
      refine ⟨frame, ?_⟩
      intro steps
      split
      · rename_i inside
        refine frame.content?_of_not_isTaken free plain ?_ inside
        rw [answer]
        simp
      · rfl

/-- The file of a place that was written last under a path. -/
def contentIn? (placed : List Placed) (steps : List String) : Option Bytes :=
  (placed.reverse.find? fun known =>
    known.location.route = steps).map (·.content)

/-- Whether the files of places are written, those of the last ones last, and
all others as they were. -/
structure Written
    (site : Site)
    (start files : FileTree)
    (placed : List Placed)
    (later : FileTree) : Prop where
  frame : site.Frame start later
  content : ∀ steps,
    site.content? later steps =
      (contentIn? placed steps).or (site.content? files steps)

theorem Written.place
    (free : site.IsFree start)
    {files middle later : FileTree}
    {before : List Placed}
    {placed : Placed}
    (written : Written site start files before middle)
    (done :
      middle.place (site.path placed.location.route) placed.content =
        .ok later) :
    Written site start files (before ++ [placed]) later := by
  have below : placed.location.route ≠ [] := by
    simp [Location.route]
  obtain ⟨final, changed⟩ :=
    written.frame.place free placed.location.plain_route below done
  refine ⟨final, ?_⟩
  intro steps
  rw [changed, written.content, contentIn?, contentIn?, List.reverse_append,
    List.reverse_singleton, List.singleton_append, List.find?_cons]
  by_cases same : placed.location.route = steps
  · simp [same]
  · have different : ¬ steps = placed.location.route :=
      fun equal => same equal.symm
    simp [same, different]

/-- Writing the files of places one after the other. -/
theorem ends_writePlaced
    (free : site.IsFree start)
    (root : store.root = site.path [])
    {blame : DiskFault → StoreError}
    (external : ∀ fault, (blame fault).isExternal = true)
    (placed : List Placed)
    (filed : ∀ known ∈ placed, known.location.IsFiled)
    (frame : site.Frame start world.files) :
    Job.Ends (placed.forM (store.writePlaced blame)) world
      (fun _ later => Written site start world.files placed later.files)
      (·.isExternal = true) := by
  apply Job.ends_forM
    (fun before later => Written site start world.files before later.files)
  · intro before known after middle whole written
    have inPlaced : known ∈ placed := by
      rw [← whole]
      simp
    rw [writePlaced, recordFile_eq root (filed known inPlaced)]
    refine Job.ends_change ?_ external
    intro files done
    exact written.place free done
  · exact ⟨frame, fun steps => rfl⟩

/-- What is written under a path is the content of its only place. -/
theorem contentIn?_place
    (proper : AreProper crate records)
    {steps : List String}
    {content : Bytes} :
    contentIn? (place records).1 steps = some content ↔
      ∃ placed ∈ (place records).1,
        placed.location.route = steps ∧ placed.content = content := by
  unfold contentIn?
  rw [Option.map_eq_some_iff]
  constructor
  · rintro ⟨placed, found, rfl⟩
    have member := List.mem_of_find?_eq_some found
    have route := List.find?_some found
    exact ⟨placed, List.mem_reverse.1 member, by simpa using route, rfl⟩
  · rintro ⟨placed, member, rfl, rfl⟩
    cases found :
        (place records).1.reverse.find? fun known =>
          known.location.route = placed.location.route with
    | none =>
        rw [List.find?_eq_none] at found
        exact absurd (decide_eq_true rfl)
          (found placed (List.mem_reverse.2 member))
    | some known =>
        have alsoMember :=
          List.mem_reverse.1 (List.mem_of_find?_eq_some found)
        have route : known.location.route = placed.location.route := by
          simpa using List.find?_some found
        have same :=
          List.inj_on_of_nodup_map proper.nodup_route alsoMember member route
        exact ⟨known, rfl, congrArg Placed.content same⟩

/-- A file that is there after the files of a crate are replaced is a new one,
or was there outside of the directory of the crate. -/
theorem content?_eq_some_iff_of_written
    {files later : FileTree}
    (proper : AreProper crate records)
    (written : ∀ steps,
      site.content? later steps =
        (contentIn? (place records).1 steps).or
          (if [crate.dirName] <+: steps then none
            else site.content? files steps))
    (steps : List String)
    (content : Bytes) :
    site.content? later steps = some content ↔
      (∃ placed ∈ (place records).1,
        placed.location.route = steps ∧ placed.content = content) ∨
        (¬ [crate.dirName] <+: steps ∧
          site.content? files steps = some content) := by
  rw [written, Option.or_eq_some_iff, contentIn?_place proper]
  by_cases inside : [crate.dirName] <+: steps
  · simp [inside]
  · simp only [inside, if_false, not_false_eq_true, true_and]
    constructor
    · rintro (new | ⟨_, old⟩)
      · exact Or.inl new
      · exact Or.inr old
    · rintro (new | old)
      · exact Or.inl new
      · refine Or.inr ⟨?_, old⟩
        rw [Option.eq_none_iff_forall_ne_some]
        intro other found
        obtain ⟨placed, member, rfl, _⟩ :=
          (contentIn?_place proper).1 found
        apply inside
        rw [Location.route, proper.crate_eq member]
        exact List.prefix_append [crate.dirName] _

/-- After the files of a crate are replaced, the disk shows its new
records. -/
theorem Shows.update
    {files later : FileTree}
    (shows : Shows site start files shelf index?)
    (sound : shelf.IsSound)
    (proper : AreProper crate records)
    (apart : ∀ other, shelf other ≠ [] →
      other.dirName = crate.dirName → other = crate)
    (frame : site.Frame start later)
    (written : ∀ steps,
      site.content? later steps =
        (contentIn? (place records).1 steps).or
          (if [crate.dirName] <+: steps then none
            else site.content? files steps)) :
    Shows site start later (Function.update shelf crate records) index? := by
  have present := content?_eq_some_iff_of_written proper written
  have indexOutside : ¬ [crate.dirName] <+: ["store"] := by
    rintro ⟨names, same⟩
    exact crate.dirName_ne (by decide) (List.cons.inj same).1
  constructor
  · exact frame
  · apply Option.ext
    intro content
    rw [present, ← shows.index]
    constructor
    · rintro (⟨placed, _, route, _⟩ | ⟨_, old⟩)
      · exact absurd route (placed.location.route_ne_singleton "store")
      · exact old
    · intro old
      exact Or.inr ⟨indexOutside, old⟩
  · intro steps content notIndex
    rw [present, shows.others steps content notIndex]
    simp only [Shelf.has_update_iff sound proper]
    constructor
    · rintro (⟨placed, new, route, same⟩ |
        ⟨outside, placed, has, rfl, same⟩)
      · exact ⟨placed, Or.inl new, route, same⟩
      · refine ⟨placed, Or.inr ⟨has, ?_⟩, rfl, same⟩
        rintro rfl
        exact outside (List.prefix_append [placed.location.crate.dirName] _)
    · rintro ⟨placed, new | ⟨has, different⟩, rfl, same⟩
      · exact Or.inl ⟨placed, new, rfl, same⟩
      · refine Or.inr ⟨?_, placed, has, rfl, same⟩
        rintro ⟨names, spelled⟩
        have directories := (List.cons.inj spelled).1
        exact different
          (apart _ (Shelf.ne_nil_of_mem_place (sound.mem_of_has has))
            directories.symm)

/-! ## What there was -/

/-- Whether a list says where the records of all crates but one are. -/
def Recalls
    (shelf : Shelf)
    (crate : CrateId)
    (previous : List Location) : Prop :=
  previous.Nodup ∧
    ∀ location,
      location.crate ≠ crate →
        (location ∈ previous ↔
          ∃ placed, shelf.Has placed ∧ placed.location = location)

variable [Depths]

/-- The records are asked where they are, or the disk is at fault. -/
theorem Shows.survey_cases
    {files : FileTree}
    (shows : Shows site start files shelf index?)
    (free : site.IsFree start)
    (sound : shelf.IsSound) :
    (∃ locations,
      survey files (site.path []) = .ok locations ∧
        shelf.IsListedBy locations) ∨
      ∃ fault, survey files (site.path []) = .error (.disk fault) := by
  cases there : files.isDirectory (site.path []) with
  | error fault =>
      refine Or.inr ⟨fault, ?_⟩
      simp only [survey, there, Except.mapError, error_bind]
  | ok isDirectory =>
      refine Or.inl ?_
      cases isDirectory with
      | true =>
          have standing :=
            (shows.frame.isDirectory_eq_true_iff free (by simp)).1 there
          rw [List.append_nil] at standing
          have found := shows.isListedBy_locationsBelow free sound standing
          refine ⟨_, shows.survey_eq free sound standing found, ?_⟩
          constructor
          · exact (Location.sort_perm _).nodup_iff.2 found.nodup
          · intro location
            rw [(Location.sort_perm _).mem_iff, found.mem_iff]
      | false =>
          refine ⟨[], ?_, shows.isListedBy_nil ?_⟩
          · simp only [survey, there, Except.mapError, ok_bind,
              Bool.false_eq_true, if_false, pure_eq_ok]
          · intro standing
            have alsoThere : files.isDirectory (site.path []) = .ok true := by
              rw [shows.frame.isDirectory_eq_true_iff free (by simp),
                List.append_nil]
              exact standing
            rw [alsoThere] at there
            cases there

/-- Where there is no list of all records, the records are asked, or the disk
is at fault. -/
theorem Shows.readable_of_none
    {files : FileTree}
    (shows : Shows site start files shelf none)
    (free : site.IsFree start)
    (root : store.root = site.path [])
    (sound : shelf.IsSound) :
    (∃ locations,
      store.readable files = .ok locations ∧ shelf.IsListedBy locations) ∨
      ∃ fault, store.readable files = .error (.disk fault) := by
  unfold readable listed
  rw [indexFile_eq root, root]
  cases asked : files.isFile (site.path ["store"]) with
  | error fault => exact Or.inr ⟨fault, rfl⟩
  | ok isFile =>
      cases isFile with
      | true =>
          obtain ⟨content, present⟩ :=
            (shows.frame.isFile_eq_true_iff free (by decide)).1 asked
          rw [shows.index] at present
          cases present
      | false => exact shows.survey_cases free sound

/-! ## Settled disks -/

/-- Whether a world has a disk that shows a shelf, a list of all records that
says the same, and the locations in mind. -/
structure Settled
    (site : Site)
    (start : FileTree)
    (shelf : Shelf)
    (locations : List Location)
    (world : World) : Prop where
  sound : shelf.IsSound
  listed : shelf.IsListedBy locations
  shows :
    Shows site start world.files shelf (some (Record.encodeIndex locations))
  fits : (Record.indexValue locations).fits = true
  known : world.known? = some (Location.sort locations)

/-- Whether nothing has been stored yet, or what has been is settled. -/
def IsReady
    (site : Site)
    (start : FileTree)
    (shelf : Shelf)
    (world : World) : Prop :=
  (shelf = fun _ => []) ∧ Shows site start world.files shelf none ∨
    ∃ locations, Settled site start shelf locations world

omit [Depths] in
/-- The list of all records is written, and the new list takes the place of
the old one. -/
theorem ends_writeIndex
    (free : site.IsFree start)
    (root : store.root = site.path [])
    (sound : shelf.IsSound)
    {locations : List Location}
    (listed : shelf.IsListedBy locations)
    (shows : Shows site start world.files shelf index?) :
    (store.writeIndex locations).Ends world
      (fun _ later => Settled site start shelf locations later)
      (·.isExternal = true) := by
  have external :
      ∀ fault,
        (StoreError.ofFault (.unwritableIndex (site.path ["store"]))
          fault).isExternal = true :=
    isExternal_ofFault fun _ => rfl
  unfold writeIndex
  rw [indexFile_eq root, freshIndexFile_eq root, root]
  refine Job.ends_change_bind ?_ external
  intro files made
  obtain ⟨framed, same, _⟩ :=
    shows.frame.ensureDirectories free (by simp) made
  rw [if_pos (Location.canSort_of_isTextual (sound.isTextual_of_mem listed))]
  dsimp only
  split
  · rfl
  · rename_i packable
    have fits :=
      (Pack.Value.writeError?_eq_none_iff _).1
        (Option.eq_none_iff_forall_ne_some.2 packable)
    refine Job.ends_change_bind ?_ external
    intro fresh wrote
    obtain ⟨freshFramed, written⟩ :=
      framed.write free (by decide) (by simp) wrote
    refine Job.ends_change_bind ?_ external
    intro final renamed
    have present :
        site.content? fresh ["store.tmp"] =
          some (Record.encodeIndex locations) := by
      rw [written, if_pos rfl]
    obtain ⟨finalFramed, moved⟩ :=
      freshFramed.rename free (by decide) present (by decide) (by simp)
        renamed
    refine ⟨sound, listed, ⟨finalFramed, ?_, ?_⟩, fits, rfl⟩
    · exact (moved ["store"]).trans (if_pos rfl)
    · intro steps content notIndex
      rw [← shows.others steps content notIndex, moved, if_neg notIndex,
        written, same]
      split
      · rename_i isFresh
        subst isFresh
        simp only [reduceCtorEq, false_iff]
        intro old
        obtain ⟨placed, _, route, _⟩ :=
          (shows.others _ content notIndex).1 old
        exact placed.location.route_ne_singleton _ route
      · exact Iff.rfl

/-! ## Writing the records of a crate -/

omit [Depths] in
theorem IsReady.isSound
    (ready : IsReady site start shelf world) :
    shelf.IsSound := by
  rcases ready with ⟨rfl, _⟩ | ⟨_, settled⟩
  · constructor
    all_goals simp
  · exact settled.sound

omit [Depths] in
theorem IsReady.exists_shows
    (ready : IsReady site start shelf world) :
    ∃ index?, Shows site start world.files shelf index? := by
  rcases ready with ⟨_, shows⟩ | ⟨_, settled⟩
  · exact ⟨_, shows⟩
  · exact ⟨_, settled.shows⟩

/-- After the files of a crate are replaced, it is still known where the
records of the others are. -/
theorem IsReady.recalls
    (ready : IsReady site start shelf world)
    (free : site.IsFree start)
    (root : store.root = site.path [])
    (proper : AreProper crate records)
    (updated : (Shelf.IsSound (Function.update shelf crate records)))
    {files : FileTree}
    (shows : ∀ index?,
      Shows site start world.files shelf index? →
        Shows site start files (Function.update shelf crate records)
          index?) :
    (∃ previous,
      store.readable files = .ok previous ∧ Recalls shelf crate previous) ∨
      ∃ fault, store.readable files = .error (.disk fault) := by
  have sound := ready.isSound
  rcases ready with ⟨_, shown⟩ | ⟨locations, settled⟩
  · rcases (shows none shown).readable_of_none free root updated with
      ⟨previous, read, listed⟩ | fault
    · refine Or.inl ⟨previous, read, listed.nodup, ?_⟩
      intro location different
      rw [listed.mem_iff]
      simp only [Shelf.has_update_iff sound proper]
      constructor
      · rintro ⟨placed, new | ⟨has, _⟩, rfl⟩
        · exact absurd (proper.crate_eq new) different
        · exact ⟨placed, has, rfl⟩
      · rintro ⟨placed, has, rfl⟩
        exact ⟨placed, Or.inr ⟨has, different⟩, rfl⟩
    · exact Or.inr fault
  · have read :=
      (shows _ settled.shows).readable_of_index free root
        (sound.isSound_of_mem settled.listed) settled.fits
    refine Or.inl ⟨_, read, ?_, ?_⟩
    · exact (Location.sort_perm locations).nodup_iff.2 settled.listed.nodup
    · intro location _
      rw [(Location.sort_perm locations).mem_iff, settled.listed.mem_iff]

/-- With the files of a crate replaced, the list of all records is made to say
so, before something else is done. -/
theorem ends_relist_bind
    (ready : IsReady site start shelf world)
    (free : site.IsFree start)
    (root : store.root = site.path [])
    (proper : AreProper crate records)
    (updated : (Shelf.IsSound (Function.update shelf crate records)))
    {middle : World}
    (shows : ∀ index?,
      Shows site start world.files shelf index? →
        Shows site start middle.files (Function.update shelf crate records)
          index?)
    {Result : Type}
    {next : Job StoreError Result}
    {Done : Result → World → Prop}
    (then_ : ∀ locations later,
      Settled site start (Function.update shelf crate records) locations
          later →
        next.Ends later Done (·.isExternal = true)) :
    Job.Ends
      (store.readLocations >>= fun previous =>
        store.writeIndex
            (previous.filter (fun location => location.crate ≠ crate) ++
              (place records).1.map (·.location)) >>= fun _ => next)
      middle Done (·.isExternal = true) := by
  obtain ⟨index?, shown⟩ := ready.exists_shows
  obtain ⟨log, answered⟩ := readLocations_answers store middle
  rcases ready.recalls free root proper updated shows with
    ⟨previous, read, nodup, recalls⟩ | ⟨fault, failed⟩
  · rw [read] at answered
    apply Job.ends_bind_of_ok answered
    have final :
        Shows site start ({ middle with log } : World).files
          (Function.update shelf crate records) index? :=
      shows index? shown
    have listed := ready.isSound.isListedBy_update proper nodup recalls
    apply (ends_writeIndex free root updated listed final).bind
    intro _ later settled
    exact then_ _ later settled
  · rw [failed] at answered
    unfold Job.Ends
    rw [Job.on_bind_error answered]
    rfl

omit [Depths] in
/-- There is no error if all records fit. -/
theorem findSome?_writeError?_eq_none_iff :
    records.findSome? (·.toValue.writeError?) = none ↔
      ∀ record ∈ records, record.toValue.fits = true := by
  simp only [List.findSome?_eq_none_iff, Pack.Value.writeError?_eq_none_iff]

/--
Writing the records of a crate settles the disk with these records in the
place of those that the crate had, or ends with an error of the disk or of
what cannot be packed.
-/
theorem ends_writeCrate
    (free : site.IsFree start)
    (root : store.root = site.path [])
    (proper : AreProper crate records)
    (ready : IsReady site start shelf world)
    (apart : ∀ other, shelf other ≠ [] →
      other.dirName = crate.dirName → other = crate) :
    (store.writeCrate crate records).Ends world
      (fun _ later =>
        ∃ locations,
          Settled site start (Function.update shelf crate records) locations
            later)
      (·.isExternal = true) := by
  have external :
      ∀ fault,
        (StoreError.ofFault (.unwritable (site.path [crate.dirName]))
          fault).isExternal = true :=
    isExternal_ofFault fun _ => rfl
  have named : records.all (·.name.isText) = true := by
    rw [List.all_eq_true]
    exact fun record member =>
      Pack.Value.isText_of_isWholeText (proper.sound record member).name
  have plain : ".." ∉ [crate.dirName] := by
    rw [List.mem_singleton]
    exact fun same => crate.dirName_ne (by decide) same.symm
  have filed :
      ∀ placed ∈ (place records).1, placed.location.IsFiled := by
    intro placed member
    obtain ⟨_, _, isOf⟩ := proper.exists_isOf member
    exact isOf.filed
  obtain ⟨_, shown⟩ := ready.exists_shows
  unfold writeCrate
  rw [crateDirectory_eq root proper.slashFree, if_pos named]
  dsimp only
  split
  · apply Job.ends_bind_of_ok (Job.on_noteAll _ world)
    rfl
  · rename_i packable
    have fitting :=
      findSome?_writeError?_eq_none_iff.1
        (Option.eq_none_iff_forall_ne_some.2 packable)
    have updated := ready.isSound.update proper fitting apart
    apply Job.ends_bind_of_ok (Job.on_noteAll (place records).2 world)
    have frame :
        site.Frame start
          ({ world with log := world.log ++ (place records).2 } :
            World).files :=
      shown.frame
    apply ends_clear_bind free external plain frame
    intro cleared clear
    apply (ends_writePlaced free root external _ filed clear.frame).bind
    intro _ middle written
    have shows :
        ∀ index?,
          Shows site start world.files shelf index? →
            Shows site start middle.files
              (Function.update shelf crate records) index? := by
      intro index? shown
      apply shown.update ready.isSound proper apart written.frame
      intro steps
      rw [written.content]
      exact congrArg (Option.or _) (clear.content steps)
    apply ends_relist_bind ready free root proper updated shows
    intro locations later settled
    apply Job.ends_bind_of_ok (Job.on_note _ later)
    exact ⟨locations, settled.sound, settled.listed, settled.shows,
      settled.fits, settled.known⟩

end Store

end CrateShelf
