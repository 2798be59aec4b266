import CrateShelf.Fault
import CrateShelf.Proofs.Tree.Files
import CrateShelf.Proofs.Tree.Refusal
import CrateShelf.Proofs.Tree.Visiting
import Mathlib.Data.FinEnum
import Mathlib.Data.Set.Finite.Lattice
import Mathlib.Data.Set.Finite.List
import Mathlib.Order.Preorder.Finite
import Mathlib.Order.WellFounded

/-!
# Modules inside modules

A module encloses those that it declares, from their bodies or from files.
Nothing keeps a file from being read again inside itself; since there are only
so many paths that the disk takes, this is the only way to nest modules without
end.

Main statement: a crate is read or refused for a reason that is foreseen,
unless a module of it is hampered or modules are nested as deeply as is
bearable; they are nested without end exactly when a file is read again inside
itself, which it never is if every module is in the file of its name.
-/

namespace CrateShelf

/-! ## Paths that the disk takes -/

/-- There are only so many short texts. -/
theorem finite_setOf_size_le (bound : Nat) :
    {text : String | text.utf8ByteSize ≤ bound}.Finite := by
  refine Set.Finite.of_finite_image
    (f := fun text : String => text.toByteArray.data.toList) ?_ ?_
  · refine (List.finite_length_le UInt8 bound).subset ?_
    rintro _ ⟨text, short, rfl⟩
    rw [Set.mem_ofPred_eq, ← String.size_toByteArray] at short
    simpa using short
  · intro text _ other _ same
    exact String.toByteArray_inj.1 (ByteArray.ext (Array.toList_inj.1 same))

/-- What is joined is not longer than the whole, nor is it much more. -/
theorem size_intercalate (parts : List String) :
    parts.length ≤ ("/".intercalate parts).utf8ByteSize + 1 ∧
      ∀ part ∈ parts,
        part.utf8ByteSize ≤ ("/".intercalate parts).utf8ByteSize := by
  induction parts with
  | nil => simp
  | cons part parts inductionStep =>
      obtain ⟨few, short⟩ := inductionStep
      cases parts with
      | nil => simp
      | cons next rest =>
          have slash : "/".utf8ByteSize = 1 := rfl
          rw [String.intercalate_cons_cons, String.utf8ByteSize_append,
            String.utf8ByteSize_append, slash, List.forall_mem_cons]
          simp only [List.length_cons] at few ⊢
          refine ⟨by omega, by omega, fun other member => ?_⟩
          have shorter := short other member
          omega

/-- There are only so many paths that are not too long. -/
theorem DiskPath.finite_setOf_size_le (bound : Nat) :
    {path : DiskPath | path.toText.utf8ByteSize ≤ bound}.Finite := by
  have texts := CrateShelf.finite_setOf_size_le bound
  have := texts.to_subtype
  have lists := (List.finite_length_le
    {text : String | text.utf8ByteSize ≤ bound} (bound + 1)).image
      (List.map Subtype.val)
  refine (texts.image2 DiskPath.mk lists).subset ?_
  rintro ⟨root, parts⟩ short
  obtain ⟨few, brief⟩ := size_intercalate parts
  have limits : root.utf8ByteSize ≤ bound ∧
      ("/".intercalate parts).utf8ByteSize ≤ bound := by
    rw [Set.mem_ofPred_eq, toText] at short
    split at short
    · rename_i nothing
      simp only [Bool.and_eq_true, decide_eq_true_eq,
        List.isEmpty_iff] at nothing
      simp [nothing]
    · rw [String.utf8ByteSize_append] at short
      dsimp only at short
      omega
  lift parts to List {text : String | text.utf8ByteSize ≤ bound} using
    fun part member => (brief part member).trans limits.2
  rw [List.length_map] at few
  exact ⟨root, limits.1, _, ⟨parts, few.trans (by omega), rfl⟩, rfl⟩

/-- A path that can be read is not too long. -/
theorem FileTree.size_le_of_read
    {files : FileTree}
    {path : DiskPath}
    {bytes : Bytes}
    (read : files.read path = .ok bytes) :
    path.toText.utf8ByteSize ≤ longestPath := by
  obtain ⟨address, found⟩ := read_eq_ok_iff.1 read
  exact (locate_eq_ok_iff.1 (find_eq_ok_iff.1 found).1).1.short

namespace Tree

open Docs (Note)
open Source (Declaration)
open Visit

/-! ## Modules that a module encloses -/

/-- The declarations of a module and where they stand. -/
abbrev PlacedBody := Place × List Declaration

section

variable [Depths]

/-- A module encloses one that it declares, if that is shown and has a body
or a file. -/
inductive Encloses (files : FileTree) (skipsHidden : Bool)
    (outer inner : PlacedBody) : Prop where
  | intro {notes : List Note} {name : String} {visibility : Visibility}
      {body : Option (List Declaration)}
      (member : (notes, .module name visibility body) ∈
        declarationsWithNotes [] outer.2)
      (shown : isShown skipsHidden notes = true)
      (opens : opened? files outer.1 name (said notes).file? body =
        some inner)

/-- A module is reached from one that it is somewhere inside of, or that it
is. -/
abbrev Reaches (files : FileTree) (skipsHidden : Bool) :
    PlacedBody → PlacedBody → Prop :=
  Relation.ReflTransGen (Encloses files skipsHidden)

/-- A module is inside of another. -/
abbrev IsInside (files : FileTree) (skipsHidden : Bool)
    (outer inner : PlacedBody) : Prop :=
  Relation.TransGen (Encloses files skipsHidden) outer inner

/-- Modules are nested a number of times in a module, or more often. -/
def Nests (files : FileTree) (skipsHidden : Bool) : Nat → PlacedBody → Prop
  | 0, _ => True
  | depth + 1, outer =>
    ∃ inner, Encloses files skipsHidden outer inner ∧
      Nests files skipsHidden depth inner

/-- The declarations are those of a file, in the place of this file. -/
structure IsReadFrom (files : FileTree) (path : DiskPath)
    (module : PlacedBody) : Prop where
  file_eq : module.1.file? = some path
  directory_eq : module.1.directory? = some (childDirectory path)
  parsed : ∃ text, readText files path = .ok text ∧
    Source.parse text = .ok module.2

/-- A file is read again inside itself. -/
def Returns (files : FileTree) (skipsHidden : Bool) (root : PlacedBody) :
    Prop :=
  ∃ path outer inner,
    Reaches files skipsHidden root outer ∧
      IsInside files skipsHidden outer inner ∧
      IsReadFrom files path outer ∧ IsReadFrom files path inner

variable
    {files : FileTree}
    {skipsHidden : Bool}
    {root outer inner : PlacedBody}
    {depth : Nat}

/-! ## How deep modules are read -/

/-- A visit that ends well has visited each module that is enclosed. -/
theorem exists_on_visitContainer_of_encloses
    {basis : Basis}
    {place : Place}
    {declarations : List Declaration}
    {value : List WideText × Contents}
    {found later : Findings}
    (yields : on (visitContainer basis (depth + 1) place declarations) found =
      (.ok value, later))
    (encloses : Encloses basis.files basis.skipsHidden (place, declarations)
      inner) :
    ∃ start value done,
      on (visitContainer basis depth inner.1 inner.2) start =
        (.ok value, done) := by
  obtain @⟨notes, name, visibility, body, member, shown, opens⟩ := encloses
  obtain ⟨_, _, _, visits⟩ := on_bind_eq_ok_iff.1 yields
  obtain ⟨_, _, visited, _⟩ := on_bind_eq_ok_iff.1 visits
  obtain ⟨_, _, _, entered⟩ := exists_on_visitModule visited member shown
  cases body with
  | some body =>
      cases opens
      obtain ⟨_, _, within, _⟩ := on_bind_eq_ok_iff.1 entered
      exact ⟨_, _, _, within⟩
  | none =>
      obtain ⟨loaded, _, loads, more⟩ := on_bind_eq_ok_iff.1 entered
      obtain ⟨rfl, _⟩ := of_on_loadModule loads
      obtain ⟨⟨file, inside⟩, known, rfl⟩ := Option.map_eq_some_iff.1 opens
      rw [known] at more
      obtain ⟨_, _, within, _⟩ := on_bind_eq_ok_iff.1 more
      exact ⟨_, _, _, within⟩

/-- A visit that ends well has found modules nested less often than is
bearable. -/
theorem not_nests_of_visitContainer
    {basis : Basis}
    {place : Place}
    {declarations : List Declaration}
    {value : List WideText × Contents}
    {found later : Findings}
    (yields : on (visitContainer basis depth place declarations) found =
      (.ok value, later)) :
    ¬ Nests basis.files basis.skipsHidden depth (place, declarations) := by
  induction depth generalizing place declarations value found later with
  | zero => cases yields
  | succ depth inductionStep =>
      rintro ⟨inner, encloses, nests⟩
      obtain ⟨_, _, _, within⟩ :=
        exists_on_visitContainer_of_encloses yields encloses
      exact inductionStep within nests

/-- A crate that is read has been visited from its root. -/
theorem exists_on_visitContainer_of_treeOf
    {crate : CrateId}
    {file? : Option DiskPath}
    {declarations : List Declaration}
    {tree : CrateTree}
    (read : treeOf files crate skipsHidden file? declarations = .ok tree) :
    ∃ value later,
      on (visitContainer ⟨files, (rootPlace crate file?).path, skipsHidden⟩
        Depths.modules (rootPlace crate file?) declarations) {} =
          (.ok value, later) := by
  have yields : on (visitRoot
      ⟨files, (rootPlace crate file?).path, skipsHidden⟩ file? declarations)
      {} = (.ok tree, _) := Prod.ext read rfl
  obtain ⟨value, later, visited, _⟩ := on_bind_eq_ok_iff.1 yields
  exact ⟨value, later, visited⟩

theorem not_nests_of_treeOf
    {crate : CrateId}
    {file? : Option DiskPath}
    {declarations : List Declaration}
    {tree : CrateTree}
    (read : treeOf files crate skipsHidden file? declarations = .ok tree) :
    ¬ Nests files skipsHidden Depths.modules
      (rootPlace crate file?, declarations) := by
  obtain ⟨_, _, visited⟩ := exists_on_visitContainer_of_treeOf read
  exact not_nests_of_visitContainer visited

/-! ## Why modules are refused -/

/-- Why a module ends the visit with an error that is not foreseen. -/
inductive IsHampered (files : FileTree) (skipsHidden : Bool)
    (module : PlacedBody) : TreeError → Prop where
  /-- A literal names a character that there is not. -/
  | literal {written : List Char}
      (member : written ∈ module.2.flatMap literalsOf)
      (vast : Docs.HoldsVastEscape written) :
    IsHampered files skipsHidden module (.literal .codePointTooLarge)
  /-- An import is nested too deeply. -/
  | importing {text : String} {visibility : Visibility}
      {tree : Source.UseTree}
      (member : .importing text visibility tree ∈ module.2)
      (long : Depths.imports < tree.depth) :
    IsHampered files skipsHidden module .tooDeep
  /-- A module is looked for where no file can be. -/
  | lost {notes : List Note} {name : String} {visibility : Visibility}
      {file directory path : DiskPath}
      (member : (notes, .module name visibility none) ∈
        declarationsWithNotes [] module.2)
      (shown : isShown skipsHidden notes = true)
      (filed : module.1.file? = some file)
      (placed : module.1.directory? = some directory)
      (candidate : path ∈
        moduleFiles directory file name (said notes).file?)
      (long : files.find path = .error .nameTooLong) :
    IsHampered files skipsHidden module (.disk { cause := .nameTooLong, path })
  /-- The file of a module is at fault where it is nested too deeply. -/
  | untold {notes : List Note} {name : String} {visibility : Visibility}
      {file directory path : DiskPath} {text : String}
      (member : (notes, .module name visibility none) ∈
        declarationsWithNotes [] module.2)
      (shown : isShown skipsHidden notes = true)
      (filed : module.1.file? = some file)
      (placed : module.1.directory? = some directory)
      (first : firstFile? files
        (moduleFiles directory file name (said notes).file?) =
          .ok (some path))
      (read : readText files path = .ok text)
      (unparsed : Source.parse text = .error .tooDeep) :
    IsHampered files skipsHidden module .tooDeep

/-- A module is refused for a reason that is foreseen, because a module in it
is hampered, or because modules are nested too deeply in it. -/
theorem IsRefused.cases
    {place : Place}
    {declarations : List Declaration}
    {error : TreeError}
    (refused : IsRefused files skipsHidden depth place declarations error) :
    (Fault.tree error).isForeseen = true ∨
      (∃ module,
        Reaches files skipsHidden (place, declarations) module ∧
          IsHampered files skipsHidden module error) ∨
      (error = .tooDeep ∧
        Nests files skipsHidden depth (place, declarations)) := by
  induction refused with
  | tooDeep place declarations => exact Or.inr (Or.inr ⟨rfl, trivial⟩)
  | literal member vast =>
      exact Or.inr (Or.inl ⟨_, .refl, .literal member vast⟩)
  | importing member long =>
      exact Or.inr (Or.inl ⟨_, .refl, .importing member long⟩)
  | file member shown unloadable =>
      cases unloadable with
      | tooLong filed placed candidate long =>
          exact Or.inr (Or.inl ⟨_, .refl,
            .lost member shown filed placed candidate long⟩)
      | unreadable filed placed first unread => exact Or.inl rfl
      | @unparsable _ _ _ _ fault filed placed first read unparsed =>
          cases fault with
          | broken line missing => exact Or.inl rfl
          | tooDeep =>
              exact Or.inr (Or.inl ⟨_, .refl,
                .untold member shown filed placed first read unparsed⟩)
  | inside member shown opens refused inductionStep =>
      rcases inductionStep with foreseen | ⟨module, reached, hampered⟩ |
        ⟨same, nests⟩
      · exact Or.inl foreseen
      · exact Or.inr (Or.inl ⟨module,
          .head ⟨member, shown, opens⟩ reached, hampered⟩)
      · exact Or.inr (Or.inr ⟨same, _, ⟨member, shown, opens⟩, nests⟩)

/-! ## Files inside themselves -/

/-- Modules with the same declarations that stand alike on the disk. -/
structure StandsAlike (first second : PlacedBody) : Prop where
  file_eq : first.1.file? = second.1.file?
  directory_eq : first.1.directory? = second.1.directory?
  declarations_eq : first.2 = second.2

theorem IsReadFrom.standsAlike
    {path : DiskPath}
    (first : IsReadFrom files path outer)
    (second : IsReadFrom files path inner) :
    StandsAlike outer inner where
  file_eq := first.file_eq.trans second.file_eq.symm
  directory_eq := first.directory_eq.trans second.directory_eq.symm
  declarations_eq := by
    obtain ⟨text, read, parsed⟩ := first.parsed
    obtain ⟨again, alsoRead, alsoParsed⟩ := second.parsed
    cases read.symm.trans alsoRead
    exact Except.ok.inj (parsed.symm.trans alsoParsed)

/-- Of modules that stand alike, one encloses what the other does. -/
theorem Encloses.of_standsAlike
    {other : PlacedBody}
    (encloses : Encloses files skipsHidden outer inner)
    (alike : StandsAlike outer other) :
    ∃ within, Encloses files skipsHidden other within ∧
      StandsAlike inner within := by
  obtain @⟨notes, name, visibility, body, member, shown, opens⟩ := encloses
  obtain ⟨sameFile, sameDirectory, same⟩ := alike
  rw [same] at member
  cases body with
  | some body =>
      cases opens
      exact ⟨_, ⟨member, shown, rfl⟩, sameFile, by rw [sameDirectory], rfl⟩
  | none =>
      obtain ⟨file, known, rfl⟩ := Option.map_eq_some_iff.1 opens
      rw [loaded?, sameFile, sameDirectory] at known
      exact ⟨(⟨other.1.path.push name, some file.1,
          some (childDirectory file.1)⟩, file.2),
        ⟨member, shown, Option.map_eq_some_iff.2 ⟨file, known, rfl⟩⟩,
        rfl, rfl, rfl⟩

/-- In a module with one inside that stands alike, modules are nested without
end. -/
theorem nests_of_standsAlike
    (inside : IsInside files skipsHidden outer inner)
    (alike : StandsAlike outer inner) :
    Nests files skipsHidden depth outer := by
  -- What the outer module encloses has one inside that stands alike, too: the
  -- one that the inner module encloses.
  induction depth generalizing outer inner with
  | zero => trivial
  | succ depth inductionStep =>
      obtain ⟨next, encloses, reached⟩ := Relation.TransGen.head'_iff.1 inside
      obtain ⟨within, deeper, alsoAlike⟩ := encloses.of_standsAlike alike
      exact ⟨next, encloses,
        inductionStep (Relation.TransGen.tail' reached deeper) alsoAlike⟩

theorem Returns.nests
    (returns : Returns files skipsHidden root)
    (depth : Nat) :
    Nests files skipsHidden depth root := by
  obtain ⟨path, outer, inner, reached, inside, first, second⟩ := returns
  have without : ∀ depth, Nests files skipsHidden depth outer := fun depth =>
    nests_of_standsAlike inside (first.standsAlike second)
  clear inside first
  induction reached using Relation.ReflTransGen.head_induction_on generalizing
    depth with
  | refl => exact without depth
  | head encloses _ inductionStep =>
      cases depth with
      | zero => trivial
      | succ depth => exact ⟨_, encloses, inductionStep depth⟩

/-! ## Modules without end -/

theorem Nests.of_succ
    (nests : Nests files skipsHidden (depth + 1) root) :
    Nests files skipsHidden depth root := by
  induction depth generalizing root with
  | zero => trivial
  | succ depth inductionStep =>
      obtain ⟨inner, encloses, more⟩ := nests
      exact ⟨inner, encloses, inductionStep more⟩

theorem Nests.of_le
    {fewer : Nat}
    (nests : Nests files skipsHidden depth root)
    (less : fewer ≤ depth) :
    Nests files skipsHidden fewer root := by
  induction less with
  | refl => exact nests
  | step _ inductionStep => exact inductionStep nests.of_succ

/-- A module encloses only so many. -/
theorem finite_setOf_encloses (outer : PlacedBody) :
    {inner | Encloses files skipsHidden outer inner}.Finite := by
  have atMostOne : ∀ part : List Note × Declaration,
      {inner | ∃ name visibility body,
        part.2 = .module name visibility body ∧
          opened? files outer.1 name (said part.1).file? body =
            some inner}.Finite := by
    rintro ⟨notes, declaration⟩
    refine Set.Subsingleton.finite ?_
    rintro inner ⟨name, _, _, rfl, opens⟩ other ⟨_, _, _, same, opensOther⟩
    cases same
    exact Option.some.inj (opens.symm.trans opensOther)
  refine ((List.finite_toSet (declarationsWithNotes [] outer.2)).biUnion
    fun part _ => atMostOne part).subset ?_
  rintro inner ⟨member, _, opens⟩
  exact Set.mem_biUnion member ⟨_, _, _, rfl, opens⟩

/-- Where modules are nested without end, so they are in one that is
enclosed. -/
theorem exists_encloses_of_nests
    (without : ∀ depth, Nests files skipsHidden depth outer) :
    ∃ inner, Encloses files skipsHidden outer inner ∧
      ∀ depth, Nests files skipsHidden depth inner := by
  by_contra none
  push Not at none
  choose! limit exceeded using none
  obtain ⟨bound, above⟩ :=
    ((finite_setOf_encloses outer).image limit).bddAbove
  obtain ⟨inner, encloses, nests⟩ := without (bound + 1)
  exact exceeded inner encloses
    (nests.of_le (above ⟨inner, encloses, rfl⟩))

/-- A module is read from a file or is a part of the one around it. -/
theorem Encloses.isReadFrom_or_lt
    (encloses : Encloses files skipsHidden outer inner) :
    (∃ path, IsReadFrom files path inner) ∨
      sizeOf inner.2 < sizeOf outer.2 := by
  obtain @⟨notes, name, visibility, body, member, shown, opens⟩ := encloses
  cases body with
  | some body =>
      cases opens
      exact Or.inr (sizeOf_lt_of_mem_declarationsWithNotes member)
  | none =>
      obtain ⟨⟨path, declarations⟩, known, rfl⟩ :=
        Option.map_eq_some_iff.1 opens
      obtain ⟨_, _, _, _, _, parsed⟩ := loaded?_eq_some_iff.1 known
      exact Or.inl ⟨path, rfl, rfl, parsed⟩

/-- On a way down without end, files are read again and again. -/
theorem exists_isReadFrom_after
    {way : Nat → PlacedBody}
    (down : ∀ index,
      Encloses files skipsHidden (way index) (way (index + 1)))
    (index : Nat) :
    ∃ later, index < later ∧ ∃ path, IsReadFrom files path (way later) := by
  -- Between files, what is left to enclose gets smaller.
  induction size : sizeOf (way index).2 using Nat.strong_induction_on
    generalizing index with
  | h size inductionStep =>
      subst size
      rcases (down index).isReadFrom_or_lt with read | smaller
      · exact ⟨index + 1, Nat.lt_succ_self index, read⟩
      · obtain ⟨later, after, read⟩ :=
          inductionStep _ smaller (index + 1) rfl
        exact ⟨later, Nat.lt_of_succ_lt after, read⟩

theorem isInside_of_lt
    {way : Nat → PlacedBody}
    (down : ∀ index,
      Encloses files skipsHidden (way index) (way (index + 1)))
    {earlier later : Nat}
    (before : earlier < later) :
    IsInside files skipsHidden (way earlier) (way later) := by
  induction before with
  | refl => exact .single (down earlier)
  | step _ inductionStep => exact inductionStep.tail (down _)

/-- On a way down without end, a file is read again inside itself. -/
theorem returns_of_endless
    {way : Nat → PlacedBody}
    (down : ∀ index,
      Encloses files skipsHidden (way index) (way (index + 1))) :
    Returns files skipsHidden (way 0) := by
  let reads : Set Nat :=
    {index | 0 < index ∧ ∃ path, IsReadFrom files path (way index)}
  have often : reads.Infinite := by
    refine Set.infinite_of_forall_exists_gt fun index => ?_
    obtain ⟨later, after, read⟩ := exists_isReadFrom_after down index
    exact ⟨later, ⟨Nat.zero_lt_of_lt after, read⟩, after⟩
  have few := (DiskPath.finite_setOf_size_le FileTree.longestPath).image some
  have short : Set.MapsTo (fun index => (way index).1.file?) reads
      (some '' {path | path.toText.utf8ByteSize ≤ FileTree.longestPath}) := by
    rintro index ⟨_, path, read⟩
    obtain ⟨text, opened, _⟩ := read.parsed
    obtain ⟨bytes, known, _⟩ := bind_eq_ok_iff.1 opened
    exact ⟨path, FileTree.size_le_of_read (mapError_eq_ok_iff.1 known),
      read.file_eq.symm⟩
  obtain ⟨first, isFirst, second, isSecond, apart, same⟩ :=
    often.exists_ne_map_eq_of_mapsTo short few
  wlog before : first < second generalizing first second
  · exact this second isSecond first isFirst apart.symm same.symm
      (by omega)
  obtain ⟨started, path, read⟩ := isFirst
  obtain ⟨_, again, readAgain⟩ := isSecond
  rw [read.file_eq, readAgain.file_eq] at same
  cases same
  exact ⟨path, way first, way second,
    (isInside_of_lt down started).to_reflTransGen,
    isInside_of_lt down before, read, readAgain⟩

/-- Modules are nested without end exactly where a file is read again inside
itself. -/
theorem forall_nests_iff_returns :
    (∀ depth, Nests files skipsHidden depth root) ↔
      Returns files skipsHidden root := by
  constructor
  · intro without
    have endless : ¬ Acc
        (fun inner outer => Encloses files skipsHidden outer inner) root := by
      intro ends
      induction ends with
      | intro outer _ inductionStep =>
          obtain ⟨inner, encloses, further⟩ := exists_encloses_of_nests without
          exact inductionStep inner encloses further
    obtain ⟨way, rfl, down⟩ := not_acc_iff_exists_descending_chain.1 endless
    exact returns_of_endless down
  · exact Returns.nests

/-! ## Modules in the files of their names -/

/-- The modules that a module declares have words for names and, without a
body, are in files of these names. -/
def IsOrderly (skipsHidden : Bool) (module : PlacedBody) : Prop :=
  ∀ notes name visibility body,
    (notes, .module name visibility body) ∈
        declarationsWithNotes [] module.2 →
      isShown skipsHidden notes = true →
        IsWord name ∧
          (body = none → (said notes).file? = none ∧ name ∉ ownNames)

/-- Each module is one directory further down than the one around it. -/
theorem IsOrderly.directory_eq
    (orderly : IsOrderly skipsHidden outer)
    (encloses : Encloses files skipsHidden outer inner) :
    ∃ name, IsWord name ∧
      inner.1.directory? = outer.1.directory?.map (·.down [name]) := by
  obtain @⟨notes, name, visibility, body, member, shown, opens⟩ := encloses
  obtain ⟨word, filed⟩ := orderly notes name visibility body member shown
  refine ⟨name, word, ?_⟩
  cases body with
  | some body =>
      cases opens
      simp only [word.child_eq]
  | none =>
      obtain ⟨unnamed, others⟩ := filed rfl
      obtain ⟨⟨path, declarations⟩, known, rfl⟩ :=
        Option.map_eq_some_iff.1 opens
      obtain ⟨file, directory, _, placed, first, _⟩ :=
        loaded?_eq_some_iff.1 known
      rw [unnamed] at first
      rw [placed, Option.map_some, ← word.child_eq,
        childDirectory_of_mem_moduleFiles word others
          (mem_of_firstFile? first)]

theorem IsOrderly.lt_of_isInside
    {above below : DiskPath}
    (orderly : ∀ module, Reaches files skipsHidden outer module →
      IsOrderly skipsHidden module)
    (placed : outer.1.directory? = some above)
    (inside : IsInside files skipsHidden outer inner)
    (alsoPlaced : inner.1.directory? = some below) :
    above.parts.length < below.parts.length := by
  induction inside generalizing below with
  | single encloses =>
      obtain ⟨name, _, deeper⟩ :=
        (orderly outer .refl).directory_eq encloses
      rw [placed, alsoPlaced] at deeper
      cases deeper
      simp [DiskPath.down]
  | tail inside encloses inductionStep =>
      obtain ⟨name, _, deeper⟩ :=
        (orderly _ inside.to_reflTransGen).directory_eq encloses
      rw [alsoPlaced] at deeper
      obtain ⟨middle, known, rfl⟩ := Option.map_eq_some_iff.1 deeper.symm
      have less := inductionStep known
      simp only [DiskPath.down, List.length_append, List.length_singleton]
      omega

/-- If every module is in the file of its name, no file is read again inside
itself. -/
theorem not_returns_of_isOrderly
    (orderly : ∀ module, Reaches files skipsHidden root module →
      IsOrderly skipsHidden module) :
    ¬ Returns files skipsHidden root := by
  rintro ⟨path, outer, inner, reached, inside, first, second⟩
  exact absurd
    (IsOrderly.lt_of_isInside
      (fun module further => orderly module (reached.trans further))
      first.directory_eq inside second.directory_eq)
    (lt_irrefl _)

/-! ## Whole crates -/

/--
A crate is read, refused with an error that is foreseen, or refused because a
module of it is hampered or because modules are nested too deeply; it is not
read if they are.  Modules are nested without end exactly where a file is read
again inside itself, which no file is if every module is in the file of its
name.
-/
theorem refused_or_nested_and_endless_iff
    (files : FileTree)
    (crate : CrateId)
    (skipsHidden : Bool)
    (file? : Option DiskPath)
    (declarations : List Declaration) :
    let root : PlacedBody := (rootPlace crate file?, declarations)
    let read := treeOf files crate skipsHidden file? declarations
    (∀ error, read = .error error →
      (Fault.tree error).isForeseen = true ∨
        (∃ module, Reaches files skipsHidden root module ∧
          IsHampered files skipsHidden module error) ∨
        (error = .tooDeep ∧ Nests files skipsHidden Depths.modules root)) ∧
    (Nests files skipsHidden Depths.modules root → ∀ tree, read ≠ .ok tree) ∧
    ((∀ depth, Nests files skipsHidden depth root) ↔
      Returns files skipsHidden root) ∧
    ((∀ module, Reaches files skipsHidden root module →
        IsOrderly skipsHidden module) →
      ¬ Returns files skipsHidden root) := by
  intro root read
  refine ⟨?_, ?_, forall_nests_iff_returns, not_returns_of_isOrderly⟩
  · intro error refused
    exact (isRefused_of_treeOf refused).cases
  · intro nests tree isRead
    exact not_nests_of_treeOf isRead nests

/-! ## A file that declares itself -/

/-- The text of a root file that declares a module which is in the same
file. -/
def loopText : String := "mod lib;\n"

/-- What is declared in the text. -/
def loopBody : List Declaration := [.module "lib" .inherited none]

/-- The directory of the file. -/
def loopDirectory : DiskPath := ⟨"", ["src"]⟩

/-- The file. -/
def loopRoot : DiskPath := loopDirectory.child "lib.rs"

/-- The file, in its directory. -/
def loopFiles : FileTree :=
  ⟨[(["src"], .directory),
    (["src", "lib.rs"], .file (Bytes.ofText loopText))]⟩

omit [Depths] in
theorem readText_loopFiles : readText loopFiles loopRoot = .ok loopText :=
  readText_of_read rfl (by decide +kernel)

omit [Depths] in
/-- The module is looked for in the file that declares it. -/
theorem firstFile?_loopFiles :
    firstFile? loopFiles (moduleFiles loopDirectory loopRoot "lib" none) =
      .ok (some loopRoot) := rfl

/-- However deeply a module may be nested, the file is read again inside of
it. -/
theorem nests_loop
    (parsed : Source.parse loopText = .ok loopBody)
    {place : Place}
    (filed : place.file? = some loopRoot)
    (placed : place.directory? = some loopDirectory) :
    Nests loopFiles skipsHidden depth (place, loopBody) := by
  induction depth generalizing place with
  | zero => trivial
  | succ depth inductionStep =>
      have loads : loaded? loopFiles place "lib" none =
          some (loopRoot, loopBody) :=
        loaded?_eq_some_iff.2 ⟨_, _, filed, placed, firstFile?_loopFiles,
          loopText, readText_loopFiles, parsed⟩
      have plain : (said []).hidden = false := rfl
      refine ⟨(⟨place.path.push "lib", some loopRoot, some loopDirectory⟩,
        loopBody), ⟨List.mem_singleton_self _, ?_, ?_⟩, inductionStep rfl rfl⟩
      · simp [isShown, plain]
      · exact Option.map_eq_some_iff.2 ⟨_, loads, rfl⟩

/-- Nothing else is wrong with the file. -/
theorem eq_tooDeep_of_isRefused_loop
    (parsed : Source.parse loopText = .ok loopBody)
    {place : Place}
    (filed : place.file? = some loopRoot)
    (placed : place.directory? = some loopDirectory)
    {error : TreeError}
    (refused : IsRefused loopFiles skipsHidden depth place loopBody error) :
    error = .tooDeep := by
  induction depth generalizing place with
  | zero =>
      cases refused with
      | tooDeep => rfl
  | succ depth inductionStep =>
      cases refused with
      | literal member _ => cases member
      | importing member _ => rfl
      | file member _ unloadable =>
          cases List.mem_singleton.1 member
          cases unloadable with
          | tooLong alsoFiled alsoPlaced candidate long =>
              cases filed.symm.trans alsoFiled
              cases placed.symm.trans alsoPlaced
              rcases List.mem_pair.1 candidate with rfl | rfl
              · cases long
              · cases long
          | unreadable alsoFiled alsoPlaced first unread =>
              cases filed.symm.trans alsoFiled
              cases placed.symm.trans alsoPlaced
              cases firstFile?_loopFiles.symm.trans first
              cases readText_loopFiles.symm.trans unread
          | unparsable alsoFiled alsoPlaced first read unparsed =>
              cases filed.symm.trans alsoFiled
              cases placed.symm.trans alsoPlaced
              cases firstFile?_loopFiles.symm.trans first
              cases readText_loopFiles.symm.trans read
              cases parsed.symm.trans unparsed
      | inside member _ opens within =>
          cases List.mem_singleton.1 member
          obtain ⟨⟨path, declarations⟩, loads, same⟩ :=
            Option.map_eq_some_iff.1 opens
          obtain ⟨file, directory, alsoFiled, alsoPlaced, first, text, read,
            alsoParsed⟩ := loaded?_eq_some_iff.1 loads
          cases filed.symm.trans alsoFiled
          cases placed.symm.trans alsoPlaced
          cases firstFile?_loopFiles.symm.trans first
          cases readText_loopFiles.symm.trans read
          cases parsed.symm.trans alsoParsed
          cases same
          exact inductionStep rfl rfl within

/-! ## A literal without a value -/

/-- Documentation that names a character that there is not. -/
def vastNote : Note :=
  .attribute .outer "#[doc = \"\\u\x7b110000\x7d\"]".toList

/-- A struct with such documentation. -/
def vastBody : List Declaration :=
  [.note vastNote, .struct "S" .everywhere .unit]

omit [Depths] in
theorem ofNotes_vast :
    Docs.Remarks.ofNotes .outer [vastNote] = .error .codePointTooLarge := by
  cbv

theorem not_isForeseen_of_isRefused_vast
    {place : Place}
    {error : TreeError}
    (refused : IsRefused files skipsHidden depth place vastBody error) :
    (Fault.tree error).isForeseen = false := by
  cases refused with
  | tooDeep => rfl
  | literal => rfl
  | importing => rfl
  | file member _ _ => cases List.mem_singleton.1 member
  | inside member _ _ _ => cases List.mem_singleton.1 member

/-- The struct is never read. -/
theorem treeOf_vast_ne_ok
    (crate : CrateId)
    (file? : Option DiskPath)
    (tree : CrateTree) :
    treeOf files crate skipsHidden file? vastBody ≠ .ok tree := by
  intro read
  obtain ⟨_, _, visited⟩ := exists_on_visitContainer_of_treeOf read
  generalize Depths.modules = depth at visited
  cases depth with
  | zero => cases visited
  | succ depth =>
      have noted : declarationsWithNotes [] vastBody =
        [([vastNote], .struct "S" .everywhere .unit)] := rfl
      rw [visitContainer_succ, noted] at visited
      obtain ⟨_, _, _, visits⟩ := on_bind_eq_ok_iff.1 visited
      obtain ⟨_, _, parts, _⟩ := on_bind_eq_ok_iff.1 visits
      obtain ⟨_, _, part, _⟩ := on_bind_eq_ok_iff.1 parts
      obtain ⟨_, _, told, _⟩ := on_bind_eq_ok_iff.1 part
      unfold remarks at told
      rw [ofNotes_vast] at told
      cases told

end

/-- A crate is not always read or refused with an error that is foreseen. -/
theorem not_always_read_or_foreseen :
    (¬ ∃ _ : Depths, ∀ files crate skipsHidden file? declarations,
      (∃ tree,
        treeOf files crate skipsHidden file? declarations = .ok tree) ∨
      ∃ error,
        treeOf files crate skipsHidden file? declarations = .error error ∧
          (Fault.tree error).isForeseen = true) ∧
    ∀ (_ : Depths) (skipsHidden : Bool),
      Source.parse loopText = .ok loopBody →
        (document loopFiles sampleCrate skipsHidden loopText
          (some loopRoot)).1 = .error .tooDeep ∧
        (Fault.tree .tooDeep).isForeseen = false := by
  constructor
  · rintro ⟨_, claimed⟩
    rcases claimed {} sampleCrate false none vastBody with
      ⟨tree, read⟩ | ⟨error, refused, foreseen⟩
    · exact treeOf_vast_ne_ok _ _ _ read
    · have unforeseen :=
        not_isForeseen_of_isRefused_vast (isRefused_of_treeOf refused)
      rw [foreseen] at unforeseen
      cases unforeseen
  · intro _ skipsHidden parsed
    refine ⟨?_, rfl⟩
    rw [document_of_parse parsed]
    cases read : treeOf loopFiles sampleCrate skipsHidden (some loopRoot)
        loopBody with
    | ok tree =>
        have nests : Nests loopFiles skipsHidden Depths.modules
            (rootPlace sampleCrate (some loopRoot), loopBody) :=
          nests_loop parsed rfl rfl
        exact absurd nests (not_nests_of_treeOf read)
    | error error =>
        have same : error = .tooDeep :=
          eq_tooDeep_of_isRefused_loop parsed rfl rfl
            (isRefused_of_treeOf read)
        rw [same]
        rfl

end Tree

end CrateShelf
