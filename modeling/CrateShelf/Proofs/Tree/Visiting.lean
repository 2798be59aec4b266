import CrateShelf.Proofs.Tree.Parts

/-!
# The visit of a module, one declaration at a time

Notes belong to the declaration that follows them, so a visit of declarations
goes through the declarations with their notes.  What one of them makes of the
module does not depend on those after it.

Main statement: a visit is what one declaration makes, followed by a visit of
the others.
-/

namespace CrateShelf.Tree

open Docs (Note Remarks)
open Source (Declaration)
open Visit

/-- How the modules among declarations are read. -/
abbrev ModuleVisit :=
  Remarks → String → Visibility → Option (List Declaration) → Visit Item

/-- What a declaration that has a name makes, unless it is hidden. -/
def visitNamed (basis : Basis) (place : Place) (visitModule : ModuleVisit)
    (remarks : Remarks) (name : String) (declaration : Declaration) :
    Visit (List Item) := do
  let path := place.path.push name
  if ← isSkipped basis remarks (some path) then return []
  match declaration with
  | .module name visibility body =>
    return [← visitModule remarks name visibility body]
  | _ => plainItems basis path remarks.docs declaration

variable [Depths]

/-- The items that a declaration with notes makes, and the imports of the
module after it. -/
def visitPart (basis : Basis) (place : Place) (visitModule : ModuleVisit)
    (uses : UseTable) (notes : List Note) (declaration : Declaration) :
    Visit (List Item × UseTable) := do
  let remarks ← remarks notes
  match declaration with
  | .importing text visibility tree =>
    if Depths.imports < tree.depth then throw .tooDeep
    return ([.importing text visibility],
      uses.addTree place.path basis.root tree)
  | .impl head body =>
    if ← isSkipped basis remarks none then return ([], uses)
    return ([← recordImpl basis place remarks.docs head body], uses)
  | .foreign mark body =>
    let abi ← abiOf mark
    return (← foreignItems basis place abi [] (body.getD []), uses)
  | declaration =>
    match nameOf? declaration with
    | none => return ([], uses)
    | some name =>
      return (← visitNamed basis place visitModule remarks name declaration,
        uses)

/-- What declarations with notes make of a module, given its imports so
far. -/
def visitParts (basis : Basis) (place : Place) (visitModule : ModuleVisit)
    (uses : UseTable) : List (List Note × Declaration) → Visit Contents
  | [] => return { uses }
  | (notes, declaration) :: rest => do
    let made ← visitPart basis place visitModule uses notes declaration
    let others ← visitParts basis place visitModule made.2 rest
    return others.prepend made.1

/-- How a module is read in which modules are nested a number of times at
most: from its body or from its file. -/
def moduleVisit (basis : Basis) (depth : Nat) (place : Place) :
    ModuleVisit :=
  fun remarks name visibility body => do
    let path := place.path.push name
    let build (file? : Option DiskPath) (inner : List WideText)
        (contents : Contents) : Item :=
      .module ⟨name, path, visibility, remarks.docs ++ inner⟩
        { file?, uses := contents.uses } contents.items
    match body with
    | some body =>
      let directory? := place.directory?.map (·.child name)
      let (inner, contents) ← visitContainer basis depth
        ⟨path, place.file?, directory?⟩ body
      return build place.file? inner contents
    | none =>
      match ← loadModule basis place path name remarks.file? with
      | none => return build place.file? [] {}
      | some (file, declarations) =>
        let (inner, contents) ← visitContainer basis depth
          ⟨path, some file, some (childDirectory file)⟩ declarations
        return build (some file) inner contents

variable
    {basis : Basis}
    {place : Place}
    {visitModule : ModuleVisit}
    {uses : UseTable}

/-! ## A walk over declarations with notes -/

/-- Declarations are visited with the notes before each. -/
theorem visitAll_eq_visitParts
    (pending : List Note)
    (declarations : List Declaration) :
    visitAll basis place visitModule pending uses declarations =
      visitParts basis place visitModule uses
        (declarationsWithNotes pending declarations) := by
  induction declarations generalizing pending uses with
  | nil => rfl
  | cons declaration rest inductionStep =>
      cases declaration with
      | note note =>
          rcases note with text | text | ⟨_ | _, text⟩
          all_goals exact inductionStep _
      | importing text visibility tree =>
          simp only [visitAll, declarationsWithNotes, visitParts, visitPart,
            inductionStep, bind_assoc]
          refine bind_congr fun remarks => ?_
          split
          · rfl
          · rfl
      | impl head body =>
          simp only [visitAll, declarationsWithNotes, visitParts, visitPart,
            inductionStep, bind_assoc]
          refine bind_congr fun remarks => bind_congr fun skipped => ?_
          cases skipped with
          | true => rfl
          | false => simp
      | foreign mark body =>
          simp only [visitAll, declarationsWithNotes, visitParts, visitPart,
            inductionStep, bind_assoc, pure_bind]
      | macroCall nameText text | statement =>
          simp only [visitAll, declarationsWithNotes, visitParts, visitPart,
            inductionStep, bind_assoc, pure_bind, nameOf?]
      | _ =>
          simp only [visitAll, declarationsWithNotes, visitParts, visitPart,
            inductionStep, bind_assoc, pure_bind, nameOf?, visitNamed]
          refine bind_congr fun remarks => bind_congr fun skipped => ?_
          cases skipped with
          | true => rfl
          | false => simp

/-- A module is visited by its documentation and then one declaration after
the other. -/
theorem visitContainer_succ
    (depth : Nat)
    (declarations : List Declaration) :
    visitContainer basis (depth + 1) place declarations = (do
      let docs ← innerDocs declarations
      let contents ← visitParts basis place (moduleVisit basis depth place)
        [] (declarationsWithNotes [] declarations)
      return (docs, contents)) := by
  rw [← visitAll_eq_visitParts]
  rfl

/-! ## Modules that are visited -/

variable {found later : Findings}

/-- A visit that ends well has visited each declaration. -/
theorem exists_on_visitPart
    {noted : List (List Note × Declaration)}
    {part : List Note × Declaration}
    {contents : Contents}
    (member : part ∈ noted)
    (yields : on (visitParts basis place visitModule uses noted) found =
      (.ok contents, later)) :
    ∃ uses start made done,
      on (visitPart basis place visitModule uses part.1 part.2) start =
        (.ok made, done) := by
  induction noted generalizing uses contents found later with
  | nil => cases member
  | cons first rest inductionStep =>
      obtain ⟨made, middle, visited, more⟩ := on_bind_eq_ok_iff.1 yields
      obtain ⟨_, _, others, _⟩ := on_bind_eq_ok_iff.1 more
      rcases List.mem_cons.1 member with rfl | among
      · exact ⟨_, _, _, _, visited⟩
      · exact inductionStep among others

/-- A visit that ends well has visited each module that is shown. -/
theorem exists_on_visitModule
    {pending notes : List Note}
    {declarations : List Declaration}
    {contents : Contents}
    {name : String}
    {visibility : Visibility}
    {body : Option (List Declaration)}
    (yields : on (visitAll basis place visitModule pending uses declarations)
      found = (.ok contents, later))
    (member : (notes, .module name visibility body) ∈
      declarationsWithNotes pending declarations)
    (shown : isShown basis.skipsHidden notes = true) :
    ∃ start item done,
      on (visitModule (said notes) name visibility body) start =
        (.ok item, done) := by
  rw [visitAll_eq_visitParts] at yields
  obtain ⟨_, _, _, _, visited⟩ := exists_on_visitPart member yields
  obtain ⟨_, _, read, more⟩ := on_bind_eq_ok_iff.1 visited
  obtain ⟨rfl, rfl⟩ := eq_of_on_remarks read
  obtain ⟨_, _, made, _⟩ := on_bind_eq_ok_iff.1 more
  obtain ⟨skipped, _, asked, opens⟩ := on_bind_eq_ok_iff.1 made
  cases skipped with
  | true =>
      obtain ⟨hides, _⟩ := of_on_isSkipped_true asked
      rw [hides] at shown
      cases shown
  | false =>
      obtain ⟨item, _, visited, _⟩ := on_bind_eq_ok_iff.1 opens
      exact ⟨_, _, _, visited⟩

end CrateShelf.Tree
