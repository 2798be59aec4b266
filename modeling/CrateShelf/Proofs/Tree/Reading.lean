import CrateShelf.Proofs.Tree.Visiting
import CrateShelf.Tree.Flatten

/-!
# What reading a crate amounts to

The visit of a crate as a relation between declarations and what is found in
them.  Each declaration other than a module that can be opened contributes a
share of its own; an opened module contributes what is found inside.

Main statement: a visit that ends well finds what the relation says.
-/

namespace CrateShelf.Tree

open Docs (Note Remarks)
open Source (Declaration)
open Visit

variable [Depths]

/-- Where the declarations of a module stand and what they are, if the module
has a body or can be read from a file. -/
def opened? (files : FileTree) (place : Place) (name : String)
    (override? : Option WideText) :
    Option (List Declaration) → Option (Place × List Declaration)
  | some body =>
    some (⟨place.path.push name, place.file?,
      place.directory?.map (·.child name)⟩, body)
  | none =>
    (loaded? files place name override?).map fun loaded =>
      (⟨place.path.push name, some loaded.1,
        some (childDirectory loaded.1)⟩, loaded.2)

/-- What a declaration adds to a crate. -/
structure Share where
  items : List Item := []
  impls : List Impl := []
  /-- The paths of items that are left out because they are hidden. -/
  hidden : List ItemPath := []

/-- What several declarations make of a module and add to its crate. -/
structure Outline extends Share where
  uses : UseTable := []

/-- The outline with the share of an earlier declaration. -/
def Outline.add (outline : Outline) (share : Share) : Outline where
  items := share.items ++ outline.items
  impls := share.impls ++ outline.impls
  hidden := share.hidden ++ outline.hidden
  uses := outline.uses

/-- The `impl` block that a declaration makes, with its number. -/
def implOf (skipsHidden : Bool) (place : Place) (notes : List Note)
    (order : Nat) (head : Source.ImplHead)
    (body : Option (List Declaration)) : Impl where
  modulePath := place.path
  targetText := head.targetText
  traitText := head.traitText
  safety := if head.isUnsafe then .unchecked else .normal
  items := assocItemsOf skipsHidden
    (if head.traitText.isSome then .traitMethod else .inherentMethod)
    (bodyWithNotes [] (body.getD []))
  docs := (said notes).docs
  file? := place.file?
  start := head.start
  order

/-- Whether nothing is made of a declaration, and nothing can be hidden. -/
def isMute : Declaration → Bool
  | .note _ | .macroCall _ _ | .statement => true
  | _ => false

/-- Whether a declaration is that of a module. -/
def isModule : Declaration → Bool
  | .module _ _ _ => true
  | _ => false

/-- The imports of a module after a declaration. -/
def usesAfter (root path : ItemPath) (uses : UseTable) :
    Declaration → UseTable
  | .importing _ _ tree => uses.addTree path root tree
  | _ => uses

/-- The functions of a block of foreign declarations. -/
def foreignFunctions (body : Option (List Declaration)) :
    List (List Note × Source.FunctionHead) :=
  functionsAmong (bodyWithNotes [] (body.getD []))

/-- What a declaration with notes adds, if it is no module that can be
opened. -/
inductive Contributes (files : FileTree) (skipsHidden : Bool) (place : Place)
    (notes : List Note) : Declaration → Share → Prop where
  | importing (text : String) (visibility : Visibility)
      (tree : Source.UseTree) :
    Contributes files skipsHidden place notes
      (.importing text visibility tree)
      { items := [.importing text visibility] }
  | hiddenImpl (head : Source.ImplHead) (body : Option (List Declaration))
      (hides : isShown skipsHidden notes = false) :
    Contributes files skipsHidden place notes (.impl head body) {}
  | impl (head : Source.ImplHead) (body : Option (List Declaration))
      (order : Nat) (shown : isShown skipsHidden notes = true) :
    Contributes files skipsHidden place notes (.impl head body)
      { items := [.impl order]
        impls := [implOf skipsHidden place notes order head body] }
  | foreign (mark : Source.ExternMark) (body : Option (List Declaration)) :
    Contributes files skipsHidden place notes (.foreign mark body)
      { items := foreignItemsOf skipsHidden place.path (markedAbi mark)
          (foreignFunctions body)
        hidden := foreignHidden skipsHidden place.path
          (foreignFunctions body) }
  | mute (declaration : Declaration) (mute : isMute declaration = true) :
    Contributes files skipsHidden place notes declaration {}
  | hidden (declaration : Declaration) (name : String)
      (named : nameOf? declaration = some name)
      (hides : isShown skipsHidden notes = false) :
    Contributes files skipsHidden place notes declaration
      { hidden := [place.path.push name] }
  | unopened (name : String) (visibility : Visibility)
      (body : Option (List Declaration)) (docs : List WideText)
      (shown : isShown skipsHidden notes = true)
      (closed : opened? files place name (said notes).file? body = none) :
    Contributes files skipsHidden place notes (.module name visibility body)
      { items := [.module ⟨name, place.path.push name, visibility, docs⟩
          { file? := place.file? } []] }
  | plain (declaration : Declaration) (name : String)
      (named : nameOf? declaration = some name)
      (noModule : isModule declaration = false)
      (shown : isShown skipsHidden notes = true) :
    Contributes files skipsHidden place notes declaration
      { items := plainItemsOf skipsHidden (place.path.push name)
          (said notes).docs declaration }

/-- What declarations in a module make of it, given its imports so far. -/
inductive Reads (files : FileTree) (root : ItemPath) (skipsHidden : Bool) :
    Place → List (List Note × Declaration) → UseTable → Outline → Prop where
  | nil (place : Place) (uses : UseTable) :
    Reads files root skipsHidden place [] uses { uses }
  | flat {place : Place} {notes : List Note} {declaration : Declaration}
      {rest : List (List Note × Declaration)} {uses : UseTable}
      {share : Share} {outline : Outline}
      (first : Contributes files skipsHidden place notes declaration share)
      (others : Reads files root skipsHidden place rest
        (usesAfter root place.path uses declaration) outline) :
    Reads files root skipsHidden place ((notes, declaration) :: rest) uses
      (outline.add share)
  | module {place inner : Place} {notes : List Note} {name : String}
      {visibility : Visibility} {body : Option (List Declaration)}
      {declarations : List Declaration}
      {rest : List (List Note × Declaration)} {uses : UseTable}
      {inside outline : Outline} (file? : Option DiskPath)
      (docs : List WideText) (shown : isShown skipsHidden notes = true)
      (opens : opened? files place name (said notes).file? body =
        some (inner, declarations))
      (within : Reads files root skipsHidden inner
        (declarationsWithNotes [] declarations) [] inside)
      (others : Reads files root skipsHidden place rest uses outline) :
    Reads files root skipsHidden place
      ((notes, .module name visibility body) :: rest) uses
      (outline.add {
        items := [.module ⟨name, place.path.push name, visibility, docs⟩
          { file?, uses := inside.uses } inside.items]
        impls := inside.impls
        hidden := inside.hidden })

variable {basis : Basis} {found later : Findings}

/-- What the job that reads modules yields for a module. -/
inductive Opens (basis : Basis) (place : Place) (notes : List Note)
    (name : String) (visibility : Visibility)
    (body : Option (List Declaration)) (found later : Findings) :
    Item → Prop where
  | closed (docs : List WideText)
      (closed : opened? basis.files place name (said notes).file? body = none)
      (adds : Adds [] [] found later) :
    Opens basis place notes name visibility body found later
      (.module ⟨name, place.path.push name, visibility, docs⟩
        { file? := place.file? } [])
  | opened {inner : Place} {declarations : List Declaration}
      {inside : Outline} (file? : Option DiskPath) (docs : List WideText)
      (opens : opened? basis.files place name (said notes).file? body =
        some (inner, declarations))
      (within : Reads basis.files basis.root basis.skipsHidden inner
        (declarationsWithNotes [] declarations) [] inside)
      (adds : Adds inside.hidden inside.impls found later) :
    Opens basis place notes name visibility body found later
      (.module ⟨name, place.path.push name, visibility, docs⟩
        { file?, uses := inside.uses } inside.items)

/-- A visit of declarations finds what the relation says. -/
def Finds (basis : Basis) (place : Place)
    (noted : List (List Note × Declaration)) (uses : UseTable)
    (before : List Item) (contents : Contents) (found later : Findings) :
    Prop :=
  ∃ outline : Outline,
    Reads basis.files basis.root basis.skipsHidden place noted uses outline ∧
    contents = { items := before ++ outline.items, uses := outline.uses } ∧
    Adds outline.hidden outline.impls found later

theorem Finds.flat
    {place : Place}
    {notes : List Note}
    {declaration : Declaration}
    {rest : List (List Note × Declaration)}
    {uses : UseTable}
    {share : Share}
    {contents : Contents}
    {found middle later : Findings}
    (first : Contributes basis.files basis.skipsHidden place notes
      declaration share)
    (added : Adds share.hidden share.impls found middle)
    (others : Finds basis place rest
      (usesAfter basis.root place.path uses declaration) share.items contents
      middle later) :
    Finds basis place ((notes, declaration) :: rest) uses [] contents
      found later := by
  obtain ⟨outline, reads, rfl, adds⟩ := others
  exact ⟨outline.add share, .flat first reads, rfl, added.trans adds⟩

theorem Finds.module
    {place : Place}
    {notes : List Note}
    {name : String}
    {visibility : Visibility}
    {body : Option (List Declaration)}
    {rest : List (List Note × Declaration)}
    {uses : UseTable}
    {item : Item}
    {contents : Contents}
    {found middle later : Findings}
    (shown : isShown basis.skipsHidden notes = true)
    (opens : Opens basis place notes name visibility body found middle item)
    (others : Finds basis place rest uses [item] contents middle later) :
    Finds basis place ((notes, .module name visibility body) :: rest) uses []
      contents found later := by
  cases opens with
  | closed docs closed adds =>
      exact Finds.flat (.unopened name visibility body docs shown closed)
        adds others
  | opened file? docs opens within added =>
      obtain ⟨outline, reads, rfl, adds⟩ := others
      exact ⟨_, .module file? docs shown opens within reads, rfl,
        added.trans adds⟩

omit [Depths] in
theorem of_on_recordImpl
    {place : Place}
    {notes : List Note}
    {head : Source.ImplHead}
    {body : Option (List Declaration)}
    {item : Item}
    (yields : on (recordImpl basis place (said notes).docs head body) found =
      (.ok item, later)) :
    ∃ order, item = .impl order ∧
      Adds [] [implOf basis.skipsHidden place notes order head body]
        found later := by
  obtain ⟨_, middle, read, rest⟩ := on_bind_eq_ok_iff.1 yields
  obtain ⟨rfl, rfl⟩ := eq_of_on_assocItems read
  cases rest
  exact ⟨middle.impls.length, rfl, fun path => by simp, rfl⟩

omit [Depths] in
theorem usesAfter_of_named
    {declaration : Declaration}
    {name : String}
    (named : nameOf? declaration = some name)
    (root path : ItemPath)
    (uses : UseTable) :
    usesAfter root path uses declaration = uses := by
  cases declaration with
  | importing text visibility tree => cases named
  | _ => rfl

section

variable
    {place : Place}
    {visitModule : ModuleVisit}
    (opens : ∀ {notes name visibility body item found later},
      on (visitModule (said notes) name visibility body) found =
          (.ok item, later) →
        Opens basis place notes name visibility body found later item)
    {notes : List Note}
    {declaration : Declaration}
    {rest : List (List Note × Declaration)}
    {uses : UseTable}
    {contents : Contents}
    {middle : Findings}

include opens

/-- What is named is left out if it is hidden; otherwise a module is opened,
and any other declaration makes its items. -/
theorem finds_of_visitNamed
    {name : String}
    {items : List Item}
    (named : nameOf? declaration = some name)
    (visited : on (visitNamed basis place visitModule (said notes) name
      declaration) found = (.ok items, middle))
    (others : Finds basis place rest uses items contents middle later) :
    Finds basis place ((notes, declaration) :: rest) uses [] contents
      found later := by
  have kept := usesAfter_of_named named basis.root place.path uses
  obtain ⟨skipped, _, asked, more⟩ := on_bind_eq_ok_iff.1 visited
  cases skipped with
  | true =>
      obtain ⟨hides, added⟩ := of_on_isSkipped_true asked
      cases more
      rw [← kept] at others
      exact Finds.flat (.hidden declaration name named hides) added others
  | false =>
      obtain ⟨shown, rfl⟩ := of_on_isSkipped_false asked
      rw [if_neg Bool.false_ne_true] at more
      cases declaration with
      | module name visibility body =>
          cases named
          obtain ⟨_, _, read, built⟩ := on_bind_eq_ok_iff.1 more
          cases built
          exact Finds.module shown (opens read) others
      | _ =>
          obtain ⟨rfl, rfl⟩ := eq_of_on_plainItems more
          rw [← kept] at others
          exact Finds.flat (.plain _ name named rfl shown)
            (adds_nothing rfl rfl) others

/-- What is found in one declaration, before those after it. -/
theorem finds_of_visitPart
    {made : List Item × UseTable}
    (visited : on (visitPart basis place visitModule uses notes declaration)
      found = (.ok made, middle))
    (others : Finds basis place rest made.2 made.1 contents middle later) :
    Finds basis place ((notes, declaration) :: rest) uses [] contents
      found later := by
  obtain ⟨_, _, read, more⟩ := on_bind_eq_ok_iff.1 visited
  obtain ⟨rfl, rfl⟩ := eq_of_on_remarks read
  cases declaration with
  | importing text visibility tree =>
      dsimp only at more
      split at more
      · cases more
      · cases more
        exact Finds.flat (.importing text visibility tree)
          (adds_nothing rfl rfl) others
  | impl head body =>
      obtain ⟨skipped, _, asked, records⟩ := on_bind_eq_ok_iff.1 more
      cases skipped with
      | true =>
          obtain ⟨hides, added⟩ := of_on_isSkipped_true asked
          cases records
          exact Finds.flat (.hiddenImpl head body hides) added others
      | false =>
          obtain ⟨shown, rfl⟩ := of_on_isSkipped_false asked
          obtain ⟨_, _, recorded, built⟩ := on_bind_eq_ok_iff.1 records
          obtain ⟨order, rfl, added⟩ := of_on_recordImpl recorded
          cases built
          exact Finds.flat (.impl head body order shown) added others
  | foreign mark body =>
      obtain ⟨_, _, marked, visits⟩ := on_bind_eq_ok_iff.1 more
      obtain ⟨rfl, rfl⟩ := eq_of_on_abiOf marked
      obtain ⟨_, _, listed, built⟩ := on_bind_eq_ok_iff.1 visits
      obtain ⟨rfl, added⟩ := of_on_foreignItems listed
      cases built
      exact Finds.flat (.foreign mark body) added others
  | note _ | macroCall _ _ | statement =>
      cases more
      exact Finds.flat (.mute _ rfl) (adds_nothing rfl rfl) others
  | _ =>
      obtain ⟨_, _, made, built⟩ := on_bind_eq_ok_iff.1 more
      cases built
      exact finds_of_visitNamed opens rfl made others

/-- What is found in declarations, if modules are read as they should be. -/
theorem finds_of_visitParts
    {noted : List (List Note × Declaration)}
    (yields : on (visitParts basis place visitModule uses noted) found =
      (.ok contents, later)) :
    Finds basis place noted uses [] contents found later := by
  induction noted generalizing uses contents found with
  | nil =>
      cases yields
      exact ⟨_, .nil place uses, rfl, adds_nothing rfl rfl⟩
  | cons part rest inductionStep =>
      obtain ⟨made, _, visited, more⟩ := on_bind_eq_ok_iff.1 yields
      obtain ⟨_, _, others, built⟩ := on_bind_eq_ok_iff.1 more
      cases built
      obtain ⟨outline, reads, rfl, adds⟩ := inductionStep others
      exact finds_of_visitPart opens visited ⟨outline, reads, rfl, adds⟩

end

omit [Depths] in
theorem eq_of_on_innerDocs
    {declarations : List Declaration}
    {docs : List WideText}
    (told : on (innerDocs declarations) found = (.ok docs, later)) :
    later = found := by
  unfold innerDocs at told
  split at told
  · cases told
    rfl
  · cases told

theorem finds_of_visitContainer
    {depth : Nat}
    {place : Place}
    {declarations : List Declaration}
    {docs : List WideText}
    {contents : Contents}
    (yields : on (visitContainer basis depth place declarations) found =
      (.ok (docs, contents), later)) :
    Finds basis place (declarationsWithNotes [] declarations) [] [] contents
      found later := by
  -- The depth bounds how deep modules nest: what is read from an opened
  -- module is known by the induction hypothesis.
  induction depth generalizing place declarations docs contents found later
  with
  | zero => cases yields
  | succ depth inductionStep =>
      rw [visitContainer_succ] at yields
      obtain ⟨_, _, told, visits⟩ := on_bind_eq_ok_iff.1 yields
      obtain ⟨_, _, visited, built⟩ := on_bind_eq_ok_iff.1 visits
      cases built
      rw [eq_of_on_innerDocs told] at visited
      refine finds_of_visitParts ?_ visited
      intro notes name visibility body item found later opens
      cases body with
      | some body =>
          obtain ⟨⟨inner, contents⟩, _, visited, built⟩ :=
            on_bind_eq_ok_iff.1 opens
          cases built
          obtain ⟨outline, reads, rfl, adds⟩ := inductionStep visited
          exact .opened _ _ rfl reads adds
      | none =>
          obtain ⟨loaded, _, loads, more⟩ := on_bind_eq_ok_iff.1 opens
          obtain ⟨rfl, added⟩ := of_on_loadModule loads
          cases loaded : loaded? basis.files place name
              (said notes).file? with
          | none =>
              rw [loaded] at more
              cases more
              have closed : opened? basis.files place name
                  (said notes).file? none = none := by
                rw [opened?, loaded]
                rfl
              exact .closed _ closed added
          | some file =>
              rw [loaded] at more
              obtain ⟨⟨inner, contents⟩, _, visited, built⟩ :=
                on_bind_eq_ok_iff.1 more
              cases built
              obtain ⟨outline, reads, rfl, adds⟩ := inductionStep visited
              have opens : opened? basis.files place name (said notes).file?
                  none = some (⟨place.path.push name, some file.1,
                    some (childDirectory file.1)⟩, file.2) := by
                rw [opened?, loaded]
                rfl
              exact .opened _ _ opens reads (added.trans adds)

/-! ## Whole crates -/

/-- The crate of the samples. -/
def sampleCrate : CrateId := ⟨"krate", "0.1.0"⟩

/-- Where the declarations of a crate's root file stand. -/
def rootPlace (crate : CrateId) (file? : Option DiskPath) : Place :=
  ⟨⟨[CrateId.identifier crate.name.written]⟩, file?,
    file?.map DiskPath.parent⟩

/-- Reads a crate from the declarations of its root file. -/
def visitRoot (basis : Basis) (file? : Option DiskPath)
    (declarations : List Declaration) : Visit CrateTree := do
  let place : Place := ⟨basis.root, file?, file?.map DiskPath.parent⟩
  let (docs, contents) ← visitContainer basis Depths.modules place declarations
  let found ← get
  return {
    head := ⟨basis.root.name?.getD "", basis.root, .everywhere, docs⟩
    info := { isRoot := true, file?, uses := contents.uses }
    items := contents.items
    impls := found.impls
    hidden := found.hidden }

theorem visitCrate_eq (basis : Basis) (text : String)
    (file? : Option DiskPath) :
    visitCrate basis text file? =
      parseFile ((file?.map DiskPath.toText).getD "") text >>=
        visitRoot basis file? := by
  unfold visitCrate
  rfl

/-- The tree of a crate whose root file has some declarations. -/
def treeOf (files : FileTree) (crate : CrateId) (skipsHidden : Bool)
    (file? : Option DiskPath) (declarations : List Declaration) :
    Except TreeError CrateTree :=
  (on (visitRoot ⟨files, (rootPlace crate file?).path, skipsHidden⟩ file?
    declarations) {}).1

omit [Depths] in
theorem fst_recordsAfter
    (crate : CrateId)
    (result : Except TreeError CrateTree × List LogEntry) :
    (recordsAfter crate result).1 =
      result.1.map fun tree => (records crate tree).1 := by
  obtain ⟨outcome, log⟩ := result
  cases outcome with
  | ok tree => rfl
  | error error => rfl

/-- A crate is documented from the declarations that its text parses to. -/
theorem document_of_parse
    {text : String}
    {declarations : List Declaration}
    (parsed : Source.parse text = .ok declarations)
    (files : FileTree)
    (crate : CrateId)
    (skipsHidden : Bool)
    (file? : Option DiskPath) :
    (document files crate skipsHidden text file?).1 =
      (treeOf files crate skipsHidden file? declarations).map
        fun tree => (records crate tree).1 := by
  have visits : ∀ basis : Basis,
      on (visitCrate basis text file?) {} =
        on (visitRoot basis file? declarations) {} := by
    intro basis
    have parses : on (parseFile ((file?.map DiskPath.toText).getD "") text)
        {} = (.ok declarations, {}) :=
      on_parseFile_eq_ok_iff.2 ⟨parsed, rfl⟩
    rw [visitCrate_eq, on_bind, parses]
  rw [document, fst_recordsAfter, readTree, Prod.map_fst, id, treeOf,
    ← visits, on, rootPlace]

/-- A crate whose root file cannot be parsed is not documented. -/
theorem document_of_unparsed
    {text : String}
    {fault : Source.Fault}
    (unparsed : Source.parse text = .error fault)
    (files : FileTree)
    (crate : CrateId)
    (skipsHidden : Bool)
    (file? : Option DiskPath) :
    (document files crate skipsHidden text file?).1 =
      .error (.ofFault ((file?.map DiskPath.toText).getD "") fault) := by
  rw [document, fst_recordsAfter, readTree, Prod.map_fst, id]
  change (on (visitCrate _ text file?) {}).1.map _ = _
  rw [visitCrate_eq, on_bind, parseFile, on_ofExcept, unparsed]
  rfl

/-- A crate that was read is what its declarations make of it. -/
structure IsRead (files : FileTree) (crate : CrateId) (skipsHidden : Bool)
    (file? : Option DiskPath) (declarations : List Declaration)
    (tree : CrateTree) (outline : Outline) : Prop where
  reads : Reads files (rootPlace crate file?).path skipsHidden
    (rootPlace crate file?) (declarationsWithNotes [] declarations) []
    outline
  name_eq : tree.head.name = (rootPlace crate file?).path.name?.getD ""
  path_eq : tree.head.path = (rootPlace crate file?).path
  items_eq : tree.items = outline.items
  uses_eq : tree.info.uses = outline.uses
  impls_eq : tree.impls = outline.impls
  hidden_iff : ∀ path, path ∈ tree.hidden ↔ path ∈ outline.hidden

/-- A crate that was read is what the visit of its root file found. -/
theorem exists_visited
    {files : FileTree}
    {crate : CrateId}
    {skipsHidden : Bool}
    {file? : Option DiskPath}
    {declarations : List Declaration}
    {tree : CrateTree}
    (read : treeOf files crate skipsHidden file? declarations = .ok tree) :
    ∃ docs contents found,
      on (visitContainer ⟨files, (rootPlace crate file?).path, skipsHidden⟩
          Depths.modules (rootPlace crate file?) declarations) {} =
        (.ok (docs, contents), found) ∧
      tree = {
        head := ⟨(rootPlace crate file?).path.name?.getD "",
          (rootPlace crate file?).path, .everywhere, docs⟩
        info := { isRoot := true, file?, uses := contents.uses }
        items := contents.items
        impls := found.impls
        hidden := found.hidden } := by
  unfold treeOf at read
  generalize shape : on (visitRoot
    ⟨files, (rootPlace crate file?).path, skipsHidden⟩ file? declarations)
    {} = result at read
  obtain ⟨outcome, later⟩ := result
  cases read
  obtain ⟨⟨docs, contents⟩, _, visited, more⟩ := on_bind_eq_ok_iff.1 shape
  cases more
  exact ⟨docs, contents, _, visited, rfl⟩

theorem exists_isRead
    {files : FileTree}
    {crate : CrateId}
    {skipsHidden : Bool}
    {file? : Option DiskPath}
    {declarations : List Declaration}
    {tree : CrateTree}
    (read : treeOf files crate skipsHidden file? declarations = .ok tree) :
    ∃ outline,
      IsRead files crate skipsHidden file? declarations tree outline := by
  obtain ⟨docs, contents, found, visited, rfl⟩ := exists_visited read
  obtain ⟨outline, reads, rfl, adds⟩ := finds_of_visitContainer visited
  exact ⟨outline, {
    reads
    name_eq := rfl
    path_eq := rfl
    items_eq := rfl
    uses_eq := rfl
    impls_eq := adds.impls_eq
    hidden_iff := fun path => by simp [adds.hidden_iff] }⟩

end CrateShelf.Tree
