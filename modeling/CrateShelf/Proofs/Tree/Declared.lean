import CrateShelf.Proofs.ItemPath
import CrateShelf.Proofs.Tree.Keys
import CrateShelf.Proofs.Tree.Reading

/-!
# What a crate declares

Where the declarations of a crate put their names, as the language sees it:
below the module that they stand in, whether the module has a body or a file
of its own.

Main statements: the paths remembered as hidden are those declared with the
mark outside of hidden modules; every path that leads to a record of the tree
is that of something declared without the mark.
-/

namespace CrateShelf.Tree

open Docs (Note)
open Source (Declaration)

variable [Depths]

/-- A declaration with notes at a place has or holds another one with its own
notes, which stands at a path.  If hidden items are skipped, nothing stands
in a hidden module. -/
inductive Declares (files : FileTree) (skipsHidden : Bool) :
    Place → List Note → Declaration →
      ItemPath → List Note → Declaration → Prop where
  | own {place : Place} {notes : List Note} {declaration : Declaration}
      {name : String} (named : nameOf? declaration = some name) :
    Declares files skipsHidden place notes declaration
      (place.path.push name) notes declaration
  | foreign {place : Place} {outer notes : List Note}
      {mark : Source.ExternMark} {body : Option (List Declaration)}
      {head : Source.FunctionHead}
      (member : (notes, head) ∈ foreignFunctions body) :
    Declares files skipsHidden place outer (.foreign mark body)
      (place.path.push head.name) notes (.function head)
  | inside {place inner : Place} {outer : List Note} {name : String}
      {visibility : Visibility} {body : Option (List Declaration)}
      {declarations : List Declaration}
      {part : List Note × Declaration}
      {path : ItemPath} {notes : List Note} {declaration : Declaration}
      (shown : isShown skipsHidden outer = true)
      (opens : opened? files place name (said outer).file? body =
        some (inner, declarations))
      (member : part ∈ declarationsWithNotes [] declarations)
      (within : Declares files skipsHidden inner part.1 part.2
        path notes declaration) :
    Declares files skipsHidden place outer (.module name visibility body)
      path notes declaration

/-- The name of the item of a trait or a block that a declaration makes. -/
def assocName? : Declaration → Option String
  | .function head => some head.name
  | .constant name _ _ _ | .typeBound name _ | .typeAlias name _ _
  | .macroCall name _ => some name
  | _ => none

omit [Depths] in
theorem map_name_assocItemOf? (kind : FnKind) (docs : List WideText)
    (declaration : Declaration) :
    (assocItemOf? kind docs declaration).map (·.name) =
      assocName? declaration := by
  cases declaration <;> rfl

/-- The named parts of a declaration with their notes: fields, variants and
the items of traits. -/
def partsOf : Declaration → List (List Note × String)
  | .struct _ _ (.named parts) | .struct _ _ (.ordered parts) =>
    (partsWithNotes [] parts).filterMap fun part =>
      part.2.name.map (part.1, ·)
  | .enum _ _ parts =>
    (partsWithNotes [] parts).map fun part => (part.1, part.2.name)
  | .trait _ _ _ body =>
    (bodyWithNotes [] body).filterMap fun part =>
      (assocName? part.2).map (part.1, ·)
  | _ => []

section

variable (files : FileTree) (skipsHidden : Bool) (place : Place)

/-- A declaration puts something with the mark for hidden items at a path. -/
def Hides (notes : List Note) (declaration : Declaration)
    (path : ItemPath) : Prop :=
  ∃ inner part,
    Declares files skipsHidden place notes declaration path inner part ∧
      (said inner).hidden = true

/-- A declaration puts something at a path that is documented, as an item or
as a part of one. -/
def Shows (notes : List Note) (declaration : Declaration)
    (path : ItemPath) : Prop :=
  ∃ owner inner part,
    Declares files skipsHidden place notes declaration owner inner part ∧
      isShown skipsHidden inner = true ∧
      (path = owner ∨ ∃ piece ∈ partsOf part,
        isShown skipsHidden piece.1 = true ∧ path = owner.push piece.2)

variable (noted : List (List Note × Declaration))

/-- Something is declared at a path with the mark for hidden items. -/
def IsHiddenAt (path : ItemPath) : Prop :=
  ∃ part ∈ noted, Hides files skipsHidden place part.1 part.2 path

/-- Something is declared at a path that is documented. -/
def IsShownAt (path : ItemPath) : Prop :=
  ∃ part ∈ noted, Shows files skipsHidden place part.1 part.2 path

/-- Something is declared at a path without the mark for hidden items, as an
item or as a part of one, in whatever module. -/
def IsUnmarkedAt (path : ItemPath) : Prop :=
  ∃ part ∈ noted, ∃ owner inner declaration,
    Declares files false place part.1 part.2 owner inner declaration ∧
      (path = owner ∧ (said inner).hidden = false ∨
        ∃ piece ∈ partsOf declaration,
          (said piece.1).hidden = false ∧ path = owner.push piece.2)

end

variable
    {files : FileTree}
    {root : ItemPath}
    {skipsHidden : Bool}
    {place : Place}
    {notes : List Note}
    {declaration : Declaration}
    {noted : List (List Note × Declaration)}

theorem path_of_opened?
    {inner : Place}
    {name : String}
    {override? : Option WideText}
    {body : Option (List Declaration)}
    {declarations : List Declaration}
    (opens : opened? files place name override? body =
      some (inner, declarations)) :
    inner.path = place.path.push name := by
  cases body with
  | some body =>
      cases opens
      rfl
  | none =>
      obtain ⟨loaded, _, shape⟩ := Option.map_eq_some_iff.1 opens
      cases shape
      rfl

/-- What is declared at a place stands below it. -/
theorem Declares.isBelow
    {outer : List Note}
    {holder : Declaration}
    {path : ItemPath}
    (declares : Declares files skipsHidden place outer holder path notes
      declaration) :
    path.IsBelow place.path := by
  induction declares with
  | own named => exact ItemPath.isBelow_push _ _
  | foreign member => exact ItemPath.isBelow_push _ _
  | inside shown opens member within inductionStep =>
      rw [path_of_opened? opens] at inductionStep
      exact .of_startsWith inductionStep.1 (ItemPath.isBelow_push _ _)

/-- What is declared outside of hidden modules is declared anyway. -/
theorem Declares.anywhere
    {outer : List Note}
    {holder : Declaration}
    {path : ItemPath}
    (declares : Declares files true place outer holder path notes
      declaration) :
    Declares files false place outer holder path notes declaration := by
  induction declares with
  | own named => exact .own named
  | foreign member => exact .foreign member
  | inside shown opens member within inductionStep =>
      exact .inside rfl opens member inductionStep

theorem IsShownAt.isUnmarkedAt
    {path : ItemPath}
    (shown : IsShownAt files true place noted path) :
    IsUnmarkedAt files place noted path := by
  obtain ⟨part, member, owner, inner, declaration, declares, plain, stands⟩ :=
    shown
  refine ⟨part, member, owner, inner, declaration, declares.anywhere, ?_⟩
  rcases stands with rfl | ⟨piece, among, alsoPlain, rfl⟩
  · exact Or.inl ⟨rfl, by simpa [isShown] using plain⟩
  · exact Or.inr ⟨piece, among, by simpa [isShown] using alsoPlain, rfl⟩

/-! ## Hidden paths -/

/-- A hidden path is that of something declared with the mark. -/
def IsLeftOut (files : FileTree) (skipsHidden : Bool) (place : Place)
    (notes : List Note) (declaration : Declaration) (path : ItemPath) :
    Prop :=
  ∃ inner part, Declares files skipsHidden place notes declaration path
    inner part ∧ isShown skipsHidden inner = false

/-- Whether nothing is declared under a name by a declaration. -/
def isNameless : Declaration → Bool
  | .importing _ _ _ | .impl _ _ => true
  | declaration => isMute declaration

theorem not_declares_of_isNameless
    {outer : List Note}
    {holder : Declaration}
    {path : ItemPath}
    (nameless : isNameless holder = true) :
    ¬ Declares files skipsHidden place outer holder path notes
      declaration := by
  intro declares
  cases declares with
  | own named => cases declaration <;> cases nameless <;> cases named
  | foreign member => cases nameless
  | inside shown opens member within => cases nameless

omit [Depths] in
theorem isNameless_of_isMute
    (mute : isMute declaration = true) :
    isNameless declaration = true := by
  cases declaration <;> first | rfl | exact mute

theorem not_isLeftOut_of_isNameless
    {path : ItemPath}
    (nameless : isNameless declaration = true) :
    ¬ IsLeftOut files skipsHidden place notes declaration path := by
  rintro ⟨inner, part, declares, _⟩
  exact not_declares_of_isNameless nameless declares

/-- Nothing more is declared in something with a name of its own that is no
module, or one that is hidden or cannot be opened. -/
def IsClosed (files : FileTree) (skipsHidden : Bool) (place : Place)
    (notes : List Note) (declaration : Declaration) : Prop :=
  ∀ name visibility body inner declarations,
    declaration = .module name visibility body →
      opened? files place name (said notes).file? body =
          some (inner, declarations) →
        isShown skipsHidden notes = false

theorem IsClosed.declares_iff
    {outer : List Note}
    {holder : Declaration}
    {name : String}
    {path : ItemPath}
    (closed : IsClosed files skipsHidden place outer holder)
    (named : nameOf? holder = some name) :
    Declares files skipsHidden place outer holder path notes declaration ↔
      path = place.path.push name ∧ notes = outer ∧ declaration = holder := by
  constructor
  · intro declares
    cases declares with
    | own alsoNamed =>
        rw [named] at alsoNamed
        cases alsoNamed
        exact ⟨rfl, rfl, rfl⟩
    | foreign member => cases named
    | inside shown opens member within =>
        rw [closed _ _ _ _ _ rfl opens] at shown
        cases shown
  · rintro ⟨rfl, rfl, rfl⟩
    exact .own named

theorem isClosed_of_not_isModule
    (noModule : isModule declaration = false) :
    IsClosed files skipsHidden place notes declaration := by
  rintro name visibility body inner declarations rfl
  cases noModule

theorem declares_foreign_iff
    {outer : List Note}
    {mark : Source.ExternMark}
    {body : Option (List Declaration)}
    {path : ItemPath} :
    Declares files skipsHidden place outer (.foreign mark body) path notes
        declaration ↔
      ∃ head, (notes, head) ∈ foreignFunctions body ∧
        path = place.path.push head.name ∧
          declaration = .function head := by
  constructor
  · intro declares
    cases declares with
    | own named => cases named
    | foreign member => exact ⟨_, member, rfl, rfl⟩
  · rintro ⟨head, member, rfl, rfl⟩
    exact .foreign member

theorem Contributes.mem_hidden_iff
    {share : Share}
    (contributes : Contributes files skipsHidden place notes declaration
      share)
    (path : ItemPath) :
    path ∈ share.hidden ↔
      IsLeftOut files skipsHidden place notes declaration path := by
  cases contributes with
  | importing | hiddenImpl | impl =>
      exact iff_of_false List.not_mem_nil (not_isLeftOut_of_isNameless rfl)
  | mute declaration mute =>
      exact iff_of_false List.not_mem_nil
        (not_isLeftOut_of_isNameless (isNameless_of_isMute mute))
  | foreign mark body =>
      simp only [IsLeftOut, declares_foreign_iff, foreignHidden,
        List.mem_map, List.mem_filter, Bool.not_eq_true', Prod.exists]
      constructor
      · rintro ⟨notes, head, ⟨member, hides⟩, rfl⟩
        exact ⟨notes, _, ⟨head, member, rfl, rfl⟩, hides⟩
      · rintro ⟨notes, _, ⟨head, member, rfl, rfl⟩, hides⟩
        exact ⟨notes, head, ⟨member, hides⟩, rfl⟩
  | hidden declaration name named hides =>
      have closed : IsClosed files skipsHidden place notes declaration :=
        fun _ _ _ _ _ _ _ => hides
      simp [IsLeftOut, closed.declares_iff named, hides]
  | unopened name visibility body docs shown closed =>
      have closed : IsClosed files skipsHidden place notes
          (.module name visibility body) := by
        rintro _ _ _ inner declarations ⟨⟩ opens
        rw [closed] at opens
        cases opens
      simp [IsLeftOut, closed.declares_iff rfl, shown]
  | plain declaration name named noModule shown =>
      have closed : IsClosed files skipsHidden place notes declaration :=
        isClosed_of_not_isModule noModule
      simp [IsLeftOut, closed.declares_iff named, shown]

/-- The paths found hidden are those declared with the mark, if hidden items
are skipped. -/
theorem Reads.mem_hidden_iff
    {uses : UseTable}
    {outline : Outline}
    (reads : Reads files root skipsHidden place noted uses outline)
    (path : ItemPath) :
    path ∈ outline.hidden ↔
      ∃ part ∈ noted,
        IsLeftOut files skipsHidden place part.1 part.2 path := by
  induction reads with
  | nil place uses => simp
  | flat first others inductionStep =>
      rw [List.exists_mem_cons_iff, ← inductionStep,
        ← first.mem_hidden_iff]
      exact List.mem_append
  | module file? docs shown opens within others inside inductionStep =>
      -- An opened module is not hidden itself, so all that it adds is
      -- declared inside of it.
      rw [List.exists_mem_cons_iff, ← inductionStep]
      refine List.mem_append.trans (or_congr_left ?_)
      rw [inside]
      constructor
      · rintro ⟨part, member, notes, declaration, declares, hides⟩
        exact ⟨notes, declaration, .inside shown opens member declares,
          hides⟩
      · rintro ⟨notes, declaration, declares, hides⟩
        cases declares with
        | own named =>
            rw [shown] at hides
            cases hides
        | inside _ alsoOpens member declares =>
            rw [opens] at alsoOpens
            cases alsoOpens
            exact ⟨_, member, notes, declaration, declares, hides⟩

theorem Reads.mem_hidden_iff_isHiddenAt
    {uses : UseTable}
    {outline : Outline}
    (reads : Reads files root true place noted uses outline)
    (path : ItemPath) :
    path ∈ outline.hidden ↔ IsHiddenAt files true place noted path := by
  simp [reads.mem_hidden_iff, IsLeftOut, IsHiddenAt, Hides, isShown]

/-- Nothing is found hidden if hidden items are not skipped. -/
theorem Reads.hidden_eq_nil
    {uses : UseTable}
    {outline : Outline}
    (reads : Reads files root false place noted uses outline) :
    outline.hidden = [] := by
  rw [List.eq_nil_iff_forall_not_mem]
  simp [reads.mem_hidden_iff, IsLeftOut, isShown]

/-! ## Documented paths -/

omit [Depths] in
theorem mem_shownAmong
    {α : Type}
    {parts : List (List Note × α)}
    {part : Docs.Remarks × α} :
    part ∈ shownAmong skipsHidden parts ↔
      ∃ notes, (notes, part.2) ∈ parts ∧
        isShown skipsHidden notes = true ∧ said notes = part.1 := by
  obtain ⟨remarks, value⟩ := part
  simp only [shownAmong, List.mem_map, List.mem_filter, Prod.mk.injEq,
    Prod.exists]
  constructor
  · rintro ⟨notes, _, ⟨member, shown⟩, same, rfl⟩
    exact ⟨notes, member, shown, same⟩
  · rintro ⟨notes, member, shown, same⟩
    exact ⟨notes, value, ⟨member, shown⟩, same, rfl⟩

omit [Depths] in
/-- A field that has a name stands right below its struct. -/
theorem exists_piece_of_mem_fieldKeys
    {path : ItemPath}
    {key : Key}
    {parts : List (Source.Noted Source.FieldHead)}
    (member : key ∈ fieldKeys path (fieldParts skipsHidden parts)) :
    ∃ piece ∈ (partsWithNotes [] parts).filterMap fun part =>
        part.2.name.map (part.1, ·),
      isShown skipsHidden piece.1 = true ∧
        key.path = path.push piece.2 := by
  simp only [fieldKeys, fieldParts, List.mem_filterMap, List.mem_map,
    Option.map_eq_some_iff] at member
  obtain ⟨_, ⟨part, among, rfl⟩, name, named, rfl⟩ := member
  obtain ⟨notes, listed, shown, _⟩ := mem_shownAmong.1 among
  refine ⟨(notes, name), ?_, shown, rfl⟩
  dsimp only at named
  exact List.mem_filterMap.2 ⟨_, listed, by simp [named]⟩

omit [Depths] in
/-- What is made of a declaration other than a module stands at its path or,
for its documented parts, right below. -/
theorem path_of_mem_keys_plainItemsOf
    {path : ItemPath}
    {docs : List WideText}
    {key : Key}
    (member : key ∈ keysOfAll
      (plainItemsOf skipsHidden path docs declaration)) :
    key.path = path ∨ ∃ piece ∈ partsOf declaration,
      isShown skipsHidden piece.1 = true ∧
        key.path = path.push piece.2 := by
  cases declaration with
  | struct name visibility list =>
      simp only [plainItemsOf, keysOfAll, Item.keys, List.append_nil,
        List.mem_cons] at member
      rcases member with rfl | member
      · exact Or.inl rfl
      · cases list with
        | unit => cases member
        | named parts | ordered parts =>
            exact Or.inr (exists_piece_of_mem_fieldKeys member)
  | enum name visibility parts =>
      simp only [plainItemsOf, keysOfAll, Item.keys, List.append_nil,
        List.mem_cons, variantKeys, variantsOf, List.mem_map] at member
      rcases member with rfl | ⟨_, ⟨part, among, rfl⟩, rfl⟩
      · exact Or.inl rfl
      · obtain ⟨notes, listed, shown, _⟩ := mem_shownAmong.1 among
        refine Or.inr ⟨(notes, part.2.name), ?_, shown, rfl⟩
        exact List.mem_map.2 ⟨_, listed, rfl⟩
  | trait name visibility isUnsafe body =>
      simp only [plainItemsOf, keysOfAll, Item.keys, List.append_nil,
        List.mem_cons, assocKeys, assocItemsOf, List.mem_map,
        List.mem_filterMap] at member
      rcases member with rfl | ⟨item, ⟨part, among, made⟩, rfl⟩
      · exact Or.inl rfl
      · obtain ⟨notes, listed, shown, _⟩ := mem_shownAmong.1 among
        refine Or.inr ⟨(notes, item.name), ?_, shown, rfl⟩
        refine List.mem_filterMap.2 ⟨_, listed, ?_⟩
        have named := map_name_assocItemOf? .traitMethod part.1.docs part.2
        rw [made] at named
        simp [← named]
  | function head | constant name visibility typeText valueText
  | macroRules name =>
      simp only [plainItemsOf, keysOfAll, Item.keys, List.append_nil,
        List.mem_singleton] at member
      exact Or.inl (member ▸ rfl)
  | _ => cases member

theorem Declares.shows
    {outer : List Note}
    {holder : Declaration}
    {path : ItemPath}
    (declares : Declares files skipsHidden place outer holder path notes
      declaration)
    (shown : isShown skipsHidden notes = true) :
    Shows files skipsHidden place outer holder path :=
  ⟨path, notes, declaration, declares, shown, Or.inl rfl⟩

theorem Contributes.reaches
    {share : Share}
    (contributes : Contributes files skipsHidden place notes declaration
      share)
    {key : Key}
    (member : key ∈ keysOfAll share.items) :
    ItemPath.Reaches (Shows files skipsHidden place notes declaration)
      place.path key.path := by
  cases contributes with
  | importing | impl | hiddenImpl | mute | hidden => cases member
  | foreign mark body =>
      obtain ⟨item, made, member⟩ := mem_keysOfAll.1 member
      obtain ⟨part, among, rfl⟩ := List.mem_map.1 made
      obtain ⟨notes, listed, shown, _⟩ := mem_shownAmong.1 among
      rw [Item.keys, List.mem_singleton] at member
      subst member
      exact ItemPath.reaches_push ((Declares.foreign listed).shows shown)
  | unopened name visibility body docs shown closed =>
      rw [keysOfAll, keysOfAll, Item.keys, keysOfAll, List.append_nil,
        List.mem_singleton] at member
      subst member
      exact ItemPath.reaches_push ((Declares.own rfl).shows shown)
  | plain declaration name named noModule shown =>
      have own : Declares files skipsHidden place notes declaration
        (place.path.push name) notes declaration := .own named
      rcases path_of_mem_keys_plainItemsOf member with
        same | ⟨piece, among, alsoShown, same⟩
      · rw [same]
        exact ItemPath.reaches_push (own.shows shown)
      · rw [same]
        refine .up (own.shows shown) (ItemPath.reaches_push ?_)
        exact ⟨_, _, _, own, shown, Or.inr ⟨piece, among, alsoShown, rfl⟩⟩

/-- A way to what is documented in a module starts with the module. -/
theorem reaches_through_module
    {inner : Place}
    {name : String}
    {visibility : Visibility}
    {body : Option (List Declaration)}
    {declarations : List Declaration}
    {path : ItemPath}
    (shown : isShown skipsHidden notes = true)
    (opens : opened? files place name (said notes).file? body =
      some (inner, declarations))
    (within : path = inner.path ∨
      ItemPath.Reaches (IsShownAt files skipsHidden inner
        (declarationsWithNotes [] declarations)) inner.path path) :
    ItemPath.Reaches (IsShownAt files skipsHidden place
        ((notes, .module name visibility body) :: noted))
      place.path path := by
  have own : Declares files skipsHidden place notes
    (.module name visibility body) (place.path.push name) notes
    (.module name visibility body) := .own rfl
  have top : IsShownAt files skipsHidden place
      ((notes, .module name visibility body) :: noted)
      (place.path.push name) :=
    ⟨_, List.mem_cons_self, own.shows shown⟩
  rw [path_of_opened? opens] at within
  rcases within with rfl | within
  · exact ItemPath.reaches_push top
  · refine .up top (within.imp ?_)
    rintro middle ⟨part, member, owner, notes, declaration, declares, shows⟩
    exact ⟨_, List.mem_cons_self, owner, notes, declaration,
      .inside shown opens member declares, shows⟩

theorem IsShownAt.of_rest
    {part : List Note × Declaration}
    {path : ItemPath}
    (shows : IsShownAt files skipsHidden place noted path) :
    IsShownAt files skipsHidden place (part :: noted) path := by
  obtain ⟨other, member, shows⟩ := shows
  exact ⟨other, List.mem_cons_of_mem _ member, shows⟩

/-- What is found in declarations is documented there, and so is every module
around it. -/
theorem Reads.reaches
    {uses : UseTable}
    {outline : Outline}
    (reads : Reads files root skipsHidden place noted uses outline)
    {key : Key}
    (member : key ∈ keysOfAll outline.items) :
    ItemPath.Reaches (IsShownAt files skipsHidden place noted)
      place.path key.path := by
  induction reads with
  | nil place uses => cases member
  | flat first others inductionStep =>
      rw [Outline.add, keysOfAll_append, List.mem_append] at member
      rcases member with member | member
      · exact (first.reaches member).imp fun path shows =>
          ⟨_, List.mem_cons_self, shows⟩
      · exact (inductionStep member).imp fun path => IsShownAt.of_rest
  | module file? docs shown opens within others inside inductionStep =>
      rw [Outline.add, keysOfAll_append, List.mem_append] at member
      rcases member with member | member
      · rw [keysOfAll, keysOfAll, Item.keys, List.append_nil,
          List.mem_cons] at member
        apply reaches_through_module shown opens
        rcases member with rfl | member
        · exact Or.inl (path_of_opened? opens).symm
        · exact Or.inr (inside member)
      · exact (inductionStep member).imp fun path => IsShownAt.of_rest

end CrateShelf.Tree
