import CrateShelf.Proofs.Disk.Reach
import CrateShelf.Proofs.FileName
import CrateShelf.Proofs.Text.Casing
import CrateShelf.Proofs.Text.Lines
import CrateShelf.Store.Place
import Mathlib.Data.Set.Function

/-!
# Names of records' files

A file name is cut at marks that come from no written name, so the item's
name and the discriminator are read back from it.  Files are told apart by
their folded paths; a discriminator of characters that folding leaves alone
is found in the folded path too.

Main statements: name and discriminator are read from the file name; the
names on the path of a file; a file with a discriminator is told from one
without, and files with different discriminators are told apart; different
locations of items of a crate have files with different paths.
-/

namespace CrateShelf

namespace DiskPath

theorem rootOf_of_not_mem
    {text : List Char}
    (absent : '/' ∉ text) :
    rootOf text = "" := by
  have none : text.takeWhile (· = '/') = [] := by
    cases text with
    | nil => rfl
    | cons char text =>
        rw [List.mem_cons, not_or] at absent
        have different : ¬ char = '/' := fun same => absent.1 same.symm
        simp [different]
  simp [rootOf, none]

/-- A text without a slash is one part of a path, or none. -/
theorem parse_of_not_mem
    {text : String}
    (absent : '/' ∉ text.toList) :
    parse text = ⟨"", [text].filter fun part => part != "" && part != "."⟩ := by
  simp [parse, rootOf_of_not_mem absent, Text.splitAt_of_not_mem absent]

/-- One name more at the end of a path. -/
theorem child_of_not_mem
    (path : DiskPath)
    {text : String}
    (absent : '/' ∉ text.toList)
    (some : text ≠ "")
    (different : text ≠ ".") :
    path.child text = path.down [text] := by
  simp [child, join, down, parse_of_not_mem absent, some, different]

/-- The text of a path ends with its last names. -/
theorem toText_down (path : DiskPath) :
    ∃ front : List Char, ∀ names, names ≠ [] →
      (path.down names).toText.toList =
        front ++ ['/'].intercalate (names.map String.toList) := by
  obtain ⟨root, parts⟩ := path
  have shown :
      ∀ names, names ≠ [] →
        ((⟨root, parts⟩ : DiskPath).down names).toText =
          root ++ "/".intercalate (parts ++ names) := by
    intro names some
    simp [toText, down, some]
  have spelled :
      ∀ names, ("/".intercalate names).toList =
        ['/'].intercalate (names.map String.toList) := by
    intro names
    rw [String.toList_intercalate]
    rfl
  by_cases none : parts = []
  · refine ⟨root.toList, ?_⟩
    intro names some
    rw [shown names some, none, List.nil_append, String.toList_append,
      spelled]
  · refine ⟨(root ++ "/".intercalate parts ++ "/").toList, ?_⟩
    intro names some
    rw [shown names some, String.intercalate_append_of_ne_nil none some,
      ← spelled, ← String.toList_append]
    simp only [String.append_assoc]

end DiskPath

/-- Different kinds have different marks. -/
theorem Kind.fileMark_injective : Function.Injective Kind.fileMark := by
  intro first second same
  cases first <;> cases second <;> first | rfl | exact absurd same (by decide)

namespace Location

open CrateShelf.Store

variable
    {location : Location}
    {mark : String}

/-! ## Reading file names -/

theorem not_mem_fileMark (kind : Kind) :
    '~' ∉ kind.fileMark.toList ∧ '/' ∉ kind.fileMark.toList := by
  cases kind <;> decide

/-- The mark of a kind, if there is one, ends with a hyphen. -/
theorem fileMark_cases (kind : Kind) :
    kind.fileMark.toList = [] ∨
      ∃ front, kind.fileMark.toList = front ++ ['-'] := by
  have ends :
      kind.fileMark.toList = [] ∨
        kind.fileMark.toList = kind.fileMark.toList.dropLast ++ ['-'] := by
    cases kind <;> decide
  rcases ends with none | some
  · exact Or.inl none
  · exact Or.inr ⟨_, some⟩

theorem toList_marked
    (known : location.discriminator = .text mark) :
    location.marked.toList =
      if mark = "" then [] else '~' :: mark.toList := by
  unfold marked
  rw [known]
  by_cases empty : mark = ""
  · simp [empty, Pack.Value.isTruthy]
  · simp [empty, Pack.Value.isTruthy, discriminatorMark]

theorem toList_fileName (location : Location) :
    location.fileName.toList =
      location.kind.fileMark.toList ++
        (FileName.encode location.name.written).toList ++
        location.marked.toList ++ fileEnding.toList := by
  simp [fileName]

/-- What stands before the discriminator has no tilde. -/
theorem not_mem_front (location : Location) :
    '~' ∉ location.kind.fileMark.toList ++
      (FileName.encode location.name.written).toList := by
  rw [List.mem_append, not_or]
  exact ⟨(not_mem_fileMark location.kind).1,
    FileName.not_mem_encode (by decide) location.name.written⟩

/-- The discriminator is read from the file name. -/
theorem discriminatorOf_fileName
    (known : location.discriminator = .text mark)
    (plain : '~' ∉ mark.toList) :
    discriminatorOf location.fileName = mark := by
  unfold discriminatorOf
  dsimp only
  rw [toList_fileName, Text.dropEnding_append, toList_marked known]
  by_cases empty : mark = ""
  · rw [if_pos empty, List.append_nil, discriminatorMark,
      Text.afterLast?_of_not_mem (not_mem_front location), empty]
    rfl
  · rw [if_neg empty, discriminatorMark, Text.afterLast?_append _ plain]
    simp

/-- The item's name is read from the file name. -/
theorem nameOf_fileName
    (known : location.discriminator = .text mark) :
    nameOf location.fileName = .ok location.name.written := by
  have front :
      (Text.cutFirst discriminatorMark
          (location.kind.fileMark.toList ++
            (FileName.encode location.name.written).toList ++
            location.marked.toList)).1 =
        location.kind.fileMark.toList ++
          (FileName.encode location.name.written).toList := by
    rw [toList_marked known, discriminatorMark]
    split
    · rw [List.append_nil,
        Text.cutFirst_of_not_mem (not_mem_front location)]
    · rw [Text.cutFirst_append (not_mem_front location)]
  have noHyphen :
      '-' ∉ (FileName.encode location.name.written).toList :=
    FileName.not_mem_encode (by decide) location.name.written
  have name :
      (Text.afterLast? '-'
          (location.kind.fileMark.toList ++
            (FileName.encode location.name.written).toList)).getD
          (location.kind.fileMark.toList ++
            (FileName.encode location.name.written).toList) =
        (FileName.encode location.name.written).toList := by
    rcases fileMark_cases location.kind with none | ⟨start, some⟩
    · rw [none, List.nil_append, Text.afterLast?_of_not_mem noHyphen]
      rfl
    · rw [some, List.append_assoc, List.singleton_append,
        Text.afterLast?_append start noHyphen]
      rfl
  unfold nameOf
  rw [toList_fileName, Text.dropEnding_append]
  dsimp only
  rw [front, name, String.ofList_toList, FileName.decode_of_encode]

theorem endsWith_fileName (location : Location) :
    location.fileName.endsWith fileEnding = true := by
  rw [String.endsWith, String.Slice.endsWith_string_iff, String.copy_toSlice,
    toList_fileName]
  exact List.suffix_append _ _

/-! ## Paths of files -/

/-- The names that lead from the directory of the crate to the file of the
record. -/
def steps (location : Location) : List String :=
  (location.path.pop.segments.filter (· != "")).map FileName.encode ++
    [location.fileName]

/-- Every step is a name of its own. -/
theorem not_mem_fileName
    (slashFree : '/' ∉ location.marked.toList) :
    '/' ∉ location.fileName.toList := by
  rw [toList_fileName]
  simp only [List.mem_append, not_or]
  exact ⟨⟨⟨(not_mem_fileMark location.kind).2,
    FileName.not_mem_encode (by decide) _⟩, slashFree⟩, by decide⟩

/-- Encoded segments lead on by a name each, but for empty ones. -/
theorem foldl_child_encode
    (segments : List String)
    (path : DiskPath) :
    (segments.map FileName.encode).foldl DiskPath.child path =
      path.down ((segments.filter (· != "")).map FileName.encode) := by
  induction segments generalizing path with
  | nil => simp
  | cons segment segments inductionStep =>
      rw [List.map_cons, List.foldl_cons, inductionStep]
      have noSlash : '/' ∉ (FileName.encode segment).toList :=
        FileName.not_mem_encode (by decide) segment
      by_cases empty : segment = ""
      · subst empty
        have nothing : path.child (FileName.encode "") = path :=
          DiskPath.join_empty path
        simp [nothing]
      · have noDot : FileName.encode segment ≠ "." := by
          intro same
          have absent : '.' ∉ (FileName.encode segment).toList :=
            FileName.not_mem_encode (by decide) segment
          rw [same] at absent
          exact absent (by decide)
        have some : FileName.encode segment ≠ "" := by
          rw [ne_eq, FileName.encode_eq_empty_iff]
          exact empty
        rw [DiskPath.child_of_not_mem path noSlash some noDot]
        simp [empty]

/-- The path of a file leads from that of the crate's directory on. -/
theorem relativePath_eq
    (slashFree : '/' ∉ location.marked.toList) :
    relativePath location =
      ((⟨"", []⟩ : DiskPath).child location.crate.dirName).down
        location.steps := by
  have ending : fileEnding.toList <:+ location.fileName.toList := by
    rw [toList_fileName]
    exact List.suffix_append _ _
  have long := ending.length_le
  have notEmpty : location.fileName ≠ "" := by
    intro empty
    rw [empty] at long
    exact absurd long (by decide)
  have notDot : location.fileName ≠ "." := by
    intro dot
    rw [dot] at long
    exact absurd long (by decide)
  unfold relativePath directory steps
  rw [List.foldl_cons, foldl_child_encode,
    DiskPath.child_of_not_mem _ (not_mem_fileName slashFree) notEmpty notDot,
    DiskPath.down_down]

/-! ## Telling files apart -/

theorem toList_fileKey (location : Location) :
    (fileKey location).toList =
      Text.foldCase (relativePath location).toText.toList := by
  simp [fileKey]

/-- On the way to a file there is a tilde only in front of its
discriminator. -/
theorem not_mem_steps
    (plain : location.discriminator = .text "") :
    '~' ∉ ['/'].intercalate (location.steps.map String.toList) := by
  intro member
  rcases Text.mem_intercalate member with separator | ⟨piece, known, inside⟩
  · exact absurd separator (by decide)
  · obtain ⟨step, inSteps, rfl⟩ := List.mem_map.1 known
    rw [steps, List.mem_append, List.mem_singleton] at inSteps
    rcases inSteps with directory | rfl
    · obtain ⟨segment, _, rfl⟩ := List.mem_map.1 directory
      exact FileName.not_mem_encode (by decide) segment inside
    · rw [toList_fileName, toList_marked plain, if_pos rfl, List.append_nil,
        List.mem_append] at inside
      rcases inside with front | ending
      · exact not_mem_front location front
      · exact absurd ending (by decide)

/-- The path of a file with a discriminator, and of its folded form, end with
it. -/
theorem exists_toText_eq
    (known : location.discriminator = .text mark)
    (some : mark ≠ "")
    (slashFree : '/' ∉ mark.toList) :
    ∃ front,
      (relativePath location).toText.toList =
        front ++ '~' :: (mark.toList ++ fileEnding.toList) := by
  have noSlash : '/' ∉ location.marked.toList := by
    rw [toList_marked known, if_neg some, List.mem_cons, not_or]
    exact ⟨by decide, slashFree⟩
  obtain ⟨lead, shown⟩ :=
    DiskPath.toText_down
      (((⟨"", []⟩ : DiskPath).child location.crate.dirName).down
        ((location.path.pop.segments.filter (· != "")).map FileName.encode))
  have text := shown [location.fileName] (by simp)
  rw [DiskPath.down_down] at text
  rw [relativePath_eq noSlash, steps, text]
  refine ⟨lead ++ (location.kind.fileMark.toList ++
    (FileName.encode location.name.written).toList), ?_⟩
  simp [toList_fileName, toList_marked known, some]

/-- Whether case folding leaves every character of a text alone, and none is
a tilde or a slash. -/
def IsMark (text : String) : Prop :=
  ∀ char ∈ text.toList,
    Text.foldChar char = [char] ∧ char ≠ '~' ∧ char ≠ '/'

theorem IsMark.not_mem_tilde
    (isMark : IsMark mark) :
    '~' ∉ mark.toList :=
  fun member => (isMark '~' member).2.1 rfl

theorem IsMark.not_mem_slash
    (isMark : IsMark mark) :
    '/' ∉ mark.toList :=
  fun member => (isMark '/' member).2.2 rfl

theorem IsMark.not_mem_marked
    (isMark : IsMark mark)
    (known : location.discriminator = .text mark) :
    '/' ∉ location.marked.toList := by
  rw [toList_marked known]
  split
  · simp
  · rw [List.mem_cons, not_or]
    exact ⟨by decide, isMark.not_mem_slash⟩

/-- The key of a file with a discriminator ends with it. -/
theorem afterLast?_fileKey
    (known : location.discriminator = .text mark)
    (some : mark ≠ "")
    (isMark : IsMark mark) :
    Text.afterLast? '~' (fileKey location).toList =
      Option.some (mark.toList ++ fileEnding.toList) := by
  obtain ⟨front, text⟩ := exists_toText_eq known some isMark.not_mem_slash
  have kept : ∀ char ∈ mark.toList ++ fileEnding.toList,
      Text.foldChar char = [char] := by
    intro char member
    rcases List.mem_append.1 member with inMark | inEnding
    · exact (isMark char inMark).1
    · have all :
          fileEnding.toList.all (fun char => Text.foldChar char = [char]) =
            true := by
        decide
      exact of_decide_eq_true (List.all_eq_true.1 all char inEnding)
  have absent : '~' ∉ mark.toList ++ fileEnding.toList := by
    rw [List.mem_append, not_or]
    exact ⟨isMark.not_mem_tilde, by decide⟩
  rw [toList_fileKey, text, Text.foldCase_append, Text.foldCase_tilde_cons,
    Text.foldCase_of_kept kept, Text.afterLast?_append _ absent]

/-- Files with discriminators that are not told apart have the same one. -/
theorem eq_of_fileKey_eq
    {other : Location}
    {otherMark : String}
    (known : location.discriminator = .text mark)
    (some : mark ≠ "")
    (isMark : IsMark mark)
    (otherKnown : other.discriminator = .text otherMark)
    (otherSome : otherMark ≠ "")
    (otherIsMark : IsMark otherMark)
    (same : fileKey location = fileKey other) :
    mark = otherMark := by
  have ends := afterLast?_fileKey known some isMark
  rw [same, afterLast?_fileKey otherKnown otherSome otherIsMark] at ends
  have letters := List.append_cancel_right (Option.some.inj ends)
  exact String.toList_inj.1 letters.symm

/-- A file with a discriminator is told apart from one of the same crate
without. -/
theorem fileKey_ne
    {other : Location}
    (sameCrate : location.crate = other.crate)
    (plain : location.discriminator = .text "")
    (otherKnown : other.discriminator = .text mark)
    (otherSome : mark ≠ "")
    (otherIsMark : IsMark mark) :
    fileKey location ≠ fileKey other := by
  intro same
  obtain ⟨lead, shown⟩ :=
    DiskPath.toText_down ((⟨"", []⟩ : DiskPath).child location.crate.dirName)
  have slashFree : '/' ∉ location.marked.toList := by
    rw [toList_marked plain, if_pos rfl]
    simp
  have someSteps : ∀ place : Location, place.steps ≠ [] := by
    intro place
    simp [steps]
  have text := shown location.steps (someSteps location)
  have otherText := shown other.steps (someSteps other)
  rw [← relativePath_eq slashFree] at text
  rw [sameCrate, ← relativePath_eq (otherIsMark.not_mem_marked otherKnown)]
    at otherText
  have keys := congrArg String.toList same
  rw [toList_fileKey, toList_fileKey, text, otherText, Text.foldCase_append,
    Text.foldCase_append] at keys
  have tails := List.append_cancel_left keys
  have tilde :
      '~' ∈ ['/'].intercalate (other.steps.map String.toList) := by
    have inName : '~' ∈ other.fileName.toList := by
      rw [toList_fileName, toList_marked otherKnown, if_neg otherSome]
      simp
    apply Text.mem_intercalate_of_mem
    exact ⟨other.fileName.toList, by simp [steps], inName⟩
  rw [← Text.mem_foldCase_tilde, ← tails, Text.mem_foldCase_tilde] at tilde
  exact not_mem_steps plain tilde

/-! ## Files as addresses -/

variable {other : Location}

/-- Whether a location is that of an item: its path has no empty segment and
ends with its name, and its discriminator has neither tildes nor slashes, as
one of hexadecimal digits. -/
structure IsOfItem (location : Location) : Prop where
  filled : "" ∉ location.path.segments
  named : ∃ name,
    location.path.name? = some name ∧ location.name = .text name
  marked : ∃ mark,
    location.discriminator = .text mark ∧
      '~' ∉ mark.toList ∧ '/' ∉ mark.toList

/-- The name is that of the only file of its kind, name and discriminator. -/
theorem eq_of_fileName_eq
    {name otherName mark otherMark : String}
    (named : location.name = .text name)
    (otherNamed : other.name = .text otherName)
    (known : location.discriminator = .text mark)
    (otherKnown : other.discriminator = .text otherMark)
    (plain : '~' ∉ mark.toList)
    (otherPlain : '~' ∉ otherMark.toList)
    (same : location.fileName = other.fileName) :
    location.kind = other.kind ∧ location.name = other.name ∧
      location.discriminator = other.discriminator := by
  have names : name = otherName := by
    have read := nameOf_fileName known
    rw [same, nameOf_fileName otherKnown, named, otherNamed] at read
    exact (Except.ok.inj read).symm
  have marks : mark = otherMark := by
    rw [← discriminatorOf_fileName known plain, same,
      discriminatorOf_fileName otherKnown otherPlain]
  subst names marks
  refine ⟨Kind.fileMark_injective (String.toList_inj.1 ?_),
    named.trans otherNamed.symm, known.trans otherKnown.symm⟩
  have letters := congrArg String.toList same
  rw [toList_fileName, toList_fileName, named, otherNamed,
    toList_marked known, toList_marked otherKnown] at letters
  simpa only [List.append_assoc, List.append_cancel_right_eq] using letters

/-- The steps to a file are the way to one item only. -/
theorem eq_of_steps_eq
    (ofItem : location.IsOfItem)
    (otherOfItem : other.IsOfItem)
    (sameCrate : location.crate = other.crate)
    (same : location.steps = other.steps) :
    location = other := by
  obtain ⟨filled, ⟨name, ends, named⟩, mark, known, plain, _⟩ := ofItem
  obtain ⟨otherFilled, ⟨otherName, otherEnds, otherNamed⟩, otherMark,
    otherKnown, otherPlain, _⟩ := otherOfItem
  have whole : ∀ {place : Location}, "" ∉ place.path.segments →
      place.path.pop.segments.filter (· != "") = place.path.pop.segments := by
    intro place filled
    refine List.filter_eq_self.2 fun segment member => bne_iff_ne.2 ?_
    rintro rfl
    exact filled (List.dropLast_subset _ member)
  rw [steps, steps, whole filled, whole otherFilled] at same
  obtain ⟨directories, files⟩ := List.append_inj' same rfl
  have fronts : location.path.pop.segments = other.path.pop.segments :=
    List.map_injective_iff.2 FileName.encode_injective directories
  obtain ⟨sameKind, sameName, sameMark⟩ :=
    eq_of_fileName_eq named otherNamed known otherKnown plain otherPlain
      (List.cons.inj files).1
  have lasts : name = otherName := by
    rw [named, otherNamed] at sameName
    exact Pack.Value.text.inj sameName
  have samePath : location.path = other.path := by
    have split := List.dropLast_append_getLast? name ends
    have otherSplit := List.dropLast_append_getLast? otherName otherEnds
    have segments : location.path.segments = other.path.segments := by
      rw [← split, ← otherSplit, lasts]
      exact congrArg (· ++ [otherName]) fronts
    exact congrArg ItemPath.mk segments
  obtain ⟨_, _, _, _, _⟩ := location
  obtain ⟨_, _, _, _, _⟩ := other
  dsimp only at sameCrate samePath sameName sameKind sameMark
  rw [sameCrate, samePath, sameName, sameKind, sameMark]

theorem IsOfItem.relativePath_eq
    (ofItem : location.IsOfItem) :
    relativePath location =
      ((⟨"", []⟩ : DiskPath).child location.crate.dirName).down
        location.steps := by
  obtain ⟨_, _, mark, known, _, slashFree⟩ := ofItem
  apply Location.relativePath_eq
  rw [toList_marked known]
  split
  · simp
  · rw [List.mem_cons, not_or]
    exact ⟨by decide, slashFree⟩

/--
The name of a file tells the name of the item, whatever characters it has, and
the discriminator, if this has no tilde.  Different locations of items of a
crate have files with different paths.
-/
theorem told_by_fileName_and_injOn_relativePath :
    (∀ (location : Location) (name mark : String),
      location.name = .text name →
        location.discriminator = .text mark →
          '~' ∉ mark.toList →
            nameOf location.fileName = .ok name ∧
              discriminatorOf location.fileName = mark) ∧
    ∀ crate : CrateId,
      Set.InjOn relativePath
        {location | location.crate = crate ∧ location.IsOfItem} := by
  constructor
  · intro location name mark named known plain
    have read := nameOf_fileName known
    rw [named] at read
    exact ⟨read, discriminatorOf_fileName known plain⟩
  · rintro crate location ⟨inCrate, ofItem⟩ other ⟨otherInCrate, otherOfItem⟩
      same
    have sameCrate := inCrate.trans otherInCrate.symm
    rw [ofItem.relativePath_eq, otherOfItem.relativePath_eq, sameCrate]
      at same
    exact eq_of_steps_eq ofItem otherOfItem sameCrate
      (List.append_cancel_left (congrArg DiskPath.parts same))

/-- A macro whose name has all marks that file names are cut at. -/
def markedMacro : Location :=
  ⟨⟨"shapes", "1.0.0"⟩, ⟨["shapes", "a-b~c/d.odoc"]⟩, "a-b~c/d.odoc",
    .macroRules, "0c37fe"⟩

theorem told_by_fileName_and_injOn_relativePath_markedMacro :
    nameOf markedMacro.fileName = .ok "a-b~c/d.odoc" ∧
      discriminatorOf markedMacro.fileName = "0c37fe" ∧
      relativePath markedMacro ≠
        relativePath { markedMacro with kind := .function } := by
  obtain ⟨told, apart⟩ := told_by_fileName_and_injOn_relativePath
  have ofItem : ∀ kind, { markedMacro with kind := kind }.IsOfItem :=
    fun kind => ⟨by simp [markedMacro], ⟨_, rfl, rfl⟩, _, rfl, by decide,
      by decide⟩
  obtain ⟨name, mark⟩ := told markedMacro _ _ rfl rfl (by decide)
  exact ⟨name, mark, (apart markedMacro.crate).ne ⟨rfl, ofItem .macroRules⟩
    ⟨rfl, ofItem .function⟩ (by decide)⟩

end Location

end CrateShelf
