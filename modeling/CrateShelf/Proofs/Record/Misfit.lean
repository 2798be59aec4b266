import CrateShelf.Proofs.Outcome
import CrateShelf.Store.Basic

/-!
# Content that is not even refused

Most content that no store writes is refused when it is read.  What is not
foreseen is a value that should be cut into the segments of a path but cannot
be cut, links that are no map, and lists and maps that are nested too deeply.

Main statements: which records and which lists of locations are read so far
that one of these values is come upon.
-/

namespace CrateShelf.Record

open CrateShelf.Pack

/-! ## Parts that can be read -/

/-- Whether a value is neither a text nor raw bytes. -/
def isUncuttable : Value → Bool
  | .text _ | .bytes _ => false
  | _ => true

/-- Under a key there is something that does not count as nothing. -/
def HasSomething (entries : List (Value × Value)) (key : String) : Prop :=
  ∃ value, Value.lookup? entries key = some value ∧ value.isTruthy = true

/-- Under a key there is a text. -/
def HasText (entries : List (Value × Value)) (key : String) : Prop :=
  ∃ content, Value.lookup? entries key = some (.text content)

/-- Under a key there is something that should be a path but cannot be cut. -/
def HasUncuttable (entries : List (Value × Value)) (key : String) : Prop :=
  ∃ value,
    Value.lookup? entries key = some value ∧ isUncuttable value = true

theorem require_eq_ok_iff
    {entries : List (Value × Value)}
    {key : String}
    {value : Value} :
    require entries key = .ok value ↔
      Value.lookup? entries key = some value := by
  unfold require
  cases Value.lookup? entries key <;> simp

@[simp]
theorem require_ne_unusable (entries : List (Value × Value)) (key : String) :
    require entries key ≠ .error .unusable := by
  unfold require
  cases Value.lookup? entries key <;> simp

theorem readPath_eq_ok_iff {value : Value} {path : ItemPath} :
    readPath value = .ok path ↔
      ∃ content, value = .text content ∧ ItemPath.parse content = path := by
  cases value <;> simp [readPath]

theorem readPath_eq_unusable_iff {value : Value} :
    readPath value = .error .unusable ↔ isUncuttable value = true := by
  cases value <;> simp [readPath, isUncuttable]

theorem kindOf?_eq_some_iff {value : Value} {kind : Kind} :
    kindOf? value = some kind ↔ value = .text kind.name := by
  cases value with
  | text content =>
      simp only [kindOf?, Value.text.injEq]
      constructor
      · intro found
        exact (Kind.name_of_ofName? content kind found).symm
      · rintro rfl
        exact Kind.ofName?_name kind
  | _ => simp [kindOf?]

theorem readKind_eq_ok_iff {value : Value} {kind : Kind} :
    readKind value = .ok kind ↔ value = .text kind.name := by
  rw [← kindOf?_eq_some_iff, readKind]
  cases kindOf? value <;> simp

@[simp]
theorem readKind_ne_unusable (value : Value) :
    readKind value ≠ .error .unusable := by
  unfold readKind
  split <;> simp

theorem readKindKey_eq_ok_iff {key : Value} {kind : Kind} :
    readKindKey key = .ok kind ↔ key = .text kind.name := by
  rw [← kindOf?_eq_some_iff, readKindKey]
  cases kindOf? key <;> simp

@[simp]
theorem readKindKey_ne_unusable (key : Value) :
    readKindKey key ≠ .error .unusable := by
  unfold readKindKey
  split <;> simp

theorem readCrate_eq_ok_iff {name version : Value} {crate : CrateId} :
    readCrate name version = .ok crate ↔
      name.isTruthy = true ∧ version.isTruthy = true ∧
        ⟨name, version⟩ = crate := by
  unfold readCrate
  split
  · rename_i both
    rw [Bool.and_eq_true] at both
    simp [both.1, both.2]
  · rename_i neither
    rw [Bool.and_eq_true] at neither
    simp only [reduceCtorEq, false_iff]
    rintro ⟨first, second, _⟩
    exact neither ⟨first, second⟩

@[simp]
theorem readCrate_ne_unusable (name version : Value) :
    readCrate name version ≠ .error .unusable := by
  unfold readCrate
  split <;> simp

theorem readVisibility_eq_ok_iff {value : Value} {visibility : Visibility} :
    readVisibility value = .ok visibility ↔
      value = .text visibility.name := by
  cases value with
  | text content =>
      simp only [readVisibility, Value.text.injEq]
      constructor
      · intro read
        split at read
        · rename_i known found
          cases read
          have same := List.find?_some found
          exact (beq_iff_eq.1 same).symm
        · cases read
      · rintro rfl
        simp
  | _ => simp [readVisibility]

@[simp]
theorem readVisibility_ne_unusable (value : Value) :
    readVisibility value ≠ .error .unusable := by
  unfold readVisibility
  repeat' split
  all_goals simp

theorem readDocs_eq_ok_iff {value : Value} {docs : List Label} :
    readDocs value = .ok docs ↔ value.elements? = some docs := by
  unfold readDocs
  cases value.elements? <;> simp

@[simp]
theorem readDocs_ne_unusable (value : Value) :
    readDocs value ≠ .error .unusable := by
  unfold readDocs
  split <;> simp

theorem readObject_eq_ok_iff
    {schema : List Field}
    {value : Value}
    {entries : List (Value × Value)} :
    readObject schema value = .ok entries ↔
      value = .map entries ∧ checkObject schema value = .ok () := by
  unfold readObject
  cases checkObject schema value with
  | error error => simp
  | ok passed =>
      cases value <;> simp

@[simp]
theorem readObject_ne_unusable (schema : List Field) (value : Value) :
    readObject schema value ≠ .error .unusable := by
  unfold readObject
  split <;> simp

@[simp]
theorem readContext_ne_unusable (value : Option Value) :
    readContext value ≠ .error .unusable := by
  unfold readContext
  split
  · simp
  · split
    · simp [bind_eq_error_iff]
    · simp

@[simp]
theorem entriesOf_ne_unusable (value : Value) :
    entriesOf value ≠ .error .unusable := by
  cases value <;> simp [entriesOf]

theorem entriesOf_eq_ok_iff
    {value : Value}
    {entries : List (Value × Value)} :
    entriesOf value = .ok entries ↔ value = .map entries := by
  cases value <;> simp [entriesOf]

/-! ## Links -/

/-- A link that can be read. -/
def IsLink (value : Value) : Prop :=
  ∃ entries,
    value = .map entries ∧
      (Value.lookup? entries "name").isSome = true ∧
      HasText entries "path"

/-- A named link with a path that cannot be cut. -/
def IsBrokenLink (value : Value) : Prop :=
  ∃ entries,
    value = .map entries ∧
      (Value.lookup? entries "name").isSome = true ∧
      HasUncuttable entries "path"

/-- The first item that cannot be read is broken. -/
def BreaksAt
    {α : Type}
    (Readable Broken : α → Prop)
    (items : List α) : Prop :=
  ∃ before item after,
    items = before ++ item :: after ∧
      (∀ earlier ∈ before, Readable earlier) ∧
      Broken item

/-- Links filed under a kind that can be read. -/
def IsFiled (entry : Value × Value) : Prop :=
  (∃ kind : Kind, entry.1 = .text kind.name) ∧
    ∃ targets, entry.2.elements? = some targets ∧
      ∀ target ∈ targets, IsLink target

/-- Links filed under a kind, one of which is broken. -/
def IsBrokenFile (entry : Value × Value) : Prop :=
  (∃ kind : Kind, entry.1 = .text kind.name) ∧
    ∃ targets, entry.2.elements? = some targets ∧
      BreaksAt IsLink IsBrokenLink targets

theorem mapM_eq_unusable_iff
    {α β : Type}
    {items : List α}
    {read : α → Except ContentError β}
    {Readable Broken : α → Prop}
    (readable : ∀ item, (∃ value, read item = .ok value) ↔ Readable item)
    (broken : ∀ item, read item = .error .unusable ↔ Broken item) :
    items.mapM read = .error .unusable ↔
      BreaksAt Readable Broken items := by
  simp only [mapM_eq_error_iff, readable, broken, BreaksAt]

theorem readLink_eq_ok_iff {value : Value} :
    (∃ link, readLink value = .ok link) ↔ IsLink value := by
  simp only [readLink, bind_eq_ok_iff, entriesOf_eq_ok_iff,
    require_eq_ok_iff, readPath_eq_ok_iff, pure_eq_ok, IsLink, HasText,
    Option.isSome_iff_exists]
  constructor
  · rintro ⟨_, entries, rfl, name, named, _, found, _, ⟨content, rfl, _⟩, _⟩
    exact ⟨entries, rfl, ⟨name, named⟩, content, found⟩
  · rintro ⟨entries, rfl, ⟨name, named⟩, content, found⟩
    exact ⟨_, entries, rfl, name, named, _, found, _, ⟨content, rfl, rfl⟩, rfl⟩

theorem readLink_eq_unusable_iff {value : Value} :
    readLink value = .error .unusable ↔ IsBrokenLink value := by
  simp only [readLink, bind_eq_error_iff, entriesOf_eq_ok_iff,
    require_eq_ok_iff, readPath_eq_unusable_iff, pure_eq_ok, reduceCtorEq,
    entriesOf_ne_unusable, require_ne_unusable, false_or, and_false,
    exists_false, or_false, IsBrokenLink, HasUncuttable,
    Option.isSome_iff_exists]
  constructor
  · rintro ⟨entries, rfl, name, named, path, found, uncuttable⟩
    exact ⟨entries, rfl, ⟨name, named⟩, path, found, uncuttable⟩
  · rintro ⟨entries, rfl, ⟨name, named⟩, path, found, uncuttable⟩
    exact ⟨entries, rfl, name, named, path, found, uncuttable⟩

theorem readTargets_eq_ok_iff {value : Value} :
    (∃ links, readTargets value = .ok links) ↔
      ∃ targets, value.elements? = some targets ∧
        ∀ target ∈ targets, IsLink target := by
  unfold readTargets
  cases value.elements? with
  | none => simp
  | some targets =>
      simp [exists_mapM_eq_ok_iff, readLink_eq_ok_iff]

theorem readTargets_eq_unusable_iff {value : Value} :
    readTargets value = .error .unusable ↔
      ∃ targets, value.elements? = some targets ∧
        BreaksAt IsLink IsBrokenLink targets := by
  unfold readTargets
  cases value.elements? with
  | none => simp
  | some targets =>
      simp [mapM_eq_unusable_iff (fun _ => readLink_eq_ok_iff)
        (fun _ => readLink_eq_unusable_iff)]

/-- Reading links comes upon a broken one exactly when all those before it
can be read. -/
theorem readLinks_eq_unusable_iff
    (known : Links)
    (entries : List (Value × Value)) :
    readLinks known entries = .error .unusable ↔
      BreaksAt IsFiled IsBrokenFile entries := by
  induction entries generalizing known with
  | nil => simp [readLinks, BreaksAt]
  | cons entry entries inductionStep =>
      obtain ⟨key, value⟩ := entry
      simp only [readLinks, bind_eq_error_iff, readKindKey_ne_unusable,
        false_or, readKindKey_eq_ok_iff, inductionStep]
      constructor
      · rintro ⟨kind, rfl, failed⟩
        rcases failed with failed | ⟨links, read, later⟩
        · exact ⟨[], _, entries, rfl, by simp, ⟨kind, rfl⟩,
            readTargets_eq_unusable_iff.1 failed⟩
        · obtain ⟨before, item, after, rfl, all, broken⟩ := later
          refine ⟨(_, value) :: before, item, after, rfl, ?_, broken⟩
          exact List.forall_mem_cons.2
            ⟨⟨⟨kind, rfl⟩, readTargets_eq_ok_iff.1 ⟨links, read⟩⟩, all⟩
      · rintro ⟨before, item, after, shape, all, broken⟩
        cases before with
        | nil =>
            cases shape
            obtain ⟨⟨kind, isName⟩, targets⟩ := broken
            exact ⟨kind, isName, Or.inl (readTargets_eq_unusable_iff.2 targets)⟩
        | cons other before =>
            cases shape
            rw [List.forall_mem_cons] at all
            obtain ⟨⟨⟨kind, isName⟩, targets⟩, all⟩ := all
            obtain ⟨links, read⟩ := readTargets_eq_ok_iff.2 targets
            exact ⟨kind, isName, Or.inr
              ⟨links, read, before, item, after, rfl, all, broken⟩⟩

/-! ## Records -/

/-- The entries that are read before the path of a record, as they can be
read: a kind, a name and a crate. -/
structure HasHead (entries : List (Value × Value)) (kind : Kind) : Prop where
  kind : Value.lookup? entries "kind" = some (.text kind.name)
  name : (Value.lookup? entries "name").isSome = true
  crate : HasSomething entries "crate"
  version : HasSomething entries "version"

/-- The entries that are read between the head of a record and its links, as
they can be read: a path, a visibility, documentation that can be gone
through and the payload of the kind. -/
structure HasBody (entries : List (Value × Value)) (kind : Kind) : Prop where
  path : HasText entries "mod_path"
  visibility : ∃ visibility : Visibility,
    Value.lookup? entries "visibility" = some (.text visibility.name)
  docs : ∃ docs,
    ((Value.lookup? entries "doc_strings").getD (.list [])).elements? =
      some docs
  inner : ∃ inner,
    Value.lookup? entries "inner" = some (.map inner) ∧
      checkObject (payloadSchema kind) (.map inner) = .ok ()

/-- Links that are no map or have a broken one. -/
def HasBrokenLinks (entries : List (Value × Value)) : Prop :=
  ∃ links,
    Value.lookup? entries "links" = some links ∧
      ∀ filed, links = .map filed → BreaksAt IsFiled IsBrokenFile filed

/-- Entries of a record that can be read up to a path that cannot be cut, or
up to links that are no map or have such a path. -/
def IsMisfit (entries : List (Value × Value)) : Prop :=
  ∃ kind,
    HasHead entries kind ∧
      (HasUncuttable entries "mod_path" ∨
        HasBody entries kind ∧ HasBrokenLinks entries)

/-- What comes behind the payload is not foreseen if the links are broken,
whatever is done with them. -/
theorem links_eq_unusable_iff
    {α : Type}
    {entries : List (Value × Value)}
    {next : Links → Except ContentError α}
    (foreseen : ∀ links, next links ≠ .error .unusable) :
    (match (Value.lookup? entries "links").getD (.map []) with
      | .map links => readLinks [] links >>= next
      | _ => .error .unusable >>= next) = .error .unusable ↔
      HasBrokenLinks entries := by
  unfold HasBrokenLinks
  cases Value.lookup? entries "links" with
  | none => simp [readLinks, foreseen]
  | some links =>
      cases links <;>
        simp [bind_eq_error_iff, readLinks_eq_unusable_iff, foreseen]

/-- A record is not foreseen exactly when its entries are a misfit. -/
theorem ofEntries_eq_unusable_iff (entries : List (Value × Value)) :
    ofEntries entries = .error .unusable ↔ IsMisfit entries := by
  simp only [ofEntries, bind_eq_error_iff, require_ne_unusable,
    readKind_ne_unusable, readCrate_ne_unusable, readVisibility_ne_unusable,
    readDocs_ne_unusable, readObject_ne_unusable, require_eq_ok_iff,
    readKind_eq_ok_iff, readCrate_eq_ok_iff, readPath_eq_ok_iff,
    readPath_eq_unusable_iff, readVisibility_eq_ok_iff, readDocs_eq_ok_iff,
    readObject_eq_ok_iff, false_or]
  constructor
  · rintro ⟨_, isKind, kind, rfl, name, named, crate, isCrate, version,
      isVersion, _, ⟨truthy, alsoTruthy, _⟩, path, isPath, rest⟩
    have head : HasHead entries kind :=
      ⟨isKind, by simp [named], ⟨crate, isCrate, truthy⟩,
        version, isVersion, alsoTruthy⟩
    refine ⟨kind, head, ?_⟩
    rcases rest with uncuttable | rest
    · exact Or.inl ⟨path, isPath, uncuttable⟩
    · obtain ⟨_, ⟨content, rfl, _⟩, _, isVisibility, visibility, rfl, docs,
        isDocs, _, isInner, inner, ⟨rfl, checked⟩, broken⟩ := rest
      have body : HasBody entries kind :=
        ⟨⟨content, isPath⟩, ⟨visibility, isVisibility⟩, ⟨docs, isDocs⟩,
          inner, isInner, checked⟩
      refine Or.inr ⟨body, (links_eq_unusable_iff fun links => ?_).1 broken⟩
      simp [bind_eq_error_iff]
  · rintro ⟨kind, head, rest⟩
    obtain ⟨name, named⟩ := Option.isSome_iff_exists.1 head.name
    obtain ⟨crate, isCrate, truthy⟩ := head.crate
    obtain ⟨version, isVersion, alsoTruthy⟩ := head.version
    rcases rest with ⟨path, isPath, uncuttable⟩ | ⟨body, broken⟩
    · exact ⟨_, head.kind, kind, rfl, name, named, crate, isCrate, version,
        isVersion, _, ⟨truthy, alsoTruthy, rfl⟩, path, isPath,
        Or.inl uncuttable⟩
    · obtain ⟨content, isPath⟩ := body.path
      obtain ⟨visibility, isVisibility⟩ := body.visibility
      obtain ⟨docs, isDocs⟩ := body.docs
      obtain ⟨inner, isInner, checked⟩ := body.inner
      refine ⟨_, head.kind, kind, rfl, name, named, crate, isCrate, version,
        isVersion, _, ⟨truthy, alsoTruthy, rfl⟩, _, isPath,
        Or.inr ⟨_, ⟨content, rfl, rfl⟩, _, isVisibility, visibility, rfl,
          docs, isDocs, _, isInner, inner, ⟨rfl, checked⟩,
          (links_eq_unusable_iff fun links => ?_).2 broken⟩⟩
      simp [bind_eq_error_iff]

/-! ## Locations -/

/-- A location that can be read. -/
def IsLocation (value : Value) : Prop :=
  ∃ entries,
    value = .map entries ∧
      HasSomething entries "crate" ∧
      HasSomething entries "version" ∧
      HasText entries "path" ∧
      (Value.lookup? entries "name").isSome = true ∧
      ∃ kind : Kind,
        Value.lookup? entries "kind" = some (.text kind.name)

/-- A location of a crate with a path that cannot be cut. -/
def IsBrokenLocation (value : Value) : Prop :=
  ∃ entries,
    value = .map entries ∧
      HasSomething entries "crate" ∧
      HasSomething entries "version" ∧
      HasUncuttable entries "path"

/-- Entries of an index of the known version with a broken location. -/
def IsMisfitIndex (entries : List (Value × Value)) : Prop :=
  isOne ((Value.lookup? entries "schema_version").getD .null) = true ∧
    ∃ locations,
      ((Value.lookup? entries "locations").getD (.list [])).elements? =
          some locations ∧
        BreaksAt IsLocation IsBrokenLocation locations

theorem readLocation_eq_ok_iff {value : Value} :
    (∃ location, readLocation value = .ok location) ↔ IsLocation value := by
  simp only [readLocation, bind_eq_ok_iff, entriesOf_eq_ok_iff,
    require_eq_ok_iff, readCrate_eq_ok_iff, readPath_eq_ok_iff,
    readKind_eq_ok_iff, pure_eq_ok]
  constructor
  · rintro ⟨_, entries, rfl, crate, isCrate, version, isVersion, _,
      ⟨truthy, alsoTruthy, _⟩, _, isPath, _, ⟨content, rfl, _⟩, name, named,
      _, isKind, kind, rfl, _⟩
    exact ⟨entries, rfl, ⟨crate, isCrate, truthy⟩,
      ⟨version, isVersion, alsoTruthy⟩, ⟨content, isPath⟩, by simp [named],
      kind, isKind⟩
  · rintro ⟨entries, rfl, ⟨crate, isCrate, truthy⟩,
      ⟨version, isVersion, alsoTruthy⟩, ⟨content, isPath⟩, hasName, kind,
      isKind⟩
    obtain ⟨name, named⟩ := Option.isSome_iff_exists.1 hasName
    exact ⟨_, entries, rfl, crate, isCrate, version, isVersion, _,
      ⟨truthy, alsoTruthy, rfl⟩, _, isPath, _, ⟨content, rfl, rfl⟩, name,
      named, _, isKind, kind, rfl, rfl⟩

theorem readLocation_eq_unusable_iff {value : Value} :
    readLocation value = .error .unusable ↔ IsBrokenLocation value := by
  simp only [readLocation, bind_eq_error_iff, entriesOf_eq_ok_iff,
    require_eq_ok_iff, readCrate_eq_ok_iff, readPath_eq_unusable_iff,
    entriesOf_ne_unusable, require_ne_unusable, readCrate_ne_unusable,
    readKind_ne_unusable, pure_eq_ok, reduceCtorEq, false_or, or_false,
    and_false, exists_false]
  constructor
  · rintro ⟨entries, rfl, crate, isCrate, version, isVersion, _,
      ⟨truthy, alsoTruthy, _⟩, path, isPath, uncuttable⟩
    exact ⟨entries, rfl, ⟨crate, isCrate, truthy⟩,
      ⟨version, isVersion, alsoTruthy⟩, path, isPath, uncuttable⟩
  · rintro ⟨entries, rfl, ⟨crate, isCrate, truthy⟩,
      ⟨version, isVersion, alsoTruthy⟩, path, isPath, uncuttable⟩
    exact ⟨entries, rfl, crate, isCrate, version, isVersion, _,
      ⟨truthy, alsoTruthy, rfl⟩, path, isPath, uncuttable⟩

/-! ## Bytes -/

/-- A result that is an error, but no refusal. -/
def IsUnforeseen {α : Type} (result : Except DecodeError α) : Prop :=
  ∃ error, result = .error error ∧ error.isRefusal = false

/-- A result that is read or refused. -/
def IsForeseen {α : Type} (result : Except DecodeError α) : Prop :=
  (∃ value, result = .ok value) ∨
    ∃ error, result = .error error ∧ error.isRefusal = true

theorem isForeseen_iff_not_isUnforeseen
    {α : Type}
    (result : Except DecodeError α) :
    IsForeseen result ↔ ¬ IsUnforeseen result := by
  cases result <;> simp [IsForeseen, IsUnforeseen]

theorem isRefusal_eq_false_iff {error : DecodeError} :
    error.isRefusal = false ↔
      error = .undecodable .tooDeep ∨ error = .content .unusable := by
  unfold DecodeError.isRefusal
  split <;> simp_all

/-- Which bytes are neither read as a record nor refused. -/
theorem isUnforeseen_decode_iff [Depths] (bytes : Bytes) :
    IsUnforeseen (decode bytes) ↔
      unpack bytes = .error .tooDeep ∨
        ∃ entries, unpack bytes = .ok (.map entries) ∧ IsMisfit entries := by
  simp only [IsUnforeseen, isRefusal_eq_false_iff, decode]
  cases unpack bytes with
  | error error => simp
  | ok value =>
      cases value with
      | map entries =>
          simp only [Except.ok.injEq, Value.map.injEq, reduceCtorEq,
            false_or, exists_eq_left', ← ofEntries_eq_unusable_iff]
          cases ofEntries entries <;> simp
      | _ => simp

/-- Which bytes are neither read as a list of locations nor refused. -/
theorem isUnforeseen_decodeIndex_iff [Depths] (bytes : Bytes) :
    IsUnforeseen (decodeIndex bytes) ↔
      unpack bytes = .error .tooDeep ∨
        ∃ entries,
          unpack bytes = .ok (.map entries) ∧ IsMisfitIndex entries := by
  simp only [IsUnforeseen, isRefusal_eq_false_iff, decodeIndex]
  cases unpack bytes with
  | error error => simp
  | ok value =>
      cases value with
      | map entries =>
          simp only [Except.ok.injEq, Value.map.injEq, reduceCtorEq,
            false_or, exists_eq_left', IsMisfitIndex,
            ← mapM_eq_unusable_iff (fun _ => readLocation_eq_ok_iff)
              (fun _ => readLocation_eq_unusable_iff)]
          split
          · rename_i known
            simp only [known, true_and]
            split
            · rename_i nothing
              simp [nothing]
            · rename_i elements found
              simp only [found, Option.some.injEq, exists_eq_left']
              cases elements.mapM readLocation <;> simp
          · rename_i other
            simp [other]
      | _ => simp

end CrateShelf.Record
