import CrateShelf.Proofs.Association
import CrateShelf.Proofs.ItemPath
import CrateShelf.Proofs.Record.Payload

/-!
# Reading stored records

A record is well formed if its labels are texts, those of its crate not empty,
if no kind of links is filed twice and if its payload is of the sort that
records of its kind have.  It is sound if its paths and those of its links are
sound, too.

Main statements: a well-formed record that fits is read from its stored form,
with its links in the order of the names of their kinds and with what is read
from its written paths as its paths.  So it is read as it was exactly when
all its paths are readable; a sound record is, and is then stored in the same
form again.
-/

namespace CrateShelf

/-- Whether name and version are texts that are neither torn nor empty. -/
def CrateId.IsSound (crate : CrateId) : Prop :=
  (crate.name.isWholeText = true ∧ crate.name.isTruthy = true) ∧
    crate.version.isWholeText = true ∧ crate.version.isTruthy = true

instance (crate : CrateId) : Decidable crate.IsSound :=
  inferInstanceAs (Decidable (_ ∧ _))

/-- Whether a link is named by a text and its path can be read again. -/
def Link.IsSound (link : Link) : Prop :=
  link.name.isText = true ∧ link.path.IsSound

instance (link : Link) : Decidable link.IsSound :=
  inferInstanceAs (Decidable (_ ∧ _))

/-- The link that is read from a written one. -/
def Link.reread (link : Link) : Link :=
  { link with path := ItemPath.parse link.path.toText }

theorem Link.reread_eq_iff (link : Link) :
    link.reread = link ↔ link.path.IsReadable := by
  constructor
  · intro same
    exact congrArg Link.path same
  · intro readable
    unfold reread
    rw [show ItemPath.parse link.path.toText = link.path from readable]

namespace Links

/-- Whether no kind is filed twice and every link is named by a text. -/
structure AreNamed (links : Links) : Prop where
  apart : (links.map Prod.fst).Nodup
  named : ∀ filed ∈ links, ∀ link ∈ filed.2, link.name.isText = true

/-- The links that are read from written ones. -/
def reread (links : Links) : Links :=
  links.map fun filed => (filed.1, filed.2.map Link.reread)

/-- Links are read as they were exactly when all their paths are readable. -/
theorem reread_eq_iff (links : Links) :
    reread links = links ↔
      ∀ filed ∈ links, ∀ link ∈ filed.2, link.path.IsReadable := by
  have whole :
      reread links = links ↔
        ∀ filed ∈ links, (filed.1, filed.2.map Link.reread) = filed := by
    unfold reread
    induction links with
    | nil => simp
    | cons filed links inductionStep =>
        rw [List.map_cons, List.cons.injEq, inductionStep,
          List.forall_mem_cons]
  have targets :
      ∀ targets : List Link,
        targets.map Link.reread = targets ↔
          ∀ link ∈ targets, link.reread = link := by
    intro targets
    induction targets with
    | nil => simp
    | cons link targets inductionStep =>
        rw [List.map_cons, List.cons.injEq, inductionStep,
          List.forall_mem_cons]
  rw [whole]
  simp only [Prod.ext_iff, true_and, targets, Link.reread_eq_iff]

/-- Whether no kind is filed twice and every link is sound. -/
def AreSound (links : Links) : Prop :=
  (links.map Prod.fst).Nodup ∧
    ∀ filed ∈ links, ∀ link ∈ filed.2, link.IsSound

instance (links : Links) : Decidable (AreSound links) :=
  inferInstanceAs (Decidable (_ ∧ _))

theorem AreSound.areNamed
    {links : Links}
    (sound : AreSound links) :
    AreNamed links where
  apart := sound.1
  named := fun filed member link among => (sound.2 filed member link among).1

/-- Links of a kind without any are filed at the end. -/
theorem set_of_new
    {links : Links}
    {kind : Kind}
    (new : kind ∉ links.map Prod.fst)
    (targets : List Link) :
    links.set kind targets = links ++ [(kind, targets)] := by
  induction links with
  | nil => rfl
  | cons filed links inductionStep =>
      simp only [List.map_cons, List.mem_cons, not_or] at new
      have different : ¬ filed.1 = kind := fun same => new.1 same.symm
      simp only [set, different, if_false, inductionStep new.2,
        List.cons_append]

end Links

namespace Record

open CrateShelf.Pack

/-- Whether a record is one that is read again, whatever its paths are. -/
structure IsFormed (record : Record) : Prop where
  name : record.name.isText = true
  crate : record.crate.IsSound
  docs : ∀ piece ∈ record.docs, piece.isText = true
  payload : record.payload.fits record.kind = true
  links : Links.AreNamed record.links

/-- Whether a record is one that is read again as it was. -/
structure IsSound (record : Record) : Prop where
  name : record.name.isWholeText = true
  crate : record.crate.IsSound
  path : record.path.IsSound
  docs : ∀ piece ∈ record.docs, piece.isText = true
  payload : record.payload.fits record.kind = true
  links : Links.AreSound record.links

theorem IsSound.isFormed
    {record : Record}
    (sound : record.IsSound) :
    record.IsFormed where
  name := Value.isText_of_isWholeText sound.name
  crate := sound.crate
  docs := sound.docs
  payload := sound.payload
  links := sound.links.areNamed

/-- Whether two records differ at most in the order in which their links are
filed. -/
structure Same (first second : Record) : Prop where
  others : { first with links := [] } = { second with links := [] }
  links : ∀ kind, first.links.lookup kind = second.links.lookup kind

/-! ## Order of links -/

theorem pairwise_sortLinks (links : Links) :
    (sortLinks links).Pairwise fun first second =>
      decide (¬ second.1.name < first.1.name) = true := by
  apply List.pairwise_mergeSort
  · intro first second third
    simp only [decide_eq_true_eq, String.not_lt]
    exact String.le_trans
  · intro first second
    simp only [Bool.or_eq_true, decide_eq_true_eq, String.not_lt]
    exact String.le_total _ _

theorem sortLinks_perm (links : Links) : (sortLinks links).Perm links :=
  List.mergeSort_perm links _

/-- Links in order stay as they are. -/
@[simp]
theorem sortLinks_sortLinks (links : Links) :
    sortLinks (sortLinks links) = sortLinks links :=
  List.mergeSort_of_pairwise (pairwise_sortLinks links)

/-! ## Shape -/

theorem isPlain_of_isText
    {label : Label}
    (text : label.isText = true)
    (depth : Nat) :
    label.IsPlain (depth + 1) := by
  cases label with
  | text content => exact .text content
  | torn content => exact .torn content
  | _ => cases text

theorem isPlain_of_isWholeText
    {label : Label}
    (whole : label.isWholeText = true)
    (depth : Nat) :
    label.IsPlain (depth + 1) :=
  isPlain_of_isText (Value.isText_of_isWholeText whole) depth

/-- The fields of a stored link. -/
def linkForm (link : Link) : Form :=
  [("name", some link.name), ("path", some (.text link.path.toText))]

theorem packLink_eq (link : Link) :
    packLink link = .map (present (linkForm link)) := rfl

theorem isPlain_packLink
    {link : Link}
    (named : link.name.isText = true)
    (depth : Nat) :
    (packLink link).IsPlain (depth + 2) := by
  rw [packLink_eq]
  apply isPlain_present
  · simp [linkForm]
  · simp [linkForm, isPlain_of_isText named, Value.IsPlain.text]

/-- The fields of stored links, one for each kind. -/
def linksForm (links : Links) : Form :=
  links.map fun filed =>
    (filed.1.name, some (.list (filed.2.map packLink)))

theorem present_linksForm (links : Links) :
    present (linksForm links) =
      links.map fun filed =>
        entry filed.1.name (.list (filed.2.map packLink)) := by
  induction links with
  | nil => rfl
  | cons filed links inductionStep =>
      simp only [linksForm, List.map_cons] at inductionStep ⊢
      simp only [present_cons, inductionStep, optional,
        List.singleton_append]

theorem packLinks_eq (links : Links) :
    packLinks links = .map (present (linksForm (sortLinks links))) := by
  rw [present_linksForm]
  rfl

theorem isPlain_linksForm
    {links : Links}
    (named : Links.AreNamed links)
    (depth : Nat) :
    (Value.map (present (linksForm links))).IsPlain (depth + 4) := by
  apply isPlain_present
  · have names : (linksForm links).map Prod.fst =
        (links.map Prod.fst).map Kind.name := by
      simp [linksForm]
    rw [names]
    apply named.apart.map
    exact Kind.name_injective
  · intro field member value written
    obtain ⟨filed, inLinks, rfl⟩ := List.mem_map.1 member
    cases written
    apply Value.IsPlain.list
    intro stored inTargets
    obtain ⟨link, isTarget, rfl⟩ := List.mem_map.1 inTargets
    exact isPlain_packLink (named.named filed inLinks link isTarget) depth

/-- Links are named as well in the order of their kinds. -/
theorem areNamed_sortLinks
    {links : Links}
    (named : Links.AreNamed links) :
    Links.AreNamed (sortLinks links) := by
  constructor
  · exact ((sortLinks_perm links).map Prod.fst).nodup_iff.2 named.apart
  · intro filed member
    exact named.named filed ((sortLinks_perm links).mem_iff.1 member)

/-- The fields of a stored record. -/
def recordForm (record : Record) : Form :=
  [("crate", some record.crate.name),
    ("doc_strings", some (.list record.docs)),
    ("impl_context", some (record.implContext.elim .null packContext)),
    ("inner", some (packPayload record.payload)),
    ("kind", some (.text record.kind.name)),
    ("links", some (packLinks record.links)),
    ("mod_path", some (.text record.path.toText)),
    ("name", some record.name),
    ("version", some record.crate.version),
    ("visibility", some (.text record.visibility.name))]

theorem toValue_eq (record : Record) :
    record.toValue = .map (present (recordForm record)) := by
  obtain ⟨_, _, _, _, _, _, _, _, context⟩ := record
  cases context with
  | none => rfl
  | some context => rfl

/-- The stored form of a well-formed record is plain; its payload and its
links are the deepest parts. -/
theorem isPlain_toValue
    {record : Record}
    (formed : record.IsFormed)
    (depth : Nat) :
    record.toValue.IsPlain (depth + 5) := by
  have docs : (Value.list record.docs).IsPlain (depth + 4) := by
    apply Value.IsPlain.list
    intro piece member
    exact isPlain_of_isText (formed.docs piece member) (depth + 2)
  have links : (packLinks record.links).IsPlain (depth + 4) := by
    rw [packLinks_eq]
    exact isPlain_linksForm (areNamed_sortLinks formed.links) depth
  have context :
      (record.implContext.elim Value.null packContext).IsPlain
        (depth + 4) := by
    cases record.implContext with
    | none => exact .null
    | some context => exact isPlain_packContext context (depth + 2)
  rw [toValue_eq]
  apply isPlain_present
  · simp [recordForm]
  · simp [recordForm, docs, links, context, isPlain_packPayload,
      isPlain_of_isText formed.name,
      isPlain_of_isWholeText formed.crate.1.1,
      isPlain_of_isWholeText formed.crate.2.1, Value.IsPlain.text]

/-! ## Reading the parts -/

theorem readLink_packLink (link : Link) :
    readLink (packLink link) = .ok link.reread := by
  rw [packLink_eq]
  simp [readLink, entriesOf, require, linkForm, readPath, Link.reread]

/-- Links in order are read behind those read before. -/
theorem readLinks_linksForm
    (known links : Links)
    (apart : ((known ++ links).map Prod.fst).Nodup) :
    readLinks known (present (linksForm links)) =
      .ok (known ++ Links.reread links) := by
  rw [present_linksForm]
  induction links generalizing known with
  | nil => simp [readLinks, Links.reread]
  | cons filed links inductionStep =>
      rcases filed with ⟨kind, targets⟩
      have new : kind ∉ known.map Prod.fst := by
        rw [List.map_append, List.map_cons, List.nodup_append] at apart
        intro member
        exact apart.2.2 kind member kind List.mem_cons_self rfl
      have targetsRead :
          (targets.map packLink).mapM readLink =
            .ok (targets.map Link.reread) := by
        rw [List.mapM_map]
        exact mapM_eq_ok_map _ fun link _ => readLink_packLink link
      have others :=
        inductionStep (known ++ [(kind, targets.map Link.reread)])
          (by simpa using apart)
      simp only [entry, List.append_assoc, List.cons_append,
        List.nil_append] at others
      simp only [List.map_cons, readLinks, entry, readKindKey, kindOf?,
        Kind.ofName?_name, readTargets, Value.elements?, targetsRead, ok_bind,
        Links.set_of_new new, others, Links.reread]

theorem readContext_elim (context : Option ImplContext) :
    readContext (some (context.elim .null packContext)) = .ok context := by
  cases context with
  | none => rfl
  | some context => exact readContext_packContext context

theorem readObject_packPayload
    {payload : Payload}
    {kind : Kind}
    (fitting : payload.fits kind = true)
    (fits : (packPayload payload).fits = true) :
    readObject (payloadSchema kind) (packPayload payload) =
      .ok (present (payloadForm payload)) := by
  have checked := checkObject_packPayload payload kind fitting fits
  rw [packPayload_eq] at checked ⊢
  simp only [readObject, checked]

/-! ## Reading the whole -/

/-- The payload of a record that fits does. -/
theorem fits_packPayload
    {record : Record}
    (fits : record.toValue.fits = true) :
    (packPayload record.payload).fits = true := by
  rw [toValue_eq] at fits
  exact every_fits_of_fits_present fits ("inner", _) (by simp [recordForm])
    _ rfl

/-- The record that is read from the stored form of a record. -/
def reread (record : Record) : Record :=
  { record with
    path := ItemPath.parse record.path.toText
    links := Links.reread (sortLinks record.links) }

theorem ofEntries_recordForm
    {record : Record}
    (formed : record.IsFormed)
    (fits : record.toValue.fits = true) :
    ofEntries (present (recordForm record)) = .ok record.reread := by
  have links :=
    readLinks_linksForm [] (sortLinks record.links)
      (areNamed_sortLinks formed.links).apart
  rw [List.nil_append] at links
  have crate := formed.crate
  have payloadFits := fits_packPayload fits
  simp [ofEntries, require, recordForm, packLinks_eq, readKind, kindOf?,
    readCrate, crate.1.2, crate.2.2, readPath, readVisibility, readDocs,
    Value.elements?, readObject_packPayload formed.payload payloadFits, links,
    readContext_elim,
    payloadOf_present record.payload _ formed.payload payloadFits, reread]

/-- A well-formed record that fits is read from its bytes. -/
theorem decode_encode_reread
    [Depths]
    {record : Record}
    (formed : record.IsFormed)
    (fits : record.toValue.fits = true) :
    decode record.encode = .ok record.reread := by
  obtain ⟨depth, packed⟩ := Nat.exists_eq_add_of_le' Depths.four_le_packed
  have plain : record.toValue.IsPlain (Depths.packed + 1) := by
    rw [packed]
    exact isPlain_toValue formed depth
  have unpacked := unpack_pack plain fits
  rw [toValue_eq] at unpacked
  simp only [decode, encode, toValue_eq, unpacked,
    ofEntries_recordForm formed fits]

/-- Links whose paths are readable are read in order. -/
theorem reread_sortLinks
    {links : Links}
    (readable : ∀ filed ∈ links, ∀ link ∈ filed.2, link.path.IsReadable) :
    Links.reread (sortLinks links) = sortLinks links := by
  rw [Links.reread_eq_iff]
  intro filed member
  exact readable filed ((sortLinks_perm links).mem_iff.1 member)

theorem IsSound.reread_eq
    {record : Record}
    (sound : record.IsSound) :
    record.reread = { record with links := sortLinks record.links } := by
  unfold reread
  rw [ItemPath.parse_toText record.path sound.path, reread_sortLinks]
  intro filed member link among
  exact (sound.links.2 filed member link among).2.isReadable

/-- A sound record that fits is read from its bytes, its links in order. -/
theorem decode_encode_eq
    [Depths]
    {record : Record}
    (sound : record.IsSound)
    (fits : record.toValue.fits = true) :
    decode record.encode =
      .ok { record with links := sortLinks record.links } := by
  rw [decode_encode_reread sound.isFormed fits, sound.reread_eq]

/-- The order in which links are filed is not stored. -/
theorem toValue_sortLinks (record : Record) :
    { record with links := sortLinks record.links }.toValue =
      record.toValue := by
  simp [toValue, packLinks]

/-- A record differs from one with its links in order at most in their
order. -/
theorem same_sortLinks
    {record : Record}
    (sound : record.IsSound) :
    Same { record with links := sortLinks record.links } record := by
  constructor
  · rfl
  · exact
      lookup_eq_of_perm (sortLinks_perm record.links) sound.links.1

/-- Links without a kind filed twice are put in the same order however they
are filed. -/
theorem sortLinks_eq_of_perm
    {first second : Links}
    (apart : (first.map Prod.fst).Nodup)
    (perm : first.Perm second) :
    sortLinks first = sortLinks second := by
  have antisymmetric :
      ∀ filed other, filed ∈ sortLinks first → other ∈ sortLinks second →
        decide (¬ other.1.name < filed.1.name) = true →
          decide (¬ filed.1.name < other.1.name) = true →
            filed = other := by
    intro filed other member alsoMember before after
    simp only [decide_eq_true_eq, String.not_lt] at before after
    have sameKind : filed.1 = other.1 :=
      Kind.name_injective _ _ (String.le_antisymm before after)
    have inFirst := (sortLinks_perm first).mem_iff.1 member
    have alsoInFirst :=
      perm.mem_iff.2 ((sortLinks_perm second).mem_iff.1 alsoMember)
    exact List.inj_on_of_nodup_map apart inFirst alsoInFirst sameKind
  exact List.Perm.eq_of_pairwise antisymmetric (pairwise_sortLinks first)
    (pairwise_sortLinks second)
    (((sortLinks_perm first).trans perm).trans (sortLinks_perm second).symm)

/-- Records that differ at most in the order in which their links are filed
are stored alike. -/
theorem toValue_eq_of_same
    {first second : Record}
    (sound : first.IsSound)
    (alsoSound : second.IsSound)
    (same : first.Same second) :
    first.toValue = second.toValue := by
  have sorted : sortLinks first.links = sortLinks second.links :=
    sortLinks_eq_of_perm sound.links.1
      (perm_of_lookup_eq sound.links.1 alsoSound.links.1 same.links)
  have others :
      { first with links := sortLinks first.links } =
        { second with links := sortLinks second.links } := by
    have refiled := congrArg
      (fun record : Record =>
        { record with links := sortLinks first.links }) same.others
    rw [← sorted]
    exact refiled
  have stored := congrArg toValue others
  rwa [toValue_sortLinks, toValue_sortLinks] at stored

/-- Links that are found under each kind again have readable paths. -/
theorem forall_isReadable_of_lookup_eq
    {links : Links}
    (apart : (links.map Prod.fst).Nodup)
    (same : ∀ kind,
      (Links.reread (sortLinks links)).lookup kind = links.lookup kind) :
    ∀ filed ∈ links, ∀ link ∈ filed.2, link.path.IsReadable := by
  rw [← Links.reread_eq_iff]
  have kinds :
      (Links.reread (sortLinks links)).map Prod.fst =
        (sortLinks links).map Prod.fst := by
    simp [Links.reread]
  have alsoApart :
      ((Links.reread (sortLinks links)).map Prod.fst).Nodup := by
    rw [kinds]
    exact ((sortLinks_perm links).map Prod.fst).nodup_iff.2 apart
  have each :
      ∀ filed ∈ links, (filed.1, filed.2.map Link.reread) = filed := by
    intro filed member
    have found : links.lookup filed.1 = some filed.2 :=
      (lookup_eq_some_iff_mem apart).2 member
    have alsoFound :
        (Links.reread (sortLinks links)).lookup filed.1 =
          some (filed.2.map Link.reread) :=
      (lookup_eq_some_iff_mem alsoApart).2
        (List.mem_map_of_mem ((sortLinks_perm links).mem_iff.2 member))
    rw [same, found, Option.some_inj] at alsoFound
    rw [← alsoFound]
  exact (List.map_congr_left each).trans (List.map_id links)

/-- Only records that fit have bytes. -/
theorem encoded_eq_ok_iff {record : Record} {bytes : Bytes} :
    record.encoded = .ok bytes ↔
      record.toValue.fits = true ∧ bytes = record.encode := by
  rw [← Value.writeError?_eq_none_iff, encoded]
  split
  · rename_i error found
    simp [found]
  · rename_i none
    simp [none, eq_comm]

/-- The pieces of the documentation of a record that fits do. -/
theorem fits_of_mem_docs
    {record : Record}
    {piece : Label}
    (fits : record.toValue.fits = true)
    (member : piece ∈ record.docs) :
    piece.fits = true := by
  have entries := fits
  simp only [toValue, Value.fits, Bool.and_eq_true,
    Value.entriesFit_iff] at entries
  have listed :=
    (entries.2 (entry "doc_strings" (.list record.docs)) (by simp)).2
  simp only [entry, Value.fits, Bool.and_eq_true, Value.allFit_iff] at listed
  exact listed.2 piece member

/-- Whether a record can be stored and is then read as it was, but for the
order of its links. -/
def Survives [Depths] (record : Record) : Prop :=
  ∃ bytes decoded,
    record.encoded = .ok bytes ∧
      decode bytes = .ok decoded ∧
      decoded.Same record

/-- A well-formed record survives exactly when it fits and its path and those
of its links are readable. -/
theorem survives_iff
    [Depths]
    {record : Record}
    (formed : record.IsFormed) :
    record.Survives ↔
      record.toValue.fits = true ∧
        record.path.IsReadable ∧
        ∀ filed ∈ record.links, ∀ link ∈ filed.2, link.path.IsReadable := by
  constructor
  · rintro ⟨_, _, stored, read, same⟩
    obtain ⟨fits, rfl⟩ := encoded_eq_ok_iff.1 stored
    rw [decode_encode_reread formed fits] at read
    cases read
    exact ⟨fits, congrArg Record.path same.others,
      forall_isReadable_of_lookup_eq formed.links.apart same.links⟩
  · rintro ⟨fits, path, links⟩
    refine ⟨record.encode, record.reread, encoded_eq_ok_iff.2 ⟨fits, rfl⟩,
      decode_encode_reread formed fits, ?_, ?_⟩
    · unfold reread
      rw [show ItemPath.parse record.path.toText = record.path from path]
    · unfold reread
      rw [reread_sortLinks links]
      exact lookup_eq_of_perm (sortLinks_perm record.links)
        formed.links.apart

/--
A sound record that fits is read from its stored form, up to the order in
which its links are filed, and what is read has the same stored form.
-/
theorem decode_encode
    [Depths]
    (record : Record)
    (sound : record.IsSound)
    (fits : record.toValue.fits = true) :
    ∃ decoded,
      decode record.encode = .ok decoded ∧
        decoded.Same record ∧
        decoded.encode = record.encode := by
  refine ⟨{ record with links := sortLinks record.links }, ?_, ?_, ?_⟩
  · exact decode_encode_eq sound fits
  · exact same_sortLinks sound
  · exact congrArg pack (toValue_sortLinks record)

/-- A struct whose links are filed in another order than they are stored. -/
def samplePoint : Record where
  name := "Point"
  kind := .struct
  crate := ⟨"shapes", "1.0.0"⟩
  path := ⟨["shapes", "plane", "Point"]⟩
  visibility := .everywhere
  docs := ["A point.", "It has one coordinate."]
  payload := .struct ⟨[⟨some "x", .inherited, "f64", none⟩], none⟩
  links :=
    [(.structField, [⟨"x", ⟨["shapes", "plane", "Point", "x"]⟩⟩]),
      (.function, [⟨"new", ⟨["shapes", "plane", "Point", "new"]⟩⟩])]

theorem isSound_samplePoint : samplePoint.IsSound where
  name := rfl
  crate := by decide
  path := by decide
  docs := by decide
  payload := rfl
  links := by decide

theorem fits_samplePoint : samplePoint.toValue.fits = true := by
  have ordered :
      sortLinks samplePoint.links.reverse = samplePoint.links.reverse :=
    List.mergeSort_of_pairwise (by decide)
  have sorted :
      sortLinks samplePoint.links = samplePoint.links.reverse := by
    rw [← ordered]
    exact sortLinks_eq_of_perm (by decide) (List.reverse_perm _).symm
  simp only [toValue, packLinks, sorted]
  decide

section

attribute [local instance] Depths.usual

theorem decode_encode_samplePoint :
    samplePoint.IsSound ∧
      samplePoint.toValue.fits = true ∧
      ∃ decoded,
        decode samplePoint.encode = .ok decoded ∧
          decoded.Same samplePoint ∧
          decoded.encode = samplePoint.encode :=
  ⟨isSound_samplePoint, fits_samplePoint,
    decode_encode samplePoint isSound_samplePoint fits_samplePoint⟩

end

end Record

end CrateShelf
