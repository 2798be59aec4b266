import CrateShelf.Proofs.Location.Order
import CrateShelf.Proofs.Record.RoundTrip

/-!
# Reading the list of all records

The list of all records is written in order, so that its bytes do not depend
on how the locations are listed.

Main statement: the list of sound locations is read back in order, if it
fits, and however they are listed, its bytes are the same.
-/

namespace CrateShelf

/-- Whether a location is told apart from others by texts and its path can be
read again. -/
structure Location.IsSound (location : Location) : Prop where
  crate : location.crate.IsSound
  path : location.path.IsSound
  name : location.name.isWholeText = true
  discriminator : location.discriminator.isWholeText = true

theorem Location.IsSound.isTextual
    {location : Location}
    (sound : location.IsSound) :
    location.isTextual = true := by
  simp [Location.isTextual, sound.crate.1.1, sound.crate.2.1, sound.name,
    sound.discriminator]

namespace Record

open CrateShelf.Pack

variable
    {location : Location}
    {locations : List Location}

/-- The fields of a stored location. -/
def locationForm (location : Location) : Form :=
  [("crate", some location.crate.name),
    ("discriminator", some location.discriminator),
    ("kind", some (.text location.kind.name)),
    ("name", some location.name),
    ("path", some (.text location.path.toText)),
    ("version", some location.crate.version)]

theorem packLocation_eq (location : Location) :
    packLocation location = .map (present (locationForm location)) := rfl

theorem isPlain_packLocation
    (sound : location.IsSound)
    (depth : Nat) :
    (packLocation location).IsPlain (depth + 2) := by
  rw [packLocation_eq]
  apply isPlain_present
  · simp [locationForm]
  · simp [locationForm, isPlain_of_isWholeText sound.name,
      isPlain_of_isWholeText sound.discriminator,
      isPlain_of_isWholeText sound.crate.1.1,
      isPlain_of_isWholeText sound.crate.2.1, Value.IsPlain.text]

theorem readLocation_packLocation
    (sound : location.IsSound) :
    readLocation (packLocation location) = .ok location := by
  rw [packLocation_eq]
  simp [readLocation, entriesOf, require, locationForm, readCrate,
    sound.crate.1.2, sound.crate.2.2, readPath, readKind, kindOf?,
    ItemPath.parse_toText location.path sound.path]

/-- The fields of the list of all records. -/
def indexForm (locations : List Location) : Form :=
  [("locations",
      some (.list ((Location.sort locations).map packLocation))),
    ("schema_version", some (.int 1))]

theorem indexValue_eq (locations : List Location) :
    indexValue locations = .map (present (indexForm locations)) := rfl

theorem sound_of_mem_sort
    (sound : ∀ location ∈ locations, location.IsSound) :
    ∀ location ∈ Location.sort locations, location.IsSound :=
  fun location member =>
    sound location ((Location.sort_perm locations).mem_iff.1 member)

theorem isPlain_indexValue
    (sound : ∀ location ∈ locations, location.IsSound)
    (depth : Nat) :
    (indexValue locations).IsPlain (depth + 4) := by
  have listed :
      (Value.list ((Location.sort locations).map packLocation)).IsPlain
        (depth + 3) := by
    apply Value.IsPlain.list
    intro stored member
    obtain ⟨location, known, rfl⟩ := List.mem_map.1 member
    exact
      isPlain_packLocation (sound_of_mem_sort sound location known) depth
  rw [indexValue_eq]
  apply isPlain_present
  · simp [indexForm]
  · simp [indexForm, listed, Value.IsPlain.int]

/-- A list of sound locations that fits is read back, in order. -/
theorem decodeIndex_encodeIndex
    [Depths]
    (sound : ∀ location ∈ locations, location.IsSound)
    (fits : (indexValue locations).fits = true) :
    decodeIndex (encodeIndex locations) =
      .ok (Location.sort locations) := by
  obtain ⟨depth, packed⟩ := Nat.exists_eq_add_of_le' Depths.four_le_packed
  have plain : (indexValue locations).IsPlain (Depths.packed + 1) := by
    rw [packed]
    exact isPlain_indexValue sound (depth + 1)
  have unpacked := unpack_pack plain fits
  have read :
      ((Location.sort locations).map packLocation).mapM readLocation =
        .ok (Location.sort locations) := by
    apply mapM_map_eq_ok
    intro location member
    exact readLocation_packLocation (sound_of_mem_sort sound location member)
  rw [indexValue_eq] at unpacked
  simp only [decodeIndex, encodeIndex, indexValue_eq, unpacked]
  simp [indexForm, isOne, Value.elements?, read]

/-- The same locations, however they are listed, are written alike. -/
theorem indexValue_eq_of_perm
    {others : List Location}
    (textual : ∀ location ∈ others, location.isTextual = true)
    (perm : locations.Perm others) :
    indexValue locations = indexValue others := by
  rw [indexValue, Location.sort_eq_of_perm textual perm]
  rfl

/-- The texts that a location is stored with. -/
def storedTexts (location : Location) : List String :=
  [location.crate.name.written, location.crate.version.written,
    location.path.toText, location.name.written,
    location.discriminator.written]

theorem fits_text_iff (content : String) :
    (Value.text content).fits = true ↔ content.utf8ByteSize < 2 ^ 32 := by
  rw [← String.size_toByteArray]
  simp [Value.fits, Value.isLength, Bytes.ofText]

theorem fits_list_iff (items : List Value) :
    (Value.list items).fits = true ↔
      items.length < 2 ^ 32 ∧ ∀ item ∈ items, item.fits = true := by
  simp [Value.fits, Value.isLength]

theorem fits_map_iff (entries : List (Value × Value)) :
    (Value.map entries).fits = true ↔
      entries.length < 2 ^ 32 ∧
        ∀ entry ∈ entries, entry.1.fits = true ∧ entry.2.fits = true := by
  simp [Value.fits, Value.isLength]

/-- A stored location fits if its texts are not too long. -/
theorem fits_packLocation_iff
    (textual : location.isTextual = true) :
    (packLocation location).fits = true ↔
      ∀ text ∈ storedTexts location, text.utf8ByteSize < 2 ^ 32 := by
  obtain ⟨_, _, _, _, kind, _, rfl⟩ :=
    Location.exists_texts_of_isTextual textual
  have short : kind.name.utf8ByteSize < 2 ^ 32 := by
    cases kind <;> decide
  simp only [packLocation, entry, storedTexts, fits_map_iff,
    List.forall_mem_cons, fits_text_iff, short, Pack.Value.written_text]
  simp only [List.not_mem_nil, IsEmpty.forall_iff, implies_true, and_true]
  constructor
  · rintro ⟨_, crate, mark, _, name, path, version⟩
    exact ⟨crate.2, version.2, path.2, name.2, mark.2⟩
  · rintro ⟨crate, version, path, name, mark⟩
    exact ⟨by simp, ⟨by decide, crate⟩, ⟨by decide, mark⟩, by decide,
      ⟨by decide, name⟩, ⟨by decide, path⟩, by decide, version⟩

/-- The list of some locations fits if it is not too long and none of its
texts is. -/
theorem fits_indexValue_iff
    (textual : ∀ location ∈ locations, location.isTextual = true) :
    (indexValue locations).fits = true ↔
      locations.length < 2 ^ 32 ∧
        ∀ location ∈ locations, ∀ text ∈ storedTexts location,
          text.utf8ByteSize < 2 ^ 32 := by
  have stored :
      (Value.list ((Location.sort locations).map packLocation)).fits = true ↔
        locations.length < 2 ^ 32 ∧
          ∀ location ∈ locations, (packLocation location).fits = true := by
    simp only [fits_list_iff, List.length_map, List.forall_mem_map,
      (Location.sort_perm locations).length_eq,
      (Location.sort_perm locations).mem_iff]
  have whole :
      (indexValue locations).fits = true ↔
        (Value.list ((Location.sort locations).map packLocation)).fits =
          true := by
    simp only [indexValue, entry, fits_map_iff, List.forall_mem_cons]
    constructor
    · exact fun fits => fits.2.1.2
    · intro fits
      refine ⟨by simp, ⟨by decide, fits⟩, by decide, by simp⟩
  rw [whole, stored]
  refine and_congr_right fun _ => forall₂_congr fun location member => ?_
  exact fits_packLocation_iff (textual location member)

/--
A list of sound locations is read back in order: as a permutation in which no
location comes after one with a greater key.  This holds if the list fits, which
it does if neither the list nor a text in it is longer than four bytes can tell.
However the locations are listed, the bytes are the same.
-/
theorem decodeIndex_encodeIndex_sorted
    [Depths]
    (sound : ∀ location ∈ locations, location.IsSound) :
    ((indexValue locations).fits = true →
      decodeIndex (encodeIndex locations) =
        .ok (Location.sort locations)) ∧
    ((indexValue locations).fits = true ↔
      locations.length < 2 ^ 32 ∧
        ∀ location ∈ locations, ∀ text ∈ storedTexts location,
          text.utf8ByteSize < 2 ^ 32) ∧
    (Location.sort locations).Perm locations ∧
    ((Location.sort locations).Pairwise fun location other =>
      ¬ other.key < location.key) ∧
    ∀ others : List Location, others.Perm locations →
      encodeIndex others = encodeIndex locations := by
  have textual : ∀ location ∈ locations, location.isTextual = true :=
    fun location member => (sound location member).isTextual
  refine ⟨decodeIndex_encodeIndex sound, fits_indexValue_iff textual,
    Location.sort_perm locations, Location.pairwise_sort textual, ?_⟩
  intro others perm
  rw [encodeIndex, encodeIndex, indexValue_eq_of_perm textual perm]

/-- Locations that are not in order, one of them twice. -/
def samplePlaces : List Location :=
  let new : Location :=
    ⟨⟨"shapes", "1.0.0"⟩, ⟨["shapes", "new"]⟩, "new", .function, "0c37fe"⟩
  [new, { new with discriminator := "" },
    ⟨⟨"lines", "2.0.0"⟩, ⟨["lines"]⟩, "lines", .module, ""⟩, new]

section

attribute [local instance] Depths.usual

theorem decodeIndex_encodeIndex_sorted_samplePlaces :
    (∀ location ∈ samplePlaces, location.IsSound) ∧
      decodeIndex (encodeIndex samplePlaces) =
        .ok (Location.sort samplePlaces) ∧
      encodeIndex samplePlaces.reverse = encodeIndex samplePlaces := by
  have sound : ∀ location ∈ samplePlaces, location.IsSound := by
    simp only [samplePlaces, List.forall_mem_cons]
    refine ⟨?_, ?_, ?_, ?_, by simp⟩
    all_goals exact ⟨by decide, by decide, rfl, rfl⟩
  obtain ⟨read, fits, _, _, same⟩ := decodeIndex_encodeIndex_sorted sound
  exact ⟨sound, read (fits.2 (by decide)), same _ (List.reverse_perm _)⟩

end

end Record

end CrateShelf
