import CrateShelf.Proofs.Association
import CrateShelf.Proofs.Location.Naming
import CrateShelf.Proofs.Pack.Number

/-!
# Files for records of a crate

Records of one crate are tellable if those with the same discriminator are
stored alike.  Then a record gets a file of its own or has one already, as
records are placed one after the other.

Main statements: every place holds a record, every record has a place, and
no two places have files that are not told apart.
-/

namespace CrateShelf

namespace Record

/-! ## Discriminators -/

theorem kept_hexDigit
    {value : Nat}
    (small : value < 16) :
    Text.foldChar (Bytes.hexDigit value) = [Bytes.hexDigit value] ∧
      Bytes.hexDigit value ≠ '~' ∧ Bytes.hexDigit value ≠ '/' := by
  have all : ∀ value < 16,
      Text.foldChar (Bytes.hexDigit value) = [Bytes.hexDigit value] ∧
        Bytes.hexDigit value ≠ '~' ∧ Bytes.hexDigit value ≠ '/' := by
    decide
  exact all value small

/-- A discriminator is left alone by case folding. -/
theorem isMark_discriminator (record : Record) :
    Location.IsMark record.discriminator := by
  intro char member
  simp only [discriminator, String.toList_ofList] at member
  have digit := List.mem_of_mem_take member
  rw [Bytes.toHex, String.toList_ofList] at digit
  obtain ⟨byte, _, written⟩ := List.mem_flatMap.1 digit
  have bound := byte.toNat_lt
  simp only [List.mem_cons, List.not_mem_nil, or_false] at written
  rcases written with rfl | rfl
  · exact kept_hexDigit (by omega)
  · exact kept_hexDigit (by omega)

theorem sha1_ne_nil (bytes : Bytes) : Digest.sha1 bytes ≠ [] := by
  intro empty
  have length := congrArg List.length empty
  simp [Digest.sha1, Pack.length_bigEndian] at length

theorem discriminator_ne_empty (record : Record) :
    record.discriminator ≠ "" := by
  intro empty
  have digits := congrArg String.toList empty
  simp only [discriminator, Bytes.toHex, String.toList_ofList,
    String.toList_empty, List.take_eq_nil_iff, OfNat.ofNat_ne_zero,
    false_or] at digits
  cases digest : Digest.sha1
      (Bytes.ofText record.signature ++ record.encode) with
  | nil => exact sha1_ne_nil _ digest
  | cons byte rest => simp [digest] at digits

end Record

namespace Store

/-- Whether a place has the content of a record and its location, with the
discriminator or without. -/
def Placed.Holds (placed : Placed) (record : Record) : Prop :=
  placed.content = record.encode ∧
    (placed.location = record.location "" ∨
      placed.location = record.location record.discriminator)

/-- Whether all records are of a crate, and those with the same discriminator
are stored alike. -/
structure AreTellable (crate : CrateId) (records : List Record) : Prop where
  crate : ∀ record ∈ records, record.crate = crate
  apart : ∀ first ∈ records, ∀ second ∈ records,
    first.discriminator = second.discriminator →
      first.encode = second.encode ∧ first.location "" = second.location ""

/-- A place has the location of its record, with a discriminator that is left
alone by case folding. -/
theorem Placed.Holds.exists_location_eq
    {placed : Placed}
    {record : Record}
    (holds : placed.Holds record) :
    ∃ mark,
      placed.location = record.location mark ∧ Location.IsMark mark := by
  rcases holds.2 with plain | marked
  · refine ⟨"", plain, ?_⟩
    intro char member
    simp at member
  · exact ⟨record.discriminator, marked, record.isMark_discriminator⟩

theorem Placed.Holds.crate_eq
    {placed : Placed}
    {record : Record}
    (holds : placed.Holds record) :
    placed.location.crate = record.crate := by
  obtain ⟨mark, located, _⟩ := holds.exists_location_eq
  rw [located]
  rfl

/-- A place whose file is not told apart from that of a record without its
discriminator has none. -/
theorem Placed.Holds.eq_of_fileKey_eq_plain
    {placed : Placed}
    {record other : Record}
    (holds : placed.Holds other)
    (crate : other.crate = record.crate)
    (same : fileKey placed.location = fileKey (record.location "")) :
    placed.location = other.location "" := by
  rcases holds.2 with plain | marked
  · exact plain
  · have sameCrate :
        (record.location "").crate =
          (other.location other.discriminator).crate := crate.symm
    rw [marked] at same
    exact absurd same.symm
      (Location.fileKey_ne sameCrate rfl rfl other.discriminator_ne_empty
        other.isMark_discriminator)

/-- A place whose file is not told apart from that of a record with its
discriminator has this one. -/
theorem Placed.Holds.eq_of_fileKey_eq_marked
    {placed : Placed}
    {record other : Record}
    (holds : placed.Holds other)
    (crate : other.crate = record.crate)
    (same : fileKey placed.location =
      fileKey (record.location record.discriminator)) :
    placed.location = other.location other.discriminator ∧
      other.discriminator = record.discriminator := by
  rcases holds.2 with plain | marked
  · have sameCrate :
        (other.location "").crate =
          (record.location record.discriminator).crate := crate
    rw [plain] at same
    exact absurd same
      (Location.fileKey_ne sameCrate rfl rfl record.discriminator_ne_empty
        record.isMark_discriminator)
  · rw [marked] at same
    exact ⟨marked,
      Location.eq_of_fileKey_eq rfl other.discriminator_ne_empty
        other.isMark_discriminator rfl record.discriminator_ne_empty
        record.isMark_discriminator same⟩

namespace Places

/-! ## Putting -/

theorem put_of_new
    {places : Places}
    {key : String}
    (new : key ∉ places.map Prod.fst)
    (placed : Placed) :
    places.put key placed = places ++ [(key, placed)] := by
  induction places with
  | nil => rfl
  | cons known places inductionStep =>
      obtain ⟨other, standing⟩ := known
      rw [List.map_cons, List.mem_cons, not_or] at new
      have different : ¬ other = key := fun same => new.1 same.symm
      rw [put, if_neg different, inductionStep new.2, List.cons_append]

/-- What is there already may be put again. -/
theorem put_of_known
    {places : Places}
    {key : String}
    {placed : Placed}
    (apart : (places.map Prod.fst).Nodup)
    (known : (key, placed) ∈ places) :
    places.put key placed = places := by
  induction places with
  | nil => cases known
  | cons first places inductionStep =>
      obtain ⟨other, standing⟩ := first
      rw [List.map_cons, List.nodup_cons] at apart
      rcases List.mem_cons.1 known with same | later
      · cases same
        rw [put, if_pos rfl]
      · have inLater : key ∈ places.map Prod.fst :=
          List.mem_map.2 ⟨(key, placed), later, rfl⟩
        have different : ¬ other = key := by
          rintro rfl
          exact apart.1 inLater
        rw [put, if_neg different, inductionStep apart.2 later]

/-! ## Placing one record -/

/-- Whether places are those of records: each holds one, each record has
one, and files are told apart. -/
structure AreOf (places : Places) (records : List Record) : Prop where
  keyed : ∀ known ∈ places, known.1 = fileKey known.2.location
  apart : (places.map Prod.fst).Nodup
  held : ∀ known ∈ places, ∃ record ∈ records, known.2.Holds record
  complete : ∀ record ∈ records, ∃ known ∈ places, known.2.Holds record

theorem locationFor_of_taken
    {places : Places}
    {record : Record}
    (taken : (places.lookup (fileKey (record.location ""))).isSome) :
    places.locationFor record = record.location record.discriminator :=
  if_pos taken

theorem locationFor_of_free
    {places : Places}
    {record : Record}
    (free : ¬ (places.lookup (fileKey (record.location ""))).isSome) :
    places.locationFor record = record.location "" :=
  if_neg free

theorem holds_locationFor
    (places : Places)
    (record : Record) :
    (⟨places.locationFor record, record.encode⟩ : Placed).Holds record := by
  refine ⟨rfl, ?_⟩
  by_cases taken : (places.lookup (fileKey (record.location ""))).isSome
  · exact Or.inr (locationFor_of_taken taken)
  · exact Or.inl (locationFor_of_free taken)

/-- Only with its discriminator a record gets a file that is taken. -/
theorem locationFor_of_key_mem
    {places : Places}
    (apart : (places.map Prod.fst).Nodup)
    {record : Record}
    {known : String × Placed}
    (inPlaces : known ∈ places)
    (same : known.1 = fileKey (places.locationFor record)) :
    places.locationFor record = record.location record.discriminator := by
  by_cases taken : (places.lookup (fileKey (record.location ""))).isSome
  · exact locationFor_of_taken taken
  · have found : places.lookup known.1 = some known.2 :=
      (lookup_eq_some_iff_mem apart).2 inPlaces
    rw [same, locationFor_of_free taken] at found
    rw [found] at taken
    exact absurd rfl taken

/-- A place whose file is not told apart from that of the next record has
the location and the content that the record gets. -/
theorem eq_of_fileKey_eq
    {places : Places}
    {crate : CrateId}
    {all records : List Record}
    (tellable : AreTellable crate all)
    (areOf : places.AreOf records)
    (among : ∀ record ∈ records, record ∈ all)
    {record : Record}
    (member : record ∈ all)
    {known : String × Placed}
    (inPlaces : known ∈ places)
    (same : known.1 = fileKey (places.locationFor record)) :
    known = (known.1, ⟨places.locationFor record, record.encode⟩) := by
  have marked := locationFor_of_key_mem areOf.apart inPlaces same
  rw [marked, areOf.keyed known inPlaces] at same
  rw [marked]
  obtain ⟨key, location, content⟩ := known
  obtain ⟨other, inRecords, holds⟩ := areOf.held _ inPlaces
  have crates : other.crate = record.crate :=
    (tellable.crate other (among other inRecords)).trans
      (tellable.crate record member).symm
  obtain ⟨located, discriminators⟩ :=
    holds.eq_of_fileKey_eq_marked crates same
  obtain ⟨encoded, locations⟩ :=
    tellable.apart other (among other inRecords) record member discriminators
  have sameLocation :
      other.location other.discriminator =
        record.location record.discriminator := by
    rw [discriminators]
    exact congrArg
      (fun location : Location =>
        { location with discriminator := record.discriminator }) locations
  rw [← sameLocation, ← located, ← encoded, ← holds.1]

/-- A record that has a place already. -/
theorem AreOf.again
    {places : Places}
    {records : List Record}
    (areOf : places.AreOf records)
    {known : String × Placed}
    (inPlaces : known ∈ places)
    {record : Record}
    (holds : known.2.Holds record) :
    places.AreOf (records ++ [record]) := by
  refine ⟨areOf.keyed, areOf.apart, ?_, ?_⟩
  · intro place inPlaces
    obtain ⟨other, inRecords, held⟩ := areOf.held place inPlaces
    exact ⟨other, List.mem_append_left _ inRecords, held⟩
  · intro other inRecords
    rcases List.mem_append.1 inRecords with earlier | last
    · exact areOf.complete other earlier
    · rw [List.mem_singleton] at last
      subst last
      exact ⟨known, inPlaces, holds⟩

/-- A record that gets a place of its own. -/
theorem AreOf.concat
    {places : Places}
    {records : List Record}
    (areOf : places.AreOf records)
    (placed : Placed)
    (new : fileKey placed.location ∉ places.map Prod.fst)
    {record : Record}
    (holds : placed.Holds record) :
    AreOf (places ++ [(fileKey placed.location, placed)])
      (records ++ [record]) := by
  constructor
  · intro place inPlaces
    rcases List.mem_append.1 inPlaces with earlier | last
    · exact areOf.keyed place earlier
    · rw [List.mem_singleton] at last
      subst last
      rfl
  · rw [List.map_append, List.nodup_append]
    refine ⟨areOf.apart, by simp, ?_⟩
    intro first earlier second last same
    rw [List.map_singleton, List.mem_singleton] at last
    rw [same, last] at earlier
    exact new earlier
  · intro place inPlaces
    rcases List.mem_append.1 inPlaces with earlier | last
    · obtain ⟨other, inRecords, held⟩ := areOf.held place earlier
      exact ⟨other, List.mem_append_left _ inRecords, held⟩
    · rw [List.mem_singleton] at last
      subst last
      exact ⟨record, by simp, holds⟩
  · intro other inRecords
    rcases List.mem_append.1 inRecords with earlier | last
    · obtain ⟨place, inPlaces, held⟩ := areOf.complete other earlier
      exact ⟨place, List.mem_append_left _ inPlaces, held⟩
    · rw [List.mem_singleton] at last
      subst last
      exact ⟨_, List.mem_append_right _ (List.mem_singleton_self _), holds⟩

/-- Placing one record more. -/
theorem areOf_add
    {places : Places}
    {crate : CrateId}
    {all records : List Record}
    (tellable : AreTellable crate all)
    (areOf : places.AreOf records)
    (among : ∀ record ∈ records, record ∈ all)
    {record : Record}
    (member : record ∈ all) :
    (places.add record).AreOf (records ++ [record]) := by
  have holds := holds_locationFor places record
  by_cases known :
      fileKey (places.locationFor record) ∈ places.map Prod.fst
  · obtain ⟨place, inPlaces, key⟩ := List.mem_map.1 known
    have whole :=
      eq_of_fileKey_eq tellable areOf among member inPlaces key
    have there :
        (fileKey (places.locationFor record),
          (⟨places.locationFor record, record.encode⟩ : Placed)) ∈
          places := by
      rw [← key, ← whole]
      exact inPlaces
    have unchanged : places.add record = places :=
      put_of_known areOf.apart there
    rw [unchanged]
    apply areOf.again there
    exact holds
  · have grown :
        places.add record =
          places ++ [(fileKey (places.locationFor record),
            ⟨places.locationFor record, record.encode⟩)] :=
      put_of_new known _
    rw [grown]
    exact
      areOf.concat ⟨places.locationFor record, record.encode⟩ known holds

end Places

/-! ## What places hold -/

namespace Places

/-- What is put at a key is the only thing that is new. -/
theorem mem_or_eq_of_mem_put
    {places : Places}
    {key : String}
    {placed : Placed}
    {known : String × Placed}
    (member : known ∈ places.put key placed) :
    known ∈ places ∨ known.2 = placed := by
  induction places with
  | nil =>
      rw [put, List.mem_singleton] at member
      rw [member]
      exact Or.inr rfl
  | cons first places inductionStep =>
      rcases first with ⟨other, standing⟩
      rw [put] at member
      split at member
      · rcases List.mem_cons.1 member with rfl | later
        · exact Or.inr rfl
        · exact Or.inl (List.mem_cons_of_mem _ later)
      · rcases List.mem_cons.1 member with rfl | later
        · exact Or.inl List.mem_cons_self
        · rcases inductionStep later with inPlaces | new
          · exact Or.inl (List.mem_cons_of_mem _ inPlaces)
          · exact Or.inr new

theorem holds_of_mem_placeFrom
    {places : Places}
    {records : List Record}
    {known : String × Placed}
    (member : known ∈ (placeFrom places records).1) :
    known ∈ places ∨ ∃ record ∈ records, known.2.Holds record := by
  induction records generalizing places with
  | nil => exact Or.inl member
  | cons record records inductionStep =>
      rcases inductionStep member with added | ⟨other, later, holds⟩
      · rcases mem_or_eq_of_mem_put added with inPlaces | new
        · exact Or.inl inPlaces
        · refine Or.inr ⟨record, List.mem_cons_self, ?_⟩
          rw [new]
          exact holds_locationFor places record
      · exact Or.inr ⟨other, List.mem_cons_of_mem _ later, holds⟩

end Places

/-- Every place holds a record. -/
theorem exists_holds_of_mem_place
    {records : List Record}
    {placed : Placed}
    (member : placed ∈ (place records).1) :
    ∃ record ∈ records, placed.Holds record := by
  rcases List.mem_map.1 member with ⟨known, inPlaces, rfl⟩
  rcases Places.holds_of_mem_placeFrom inPlaces with none | held
  · cases none
  · exact held

/-! ## Placing all records -/

/-- What placing one record more keeps holds of all places. -/
theorem placeFrom_induction
    {motive : Places → List Record → Prop}
    {all : List Record}
    (add : ∀ places done record,
      motive places done → (∀ other ∈ done, other ∈ all) → record ∈ all →
        motive (places.add record) (done ++ [record]))
    {places : Places}
    {done : List Record}
    (start : motive places done)
    (records : List Record)
    (among : ∀ record ∈ done ++ records, record ∈ all) :
    motive (placeFrom places records).1 (done ++ records) := by
  induction records generalizing places done with
  | nil => simpa [placeFrom] using start
  | cons record records inductionStep =>
      have next :=
        add places done record start
          (fun other member => among other (List.mem_append_left _ member))
          (among record (by simp))
      have whole :
          done ++ record :: records = done ++ [record] ++ records := by
        simp
      rw [whole] at among ⊢
      exact inductionStep next among

variable
    {crate : CrateId}
    {records : List Record}

theorem areOf_place
    (tellable : AreTellable crate records) :
    (placeFrom [] records).1.AreOf records := by
  have none : Places.AreOf [] [] := by
    constructor
    all_goals simp
  refine placeFrom_induction ?add none records fun record member => member
  intro places done record areOf among member
  exact Places.areOf_add tellable areOf among member

/-- Every record has a place. -/
theorem exists_mem_place
    (tellable : AreTellable crate records)
    {record : Record}
    (member : record ∈ records) :
    ∃ placed ∈ (place records).1, placed.Holds record := by
  obtain ⟨known, inPlaces, holds⟩ := (areOf_place tellable).complete record member
  exact ⟨known.2, List.mem_map_of_mem inPlaces, holds⟩

/-- The keys are what the files of the places are told apart by. -/
theorem map_fileKey_place
    (keyed : ∀ known ∈ (placeFrom [] records).1,
      known.1 = fileKey known.2.location) :
    (place records).1.map (fun placed => fileKey placed.location) =
      (placeFrom [] records).1.map Prod.fst := by
  rw [place, List.map_map]
  apply List.map_congr_left
  intro known member
  exact (keyed known member).symm

/-- The files of all places are told apart. -/
theorem nodup_place
    (tellable : AreTellable crate records) :
    ((place records).1.map fun placed =>
      fileKey placed.location).Nodup := by
  have areOf := areOf_place tellable
  rw [map_fileKey_place areOf.keyed]
  exact areOf.apart

end Store

end CrateShelf
