import CrateShelf.Proofs.Record.RoundTrip
import CrateShelf.Proofs.Store.Place

/-!
# Records that share a file

Records of a crate may have the same path, or paths that differ only by case.
The first of them gets the file without a discriminator, and the others get
theirs with it.  Since a name has no tilde, a file with a discriminator is never
taken for one without, so that only records with the same discriminator come to
the same place.

Main statement: if records with the same discriminator have the same content,
the content of each record is in one of the places, the places have files that
are told apart, and those without a discriminator are of the first records that
have these files.
-/

namespace CrateShelf.Store

/-- Whether records are of a crate, and those with the same discriminator have
the same content. -/
structure AreDistinct (crate : CrateId) (records : List Record) : Prop where
  crate : ∀ record ∈ records, record.crate = crate
  content : ∀ first ∈ records, ∀ second ∈ records,
    first.discriminator = second.discriminator →
      first.encode = second.encode

theorem AreDistinct.crate_eq
    {crate : CrateId}
    {records : List Record}
    (distinct : AreDistinct crate records)
    {first second : Record}
    (member : first ∈ records)
    (alsoMember : second ∈ records) :
    first.crate = second.crate :=
  (distinct.crate first member).trans (distinct.crate second alsoMember).symm

/-- Whether a key is that of a record's file, without the discriminator or with
it. -/
def IsKeyOf (key : String) (record : Record) : Prop :=
  key = fileKey (record.location "") ∨
    key = fileKey (record.location record.discriminator)

/-- The first of some records whose file without a discriminator is the one
with a key. -/
def first? (records : List Record) (key : String) : Option Record :=
  records.find? fun record => fileKey (record.location "") = key

theorem first?_concat
    (records : List Record)
    (record : Record)
    (key : String) :
    first? (records ++ [record]) key =
      (first? records key).or
        (if fileKey (record.location "") = key then some record else none) := by
  rw [first?, List.find?_append, List.find?_singleton, first?]
  simp only [decide_eq_true_eq]

/-- The place of a record without its discriminator. -/
def plainPlace (record : Record) : Placed :=
  ⟨record.location "", record.encode⟩

/-- A place that holds a record has a discriminator unless it is the one
without. -/
theorem Placed.Holds.eq_plainPlace
    {placed : Placed}
    {record : Record}
    (holds : placed.Holds record)
    (plain : placed.location.discriminator = "") :
    placed = plainPlace record := by
  obtain ⟨location, content⟩ := placed
  obtain ⟨rfl, rfl | rfl⟩ := holds
  · rfl
  · exact absurd (Pack.Value.text.inj plain) record.discriminator_ne_empty

namespace Places

variable
    {places : Places}
    {key : String}
    {placed : Placed}

/-! ## Putting in the place of another -/

/-- What is put at a key takes the place of what was there. -/
theorem mem_put_iff
    (apart : (places.map Prod.fst).Nodup)
    (known : String × Placed) :
    known ∈ places.put key placed ↔
      known = (key, placed) ∨ known ∈ places ∧ known.1 ≠ key := by
  induction places with
  | nil => simp [put]
  | cons first places inductionStep =>
      obtain ⟨other, standing⟩ := first
      rw [List.map_cons, List.nodup_cons] at apart
      rw [put]
      split
      · rename_i same
        subst same
        have elsewhere : ∀ later ∈ places, later.1 ≠ other := by
          rintro later member rfl
          exact apart.1 (List.mem_map.2 ⟨later, member, rfl⟩)
        rw [List.mem_cons, List.mem_cons]
        constructor
        · rintro (rfl | later)
          · exact Or.inl rfl
          · exact Or.inr ⟨Or.inr later, elsewhere known later⟩
        · rintro (rfl | ⟨rfl | later, different⟩)
          · exact Or.inl rfl
          · exact absurd rfl different
          · exact Or.inr later
      · rename_i different
        rw [List.mem_cons, List.mem_cons, inductionStep apart.2]
        constructor
        · rintro (rfl | rfl | ⟨later, otherKey⟩)
          · exact Or.inr ⟨Or.inl rfl, different⟩
          · exact Or.inl rfl
          · exact Or.inr ⟨Or.inr later, otherKey⟩
        · rintro (rfl | ⟨rfl | later, otherKey⟩)
          · exact Or.inr (Or.inl rfl)
          · exact Or.inl rfl
          · exact Or.inr (Or.inr ⟨later, otherKey⟩)

/-- No key comes twice. -/
theorem nodup_put
    (apart : (places.map Prod.fst).Nodup) :
    ((places.put key placed).map Prod.fst).Nodup := by
  induction places with
  | nil => simp [put]
  | cons first places inductionStep =>
      obtain ⟨other, standing⟩ := first
      have tails := apart
      rw [List.map_cons, List.nodup_cons] at tails
      rw [put]
      split
      · exact apart
      · rename_i different
        rw [List.map_cons, List.nodup_cons]
        refine ⟨?_, inductionStep tails.2⟩
        rw [List.mem_map]
        rintro ⟨known, member, rfl⟩
        rcases (mem_put_iff tails.2 known).1 member with rfl | ⟨later, _⟩
        · exact different rfl
        · exact tails.1 (List.mem_map.2 ⟨known, later, rfl⟩)

/-! ## Placing one record -/

/-- Whether places keep what some records have: each is of one of them, the
content of each record is in a file of this record, and the files without a
discriminator are those of the first records that have them. -/
structure Keeps (places : Places) (records : List Record) : Prop where
  keyed : ∀ known ∈ places, known.1 = fileKey known.2.location
  apart : (places.map Prod.fst).Nodup
  held : ∀ known ∈ places, ∃ record ∈ records, known.2.Holds record
  content : ∀ record ∈ records, ∃ known ∈ places,
    known.2.content = record.encode ∧ IsKeyOf known.1 record
  first : ∀ known ∈ places, known.2.location.discriminator = "" →
    ∃ record, first? records known.1 = some record ∧
      known.2 = plainPlace record
  plain : ∀ key record, first? records key = some record →
    (key, plainPlace record) ∈ places

variable
    {crate : CrateId}
    {all done : List Record}
    {record : Record}

/-- A file that is taken by a place with a discriminator is not that of a
record without. -/
theorem Keeps.plain_of_key_eq
    (keeps : places.Keeps done)
    (distinct : AreDistinct crate all)
    (among : ∀ record ∈ done, record ∈ all)
    (member : record ∈ all)
    {known : String × Placed}
    (inPlaces : known ∈ places)
    (same : known.1 = fileKey (record.location "")) :
    known.2.location.discriminator = "" := by
  obtain ⟨other, inDone, holds⟩ := keeps.held known inPlaces
  rw [keeps.keyed known inPlaces] at same
  rw [holds.eq_of_fileKey_eq_plain
    (distinct.crate_eq (among other inDone) member) same]
  rfl

/-- The next record gets the file without a discriminator exactly when it is
the first one that has it. -/
theorem Keeps.locationFor_eq_iff
    (keeps : places.Keeps done)
    (distinct : AreDistinct crate all)
    (among : ∀ record ∈ done, record ∈ all)
    (member : record ∈ all) :
    places.locationFor record = record.location "" ↔
      first? done (fileKey (record.location "")) = none := by
  have taken : (∃ placed,
        places.lookup (fileKey (record.location "")) = some placed) ↔
      ∃ first, first? done (fileKey (record.location "")) = some first := by
    constructor
    · rintro ⟨placed, found⟩
      have inPlaces := (lookup_eq_some_iff_mem keeps.apart).1 found
      have plain := keeps.plain_of_key_eq distinct among member inPlaces rfl
      obtain ⟨first, isFirst, _⟩ := keeps.first _ inPlaces plain
      exact ⟨first, isFirst⟩
    · rintro ⟨first, isFirst⟩
      exact ⟨_, (lookup_eq_some_iff_mem keeps.apart).2
        (keeps.plain _ first isFirst)⟩
  rw [← Option.not_isSome_iff_eq_none, Option.isSome_iff_exists, ← taken,
    ← Option.isSome_iff_exists]
  constructor
  · intro plain isTaken
    rw [locationFor_of_taken isTaken] at plain
    exact record.discriminator_ne_empty
      (Pack.Value.text.inj (congrArg Location.discriminator plain))
  · exact locationFor_of_free

/-- What the next record takes the place of has a discriminator and the same
content. -/
theorem Keeps.of_key_eq_locationFor
    (keeps : places.Keeps done)
    (distinct : AreDistinct crate all)
    (among : ∀ record ∈ done, record ∈ all)
    (member : record ∈ all)
    {known : String × Placed}
    (inPlaces : known ∈ places)
    (same : known.1 = fileKey (places.locationFor record)) :
    known.2.location.discriminator ≠ "" ∧
      known.2.content = record.encode := by
  have marked := locationFor_of_key_mem keeps.apart inPlaces same
  rw [marked, keeps.keyed known inPlaces] at same
  obtain ⟨other, inDone, holds⟩ := keeps.held known inPlaces
  obtain ⟨located, discriminators⟩ :=
    holds.eq_of_fileKey_eq_marked
      (distinct.crate_eq (among other inDone) member) same
  constructor
  · rw [located]
    exact fun plain =>
      other.discriminator_ne_empty (Pack.Value.text.inj plain)
  · rw [holds.1]
    exact distinct.content other (among other inDone) record member
      discriminators

/-- What is there after one record more. -/
theorem Keeps.mem_add_iff
    (keeps : places.Keeps done)
    (record : Record)
    (known : String × Placed) :
    known ∈ places.add record ↔
      known = (fileKey (places.locationFor record),
          ⟨places.locationFor record, record.encode⟩) ∨
        known ∈ places ∧ known.1 ≠ fileKey (places.locationFor record) :=
  mem_put_iff keeps.apart known

theorem Keeps.content_add
    (keeps : places.Keeps done)
    (distinct : AreDistinct crate all)
    (among : ∀ record ∈ done, record ∈ all)
    (member : record ∈ all) :
    ∀ other ∈ done ++ [record], ∃ known ∈ places.add record,
      known.2.content = other.encode ∧ IsKeyOf known.1 other := by
  intro other inRecords
  rcases List.mem_append.1 inRecords with inDone | last
  · obtain ⟨known, inPlaces, content, isKey⟩ := keeps.content other inDone
    by_cases same : known.1 = fileKey (places.locationFor record)
    · have sameContent :=
        (keeps.of_key_eq_locationFor distinct among member inPlaces same).2
      refine ⟨_, (keeps.mem_add_iff record _).2 (Or.inl rfl), ?_,
        same ▸ isKey⟩
      rw [← content, sameContent]
    · exact ⟨known, (keeps.mem_add_iff record _).2 (Or.inr ⟨inPlaces, same⟩),
        content, isKey⟩
  · rw [List.mem_singleton] at last
    subst last
    exact ⟨_, (keeps.mem_add_iff other _).2 (Or.inl rfl), rfl,
      (holds_locationFor places other).2.imp (congrArg fileKey)
        (congrArg fileKey)⟩

theorem Keeps.first_add
    (keeps : places.Keeps done)
    (distinct : AreDistinct crate all)
    (among : ∀ record ∈ done, record ∈ all)
    (member : record ∈ all) :
    ∀ known ∈ places.add record, known.2.location.discriminator = "" →
      ∃ first, first? (done ++ [record]) known.1 = some first ∧
        known.2 = plainPlace first := by
  intro known inAdded plain
  rcases (keeps.mem_add_iff record known).1 inAdded with rfl | ⟨inPlaces, _⟩
  · have same := (holds_locationFor places record).eq_plainPlace plain
    have located : places.locationFor record = record.location "" :=
      congrArg Placed.location same
    have free : first? done (fileKey (record.location "")) = none :=
      (keeps.locationFor_eq_iff distinct among member).1 located
    refine ⟨record, ?_, same⟩
    rw [first?_concat, located, free, if_pos rfl]
    rfl
  · obtain ⟨first, isFirst, same⟩ := keeps.first known inPlaces plain
    refine ⟨first, ?_, same⟩
    rw [first?_concat, isFirst]
    rfl

theorem Keeps.plain_add
    (keeps : places.Keeps done)
    (distinct : AreDistinct crate all)
    (among : ∀ record ∈ done, record ∈ all)
    (member : record ∈ all) :
    ∀ key first, first? (done ++ [record]) key = some first →
      (key, plainPlace first) ∈ places.add record := by
  intro key first isFirst
  rw [first?_concat] at isFirst
  cases earlier : first? done key with
  | some other =>
      rw [earlier] at isFirst
      cases isFirst
      have inPlaces := keeps.plain key first earlier
      refine (keeps.mem_add_iff record _).2 (Or.inr ⟨inPlaces, fun same => ?_⟩)
      exact (keeps.of_key_eq_locationFor distinct among member inPlaces
        same).1 rfl
  | none =>
      rw [earlier, Option.none_or] at isFirst
      split at isFirst
      · rename_i same
        cases isFirst
        subst same
        have located : places.locationFor record = record.location "" :=
          (keeps.locationFor_eq_iff distinct among member).2 earlier
        refine (keeps.mem_add_iff record _).2 (Or.inl ?_)
        rw [located]
        rfl
      · cases isFirst

/-- Placing one record more. -/
theorem Keeps.add
    (keeps : places.Keeps done)
    (distinct : AreDistinct crate all)
    (among : ∀ record ∈ done, record ∈ all)
    (member : record ∈ all) :
    (places.add record).Keeps (done ++ [record]) where
  keyed known inAdded := by
    rcases (keeps.mem_add_iff record known).1 inAdded with
      rfl | ⟨inPlaces, _⟩
    · rfl
    · exact keeps.keyed known inPlaces
  apart := nodup_put keeps.apart
  held known inAdded := by
    rcases (keeps.mem_add_iff record known).1 inAdded with
      rfl | ⟨inPlaces, _⟩
    · exact ⟨record, by simp, holds_locationFor places record⟩
    · obtain ⟨other, inDone, held⟩ := keeps.held known inPlaces
      exact ⟨other, List.mem_append_left _ inDone, held⟩
  content := keeps.content_add distinct among member
  first := keeps.first_add distinct among member
  plain := keeps.plain_add distinct among member

end Places

/-! ## Placing all records -/

variable
    {crate : CrateId}
    {records : List Record}

theorem keeps_place
    (distinct : AreDistinct crate records) :
    (placeFrom [] records).1.Keeps records := by
  have none : Places.Keeps [] [] := by
    constructor
    all_goals simp [first?]
  refine placeFrom_induction ?add none records fun record member => member
  intro places done record keeps among member
  exact keeps.add distinct among member

/--
If records of a crate with the same discriminator have the same content, the
content of each record is in the place of one of its files.  Each place has the
content of a record and its location, with the discriminator of this record or
without, and the files of all places are told apart.  The places without a
discriminator are those of the first records that have these files.
-/
theorem place_keeps_all_apart
    (distinct : AreDistinct crate records) :
    (∀ record ∈ records, ∃ placed ∈ (place records).1,
      placed.content = record.encode ∧
        IsKeyOf (fileKey placed.location) record) ∧
    (∀ placed ∈ (place records).1, ∃ record ∈ records,
      placed.Holds record) ∧
    ((place records).1.map fun placed =>
      fileKey placed.location).Nodup ∧
    ∀ placed,
      placed ∈ (place records).1 ∧ placed.location.discriminator = "" ↔
        ∃ record,
          first? records (fileKey placed.location) = some record ∧
            placed = plainPlace record := by
  have keeps := keeps_place distinct
  have present : ∀ placed, placed ∈ (place records).1 ↔
      (fileKey placed.location, placed) ∈ (placeFrom [] records).1 := by
    intro placed
    rw [place, List.mem_map]
    constructor
    · rintro ⟨known, inPlaces, rfl⟩
      rw [← keeps.keyed known inPlaces]
      exact inPlaces
    · exact fun inPlaces => ⟨_, inPlaces, rfl⟩
  refine ⟨?_, fun placed => exists_holds_of_mem_place, ?_, ?_⟩
  · intro record member
    obtain ⟨known, inPlaces, content, isKey⟩ := keeps.content record member
    refine ⟨known.2, List.mem_map_of_mem inPlaces, content, ?_⟩
    rw [← keeps.keyed known inPlaces]
    exact isKey
  · rw [map_fileKey_place keeps.keyed]
    exact keeps.apart
  · intro placed
    rw [present]
    constructor
    · rintro ⟨inPlaces, plain⟩
      exact keeps.first (fileKey placed.location, placed) inPlaces plain
    · rintro ⟨record, isFirst, same⟩
      refine ⟨?_, by rw [same]; rfl⟩
      rw [same]
      rw [same] at isFirst
      exact keeps.plain (fileKey (plainPlace record).location) record isFirst

/-- Functions of a crate: two of one name, one whose name differs by case, and
the first one again. -/
def namesakes : List Record :=
  let new : Record :=
    { Record.samplePoint with
      name := "new", path := ⟨["shapes", "new"]⟩, docs := [], links := [] }
  [new, { new with docs := ["Again."] },
    { new with name := "New", path := ⟨["shapes", "New"]⟩ }, new]

theorem place_keeps_all_apart_namesakes :
    AreDistinct Record.samplePoint.crate namesakes ∧
      (∀ record ∈ namesakes, ∃ placed ∈ (place namesakes).1,
        placed.content = record.encode ∧
          IsKeyOf (fileKey placed.location) record) ∧
      ((place namesakes).1.map fun placed =>
        fileKey placed.location).Nodup := by
  have distinct : AreDistinct Record.samplePoint.crate namesakes := by
    constructor
    · decide
    · decide +kernel
  have kept := place_keeps_all_apart distinct
  exact ⟨distinct, kept.1, kept.2.2.1⟩

end CrateShelf.Store
