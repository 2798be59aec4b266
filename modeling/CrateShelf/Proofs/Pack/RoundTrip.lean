import CrateShelf.Proofs.Pack.Number

/-!
# Reading what was packed

A value is plain if the keys of its maps are different texts and it is not
nested too deeply; instants and extensions, which no store writes, are not
counted in.

Main statement: a plain value that fits is read back from its packed form,
and nothing behind it is touched.
-/

namespace CrateShelf.Pack

namespace Value

/-! ## Size -/

@[simp]
theorem allFit_iff (items : List Value) :
    allFit items = true ↔ ∀ item ∈ items, item.fits = true := by
  induction items with
  | nil => simp [allFit]
  | cons item items inductionStep =>
      simp [allFit, inductionStep]

@[simp]
theorem entriesFit_iff (entries : List (Value × Value)) :
    entriesFit entries = true ↔
      ∀ entry ∈ entries, entry.1.fits = true ∧ entry.2.fits = true := by
  induction entries with
  | nil => simp [entriesFit]
  | cons entry entries inductionStep =>
      simp [entriesFit, inductionStep]

/-! ## Shape -/

/--
A value with different texts as the keys of its maps, in which lists and maps
are nested so that no value is more than `depth` deep, itself counted.  Torn
texts are plain, but do not fit.
-/
inductive IsPlain : (depth : Nat) → Value → Prop where
  | null {depth : Nat} : IsPlain (depth + 1) null
  | bool {depth : Nat} (flag : Bool) : IsPlain (depth + 1) (bool flag)
  | int {depth : Nat} (number : Int) : IsPlain (depth + 1) (int number)
  | real {depth : Nat} (bits : UInt64) : IsPlain (depth + 1) (real bits)
  | text {depth : Nat} (content : String) :
      IsPlain (depth + 1) (text content)
  | torn {depth : Nat} (content : TornText) :
      IsPlain (depth + 1) (torn content)
  | bytes {depth : Nat} (content : Bytes) :
      IsPlain (depth + 1) (bytes content)
  | list {depth : Nat} (items : List Value)
      (each : ∀ item ∈ items, IsPlain depth item) :
      IsPlain (depth + 1) (list items)
  | map {depth : Nat} (entries : List (Value × Value))
      (texts : ∀ entry ∈ entries, ∃ name, entry.1 = Value.text name)
      (apart : (entries.map Prod.fst).Nodup)
      (each : ∀ entry ∈ entries, IsPlain depth entry.2) :
      IsPlain (depth + 1) (map entries)

/-- A new key is put behind the others. -/
theorem insertEntry_of_new
    (known : List (Value × Value))
    (name : String)
    (value : Value)
    (texts : ∀ entry ∈ known, ∃ other, entry.1 = Value.text other)
    (new : ∀ entry ∈ known, entry.1 ≠ Value.text name) :
    insertEntry known (.text name) value =
      known ++ [(.text name, value)] := by
  have absent :
      known.any (fun entry => entry.1.isSameKey (.text name)) = false := by
    rw [List.any_eq_false]
    intro entry member same
    obtain ⟨other, equal⟩ := texts entry member
    rw [equal] at same
    apply new entry member
    rw [equal]
    simpa [isSameKey] using same
  simp [insertEntry, absent]

end Value

/-! ## Heads -/

section

variable
    (total depth : Nat)
    (place : Place)
    (rest : Bytes)

/-- Reads raw bytes of the given length. -/
def readBytes (length : Nat) : Reader Value := fun bytes => do
  let (content, rest) ← takeBytes length bytes
  return (.bytes content, rest)

/-- Reads a list of so many items. -/
def readList (item : Step → Reader Value) (count : Nat) : Reader Value :=
    fun bytes => do
  let (items, rest) ← readItems item 0 count bytes
  return (.list items, rest)

/-- Reads a map of so many entries. -/
def readMap (item : Step → Reader Value) (count : Nat) : Reader Value :=
    fun bytes => do
  let (entries, rest) ← readEntries total item count [] bytes
  return (.map entries, rest)

/-- What is read behind the length of a text is that text. -/
theorem readText_ofText (content : String) :
    readText (Bytes.ofText content).length (Bytes.ofText content ++ rest) =
      .ok (.text content, rest) := by
  have taken :=
    takeBytes_append _ (Bytes.ofText content) rest rfl
  simp only [readText, taken, ok_bind, Bytes.toText?_ofText, pure_eq_ok]

/-- A length is read and what follows goes on with it. -/
theorem takeNumber_bind
    {Result : Type}
    (width length : Nat)
    (next : Nat → Reader Result)
    (small : length < 256 ^ width) :
    (takeNumber width (bigEndian width length ++ rest) >>=
        fun read => next read.1 read.2) =
      next length rest := by
  rw [takeNumber_bigEndian width length rest small, ok_bind]

/-- The head of a text leads to reading as many bytes as it tells. -/
theorem readValue_textHead
    (length : Nat)
    (fits : length < 4294967296) :
    readValue total (depth + 1) place (textHead length ++ rest) =
      readText length rest := by
  unfold textHead
  split
  · rename_i small
    have byte : (UInt8.ofNat (160 + length)).toNat = 160 + length := by
      simp
      omega
    have low : ¬ 160 + length < 160 := by omega
    have lower : ¬ 160 + length < 144 := by omega
    have lowest : ¬ 160 + length < 128 := by omega
    have high : 160 + length < 192 := by omega
    simp only [List.cons_append, List.nil_append, readValue, byte]
    simp [readAfter, low, lower, lowest, high]
  · split
    · exact takeNumber_bind rest 1 length readText (by omega)
    · split
      · exact takeNumber_bind rest 2 length readText (by omega)
      · exact takeNumber_bind rest 4 length readText (by omega)

/-- The head of raw bytes leads to taking as many as it tells. -/
theorem readValue_bytesHead
    (length : Nat)
    (fits : length < 4294967296) :
    readValue total (depth + 1) place (bytesHead length ++ rest) =
      readBytes length rest := by
  unfold bytesHead
  split
  · exact takeNumber_bind rest 1 length readBytes (by omega)
  · split
    · exact takeNumber_bind rest 2 length readBytes (by omega)
    · exact takeNumber_bind rest 4 length readBytes (by omega)

/-- The head of a list leads to reading as many items as it tells. -/
theorem readValue_listHead
    (length : Nat)
    (fits : length < 4294967296) :
    readValue total (depth + 1) place (listHead length ++ rest) =
      readList (fun step => readValue total depth (step :: place))
        length rest := by
  unfold listHead
  split
  · rename_i small
    have byte : (UInt8.ofNat (144 + length)).toNat = 144 + length := by
      simp
      omega
    have low : ¬ 144 + length < 144 := by omega
    have lowest : ¬ 144 + length < 128 := by omega
    have high : 144 + length < 160 := by omega
    simp only [List.cons_append, List.nil_append, readValue, byte]
    simp [readAfter, readList, low, lowest, high]
  · split
    · exact takeNumber_bind rest 2 length (readList _) (by omega)
    · exact takeNumber_bind rest 4 length (readList _) (by omega)

/-- The head of a map leads to reading as many entries as it tells. -/
theorem readValue_mapHead
    (length : Nat)
    (fits : length < 4294967296) :
    readValue total (depth + 1) place (mapHead length ++ rest) =
      readMap total (fun step => readValue total depth (step :: place))
        length rest := by
  unfold mapHead
  split
  · rename_i small
    have byte : (UInt8.ofNat (128 + length)).toNat = 128 + length := by
      simp
      omega
    have lowest : ¬ 128 + length < 128 := by omega
    have high : 128 + length < 144 := by omega
    simp only [List.cons_append, List.nil_append, readValue, byte]
    simp [readAfter, readMap, lowest, high]
  · split
    · exact takeNumber_bind rest 2 length (readMap total _) (by omega)
    · exact takeNumber_bind rest 4 length (readMap total _) (by omega)

end

/-! ## Values -/

/-- Items are read one by one when each of them is. -/
theorem readItems_pack
    (item : Step → Reader Value)
    (items : List Value)
    (each : ∀ value ∈ items, ∀ step rest,
      item step (pack value ++ rest) = .ok (value, rest))
    (index : Nat)
    (rest : Bytes) :
    readItems item index items.length (packItems items ++ rest) =
      .ok (items, rest) := by
  induction items generalizing index with
  | nil => rfl
  | cons first items inductionStep =>
      have read :=
        each first List.mem_cons_self (.item index)
          (packItems items ++ rest)
      have others :=
        inductionStep
          (fun value member =>
            each value (List.mem_cons_of_mem first member))
          (index + 1)
      simp only [List.length_cons, readItems, packItems,
        List.append_assoc, read, others, ok_bind, pure_eq_ok]

/-- Entries with different texts as keys are read one by one, behind those
already met. -/
theorem readEntries_pack
    (total : Nat)
    (item : Step → Reader Value)
    (known entries : List (Value × Value))
    (each : ∀ entry ∈ entries, ∀ step rest,
      item step (pack entry.1 ++ rest) = .ok (entry.1, rest) ∧
        item step (pack entry.2 ++ rest) = .ok (entry.2, rest))
    (texts : ∀ entry ∈ known ++ entries,
      ∃ name, entry.1 = Value.text name)
    (apart : ((known ++ entries).map Prod.fst).Nodup)
    (rest : Bytes) :
    readEntries total item entries.length known
        (packEntries entries ++ rest) =
      .ok (known ++ entries, rest) := by
  induction entries generalizing known with
  | nil => simp [readEntries, packEntries]
  | cons entry entries inductionStep =>
      obtain ⟨key, value⟩ := entry
      have readKey :=
        (each (key, value) List.mem_cons_self .key
          (pack value ++ (packEntries entries ++ rest))).1
      have readContent :=
        (each (key, value) List.mem_cons_self .value
          (packEntries entries ++ rest)).2
      obtain ⟨name, isText⟩ := texts (key, value) (by simp)
      simp only at readKey readContent isText
      subst isText
      have inserted :
          Value.insertEntry known (.text name) value =
            known ++ [(.text name, value)] := by
        apply Value.insertEntry_of_new
        · intro entry member
          exact texts entry (List.mem_append_left _ member)
        · intro entry member equal
          rw [List.map_append, List.nodup_append] at apart
          exact
            apart.2.2 entry.1 (List.mem_map_of_mem member)
              (.text name) (by simp) equal
      have others :=
        inductionStep (known ++ [(.text name, value)])
          (fun entry member =>
            each entry (List.mem_cons_of_mem _ member))
          (by simpa using texts)
          (by simpa using apart)
      have key : (Value.text name).isKey = true := rfl
      simp only [List.length_cons, readEntries, packEntries,
        List.append_assoc, readKey, readContent, ok_bind, key, if_true,
        inserted, others, List.cons_append, List.nil_append]

/-- A text is read from its packed form. -/
theorem readValue_packText
    (total depth : Nat)
    (place : Place)
    (content : String)
    (fits : (Value.text content).fits = true)
    (rest : Bytes) :
    readValue total (depth + 1) place (pack (.text content) ++ rest) =
      .ok (.text content, rest) := by
  have length : (Bytes.ofText content).length < 4294967296 := by
    simpa [Value.fits, Value.isLength] using fits
  simp only [pack, List.append_assoc]
  rw [readValue_textHead _ _ _ _ _ length, readText_ofText]

/--
A plain value that fits is read from its packed form, and what stands behind
it is left.
-/
theorem readValue_pack
    {depth : Nat}
    {value : Value}
    (plain : value.IsPlain depth)
    (fits : value.fits = true)
    (total : Nat)
    (place : Place)
    (rest : Bytes) :
    readValue total depth place (pack value ++ rest) =
      .ok (value, rest) := by
  induction plain generalizing place rest with
  | null => rfl
  | bool flag => cases flag <;> rfl
  | int number =>
      simp only [Value.fits, Value.isNumber, Bool.and_eq_true,
        decide_eq_true_eq] at fits
      exact readValue_packInt total _ place rest number fits.1 fits.2
  | real bits =>
      have small : bits.toNat < 256 ^ 8 := bits.toNat_lt
      have taken := takeNumber_bigEndian 8 bits.toNat rest small
      change (takeNumber 8 (bigEndian 8 bits.toNat ++ rest) >>=
        fun read => pure (Value.real (UInt64.ofNat read.1), read.2)) = _
      rw [taken, ok_bind, pure_eq_ok, UInt64.ofNat_toNat]
  | text content =>
      exact readValue_packText total _ place content fits rest
  | torn content => cases fits
  | bytes content =>
      have length : content.length < 4294967296 := by
        simpa [Value.fits, Value.isLength] using fits
      have taken := takeBytes_append _ content rest rfl
      simp only [pack, List.append_assoc]
      rw [readValue_bytesHead _ _ _ _ _ length]
      simp only [readBytes, taken, ok_bind, pure_eq_ok]
  | list items each inductionStep =>
      simp only [Value.fits, Value.isLength, Bool.and_eq_true,
        decide_eq_true_eq, Value.allFit_iff] at fits
      have read :=
        readItems_pack _ items
          (fun value member step rest =>
            inductionStep value member (fits.2 value member)
              (step :: place) rest)
          0 rest
      simp only [pack, List.append_assoc]
      rw [readValue_listHead _ _ _ _ _ fits.1]
      simp only [readList, read, ok_bind, pure_eq_ok]
  | @map depth entries texts apart each inductionStep =>
      simp only [Value.fits, Value.isLength, Bool.and_eq_true,
        decide_eq_true_eq, Value.entriesFit_iff] at fits
      have keyRead :
          ∀ entry ∈ entries, ∀ place rest,
            readValue total depth place (pack entry.1 ++ rest) =
              .ok (entry.1, rest) := by
        intro entry member place rest
        obtain ⟨name, isText⟩ := texts entry member
        have keyFits := (fits.2 entry member).1
        -- The value beside the key shows that there is room for it.
        cases depth with
        | zero => cases each entry member
        | succ depth =>
            rw [isText] at keyFits ⊢
            exact readValue_packText total depth place name keyFits rest
      have read :=
        readEntries_pack total _ [] entries
          (fun entry member step rest =>
            ⟨keyRead entry member (step :: place) rest,
              inductionStep entry member (fits.2 entry member).2
                (step :: place) rest⟩)
          texts apart rest
      simp only [pack, List.append_assoc]
      rw [readValue_mapHead _ _ _ _ _ fits.1]
      simp only [readMap, read, ok_bind, pure_eq_ok, List.nil_append]

/-- A document that is plain and fits is read back from its packed form. -/
theorem unpack_pack
    [Depths]
    {value : Value}
    (plain : value.IsPlain (Depths.packed + 1))
    (fits : value.fits = true) :
    unpack (pack value) = .ok value := by
  have read :=
    readValue_pack plain fits (pack value).length [] []
  rw [List.append_nil] at read
  simp [unpack, read]

end CrateShelf.Pack
