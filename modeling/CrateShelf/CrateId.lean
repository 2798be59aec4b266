import CrateShelf.Label
import CrateShelf.Text.Split

/-!
# Crates

A crate is known by its name and version, neither of which is empty; the pair
is the partition of the store that the crate's records live in.
-/

namespace CrateShelf

/-- A crate name and version. -/
structure CrateId where
  name : Label
  version : Label
deriving DecidableEq, Repr, Inhabited

/-- A crate name or version is empty. -/
structure EmptyCrateError where
  name : String
  version : String
deriving DecidableEq, Repr

/-- The wording of the error. -/
def EmptyCrateError.message (error : EmptyCrateError) : String :=
  "Crate name and version must be non-empty: " ++
    quote error.name ++ " " ++ quote error.version

namespace CrateId

/-- A crate from a name and a version that are not empty. -/
def make (name version : String) : Except EmptyCrateError CrateId :=
  if name = "" ∨ version = "" then .error ⟨name, version⟩
  else .ok ⟨name, version⟩

/-- The directory of the crate below the documentation root. -/
def dirName (crate : CrateId) : String :=
  crate.name.written ++ "-" ++ crate.version.written

/-- The written form. -/
def toText (crate : CrateId) : String :=
  crate.name.written ++ " " ++ crate.version.written

/-- The identifier by which source code refers to a crate: a hyphen is not
allowed in one and becomes a low line. -/
def identifier (name : String) : String :=
  String.ofList (Text.replaceChar '-' '_' name.toList)

instance : ToString CrateId := ⟨toText⟩

/-- A crate is made exactly when neither part is empty. -/
theorem make_eq_ok_iff (name version : String) (crate : CrateId) :
    make name version = .ok crate ↔
      name ≠ "" ∧ version ≠ "" ∧ crate = ⟨name, version⟩ := by
  unfold make
  split
  · rename_i some
    constructor
    · intro impossible
      cases impossible
    · rintro ⟨nameSome, versionSome, -⟩
      rcases some with nameEmpty | versionEmpty
      · exact absurd nameEmpty nameSome
      · exact absurd versionEmpty versionSome
  · rename_i neither
    constructor
    · intro equal
      cases equal
      exact ⟨fun h => neither (.inl h), fun h => neither (.inr h), rfl⟩
    · rintro ⟨-, -, rfl⟩
      rfl

end CrateId

end CrateShelf
