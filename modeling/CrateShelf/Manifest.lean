import CrateShelf.CrateId
import CrateShelf.Toml.Document
import CrateShelf.World

/-!
# Manifests

A crate's directory holds a manifest, which says the name and version of the
crate, and the file that its source starts from.
-/

namespace CrateShelf

/-- Why a manifest says no name and version. -/
inductive ManifestError where
  | absent (directory : DiskPath) (fault : DiskFault)
  | unreadable (file : DiskPath) (fault : DiskFault)
  /-- A directory that there cannot be. -/
  | disk (fault : DiskFault)
  | undecodable (error : Utf8Error)
  | malformed (file : DiskPath)
  /-- A number that there is not, or lists that are nested too deeply. -/
  | meaningless (fault : Toml.Fault)
  | noPackage (file : DiskPath)
  | noName (file : DiskPath)
  | noVersion (file : DiskPath)

/-- The wording of an error, for those that have one. -/
def ManifestError.message? : ManifestError → Option String
  | absent directory _ =>
    some ("No Cargo.toml found in " ++ directory.toText)
  | unreadable file fault =>
    some ("Could not read " ++ file.toText ++ ": " ++ fault.message)
  | meaningless (.number error) => some error.message
  | disk _ | undecodable _ | meaningless _ => none
  | malformed file => some ("Could not read " ++ file.toText)
  | noPackage file => some (file.toText ++ " has no [package] table")
  | noName file => some (file.toText ++ " has no package name")
  | noVersion file =>
    some (file.toText ++ " has no literal package version")

namespace Manifest

/-- The manifest of a crate. -/
def fileIn (directory : DiskPath) : DiskPath := directory.child "Cargo.toml"

/-- A text in a table, if it is there and not empty. -/
def textAt? (table : Toml.Table) (name : String) : Option String :=
  match table.get? name with
  | some (.text content) => if content = "" then none else some content
  | _ => none

/-- The name and version that a manifest says. -/
def crateOf (file : DiskPath) (table : Toml.Table) :
    Except ManifestError CrateId :=
  match table.get? "package" with
  | some (.table package) =>
    match textAt? package "name", textAt? package "version" with
    | none, _ => .error (.noName file)
    | some _, none => .error (.noVersion file)
    | some name, some version => .ok ⟨name, version⟩
  | _ => .error (.noPackage file)

/-- Why a manifest cannot be read from the disk. -/
def blame (directory : DiskPath) (fault : DiskFault) : ManifestError :=
  if fault.cause = .missing then .absent directory fault
  else if fault.cause = .invalidName then .disk fault
  else .unreadable (fileIn directory) fault

/-- The name and version of the crate in a directory. -/
def read [Depths] (files : FileTree) (directory : DiskPath) :
    Except ManifestError CrateId := do
  let file := fileIn directory
  let bytes ← (files.read file).mapError (blame directory)
  let text ← (Bytes.decodeText bytes).mapError .undecodable
  match Toml.document text with
  | .error .malformed => throw (.malformed file)
  | .error fault => throw (.meaningless fault)
  | .ok table => crateOf file table

/-- The files that the source of a crate may start from, in order. -/
def entryFiles (directory : DiskPath) : List DiskPath :=
  [directory.child "src/lib.rs", directory.child "src/main.rs"]

end Manifest

end CrateShelf
