import CrateShelf.CommandLine.ShellWords
import CrateShelf.Manifest
import CrateShelf.Page
import CrateShelf.Settings.Config
import CrateShelf.Store.Basic
import CrateShelf.Tree.Flatten

/-!
# Faults

What can end a run, how it is worded, and what led to it.
-/

namespace CrateShelf

/-- Why a run ends. -/
inductive Fault where
  | manifest (error : ManifestError)
  /-- A crate without a file that its source starts from. -/
  | noEntry (directory : DiskPath)
  | tree (error : Tree.TreeError)
  | store (error : StoreError)
  | config (error : ConfigError)
  | misuse (misuse : Misuse)
  /-- The disk refuses to say what there is. -/
  | disk (fault : DiskFault)
  /-- The command for showing pages cannot be read. -/
  | pager (error : CommandLine.CommandError)
  | page (error : Page.PageError)

namespace Fault

/-- The wording of a fault, for those that have one. -/
def message? : Fault → Option String
  | manifest error => error.message?
  | noEntry directory =>
    some ("Neither src/lib.rs nor src/main.rs exists in " ++
      directory.toText)
  | tree error => error.message?
  | store error => error.message?
  | config error => error.message?
  | pager error => some error.message
  | misuse _ | disk _ | page _ => none

/-- The wording of what led to a fault, the last first. -/
def causes : Fault → List String
  | manifest (.absent _ fault) | manifest (.unreadable _ fault)
  | tree (.unreadable _ (.disk fault))
  | store (.unwritable _ fault) | store (.unwritableIndex _ fault)
  | store (.unreadable _ fault) | config (.unreadable _ fault) =>
    fault.messages
  | tree (.unreadable _ (.undecodable error)) => [error.message]
  | _ => []

/-- Whether a fault is foreseen, so that it is reported and does not stop
everything. -/
def isForeseen : Fault → Bool
  | manifest (.disk _) | manifest (.undecodable _)
  | manifest (.meaningless _) => false
  | manifest _ | noEntry _ => true
  | tree (.unparsable _ _ _) | tree (.unreadable _ _) => true
  | tree _ => false
  | store (.disk _) | store (.unexpected _) | store (.version _)
  | store .fileless | store (.unpackable _) => false
  | store _ => true
  | config (.undecodable _) | config (.disk _)
  | config (.meaningless _) => false
  | config _ => true
  | misuse _ | disk _ | pager _ | page _ => false

/-- A fault as it is told to the user. -/
def shown (fault : Fault) : String := fault.message?.getD ""

end Fault

end CrateShelf
