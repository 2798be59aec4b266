import CrateShelf.Depths
import CrateShelf.Source.Declare
import CrateShelf.Source.Grammar.File
import CrateShelf.Source.Parsing.Run

/-!
# Source files

A file is read by the grammar of source files.  Its visible tree gives its
declarations; if something in the tree is at fault, the first fault is told
instead.
-/

namespace CrateShelf.Source

/-- What is wrong with a file. -/
inductive Fault where
  /-- A line does not belong there, or a token is missing on it. -/
  | broken (line : Nat) (missing : Option String)
  /-- The fault is nested too deeply to be told. -/
  | tooDeep
deriving DecidableEq, Repr

namespace Branch

mutual

/-- The first branch that is at fault, and how many branches it is in.  If
nothing in a faulty branch can be told to be at fault, it is the branch
itself. -/
def firstFault? (depth : Nat) : Branch → Option (Branch × Nat)
  | node info children =>
    if info.kind = faultKind || info.isMissing then
      some (node info children, depth)
    else if !info.isFaulty then none
    else
      match firstFaultIn? (depth + 1) children with
      | some found => some found
      | none => some (node info children, depth + 1)

/-- The first branch that is at fault among several. -/
def firstFaultIn? (depth : Nat) : List Branch → Option (Branch × Nat)
  | [] => none
  | child :: rest =>
    match firstFault? depth child with
    | some found => some found
    | none => firstFaultIn? depth rest

end

/-- What is wrong with a file, given its visible tree. -/
def fault? [Depths] (branch : Branch) : Option Fault :=
  (branch.firstFault? 1).map fun (found, depth) =>
    if Depths.faults < depth then .tooDeep
    else .broken (found.info.start.rows + 1)
      (if found.isFault then none else some found.kind)

end Branch

/-- The table of the grammar of source files.  It is made when it is first
needed. -/
def fileTable : Thunk Table := Thunk.mk fun _ => Grammar.file.table

/-- The declarations of a file, read with a table. -/
def Table.declarations [Depths] (table : Table) (text : SourceText) :
    Except Fault (List Declaration) :=
  match (table.parse text).bind (·.branch? table.vocabulary) with
  | none => .error .tooDeep
  | some branch =>
    match branch.fault? with
    | some fault => .error fault
    | none => .ok (branch.declarationsIn text)

/-- The declarations of a file. -/
def parse [Depths] (text : String) : Except Fault (List Declaration) :=
  fileTable.get.declarations (.ofString text)

end CrateShelf.Source
