import CrateShelf.Disk.FileTree
import CrateShelf.Location
import CrateShelf.Log

/-!
# What runs work on

A run reads and changes files, tells what it does in a log, prints lines and
remembers the locations in the store.  It may end with an error; what it did
before is kept.
-/

namespace CrateShelf

/-- Named texts that a run finds around it. -/
abbrev Environment := List (String × String)

/-- The text with a name, if there is one that is not empty. -/
def Environment.given? (environment : Environment) (name : String) :
    Option String :=
  (environment.lookup name).filter (· != "")

/-- The environment with a text under a name, or with none. -/
def Environment.set (environment : Environment) (name : String)
    (value? : Option String) : Environment :=
  let others := environment.filter (·.1 != name)
  match value? with
  | some value => (name, value) :: others
  | none => others

/-- What a run works on. -/
structure World where
  files : FileTree := {}
  environment : Environment := []
  log : List LogEntry := []
  printed : List String := []
  /-- The locations in the store, once they are known. -/
  known? : Option (List Location) := none
  /-- For each segment of their paths the numbers of the locations that have
  it, once they are gathered. -/
  keywords? : Option (List (String × List Nat)) := none
deriving Inhabited

/-- A world in which nothing of the store is remembered. -/
def World.forget (world : World) : World :=
  { world with known? := none, keywords? := none }

/-- A run that may end with an error. -/
abbrev Job (Error : Type) := ExceptT Error (StateM World)

namespace Job

variable {Error Other α : Type}

/-- Adds an entry to the log. -/
def note (entry : LogEntry) : Job Error Unit :=
  modify fun world => { world with log := world.log ++ [entry] }

/-- Adds entries to the log. -/
def noteAll (entries : List LogEntry) : Job Error Unit :=
  modify fun world => { world with log := world.log ++ entries }

/-- Prints a line. -/
def print (line : String) : Job Error Unit :=
  modify fun world => { world with printed := world.printed ++ [line] }

/-- Asks about the files. -/
def ask (blame : DiskFault → Error)
    (question : FileTree → Except DiskFault α) : Job Error α := do
  match question (← get).files with
  | .ok answer => return answer
  | .error fault => throw (blame fault)

/-- Changes the files. -/
def change (blame : DiskFault → Error)
    (operation : FileTree → Except DiskFault FileTree) : Job Error Unit := do
  let files ← ask blame operation
  modify fun world => { world with files }

/-- A job whose errors are seen as those of another. -/
def adapt (convert : Error → Other) (job : Job Error α) : Job Other α :=
  ExceptT.adapt convert job

/-- A job that has the error of another as its result. -/
def attempt (job : Job Error α) : Job Other (Except Error α) :=
  ExceptT.mk do return .ok (← job.run)

/-- A result as a job. -/
def ofExcept (convert : Error → Other) (result : Except Error α) :
    Job Other α :=
  match result with
  | .ok value => return value
  | .error error => throw (convert error)

end Job

end CrateShelf
