import CrateShelf.Browse
import CrateShelf.CommandLine.Arguments
import CrateShelf.Indexing

/-!
# Running a command line

A command line indexes one crate or all crates of a registry, prints the
results of a search, or lets the user browse.  What is told on the way goes
to the log, of which the user sees as much as was asked for.
-/

namespace CrateShelf.CommandLine

/-- The name of the program. -/
def programName : String := "oxidoc"

/-- The version of the program. -/
def programVersion : String := "0.1.0"

/-- The window that browsing takes place in, and the keys that are
pressed. -/
structure Terminal where
  height : Int := 24
  width : Int := 80
  keys : List Finder.Key := []
  /-- Whether the program that shows pages can be started. -/
  hasPager : Bool := true

/-- How a run ends. -/
structure Outcome where
  code : Nat := 0
  showing : Browse.Showing := {}

variable [Depths]

/-- Indexes the crate in a directory. -/
def generate (store : Store) (settings : Settings) (directory : DiskPath) :
    Job Fault Outcome := do
  let locations ← Indexing.indexCrate store settings directory
  Job.print ("Indexed " ++ toString locations.length ++ " items from " ++
    directory.toText ++ " into " ++ store.root.toText)
  return {}

/-- Indexes all crates of a registry. -/
def generateAll (store : Store) (settings : Settings) :
    Job Fault Outcome := do
  let report ← Indexing.indexRegistry store settings store.registry
  Job.print ("Indexed " ++ toString report.indexed.length ++ " crates, " ++
    toString report.failed.length ++ " failed")
  for (directory, fault) in report.failed do
    Job.print ("  " ++ directory.toText ++ ": " ++ fault.shown)
  return { code := if report.failed.isEmpty then 0 else 1 }

/-- The locations of a store, ready to be searched. -/
def catalog (store : Store) : Job Fault Finder.Catalog := do
  let locations ← Job.adapt .store store.allLocations
  unless locations.all (·.isAtomic) do throw (.misuse .wrongType)
  let catalog := (Finder.Catalog.empty 0).register locations
  Job.note (Finder.Catalog.registeredEntry (.empty 0) catalog)
  return catalog

/-- A catalog with as many results as a setting allows, which matters only if
there are any. -/
def limited (catalog : Finder.Catalog) (limit : Setting) :
    Job Fault Finder.Catalog := do
  if catalog.locations.isEmpty then return catalog
  else return { catalog with limit := ← Job.ofExcept .misuse limit.count }

/-- Prints the results of a search. -/
def search (catalog : Finder.Catalog) (limit : Setting) (query : String) :
    Job Fault Outcome := do
  let catalog ← limited catalog limit
  Job.noteAll ((catalog.searchSteps query).map Finder.Search.rankedEntry)
  for hit in (catalog.run query).1 do
    Job.print hit.display
  return {}

/-- Lets the user browse. -/
def browse (store : Store) (catalog : Finder.Catalog) (limit : Setting)
    (settings : Settings) (terminal : Terminal) : Job Fault Outcome := do
  let rendering ← Job.ofExcept .misuse settings.rendering
  let catalog ← limited catalog limit
  Job.noteAll ((catalog.searchSteps "").map Finder.Search.rankedEntry)
  let place : Browse.Place := {
    store, rendering
    height := terminal.height
    width := terminal.width
    hasPager := terminal.hasPager }
  let showing ←
    Browse.run place (Finder.Screen.start catalog) terminal.keys
  return { showing }

/-- Does what a command line asks for. -/
def execute (arguments : Arguments) (terminal : Terminal) :
    Job Fault Outcome := do
  let settings ← Job.adapt .config (Config.load arguments.config)
  let registry ← Job.ofExcept .misuse
    ((← get).environment.registry settings arguments.registry)
  let store : Store := ⟨registry⟩
  Job.note ⟨.info, "cli", "Using registry " ++ registry.toText⟩
  match arguments.generate, arguments.all with
  | some directory, _ => generate store settings (.parse directory)
  | none, true => generateAll store settings
  | none, false =>
    let limit ← Job.ofExcept .misuse settings.limitSetting
    let catalog ← catalog store
    match arguments.search with
    | some query => search catalog limit query
    | none => browse store catalog limit settings terminal

/-- What a run leaves behind: its code, what it printed, what it told from
its log, and what it complained about. -/
structure Response where
  code : Nat
  out : String := ""
  told : String := ""
  complaint : String := ""
  showing : Browse.Showing := {}

/-- All that the user is told beside the result. -/
def Response.err (response : Response) : String :=
  response.told ++ response.complaint

/-- Lines as one text. -/
def textOf (lines : List String) : String :=
  String.join (lines.map (· ++ "\n"))

/-- How a fault is told to the user, with what led to it. -/
def faultLines (fault : Fault) : List String :=
  ("error: " ++ fault.shown) :: fault.causes.map ("caused by: " ++ ·)

/-- What is answered when nothing is run. -/
def stopResponse (stop : Stop) : Response :=
  match stop.message? with
  | some message =>
    { code := 2, complaint := programName ++ ": error: " ++ message }
  | none =>
    match stop with
    | .version =>
      { code := 0, out := programName ++ " " ++ programVersion ++ "\n" }
    | _ => { code := 0 }

/-- Runs a command line on a world.  The store is not known beforehand, and
the world remembers afterwards what it remembered before.  A fault that is
not foreseen is no response. -/
def run (words : List String) (terminal : Terminal) (world : World) :
    Except Fault Response × World :=
  match parse words with
  | .error stop => (.ok (stopResponse stop), world)
  | .ok arguments =>
    let fresh := { world.forget with log := [], printed := [] }
    let (result, after) := ((execute arguments terminal).run).run fresh
    let least := LogLevel.ofVerbosity arguments.verbosity
    let told := textOf
      ((after.log.filter (·.isShownAt least)).map LogEntry.toLine)
    let out := textOf after.printed
    let left := { world with files := after.files }
    match result with
    | .ok outcome =>
      (.ok {
        code := outcome.code, out, told
        showing := outcome.showing }, left)
    | .error fault =>
      if fault.isForeseen then
        (.ok {
          code := 1, out, told
          complaint := textOf (faultLines fault) }, left)
      else (.error fault, left)

/-!
## What a command line reaches

The files that a run may read, so that they can be gathered beforehand: first
those that hold settings, then, once the settings are known, the crates and
the store.
-/

/-- The files that may hold settings. -/
def settingsFiles (arguments : Arguments) (environment : Environment) :
    List DiskPath :=
  arguments.config.toList.map .parse ++
    (environment.given? "OXIDOC_CONFIG").toList.map .parse ++
    [Config.own environment]

/-- The settings that a run will find; the usual ones if they cannot be
read. -/
def settingsOf (arguments : Arguments) (world : World) : Settings :=
  match ((Config.load arguments.config).run world).1 with
  | .ok settings => settings
  | .error _ => Settings.usual

/-- The files and directories that a run works on. -/
def workplaces (arguments : Arguments) (environment : Environment)
    (settings : Settings) : List DiskPath :=
  let crates := arguments.generate.toList.map .parse
  match environment.registry settings arguments.registry with
  | .error _ => crates
  | .ok registry =>
    let sources :=
      if arguments.all then [Indexing.sourceRoot registry] else []
    (Store.mk registry).root :: crates ++ sources

/-- Whether a run lets the user browse. -/
def Arguments.isInteractive (arguments : Arguments) : Bool :=
  arguments.generate.isNone && !arguments.all && arguments.search.isNone

end CrateShelf.CommandLine
