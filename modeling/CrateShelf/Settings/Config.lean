import CrateShelf.Settings.Yaml
import CrateShelf.Text.Lines
import CrateShelf.World

/-!
# Configuration

A configuration is what a file says, merged into the usual settings.  A
section that is missing or holds nothing counts as empty.
-/

namespace CrateShelf

/-- Why a setting cannot be used. -/
inductive Misuse where
  /-- Something that is no table stands where a section is expected. -/
  | notTable
  /-- A value of the wrong type. -/
  | wrongType
  /-- The home of another user, who is not known. -/
  | unknownHome
deriving DecidableEq, Repr

namespace Settings

/-- A section. -/
def section? (settings : Settings) (name : String) :
    Except Misuse Settings :=
  match settings.get? name with
  | none => .ok []
  | some value =>
    if value.isTruthy then
      match value with
      | .table entries => .ok entries
      | _ => .error .notTable
    else .ok []

/-- The settings where no file says otherwise. -/
def usual : Settings := [
  ("registry", .table [("root", .null)]),
  ("search", .table [("visible_limit", .int 40)]),
  ("render", .table [
    ("width", .null),
    ("style", .text "monokai"),
    ("default_language", .text "rust"),
    ("color", .bool true)]),
  ("index", .table [("skip_doc_hidden", .bool true)])]

end Settings

/-! ## Places -/

namespace Environment

/-- The home of the user.  A slash at its end does not count. -/
def home (environment : Environment) : DiskPath :=
  match environment.lookup "HOME" with
  | none => .parse "/root"
  | some text =>
    let trimmed := (text.toList.reverse.dropWhile (· == '/')).reverse
    if trimmed.isEmpty then .parse "/" else .parse (String.ofList trimmed)

/-- A path with the home of the user in the place of a tilde. -/
def expand (environment : Environment) (path : DiskPath) :
    Except Misuse DiskPath :=
  match path.parts with
  | first :: rest =>
    if path.root = "" ∧ first = "~" then
      .ok (environment.home.join ⟨"", rest⟩)
    else if path.root = "" && first.startsWith "~" then .error .unknownHome
    else .ok path
  | [] => .ok path

/-- The registry: the one that is asked for, or that of the environment, or
that of the settings, or the usual one. -/
def registry (environment : Environment) (settings : Settings)
    (asked? : Option String) : Except Misuse DiskPath := do
  match asked?.filter (· != ""), environment.given? "OXIDOC_REGISTRY" with
  | some text, _ => environment.expand (.parse text)
  | none, some text => environment.expand (.parse text)
  | none, none =>
    let usual := (environment.home.child ".cargo").child "registry"
    match (← settings.section? "registry").get? "root" with
    | none => return usual
    | some value =>
      if value.isTruthy then
        match value with
        | .text text => environment.expand (.parse text)
        | _ => throw .wrongType
      else return usual

end Environment

/-! ## Sections -/

/-- How pages are shown. -/
structure Rendering where
  style : Setting
  defaultLanguage : Setting
  colored : Bool
  /-- The number of columns; that of the terminal if it counts as
  nothing. -/
  width : Setting
deriving Repr

namespace Settings

/-- How pages are shown. -/
def rendering (settings : Settings) : Except Misuse Rendering := do
  let given ← settings.section? "render"
  return {
    style := (given.get? "style").getD (.text "monokai")
    defaultLanguage := (given.get? "default_language").getD (.text "rust")
    colored := ((given.get? "color").getD (.bool true)).isTruthy
    width := (given.get? "width").getD .null }

/-- Whether hidden items are left out. -/
def skipsHidden (settings : Settings) : Except Misuse Bool := do
  let given ← settings.section? "index"
  return ((given.get? "skip_doc_hidden").getD (.bool true)).isTruthy

/-- The setting for the number of results that are shown. -/
def limitSetting (settings : Settings) : Except Misuse Setting := do
  let given ← settings.section? "search"
  return (given.get? "visible_limit").getD (.int 40)

end Settings

namespace Setting

/-- The number of things that a setting allows: a number, rounded up. -/
def count : Setting → Except Misuse Nat
  | .int number => .ok number.toNat
  | .bool flag => .ok flag.toNat
  | .real bits => .ok (Double.ceiling bits)
  | _ => .error .wrongType

end Setting

namespace Rendering

/-- The language of code that does not name one. -/
def languageName (rendering : Rendering) : String :=
  match rendering.defaultLanguage with
  | .text name => name
  | _ => ""

/-- The number of columns of a page in a window with some columns, given the
least number that a page has.  Parts of a column are of no use. -/
def columns (rendering : Rendering) (window : Int) (least : Nat) :
    Except Misuse Nat :=
  if rendering.width.isTruthy then
    match rendering.width with
    | .int number => .ok number.toNat
    | .bool flag => .ok flag.toNat
    | .real bits =>
      if Double.isBelow bits least then .ok least
      else .error .wrongType
    | _ => .error .wrongType
  else .ok window.toNat

end Rendering

/-! ## Files -/

/-- Why a configuration cannot be read. -/
inductive ConfigError where
  | unreadable (file : DiskPath) (fault : DiskFault)
  | undecodable (error : Utf8Error)
  | malformed (file : DiskPath)
  /-- A text in the file stands for nothing that there is. -/
  | meaningless (fault : Yaml.Fault)
  | notTable (file : DiskPath)
  /-- The disk refuses to say what there is. -/
  | disk (fault : DiskFault)

/-- The wording of an error, for those that have one. -/
def ConfigError.message? : ConfigError → Option String
  | unreadable file fault =>
    some ("Failed to read config file " ++ file.toText ++ ": " ++
      fault.message)
  | malformed file => some ("Failed to read config file " ++ file.toText)
  | notTable file =>
    some ("Config file " ++ file.toText ++ " must contain a mapping")
  | meaningless fault => fault.message?
  | undecodable _ | disk _ => none

namespace Config

/-- The user's own file. -/
def own (environment : Environment) : DiskPath :=
  ((environment.home.child ".config").child "oxidoc").child "config.yml"

/-- The file of the configuration: the one that is asked for, or that of the
environment, or the user's own if it is there. -/
def file? (asked? : Option String) : Job ConfigError (Option DiskPath) := do
  let environment := (← get).environment
  match asked?.filter (· != ""), environment.given? "OXIDOC_CONFIG" with
  | some text, _ => return some (.parse text)
  | none, some text => return some (.parse text)
  | none, none =>
    let own := own environment
    if ← Job.ask .disk (·.isTaken own) then return some own else return none

/-- The settings that a text of a file says. -/
def readSettings [Depths] (file : DiskPath) (bytes : Bytes) :
    Except ConfigError Settings := do
  let text ← (Bytes.decodeText bytes).mapError .undecodable
  let unified := String.ofList (Text.unifyLineEnds text.toList)
  match Setting.ofYaml unified with
  | .error .malformed => throw (.malformed file)
  | .error fault => throw (.meaningless fault)
  | .ok value =>
    if value.isTruthy then
      match value with
      | .table entries => return entries
      | _ => throw (.notTable file)
    else return []

/-- Reads the configuration. -/
def load [Depths] (asked? : Option String) : Job ConfigError Settings := do
  match ← file? asked? with
  | none => return Settings.usual
  | some file =>
    if ← Job.ask .disk (·.isTaken file) then
      let bytes ← Job.ask (.unreadable file) (·.read file)
      let given ← Job.ofExcept id (readSettings file bytes)
      return Settings.usual.merge given
    else
      Job.note ⟨.warning, "load_config", "Config file " ++ file.toText ++
        " not found; using defaults"⟩
      return Settings.usual

end Config

end CrateShelf
