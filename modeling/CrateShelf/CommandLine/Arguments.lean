import CrateShelf.Text.CharClass
import CrateShelf.Text.Quoted
import CrateShelf.Text.Split

/-!
# Arguments

The words of a command line are switches, their values and words that have no
place.  A long switch may be shortened as long as it is clear which one is
meant; short switches may be written together, and a value may follow its
switch directly.
-/

namespace CrateShelf.CommandLine

/-- A switch. -/
inductive Switch where
  | help
  | generate
  | all
  | search
  | registry
  | config
  | verbose
  | version
deriving DecidableEq, Repr

namespace Switch

/-- The names of a switch, the short one first. -/
def names : Switch → List String
  | help => ["-h", "--help"]
  | generate => ["-g", "--generate"]
  | all => ["--all"]
  | search => ["-s", "--search"]
  | registry => ["--registry"]
  | config => ["--config"]
  | verbose => ["-v", "--verbose"]
  | version => ["--version"]

/-- All switches, in order. -/
def everyone : List Switch :=
  [help, generate, all, search, registry, config, verbose, version]

/-- All names of switches, in order. -/
def named : List (String × Switch) :=
  everyone.flatMap fun switch => switch.names.map fun name => (name, switch)

/-- The switch with a name. -/
def ofName? (name : String) : Option Switch :=
  named.lookup name

/-- Whether a switch has a value. -/
def hasValue : Switch → Bool
  | generate | search | registry | config => true
  | help | all | verbose | version => false

/-- The switches of which only one can be used. -/
def actions : List Switch := [generate, all, search]

/-- A switch as it is called in messages. -/
def title (switch : Switch) : String := "/".intercalate switch.names

end Switch

/-- What a command line asks for. -/
structure Arguments where
  generate : Option String := none
  all : Bool := false
  search : Option String := none
  registry : Option String := none
  config : Option String := none
  verbosity : Nat := 0
deriving DecidableEq, Repr, Inhabited

/-- Why nothing is run. -/
inductive Stop where
  /-- The version is shown instead. -/
  | version
  /-- Help is shown instead. -/
  | help
  | ambiguous (word : String) (names : List String)
  | noValue (switch : Switch)
  | ignoredValue (switch : Switch) (value : String)
  | conflict (switch other : Switch)
  | unrecognized (words : List String)
deriving DecidableEq, Repr

/-- The wording of what is wrong with a command line. -/
def Stop.message? : Stop → Option String
  | version | help => none
  | ambiguous word names =>
    some ("ambiguous option: " ++ word ++ " could match " ++
      ", ".intercalate names)
  | noValue switch =>
    some ("argument " ++ switch.title ++ ": expected one argument")
  | ignoredValue switch value =>
    some ("argument " ++ switch.title ++ ": ignored explicit argument " ++
      quote value)
  | conflict switch other =>
    some ("argument " ++ switch.title ++ ": not allowed with argument " ++
      other.title)
  | unrecognized words =>
    some ("unrecognized arguments: " ++ " ".intercalate words)

/-! ## Words -/

/-- What a word is. -/
inductive Word where
  | plain
  /-- Two hyphens, after which there are no switches. -/
  | hyphens
  /-- A switch by the name that was meant, and the value in the word. -/
  | switch (switch : Switch) (name : String) (value : Option String)
  /-- A word that looks like a switch. -/
  | unknown
deriving DecidableEq, Repr

/-- The parts before and after the first equals sign. -/
def splitValue (word : String) : String × Option String :=
  let cut := Text.cutFirst '=' word.toList
  (String.ofList cut.1, cut.2.map String.ofList)

/-- The names of long switches that start with a word, up to an equals sign,
and the value after it. -/
def longMatches (word : String) : List Word :=
  let cut := splitValue word
  Switch.named.filterMap fun (name, switch) =>
    if name.startsWith cut.1 then some (.switch switch name cut.2) else none

/-- The short switch that a word starts with, and the rest of the word as
its value. -/
def shortMatches (word : String) : List Word :=
  let chars := word.toList
  Switch.named.filterMap fun (name, switch) =>
    if name = String.ofList (chars.take 2) then
      some (.switch switch name (some (String.ofList (chars.drop 2))))
    else if name.startsWith word then some (.switch switch name none)
    else none

/-- Whether a word is a number below zero. -/
def isNegative (word : List Char) : Bool :=
  match word with
  | '-' :: rest =>
    match Text.cutFirst '.' rest with
    | (whole, none) => !whole.isEmpty && whole.all Text.isDecimal
    | (whole, some part) =>
      whole.all Text.isDecimal && !part.isEmpty && part.all Text.isDecimal
  | _ => false

/-- What a word with a hyphen in front is that is no switch by itself. -/
def guess (word : String) : Except Stop Word :=
  let found :=
    if word.startsWith "--" then longMatches word else shortMatches word
  match found with
  | [] =>
    if isNegative word.toList || word.toList.contains ' ' then .ok .plain
    else .ok .unknown
  | [only] => .ok only
  | several =>
    .error (.ambiguous word (several.filterMap fun candidate =>
      match candidate with
      | .switch _ name _ => some name
      | _ => none))

/-- What a word is. -/
def classify (word : String) : Except Stop Word :=
  if word = "" || !word.startsWith "-" || word = "-" then .ok .plain
  else
    match Switch.ofName? word, splitValue word with
    | some switch, _ => .ok (.switch switch word none)
    | none, (name, some value) =>
      match Switch.ofName? name with
      | some switch => .ok (.switch switch name (some value))
      | none => guess word
    | none, (_, none) => guess word

/-- What words are; after two hyphens all are plain. -/
def classifyAll : List String → Except Stop (List (String × Word))
  | [] => .ok []
  | "--" :: rest =>
    .ok (("--", .hyphens) :: rest.map fun word => (word, .plain))
  | word :: rest => do
    let first ← classify word
    let more ← classifyAll rest
    return (word, first) :: more

/-! ## Reading -/

/-- The switches of a word, the last of which may lack its value; switches
are written together in at most a number of characters. -/
def expand : Nat → Switch → String → Option String →
    Except Stop (List (Switch × Option String))
  | 0, switch, _, _ => .error (.noValue switch)
  | _, switch, _, none => .ok [(switch, none)]
  | count + 1, switch, name, some value =>
    if switch.hasValue then .ok [(switch, some value)]
    else
      match value.toList, name.startsWith "--" with
      | char :: rest, false =>
        let next := String.ofList ['-', char]
        match Switch.ofName? next with
        | some other => do
          let value := if rest.isEmpty then none
            else some (String.ofList rest)
          let more ← expand count other next value
          return (switch, none) :: more
        | none => .error (.ignoredValue switch value)
      | _, _ => .error (.ignoredValue switch value)

/-- What has been read of a command line. -/
structure Progress where
  arguments : Arguments := {}
  seen : List Switch := []
  extra : List String := []

/-- Takes a switch with its value. -/
def take (progress : Progress) (switch : Switch) (value : String) :
    Except Stop Progress :=
  let others := Switch.actions.filter fun other =>
    switch ∈ Switch.actions && other ≠ switch && other ∈ progress.seen
  match others with
  | other :: _ => .error (.conflict switch other)
  | [] =>
    let arguments := progress.arguments
    let read (arguments : Arguments) : Except Stop Progress :=
      .ok { progress with arguments, seen := switch :: progress.seen }
    match switch with
    | .help => .error .help
    | .version => .error .version
    | .generate => read { arguments with generate := some value }
    | .all => read { arguments with all := true }
    | .search => read { arguments with search := some value }
    | .registry => read { arguments with registry := some value }
    | .config => read { arguments with config := some value }
    | .verbose =>
      read { arguments with verbosity := arguments.verbosity + 1 }

/-- Takes switches with their values. -/
def takeAll (progress : Progress) (switches : List (Switch × Option String)) :
    Except Stop Progress :=
  switches.foldlM
    (fun progress (switch, value) => take progress switch (value.getD ""))
    progress

/-- The switch that lacks its value, if one does. -/
def lacking? (switches : List (Switch × Option String)) : Option Switch :=
  match switches.getLast? with
  | some (switch, none) => if switch.hasValue then some switch else none
  | _ => none

/-- Reads words.  A switch that lacks its value takes the next word, which
must be plain. -/
def readWords (progress : Progress) :
    List (String × Word) → Except Stop Progress
  | [] => .ok progress
  | (_, .switch switch name value) :: rest => do
    let switches ← expand (name.length + (value.getD "").length + 1)
      switch name value
    match lacking? switches, rest with
    | none, rest => readWords (← takeAll progress switches) rest
    | some last, (word, .plain) :: rest =>
      readWords
        (← takeAll progress (switches.dropLast ++ [(last, some word)])) rest
    | some last, _ => .error (.noValue last)
  | (word, _) :: rest =>
    readWords { progress with extra := progress.extra ++ [word] } rest

/-- Reads a command line. -/
def parse (words : List String) : Except Stop Arguments := do
  let progress ← readWords {} (← classifyAll words)
  if progress.extra.isEmpty then return progress.arguments
  else throw (.unrecognized progress.extra)

end CrateShelf.CommandLine
