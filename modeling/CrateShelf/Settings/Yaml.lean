import CrateShelf.Settings.Value
import CrateShelf.Yaml.Node
import CrateShelf.Yaml.Plain

/-!
# Settings in YAML

The settings that a YAML document stands for.  A mapping may take over the
entries of others under the key `<<`; its own entries come after those, so
that they count more.  Of two faults the one in the outer list or table is
told, and of two in the same one the first.
-/

namespace CrateShelf.Yaml

/-! ## Tags -/

/-- How the tags of the usual types start. -/
def usualTags : String := "tag:yaml.org,2002:"

/-- The name of a usual type, if a tag is that of one. -/
def typeName? (tag : String) : Option String :=
  if usualTags.toList.isPrefixOf tag.toList then
    some (String.ofList (tag.toList.drop usualTags.length))
  else none

/-- The kinds of plain texts by the names of their types. -/
def namedKinds : List (String × PlainKind) := [
  ("null", .null), ("bool", .bool), ("int", .whole), ("float", .real),
  ("timestamp", .time), ("str", .text), ("merge", .merge),
  ("value", .usual)]

/-- The kind of plain text that a text is taken for. -/
def kindOf? (tag : Option String) (isPlain : Bool) (text : String) :
    Option PlainKind :=
  match tag with
  | none => some (if isPlain then .of text else .text)
  | some tag =>
    if tag = "!" then some (.of text)
    else (typeName? tag).bind fun name => namedKinds.lookup name

/-- Whether a node is a text of a kind. -/
def Node.isOf (kind : PlainKind) : Node → Bool
  | .scalar tag isPlain text => kindOf? tag isPlain text == some kind
  | _ => false

/-- The type of a node that is no text. -/
def containerType (usual : String) : Option String → Option String
  | none => some usual
  | some tag => if tag = "!" then some usual else typeName? tag

/-! ## Taking over entries -/

mutual

/-- The entries of a mapping with those that it takes over before its own;
nothing if it takes over something else. -/
def flatten : List (Node × Node) →
    Option (List (Node × Node) × List (Node × Node))
  | [] => some ([], [])
  | (key, value) :: rest => do
    if key.isOf .merge then
      let taken ← takenOver value
      let (more, own) ← flatten rest
      return (taken ++ more, own)
    else
      let (more, own) ← flatten rest
      return (more, (key, value) :: own)

/-- The entries that a mapping takes over from a node: those of a mapping, or
those of several of which the first counts most. -/
def takenOver : Node → Option (List (Node × Node))
  | .mapping _ entries => do
    let (taken, own) ← flatten entries
    return taken ++ own
  | .sequence _ items => return (← takenFrom items).reverse.flatten
  | .scalar _ _ _ => none

/-- The entries of each of several mappings. -/
def takenFrom : List Node → Option (List (List (Node × Node)))
  | [] => some []
  | .mapping _ entries :: rest => do
    let (taken, own) ← flatten entries
    return (taken ++ own) :: (← takenFrom rest)
  | _ :: _ => none

end

/-- The text of a node: that of a scalar, or of the usual value of a
mapping. -/
def Node.content? : Node → Option String
  | .scalar _ _ text => some text
  | .mapping _ entries => usualIn? entries
  | .sequence _ _ => none
where
  /-- The text of the usual value among entries. -/
  usualIn? : List (Node × Node) → Option String
    | [] => none
    | (key, value) :: rest =>
      if key.isOf .usual then Node.content? value else usualIn? rest

/-! ## Keys -/

/-- The name that a setting is as a key.  Lists and tables cannot be
keys. -/
def keyText? : Setting → Option String
  | .null => some "null"
  | .bool flag => some (if flag then "true" else "false")
  | .int number => some (toString number)
  | .real bits => some (Double.toText bits)
  | .text content | .time content => some content
  | .list _ | .table _ => none

/-- A key as it is compared: numbers and truth values by their value. -/
inductive KeyValue where
  | null
  | whole (number : Int)
  | real (bits : UInt64)
  | text (content : String)
  | time (written : String)
deriving DecidableEq

/-- What a key is compared by. -/
def keyValue : Setting → KeyValue
  | .null | .list _ | .table _ => .null
  | .bool flag => .whole flag.toInt
  | .int number => .whole number
  | .real bits =>
    match Double.toInt? bits with
    | some number => .whole number
    | none => .real bits
  | .text content => .text content
  | .time written => .time written

/-- The entries with one more: under a key that is there already the newer
value counts. -/
def putEntry (entries : List (Setting × Setting)) (key value : Setting) :
    List (Setting × Setting) :=
  if entries.any fun entry => keyValue entry.1 = keyValue key then
    entries.map fun entry =>
      if keyValue entry.1 = keyValue key then (entry.1, value) else entry
  else entries ++ [(key, value)]

/-- The table with entries. -/
def tableOf (entries : List (Setting × Setting)) : Setting :=
  let distinct := entries.foldl
    (fun known (key, value) => putEntry known key value) []
  .table (distinct.foldl
    (fun table (key, value) =>
      Settings.put table ((keyText? key).getD "") value) [])

/-! ## Settings -/

/-- What is built of a node, or a fault with the room that was left for lists
and tables where it is. -/
abbrev Built := Except (Nat × Fault)

/-- Two things that are built.  Of two faults the one with more room left is
told. -/
def Built.and {α β : Type} (first : Built α) (second : Built β) :
    Built (α × β) :=
  match first, second with
  | .ok left, .ok right => .ok (left, right)
  | .error fault, .ok _ => .error fault
  | .ok _, .error fault => .error fault
  | .error fault, .error other =>
    .error (if fault.1 < other.1 then other else fault)

/-- Things that are built one after another. -/
def Built.all {α β : Type} (build : α → Built β) : List α → Built (List β)
  | [] => .ok []
  | item :: rest =>
    (Built.and (build item) (Built.all build rest)).map
      fun (first, more) => first :: more

/-- The pair that a mapping with a single entry is. -/
def onlyEntry? : Node → Option (Node × Node)
  | .mapping _ [entry] => some entry
  | _ => none

/-- The key of a mapping; the key for a usual value is a plain text there. -/
def plainKey : Node → Node
  | .scalar tag isPlain text =>
    if kindOf? tag isPlain text = some .usual then
      .scalar none false text
    else .scalar tag isPlain text
  | node => node

/-- The setting that a node stands for.  The number says how deeply lists and
tables may be nested in it. -/
def Node.setting : (room : Nat) → Node → Built Setting
  | 0, _ => .error (0, .tooDeep)
  | room + 1, node =>
    let fail {α : Type} (fault : Fault) : Built α := .error (room + 1, fault)
    let failInside {α : Type} : Built α := .error (room, .malformed)
    let textAs (kind : PlainKind) : Built Setting :=
      match node.content? with
      | none => fail .malformed
      | some text => (readAs text kind).mapError fun fault => (room + 1, fault)
    let entriesOf (entries : List (Node × Node)) :
        Built (List (Setting × Setting)) :=
      match flatten entries with
      | none => failInside
      | some (taken, own) =>
        Built.all
          (fun (key, value) =>
            let key : Built Setting :=
              (Node.setting room (plainKey key)).bind fun setting =>
                match keyText? setting with
                | some _ => .ok setting
                | none => failInside
            Built.and key (Node.setting room value))
          (taken ++ own)
    let pairsOf (items : List Node) : Built (List Setting) :=
      Built.all
        (fun item =>
          match onlyEntry? item with
          | none => failInside
          | some (key, value) =>
            (Built.and (Node.setting room key)
              (Node.setting room value)).map
              fun (key, value) => .list [key, value])
        items
    let type? := match node with
      | .scalar _ _ _ => none
      | .sequence tag _ => some (containerType "seq" tag)
      | .mapping tag _ => some (containerType "map" tag)
    match node, type? with
    | .scalar tag isPlain text, _ =>
      match kindOf? tag isPlain text with
      | some kind => textAs kind
      | none => fail .malformed
    | _, none | _, some none => fail .malformed
    | .sequence _ items, some (some type) =>
      if type = "seq" then
        (Built.all (Node.setting room) items).map .list
      else if type = "omap" || type = "pairs" then
        (pairsOf items).map .list
      else if type = "map" || type = "set" then failInside
      else fail .malformed
    | .mapping _ entries, some (some type) =>
      if type = "map" then (entriesOf entries).map tableOf
      else if type = "set" then
        (entriesOf entries).map fun entries => .list (entries.map (·.1))
      else if type = "seq" || type = "omap" || type = "pairs" then failInside
      else
        match namedKinds.lookup type with
        | some kind => textAs kind
        | none => fail .malformed

end CrateShelf.Yaml

namespace CrateShelf

/-- The setting that a YAML text stands for, null if the text is empty. -/
def Setting.ofYaml [Depths] (text : String) : Yaml.Try Setting := do
  match ← Yaml.document text.toList with
  | none => return .null
  | some node =>
    (node.setting (Depths.settings + 2)).mapError (·.2)

end CrateShelf
