import CrateShelf.Depths
import CrateShelf.Yaml.Token

/-!
# YAML documents

The tree that tokens spell: texts, sequences and mappings.  An alias stands
for the node that was given its name before.
-/

namespace CrateShelf.Yaml

/-- A node of a document. -/
inductive Node where
  | scalar (tag : Option String) (isPlain : Bool) (text : String)
  | sequence (tag : Option String) (items : List Node)
  | mapping (tag : Option String) (entries : List (Node × Node))
deriving Repr, Inhabited

/-- The node that is meant where nothing is written. -/
def Node.missing : Node := .scalar none true ""

/-- What is known while tokens are read. -/
structure Context where
  tokens : List Token
  /-- The fault that comes after the tokens, if there is one. -/
  fault? : Option Fault := none
  /-- How many lists and tables the next node is in. -/
  depth : Nat := 0
  anchors : List (String × Node) := []
  /-- What the handles of tags stand for. -/
  handles : List (String × String) :=
    [("!", "!"), ("!!", "tag:yaml.org,2002:")]

/-- Reading nodes from tokens, which may fail. -/
abbrev Reader := StateT Context Try

namespace Reader

/-- The next token.  At the end there may be a fault. -/
def peek : Reader (Option Token) := do
  let context ← get
  match context.tokens.head?, context.fault? with
  | none, some fault => throw fault
  | token?, _ => return token?

/-- The text has not the form that it should have. -/
def fail {α : Type} : Reader α := throw .malformed

variable [Depths]

/-- Reads what is in a list or table. -/
def nested {α : Type} (reader : Reader α) : Reader α := do
  let depth := (← get).depth
  if Depths.settings ≤ depth then throw .tooDeep
  modify fun context => { context with depth := depth + 1 }
  let found ← reader
  modify fun context => { context with depth }
  return found

/-- Passes the next token. -/
def advance : Reader Unit :=
  modify fun context => { context with tokens := context.tokens.tail }

/-- Whether one of some tokens is next. -/
def isNext (tokens : List Token) : Reader Bool :=
  return (← peek).any (tokens.contains ·)

/-- Passes a token if it is next. -/
def accept (token : Token) : Reader Bool := do
  if ← isNext [token] then
    advance
    return true
  else return false

/-- Passes a token, which must be next. -/
def expect (token : Token) : Reader Unit := do
  if ← accept token then return
  else fail

/-- The tag that a handle and a suffix stand for. -/
def tagOf (handle : Option String) (suffix : String) : Reader String := do
  match handle with
  | none => return suffix
  | some handle =>
    match (← get).handles.lookup handle with
    | some start => return start ++ suffix
    | none => fail

/-- The anchor and the tag before a node, in either order. -/
def properties : Reader (Option String × Option String) := do
  match ← peek with
  | some (.anchor name) =>
    advance
    match ← peek with
    | some (.tag handle suffix) =>
      advance
      return (some name, some (← tagOf handle suffix))
    | _ => return (some name, none)
  | some (.tag handle suffix) =>
    advance
    let tag ← tagOf handle suffix
    match ← peek with
    | some (.anchor name) =>
      advance
      return (some name, some tag)
    | _ => return (none, some tag)
  | _ => return (none, none)

/-- Names a node; a name can be given once. -/
def name (anchor : Option String) (node : Node) : Reader Node := do
  match anchor with
  | none => return node
  | some anchor =>
    let context ← get
    if (context.anchors.lookup anchor).isSome then fail
    else
      set { context with anchors := (anchor, node) :: context.anchors }
      return node

/-- The node that an alias stands for. -/
def named (name : String) : Reader Node := do
  match (← get).anchors.lookup name with
  | some node => return node
  | none => fail

/-- Reads a node, which is missing if one of some tokens is next. -/
def orMissing (tokens : List Token) (node : Reader Node) : Reader Node := do
  if ← isNext tokens then return Node.missing else node

/-- A node of which nothing but an anchor or a tag is written. -/
def bare (anchor tag : Option String) : Reader Node :=
  if anchor.isSome || tag.isSome then return .scalar tag true ""
  else fail

mutual

/-- A node.  Blocks are allowed only outside brackets, and sequences without
an indentation of their own only as values of mappings. -/
def node : Nat → (isBlock isIndentless : Bool) → Reader Node
  | 0, _, _ => fail
  | fuel + 1, isBlock, isIndentless => do
    match ← peek with
    | some (.reference name) =>
      advance
      named name
    | _ =>
      let (anchor, tag) ← properties
      let content ← match ← peek with
        | some (.scalar text isPlain) =>
          advance
          pure (Node.scalar tag isPlain text)
        | some .blockEntry =>
          if isIndentless then
            pure (Node.sequence tag (← nested (indentlessItems fuel)))
          else bare anchor tag
        | some .flowSequenceStart =>
          advance
          pure (Node.sequence tag (← nested (flowItems fuel true)))
        | some .flowMappingStart =>
          advance
          pure (Node.mapping tag (← nested (flowEntries fuel true)))
        | some .blockSequenceStart =>
          if isBlock then
            advance
            pure (Node.sequence tag (← nested (blockItems fuel)))
          else bare anchor tag
        | some .blockMappingStart =>
          if isBlock then
            advance
            pure (Node.mapping tag (← nested (blockEntries fuel)))
          else bare anchor tag
        | _ => bare anchor tag
      name anchor content

/-- The items of a sequence with an indentation of its own. -/
def blockItems : Nat → Reader (List Node)
  | 0 => fail
  | fuel + 1 => do
    if ← accept .blockEntry then
      let item ← orMissing [.blockEntry, .blockEnd] (node fuel true false)
      return item :: (← blockItems fuel)
    else
      expect .blockEnd
      return []

/-- The items of a sequence without an indentation of its own. -/
def indentlessItems : Nat → Reader (List Node)
  | 0 => fail
  | fuel + 1 => do
    if ← accept .blockEntry then
      let item ← orMissing [.blockEntry, .key, .value, .blockEnd]
        (node fuel true false)
      return item :: (← indentlessItems fuel)
    else return []

/-- The entries of a mapping outside brackets. -/
def blockEntries : Nat → Reader (List (Node × Node))
  | 0 => fail
  | fuel + 1 => do
    let stops := [Token.key, .value, .blockEnd]
    if ← accept .key then
      let key ← orMissing stops (node fuel true true)
      let value ←
        if ← accept .value then orMissing stops (node fuel true true)
        else pure Node.missing
      return (key, value) :: (← blockEntries fuel)
    else
      expect .blockEnd
      return []

/-- The items of a sequence in brackets. -/
def flowItems : Nat → (isFirst : Bool) → Reader (List Node)
  | 0, _ => fail
  | fuel + 1, isFirst => do
    if ← accept .flowSequenceEnd then return []
    else
      if !isFirst then expect .flowEntry
      if ← accept .flowSequenceEnd then return []
      else if ← accept .key then
        let key ← orMissing [.value, .flowEntry, .flowSequenceEnd]
          (node fuel false false)
        let value ←
          if ← accept .value then
            orMissing [.flowEntry, .flowSequenceEnd] (node fuel false false)
          else pure Node.missing
        let pair := Node.mapping none [(key, value)]
        return pair :: (← flowItems fuel false)
      else
        let item ← node fuel false false
        return item :: (← flowItems fuel false)

/-- The entries of a mapping in brackets. -/
def flowEntries : Nat → (isFirst : Bool) → Reader (List (Node × Node))
  | 0, _ => fail
  | fuel + 1, isFirst => do
    if ← accept .flowMappingEnd then return []
    else
      if !isFirst then expect .flowEntry
      if ← accept .flowMappingEnd then return []
      else
        let stops := [Token.flowEntry, .flowMappingEnd]
        if ← accept .key then
          let key ← orMissing (.value :: stops) (node fuel false false)
          let value ←
            if ← accept .value then orMissing stops (node fuel false false)
            else pure Node.missing
          return (key, value) :: (← flowEntries fuel false)
        else
          let key ← node fuel false false
          return (key, Node.missing) :: (← flowEntries fuel false)

end

/-- Whether a version number is one that can be read: one point
something. -/
def isVersion (text : String) : Bool :=
  match text.toList.splitOnP (· == '.') with
  | [major, minor] =>
    Text.readDigits? 10 major == some 1 &&
      (Text.readDigits? 10 minor).isSome
  | _ => false

/-- The directives before a document; each name can be declared once. -/
def directives : Nat → (hasVersion : Bool) → List String → Reader Unit
  | 0, _, _ => fail
  | fuel + 1, hasVersion, declared => do
    match ← peek with
    | some (.directive "YAML" values) =>
      advance
      if !hasVersion && values.length == 1 && values.all isVersion then
        directives fuel true declared
      else fail
    | some (.directive "TAG" values) =>
      advance
      match values with
      | [handle, start] =>
        if handle ∈ declared then fail
        else
          modify fun context =>
            { context with handles := (handle, start) :: context.handles }
          directives fuel hasVersion (handle :: declared)
      | _ => fail
    | some (.directive _ _) =>
      advance
      directives fuel hasVersion declared
    | _ => return

/-- Passes the lines that end a document. -/
def documentEnds : Nat → Reader Unit
  | 0 => return
  | fuel + 1 => do
    if ← accept .documentEnd then documentEnds fuel else return

/-- The one document of a text, if there is any. -/
def document : Reader (Option Node) := do
  let fuel := 4 * (← get).tokens.length + 8
  match ← peek with
  | none => return none
  | some token =>
    let isMarked := match token with
      | .directive _ _ | .documentStart => true
      | _ => false
    let root ←
      if isMarked then do
        directives fuel false []
        expect .documentStart
        match ← peek with
        | none | some .documentStart | some .documentEnd
        | some (.directive _ _) => pure Node.missing
        | _ => node fuel true false
      else node fuel true false
    documentEnds fuel
    if (← peek).isSome then fail else return some root

end Reader

/-- The one document of a text, if there is any. -/
def document [Depths] (text : List Char) : Try (Option Node) := do
  let (tokens, fault?) := tokens text
  let result ← Reader.document.run { tokens, fault? }
  return result.1

end CrateShelf.Yaml
