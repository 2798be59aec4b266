import CrateShelf.Highlight.Shade
import CrateShelf.Text.Blank
import CrateShelf.Text.CharClass

/-!
# Tokens of Rust code

Code in documentation is often incomplete, so it is read by simple rules that
never fail: at each place the first rule that matches gives one or more
tokens.  Some tokens lead into a mode with rules of its own, such as the name
after `fn` or the inside of a string.

Main statement: the tokens of a text, put together, are the text.
-/

namespace CrateShelf.Highlight

/-- What is being read, beside ordinary code. -/
inductive Mode where
  | comment
  | docComment
  | moduleName
  | functionName
  | typeName
  | lifetime
  | numberSuffix
  | string
  | byteString
  | attribute
deriving DecidableEq, Repr

/-- What a rule does to the modes. -/
inductive Move where
  | stay
  | enter (mode : Mode)
  | leave
deriving DecidableEq, Repr

/-- A number of characters in one shade. -/
structure Portion where
  shade : Shade
  length : Nat
deriving DecidableEq, Repr

/-- The portion that a text takes up. -/
def Portion.of (shade : Shade) (text : List Char) : Portion :=
  ⟨shade, text.length⟩

/-- What a rule yields: portions from the start of the text, and a move. -/
abbrev Match := List Portion × Move

/-- One portion, staying in the mode. -/
def single (shade : Shade) (text : List Char) : Match :=
  ([.of shade text], .stay)

/-! ## Words -/

def keywords : List String := [
  "as", "async", "await", "box", "const", "crate", "dyn", "else", "extern",
  "for", "if", "impl", "in", "loop", "match", "move", "mut", "pub", "ref",
  "return", "static", "super", "trait", "unsafe", "use", "where", "while",
  "abstract", "become", "do", "final", "macro", "override", "priv", "typeof",
  "try", "unsized", "virtual", "yield", "true", "false", "let"]

def primitiveTypes : List String := [
  "u8", "u16", "u32", "u64", "u128", "i8", "i16", "i32", "i64", "i128",
  "usize", "isize", "f32", "f64", "char", "str", "bool"]

def builtinNames : List String := [
  "Copy", "Send", "Sized", "Sync", "Unpin", "Drop", "Fn", "FnMut", "FnOnce",
  "drop", "Box", "ToOwned", "Clone", "PartialEq", "PartialOrd", "Eq", "Ord",
  "AsRef", "AsMut", "Into", "From", "Default", "Iterator", "Extend",
  "IntoIterator", "DoubleEndedIterator", "ExactSizeIterator", "Option",
  "Some", "None", "Result", "Ok", "Err", "String", "ToString", "Vec"]

def builtinMacros : List String := [
  "asm", "assert", "assert_eq", "assert_ne", "cfg", "column",
  "compile_error", "concat", "concat_idents", "dbg", "debug_assert",
  "debug_assert_eq", "debug_assert_ne", "env", "eprint", "eprintln", "file",
  "format", "format_args", "format_args_nl", "global_asm", "include",
  "include_bytes", "include_str", "is_aarch64_feature_detected",
  "is_arm_feature_detected", "is_mips64_feature_detected",
  "is_mips_feature_detected", "is_powerpc64_feature_detected",
  "is_powerpc_feature_detected", "is_x86_feature_detected", "line",
  "llvm_asm", "log_syntax", "macro_rules", "matches", "module_path",
  "option_env", "panic", "print", "println", "stringify", "thread_local",
  "todo", "trace_macros", "unimplemented", "unreachable", "vec", "write",
  "writeln"]

/-- Whether a character begins an identifier. -/
def beginsName (char : Char) : Bool :=
  char.isAlpha || char = '_'

/-- The identifier at the start of a text. -/
def name? (text : List Char) : Option (List Char) :=
  match text with
  | first :: _ =>
    if beginsName first then some (text.takeWhile Text.isWordChar) else none
  | [] => none

/-- The stretch of blanks at the start of a text. -/
def blanks? (text : List Char) : Option (List Char) :=
  match text.takeWhile Text.isBlank with
  | [] => none
  | blanks => some blanks

/-- The text up to and with the first line end. -/
def throughLineEnd (text : List Char) : List Char :=
  text.takeWhile (· != '\n') ++ (text.dropWhile (· != '\n')).take 1

/-! ## Literals -/

def isHexDigit (char : Char) : Bool :=
  char.isDigit || ('a' ≤ char && char ≤ 'f') || ('A' ≤ char && char ≤ 'F')

def isOctalDigit (char : Char) : Bool :=
  '0' ≤ char && char ≤ '7'

/-- A character that stands for itself after a backslash or for a common
control character. -/
def isSimpleEscape (char : Char) : Bool :=
  char ∈ ['\'', '"', '\\', 'n', 'r', 't']

/-- The escape at the start of a text.  The code of a byte may have any two
hexadecimal digits, or only those of the first half. -/
def escape? (anyByte : Bool) : List Char → Option (List Char)
  | '\\' :: 'u' :: '\x7b' :: rest =>
    let digits := rest.takeWhile isHexDigit
    if 1 ≤ digits.length && digits.length ≤ 6 &&
        (rest.drop digits.length).head? = some '\x7d' then
      some ('\\' :: 'u' :: '\x7b' :: digits ++ ['\x7d'])
    else none
  | '\\' :: 'x' :: high :: low :: _ =>
    if (isOctalDigit high || (anyByte && isHexDigit high)) &&
        isHexDigit low then
      some ['\\', 'x', high, low]
    else none
  | '\\' :: '0' :: _ => some ['\\', '0']
  | '\\' :: char :: _ =>
    if isSimpleEscape char then some ['\\', char] else none
  | _ => none

/-- The character between quotes at the start of a text, given the escapes
that it may be. -/
def quotedChar? (escape? : List Char → Option (List Char)) :
    List Char → Option (List Char)
  | '\'' :: rest =>
    let closed (inner : List Char) : Option (List Char) :=
      if (rest.drop inner.length).head? = some '\'' then
        some ('\'' :: inner ++ ['\''])
      else none
    let escaped := (escape? rest).bind closed
    let plain := match rest with
      | char :: _ => if char = '\n' then none else closed [char]
      | [] => none
    escaped <|> plain
  | _ => none

/-- A character or byte literal. -/
def charLiteral? (text : List Char) : Option (List Char) :=
  match text with
  | 'b' :: rest => (quotedChar? (escape? true) rest).map ('b' :: ·)
  | _ => quotedChar? (escape? false) text

/-- Digits of a base after the mark of the base. -/
def basedNumber? (text : List Char) : Option (List Char) :=
  let digits (mark : Char) (isDigit : Char → Bool) (rest : List Char) :=
    match rest.takeWhile fun char => isDigit char || char = '_' with
    | [] => none
    | found => some ('0' :: mark :: found)
  match text with
  | '0' :: 'b' :: rest =>
    digits 'b' (fun char => char = '0' || char = '1') rest
  | '0' :: 'o' :: rest => digits 'o' isOctalDigit rest
  | '0' :: 'x' :: rest => digits 'x' isHexDigit rest
  | '0' :: 'X' :: rest => digits 'X' isHexDigit rest
  | _ => none

def isNumberPart (char : Char) : Bool :=
  char.isDigit || char = '_'

/-- The exponent at the start of a text. -/
def exponent? : List Char → Option (List Char)
  | mark :: rest =>
    if mark = 'e' || mark = 'E' then
      let sign := match rest with
        | '+' :: _ => ['+']
        | '-' :: _ => ['-']
        | _ => []
      match (rest.drop sign.length).takeWhile isNumberPart with
      | [] => none
      | digits => some (mark :: sign ++ digits)
    else none
  | [] => none

/-- A point with digits; a second point may not follow directly. -/
def fraction? (text : List Char) : Option (List Char) :=
  match text with
  | '.' :: rest =>
    let digits := rest.takeWhile isNumberPart
    if (rest.drop digits.length).head? = some '.' then
      if digits.isEmpty then none else some ('.' :: digits.dropLast)
    else some ('.' :: digits)
  | _ => none

/-- The part of a number that makes it a fraction. -/
def floatEnd? (text : List Char) : Option (List Char) :=
  let scientific := match text with
    | '.' :: rest =>
      match rest.takeWhile isNumberPart with
      | [] => none
      | digits =>
        (exponent? (rest.drop digits.length)).map ('.' :: digits ++ ·)
    | _ => none
  scientific <|> fraction? text <|> exponent? text

/-- The number at the start of a text. -/
def number? (text : List Char) : Option (List Char) :=
  let decimal := match text with
    | first :: _ =>
      if first.isDigit then
        let digits := text.takeWhile isNumberPart
        match floatEnd? (text.drop digits.length) with
        | some more => some (digits ++ more)
        | none => some digits
      else none
    | [] => none
  basedNumber? text <|> decimal

/-- The text up to and with the first occurrence of a mark. -/
def throughMark? (mark : List Char) : List Char → Option (List Char)
  | [] => none
  | char :: rest =>
    if mark.isPrefixOf (char :: rest) then some mark
    else (throughMark? mark rest).map (char :: ·)

/-- The raw string at the start of a text. -/
def rawString? (text : List Char) : Option (List Char) :=
  let lead := match text with
    | 'b' :: 'r' :: _ => ['b', 'r']
    | 'r' :: _ => ['r']
    | _ => []
  if lead.isEmpty then none
  else
    let rest := text.drop lead.length
    let hashes := rest.takeWhile (· = '#')
    match rest.drop hashes.length with
    | '"' :: inner =>
      (throughMark? ('"' :: hashes) inner).map
        (lead ++ hashes ++ ['"'] ++ ·)
    | _ => none

/-! ## Rules for ordinary code -/

/-- Comments of every sort. -/
def commentRule? (text : List Char) : Option Match :=
  match text with
  | '/' :: '/' :: '!' :: _ => some (single .string (throughLineEnd text))
  | '/' :: '/' :: '/' :: '/' :: _ =>
    some (single .comment (throughLineEnd text))
  | '/' :: '/' :: '/' :: _ => some (single .string (throughLineEnd text))
  | '/' :: '/' :: _ => some (single .comment (throughLineEnd text))
  | '/' :: '*' :: '!' :: _ =>
    some ([.of .string ['/', '*', '!']], .enter .docComment)
  | '/' :: '*' :: '*' :: next :: _ =>
    if next = '/' || next = '*' then
      some ([.of .comment ['/', '*']], .enter .comment)
    else some ([.of .string ['/', '*', '*', next]], .enter .docComment)
  | '/' :: '*' :: _ => some ([.of .comment ['/', '*']], .enter .comment)
  | _ => none

/-- The parameter of a macro. -/
def parameterRule? (text : List Char) : Option Match :=
  match text with
  | '$' :: rest =>
    let inner := match name? rest, rest with
      | some name, _ => name
      | none, '(' :: ',' :: _ => ['(', ',']
      | none, '(' :: _ => ['(']
      | none, ')' :: ',' :: _ => [')', ',']
      | none, ')' :: _ => [')']
      | none, ',' :: _ => [',']
      | none, _ => []
    some (single .comment ('$' :: inner))
  | _ => none

/-- A label after the keyword that leaves a loop. -/
def label? (text : List Char) : List Char :=
  match text with
  | '\'' :: rest =>
    match name? rest with
    | some name => '\'' :: name
    | none => []
  | _ => []

/-- Words with a meaning of their own. -/
def wordRule? (text : List Char) : Option Match :=
  let word := text.takeWhile Text.isWordChar
  let rest := text.drop word.length
  let spelled := String.ofList word
  let blanks := rest.takeWhile Text.isBlank
  let after := rest.drop blanks.length
  if word.isEmpty then none
  else if spelled ∈ keywords || spelled ∈ primitiveTypes then
    some (single .keyword word)
  else if spelled = "self" || spelled = "Self" then
    some (single .name word)
  else if spelled = "mod" then
    some ([.of .keyword word], .enter .moduleName)
  else if spelled = "fn" then
    some ([.of .keyword word], .enter .functionName)
  else if spelled ∈ ["struct", "enum", "type", "union"] then
    some ([.of .keyword word], .enter .typeName)
  else if spelled = "default" && !blanks.isEmpty &&
      String.ofList (after.takeWhile Text.isWordChar) ∈ ["type", "fn"] then
    some ([.of .keyword word, .of .plain blanks,
      .of .keyword (after.takeWhile Text.isWordChar)], .stay)
  else if spelled ∈ builtinNames then some (single .name word)
  else if spelled ∈ builtinMacros && rest.head? = some '!' then
    some (single .name (word ++ ['!']))
  else if spelled = "break" || spelled = "continue" then
    some ([.of .keyword word, .of .plain blanks, .of .plain (label? after)],
      .stay)
  else none

/-- Colons and arrows, after which a type may follow. -/
def colonRule? (text : List Char) : Option Match :=
  match text with
  | ':' :: ':' :: next :: _ =>
    if Text.isWordChar next then some (single .plain [':', ':'])
    else some ([.of .plain [':']], .enter .typeName)
  | ':' :: _ => some ([.of .plain [':']], .enter .typeName)
  | '-' :: '>' :: _ => some ([.of .plain ['-', '>']], .enter .typeName)
  | _ => none

/-- Literals. -/
def literalRule? (text : List Char) : Option Match :=
  match charLiteral? text with
  | some literal => some (single .string literal)
  | none =>
    match number? text with
    | some number => some ([.of .number number], .enter .numberSuffix)
    | none =>
      match text with
      | 'b' :: '"' :: _ => some ([.of .string ['b', '"']], .enter .byteString)
      | '"' :: _ => some ([.of .string ['"']], .enter .string)
      | _ => (rawString? text).map (single .string)

/-- Single signs. -/
def signRule? (text : List Char) : Option Match :=
  match text with
  | '\'' :: _ => some ([.of .operator ['\'']], .enter .lifetime)
  | '.' :: '.' :: '=' :: _ => some (single .operator ['.', '.', '='])
  | '.' :: '.' :: _ => some (single .operator ['.', '.'])
  | char :: _ =>
    if char ∈ "\x7b\x7d()[],.;".toList then some (single .plain [char])
    else if char ∈ "+-*/%&|<>^!~@=:?".toList then
      some (single .operator [char])
    else none
  | [] => none

/-- Identifiers. -/
def nameRule? (text : List Char) : Option Match :=
  (name? text).map (single .plain)

/-- Attributes and stray hash signs. -/
def hashRule? (text : List Char) : Option Match :=
  match text with
  | '#' :: '!' :: '[' :: _ =>
    some ([.of .comment ['#', '!', '[']], .enter .attribute)
  | '#' :: '[' :: _ => some ([.of .comment ['#', '[']], .enter .attribute)
  | '#' :: _ => some (single .plain ['#'])
  | _ => none

/-- Blanks; a line end is a token of its own where it comes first. -/
def blankRule? (text : List Char) : Option Match :=
  match text with
  | '\n' :: _ => some (single .plain ['\n'])
  | _ => (blanks? text).map (single .plain)

/-- The rules for ordinary code. -/
def codeRule? (text : List Char) : Option Match :=
  blankRule? text
    <|> commentRule? text
    <|> parameterRule? text
    <|> wordRule? text
    <|> colonRule? text
    <|> literalRule? text
    <|> signRule? text
    <|> nameRule? text
    <|> hashRule? text

/-! ## Rules for the modes -/

/-- The inside of a comment. -/
def insideComment? (shade : Shade) (mode : Mode) (text : List Char) :
    Option Match :=
  match text with
  | '/' :: '*' :: _ => some ([.of shade ['/', '*']], .enter mode)
  | '*' :: '/' :: _ => some ([.of shade ['*', '/']], .leave)
  | '*' :: _ => some (single shade ['*'])
  | '/' :: _ => some (single shade ['/'])
  | [] => none
  | _ =>
    some (single shade (text.takeWhile fun char => char != '*' && char != '/'))

/-- The name after a keyword. -/
def nameMode? (shade : Shade) (text : List Char) : Option Match :=
  match blanks? text with
  | some blanks => some (single .plain blanks)
  | none => (name? text).map fun name => ([.of shade name], .leave)

/-- The type after a colon, an arrow or a keyword. -/
def typeMode? (text : List Char) : Option Match :=
  match blanks? text, text with
  | some blanks, _ => some (single .plain blanks)
  | none, '&' :: _ => some (single .keyword ['&'])
  | none, '\'' :: _ => some ([.of .operator ['\'']], .enter .lifetime)
  | none, _ =>
    let word := text.takeWhile Text.isWordChar
    let spelled := String.ofList word
    if spelled ∈ builtinNames then some (single .name word)
    else if spelled ∈ primitiveTypes then some (single .keyword word)
    else (name? text).map fun name => ([.of .name name], .leave)

/-- The name of a lifetime. -/
def lifetimeMode? (text : List Char) : Option Match :=
  if "static".toList.isPrefixOf text then
    some (single .name "static".toList)
  else
    match text with
    | '_' :: _ => some (single .name ['_'])
    | _ => (name? text).map (single .name)

/-- The type of a number. -/
def suffixMode? (text : List Char) : Option Match :=
  let suffixes := ["u8", "u16", "u32", "u64", "usize", "i8", "i16", "i32",
    "i64", "isize", "f32", "f64"]
  (suffixes.find? fun word => word.toList.isPrefixOf text).map fun word =>
    ([.of .keyword (word.toList)], .leave)

/-- The inside of a string. -/
def stringMode? (anyByte : Bool) (text : List Char) : Option Match :=
  match text with
  | '"' :: _ => some ([.of .string ['"']], .leave)
  | '\\' :: _ =>
    match escape? anyByte text with
    | some found => some (single .number found)
    | none => some (single .string ['\\'])
  | [] => none
  | _ =>
    some (single .string
      (text.takeWhile fun char => char != '\\' && char != '"'))

/-- The inside of an attribute. -/
def attributeMode? (text : List Char) : Option Match :=
  match text with
  | '"' :: _ => some ([.of .string ['"']], .enter .string)
  | '[' :: _ => some ([.of .comment ['[']], .enter .attribute)
  | ']' :: _ => some ([.of .comment [']']], .leave)
  | [] => none
  | _ =>
    some (single .comment
      (text.takeWhile fun char => char != '"' && char != '[' && char != ']'))

/-- The rules of a mode. -/
def Mode.rule? : Mode → List Char → Option Match
  | .comment => insideComment? .comment .comment
  | .docComment => insideComment? .string .docComment
  | .moduleName => nameMode? .plain
  | .functionName => nameMode? .name
  | .typeName => typeMode?
  | .lifetime => lifetimeMode?
  | .numberSuffix => suffixMode?
  | .string => stringMode? false
  | .byteString => stringMode? true
  | .attribute => attributeMode?

/-- The rules in force, given the modes that have been entered. -/
def ruleIn? : List Mode → List Char → Option Match
  | [] => codeRule?
  | mode :: _ => mode.rule?

/-- The modes after a move. -/
def Move.apply : Move → List Mode → List Mode
  | .stay, modes => modes
  | .enter mode, modes => mode :: modes
  | .leave, modes => modes.drop 1

/-- The number of characters in portions. -/
def extent : List Portion → Nat
  | [] => 0
  | portion :: more => portion.length + extent more

/-- A text cut into tokens by portions. -/
def portionOut : List Portion → List Char → List Token
  | [], _ => []
  | portion :: more, text =>
    ⟨portion.shade, text.take portion.length⟩ ::
      portionOut more (text.drop portion.length)

/-- What the rules in force yield, if they take up any character. -/
def step? (modes : List Mode) (text : List Char) : Option Match :=
  (ruleIn? modes text).filter fun found => 0 < extent found.1

/-- The tokens of a text, given the modes that have been entered.  Where no
rule matches, a mode is left; ordinary code has an invalid character. -/
def tokensIn (modes : List Mode) (text : List Char) : List Token :=
  match text with
  | [] => []
  | char :: rest =>
    match found : step? modes (char :: rest) with
    | some (portions, move) =>
      portionOut portions (char :: rest) ++
        tokensIn (move.apply modes) ((char :: rest).drop (extent portions))
    | none =>
      match modes with
      | [] => ⟨.invalid, [char]⟩ :: tokensIn [] rest
      | _ :: outer => tokensIn outer (char :: rest)
termination_by (text.length, modes.length)
decreasing_by
  · apply Prod.Lex.left
    simp only [step?, Option.filter_eq_some_iff, decide_eq_true_eq] at found
    simp only [List.length_drop, List.length_cons]
    omega
  · apply Prod.Lex.left
    simp
  · apply Prod.Lex.right
    simp

/-- The line that names an interpreter, at the start of a file. -/
def interpreterLine (text : List Char) : List Char :=
  match text with
  | '#' :: '!' :: next :: _ =>
    if next = '[' || next = '\n' then [] else text.takeWhile (· != '\n')
  | _ => []

/-- The tokens of Rust code. -/
def rustTokens (text : List Char) : List Token :=
  let first := interpreterLine text
  if first.isEmpty then tokensIn [] text
  else ⟨.comment, first⟩ :: tokensIn [] (text.drop first.length)

/-- The text of tokens. -/
def textOf (tokens : List Token) : List Char :=
  tokens.flatMap (·.text)

@[simp]
theorem textOf_nil : textOf [] = [] := rfl

@[simp]
theorem textOf_cons (token : Token) (rest : List Token) :
    textOf (token :: rest) = token.text ++ textOf rest := rfl

@[simp]
theorem textOf_append (first second : List Token) :
    textOf (first ++ second) = textOf first ++ textOf second := by
  simp [textOf]

/-- Cutting by portions keeps the characters that they take up. -/
@[simp]
theorem textOf_portionOut (portions : List Portion) (text : List Char) :
    textOf (portionOut portions text) = text.take (extent portions) := by
  induction portions generalizing text with
  | nil => simp [portionOut, extent]
  | cons portion more inductionStep =>
    simp only [portionOut, textOf_cons, inductionStep, extent]
    exact (List.take_add).symm

/-- The tokens of a text, put together, are the text. -/
@[simp]
theorem textOf_tokensIn (modes : List Mode) (text : List Char) :
    textOf (tokensIn modes text) = text := by
  fun_induction tokensIn modes text with
  | case1 => rfl
  | case2 modes char rest portions move found inductionStep =>
    rw [textOf_append, inductionStep, textOf_portionOut,
      List.take_append_drop]
  | case3 char rest noRule inductionStep => simp [inductionStep]
  | case4 char rest mode outer noRule inductionStep => exact inductionStep

end CrateShelf.Highlight
