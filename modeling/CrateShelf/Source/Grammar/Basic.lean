import CrateShelf.Source.Rule

/-!
# Parts of the grammar

Lexemes, ranks of operators and parts of rules that many rules of the grammar
have in common.
-/

namespace CrateShelf.Source.Grammar

open Rule

/-! ## Lexemes -/

/-- A literal number or character is told by a pattern of its own. -/
abbrev chars (text : String) : Pattern := .chars (.ofChars text)

/-- Any character but the end of a line. -/
def lineChar : Pattern := .chars (Charset.single '\n').complement

/-- The types of numbers. -/
def numberTypes : List String := [
  "u8", "i8", "u16", "i16", "u32", "i32", "u64", "i64", "u128", "i128",
  "isize", "usize", "f32", "f64"]

/-- A whole number with the type that may follow it. -/
def integerText : Writing := lexeme {
  pattern := .seq [
    .oneOf [
      .both (.chars .digits) (.many (.chars (.join .digits (.single '_')))),
      .both (.word "0x")
        (.repeated (.chars (.join .hexDigits (.single '_')))),
      .both (.word "0b") (.repeated (chars "01_")),
      .both (.word "0o") (.repeated (chars "01234567_"))],
    .optional (.oneOf (numberTypes.map .word))] }

/-- What may follow a backslash. -/
def escaped : Pattern :=
  .oneOf [
    .chars (Charset.ofChars "ux").complement,
    .both (chars "u") (.times (.chars .hexDigits) 4),
    .seq [
      .word "u\x7b", .repeated (.chars .hexDigits), .word "\x7d"],
    .both (chars "x") (.times (.chars .hexDigits) 2)]

/-- A character or byte between quotes. -/
def characterText : Writing := lexeme {
  pattern := .seq [
    .optional (.word "b"), .word "'",
    .optional (.either (.both (.word "\\") escaped)
      (.chars (Charset.ofChars "'\\").complement)),
    .word "'"] }

/-- A backslash in a text and what it stands for. -/
def escapeText : Writing := lexeme {
  pattern := .both (.word "\\") escaped
  isAttached := true }

/-- The quote that begins a text, with the letter in front of it. -/
def stringStart : Writing := lexeme {
  pattern := .both (.optional (chars "bc")) (chars "\"") }

/-- The quote that ends a text. -/
def stringEnd : Writing := attachedWord "\"" 0

/-- The angle that opens a list of arguments, even if more signs follow. -/
def openAngle : Writing := rankedWord 1 "<"

/-- What stands between a repetition in a macro and its sign. -/
def separatorText : Writing := lexeme {
  pattern := .repeated (.chars (Charset.ofChars "*+?").complement) }

/-- Two more slashes, which make a comment an ordinary one. -/
def moreSlashes : Writing := lexeme {
  pattern := .both (chars "/") (chars "/")
  rank := 2
  isAttached := true }

/-- The rest of a line. -/
def restOfLine : Writing := lexeme { pattern := .many lineChar }

/-- The rest of a line that begins where a comment begins. -/
def attachedRestOfLine : Writing := lexeme {
  pattern := .many lineChar
  rank := 1
  isAttached := true }

/-- The mark of a comment on what it stands in. -/
def innerMark : Writing := attachedWord "!" 2

/-- The mark of a comment on what follows it. -/
def outerMark : Writing := attachedWord "/" 2

/-- A name. -/
def identifierText : Writing := lexeme {
  pattern := .seq [
    .optional (.word "r#"),
    .chars (.join Charset.identifierStart (.single '_')),
    .many (.chars Charset.identifierNext)] }

/-- The first line of a file, if it names an interpreter. -/
def interpreterLine : Writing := lexeme {
  pattern := .seq [
    .word "#!", .many (chars "\t\x0b\x0c\r "),
    .optional
      (.both (.chars (Charset.ofChars "\n[").complement) (.many lineChar)),
    .word "\n"] }

/-- A variable of a macro. -/
def metavariableText : Writing := lexeme {
  pattern := .seq [
    .word "$",
    .chars
      (.ofAll [.between 'A' 'Z', .single '_', .between 'a' 'z']),
    .many (.chars .asciiWord)] }

/-! ## Ranks of operators -/

namespace Level

def call : Int := 15
def field : Int := 14
def question : Int := 13
def unary : Int := 12
def cast : Int := 11
def product : Int := 10
def sum : Int := 9
def shift : Int := 8
def bitAnd : Int := 7
def bitXor : Int := 6
def bitOr : Int := 5
def comparison : Int := 4
def conjunction : Int := 3
def disjunction : Int := 2
def range : Int := 1
def assignment : Int := 0
def closure : Int := -1

end Level

/-! ## Parts of rules -/

/-- The names of the types that are built in. -/
def primitiveTypes : Writing :=
  oneOf ((numberTypes ++ ["bool", "str", "char"]).map word)

/-- A built-in type where a type stands. -/
def primitiveType : Writing := shownAs "primitive_type" primitiveTypes

/-- A built-in type where a name stands. -/
def primitiveName : Writing := shownAs "identifier" primitiveTypes

/-- The signs that may stand among the tokens of a macro. -/
def signs : Writing :=
  oneOf ([
    "+", "-", "*", "/", "%", "^", "!", "&", "|", "&&", "||", "<<", ">>",
    "+=", "-=", "*=", "/=", "%=", "^=", "&=", "|=", "<<=", ">>=", "=", "==",
    "!=", ">", "<", ">=", "<=", "@", "_", ".", "..", "...", "..=", ",", ";",
    ":", "::", "->", "=>", "#", "?"].map word)

/-- The words that may stand among the tokens of a macro, and the quote. -/
def keywords : Writing :=
  oneOf ([
    "'", "as", "async", "await", "break", "const", "continue", "default",
    "enum", "fn", "for", "gen", "if", "impl", "let", "loop", "match", "mod",
    "pub", "return", "static", "struct", "trait", "type", "union", "unsafe",
    "use", "where", "while"].map word)

/-- The visibility in front of an item. -/
def visibility : Writing := optional (ref "visibility_modifier")

/-- Conditions on the parameters of an item. -/
def whereClause : Writing := optional (ref "where_clause")

/-- The parameters of an item that are types. -/
def typeParameters : Writing :=
  field "type_parameters" (optional (ref "type_parameters"))

/-- The attributes in front of a part. -/
def attributes : Writing := many (ref "attribute_item")

/-- An expression. -/
def expression : Writing := ref "_expression"

/-- A type. -/
def type : Writing := ref "_type"

/-- A pattern. -/
def pattern : Writing := ref "_pattern"

/-- A path. -/
def path : Writing := ref "_path"

/-- A block of statements. -/
def block : Writing := ref "block"

/-- A name. -/
def identifier : Writing := ref "identifier"

/-- The name of a type. -/
def typeIdentifier : Writing := ref "_type_identifier"

/-- The mark of what may be changed. -/
def mutability : Writing := optional (ref "mutable_specifier")

/-- The name of a loop or block. -/
def labelMark : Writing := optional (seq [ref "label", ":"])

/-- A lifetime or none. -/
def lifetimeMark : Writing := optional (ref "lifetime")

/-- A comma after the last of several parts. -/
def finalComma : Writing := optional ","

/-- The value after an equals sign. -/
def initialValue : Writing :=
  optional (seq ["=", field "value" expression])

/-- The type of what a function returns. -/
def returnType : Writing := optional (seq ["->", field "return_type" type])

/-- The cases of a macro. -/
def macroCases : Writing :=
  seq [many (seq [ref "macro_rule", ";"]), optional (ref "macro_rule")]

end CrateShelf.Source.Grammar
