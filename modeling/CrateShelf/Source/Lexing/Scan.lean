import CrateShelf.Source.Charset

/-!
# Tokens that need special scanning

Some tokens are not told by a pattern: the content of strings, raw strings
that end with as many hash signs as they began with, numbers with a fraction,
and what stands in comments.  Between the start of a raw string and its end
the number of hash signs is kept.
-/

namespace CrateShelf.Source

/-- The tokens that need special scanning, in the order of the grammar. -/
inductive Scanned where
  | stringContent
  | rawStart
  | rawContent
  | rawEnd
  | float
  | outerMark
  | innerMark
  | blockContent
  | docContent
  /-- Never found; looked for only where the text is at fault. -/
  | sentinel
deriving DecidableEq, Repr

namespace Scanned

/-- The place of a token in the grammar's list. -/
def index : Scanned → Nat
  | stringContent => 0
  | rawStart => 1
  | rawContent => 2
  | rawEnd => 3
  | float => 4
  | outerMark => 5
  | innerMark => 6
  | blockContent => 7
  | docContent => 8
  | sentinel => 9

end Scanned

/-- What scanning has found.  Lengths are counted in characters from where it
began. -/
structure Scan where
  token : Scanned
  /-- How many blanks come before the token. -/
  start : Nat := 0
  /-- How far the token reaches. -/
  stop : Nat
  /-- The number of hash signs that is kept from here on. -/
  hashes : Nat
deriving Repr

namespace Scan

/-- The first character of a text; none counts as zero. -/
def first : List Char → Nat
  | char :: _ => char.toNat
  | [] => 0

/-- Whether a text begins with a character. -/
def startsWith (text : List Char) (char : Char) : Bool :=
  text.head? = some char

/-- The lowest byte of the code of a character: comments are told by it. -/
def lowByte (char : Char) : Nat := char.toNat % 256

/-- Whether a character counts as a sign in a comment. -/
def looksLike (char sign : Char) : Bool := lowByte char = sign.toNat

/-! ## Comments -/

/-- What stood before in a comment. -/
inductive CommentState where
  | slash
  | star
  | other

/-- Reads the rest of a comment, with comments in it.  Yields how far its
content reaches; `depth` is one less than the number of comments that are
open. -/
def commentEnd (state : CommentState) (depth position : Nat)
    (stop : Option Nat) : List Char → Nat
  | [] => stop.getD position
  | char :: rest =>
    let isSlash := looksLike char '/'
    let isStar := looksLike char '*'
    let next := position + 1
    match state with
    | .slash =>
      commentEnd .other (if isStar then depth + 1 else depth) next
        (if isSlash then some next else stop) rest
    | .star =>
      if isStar then commentEnd .star depth next (some position) rest
      else if isSlash then
        match depth with
        | 0 => stop.getD next
        | depth + 1 => commentEnd .other depth next (some next) rest
      else commentEnd .other depth next stop rest
    | .other =>
      if isSlash then commentEnd .slash depth next (some next) rest
      else if isStar then commentEnd .star depth next (some position) rest
      else commentEnd .other depth next (some position) rest

/-- Reads the content of a block comment that began with a character. -/
def blockContent (before : Option Char) (position : Nat)
    (stop : Option Nat) (rest : List Char) : Option Nat :=
  match before with
  | some char =>
    if looksLike char '*' then
      if startsWith rest '/' then none
      else some (commentEnd .star 0 position stop rest)
    else if looksLike char '/' then
      some (commentEnd .slash 0 position stop rest)
    else some (commentEnd .other 0 position stop rest)
  | none => some (commentEnd .other 0 position stop rest)

/-- Scans in a block comment. -/
def comment? (isSought : Scanned → Bool) (hashes : Nat)
    (text : List Char) : Option Scan :=
  let content (stop : Option Nat) (position : Nat) (rest : List Char) :=
    if isSought .blockContent then
      (blockContent text.head? position stop rest).map fun stop =>
        ({ token := .blockContent, stop, hashes } : Scan)
    else none
  match text with
  | [] => content none 0 []
  | char :: rest =>
    if isSought .innerMark && looksLike char '!' then
      some { token := .innerMark, stop := 1, hashes }
    else if isSought .outerMark && looksLike char '*' then
      if startsWith rest '/' then none
      else if !startsWith rest '*' then
        some { token := .outerMark, stop := 1, hashes }
      else content (some 1) 1 rest
    else content none 1 rest

/-- Scans a line of documentation, with the end of the line. -/
def docLine (hashes : Nat) (text : List Char) : Scan :=
  let line := text.takeWhile (· != '\n')
  let isEnded := line.length < text.length
  { token := .docContent
    stop := if isEnded then line.length + 1 else line.length
    hashes }

/-! ## Strings -/

/-- Scans in a string up to its end or an escape. -/
def stringContent? (hashes : Nat) (text : List Char) : Option Scan :=
  let content := text.takeWhile fun char => char != '"' && char != '\\'
  if content.isEmpty || content.length = text.length then none
  else some { token := .stringContent, stop := content.length, hashes }

/-- Scans the start of a raw string. -/
def rawStart? (text : List Char) : Option Scan :=
  let (mark, rest) := match text with
    | 'b' :: rest | 'c' :: rest => (1, rest)
    | _ => (0, text)
  match rest with
  | 'r' :: rest =>
    let hashes := (rest.takeWhile (· = '#')).length
    match rest.drop hashes with
    | '"' :: _ =>
      some { token := .rawStart, stop := mark + hashes + 2
             hashes := hashes % 256 }
    | _ => none
  | _ => none

/-- How many characters come before the end of a raw string: a quote with as
many hash signs as it takes. -/
def rawContent? (hashes : Nat) (position : Nat) : List Char → Option Nat
  | [] => none
  | char :: rest =>
    if char = '"' &&
        hashes ≤ (rest.takeWhile (· = '#')).length then some position
    else rawContent? hashes (position + 1) rest

/-! ## Numbers -/

/-- Whether a character may stand among the digits of a number. -/
def isDigitOrLine (char : Char) : Bool := char = '_' || char.isDigit

/-- Scans the size after a number. -/
def floatSuffix (text : List Char) : Nat :=
  match text with
  | 'u' :: rest | 'i' :: rest | 'f' :: rest =>
    match rest.takeWhile Char.isDigit with
    | [] => 0
    | digits => digits.length + 1
  | _ => 0

/-- Scans the exponent of a number; none if the sign for one has no digits
after it. -/
def floatExponent (text : List Char) : Option (Option Nat) :=
  match text with
  | 'e' :: rest | 'E' :: rest =>
    let (signed, digits) := match rest with
      | '+' :: rest | '-' :: rest => (1, rest)
      | _ => (0, rest)
    match digits.takeWhile isDigitOrLine with
    | [] => some none
    | found => some (some (1 + signed + found.length))
  | _ => none

/-- Scans a number with a fraction or an exponent. -/
def float? (text : List Char) : Option Nat :=
  match text with
  | [] => none
  | char :: rest =>
    if !char.isDigit then none
    else
      let whole := 1 + (rest.takeWhile isDigitOrLine).length
      let fraction? : Option (Option Nat) :=
        match text.drop whole with
        | '.' :: after =>
          let isLetter := Charset.identifierStart.contains (first after)
          if isLetter || startsWith after '.' then none
          else some (some (1 + (after.takeWhile isDigitOrLine).length))
        | _ => some none
      match fraction? with
      | none => none
      | some fraction =>
        let stop := whole + fraction.getD 0
        match floatExponent (text.drop stop) with
        | some none => some stop
        | some (some length) =>
          some (stop + length + floatSuffix (text.drop (stop + length)))
        | none =>
          if fraction.isNone then none
          else some (stop + floatSuffix (text.drop stop))

/-! ## All together -/

/-- The blanks that are skipped before raw strings and numbers. -/
def blanks : Charset := [
  ⟨9, 13⟩, ⟨32, 32⟩, ⟨0x1680, 0x1680⟩, ⟨0x2000, 0x2006⟩, ⟨0x2008, 0x200a⟩,
  ⟨0x2028, 0x2029⟩, ⟨0x205f, 0x205f⟩, ⟨0x3000, 0x3000⟩]

/-- Scans a raw string or a number after blanks. -/
def literal? (isSought : Scanned → Bool) (hashes : Nat)
    (text : List Char) : Option Scan :=
  let start := (text.takeWhile fun char =>
    blanks.contains char.toNat).length
  let text := text.drop start
  let startsRaw := startsWith text 'r' || startsWith text 'b' ||
    startsWith text 'c'
  if isSought .rawStart && startsRaw then
    (rawStart? text).map fun scan =>
      { scan with start, stop := start + scan.stop }
  else if isSought .rawContent then
    (rawContent? hashes start text).map fun stop =>
      { token := .rawContent, start, stop, hashes }
  else if isSought .rawEnd && startsWith text '"' then
    some { token := .rawEnd, start
           stop := start + min (1 + hashes) text.length, hashes }
  else if isSought .float then
    (float? text).map fun length =>
      { token := .float, start, stop := start + length, hashes }
  else none

/-- Scans for the tokens that are sought, with the number of hash signs that
is kept. -/
def scan? (isSought : Scanned → Bool) (hashes : Nat)
    (text : List Char) : Option Scan :=
  if isSought .sentinel then none
  else if isSought .blockContent || isSought .innerMark ||
      isSought .outerMark then comment? isSought hashes text
  else if isSought .stringContent && !isSought .float then
    stringContent? hashes text
  else if isSought .docContent then some (docLine hashes text)
  else literal? isSought hashes text

end Scan

end CrateShelf.Source
