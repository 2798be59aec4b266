import CrateShelf.Source.Grammar.Basic

/-!
# Literals, comments and names

The smallest phrases: literals, comments, paths and names.
-/

namespace CrateShelf.Source.Grammar

open Rule

/-- The rules for literals, comments and names. -/
def literalRules : List (String × Writing) := [
  ("_literal",
    oneOf [
      ref "string_literal", ref "raw_string_literal", ref "char_literal",
      ref "boolean_literal", ref "integer_literal", ref "float_literal"]),
  ("_literal_pattern",
    oneOf [
      ref "string_literal", ref "raw_string_literal", ref "char_literal",
      ref "boolean_literal", ref "integer_literal", ref "float_literal",
      ref "negative_literal"]),
  ("negative_literal",
    seq ["-", oneOf [ref "integer_literal", ref "float_literal"]]),
  ("integer_literal", integerText),
  ("string_literal",
    seq [
      labelled ⟨"\"", false⟩ stringStart,
      many (oneOf [ref "escape_sequence", ref "string_content"]), stringEnd]),
  ("raw_string_literal",
    seq [
      ref "_raw_string_literal_start",
      shownAs "string_content" (ref "raw_string_literal_content"),
      ref "_raw_string_literal_end"]),
  ("char_literal", characterText),
  ("escape_sequence", escapeText),
  ("boolean_literal", oneOf ["true", "false"]),
  ("line_comment",
    seq [
      "//",
      oneOf [
        seq [moreSlashes, restOfLine],
        seq [
          ref "_line_doc_comment_marker",
          field "doc" (shownAs "doc_comment" (ref "_line_doc_content"))],
        attachedRestOfLine]]),
  ("_line_doc_comment_marker",
    oneOf [
      field "outer" <| shownAs "outer_doc_comment_marker"
        (ref "_outer_line_doc_comment_marker"),
      field "inner" <| shownAs "inner_doc_comment_marker"
        (ref "_inner_line_doc_comment_marker")]),
  ("_inner_line_doc_comment_marker", innerMark),
  ("_outer_line_doc_comment_marker", outerMark),
  ("block_comment",
    seq [
      "/*",
      optional <| oneOf [
        seq [
          ref "_block_doc_comment_marker",
          optional <| field "doc" <| shownAs "doc_comment"
            (ref "_block_comment_content")],
        ref "_block_comment_content"],
      "*/"]),
  ("_block_doc_comment_marker",
    oneOf [
      field "outer" <| shownAs "outer_doc_comment_marker"
        (ref "_outer_block_doc_comment_marker"),
      field "inner" <| shownAs "inner_doc_comment_marker"
        (ref "_inner_block_doc_comment_marker")]),
  ("_path",
    oneOf [
      ref "self", primitiveName, ref "metavariable", ref "super",
      ref "crate", identifier, ref "scoped_identifier",
      ref "_reserved_identifier"]),
  ("identifier", identifierText),
  ("shebang", interpreterLine),
  ("_reserved_identifier",
    shownAs "identifier" (oneOf ["default", "union", "gen", "raw"])),
  ("_type_identifier", shownAs "type_identifier" identifier),
  ("_field_identifier", shownAs "field_identifier" identifier),
  ("self", "self"),
  ("super", "super"),
  ("crate", "crate"),
  ("metavariable", metavariableText)]

end CrateShelf.Source.Grammar
