import CrateShelf.Source.Grammar.Basic
import CrateShelf.Source.Grammar.Expression
import CrateShelf.Source.Grammar.Item
import CrateShelf.Source.Grammar.Literal
import CrateShelf.Source.Grammar.Type

/-!
# Files, statements and macros

What a file and a block are made of, the rules of macros, and the tokens that
their uses may hold; and the rules of all parts together, with what is said
about them as a whole.
-/

namespace CrateShelf.Source.Grammar

open Rule

/-- The rules for statements, macros and their tokens. -/
def statementRules : List (String × Writing) := [
  ("source_file", seq [optional (ref "shebang"), many (ref "_statement")]),
  ("_statement",
    oneOf [ref "expression_statement", ref "_declaration_statement"]),
  ("empty_statement", ";"),
  ("expression_statement",
    oneOf [
      seq [expression, ";"], bound 1 (ref "_expression_ending_with_block")]),
  ("_declaration_statement",
    oneOf [
      ref "const_item", ref "macro_invocation", ref "macro_definition",
      ref "empty_statement", ref "attribute_item",
      ref "inner_attribute_item", ref "mod_item", ref "foreign_mod_item",
      ref "struct_item", ref "union_item", ref "enum_item", ref "type_item",
      ref "function_item", ref "function_signature_item", ref "impl_item",
      ref "trait_item", ref "associated_type", ref "let_declaration",
      ref "use_declaration", ref "extern_crate_declaration",
      ref "static_item"]),
  ("macro_definition",
    seq [
      "macro_rules!",
      field "name" (oneOf [identifier, ref "_reserved_identifier"]),
      oneOf [
        seq ["(", macroCases, ")", ";"], seq ["[", macroCases, "]", ";"],
        seq ["\x7b", macroCases, "\x7d"]]]),
  ("macro_rule",
    seq [
      field "left" (ref "token_tree_pattern"), "=>",
      field "right" (ref "token_tree")]),
  ("_token_pattern",
    oneOf [
      ref "token_tree_pattern", ref "token_repetition_pattern",
      ref "token_binding_pattern", ref "metavariable",
      ref "_non_special_token"]),
  ("token_tree_pattern",
    oneOf [
      seq ["(", many (ref "_token_pattern"), ")"],
      seq ["[", many (ref "_token_pattern"), "]"],
      seq ["\x7b", many (ref "_token_pattern"), "\x7d"]]),
  ("token_binding_pattern",
    bound 1 <| seq [
      field "name" (ref "metavariable"), ":",
      field "type" (ref "fragment_specifier")]),
  ("token_repetition_pattern",
    seq [
      "$", "(", many (ref "_token_pattern"), ")", optional separatorText,
      oneOf ["+", "*", "?"]]),
  ("fragment_specifier",
    oneOf [
      "block", "expr", "expr_2021", "ident", "item", "lifetime", "literal",
      "meta", "pat", "pat_param", "path", "stmt", "tt", "ty", "vis"]),
  ("token_tree",
    oneOf [
      seq ["(", many (ref "_tokens"), ")"],
      seq ["[", many (ref "_tokens"), "]"],
      seq ["\x7b", many (ref "_tokens"), "\x7d"]]),
  ("token_repetition",
    seq [
      "$", "(", many (ref "_tokens"), ")", optional separatorText,
      oneOf ["+", "*", "?"]]),
  ("_tokens",
    oneOf [
      ref "token_tree", ref "token_repetition", ref "metavariable",
      ref "_non_special_token"]),
  ("_non_special_token",
    oneOf [
      ref "_literal", identifier, ref "mutable_specifier", ref "self",
      ref "super", ref "crate", primitiveType, rightward 0 (repeated signs),
      keywords])]

end CrateShelf.Source.Grammar

namespace CrateShelf.Source

/-- The grammar of source files. -/
def Grammar.file : Grammar where
  rules :=
    Grammar.statementRules ++ Grammar.itemRules ++ Grammar.typeRules ++
      Grammar.expressionRules ++ Grammar.patternRules ++ Grammar.literalRules
  extras := ["line_comment", "block_comment"]
  scanned := [
    "string_content", "_raw_string_literal_start",
    "raw_string_literal_content", "_raw_string_literal_end", "float_literal",
    "_outer_block_doc_comment_marker", "_inner_block_doc_comment_marker",
    "_block_comment_content", "_line_doc_content", "_error_sentinel"]
  inlined := [
    "_path", "_type_identifier", "_tokens", "_field_identifier",
    "_non_special_token", "_declaration_statement", "_reserved_identifier",
    "_expression_ending_with_block"]
  wordName := "identifier"

end CrateShelf.Source
