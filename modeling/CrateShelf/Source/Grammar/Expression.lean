import CrateShelf.Source.Grammar.Basic

/-!
# Expressions

Expressions, blocks and the uses of macros.
-/

namespace CrateShelf.Source.Grammar

open Rule

/-- The rules for expressions. -/
def expressionRules : List (String × Writing) := [
  ("_expression_except_range",
    oneOf [
      ref "unary_expression", ref "reference_expression",
      ref "try_expression", ref "binary_expression",
      ref "assignment_expression", ref "compound_assignment_expr",
      ref "type_cast_expression", ref "call_expression",
      ref "return_expression", ref "yield_expression", ref "_literal",
      leftward 0 identifier, primitiveName,
      leftward 0 (ref "_reserved_identifier"), ref "self",
      ref "scoped_identifier", ref "generic_function",
      ref "await_expression", ref "field_expression",
      ref "array_expression", ref "tuple_expression",
      bound 1 (ref "macro_invocation"), ref "unit_expression",
      ref "break_expression", ref "continue_expression",
      ref "index_expression", ref "metavariable", ref "closure_expression",
      ref "parenthesized_expression", ref "struct_expression",
      ref "_expression_ending_with_block"]),
  ("_expression",
    oneOf [ref "_expression_except_range", ref "range_expression"]),
  ("_expression_ending_with_block",
    oneOf [
      ref "unsafe_block", ref "async_block", ref "gen_block",
      ref "try_block", block, ref "if_expression", ref "match_expression",
      ref "while_expression", ref "loop_expression", ref "for_expression",
      ref "const_block"]),
  ("macro_invocation",
    seq [
      field "macro" <| oneOf [
        ref "scoped_identifier", identifier, ref "_reserved_identifier"],
      "!", shownAs "token_tree" (ref "delim_token_tree")]),
  ("delim_token_tree",
    oneOf [
      seq ["(", many (ref "_delim_tokens"), ")"],
      seq ["[", many (ref "_delim_tokens"), "]"],
      seq ["\x7b", many (ref "_delim_tokens"), "\x7d"]]),
  ("_delim_tokens",
    oneOf [
      ref "_non_delim_token", shownAs "token_tree" (ref "delim_token_tree")]),
  ("_non_delim_token", oneOf [ref "_non_special_token", "$"]),
  ("scoped_identifier",
    seq [
      field "path" <| optional <| oneOf [
        path, ref "bracketed_type",
        shownAs "generic_type" (ref "generic_type_with_turbofish")],
      "::", field "name" (oneOf [identifier, ref "super"])]),
  ("scoped_type_identifier_in_expression_position",
    bound (-2) <| seq [
      field "path" <| optional <| oneOf [
        path, shownAs "generic_type" (ref "generic_type_with_turbofish")],
      "::", field "name" typeIdentifier]),
  ("scoped_type_identifier",
    seq [
      field "path" <| optional <| oneOf [
        path, shownAs "generic_type" (ref "generic_type_with_turbofish"),
        ref "bracketed_type", ref "generic_type"],
      "::", field "name" typeIdentifier]),
  ("range_expression",
    leftward Level.range <| oneOf [
      seq [expression, oneOf ["..", "...", "..="], expression],
      seq [expression, ".."], seq ["..", expression], ".."]),
  ("unary_expression",
    bound Level.unary (seq [oneOf ["-", "*", "!"], expression])),
  ("try_expression", bound Level.question (seq [expression, "?"])),
  ("reference_expression",
    bound Level.unary <| seq [
      "&",
      oneOf [
        seq ["raw", oneOf ["const", ref "mutable_specifier"]], mutability],
      field "value" expression]),
  ("binary_expression",
    oneOf [
      leftward Level.conjunction <| seq [
        field "left" expression, field "operator" "&&",
        field "right" expression],
      leftward Level.disjunction <| seq [
        field "left" expression, field "operator" "||",
        field "right" expression],
      leftward Level.bitAnd <| seq [
        field "left" expression, field "operator" "&",
        field "right" expression],
      leftward Level.bitOr <| seq [
        field "left" expression, field "operator" "|",
        field "right" expression],
      leftward Level.bitXor <| seq [
        field "left" expression, field "operator" "^",
        field "right" expression],
      leftward Level.comparison <| seq [
        field "left" expression,
        field "operator" (oneOf ["==", "!=", "<", "<=", ">", ">="]),
        field "right" expression],
      leftward Level.shift <| seq [
        field "left" expression, field "operator" (oneOf ["<<", ">>"]),
        field "right" expression],
      leftward Level.sum <| seq [
        field "left" expression, field "operator" (oneOf ["+", "-"]),
        field "right" expression],
      leftward Level.product <| seq [
        field "left" expression, field "operator" (oneOf ["*", "/", "%"]),
        field "right" expression]]),
  ("assignment_expression",
    leftward Level.assignment <| seq [
      field "left" expression, "=", field "right" expression]),
  ("compound_assignment_expr",
    leftward Level.assignment <| seq [
      field "left" expression,
      field "operator" <| oneOf [
        "+=", "-=", "*=", "/=", "%=", "&=", "|=", "^=", "<<=", ">>="],
      field "right" expression]),
  ("type_cast_expression",
    leftward Level.cast <| seq [
      field "value" expression, "as", field "type" type]),
  ("return_expression",
    oneOf [leftward 0 (seq ["return", expression]), bound (-1) "return"]),
  ("yield_expression",
    oneOf [leftward 0 (seq ["yield", expression]), bound (-1) "yield"]),
  ("call_expression",
    bound Level.call <| seq [
      field "function" (ref "_expression_except_range"),
      field "arguments" (ref "arguments")]),
  ("arguments",
    seq [
      "(", separated "," (seq [attributes, expression]), finalComma, ")"]),
  ("array_expression",
    seq [
      "[", attributes,
      oneOf [
        seq [expression, ";", field "length" expression],
        seq [separated "," (seq [attributes, expression]), finalComma]],
      "]"]),
  ("parenthesized_expression", seq ["(", expression, ")"]),
  ("tuple_expression",
    seq [
      "(", attributes, seq [expression, ","], many (seq [expression, ","]),
      optional expression, ")"]),
  ("unit_expression", seq ["(", ")"]),
  ("struct_expression",
    seq [
      field "name" <| oneOf [
        typeIdentifier,
        shownAs "scoped_type_identifier"
          (ref "scoped_type_identifier_in_expression_position"),
        ref "generic_type_with_turbofish"],
      field "body" (ref "field_initializer_list")]),
  ("field_initializer_list",
    seq [
      "\x7b",
      separated "," <| oneOf [
        ref "shorthand_field_initializer", ref "field_initializer",
        ref "base_field_initializer"],
      finalComma, "\x7d"]),
  ("shorthand_field_initializer", seq [attributes, identifier]),
  ("field_initializer",
    seq [
      attributes,
      field "field" <| oneOf [
        ref "_field_identifier", ref "integer_literal"],
      ":", field "value" expression]),
  ("base_field_initializer", seq ["..", expression]),
  ("if_expression",
    rightward 0 <| seq [
      "if", field "condition" (ref "_condition"), field "consequence" block,
      optional (field "alternative" (ref "else_clause"))]),
  ("let_condition",
    seq [
      "let", field "pattern" pattern, "=",
      field "value" (leftward Level.conjunction expression)]),
  ("_let_chain",
    leftward Level.conjunction <| oneOf [
      seq [ref "_let_chain", "&&", ref "let_condition"],
      seq [ref "_let_chain", "&&", expression],
      seq [ref "let_condition", "&&", expression],
      seq [ref "let_condition", "&&", ref "let_condition"],
      seq [expression, "&&", ref "let_condition"]]),
  ("_condition",
    oneOf [
      expression, ref "let_condition",
      shownAs "let_chain" (ref "_let_chain")]),
  ("else_clause", seq ["else", oneOf [block, ref "if_expression"]]),
  ("match_expression",
    seq [
      "match", field "value" expression, field "body" (ref "match_block")]),
  ("match_block",
    seq [
      "\x7b",
      optional <| seq [
        many (ref "match_arm"), shownAs "match_arm" (ref "last_match_arm")],
      "\x7d"]),
  ("match_arm",
    rightward 0 <| seq [
      many (oneOf [ref "attribute_item", ref "inner_attribute_item"]),
      field "pattern" (ref "match_pattern"), "=>",
      oneOf [
        seq [field "value" expression, ","],
        field "value" (bound 1 (ref "_expression_ending_with_block"))]]),
  ("last_match_arm",
    seq [
      many (oneOf [ref "attribute_item", ref "inner_attribute_item"]),
      field "pattern" (ref "match_pattern"), "=>", field "value" expression,
      finalComma]),
  ("match_pattern",
    seq [
      pattern, optional (seq ["if", field "condition" (ref "_condition")])]),
  ("while_expression",
    seq [
      labelMark, "while", field "condition" (ref "_condition"),
      field "body" block]),
  ("loop_expression", seq [labelMark, "loop", field "body" block]),
  ("for_expression",
    seq [
      labelMark, "for", field "pattern" pattern, "in",
      field "value" expression, field "body" block]),
  ("const_block", seq ["const", field "body" block]),
  ("closure_expression",
    bound Level.closure <| seq [
      optional "static", optional "async", optional "move",
      field "parameters" (ref "closure_parameters"),
      oneOf [
        seq [returnType, field "body" block],
        field "body" (oneOf [expression, "_"])]]),
  ("closure_parameters",
    seq ["|", separated "," (oneOf [pattern, ref "parameter"]), "|"]),
  ("label", seq ["'", identifier]),
  ("break_expression",
    leftward 0 (seq ["break", optional (ref "label"), optional expression])),
  ("continue_expression",
    leftward 0 (seq ["continue", optional (ref "label")])),
  ("index_expression",
    bound Level.call (seq [expression, "[", expression, "]"])),
  ("await_expression", bound Level.field (seq [expression, ".", "await"])),
  ("field_expression",
    bound Level.field <| seq [
      field "value" expression, ".",
      field "field" <| oneOf [
        ref "_field_identifier", ref "integer_literal"]]),
  ("unsafe_block", seq ["unsafe", block]),
  ("async_block", seq ["async", optional "move", block]),
  ("gen_block", seq ["gen", optional "move", block]),
  ("try_block", seq ["try", block]),
  ("block",
    seq [
      labelMark, "\x7b", many (ref "_statement"), optional expression,
      "\x7d"])]

end CrateShelf.Source.Grammar
