import CrateShelf.Source.Grammar.Basic

/-!
# Types and patterns

Types, their arguments and their bounds; and what may stand where a value is
taken apart.
-/

namespace CrateShelf.Source.Grammar

open Rule

/-- The rules for types. -/
def typeRules : List (String × Writing) := [
  ("_type",
    oneOf [
      ref "abstract_type", ref "reference_type", ref "metavariable",
      ref "pointer_type", ref "generic_type", ref "scoped_type_identifier",
      ref "tuple_type", ref "unit_type", ref "array_type",
      ref "function_type", typeIdentifier, ref "macro_invocation",
      ref "never_type", ref "dynamic_type", ref "bounded_type",
      ref "removed_trait_bound", primitiveType]),
  ("bracketed_type", seq ["<", oneOf [type, ref "qualified_type"], ">"]),
  ("qualified_type", seq [field "type" type, "as", field "alias" type]),
  ("lifetime", bound 1 (seq ["'", identifier])),
  ("array_type",
    seq [
      "[", field "element" type,
      optional (seq [";", field "length" expression]), "]"]),
  ("for_lifetimes",
    seq ["for", "<", separated1 "," (ref "lifetime"), finalComma, ">"]),
  ("function_type",
    seq [
      optional (ref "for_lifetimes"),
      bound Level.call <| seq [
        oneOf [
          field "trait" <| oneOf [
            typeIdentifier, ref "scoped_type_identifier"],
          seq [optional (ref "function_modifiers"), "fn"]],
        field "parameters" (ref "parameters")],
      returnType]),
  ("tuple_type", seq ["(", separated1 "," type, finalComma, ")"]),
  ("unit_type", seq ["(", ")"]),
  ("generic_function",
    bound 1 <| seq [
      field "function" <| oneOf [
        identifier, ref "scoped_identifier", ref "field_expression"],
      "::", field "type_arguments" (ref "type_arguments")]),
  ("generic_type",
    bound 1 <| seq [
      field "type" <| oneOf [
        typeIdentifier, ref "_reserved_identifier",
        ref "scoped_type_identifier"],
      field "type_arguments" (ref "type_arguments")]),
  ("generic_type_with_turbofish",
    seq [
      field "type" (oneOf [typeIdentifier, ref "scoped_identifier"]), "::",
      field "type_arguments" (ref "type_arguments")]),
  ("bounded_type",
    leftward (-1) <| seq [
      oneOf [ref "lifetime", type, ref "use_bounds"], "+",
      oneOf [ref "lifetime", type, ref "use_bounds"]]),
  ("use_bounds",
    seq [
      "use", openAngle,
      separated "," (oneOf [ref "lifetime", typeIdentifier]), finalComma,
      ">"]),
  ("type_arguments",
    seq [
      openAngle,
      separated1 "," <| seq [
        oneOf [
          type, ref "type_binding", ref "lifetime", ref "_literal", block],
        optional (ref "trait_bounds")],
      finalComma, ">"]),
  ("type_binding",
    seq [
      field "name" typeIdentifier,
      field "type_arguments" (optional (ref "type_arguments")), "=",
      field "type" type]),
  ("reference_type", seq ["&", lifetimeMark, mutability, field "type" type]),
  ("pointer_type",
    seq ["*", oneOf ["const", ref "mutable_specifier"], field "type" type]),
  ("never_type", "!"),
  ("abstract_type",
    seq [
      "impl", optional (seq ["for", ref "type_parameters"]),
      field "trait" <| bound 1 <| oneOf [
        typeIdentifier, ref "scoped_type_identifier",
        ref "removed_trait_bound", ref "generic_type", ref "function_type",
        ref "tuple_type", ref "bounded_type"]]),
  ("dynamic_type",
    seq [
      "dyn",
      field "trait" <| oneOf [
        ref "higher_ranked_trait_bound", typeIdentifier,
        ref "scoped_type_identifier", ref "generic_type",
        ref "function_type", ref "tuple_type"]]),
  ("mutable_specifier", "mut")]

/-- The rules for patterns. -/
def patternRules : List (String × Writing) := [
  ("_pattern",
    oneOf [
      ref "_literal_pattern", primitiveName, identifier,
      ref "scoped_identifier", ref "generic_pattern", ref "tuple_pattern",
      ref "tuple_struct_pattern", ref "struct_pattern",
      ref "_reserved_identifier", ref "ref_pattern", ref "slice_pattern",
      ref "captured_pattern", ref "reference_pattern",
      ref "remaining_field_pattern", ref "mut_pattern", ref "range_pattern",
      ref "or_pattern", ref "const_block", ref "macro_invocation", "_"]),
  ("generic_pattern",
    seq [
      oneOf [identifier, ref "scoped_identifier"], "::",
      field "type_arguments" (ref "type_arguments")]),
  ("tuple_pattern",
    seq [
      "(", separated "," (oneOf [pattern, ref "closure_expression"]),
      finalComma, ")"]),
  ("slice_pattern", seq ["[", separated "," pattern, finalComma, "]"]),
  ("tuple_struct_pattern",
    seq [
      field "type" <| oneOf [
        identifier, ref "scoped_identifier",
        shownAs "generic_type" (ref "generic_type_with_turbofish")],
      "(", separated "," pattern, finalComma, ")"]),
  ("struct_pattern",
    seq [
      field "type" (oneOf [typeIdentifier, ref "scoped_type_identifier"]),
      "\x7b",
      separated "," <| oneOf [
        ref "field_pattern", ref "remaining_field_pattern"],
      finalComma, "\x7d"]),
  ("field_pattern",
    seq [
      optional "ref", mutability,
      oneOf [
        field "name" (shownAs "shorthand_field_identifier" identifier),
        seq [
          field "name" (ref "_field_identifier"), ":",
          field "pattern" pattern]]]),
  ("remaining_field_pattern", ".."),
  ("mut_pattern", bound (-1) (seq [ref "mutable_specifier", pattern])),
  ("range_pattern",
    oneOf [
      seq [
        field "left" (oneOf [ref "_literal_pattern", path]),
        oneOf [
          seq [
            oneOf ["...", "..=", ".."],
            field "right" (oneOf [ref "_literal_pattern", path])],
          ".."]],
      seq [
        oneOf ["..=", ".."],
        field "right" (oneOf [ref "_literal_pattern", path])]]),
  ("ref_pattern", seq ["ref", pattern]),
  ("captured_pattern", seq [identifier, "@", pattern]),
  ("reference_pattern", seq ["&", mutability, pattern]),
  ("or_pattern",
    leftward (-2) (oneOf [seq [pattern, "|", pattern], seq ["|", pattern]]))]

end CrateShelf.Source.Grammar
