import CrateShelf.Source.Grammar.Basic

/-!
# Items

Attributes, modules, types, functions, traits, imports and everything else
that a file can declare, with the parts that they have.
-/

namespace CrateShelf.Source.Grammar

open Rule

/-- The rules for items and their parts. -/
def itemRules : List (String × Writing) := [
  ("attribute_item", seq ["#", "[", ref "attribute", "]"]),
  ("inner_attribute_item", seq ["#", "!", "[", ref "attribute", "]"]),
  ("attribute",
    seq [
      path,
      optional <| oneOf [
        seq ["=", field "value" expression],
        field "arguments" (shownAs "token_tree" (ref "delim_token_tree"))]]),
  ("mod_item",
    seq [
      visibility, "mod", field "name" identifier,
      oneOf [";", field "body" (ref "declaration_list")]]),
  ("foreign_mod_item",
    seq [
      optional "unsafe", ref "extern_modifier",
      oneOf [";", field "body" (ref "declaration_list")]]),
  ("declaration_list",
    seq ["\x7b", many (ref "_declaration_statement"), "\x7d"]),
  ("struct_item",
    seq [
      visibility, "struct", field "name" typeIdentifier, typeParameters,
      oneOf [
        seq [whereClause, field "body" (ref "field_declaration_list")],
        seq [
          field "body" (ref "ordered_field_declaration_list"), whereClause,
          ";"],
        ";"]]),
  ("union_item",
    seq [
      visibility, "union", field "name" typeIdentifier, typeParameters,
      whereClause, field "body" (ref "field_declaration_list")]),
  ("enum_item",
    seq [
      visibility, "enum", field "name" typeIdentifier, typeParameters,
      whereClause, field "body" (ref "enum_variant_list")]),
  ("enum_variant_list",
    seq [
      "\x7b", separated "," (seq [attributes, ref "enum_variant"]),
      finalComma, "\x7d"]),
  ("enum_variant",
    seq [
      visibility, field "name" identifier,
      field "body" <| optional <| oneOf [
        ref "field_declaration_list", ref "ordered_field_declaration_list"],
      initialValue]),
  ("field_declaration_list",
    seq [
      "\x7b", separated "," (seq [attributes, ref "field_declaration"]),
      finalComma, "\x7d"]),
  ("field_declaration",
    seq [
      visibility, field "name" (ref "_field_identifier"), ":",
      field "type" type]),
  ("ordered_field_declaration_list",
    seq [
      "(", separated "," (seq [attributes, visibility, field "type" type]),
      finalComma, ")"]),
  ("extern_crate_declaration",
    seq [
      visibility, "extern", ref "crate", field "name" identifier,
      optional (seq ["as", field "alias" identifier]), ";"]),
  ("const_item",
    seq [
      visibility, "const", field "name" identifier, ":", field "type" type,
      initialValue, ";"]),
  ("static_item",
    seq [
      visibility, "static", optional "ref", mutability,
      field "name" identifier, ":", field "type" type, initialValue, ";"]),
  ("type_item",
    seq [
      visibility, "type", field "name" typeIdentifier, typeParameters,
      whereClause, "=", field "type" type, whereClause, ";"]),
  ("function_item",
    seq [
      visibility, optional (ref "function_modifiers"), "fn",
      field "name" (oneOf [identifier, ref "metavariable"]), typeParameters,
      field "parameters" (ref "parameters"), returnType, whereClause,
      field "body" block]),
  ("function_signature_item",
    seq [
      visibility, optional (ref "function_modifiers"), "fn",
      field "name" (oneOf [identifier, ref "metavariable"]), typeParameters,
      field "parameters" (ref "parameters"), returnType, whereClause, ";"]),
  ("function_modifiers",
    repeated <| oneOf [
      "async", "default", "const", "unsafe", ref "extern_modifier"]),
  ("where_clause",
    rightward 0 <| seq [
      "where",
      optional (seq [separated1 "," (ref "where_predicate"), finalComma])]),
  ("where_predicate",
    seq [
      field "left" <| oneOf [
        ref "lifetime", typeIdentifier, ref "scoped_type_identifier",
        ref "generic_type", ref "reference_type", ref "pointer_type",
        ref "tuple_type", ref "array_type", ref "higher_ranked_trait_bound",
        primitiveType],
      field "bounds" (ref "trait_bounds")]),
  ("impl_item",
    seq [
      optional "unsafe", "impl", typeParameters,
      optional <| seq [
        optional "!",
        field "trait" <| oneOf [
          typeIdentifier, ref "scoped_type_identifier", ref "generic_type"],
        "for"],
      field "type" type, whereClause,
      oneOf [field "body" (ref "declaration_list"), ";"]]),
  ("trait_item",
    seq [
      visibility, optional "unsafe", "trait", field "name" typeIdentifier,
      typeParameters, field "bounds" (optional (ref "trait_bounds")),
      whereClause, field "body" (ref "declaration_list")]),
  ("associated_type",
    seq [
      "type", field "name" typeIdentifier, typeParameters,
      field "bounds" (optional (ref "trait_bounds")), whereClause, ";"]),
  ("trait_bounds",
    seq [
      ":",
      separated1 "+" <| oneOf [
        type, ref "lifetime", ref "higher_ranked_trait_bound"]]),
  ("higher_ranked_trait_bound",
    seq [
      "for", field "type_parameters" (ref "type_parameters"),
      field "type" type]),
  ("removed_trait_bound", seq ["?", type]),
  ("type_parameters",
    bound 1 <| seq [
      "<",
      separated1 "," <| seq [
        attributes,
        oneOf [
          ref "metavariable", ref "type_parameter",
          ref "lifetime_parameter", ref "const_parameter"]],
      finalComma, ">"]),
  ("const_parameter",
    seq [
      "const", field "name" identifier, ":", field "type" type,
      optional <| seq [
        "=",
        field "value" <| oneOf [
          block, identifier, ref "_literal", ref "negative_literal"]]]),
  ("type_parameter",
    bound 1 <| seq [
      field "name" typeIdentifier,
      optional (field "bounds" (ref "trait_bounds")),
      optional (seq ["=", field "default_type" type])]),
  ("lifetime_parameter",
    bound 1 <| seq [
      field "name" (ref "lifetime"),
      optional (field "bounds" (ref "trait_bounds"))]),
  ("let_declaration",
    seq [
      "let", mutability, field "pattern" pattern,
      optional (seq [":", field "type" type]), initialValue,
      optional (seq ["else", field "alternative" block]), ";"]),
  ("use_declaration",
    seq [visibility, "use", field "argument" (ref "_use_clause"), ";"]),
  ("_use_clause",
    oneOf [
      path, ref "use_as_clause", ref "use_list", ref "scoped_use_list",
      ref "use_wildcard"]),
  ("scoped_use_list",
    seq [field "path" (optional path), "::", field "list" (ref "use_list")]),
  ("use_list",
    seq ["\x7b", separated "," (ref "_use_clause"), finalComma, "\x7d"]),
  ("use_as_clause", seq [field "path" path, "as", field "alias" identifier]),
  ("use_wildcard", seq [optional (seq [optional path, "::"]), "*"]),
  ("parameters",
    seq [
      "(",
      separated "," <| seq [
        optional (ref "attribute_item"),
        oneOf [
          ref "parameter", ref "self_parameter", ref "variadic_parameter",
          "_", type]],
      finalComma, ")"]),
  ("self_parameter",
    seq [optional "&", lifetimeMark, mutability, ref "self"]),
  ("variadic_parameter",
    seq [mutability, optional (seq [field "pattern" pattern, ":"]), "..."]),
  ("parameter",
    seq [
      mutability, field "pattern" (oneOf [pattern, ref "self"]), ":",
      field "type" type]),
  ("extern_modifier", seq ["extern", optional (ref "string_literal")]),
  ("visibility_modifier",
    oneOf [
      ref "crate",
      seq [
        "pub",
        optional <| seq [
          "(",
          oneOf [ref "self", ref "super", ref "crate", seq ["in", path]],
          ")"]]])]

end CrateShelf.Source.Grammar
