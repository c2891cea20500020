import AttributeGrammar.Code.Generics

/-!
# Declarations of types

* `TypeDeclaration` — the declaration of a structure, an enumeration or a union.
* `TypeDeclaration.declaration` — reads a declaration.
-/

set_option autoImplicit false

namespace AttributeGrammar.Code

open TokenParser

/-- The declaration of a type, without its content. -/
structure TypeDeclaration where
  attributes : List Attribute
  name : TokenList
  parameters : List GenericParameter
  whereClause : TokenList
deriving Repr

namespace TypeDeclaration

variable (code : CodeParsers)

/-- Reads a field with a name. -/
def namedField (fuel : Nat) : TokenParser TokenList := do
  discard (Code.attributes fuel)
  visibility
  let name ← if startsWord "_" (← get) then keyword "_" else TokenParser.name
  let colon ← symbol ":"
  return name ++ colon ++ (← code.type true)

/-- Reads a field without a name. -/
def plainField (fuel : Nat) : TokenParser TokenList := do
  discard (Code.attributes fuel)
  visibility
  code.type true

/-- Reads fields between delimiters. -/
def fieldsIn (delimiter : Delimiter) (field : TokenParser TokenList) : TokenParser Unit := do
  let content ← group delimiter
  discard (TokenParser.inside (separated field "," (content.length + 1)) content)

/-- Reads a variant of an enumeration. -/
def variant (fuel : Nat) : TokenParser TokenList := do
  discard (Code.attributes fuel)
  visibility
  let name ← TokenParser.name
  let tokens ← get
  if startsGroup .brace tokens then fieldsIn .brace (namedField code fuel)
  else if startsGroup .paren tokens then fieldsIn .paren (plainField code fuel)
  if startsWith "=" (← get) then
    discard (symbol "=")
    discard code.expression
  return name

/-- Reads what follows the parameters of a structure; yields the conditions on them. -/
def structureBody (fuel : Nat) : TokenParser TokenList := do
  let hasWhere := startsWord "where" (← get)
  let before ← Generics.whereClause code fuel
  let tokens ← get
  if startsGroup .brace tokens then
    fieldsIn .brace (namedField code fuel)
    return before
  else if startsGroup .paren tokens && !hasWhere then
    fieldsIn .paren (plainField code fuel)
    let conditions ← Generics.whereClause code fuel
    discard (symbol ";")
    return conditions
  else
    discard (symbol ";")
    return before

/-- Reads the conditions on the parameters of an enumeration, and its variants. -/
def enumerationBody (fuel : Nat) : TokenParser TokenList := do
  let conditions ← Generics.whereClause code fuel
  let content ← group .brace
  discard (TokenParser.inside (separated (variant code fuel) "," (content.length + 1)) content)
  return conditions

/-- Reads the conditions on the parameters of a union, and its fields. -/
def unionBody (fuel : Nat) : TokenParser TokenList := do
  let conditions ← Generics.whereClause code fuel
  fieldsIn .brace (namedField code fuel)
  return conditions

/-- Reads a declaration behind its attributes and its visibility. -/
def behindVisibility (fuel : Nat) (attributes : List Attribute) : TokenParser TypeDeclaration := do
  let body ←
    match ← get with
    | .ident "struct" :: _ => pure (structureBody code)
    | .ident "enum" :: _ => pure (enumerationBody code)
    | .ident "union" :: _ => pure (unionBody code)
    | _ => failure
  discard anyWord
  let name ← TokenParser.name
  let parameters ← Generics.parameters code fuel
  return ⟨attributes, name, parameters, ← body fuel⟩

/-- Reads a declaration. -/
def declaration (fuel : Nat) : TokenParser TypeDeclaration := do
  let attributes ← Code.attributes fuel
  visibility
  behindVisibility code fuel attributes

end TypeDeclaration

end AttributeGrammar.Code
