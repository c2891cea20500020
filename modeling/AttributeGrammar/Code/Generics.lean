import AttributeGrammar.Code.Attribute
import AttributeGrammar.Code.PathSyntax

/-!
# Generic parameters

* `CodeParsers` — reads what declarations hold of types, expressions and patterns.
* `GenericParameter` — a lifetime, a type or a constant that a declaration is generic in.
* `Generics.parameters`, `Generics.whereClause` — read the parameters of a declaration and the
  conditions on them.
* `declarationTokens`, `useTokens` — the parameters where they are declared, without defaults, and where
  they are used.
-/

set_option autoImplicit false

namespace AttributeGrammar.Code

open TokenParser

/-- How types, expressions and patterns are read, where declarations hold them. -/
structure CodeParsers extends TypeParsers where
  expression : TokenParser TokenList
  /-- A block, at whose start attributes may stand. -/
  block : TokenParser TokenList
  /-- Patterns with bars between them. -/
  pattern : TokenParser TokenList

/-- A parameter that a declaration is generic in. -/
structure GenericParameter where
  isLifetime : Bool
  name : TokenList
  /-- The parameter with its attributes and bounds, without its default. -/
  declaration : TokenList
  /-- Whether a comma follows. -/
  comma : Bool
deriving Repr

namespace Generics

/-- Reads bounds with plus signs between them up to the end that `stop` tells. A plus sign may stand at
the end. -/
def boundsUntil (stop : TokenList → Bool) (element : TokenParser TokenList) :
    (fuel : Nat) → TokenParser TokenList
  | 0 => failure
  | fuel + 1 => do
    if stop (← get) then return []
    let first ← element
    if !startsWith "+" (← get) then return first
    let plus ← symbol "+"
    return first ++ plus ++ (← boundsUntil stop element fuel)

/-- Whether the bounds of a parameter end. -/
def endsParameter (tokens : TokenList) : Bool :=
  startsWith "," tokens || startsWith ">" tokens

/-- Whether a colon is at the front of some tokens, and not a double colon. -/
def startsColon (tokens : TokenList) : Bool := startsWith ":" tokens && !startsWith "::" tokens

/-- Whether the conditions on parameters end, or one of them does. -/
def endsCondition (tokens : TokenList) : Bool :=
  tokens.isEmpty || startsGroup .brace tokens || startsWith "," tokens || startsWith ";" tokens ||
    startsColon tokens || startsWith "=" tokens

/-- Some bounds behind a colon; no bounds need none. -/
def withColon (bounds : TokenList) : TokenList :=
  if bounds.isEmpty then [] else words ":" ++ bounds

/-- Reads a lifetime with its bounds. -/
def lifetimeParameter (fuel : Nat) : TokenParser (TokenList × TokenList) := do
  let name ← lifetime
  if startsWith ":" (← get) then
    discard (symbol ":")
    let bounds ← boundsUntil endsParameter lifetime fuel
    return (name, name ++ withColon bounds)
  return (name, name)

variable (code : CodeParsers)

/-- Reads the default of a constant: a literal, a name or a block. -/
def constant : TokenParser TokenList := do
  let tokens ← get
  if startsLiteral tokens then literal
  else if startsName tokens then name
  else code.block

/-- Reads a type with its bounds and its default. -/
def typeParameter (fuel : Nat) : TokenParser (TokenList × TokenList) := do
  if startsWord "_" (← get) then
    let blank ← keyword "_"
    return (blank, blank)
  let name ← name
  let bounds ← if startsWith ":" (← get) then do
      discard (symbol ":")
      boundsUntil (fun tokens => endsParameter tokens || startsWith "=" tokens)
        code.bound fuel
    else pure []
  if startsWith "=" (← get) then
    discard (symbol "=")
    discard (code.type true)
  return (name, name ++ withColon bounds)

/-- Reads a constant with its type and its default. -/
def constantParameter : TokenParser (TokenList × TokenList) := do
  let mark ← keyword "const"
  let name ← name
  let colon ← symbol ":"
  let type ← code.type true
  if startsWith "=" (← get) then
    discard (symbol "=")
    discard (constant code)
  return (name, mark ++ name ++ colon ++ type)

/-- Reads a parameter without the comma behind it. -/
def parameter (fuel : Nat) : TokenParser GenericParameter := do
  let attributes ← attributes fuel
  let tokens ← get
  let isLifetime := startsLifetime tokens
  let (name, declaration) ←
    if isLifetime then lifetimeParameter fuel
    else if startsWord "const" tokens then constantParameter code
    else typeParameter code fuel
  return ⟨isLifetime, name, attributes.flatMap Attribute.tokens ++ declaration, false⟩

/-- Reads parameters up to the closing bracket. -/
def parametersUntilEnd : (fuel : Nat) → TokenParser (List GenericParameter)
  | 0 => failure
  | fuel + 1 => do
    if startsWith ">" (← get) then return []
    let first ← parameter code fuel
    if startsWith ">" (← get) then return [first]
    discard (symbol ",")
    return { first with comma := true } :: (← parametersUntilEnd fuel)

/-- Reads generic parameters with their brackets, if there are any. -/
def parameters (fuel : Nat) : TokenParser (List GenericParameter) := do
  if !startsWith "<" (← get) then return []
  discard (symbol "<")
  let parameters ← parametersUntilEnd code fuel
  discard (symbol ">")
  return parameters

/-- Reads a condition on lifetimes or on a type. -/
def condition (fuel : Nat) : TokenParser TokenList := do
  let tokens ← get
  if startsLifetime tokens && startsWith ":" (tokens.drop 2) then
    let name ← lifetime
    let colon ← symbol ":"
    let bounds ← boundsUntil (fun tokens => endsCondition tokens || startsWith ":" tokens) lifetime fuel
    return name ++ colon ++ bounds
  else
    let lifetimes ← PathSyntax.boundLifetimes fuel
    let type ← code.type true
    let colon ← symbol ":"
    let bounds ← boundsUntil endsCondition code.bound fuel
    return lifetimes ++ type ++ colon ++ bounds

/-- Reads conditions with commas between them. -/
def conditions : (fuel : Nat) → TokenParser TokenList
  | 0 => failure
  | fuel + 1 => do
    if endsCondition (← get) then return []
    let first ← condition code fuel
    if !startsWith "," (← get) then return first
    let comma ← symbol ","
    return first ++ comma ++ (← conditions fuel)

/-- Reads the conditions on parameters, if there are any. -/
def whereClause (fuel : Nat) : TokenParser TokenList := do
  if !startsWord "where" (← get) then return []
  let mark ← keyword "where"
  let conditions ← conditions code fuel
  return if conditions.isEmpty then [] else mark ++ conditions

end Generics

/-- Some parameters between brackets, lifetimes first; nothing if there are none. -/
def bracketed (tokens : GenericParameter → TokenList) (parameters : List GenericParameter) :
    TokenList :=
  if parameters.isEmpty then []
  else
    PathSyntax.printArguments (parameters.map fun parameter =>
      ⟨if parameter.isLifetime then 0 else 1, tokens parameter, parameter.comma⟩)

/-- The parameters where they are declared. -/
def declarationTokens (parameters : List GenericParameter) : TokenList :=
  bracketed GenericParameter.declaration parameters

/-- The parameters where they are used. -/
def useTokens (parameters : List GenericParameter) : TokenList :=
  bracketed GenericParameter.name parameters

end AttributeGrammar.Code
