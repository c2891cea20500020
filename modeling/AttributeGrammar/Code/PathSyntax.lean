import AttributeGrammar.Code.TokenParser

/-!
# Paths in code

Paths stand in types, in patterns and in expressions. What their generic arguments hold is read by
parsers that are parameters here.

* `TypeParsers` — reads what paths and expressions hold of types.
* `segmentName`, `boundLifetimes`, `qualifiedSelf`, `macroGroup` — parts of paths.
* `printArguments` — prints generic arguments.
* `operandPath` — reads a path where no type is expected: a double colon stands before generic arguments.
-/

set_option autoImplicit false

namespace AttributeGrammar.Code

/-- How types are read, where something else holds them. -/
structure TypeParsers where
  /-- A type. With `plus` it may be a sum of bounds. -/
  type : (plus : Bool) → TokenParser TokenList
  /-- A path without parameters. -/
  path : TokenParser TokenList
  /-- Generic arguments with their brackets. -/
  arguments : TokenParser TokenList
  bound : TokenParser TokenList

namespace PathSyntax

open TokenParser

/-- The words that may start or continue a path though they are reserved. -/
def pathWords : List String := ["super", "self", "Self", "crate"]

/-- Whether a path segment is at the front of some tokens. -/
def startsSegment : TokenList → Bool
  | .ident name :: _ => isName name || name ∈ pathWords
  | _ => false

/-- Reads a path segment without arguments. -/
def segmentName : TokenParser TokenList := fun tokens =>
  match tokens with
  | .ident name :: rest =>
    if isName name || name ∈ pathWords then some ([.ident name], rest) else none
  | _ => none

/-- Whether generic arguments behind a double colon begin. -/
def startsQualifiedArguments : TokenList → Bool
  | .punct ':' true :: .punct ':' _ :: .punct '<' _ :: _ => true
  | _ => false

/-- Whether some generic arguments begin: an opening bracket that is no comparison, or one behind a
double colon. -/
def startsArguments (tokens : TokenList) : Bool :=
  (startsWith "<" tokens && !startsWith "<=" tokens) || startsQualifiedArguments tokens

/-- Whether a printed segment is a word that names a module, which takes no arguments. -/
def isModuleWord : TokenList → Bool
  | [.ident word] => word ∈ ["super", "self", "crate"]
  | _ => false

/-- Whether parentheses follow, behind a double colon or not. -/
def startsParens (tokens : TokenList) : Bool :=
  startsGroup .paren tokens ||
    match dropOperator? "::".toList tokens with
    | some rest => startsGroup .paren rest
    | none => false

/-- Whether a printed path has no arguments and no type in front. -/
def isPlain (path : TokenList) : Bool := path.all fun token =>
  match token with
  | .ident _ => true
  | .punct c _ => c = ':'
  | _ => false

/-- Reads the lifetimes that a `for` binds. -/
def boundLifetimes (fuel : Nat) : TokenParser TokenList := do
  if !startsWord "for" (← get) then return []
  let mark ← keyword "for"
  let opening ← symbol "<"
  let names ← loop fuel
  let closing ← symbol ">"
  return mark ++ opening ++ names ++ closing
where
  /-- Reads lifetimes with commas between them. -/
  loop : Nat → TokenParser TokenList
    | 0 => failure
    | fuel + 1 => do
      if startsWith ">" (← get) then return []
      let first ← lifetime
      if startsWith ">" (← get) then return first
      let comma ← symbol ","
      return first ++ comma ++ (← loop fuel)

/-- Generic arguments with what stands before the comma behind each. Lifetimes are printed first,
constraints last. -/
structure Argument where
  /-- The place among the printed arguments: lifetimes, then types, then constraints. -/
  rank : Nat
  tokens : TokenList
  comma : Bool

/-- Prints the arguments of one rank; `ready` tells that no comma is needed before the next. -/
def printRank (rank : Nat) : List Argument → (ready : Bool) → TokenList × Bool
  | [], ready => ([], ready)
  | argument :: rest, ready =>
    if argument.rank = rank then
      let front := if ready then [] else Code.operator [',']
      let back := if argument.comma then Code.operator [','] else []
      let (more, ready) := printRank rank rest argument.comma
      (front ++ argument.tokens ++ back ++ more, ready)
    else printRank rank rest ready

/-- Prints generic arguments between their brackets. -/
def printArguments (arguments : List Argument) : TokenList :=
  let (lifetimes, ready) := printRank 0 arguments true
  let (types, ready) := printRank 1 arguments ready
  let (constraints, _) := printRank 2 arguments ready
  Code.operator ['<'] ++ lifetimes ++ types ++ constraints ++ Code.operator ['>']

/-- Whether a macro is called behind a printed path. -/
def startsMacro (path tokens : TokenList) : Bool :=
  startsWith "!" tokens && !startsWith "!=" tokens && isPlain path

/-- Reads the tokens that a macro is called with, as they were written. -/
def macroGroup : TokenParser TokenList := do
  let mark ← symbol "!"
  match ← get with
  | .group delimiter content :: rest =>
    set rest
    return mark ++ [.group delimiter content]
  | _ => failure

/-- Reads the type in front of a path, between brackets, and the trait that the path belongs to. -/
def qualifiedSelf (types : TypeParsers) : TokenParser TokenList := do
  let opening ← symbol "<"
  let self ← types.type true
  let trait ← if startsWord "as" (← get) then
      let mark ← keyword "as"
      pure (mark ++ (← types.path))
    else pure []
  let closing ← symbol ">"
  let colons ← symbol "::"
  return opening ++ self ++ trait ++ closing ++ colons

/-- Reads segments in which a double colon stands before generic arguments. Only behind a type they
may not end before parentheses. -/
def operandSegments (types : TypeParsers) (qualified : Bool) : (fuel : Nat) → TokenParser TokenList
  | 0 => failure
  | fuel + 1 => do
    let name ← segmentName
    let arguments ← if !isModuleWord name && startsQualifiedArguments (← get) then types.arguments
      else pure []
    let tokens ← get
    if startsWith "::" tokens && (qualified || !startsParens tokens) then
      let colons ← symbol "::"
      return name ++ arguments ++ colons ++ (← operandSegments types qualified fuel)
    return name ++ arguments

/-- Reads a path in which a double colon stands before generic arguments. -/
def operandPath (types : TypeParsers) : TokenParser TokenList := do
  let fuel := (← get).length + 1
  if startsWith "<" (← get) then
    let self ← qualifiedSelf types
    return self ++ (← operandSegments types true fuel)
  let colons ← symbol? "::"
  return colons ++ (← operandSegments types false fuel)

/-- Whether a path is at the front of some tokens. -/
def startsPath (tokens : TokenList) : Bool :=
  startsSegment tokens || startsWith "::" tokens || startsWith "<" tokens

end PathSyntax

end AttributeGrammar.Code
