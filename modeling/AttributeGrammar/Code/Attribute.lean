import AttributeGrammar.Code.PathSyntax

/-!
# Attributes and visibilities

* `Attribute` — the attribute of a declaration: its path, and what follows the path.
* `attributes`, `visibility` — read them in front of a declaration.
* `outerAttributes`, `innerAttributes` — read attributes of what follows, and of what is around.
-/

set_option autoImplicit false

namespace AttributeGrammar.Code

open TokenParser

/-- The attribute of a declaration. -/
structure Attribute where
  path : TokenList
  /-- What follows the path. -/
  input : TokenList
deriving Repr

namespace Attribute

def tokens (mark : Attribute) : TokenList :=
  words "#" ++ bracket (mark.path ++ mark.input)

/-- Whether the path is a single name. -/
def isNamed (mark : Attribute) (name : String) : Bool :=
  match mark.path with
  | [.ident other] => other = name
  | _ => false

/-- The literal that the attribute gives its name. -/
def value? (mark : Attribute) : Option TokenList :=
  (do
    discard (symbol "=")
    literal : TokenParser TokenList).all mark.input

end Attribute

/-- Reads the names of a path with double colons between them. -/
def plainPath : (fuel : Nat) → TokenParser TokenList
  | 0 => failure
  | fuel + 1 => do
    let first ← PathSyntax.segmentName
    if startsWith "::" (← get) then
      let colons ← symbol "::"
      return first ++ colons ++ (← plainPath fuel)
    return first

/-- Reads a path without arguments. -/
def attributePath : TokenParser TokenList := do
  let colons ← symbol? "::"
  return colons ++ (← plainPath ((← get).length + 1))

/-- Reads the brackets of an attribute. -/
def attributeBrackets : TokenParser Attribute := do
  let content ← group .bracket
  TokenParser.inside (do
    let path ← attributePath
    let input ← get
    set ([] : TokenList)
    return ⟨path, input⟩) content

/-- Reads attributes, as often as they come. -/
def attributes : (fuel : Nat) → TokenParser (List Attribute)
  | 0 => failure
  | fuel + 1 => do
    if !startsWith "#" (← get) then return []
    discard (symbol "#")
    let first ← attributeBrackets
    return first :: (← attributes fuel)

/-- Reads attributes of what follows them, and yields their tokens. -/
def outerAttributes : TokenParser TokenList := do
  let marks ← attributes ((← get).length + 1)
  return marks.flatMap Attribute.tokens

/-- Reads attributes of what is around them, and yields their tokens. -/
def innerAttributes : (fuel : Nat) → TokenParser TokenList
  | 0 => failure
  | fuel + 1 => do
    match ← get with
    | .punct '#' _ :: .punct '!' _ :: rest =>
      set rest
      let first ← attributeBrackets
      return words "# !" ++ bracket (first.path ++ first.input) ++ (← innerAttributes fuel)
    | _ => return []

/-- Whether the content of some parentheses restricts a visibility. -/
def isRestriction : TokenList → Bool
  | [.ident word] => word ∈ ["crate", "self", "super"]
  | .ident word :: _ => word = "in"
  | _ => false

/-- Reads a visibility, if there is one. -/
def visibility : TokenParser Unit := do
  let tokens ← get
  if startsWord "pub" tokens then
    discard (keyword "pub")
    match ← get with
    | .group .paren content :: rest =>
      if isRestriction content then
        set rest
        if startsWord "in" content then discard (TokenParser.inside attributePath (content.drop 1))
    | _ => return ()
  else if startsWord "crate" tokens && !startsWith "::" (tokens.drop 1) then
    discard (keyword "crate")

end AttributeGrammar.Code
