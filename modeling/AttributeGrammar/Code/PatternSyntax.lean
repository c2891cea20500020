import AttributeGrammar.Code.Attribute

/-!
# Patterns in code

The patterns of bindings, of parameters and of the arms of a match.

* `member` — reads the name or the number of a field.
* `PatternSyntax.pattern` — reads a pattern that is no choice.
* `PatternSyntax.choice` — reads patterns with bars between them.
-/

set_option autoImplicit false

namespace AttributeGrammar.Code

open TokenParser PathSyntax

/-- The number that the digits of a number to some base stand for. -/
def digitsValue? (base : Nat) (digits : List Char) : Option Nat :=
  digits.foldlM (fun value c =>
    if c = '_' then some value
    else if isHex c && hexValue c < base then some (value * base + hexValue c)
    else none) 0

/-- The number of a field that has no name, of at most 32 bits. -/
def index? (text : List Char) : Option TokenList := do
  let value ← match text with
    | '0' :: 'x' :: digits => digitsValue? 16 digits
    | '0' :: 'o' :: digits => digitsValue? 8 digits
    | '0' :: 'b' :: digits => digitsValue? 2 digits
    | c :: digits => if Text.isAsciiDigit c then digitsValue? 10 (c :: digits) else none
    | [] => none
  if 0xFFFFFFFF < value then none
  return [.literal (toString value)]

/-- Reads the name or the number of a field; yields whether it is a name. -/
def member : TokenParser (TokenList × Bool) := fun tokens =>
  match tokens with
  | .ident name :: rest => if isName name then some (([.ident name], true), rest) else none
  | .literal text :: rest => (index? text.toList).map fun index => ((index, false), rest)
  | _ => none

/-- Reads the dots of a range. Three of them are printed with an equality sign. -/
def rangeDots : TokenParser TokenList := do
  let tokens ← get
  if startsWith "..=" tokens then symbol "..="
  else if startsWith "..." tokens then
    discard (symbol "...")
    return Code.operator "..=".toList
  else symbol ".."

namespace PatternSyntax

/-- Whether a pattern that starts with a path, and is not just a name, is at the front of some tokens. -/
def startsPathPattern (tokens : TokenList) : Bool :=
  startsWith "::" tokens || startsWith "<" tokens ||
    match tokens with
    | .ident word :: rest =>
      word ∈ ["Self", "super", "crate"] || (word = "self" && startsWith "::" rest) ||
        (isName word &&
          (["::", "!", ".."].any (startsWith · rest) || startsGroup .brace rest || startsGroup .paren rest))
    | _ => false

/-- Whether a range ends without an upper bound. -/
def endsRange (tokens : TokenList) : Bool :=
  tokens.isEmpty || ["|", "=", ",", ";"].any (startsWith · tokens) ||
    (startsWith ":" tokens && !startsWith "::" tokens) || startsWord "if" tokens

/-- Reads the bound of a range: a literal, a constant block or a path. -/
def rangeBound (types : TypeParsers) (constant : TokenParser TokenList) : TokenParser TokenList := do
  let sign ← symbol? "-"
  let tokens ← get
  let value ← if startsLiteral tokens then literal
    else if startsWord "const" tokens then constant
    else operandPath types
  return sign ++ value

/-- Reads the dots of a range and its upper bound, behind the lower one that starts at `start`. Without
an upper bound the range is printed as it was written. -/
def rangeTail (types : TypeParsers) (constant : TokenParser TokenList) (start lower : TokenList) :
    TokenParser TokenList := do
  let dots ← rangeDots
  if endsRange (← get) then since start
  else return lower ++ dots ++ (← rangeBound types constant)

-- `constant` reads a constant block.
variable (types : TypeParsers) (constant : TokenParser TokenList)

mutual

/-- Reads a pattern that is no choice. -/
def pattern : (fuel : Nat) → TokenParser TokenList
  | 0 => failure
  | fuel + 1 => do
    let tokens ← get
    if startsPathPattern tokens then pathPattern fuel
    else if startsWord "_" tokens then keyword "_"
    else if startsWord "box" tokens then
      let mark ← keyword "box"
      return mark ++ (← pattern fuel)
    else if startsWith "-" tokens || startsLiteral tokens || startsWord "const" tokens then
      let value ← rangeBound types constant
      if startsWith ".." (← get) then rangeTail types constant tokens value
      else return value
    else if startsWith "&" tokens then
      let mark ← symbol "&"
      let mutable ← keyword? "mut"
      return mark ++ mutable ++ (← pattern fuel)
    else if startsWith ".." tokens && !startsWith "..." tokens then
      let dots ← rangeDots
      if !endsRange (← get) then
        discard (rangeBound types constant)
        since tokens
      else if startsWith "..=" tokens then failure
      else return dots
    else
      match tokens with
      | .group .paren content :: rest =>
        set rest
        return paren (← TokenParser.inside (separated (choice fuel) "," (content.length + 1)) content)
      | .group .bracket content :: rest =>
        set rest
        return bracket (← TokenParser.inside (separated (choice fuel) "," (content.length + 1)) content)
      | _ =>
        if startsName tokens || ["ref", "mut", "self"].any (startsWord · tokens) then binding fuel
        else failure

/-- Reads a name, which may be bound by reference and to a pattern. -/
def binding : (fuel : Nat) → TokenParser TokenList
  | 0 => failure
  | fuel + 1 => do
    let reference ← keyword? "ref"
    let mutable ← keyword? "mut"
    let name ← anyWord
    if startsWith "@" (← get) then
      let mark ← symbol "@"
      return reference ++ mutable ++ name ++ mark ++ (← pattern fuel)
    return reference ++ mutable ++ name

/-- Reads a pattern that starts with a path. -/
def pathPattern : (fuel : Nat) → TokenParser TokenList
  | 0 => failure
  | fuel + 1 => do
    let start ← get
    let path ← operandPath types
    let tokens ← get
    if startsMacro path tokens then return path ++ (← macroGroup)
    else if startsWith ".." tokens then rangeTail types constant start path
    else
      let fields ←
        match tokens with
        | .group .brace content :: rest =>
          set rest
          pure (brace (← TokenParser.inside (fields fuel) content))
        | .group .paren content :: rest =>
          set rest
          pure (paren (← TokenParser.inside (separated (choice fuel) "," (content.length + 1)) content))
        | _ => return path
      if startsWith "<" start then since start else return path ++ fields

/-- Reads the fields of a structure. Two dots may stand at the end. -/
def fields : (fuel : Nat) → TokenParser TokenList
  | 0 => failure
  | fuel + 1 => do
    if (← get).isEmpty then return []
    let marks ← outerAttributes
    if startsWith ".." (← get) then
      let dots ← symbol ".."
      return marks ++ dots
    let first ← field fuel
    if (← get).isEmpty then return marks ++ first
    let comma ← symbol ","
    return marks ++ first ++ comma ++ (← fields fuel)

/-- Reads a field with its pattern, or just its name. -/
def field : (fuel : Nat) → TokenParser TokenList
  | 0 => failure
  | fuel + 1 => do
    let boxed ← keyword? "box"
    let reference ← keyword? "ref"
    let mutable ← keyword? "mut"
    let (name, isName) ← member
    let front := boxed ++ reference ++ mutable
    if !isName || (front.isEmpty && startsWith ":" (← get)) then
      let colon ← symbol ":"
      return name ++ colon ++ (← choice fuel)
    return front ++ name

/-- Reads patterns with bars between them; one may stand in front. -/
def choice : (fuel : Nat) → TokenParser TokenList
  | 0 => failure
  | fuel + 1 => do
    let bar ← symbol? "|"
    let first ← pattern fuel
    return bar ++ first ++ (← furtherPatterns fuel)

/-- Reads a bar and a pattern behind it, as often as they come. -/
def furtherPatterns : (fuel : Nat) → TokenParser TokenList
  | 0 => failure
  | fuel + 1 => do
    let tokens ← get
    if startsWith "|" tokens && !startsWith "||" tokens && !startsWith "|=" tokens then
      let bar ← symbol "|"
      let next ← pattern fuel
      return bar ++ next ++ (← furtherPatterns fuel)
    return []

end

end PatternSyntax

end AttributeGrammar.Code
