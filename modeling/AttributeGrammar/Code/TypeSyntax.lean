import AttributeGrammar.Code.ExpressionSyntax

/-!
# Types in code

The types that variables may have: paths with generic arguments, references, pointers, tuples,
arrays, slices, function types, trait objects and the rest of the syntax of types. They are read from
tokens and printed token by token.

* `TypeSyntax.type` — reads a type.
* `parseType?` — the tokens of the type that a text is, if it is one.
* `parseDeclaration?` — the declaration of a type that a text is, if it is one.
-/

set_option autoImplicit false

namespace AttributeGrammar.Code

namespace TypeSyntax

open TokenParser PathSyntax

/-- Whether a bound is at the front of some tokens. -/
def startsBound (tokens : TokenList) : Bool :=
  (match tokens with
    | .ident _ :: _ => true
    | _ => false) ||
  startsWith "::" tokens || startsWith "?" tokens || startsLifetime tokens ||
    startsGroup .paren tokens

/-- Whether the last token of a path carries no arguments, so that parentheses may follow. -/
def endsPlain (path : TokenList) : Bool :=
  match path.getLast? with
  | some (.ident _) => true
  | _ => false

mutual

/-- Reads a type. With `plus` it may be a sum of bounds. -/
def type : (fuel : Nat) → (plus : Bool) → TokenParser TokenList
  | 0, _ => failure
  | fuel + 1, plus => do
    let tokens ← get
    match tokens with
    | .group .paren content :: rest =>
      set rest
      parenthesized fuel plus content
    | .group .bracket content :: rest =>
      set rest
      let inner ← TokenParser.inside (elements fuel) content
      return bracket inner
    | _ =>
      if startsWord "for" tokens then
        let lifetimes ← boundLifetimes fuel
        let behind ← get
        if startsWord "dyn" behind || startsWith "::" behind then failure
        else if ["fn", "unsafe", "extern"].any fun w => startsWord w behind then
          return lifetimes ++ (← functionType fuel)
        else
          let path ← path fuel
          return lifetimes ++ path ++ (← sumTail fuel plus)
      else if ["fn", "unsafe", "extern"].any fun w => startsWord w tokens then functionType fuel
      else if startsWord "dyn" tokens then
        if startsWith "*" (tokens.drop 1) then
          verbatim do
            discard (keyword "dyn")
            discard (symbol "*")
            bounds fuel plus
        else
          let mark ← keyword "dyn"
          return mark ++ (← bounds fuel plus)
      else if startsWord "impl" tokens then
        let mark ← keyword "impl"
        return mark ++ (← bounds fuel plus)
      else if startsWith "<" tokens then qualifiedPath fuel
      else if startsSegment tokens || startsWith "::" tokens then pathType fuel plus
      else if startsWith "*" tokens then
        let star ← symbol "*"
        let kind ← if startsWord "const" (← get) then keyword "const" else keyword "mut"
        return star ++ kind ++ (← type fuel false)
      else if startsWith "&" tokens then
        let mark ← symbol "&"
        let bound ← lifetime?
        let mutable ← keyword? "mut"
        return mark ++ bound ++ mutable ++ (← type fuel false)
      else if startsWith "!" tokens then symbol "!"
      else if startsWord "_" tokens then keyword "_"
      else if startsLifetime tokens then bounds fuel true
      else failure

/-- Reads what parentheses hold: nothing, a type, a tuple, or a trait that others are added to. -/
def parenthesized : (fuel : Nat) → (plus : Bool) → (content : TokenList) → TokenParser TokenList
  | 0, _, _ => failure
  | fuel + 1, plus, content =>
    if content.isEmpty then return paren []
    else if startsLifetime content then
      return paren (← TokenParser.inside (bounds fuel true) content)
    else if startsWith "?" content then do
      let first ← TokenParser.inside (traitBound fuel) content
      return paren first ++ (← furtherBounds fuel)
    else do
      let inner ← TokenParser.inside (do
        let first ← type fuel true
        if startsWith "," (← get) then
          let comma ← symbol ","
          return first ++ comma ++ (← separated (type fuel true) "," content.length.succ)
        return first) content
      let isTrait := !startsWord "dyn" content && ((traitBound fuel).all content).isSome
      if plus && startsWith "+" (← get) && isTrait then
        return paren inner ++ (← furtherBounds fuel)
      return paren inner

/-- Reads a plus sign and a bound behind it, as often as they come. -/
def furtherBounds : (fuel : Nat) → TokenParser TokenList
  | 0 => failure
  | fuel + 1 => do
    if !startsWith "+" (← get) then return []
    let mark ← symbol "+"
    let next ← bound fuel
    return mark ++ next ++ (← furtherBounds fuel)

/-- Reads what brackets hold: the type of a slice, or the type and the length of an array. -/
def elements : (fuel : Nat) → TokenParser TokenList
  | 0 => failure
  | fuel + 1 => do
    let element ← type fuel true
    if startsWith ";" (← get) then
      let mark ← symbol ";"
      return element ++ mark ++ (← length fuel)
    return element

/-- How types are read where something else holds them. -/
def parsers : (fuel : Nat) → TypeParsers
  | 0 => ⟨fun _ => failure, failure, failure, failure⟩
  | fuel + 1 => ⟨type fuel, barePath fuel, genericArguments fuel, bound fuel⟩

/-- Reads the length of an array. -/
def length : (fuel : Nat) → TokenParser TokenList
  | 0 => failure
  | fuel + 1 => do ExpressionSyntax.expression (parsers fuel) (fuelFor (← get)) true

/-- Reads a block of statements. -/
def block : (fuel : Nat) → TokenParser TokenList
  | 0 => failure
  | fuel + 1 => do ExpressionSyntax.block (parsers fuel) (fuelFor (← get)) true

/-- Reads the type of a function. -/
def functionType : (fuel : Nat) → TokenParser TokenList
  | 0 => failure
  | fuel + 1 => do
    let unsafety ← keyword? "unsafe"
    let linkage ← if startsWord "extern" (← get) then
        let mark ← keyword "extern"
        pure (mark ++ (← text?))
      else pure []
    let mark ← keyword "fn"
    let content ← group .paren
    let parameters ← TokenParser.inside (parameters fuel) content
    return unsafety ++ linkage ++ mark ++ paren parameters ++ (← returnType fuel)

/-- Reads the parameters of a function type. Three dots may stand at the end. -/
def parameters : (fuel : Nat) → TokenParser TokenList
  | 0 => failure
  | fuel + 1 => do
    let tokens ← get
    if tokens.isEmpty then return []
    if startsWith "..." tokens then symbol "..."
    else
      let first ← parameter fuel
      if (← get).isEmpty then return first
      let comma ← symbol ","
      return first ++ comma ++ (← parameters fuel)

/-- Reads a parameter of a function type, with its name if it has one. -/
def parameter : (fuel : Nat) → TokenParser TokenList
  | 0 => failure
  | fuel + 1 => do
    match ← get with
    | .ident word :: .punct ':' joint :: .punct ':' more :: rest =>
      if joint || !isParameterName word then type fuel true
      else do
        set (.punct ':' more :: rest)
        return [.ident word, .punct ':' false] ++ (← type fuel true)
    | .ident word :: .punct ':' _ :: rest =>
      if isParameterName word then
        set rest
        return [.ident word, .punct ':' false] ++ (← type fuel true)
      else type fuel true
    | _ => type fuel true
where
  /-- Whether a word may name a parameter. -/
  isParameterName (word : String) : Bool := isName word || word = "_" || word = "self"

/-- Reads the type that a function returns, if it is given. -/
def returnType : (fuel : Nat) → TokenParser TokenList
  | 0 => failure
  | fuel + 1 => do
    if startsWith "->" (← get) then
      let arrow ← symbol "->"
      return arrow ++ (← type fuel false)
    return []

/-- Reads a type that starts with a path: the path, a macro, or a sum of bounds. -/
def pathType : (fuel : Nat) → (plus : Bool) → TokenParser TokenList
  | 0, _ => failure
  | fuel + 1, plus => do
    let first ← path fuel
    if startsMacro first (← get) then return first ++ (← macroGroup)
    return first ++ (← sumTail fuel plus)

/-- Reads a path whose first part is a type between brackets. -/
def qualifiedPath : (fuel : Nat) → TokenParser TokenList
  | 0 => failure
  | fuel + 1 => do
    let self ← qualifiedSelf (parsers fuel)
    return self ++ (← callSegments fuel true)

/-- Reads a path. -/
def path : (fuel : Nat) → TokenParser TokenList
  | 0 => failure
  | fuel + 1 => do
    let colons ← symbol? "::"
    return colons ++ (← callSegments fuel false)

/-- Reads a path without parameters. -/
def barePath : (fuel : Nat) → TokenParser TokenList
  | 0 => failure
  | fuel + 1 => do
    let colons ← symbol? "::"
    return colons ++ (← segments fuel false)

/-- Reads the segments of a path. The last one may have parameters and a result. -/
def callSegments : (fuel : Nat) → (qualified : Bool) → TokenParser TokenList
  | 0, _ => failure
  | fuel + 1, qualified => do
    let names ← segments fuel qualified
    if endsPlain names && startsParens (← get) then
      discard (symbol? "::")
      let content ← group .paren
      let inputs ← TokenParser.inside
        (separated (type fuel true) "," content.length.succ) content
      return names ++ paren inputs ++ (← returnType fuel)
    return names

/-- Reads the segments of a path with the generic arguments of each. Only behind a type they may not
end before a double colon and parentheses. -/
def segments : (fuel : Nat) → (qualified : Bool) → TokenParser TokenList
  | 0, _ => failure
  | fuel + 1, qualified => do
    let name ← segmentName
    let arguments ← if !isModuleWord name && startsArguments (← get) then genericArguments fuel
      else pure []
    let tokens ← get
    if startsWith "::" tokens && (qualified || !startsParens tokens) then
      let colons ← symbol "::"
      return name ++ arguments ++ colons ++ (← segments fuel qualified)
    return name ++ arguments

/-- Reads generic arguments with their brackets. -/
def genericArguments : (fuel : Nat) → TokenParser TokenList
  | 0 => failure
  | fuel + 1 => do
    let colons ← symbol? "::"
    discard (symbol "<")
    let arguments ← argumentList fuel
    discard (symbol ">")
    return colons ++ printArguments arguments

/-- Reads generic arguments up to the closing bracket. -/
def argumentList : (fuel : Nat) → TokenParser (List Argument)
  | 0 => failure
  | fuel + 1 => do
    if startsWith ">" (← get) then return []
    let (rank, tokens) ← argument fuel
    if startsWith ">" (← get) then return [⟨rank, tokens, false⟩]
    discard (symbol ",")
    return ⟨rank, tokens, true⟩ :: (← argumentList fuel)

/-- Reads a generic argument: a lifetime, a type, a constant, a binding or a constraint. -/
def argument : (fuel : Nat) → TokenParser (Nat × TokenList)
  | 0 => failure
  | fuel + 1 => do
    let tokens ← get
    if startsLifetime tokens && !startsWith "+" (tokens.drop 2) then return (0, ← lifetime)
    else if startsName tokens && startsWith "=" (tokens.drop 1) then do
      let name ← name
      let mark ← symbol "="
      let value ← if startsLiteral (← get) then verbatim literal
        else if startsGroup .brace (← get) then verbatim (block fuel)
        else type fuel true
      return (2, name ++ mark ++ value)
    else if startsName tokens && startsWith ":" (tokens.drop 1) &&
        !startsWith "::" (tokens.drop 1) then do
      let name ← name
      let mark ← symbol ":"
      return (2, name ++ mark ++ (← boundList fuel))
    else if startsLiteral tokens then return (1, ← literal)
    else if startsGroup .brace tokens then return (1, ← block fuel)
    else
      let read ← type fuel true
      if !(startsName tokens && startsWith "<" (tokens.drop 1)) then return (1, read)
      let rest ← get
      if startsWith "=" rest || startsWith ":" rest then do
        set tokens
        return (1, ← verbatim do
          discard (type fuel true)
          if startsWith "=" (← get) then
            discard (symbol "=")
            type fuel true
          else
            discard (symbol ":")
            boundList fuel)
      else return (1, read)

/-- Reads bounds, of which at least one is a trait. With `plus` there may be several. -/
def bounds : (fuel : Nat) → (plus : Bool) → TokenParser TokenList
  | 0, _ => failure
  | fuel + 1, plus => do
    let isLifetime := startsLifetime (← get)
    let first ← bound fuel
    let more ← if plus then moreBounds fuel else pure []
    if isLifetime && !hasTrait more then failure
    return first ++ more
where
  /-- Whether some printed bounds hold more than lifetimes. -/
  hasTrait : TokenList → Bool
    | .punct '+' _ :: .punct '\'' _ :: .ident _ :: rest => hasTrait rest
    | .punct '+' _ :: [] => false
    | [] => false
    | _ => true

/-- Reads a plus sign and bounds behind it, as often as they come. The last one may be missing. -/
def moreBounds : (fuel : Nat) → TokenParser TokenList
  | 0 => failure
  | fuel + 1 => do
    if !startsWith "+" (← get) then return []
    let mark ← symbol "+"
    if !startsBound (← get) then return mark
    let first ← bound fuel
    return mark ++ first ++ (← moreBounds fuel)

/-- Reads the bounds that are added to a first one, if `plus` allows some. -/
def sumTail : (fuel : Nat) → (plus : Bool) → TokenParser TokenList
  | 0, _ => failure
  | fuel + 1, plus => if plus then moreBounds fuel else return []

/-- Reads a list of bounds that may be empty. -/
def boundList : (fuel : Nat) → TokenParser TokenList
  | 0 => failure
  | fuel + 1 => do
    if !startsBound (← get) then return []
    let first ← bound fuel
    return first ++ (← moreBounds fuel)

/-- Reads a lifetime or a trait. -/
def bound : (fuel : Nat) → TokenParser TokenList
  | 0 => failure
  | fuel + 1 => do
    let tokens ← get
    if startsLifetime tokens then lifetime
    else if startsGroup .paren tokens then
      let content ← group .paren
      return paren (← TokenParser.inside (traitBound fuel) content)
    else traitBound fuel

/-- Reads a trait, with the lifetimes bound for it and a question mark that makes it optional. -/
def traitBound : (fuel : Nat) → TokenParser TokenList
  | 0 => failure
  | fuel + 1 => do
    let modifier ← symbol? "?"
    let lifetimes ← boundLifetimes fuel
    return modifier ++ lifetimes ++ (← path fuel)

end

/-- How the parts of a declaration are read. -/
def codeParsers (fuel : Nat) : CodeParsers :=
  { parsers fuel with
    expression := ExpressionSyntax.expression (parsers fuel) fuel true
    block := ExpressionSyntax.block (parsers fuel) fuel true
    pattern := ExpressionSyntax.pattern (parsers fuel) fuel }

end TypeSyntax

/-- The tokens of the type that a text is. -/
def parseType? (text : String) : Option TokenList := do
  let tokens ← lexCode? text
  (TypeSyntax.type (fuelFor tokens) true).all tokens

example : (parseType? "[u8; if a \x7b 1 \x7d else \x7b <u8 as T>::N \x7d]").map renderCode =
    some "[u8 ; if a \x7b 1 \x7d else \x7b < u8 as T > :: N \x7d]" := by decide +kernel
example : (parseType? "V<\x7b+\x7d>").isNone := by decide +kernel

/-- The declaration of a type that a text is. -/
def parseDeclaration? (text : String) : Option TypeDeclaration := do
  let tokens ← lexCode? text
  let fuel := fuelFor tokens
  (TypeDeclaration.declaration (TypeSyntax.codeParsers fuel) fuel).all tokens

end AttributeGrammar.Code
