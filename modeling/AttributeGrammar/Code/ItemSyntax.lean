import AttributeGrammar.Code.PatternSyntax
import AttributeGrammar.Code.TypeDeclaration

/-!
# Declarations among statements

Functions, constants, types, traits, implementations and modules, as a block may hold them. They are
read here, but not printed anew.

* `ItemSyntax.startsItem` — whether a statement is a declaration.
* `ItemSyntax.item` — reads a declaration behind its attributes.
-/

set_option autoImplicit false

namespace AttributeGrammar.Code

namespace ItemSyntax

open TokenParser PathSyntax

/-- Where a declaration stands: among statements or in a module, in a trait, in an implementation, or
in a block of foreign declarations. -/
inductive Place where
  | free
  | inTrait
  | inImplementation
  | foreign
deriving DecidableEq, Repr

/-- Whether a function is declared behind the word `async`, and not a block or a closure. -/
def continuesFunction (tokens : TokenList) : Bool :=
  ["unsafe", "extern", "fn"].any (startsWord · tokens)

/-- Whether a statement that starts with some tokens is a declaration. -/
def startsItem : TokenList → Bool
  | .ident word :: rest =>
    word ∈ ["pub", "extern", "use", "fn", "mod", "type", "existential", "struct", "enum", "trait", "impl",
      "macro"] ||
    match word with
    | "crate" => !startsWith "::" rest
    | "static" =>
      startsWord "mut" rest ||
        (startsName rest &&
          !(startsWord "async" rest && (startsWord "move" (rest.drop 1) || startsWith "|" (rest.drop 1))))
    | "const" =>
      !(startsGroup .brace rest || startsWord "static" rest || startsWord "move" rest || startsWith "|" rest ||
        (startsWord "async" rest && !continuesFunction (rest.drop 1)))
    | "unsafe" => !startsGroup .brace rest
    | "async" => continuesFunction rest
    | "union" => startsName rest
    | "auto" => startsWord "trait" rest
    | "default" => startsWord "unsafe" rest || startsWord "impl" rest
    | _ => false
  | _ => false

/-- Reads the words in front of the name of a function. -/
def functionWords : TokenParser Unit := do
  discard (keyword? "const")
  discard (keyword? "async")
  discard (keyword? "unsafe")
  if startsWord "extern" (← get) then
    discard (keyword "extern")
    discard text?

/-- Whether a function is declared at the front of some tokens. -/
def startsFunction (tokens : TokenList) : Bool :=
  match functionWords tokens with
  | some (_, rest) => startsWord "fn" rest
  | none => false

/-- Reads the value that a method is called for. -/
def receiver : TokenParser Unit := do
  if startsWith "&" (← get) then
    discard (symbol "&")
    discard lifetime?
  discard (keyword? "mut")
  discard (keyword "self")

/-- Whether a receiver without a type is at the front of some tokens. -/
def startsReceiver (tokens : TokenList) : Bool :=
  match receiver tokens with
  | some (_, rest) => !startsWith ":" rest
  | none => false

/-- Whether a name may be declared behind a word: an identifier or a blank. -/
def nameOrBlank : TokenParser Unit := do
  if startsWord "_" (← get) then discard (keyword "_") else discard name

/-- Reads a path of names that are brought into scope. With `root` it may start with a double colon. -/
def useTree : (fuel : Nat) → (root : Bool) → TokenParser TokenList
  | 0, _ => failure
  | fuel + 1, root => do
    if root then discard (symbol? "::")
    let tokens ← get
    match tokens with
    | .group .brace content :: rest =>
      set rest
      TokenParser.inside (separated (useTree fuel root) "," (content.length + 1)) content
    | .ident word :: rest =>
      if isName word || word ∈ ["self", "super", "crate"] then
        set rest
        if startsWith "::" rest then
          discard (symbol "::")
          useTree fuel false
        else if startsWord "as" rest then
          discard (keyword "as")
          nameOrBlank
          return []
        else return []
      else failure
    | _ => symbol "*"

/-- Whether a macro is called at the front of some tokens. -/
def startsMacroCall (tokens : TokenList) : Bool :=
  match attributePath tokens with
  | some (_, rest) => startsWith "!" rest
  | none => false

/-- Reads a call of a macro. Only behind braces the semicolon may be missing. -/
def macroCall : TokenParser Unit := do
  discard attributePath
  discard (symbol "!")
  if startsName (← get) then discard name
  match ← get with
  | .group .brace _ :: rest => set rest
  | .group _ _ :: rest =>
    set rest
    discard (symbol ";")
  | _ => failure

variable (code : CodeParsers)

/-- Reads bounds with plus signs between them up to one of some words or signs. -/
def boundsBefore (stop : TokenList → Bool) : TokenParser Unit := do
  discard (Generics.boundsUntil stop code.bound ((← get).length + 1))

/-- Reads bounds behind a colon, if there is one. -/
def boundsBehindColon (stop : TokenList → Bool) : TokenParser Unit := do
  if startsWith ":" (← get) then
    discard (symbol ":")
    boundsBefore code stop

/-- Reads the value that is given to what is declared, if there is one. -/
def value : TokenParser Unit := do
  if startsWith "=" (← get) then
    discard (symbol "=")
    discard code.expression

/-- Reads the parameters of a function. Only the first one may be a receiver. -/
def parameters : (fuel : Nat) → (first : Bool) → TokenParser Unit
  | 0, _ => failure
  | fuel + 1, first => do
    if (← get).isEmpty then return ()
    discard outerAttributes
    let tokens ← get
    if startsWith "..." tokens then discard (symbol "...")
    else if startsReceiver tokens then
      if first then receiver else failure
    else if startsName tokens && startsWith "<" (tokens.drop 1) then discard (code.type true)
    else if startsWith "|" tokens then failure
    else
      discard code.pattern
      discard (symbol ":")
      if startsWith "..." (← get) then discard (symbol "...") else discard (code.type true)
    if (← get).isEmpty then return ()
    discard (symbol ",")
    parameters fuel false

/-- Reads a function. A semicolon may stand in the place of its block. -/
def function : TokenParser Unit := do
  let fuel := (← get).length + 1
  functionWords
  discard (keyword "fn")
  discard name
  discard (Generics.parameters code fuel)
  let content ← group .paren
  TokenParser.inside (parameters code (content.length + 1) true) content
  if startsWith "->" (← get) then
    discard (symbol "->")
    discard (code.type true)
  discard (Generics.whereClause code fuel)
  if startsWith ";" (← get) then discard (symbol ";") else discard code.block

/-- Reads the name of another type. In a trait or an implementation the conditions stand behind it,
elsewhere in front of it, and among foreign declarations in either place. -/
def typeAlias (place : Place) : TokenParser Unit := do
  let fuel := (← get).length + 1
  discard (keyword "type")
  discard name
  discard (Generics.parameters code fuel)
  boundsBehindColon code fun tokens =>
    startsWord "where" tokens || startsWith "=" tokens || startsWith ";" tokens
  let before := startsWord "where" (← get)
  if place = .free || place = .foreign then discard (Generics.whereClause code fuel)
  if startsWith "=" (← get) then
    discard (symbol "=")
    discard (code.type true)
  if place ≠ .free && !before then discard (Generics.whereClause code fuel)
  discard (symbol ";")

/-- Reads a type of which only bounds are known. -/
def existentialType : TokenParser Unit := do
  let fuel := (← get).length + 1
  discard (keyword "existential")
  discard (keyword "type")
  discard name
  discard (Generics.parameters code fuel)
  discard (Generics.whereClause code fuel)
  discard (symbol ":")
  boundsBefore code (startsWith ";")
  discard (symbol ";")

/-- Reads a constant. -/
def constant : TokenParser Unit := do
  discard (keyword "const")
  nameOrBlank
  discard (symbol ":")
  discard (code.type true)
  value code
  discard (symbol ";")

/-- Reads a global variable. Its type may be left out if it has a value. -/
def static : TokenParser Unit := do
  discard (keyword "static")
  discard (keyword? "mut")
  discard name
  if !startsWith "=" (← get) then
    discard (symbol ":")
    discard (code.type true)
  value code
  discard (symbol ";")

/-- Reads a macro that is declared like a function. -/
def macroDeclaration : TokenParser Unit := do
  discard (keyword "macro")
  discard name
  if startsGroup .paren (← get) then discard (group .paren)
  discard (group .brace)

/-- Whether the generic parameters of an implementation are at the front of some tokens, and not a type
between brackets. -/
def startsParameters : TokenList → Bool
  | .punct '<' _ :: rest =>
    let behind := if startsLifetime rest then rest.drop 2 else rest.drop 1
    startsWith ">" rest || startsWith "#" rest || startsWord "const" rest ||
      ((startsName rest || startsLifetime rest) && [":", ",", ">", "="].any (startsWith · behind))
  | _ => false

mutual

/-- Reads declarations with their attributes up to the end of a block. -/
def items : (fuel : Nat) → Place → TokenParser Unit
  | 0, _ => failure
  | fuel + 1, place => do
    if (← get).isEmpty then return ()
    discard outerAttributes
    item fuel place
    items fuel place

/-- Reads a block of declarations. -/
def itemBlock : (fuel : Nat) → Place → TokenParser Unit
  | 0, _ => failure
  | fuel + 1, place => do
    let content ← group .brace
    TokenParser.inside (do
      discard (innerAttributes (content.length + 1))
      items fuel place) content

/-- Reads a declaration behind its attributes. -/
def item : (fuel : Nat) → Place → TokenParser Unit
  | 0, _ => failure
  | fuel + 1, place => do
    let start ← get
    visibility
    if place = .inTrait || place = .inImplementation then
      if !startsWith "!" ((← get).drop 1) then discard (keyword? "default")
    let tokens ← get
    if startsFunction tokens then function code
    else if startsWord "type" tokens then typeAlias code place
    else if place ≠ .foreign && startsWord "const" tokens then constant code
    else if (place = .free || place = .foreign) && startsWord "static" tokens then static code
    else if startsMacroCall tokens then
      if tokens.length = start.length then macroCall else failure
    else if place = .free then freeItem fuel
    else failure

/-- Reads a declaration of a kind that only stands among statements and in modules. -/
def freeItem : (fuel : Nat) → TokenParser Unit
  | 0 => failure
  | fuel + 1 => do
    let tokens ← get
    match tokens with
    | .ident "extern" :: .ident "crate" :: rest =>
      set rest
      if startsWord "self" rest then discard (keyword "self") else discard name
      if startsWord "as" (← get) then
        discard (keyword "as")
        nameOrBlank
      discard (symbol ";")
    | .ident "extern" :: rest =>
      set rest
      discard text?
      itemBlock fuel .foreign
    | .ident "use" :: rest =>
      set rest
      let rooted := startsWith "::" rest
      discard (symbol? "::")
      discard (useTree (rest.length + 1) (!rooted && startsGroup .brace rest))
      discard (symbol ";")
    | .ident "mod" :: rest =>
      set rest
      discard name
      if startsWith ";" (← get) then discard (symbol ";") else itemBlock fuel .free
    | .ident "existential" :: _ => existentialType code
    | .ident "trait" :: _ | .ident "auto" :: _ => trait fuel
    | .ident "impl" :: _ | .ident "default" :: _ => implementation fuel
    | .ident "macro" :: _ => macroDeclaration
    | .ident "unsafe" :: rest =>
      if (startsWord "extern" rest && !startsWord "crate" (rest.drop 1)) || startsWord "mod" rest then
        set rest
        freeItem fuel
      else if startsWord "impl" rest then implementation fuel
      else trait fuel
    | _ => discard (TypeDeclaration.behindVisibility code (tokens.length + 1) [])

/-- Reads a trait, or the name of bounds. -/
def trait : (fuel : Nat) → TokenParser Unit
  | 0 => failure
  | fuel + 1 => do
    let size := (← get).length + 1
    discard (keyword? "unsafe")
    discard (keyword? "auto")
    discard (keyword "trait")
    discard name
    discard (Generics.parameters code size)
    if startsWith "=" (← get) then
      discard (symbol "=")
      boundsBefore code fun tokens => startsWord "where" tokens || startsWith ";" tokens
      discard (Generics.whereClause code size)
      discard (symbol ";")
    else
      boundsBehindColon code fun tokens => startsWord "where" tokens || startsGroup .brace tokens
      discard (Generics.whereClause code size)
      itemBlock fuel .inTrait

/-- Reads the implementation of a type, or of a trait for it. -/
def implementation : (fuel : Nat) → TokenParser Unit
  | 0 => failure
  | fuel + 1 => do
    let size := (← get).length + 1
    discard (keyword? "default")
    discard (keyword? "unsafe")
    discard (keyword "impl")
    if startsParameters (← get) then discard (Generics.parameters code size)
    let tokens ← get
    if startsWith "?" tokens && startsWord "const" (tokens.drop 1) then discard (symbol "?")
    discard (keyword? "const")
    let tokens ← get
    if startsWith "!" tokens && !startsGroup .brace (tokens.drop 1) then discard (symbol "!")
    discard (code.type true)
    if startsWord "for" (← get) then
      discard (keyword "for")
      discard (code.type true)
    discard (Generics.whereClause code size)
    itemBlock fuel .inImplementation

end

end ItemSyntax

end AttributeGrammar.Code
