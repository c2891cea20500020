import AttributeGrammar.Code.ItemSyntax

/-!
# Expressions in code

The lengths of arrays and the constants among generic arguments are expressions, and a block of an
expression holds statements. Precedence does not decide what is an expression, nor how it is printed:
after an operand any operator may come.

* `ExpressionSyntax.expression` — reads an expression.
* `ExpressionSyntax.block` — reads a block of statements.
-/

set_option autoImplicit false

namespace AttributeGrammar.Code

namespace ExpressionSyntax

open TokenParser PathSyntax

/-- The operators between two operands in the order in which they are looked for, those of several
characters first, and whether they bind more tightly than the lazy ones. -/
def operators : List (String × Bool) :=
  ["+=", "-=", "*=", "/=", "%=", "^=", "&=", "|=", "<<=", ">>=", "&&", "||"].map (·, false) ++
    ["<<", ">>", "==", "<=", "!=", ">=", "+", "-", "*", "/", "%", "^", "&", "|", "<", ">"].map (·, true)

/-- Whether a single dot is at the front of some tokens. -/
def startsDot (tokens : TokenList) : Bool := startsWith "." tokens && !startsWith ".." tokens

/-- Whether a value ends before it started, where it may be left out. -/
def endsValue (tokens : TokenList) : Bool :=
  tokens.isEmpty || startsWith "," tokens || startsWith ";" tokens

/-- Whether a brace is at the front of some tokens that does not belong to the expression. With
`structs` an expression may be a structure. -/
def endsBeforeBrace (structs : Bool) (tokens : TokenList) : Bool := !structs && startsGroup .brace tokens

/-- Whether a range ends without an upper bound. -/
def endsRange (structs : Bool) (tokens : TokenList) : Bool :=
  endsValue tokens || startsDot tokens || endsBeforeBrace structs tokens

/-- Whether something follows a cast that may not. -/
def forbidsCast (tokens : TokenList) : Bool :=
  startsDot tokens || startsWith "?" tokens || startsGroup .bracket tokens || startsGroup .paren tokens

/-- Whether a reference without a type is at the front of some tokens, behind its sign. -/
def startsRaw : TokenList → Bool
  | .ident "raw" :: .ident word :: _ => word = "mut" || word = "const"
  | _ => false

/-- Whether a `for` is at the front of some tokens that binds lifetimes. -/
def startsBinder : TokenList → Bool
  | .ident "for" :: .punct '<' _ :: rest => startsLifetime rest || startsWith ">" rest
  | _ => false

/-- Whether an expression that ends with a block is at the front of some tokens, as a statement. -/
def startsConstruct (tokens : TokenList) : Bool :=
  startsGroup .brace tokens ||
    match tokens with
    | .ident word :: rest =>
      word ∈ ["if", "while", "loop", "match", "unsafe"] || (word = "for" && !startsBinder tokens) ||
        (word ∈ ["try", "const"] && startsGroup .brace rest)
    | _ => false

/-- Whether an asynchronous block is at the front of some tokens. -/
def startsAsyncBlock : TokenList → Bool
  | .ident "async" :: .ident "move" :: rest => startsGroup .brace rest
  | .ident "async" :: rest => startsGroup .brace rest
  | _ => false

/-- Whether a closure is at the front of some tokens. -/
def startsClosure : TokenList → Bool
  | .ident "async" :: rest => startsWith "|" rest || startsWord "move" rest
  | .ident word :: _ => word = "static" || word = "move"
  | tokens => startsWith "|" tokens

/-- Whether a macro with a block, or with a name, is called at the front of some tokens. It is a
statement by itself. -/
def startsMacroStatement (tokens : TokenList) : Bool :=
  match attributePath tokens with
  | some (_, .punct '!' _ :: .group .brace _ :: rest) => !(startsWith "." rest || startsWith "?" rest)
  | some (_, .punct '!' _ :: .ident name :: _) => isName name
  | _ => false

variable (types : TypeParsers)

/-- Reads the arguments of a method between brackets, in their order. -/
def methodArguments (argument : TokenParser TokenList) : (fuel : Nat) → TokenParser TokenList
  | 0 => failure
  | fuel + 1 => do
    if startsWith ">" (← get) then return []
    let first ← argument
    if startsWith ">" (← get) then return first
    let comma ← symbol ","
    return first ++ comma ++ (← methodArguments argument fuel)

/-- Reads numbers of fields that are joined to a fraction. -/
def memberNumbers : List (List Char) → TokenParser TokenList
  | [] => return []
  | [digits] => (index? digits : Option TokenList)
  | digits :: more => do
    let first ← (index? digits : Option TokenList)
    return first ++ Code.operator ['.'] ++ (← memberNumbers more)

mutual

/-- Reads an expression. With `structs` it may be a structure; without it a brace ends it. -/
def expression : (fuel : Nat) → (structs : Bool) → TokenParser TokenList
  | 0, _ => failure
  | fuel + 1, structs => do
    let (first, _) ← operand fuel structs
    return first ++ (← tail fuel structs false)

/-- Reads what follows an operand: casts, ranges, and operators with the next operand. With `tight`
the operators bind more tightly than the lazy ones. -/
def tail : (fuel : Nat) → (structs tight : Bool) → TokenParser TokenList
  | 0, _, _ => failure
  | fuel + 1, structs, tight => do
    let tokens ← get
    match operators.find? fun (text, _) => startsWith text tokens with
    | some (text, binds) =>
      if tight && !binds then return []
      let mark ← symbol text
      let (next, _) ← operand fuel structs
      return mark ++ next ++ (← tail fuel structs tight)
    | none =>
      if !tight && startsWith "=" tokens && !startsWith "=>" tokens then
        let mark ← symbol "="
        let (next, _) ← operand fuel structs
        return mark ++ next ++ (← tail fuel structs tight)
      else if !tight && startsWith ".." tokens then
        let dots ← rangeDots
        if endsRange structs (← get) then return dots ++ (← tail fuel structs tight)
        let (next, _) ← operand fuel structs
        return dots ++ next ++ (← tail fuel structs tight)
      else if startsWord "as" tokens || (startsWith ":" tokens && !startsWith "::" tokens) then
        let mark ← if startsWord "as" tokens then keyword "as" else symbol ":"
        let target ← types.type false
        if forbidsCast (← get) then failure
        return mark ++ target ++ (← tail fuel structs tight)
      else return []

/-- Reads an operand with the signs in front of it and the calls behind it; yields whether it ends with
a block, so that a statement may follow. -/
def operand : (fuel : Nat) → (structs : Bool) → TokenParser (TokenList × Bool)
  | 0, _ => failure
  | fuel + 1, structs => do
    let start ← get
    let marks ← outerAttributes
    let tokens ← get
    if startsWith "&" tokens then
      let sign ← symbol "&"
      if startsRaw (← get) then
        discard anyWord
        discard anyWord
        discard (operand fuel structs)
        return (← since start, false)
      let mutable ← keyword? "mut"
      let (next, _) ← operand fuel structs
      return (marks ++ sign ++ mutable ++ next, false)
    else if startsWord "box" tokens then
      let mark ← keyword "box"
      let (next, _) ← operand fuel structs
      return (marks ++ mark ++ next, false)
    else if startsWith ".." tokens then
      let dots ← rangeDots
      if endsRange structs (← get) then return (marks ++ dots, false)
      return (marks ++ dots ++ (← expression fuel structs), false)
    else
      match ["*", "!", "-"].find? (startsWith · tokens) with
      | some text =>
        let sign ← symbol text
        let (next, _) ← operand fuel structs
        return (marks ++ sign ++ next, false)
      | none =>
        let (first, isBlock) ← atom fuel structs
        let calls ← calls fuel
        return (marks ++ first ++ calls, isBlock && calls.isEmpty)

/-- Reads an operand without what stands around it; yields whether it ends with a block. -/
def atom : (fuel : Nat) → (structs : Bool) → TokenParser (TokenList × Bool)
  | 0, _ => failure
  | fuel + 1, structs => do
    let tokens ← get
    if startsLiteral tokens then return (← literal, false)
    else if startsAsyncBlock tokens then
      let mark ← keyword "async"
      let capture ← keyword? "move"
      return (mark ++ capture ++ (← block fuel false), true)
    else if startsClosure tokens then return (← closure fuel structs, false)
    else if startsBinder tokens then
      discard (boundLifetimes fuel)
      discard (closure fuel structs)
      return (← since tokens, false)
    else if startsConstruct tokens then return (← construct fuel, !startsWord "const" tokens)
    else if startsPath tokens then return (← pathOperand fuel structs, false)
    else if startsLifetime tokens then
      let label ← lifetime
      let colon ← symbol ":"
      let behind ← get
      if startsGroup .brace behind || ["while", "for", "loop"].any fun w => startsWord w behind then
        return (label ++ colon ++ (← construct fuel), true)
      else failure
    else
      match tokens with
      | .group .paren content :: rest =>
        set rest
        return (paren (← expressions fuel content), false)
      | .group .bracket content :: rest =>
        set rest
        return (bracket (← TokenParser.inside (elements fuel) content), false)
      | .ident "_" :: _ => return (← keyword "_", false)
      | .ident _ :: _ => return (← jump fuel structs, false)
      | _ => failure

/-- Reads a jump, with its value if it has one, or a binding in a condition. -/
def jump : (fuel : Nat) → (structs : Bool) → TokenParser TokenList
  | 0, _ => failure
  | fuel + 1, structs => do
    let tokens ← get
    if startsWord "break" tokens then
      let mark ← keyword "break"
      let label ← lifetime?
      let behind ← get
      if endsValue behind || endsBeforeBrace structs behind then return mark ++ label
      return mark ++ label ++ (← expression fuel structs)
    else if startsWord "continue" tokens then
      let mark ← keyword "continue"
      return mark ++ (← lifetime?)
    else if startsWord "return" tokens then
      let mark ← keyword "return"
      if endsValue (← get) then return mark
      return mark ++ (← expression fuel structs)
    else if startsWord "yield" tokens then
      let mark ← keyword "yield"
      if endsValue (← get) then return mark
      return mark ++ (← expression fuel true)
    else
      let mark ← keyword "let"
      let pattern ← pattern fuel
      let sign ← symbol "="
      let (first, _) ← operand fuel false
      return mark ++ pattern ++ sign ++ first ++ (← tail fuel false true)

/-- Reads patterns with bars between them. -/
def pattern : (fuel : Nat) → TokenParser TokenList
  | 0 => failure
  | fuel + 1 => do
    let tokens ← get
    PatternSyntax.choice types (construct fuel) (fuelFor tokens)

/-- Reads expressions with commas between them that use up the content of a group. -/
def expressions : (fuel : Nat) → (content : TokenList) → TokenParser TokenList
  | 0, _ => failure
  | fuel + 1, content =>
    TokenParser.inside (separated (expression fuel true) "," (content.length + 1)) content

/-- Reads what brackets hold: some elements, or one of them and how often it is repeated. -/
def elements : (fuel : Nat) → TokenParser TokenList
  | 0 => failure
  | fuel + 1 => do
    if (← get).isEmpty then return []
    let first ← expression fuel true
    if (← get).isEmpty then return first
    if startsWith ";" (← get) then
      let mark ← symbol ";"
      return first ++ mark ++ (← expression fuel true)
    let comma ← symbol ","
    return first ++ comma ++ (← separated (expression fuel true) "," ((← get).length + 1))

/-- Reads a path, a macro call or a structure. -/
def pathOperand : (fuel : Nat) → (structs : Bool) → TokenParser TokenList
  | 0, _ => failure
  | fuel + 1, structs => do
    let start ← get
    let path ← operandPath types
    let tokens ← get
    if startsMacro path tokens then return path ++ (← macroGroup)
    match structs, tokens with
    | true, .group .brace content :: rest =>
      set rest
      let fields ← TokenParser.inside (fields fuel) content
      if startsWith "<" start then since start else return path ++ brace fields
    | _, _ => return path

/-- Reads the fields of a structure. Behind two dots the expression may stand that gives the others. -/
def fields : (fuel : Nat) → TokenParser TokenList
  | 0 => failure
  | fuel + 1 => do
    let tokens ← get
    if tokens.isEmpty then return []
    if startsWith ".." tokens then
      let dots ← symbol ".."
      if (← get).isEmpty then return dots
      return dots ++ (← expression fuel true)
    let marks ← outerAttributes
    let (name, isName) ← member
    let value ← if startsWith ":" (← get) || !isName then
        let colon ← symbol ":"
        pure (colon ++ (← expression fuel true))
      else pure []
    if (← get).isEmpty then return marks ++ name ++ value
    let comma ← symbol ","
    return marks ++ name ++ value ++ comma ++ (← fields fuel)

/-- Reads a closure. A block must stand behind the type of its result. -/
def closure : (fuel : Nat) → (structs : Bool) → TokenParser TokenList
  | 0, _ => failure
  | fuel + 1, structs => do
    let front := (← keyword? "static") ++ (← keyword? "async") ++ (← keyword? "move")
    let opening ← symbol "|"
    let parameters ← parameters fuel
    let closing ← symbol "|"
    let head := front ++ opening ++ parameters ++ closing
    if startsWith "->" (← get) then
      let arrow ← symbol "->"
      let result ← types.type true
      return head ++ arrow ++ result ++ (← block fuel false)
    return head ++ (← expression fuel structs)

/-- Reads the parameters of a closure up to the bar behind them. -/
def parameters : (fuel : Nat) → TokenParser TokenList
  | 0 => failure
  | fuel + 1 => do
    if startsWith "|" (← get) then return []
    let marks ← outerAttributes
    let pattern ← singlePattern fuel
    let type ← if startsWith ":" (← get) then
        let colon ← symbol ":"
        pure (colon ++ (← types.type true))
      else pure []
    if startsWith "|" (← get) then return marks ++ pattern ++ type
    let comma ← symbol ","
    return marks ++ pattern ++ type ++ comma ++ (← parameters fuel)

/-- Reads a pattern that is no choice. -/
def singlePattern : (fuel : Nat) → TokenParser TokenList
  | 0 => failure
  | fuel + 1 => do
    let tokens ← get
    PatternSyntax.pattern types (construct fuel) (fuelFor tokens)

/-- Reads the calls, indices and fields behind an operand, and the marks that pass an error on. -/
def calls : (fuel : Nat) → TokenParser TokenList
  | 0 => failure
  | fuel + 1 => do
    let tokens ← get
    if startsDot tokens then
      let dot ← symbol "."
      return dot ++ (← selection fuel) ++ (← calls fuel)
    else if startsWith "?" tokens then
      let mark ← symbol "?"
      return mark ++ (← calls fuel)
    else
      match tokens with
      | .group .paren content :: rest =>
        set rest
        let inner ← expressions fuel content
        return paren inner ++ (← calls fuel)
      | .group .bracket content :: rest =>
        set rest
        let inner ← TokenParser.inside (expression fuel true) content
        return bracket inner ++ (← calls fuel)
      | _ => return []

/-- Reads what follows a dot. Numbers of fields may be joined to a fraction. -/
def selection : (fuel : Nat) → TokenParser TokenList
  | 0 => failure
  | fuel + 1 => do
    match ← get with
    | .ident "await" :: rest =>
      set rest
      return [.ident "await"]
    | .literal text :: rest =>
      set rest
      match (Text.cutAt '.' text.toList).reverse with
      | [] :: front =>
        let numbers ← memberNumbers front.reverse
        return numbers ++ Code.operator ['.'] ++ (← method fuel)
      | numbers => memberNumbers numbers.reverse
    | _ => method fuel

/-- Reads a field or the name of a method, with generic arguments if they stand behind it. -/
def method : (fuel : Nat) → TokenParser TokenList
  | 0 => failure
  | fuel + 1 => do
    let (name, isName) ← member
    if isName && startsWith "::" (← get) then
      let colons ← symbol "::"
      let opening ← symbol "<"
      let arguments ← methodArguments (methodArgument fuel) ((← get).length + 1)
      let closing ← symbol ">"
      if !startsGroup .paren (← get) then failure
      return name ++ colons ++ opening ++ arguments ++ closing
    return name

/-- Reads a generic argument of a method: a constant or a type. -/
def methodArgument : (fuel : Nat) → TokenParser TokenList
  | 0 => failure
  | fuel + 1 => do
    let tokens ← get
    if startsLiteral tokens then literal
    else if startsGroup .brace tokens then block fuel true
    else types.type true

/-- Reads a conditional, a loop, a match or a block with a word in front of it. -/
def construct : (fuel : Nat) → TokenParser TokenList
  | 0 => failure
  | fuel + 1 => do
    let tokens ← get
    if startsWord "if" tokens then
      let mark ← keyword "if"
      let condition ← expression fuel false
      let branch ← block fuel false
      return mark ++ condition ++ branch ++ (← otherwise fuel)
    else if startsWord "while" tokens then
      let mark ← keyword "while"
      let condition ← expression fuel false
      return mark ++ condition ++ (← block fuel true)
    else if startsWord "for" tokens then
      let mark ← keyword "for"
      let pattern ← pattern fuel
      let link ← keyword "in"
      let source ← expression fuel false
      return mark ++ pattern ++ link ++ source ++ (← block fuel true)
    else if startsWord "match" tokens then
      let mark ← keyword "match"
      let value ← expression fuel false
      let content ← group .brace
      let arms ← TokenParser.inside (do
        let marks ← innerAttributes (content.length + 1)
        return marks ++ (← arms fuel)) content
      return mark ++ value ++ brace arms
    else if startsWord "const" tokens then
      discard (keyword "const")
      discard (block fuel true)
      since tokens
    else if startsWord "try" tokens then
      let mark ← keyword "try"
      return mark ++ (← block fuel false)
    else if startsWord "loop" tokens || startsWord "unsafe" tokens then
      let mark ← anyWord
      return mark ++ (← block fuel true)
    else block fuel true

/-- Reads what is done if a condition does not hold. -/
def otherwise : (fuel : Nat) → TokenParser TokenList
  | 0 => failure
  | fuel + 1 => do
    if !startsWord "else" (← get) then return []
    let mark ← keyword "else"
    if startsWord "if" (← get) then return mark ++ (← construct fuel)
    return mark ++ (← block fuel false)

/-- Reads the arms of a match. Only behind a block the comma may be missing. -/
def arms : (fuel : Nat) → TokenParser TokenList
  | 0 => failure
  | fuel + 1 => do
    if (← get).isEmpty then return []
    let marks ← outerAttributes
    let pattern ← pattern fuel
    let guard ← if startsWord "if" (← get) then
        let mark ← keyword "if"
        pure (mark ++ (← expression fuel true))
      else pure []
    let arrow ← symbol "=>"
    let (body, isBlock) ← leading fuel
    let comma ← if isBlock || (← get).isEmpty then symbol? "," else symbol ","
    return marks ++ pattern ++ guard ++ arrow ++ body ++ comma ++ (← arms fuel)

/-- Reads an expression at the start of a statement: behind a construct that ends with a block only a
dot or a question mark goes on. Yields whether it ends with a block. -/
def leading : (fuel : Nat) → TokenParser (TokenList × Bool)
  | 0 => failure
  | fuel + 1 => do
    let marks ← outerAttributes
    let tokens ← get
    if startsConstruct tokens then
      let construct ← construct fuel
      if startsDot (← get) || startsWith "?" (← get) then
        let calls ← calls fuel
        return (marks ++ construct ++ calls ++ (← tail fuel true false), false)
      return (marks ++ construct, !startsWord "const" tokens)
    let (first, isBlock) ← operand fuel true
    let more ← tail fuel true false
    return (marks ++ first ++ more, isBlock && more.isEmpty)

/-- Reads a block. With `marked` attributes may stand at its start. -/
def block : (fuel : Nat) → (marked : Bool) → TokenParser TokenList
  | 0, _ => failure
  | fuel + 1, marked => do
    let content ← group .brace
    return brace (← TokenParser.inside (do
      let marks ← if marked then innerAttributes (content.length + 1) else pure []
      return marks ++ (← statements fuel)) content)

/-- Reads statements up to the end of a block. -/
def statements : (fuel : Nat) → TokenParser TokenList
  | 0 => failure
  | fuel + 1 => do
    if (← get).isEmpty then return []
    if startsWith ";" (← get) then
      let mark ← symbol ";"
      return mark ++ (← statements fuel)
    let (first, isComplete) ← statement fuel
    if (← get).isEmpty then return first
    if !isComplete then failure
    return first ++ (← statements fuel)

/-- Reads a statement; yields whether another one may follow. -/
def statement : (fuel : Nat) → TokenParser (TokenList × Bool)
  | 0 => failure
  | fuel + 1 => do
    let start ← get
    let marks ← outerAttributes
    let tokens ← get
    if startsMacroStatement tokens then
      let path ← attributePath
      let mark ← symbol "!"
      let name ← if startsName (← get) then name else pure []
      match ← get with
      | .group delimiter content :: rest =>
        set rest
        return (marks ++ path ++ mark ++ name ++ [.group delimiter content] ++ (← symbol? ";"), true)
      | _ => failure
    else if startsWord "let" tokens then
      let binding ← declaration fuel
      if startsWord "else" (← get) then
        discard (keyword "else")
        discard (block fuel false)
        let written ← since start
        return (written ++ (← symbol ";"), true)
      return (marks ++ binding ++ (← symbol ";"), true)
    else if ItemSyntax.startsItem tokens then
      let code : CodeParsers :=
        { types with expression := expression fuel true, block := block fuel true, pattern := pattern fuel }
      ItemSyntax.item code (fuelFor tokens) .free
      return (← since start, true)
    else
      let (value, isBlock) ← leading fuel
      if startsWith ";" (← get) then return (marks ++ value ++ (← symbol ";"), true)
      return (marks ++ value, isBlock)

/-- Reads the declaration of a variable with its type and its value, if they are given. -/
def declaration : (fuel : Nat) → TokenParser TokenList
  | 0 => failure
  | fuel + 1 => do
    let mark ← keyword "let"
    let pattern ← pattern fuel
    let type ← if startsWith ":" (← get) then
        let colon ← symbol ":"
        pure (colon ++ (← types.type true))
      else pure []
    if startsWith "=" (← get) then
      let sign ← symbol "="
      return mark ++ pattern ++ type ++ sign ++ (← expression fuel true)
    return mark ++ pattern ++ type

end

end ExpressionSyntax

end AttributeGrammar.Code
