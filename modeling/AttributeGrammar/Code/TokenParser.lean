import AttributeGrammar.Code.Name

/-!
# Parsing token trees

A parser takes tokens off the front of a list and yields the tokens that it read, in the form in
which they are printed: operators are joint inside and have a blank behind them.

* `TokenParser` — a parser of tokens.
* `symbol`, `keyword`, `name`, `lifetime`, `literal`, `group` — read one element; with a question mark
  they read it if it comes next.
* `TokenParser.all` — runs a parser on a list that it must use up.
-/

set_option autoImplicit false

namespace AttributeGrammar.Code

/-- Takes tokens off the front of a list, or fails. -/
abbrev TokenParser := StateT TokenList Option

/-- Drops an operator from the front of some tokens; all its characters but the last are joint. -/
def dropOperator? : List Char → TokenList → Option TokenList
  | [], tokens => some tokens
  | [c], .punct d _ :: tokens => if c = d then some tokens else none
  | c :: rest, .punct d joint :: tokens =>
    if c = d && joint then dropOperator? rest tokens else none
  | _, _ => none

/-- Whether an operator is at the front of some tokens. -/
def startsWith (text : String) (tokens : TokenList) : Bool := (dropOperator? text.toList tokens).isSome

/-- Whether an identifier that may be a name is at the front of some tokens. -/
def startsName : TokenList → Bool
  | .ident name :: _ => isName name
  | _ => false

/-- Whether a given word is at the front of some tokens. -/
def startsWord (text : String) : TokenList → Bool
  | .ident name :: _ => name = text
  | _ => false

/-- Whether a lifetime is at the front of some tokens. -/
def startsLifetime : TokenList → Bool
  | .punct '\'' _ :: .ident _ :: _ => true
  | _ => false

/-- Whether a group is at the front of some tokens. -/
def startsGroup (delimiter : Delimiter) : TokenList → Bool
  | .group opened _ :: _ => opened = delimiter
  | _ => false

namespace TokenParser

/-- Runs a parser on tokens that it must use up. -/
def all {α : Type} (parser : TokenParser α) (tokens : TokenList) : Option α :=
  match parser tokens with
  | some (a, []) => some a
  | _ => none

/-- Runs a parser on the content of a group, which it must use up. -/
def inside {α : Type} (parser : TokenParser α) (content : TokenList) : TokenParser α := fun tokens =>
  (parser.all content).map fun a => (a, tokens)

/-- Yields the tokens that were read since the given ones came next, as they were written. -/
def since (start : TokenList) : TokenParser TokenList := fun tokens =>
  some (start.take (start.length - tokens.length), tokens)

/-- Yields the tokens that a parser reads as they were written. -/
def verbatim {α : Type} (parser : TokenParser α) : TokenParser TokenList := do
  let start ← get
  discard parser
  since start

/-- Reads an operator. -/
def symbol (text : String) : TokenParser TokenList := fun tokens =>
  (dropOperator? text.toList tokens).map fun rest => (Code.operator text.toList, rest)

/-- Reads a given word. -/
def keyword (text : String) : TokenParser TokenList := fun tokens =>
  match tokens with
  | .ident name :: rest => if name = text then some ([.ident name], rest) else none
  | _ => none

/-- Reads an identifier that may be a name. -/
def name : TokenParser TokenList := fun tokens =>
  match tokens with
  | .ident name :: rest => if isName name then some ([.ident name], rest) else none
  | _ => none

/-- Reads any identifier. -/
def anyWord : TokenParser TokenList := fun tokens =>
  match tokens with
  | .ident name :: rest => some ([.ident name], rest)
  | _ => none

def lifetime : TokenParser TokenList := fun tokens =>
  match tokens with
  | .punct '\'' _ :: .ident name :: rest => some ([.punct '\'' true, .ident name], rest)
  | _ => none

/-- Reads a group and yields its content. -/
def group (delimiter : Delimiter) : TokenParser TokenList := fun tokens =>
  match tokens with
  | .group opened content :: rest => if opened = delimiter then some (content, rest) else none
  | _ => none

/-- Reads an operator, if it comes next. -/
def symbol? (text : String) : TokenParser TokenList := fun tokens =>
  ((symbol text) tokens).getD ([], tokens)

/-- Reads a word, if it comes next. -/
def keyword? (text : String) : TokenParser TokenList := fun tokens =>
  ((keyword text) tokens).getD ([], tokens)

/-- Reads a lifetime, if one comes next. -/
def lifetime? : TokenParser TokenList := fun tokens => (lifetime tokens).getD ([], tokens)

/-- Reads a string literal, if one comes next. -/
def text? : TokenParser TokenList := fun tokens =>
  match tokens with
  | .literal text :: rest =>
    if text.toList.head?.any (· ∈ ['"', 'r']) then some ([.literal text], rest) else some ([], tokens)
  | _ => some ([], tokens)

/-- Reads a literal: a literal token, a truth value, or a number with a minus sign. -/
def literal : TokenParser TokenList := fun tokens =>
  match tokens with
  | .literal text :: rest => some ([.literal text], rest)
  | .ident "true" :: rest => some ([.ident "true"], rest)
  | .ident "false" :: rest => some ([.ident "false"], rest)
  | .punct '-' _ :: .literal text :: rest =>
    match text.toList with
    | c :: _ => if Text.isAsciiDigit c then some ([.literal ("-" ++ text)], rest) else none
    | [] => none
  | _ => none

/-- Whether a literal is at the front of some tokens. -/
def startsLiteral (tokens : TokenList) : Bool := (literal tokens).isSome

/-- Reads elements with a separator between them until the tokens are used up. A separator may stand
at the end. -/
def separated (element : TokenParser TokenList) (separator : String) :
    (fuel : Nat) → TokenParser TokenList
  | 0 => failure
  | fuel + 1 => do
    if (← get).isEmpty then return []
    let first ← element
    if (← get).isEmpty then return first
    let mark ← symbol separator
    return first ++ mark ++ (← separated element separator fuel)

end TokenParser

mutual

/-- The number of tokens in a token tree. -/
def TokenTree.weight : TokenTree → Nat
  | .group _ content => 1 + TokenTree.weights content
  | _ => 1

/-- The number of tokens in a list, groups with their content. -/
def TokenTree.weights : List TokenTree → Nat
  | [] => 0
  | token :: rest => token.weight + TokenTree.weights rest

end

/-- The fuel that suffices to read some tokens: no reader calls more others than this for one token. -/
def fuelFor (tokens : TokenList) : Nat := 8 * (TokenTree.weights tokens + 1)

end AttributeGrammar.Code
