/-!
# Tokens

* `Kind` — the kind of a token: literal text, the end of the input, or a regex terminal.
* `Token` — a piece of the input with its kind and its place in bytes.
* `ScanError` — why a token could not be delivered, or was not the one asked for.
-/

set_option autoImplicit false

namespace AttributeGrammar

/-- The kind of a token. -/
inductive Kind where
  | text
  | endOfInput
  | regex (name : String)
deriving DecidableEq, Repr, Inhabited

namespace Kind

/-- The kind of a name; literal text and the end of the input have fixed names. -/
def ofName (name : String) : Kind :=
  if name = "TEXT" then .text else if name = "END" then .endOfInput else .regex name

def name : Kind → String
  | .text => "TEXT"
  | .endOfInput => "END"
  | .regex name => name

end Kind

/-- A piece of the input. -/
structure Token where
  kind : Kind
  text : String
  /-- Where the token starts, in bytes. -/
  position : Nat
deriving DecidableEq, Repr, Inhabited

namespace Token

/-- Whether a token is a given literal. -/
def isText (token : Token) (text : String) : Bool := token.kind = .text && token.text = text

def isEnd (token : Token) : Bool := token.kind = .endOfInput

/-- A token as messages show it. -/
def render (token : Token) : String := if token.isEnd then "END" else token.text

end Token

/-- Why a token could not be delivered, or was not the one asked for. -/
inductive ScanError where
  /-- Nothing matches at a position; `near` is the text there. -/
  | unexpectedToken (position : Nat) (near : String)
  /-- A literal was asked for. -/
  | mismatch (found expected : String)
  /-- A regex terminal was asked for. -/
  | unexpectedKind (found expected : String)
  /-- The end of the input was asked for. -/
  | trailingInput (position : Nat)
  /-- A pattern of the scanner is no regular expression. -/
  | invalidRegex (pattern : String)
deriving DecidableEq, Repr

def ScanError.message : ScanError → String
  | .unexpectedToken position near => s!"unexpected token at position {position}: '{near}'"
  | .mismatch found expected => s!"found '{found}' but expected '{expected}'"
  | .unexpectedKind found expected => s!"unexpected token '{found}', expected {expected}"
  | .trailingInput position => s!"unexpected trailing input at position {position}"
  | .invalidRegex pattern => s!"invalid regex '{pattern}': "

end AttributeGrammar
