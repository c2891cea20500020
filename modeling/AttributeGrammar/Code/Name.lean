import AttributeGrammar.Code.Lexer

/-!
# Names in code

* `reservedWords` — the words that may not be names.
* `parseName?` — the identifier that a text is, if it is one. Blanks and comments around it and raw
  identifiers are accepted.
* `isPlainName` — whether a text is an identifier as it stands.
-/

set_option autoImplicit false

namespace AttributeGrammar.Code

/-- The words that may not be names. -/
def reservedWords : List String :=
  ["abstract", "as", "become", "box", "break", "const", "continue", "crate", "do", "else", "enum",
    "extern", "false", "final", "fn", "for", "if", "impl", "in", "let", "loop", "macro", "match",
    "mod", "move", "mut", "override", "priv", "pub", "ref", "return", "Self", "self", "static",
    "struct", "super", "trait", "true", "type", "typeof", "unsafe", "unsized", "use", "virtual",
    "where", "while", "yield"]

/-- Whether an identifier token may be a name. -/
def isName (name : String) : Bool := name ≠ "_" && name ∉ reservedWords

/-- The identifier that a text is. -/
def parseName? (text : String) : Option String :=
  match lexCode? text with
  | some [.ident name] => if isName name then some name else none
  | _ => none

/-- Whether a text is an identifier as it stands. -/
def isPlainName (text : String) : Bool :=
  match text.toList with
  | c :: rest => Text.isIdentStart c && rest.all Text.isIdentContinue
  | [] => false

example : parseName? " x " = some "x" := by decide +kernel
example : parseName? "type" = none := by decide +kernel

end AttributeGrammar.Code
