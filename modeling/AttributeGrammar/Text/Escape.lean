import AttributeGrammar.Text.Unicode.Category
import AttributeGrammar.Text.Unicode.Property

/-!
# Escaped text

* `isPrintable` — whether a character can be shown as it is.
* `escapeChar` — a character as it is written between quotes: the usual short escapes, and the
  code point in hexadecimal for what cannot be shown or would join the character before it.
* `stringLiteral` — a string literal of emitted code. A single quote stays as it is, and NUL is
  written so that a digit after it does not become part of the escape.
* `quotedForm` — a text between double quotes as messages show it.
-/

set_option autoImplicit false

namespace AttributeGrammar.Text

/-- The characters that have no visible form of their own. -/
def unprintable : CodeSet :=
  .unions (["cc", "cf", "cs", "co", "cn", "zl", "zp", "zs"].filterMap Unicode.Category.find?)

def isPrintable (c : Char) : Bool :=
  if c.toNat < 0x7F then 0x20 ≤ c.toNat else !unprintable.contains c.toNat

def hexDigits (n : Nat) : List Char := Nat.toDigits 16 n

/-- The escape that names a character by its code point. -/
def codeEscape (c : Char) : List Char :=
  ['\\', 'u', '\x7b'] ++ hexDigits c.toNat ++ ['\x7d']

/-- A character as it is written between double quotes. -/
def escapeChar (c : Char) : List Char :=
  match c with
  | '\x00' => ['\\', '0']
  | '\t' => ['\\', 't']
  | '\r' => ['\\', 'r']
  | '\n' => ['\\', 'n']
  | '"' => ['\\', '"']
  | '\\' => ['\\', '\\']
  | _ =>
    if c.toNat < 0x80 && 0x20 ≤ c.toNat && c.toNat ≠ 0x7F then [c]
    else if Unicode.Property.graphemeExtend.contains c.toNat then codeEscape c
    else if isPrintable c then [c]
    else codeEscape c

/-- The text between the quotes of a string literal. -/
def literalBody : List Char → List Char
  | [] => []
  | c :: rest =>
    if c = '\x00' then
      match rest with
      | next :: _ =>
        (if '0' ≤ next && next ≤ '7' then ['\\', 'x', '0', '0'] else ['\\', '0']) ++ literalBody rest
      | [] => ['\\', '0']
    else escapeChar c ++ literalBody rest

/-- A text as a string literal of emitted code. -/
def stringLiteral (text : String) : String :=
  String.ofList ('"' :: literalBody text.toList ++ ['"'])

/-- A text between double quotes as messages show it. -/
def quotedForm (text : String) : String :=
  String.ofList ('"' :: text.toList.flatMap escapeChar ++ ['"'])

end AttributeGrammar.Text
