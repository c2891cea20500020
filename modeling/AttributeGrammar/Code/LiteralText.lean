import AttributeGrammar.Code.Literal
import AttributeGrammar.Text.Lines

/-!
# The text of string literals

* `escapedChar?` — the character that an escape stands for.
* `literalText?` — the text that a string literal stands for.
-/

set_option autoImplicit false

namespace AttributeGrammar.Code

/-- Reads the character that an escape stands for, behind its backslash. -/
def escapedChar? : List Char → Option (Char × List Char)
  | 'n' :: rest => some ('\n', rest)
  | 'r' :: rest => some ('\r', rest)
  | 't' :: rest => some ('\t', rest)
  | '0' :: rest => some ('\x00', rest)
  | 'x' :: high :: low :: rest => some (Char.ofNat (16 * hexValue high + hexValue low), rest)
  | 'u' :: '\x7b' :: rest => (codePoint? 0 0 rest).map fun (code, rest) => (Char.ofNat code, rest)
  | c :: rest => if c ∈ ['\\', '\'', '"'] then some (c, rest) else none
  | [] => none

/-- The text of a string up to its closing quote. A backslash at the end of a line also takes the blanks
behind it; any line end counts as a newline. -/
def cookedText? : (fuel : Nat) → List Char → Option (List Char)
  | 0, _ => none
  | _ + 1, [] => none
  | _ + 1, '"' :: _ => some []
  | fuel + 1, '\\' :: '\n' :: rest => cookedText? fuel (Text.trimStart rest)
  | fuel + 1, '\\' :: '\r' :: rest => cookedText? fuel (Text.trimStart rest)
  | fuel + 1, '\\' :: rest =>
    match escapedChar? rest with
    | some (c, rest) => (cookedText? fuel rest).map (c :: ·)
    | none => none
  | fuel + 1, '\r' :: '\n' :: rest => (cookedText? fuel rest).map ('\n' :: ·)
  | fuel + 1, c :: rest => (cookedText? fuel rest).map (c :: ·)

/-- The text between the quotes of a raw string. -/
def rawText (literal : List Char) : List Char :=
  (((literal.dropWhile (· ≠ '"')).drop 1).reverse.dropWhile (· ≠ '"')).tail.reverse

/-- The text that a literal stands for, if it is a string of characters. -/
def literalText? (literal : String) : Option String :=
  match literal.toList with
  | '"' :: rest => (cookedText? (rest.length + 1) rest).map String.ofList
  | 'r' :: rest => some (String.ofList (rawText rest))
  | _ => none

example : literalText? "\"a\\u\x7be9\x7d\\\n  b\"" = some "aéb" := by decide +kernel
example : literalText? "r#\"a\\\"b\"#" = some "a\\\"b" := by decide +kernel
example : literalText? "b\"a\"" = none := by decide +kernel

end AttributeGrammar.Code
