/-!
# Lines and blanks

* `isBlank` — white space, in all of Unicode.
* `trim` — a text without the blanks at its two ends.
* `lines` — a text cut at its newlines. A carriage return directly before a newline belongs to the
  line end, any other one to the line; a newline at the very end opens no further line.
* `cutAt` — a text cut at every occurrence of a character.
* `utf8Length` — the bytes that a text takes.
* `bytePrefix?` — the front of a text that takes a given number of bytes.
-/

set_option autoImplicit false

namespace AttributeGrammar.Text

/-- White space. -/
def isBlank (c : Char) : Bool :=
  let code := c.toNat
  (9 ≤ code && code ≤ 13) || code = 0x20 || code = 0x85 || code = 0xA0 || code = 0x1680 ||
    (0x2000 ≤ code && code ≤ 0x200A) || code = 0x2028 || code = 0x2029 || code = 0x202F ||
    code = 0x205F || code = 0x3000

def trimStart (text : List Char) : List Char := text.dropWhile isBlank

def trimEnd (text : List Char) : List Char := (text.reverse.dropWhile isBlank).reverse

/-- The text without the blanks at its two ends. -/
def trim (text : List Char) : List Char := trimEnd (trimStart text)

/-- The lines of a text, without their ends. -/
def lines : List Char → List (List Char)
  | [] => []
  | '\n' :: rest => [] :: lines rest
  | '\r' :: '\n' :: rest => [] :: lines rest
  | c :: rest =>
    match lines rest with
    | [] => [[c]]
    | line :: more => (c :: line) :: more

/-- The parts of a text between the occurrences of a character. -/
def cutAt (mark : Char) : List Char → List (List Char)
  | [] => [[]]
  | c :: rest =>
    if c = mark then [] :: cutAt mark rest
    else
      match cutAt mark rest with
      | part :: more => (c :: part) :: more
      | [] => [[c]]

/-- The number of bytes that a text takes. -/
def utf8Length : List Char → Nat
  | [] => 0
  | c :: rest => c.utf8Size + utf8Length rest

/-- The front of a text that takes a given number of bytes, unless these end inside a character or
are more than the text has. -/
def bytePrefix? : (bytes : Nat) → List Char → Option (List Char)
  | 0, _ => some []
  | _ + 1, [] => none
  | bytes + 1, c :: rest =>
    if c.utf8Size ≤ bytes + 1 then (bytePrefix? (bytes + 1 - c.utf8Size) rest).map (c :: ·) else none
termination_by structural _ text => text

example : lines ['a', '\r', '\n', '\r', 'b', '\r'] = [['a'], ['\r', 'b', '\r']] := rfl
example : lines ['\n', 'a', '\n'] = [[], ['a']] := rfl
example : bytePrefix? 3 ['é', 'a', 'b'] = some ['é', 'a'] := by decide
example : bytePrefix? 1 ['é', 'a', 'b'] = none := by decide

@[simp] theorem utf8Length_append (a b : List Char) :
    utf8Length (a ++ b) = utf8Length a + utf8Length b := by
  induction a with
  | nil => simp [utf8Length]
  | cons c rest ih =>
    simp only [List.cons_append, utf8Length, ih]
    omega

end AttributeGrammar.Text
