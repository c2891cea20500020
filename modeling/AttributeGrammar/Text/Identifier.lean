import AttributeGrammar.Text.Unicode.Property

/-!
# Characters of identifiers

* `isIdentStart`, `isIdentContinue` — the characters that may start and continue a name in emitted
  code: the underscore and the Unicode identifier classes.
-/

set_option autoImplicit false

namespace AttributeGrammar.Text

def isAsciiLower (c : Char) : Bool := 'a' ≤ c && c ≤ 'z'

def isAsciiUpper (c : Char) : Bool := 'A' ≤ c && c ≤ 'Z'

def isAsciiLetter (c : Char) : Bool := isAsciiLower c || isAsciiUpper c

def isAsciiDigit (c : Char) : Bool := '0' ≤ c && c ≤ '9'

/-- Whether a character may start an identifier. -/
def isIdentStart (c : Char) : Bool :=
  if c.toNat < 0x80 then isAsciiLetter c || c = '_'
  else Unicode.Property.identifierStart.contains c.toNat

/-- Whether a character may stand in an identifier after its start. -/
def isIdentContinue (c : Char) : Bool :=
  if c.toNat < 0x80 then isAsciiLetter c || isAsciiDigit c || c = '_'
  else Unicode.Property.identifierContinue.contains c.toNat

end AttributeGrammar.Text
