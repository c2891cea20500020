import AttributeGrammar.Text.CodeSet
import AttributeGrammar.Text.Unicode.Category
import AttributeGrammar.Text.Unicode.Property

/-!
# Regular expressions

* `Assertion` — a condition on a position of a text, given by the characters before and after it.
* `Regex` — a regular expression over sets of code points. Repetitions say which number of rounds they
  prefer, so that a search has one best match.
* `Regex.isAnchored` — whether every match starts at the start of the text.
-/

set_option autoImplicit false

namespace AttributeGrammar

/-- The characters of words: letters, marks, decimal digits, connectors and join controls. -/
def wordSet : CodeSet :=
  .unions ([Unicode.Property.alphabetic, Unicode.Property.joinControl] ++
    ["m", "nd", "pc"].filterMap Unicode.Category.find?)

/-- The characters of words in ASCII. -/
def asciiWordSet : CodeSet := ⟨[(0x30, 0x39), (0x41, 0x5A), (0x5F, 0x5F), (0x61, 0x7A)]⟩

/-- A condition on a position of a text. Those on words say which characters count as parts of words:
all of Unicode's or ASCII's. -/
inductive Assertion where
  | textStart
  | textEnd
  | lineStart
  | lineEnd
  /-- Line ends are a carriage return, a newline, or both. -/
  | anyLineStart
  | anyLineEnd
  | wordBoundary (unicode : Bool)
  | noWordBoundary (unicode : Bool)
  | wordStart (unicode : Bool)
  | wordEnd (unicode : Bool)
  | noWordBefore (unicode : Bool)
  | noWordAfter (unicode : Bool)
deriving DecidableEq, Repr

/-- Whether a character is a part of a word. -/
def isWordPart (unicode : Bool) : Option Char → Bool
  | none => false
  | some c =>
    if c.toNat < 0x80 || !unicode then asciiWordSet.contains c.toNat else wordSet.contains c.toNat

/-- Whether an assertion holds between two characters. -/
def Assertion.holds (before after : Option Char) : Assertion → Bool
  | .textStart => before.isNone
  | .textEnd => after.isNone
  | .lineStart => before.isNone || before = some '\n'
  | .lineEnd => after.isNone || after = some '\n'
  | .anyLineStart =>
    before.isNone || before = some '\n' || (before = some '\r' && after ≠ some '\n')
  | .anyLineEnd =>
    after.isNone || after = some '\r' || (after = some '\n' && before ≠ some '\r')
  | .wordBoundary u => isWordPart u before != isWordPart u after
  | .noWordBoundary u => isWordPart u before == isWordPart u after
  | .wordStart u => !isWordPart u before && isWordPart u after
  | .wordEnd u => isWordPart u before && !isWordPart u after
  | .noWordBefore u => !isWordPart u before
  | .noWordAfter u => !isWordPart u after

/-- A regular expression. -/
inductive Regex where
  | empty
  /-- One character of a set. -/
  | set (set : CodeSet)
  | assert (assertion : Assertion)
  | seq (first second : Regex)
  /-- Either of two, the first by preference. -/
  | alt (first second : Regex)
  /-- At least `least` rounds, at most `most` if there is a bound; as many as possible when greedy, as
  few as possible otherwise. -/
  | rounds (least : Nat) (most : Option Nat) (greedy : Bool) (body : Regex)
deriving DecidableEq, Repr, Inhabited

namespace Regex

/-- The sequence of some expressions. -/
def seqs : List Regex → Regex
  | [] => .empty
  | [r] => r
  | r :: rest => .seq r (seqs rest)

/-- The choice among some expressions, the earlier ones by preference. -/
def alts : List Regex → Regex
  | [] => .empty
  | [r] => r
  | r :: rest => .alt r (alts rest)

/-- Whether every match starts at the start of the text. -/
def isAnchored : Regex → Bool
  | .assert .textStart => true
  | .seq first second => first.isAnchored || (first == .empty && second.isAnchored)
  | .alt first second => first.isAnchored && second.isAnchored
  | .rounds least _ _ body => 0 < least && body.isAnchored
  | _ => false

end Regex

end AttributeGrammar
