import AttributeGrammar.Text.Lines

/-!
# Flags of regular expressions

* `Flags` — the switches that a pattern can set for the rest of a group.
* `Flags.parse?` — reads switches such as `i-x` up to the character that ends them.
* `skipBlanks` — in verbose patterns, drops blanks and comments.
-/

set_option autoImplicit false

namespace AttributeGrammar.Pattern

/-- The switches of a pattern. -/
structure Flags where
  caseless : Bool
  multiLine : Bool
  dotAll : Bool
  swapGreed : Bool
  unicode : Bool
  crlf : Bool
  verbose : Bool
deriving DecidableEq, Repr

/-- The switches at the start of a pattern. -/
def Flags.initial : Flags := ⟨false, false, false, false, true, false, false⟩

/-- Sets the switch of a letter. -/
def Flags.set? (flags : Flags) (letter : Char) (value : Bool) : Option Flags :=
  match letter with
  | 'i' => some { flags with caseless := value }
  | 'm' => some { flags with multiLine := value }
  | 's' => some { flags with dotAll := value }
  | 'U' => some { flags with swapGreed := value }
  | 'u' => some { flags with unicode := value }
  | 'R' => some { flags with crlf := value }
  | 'x' => some { flags with verbose := value }
  | _ => none

/-- What ends a list of switches: the group they hold for, or the directive they are. -/
inductive FlagsEnd where
  | group
  /-- The directive's switches hold for what follows; `empty` tells that there are none. -/
  | directive (empty : Bool)
deriving DecidableEq, Repr

/-- Reads switches. No letter and no minus sign may occur twice, and a switch follows the minus sign.
`seen` holds the characters before. -/
def Flags.parse? (flags : Flags) (seen : List Char) :
    List Char → Option (Flags × FlagsEnd × List Char)
  | [] => none
  | c :: rest =>
    if c = ':' || c = ')' then
      if seen.head? = some '-' then none
      else some (flags, if c = ':' then .group else .directive seen.isEmpty, rest)
    else if c ∈ seen then none
    else if c = '-' then flags.parse? (c :: seen) rest
    else
      match flags.set? c ('-' ∉ seen) with
      | some flags => flags.parse? (c :: seen) rest
      | none => none

/-- Drops blanks and the comments that run from a number sign to the end of the line. -/
def dropBlanks (inComment : Bool) : List Char → List Char
  | [] => []
  | c :: rest =>
    if inComment then dropBlanks (c ≠ '\n') rest
    else if Text.isBlank c then dropBlanks false rest
    else if c = '#' then dropBlanks true rest
    else c :: rest

/-- In verbose patterns, drops blanks and comments. -/
def skipBlanks (flags : Flags) (text : List Char) : List Char :=
  if flags.verbose then dropBlanks false text else text

end AttributeGrammar.Pattern
