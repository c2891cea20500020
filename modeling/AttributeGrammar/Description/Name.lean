import AttributeGrammar.Description.Reader
import AttributeGrammar.Text.Identifier

/-!
# Names

* `identifier` — a name of ASCII letters, digits and underscores that starts with no digit.
* `isRuleName`, `isRegexName` — the two classes of names, told apart by case. A name that mixes the
  cases, or starts with an underscore, is in neither.
* `name`, `ruleName`, `regexName` — readers of names of these classes.
-/

set_option autoImplicit false

namespace AttributeGrammar.Description

open Text Reader

/-- A name, classified by its case. -/
inductive Name where
  | rule (name : String)
  | regex (name : String)
deriving DecidableEq, Repr

/-- Whether a character may start a name. -/
def isNameStart (c : Char) : Bool := isAsciiLetter c || c = '_'

/-- Whether a character may stand in a name after its start. -/
def isNamePart (c : Char) : Bool := isAsciiLetter c || isAsciiDigit c || c = '_'

def identifier : Reader String := fun text =>
  match text with
  | c :: rest =>
    if isNameStart c then
      .done (String.ofList (c :: rest.takeWhile isNamePart)) (rest.dropWhile isNamePart)
    else .reject .word text
  | [] => .reject .word text

/-- Whether a text starts in a class and consists of the class, digits and underscores. -/
def isCased (inCase : Char → Bool) (name : String) : Bool :=
  match name.toList with
  | c :: rest => inCase c && rest.all fun d => inCase d || isAsciiDigit d || d = '_'
  | [] => false

def isRuleName (name : String) : Bool := isCased isAsciiLower name

def isRegexName (name : String) : Bool := isCased isAsciiUpper name

/-- The class of a name. -/
def Name.classify (name : String) : Option Name :=
  if isRuleName name then some (.rule name)
  else if isRegexName name then some (.regex name)
  else none

def name : Reader Name := accept identifier Name.classify

def ruleName : Reader String :=
  accept name fun
    | .rule name => some name
    | .regex _ => none

def regexName : Reader String :=
  accept name fun
    | .regex name => some name
    | .rule _ => none

end AttributeGrammar.Description
