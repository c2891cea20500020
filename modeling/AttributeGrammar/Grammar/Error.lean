/-!
# Errors of descriptions and grammars

* `ReadKind` — what a reader of description text was looking for when it gave up.
* `DescriptionFault` — why a line of a description cannot be read.
* `GrammarFault` — why a grammar is inconsistent.
* `GrammarError` — the two together, with `GrammarError.message` for their wording.
-/

set_option autoImplicit false

namespace AttributeGrammar

/-- What a reader was looking for when it gave up. -/
inductive ReadKind where
  | word
  | char
  | blank
  | nonBlank
  | accepted
  | endOfText
  | escape
  | nonEmpty
  | progress
deriving DecidableEq, Repr

/-- The name under which messages report what was looked for. -/
def ReadKind.label : ReadKind → String
  | .word => "Tag"
  | .char => "Char"
  | .blank => "Space"
  | .nonBlank => "TakeWhile1"
  | .accepted => "MapOpt"
  | .endOfText => "Eof"
  | .escape => "Escaped"
  | .nonEmpty => "NonEmpty"
  | .progress => "Many0"

/-- Why a line of a description cannot be read. -/
inductive DescriptionFault where
  /-- A reader gave up; `near` is the trimmed text where it did. -/
  | unreadable (near : String) (kind : ReadKind)
  | duplicateAction (name : String)
  | afterAction (text : String)
  | unbalancedAction
  | firstCharacter (line : String)
  | afterStart (line : String)
  | missingStart
deriving DecidableEq, Repr

def DescriptionFault.message : DescriptionFault → String
  | .unreadable near kind =>
    if near = "" then s!"unexpected end of line ({kind.label})"
    else s!"unexpected input '{near}' ({kind.label})"
  | .duplicateAction name => s!"duplicated action name ({name})"
  | .afterAction text => s!"unexpected content after action: '{text}'"
  | .unbalancedAction => "unbalanced braces in action"
  | .firstCharacter line => s!"unexpected first character in '{line}'"
  | .afterStart line => s!"unexpected content after start symbol: '{line}'"
  | .missingStart => "missing start non-terminal"

/-- Why a grammar is inconsistent. -/
inductive GrammarFault where
  | retyped (var rule declared given : String)
  | inheritedTwice (var rule : String)
  | emptyAssigned (var rule : String)
  | mergeAcross (other rule : String)
  | inheritedDiffer (rule : String)
  | duplicateAction (name : String)
  | startWithoutRules (start : String)
  | undeclaredTarget (target rule : String)
  | undeclaredSource (var target rule : String)
  | undeclaredRegex (regex rule : String)
  | undeclaredAction (action rule : String)
  | unknownAction (action : String)
  | unknownSource (target : String)
deriving DecidableEq, Repr

def GrammarFault.message : GrammarFault → String
  | .retyped var rule declared given =>
    s!"variable '{var}' of rule '{rule}' declared as both '{declared}' and '{given}'"
  | .inheritedTwice var rule => s!"inherited variable '{var}' of rule '{rule}' declared twice"
  | .emptyAssigned var rule => s!"cannot assign EPS to '{var}' in rule '{rule}'"
  | .mergeAcross other rule => s!"cannot merge rule '{other}' into rule '{rule}'"
  | .inheritedDiffer rule => s!"rule '{rule}' redeclared with different inherited variables"
  | .duplicateAction name => s!"duplicated action name ({name})"
  | .startWithoutRules start => s!"start non-terminal '{start}' has no rules"
  | .undeclaredTarget target rule =>
    s!"transition to undeclared rule '{target}' in rule '{rule}'"
  | .undeclaredSource var target rule =>
    s!"found assignment to not existing rule ({var}={target}) in rule '{rule}'"
  | .undeclaredRegex regex rule => s!"undeclared regex terminal '{regex}' in rule '{rule}'"
  | .undeclaredAction action rule => s!"call to undeclared action '${action}' in rule '{rule}'"
  | .unknownAction action => s!"call to undeclared action '${action}'"
  | .unknownSource target => s!"found assignment to not existing rule ({target})"

/-- An error of reading, building or resolving a grammar. -/
inductive GrammarError where
  /-- A line of the description cannot be read. -/
  | description (line : Nat) (fault : DescriptionFault)
  /-- The grammar is inconsistent. -/
  | inconsistent (fault : GrammarFault)
deriving DecidableEq, Repr

def GrammarError.message : GrammarError → String
  | .description line fault => s!"failed to parse line {line}: {fault.message}"
  | .inconsistent fault => s!"invalid grammar: {fault.message}"

end AttributeGrammar
