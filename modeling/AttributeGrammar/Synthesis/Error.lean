import AttributeGrammar.Analysis.Table
import AttributeGrammar.Text.Escape

/-!
# Errors of synthesis

* `SynthesisFault` — why no parser can be made of a grammar.
* `SynthesisError` — such a fault, a conflict of alternatives, or an action whose name cannot become
  the name of a method.
-/

set_option autoImplicit false

namespace AttributeGrammar

/-- Why no parser can be made of a grammar. -/
inductive SynthesisFault where
  | reservedRegex (name : String)
  | duplicateRegex (name : String)
  | invalidRegex (name pattern : String)
  | sameNode (first second node : String)
  | undeclaredRule (name : String)
  | reservedVariable (rule : String)
  | invalidName (text : String)
  | invalidType (text : String)
  | invalidCode (action : String)
  | missingInherited (rule target var : String)
  | inheritedType (rule var given target expected : String)
  | undeclaredRegex (name : String)
  | undeclaredAction (action rule : String)
  | emptyToken
deriving DecidableEq, Repr

def SynthesisFault.message : SynthesisFault → String
  | .reservedRegex name => s!"{name} is reserved name for regex"
  | .duplicateRegex name => s!"duplicate regex name: {name}"
  | .invalidRegex name pattern => s!"invalid regex {name} '{pattern}': "
  | .sameNode first second node =>
    s!"rules '{first}' and '{second}' map to the same node type {node}"
  | .undeclaredRule name => s!"transition to undeclared rule '{name}'"
  | .reservedVariable rule => s!"rule '{rule}' declares reserved variable 'children'"
  | .invalidName text => s!"'{text}' is not a valid identifier"
  | .invalidType text => s!"'{text}' is not a valid type"
  | .invalidCode action => s!"invalid code in action '${action}': LexError \x7b span: Span \x7d"
  | .missingInherited rule target var =>
    s!"rule '{rule}' calls '{target}' without its inherited variable '{var}'"
  | .inheritedType rule var given target expected =>
    s!"rule '{rule}' passes '{var}' of type {given} to '{target}', which expects {expected}"
  | .undeclaredRegex name => s!"undeclared regex terminal '{name}'"
  | .undeclaredAction action rule => s!"call to undeclared action '${action}' in rule '{rule}'"
  | .emptyToken => "EPS is not a token"

/-- Why synthesis ends without a parser. -/
inductive SynthesisError where
  | inconsistent (fault : SynthesisFault)
  | conflict (conflict : Conflict)
  /-- The name of an action cannot become the name of a method. -/
  | unnamable (method : String)
deriving DecidableEq, Repr

def SynthesisError.message : SynthesisError → String
  | .inconsistent fault => s!"invalid grammar: {fault.message}"
  | .conflict c => c.message
  | .unnamable method => s!"{Text.quotedForm method} is not a valid Ident"

end AttributeGrammar
