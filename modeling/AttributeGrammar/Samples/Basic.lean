import AttributeGrammar.Description.Document
import AttributeGrammar.Samples.Value

/-!
# Sample grammars

A sample is a description together with what the code of its actions does.

* `Sample.generated?` — the parser of a sample.
* `Sample.parse` — runs it.
-/

set_option autoImplicit false

namespace AttributeGrammar.Samples

open Synthesis (Fields Generated Meaning Outcome)

/-- A description, and what the code of its actions does. -/
structure Sample where
  description : String
  effects : List (String × Effect)

namespace Sample

/-- A sample from the lines of its description. -/
def ofLines (lines : List String) (effects : List (String × Effect)) : Sample :=
  ⟨String.intercalate "\n" lines, effects⟩

/-- What the types and the actions of a sample mean. -/
def meaning (sample : Sample) : Meaning Value where
  initial := Value.initial
  ofText := .text
  act action := (sample.effects.lookup action).getD .ok

/-- The parser of a sample. -/
def generated? (sample : Sample) : Option Generated :=
  match (Description.readResolved sample.description).1 with
  | .ok grammar => (Synthesis.generate grammar false).toOption
  | .error _ => none

/-- Runs the parser of a sample, with values for the inherited variables of the start rule. -/
def parse (sample : Sample) (arguments : List Value) (input : String) : Outcome Value :=
  match sample.generated? with
  | some generated => generated.parse sample.meaning arguments input
  | none => ⟨.error (.undeclared "parse"), []⟩

end Sample

end AttributeGrammar.Samples
