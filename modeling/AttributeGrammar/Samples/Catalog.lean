import AttributeGrammar.Samples.Attributes
import AttributeGrammar.Samples.Calculator
import AttributeGrammar.Samples.Languages
import AttributeGrammar.Samples.Tokens

/-!
# The samples by name
-/

set_option autoImplicit false

namespace AttributeGrammar.Samples

/-- Every sample under its name. -/
def catalog : List (String × Sample) :=
  [("anchors", anchors), ("brackets", brackets), ("calc", calculator), ("chain", chain),
   ("csv", csv), ("dup", duplicate), ("empty", empty), ("json", json), ("keywords", keywords),
   ("list", list), ("noop", noop), ("nullable", nullable), ("number", number), ("prefix", path),
   ("program", program), ("ties", ties), ("unicode", unicode), ("xs", letters)]

end AttributeGrammar.Samples
