import AttributeGrammar.Code.Name
import AttributeGrammar.Pattern.Search
import AttributeGrammar.Synthesis.Error

/-!
# The tokens of a parser

* `TokenSpec` — the literals and the regex terminals that a scanner is made of.
* `TokenSpec.addRegex`, `TokenSpec.addRegexes` — register regex terminals under names of their own.
* `TokenSpec.ofGrammar` — the tokens that a grammar uses.
* `TokenSpec.variants` — the identifiers of the kinds of tokens.
-/

set_option autoImplicit false

namespace AttributeGrammar.Synthesis

open Std (ExtTreeSet)

/-- The literals and the regex terminals that a scanner is made of. -/
structure TokenSpec where
  literals : ExtTreeSet String
  /-- The regex terminals in the order of declaration. -/
  regexes : List RegexTerminal
deriving DecidableEq

/-- The names that no regex terminal may take. -/
def reservedNames : List String := ["END", "TEXT", "EPS"]

/-- Fails with a fault of the grammar. -/
def fail {α : Type} (fault : SynthesisFault) : Except SynthesisError α := .error (.inconsistent fault)

/-- The identifier that a text is. -/
def ident (text : String) : Except SynthesisError String :=
  match Code.parseName? text with
  | some name => .ok name
  | none => fail (.invalidName text)

namespace TokenSpec

def empty : TokenSpec := ⟨∅, []⟩

instance : Inhabited TokenSpec := ⟨empty⟩

/-- Registers a literal. -/
def addToken (spec : TokenSpec) (text : String) : TokenSpec :=
  { spec with literals := spec.literals.insert text }

def hasRegex (spec : TokenSpec) (name : String) : Bool :=
  spec.regexes.any fun regex => regex.name = name

/-- Registers a regex terminal. Of those that match equally much the first declared wins. -/
def addRegex (spec : TokenSpec) (name pattern : String) : Except SynthesisError TokenSpec :=
  if name ∈ reservedNames then fail (.reservedRegex name)
  else if spec.hasRegex name then fail (.duplicateRegex name)
  else if (Pattern.compileToken? pattern).isNone then fail (.invalidRegex name pattern)
  else .ok { spec with regexes := spec.regexes ++ [⟨name, pattern⟩] }

/-- Registers some regex terminals. -/
def addRegexes (spec : TokenSpec) (regexes : List RegexTerminal) : Except SynthesisError TokenSpec :=
  regexes.foldlM (fun spec regex => spec.addRegex regex.name regex.pattern) spec

/-- The names of the kinds of tokens: every regex terminal, then literals and the end. -/
def kindNames (spec : TokenSpec) : List String :=
  spec.regexes.map RegexTerminal.name ++ ["TEXT", "END"]

/-- The tokens that a grammar uses. -/
def ofGrammar (grammar : Grammar) : Except SynthesisError TokenSpec :=
  addRegexes ⟨grammar.literals, []⟩ grammar.regexes

/-- The identifiers of the kinds of tokens. -/
def variants (spec : TokenSpec) : Except SynthesisError (List String) := spec.kindNames.mapM ident

end TokenSpec

end AttributeGrammar.Synthesis
