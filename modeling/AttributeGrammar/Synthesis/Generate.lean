import AttributeGrammar.Synthesis.Build
import AttributeGrammar.Synthesis.Render

/-!
# Generating a parser

* `Generated` — the tokens and the parser of a grammar.
* `generate` — makes them of a grammar: first the patterns are checked, then the alternatives, then the
  names of the kinds of tokens, then the rules.
* `generateFile` — the text of a source file with the parser.
-/

set_option autoImplicit false

namespace AttributeGrammar.Synthesis

/-- The tokens and the parser of a grammar. -/
structure Generated where
  tokens : TokenSpec
  /-- The identifiers of the kinds of tokens. -/
  variants : List String
  parser : ParserCode

def Generated.code (generated : Generated) : Code.TokenList :=
  generated.tokens.codeWith generated.variants ++ generated.parser.code

/-- The analysis of a grammar, which must be LL(1). -/
def analyze (grammar : Grammar) : Except SynthesisError Analysis :=
  match Analysis.ofGrammar grammar with
  | .ok analysis => .ok analysis
  | .error conflict => .error (.conflict conflict)

/-- Makes a parser of a grammar, with the program that parses one line if `main` is set. -/
def generate (grammar : Grammar) (main : Bool) : Except SynthesisError Generated := do
  let tokens ← TokenSpec.ofGrammar grammar
  let analysis ← analyze grammar
  let variants ← tokens.variants
  let parser ← parserOf ⟨grammar, analysis, tokens⟩ main
  return ⟨tokens, variants, parser⟩

/-- Makes a parser that reads the given tokens. -/
def generateParser (grammar : Grammar) (tokens : TokenSpec) (main : Bool) :
    Except SynthesisError ParserCode := do
  let analysis ← analyze grammar
  parserOf ⟨grammar, analysis, tokens⟩ main

/-- The text of a source file with the parser of a grammar. -/
def generateFile (grammar : Grammar) (main : Bool) : Except SynthesisError String := do
  let generated ← generate grammar main
  let header := s!"// Generated by descent from a grammar with start '{grammar.start}'. Do not edit."
  return header ++ "\n\n" ++ Code.renderCode generated.code ++ "\n"

end AttributeGrammar.Synthesis
