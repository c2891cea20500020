import AttributeGrammar.Analysis.Table
import AttributeGrammar.Derive
import AttributeGrammar.Grammar.Resolve
import AttributeGrammar.Scan.Token
import AttributeGrammar.Synthesis.Generate

/-!
# The journal

What the parts of the library report about their work.

* `JournalEntry` — a line of the journal, with its level and the part that reports it.
* `Reexport.entry`, `Analysis.entries`, `Token.entry`, `generatedEntry` — the lines of the parts.
* `analysisEntries`, `generateEntries`, `deriveEntries` — what analysing a grammar, generating a parser and
  attaching it to a type report.
-/

set_option autoImplicit false

namespace AttributeGrammar

/-- How important a line of the journal is. -/
inductive JournalLevel where
  | trace
  | debug
  | info
deriving DecidableEq, Repr

def JournalLevel.name : JournalLevel → String
  | .trace => "TRACE"
  | .debug => "DEBUG"
  | .info => "INFO"

/-- A line of the journal. -/
structure JournalEntry where
  level : JournalLevel
  /-- The part that reports the line. -/
  target : String
  message : String
deriving DecidableEq, Repr

/-- The line for an export that a rule takes over. -/
def Reexport.entry (reexport : Reexport) : JournalEntry :=
  ⟨.debug, "grammar::resolve", s!"rule '{reexport.rule}' re-exports '{reexport.exported.render}'"⟩

/-- The lines for the tables of an analysis. -/
def Analysis.entries (analysis : Analysis) : List JournalEntry :=
  analysis.summary.map fun line => ⟨.debug, "synth::analyzer", line⟩

/-- The line for a delivered token. -/
def Token.entry (token : Token) : JournalEntry :=
  let message :=
    if token.kind = .endOfInput && token.text = "" then s!"scanned END at {token.position}"
    else s!"scanned {token.kind.name} '{token.text}' at {token.position}"
  ⟨.trace, "parsegen::scanner", message⟩

/-- The line for a parser that was generated. -/
def generatedEntry (grammar : Grammar) : JournalEntry :=
  ⟨.info, "synth", s!"generated parser for '{grammar.start}' with {grammar.rules.length} rules"⟩

/-- What the analysis of a grammar reports, also where it finds a conflict. -/
def analysisEntries (grammar : Grammar) : List JournalEntry :=
  (Analysis.ofFlat (.ofGrammar grammar)).entries

/-- What generating a parser reports. The analysis comes after the tokens. -/
def generateEntries (grammar : Grammar) : List JournalEntry :=
  let analysed := if (Synthesis.TokenSpec.ofGrammar grammar).isOk then analysisEntries grammar else []
  let generated := if (Synthesis.generate grammar false).isOk then [generatedEntry grammar] else []
  analysed ++ generated

/-- What attaching a parser to a type reports. -/
def deriveEntries (files : FileTree) (declaration : Code.TypeDeclaration) : List JournalEntry :=
  let (read, reexports) := Derive.readGrammar files declaration
  let generated := match read with
    | .ok (_, grammar) => generateEntries grammar
    | .error _ => []
  reexports.map Reexport.entry ++ generated

end AttributeGrammar
