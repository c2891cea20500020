import AttributeGrammar.Code.LiteralText
import AttributeGrammar.Code.TypeSyntax
import AttributeGrammar.Description.Document
import AttributeGrammar.Files.Tree
import AttributeGrammar.Synthesis.Generate

/-!
# Parsers attached to types

The declaration of a type names a grammar in an attribute: its description, or a file that holds it. The
parser of the grammar is emitted, and the type gets a function that calls it.

* `DeriveError` — why no parser is attached.
* `grammarSource` — the grammar that a declaration names; there must be exactly one.
* `readGrammar` — reads that grammar.
* `attach` — the code of the parser and of the function of the type.
* `derive` — all of this for a declaration.
-/

set_option autoImplicit false

namespace AttributeGrammar.Derive

open Code
open Synthesis (Generated)

/-- Why no parser is attached to a type. -/
inductive DeriveError where
  | noSource
  | severalSources
  /-- The attribute has a value that is no text. -/
  | notText
  | file (path : String) (cause : FileError)
  | description (cause : GrammarError)
  | synthesis (cause : SynthesisError)
deriving DecidableEq, Repr

def DeriveError.message : DeriveError → String
  | .noSource =>
    "No grammar source provided, expected #[grammar_file = \"..\"] or #[grammar_inline = \"..\"]"
  | .severalSources => "At most one grammar source can be provided"
  | .notText => "Derive error: attribute not a string"
  | .file path cause => s!"Failed to read grammar file {path}: {cause.message}"
  | .description cause => cause.message
  | .synthesis cause => cause.message

/-- Where a grammar comes from. -/
inductive GrammarSource where
  | inline (description : String)
  | file (path : String)
deriving DecidableEq, Repr

/-- The attribute for a file with a description. -/
def fileAttribute : String := "grammar_file"

/-- The attribute for a description. -/
def inlineAttribute : String := "grammar_inline"

/-- The attributes of a declaration that name a grammar, with their values. -/
def sources (declaration : TypeDeclaration) : List (Attribute × TokenList) :=
  declaration.attributes.filterMap fun mark =>
    if mark.isNamed fileAttribute || mark.isNamed inlineAttribute then
      mark.value?.map fun value => (mark, value)
    else none

/-- The text that a value is. -/
def valueText? : TokenList → Option String
  | [.literal literal] => literalText? literal
  | _ => none

/-- The grammar that a declaration names. Files lie in the working directory. -/
def grammarSource (declaration : TypeDeclaration) : Except DeriveError GrammarSource :=
  match sources declaration with
  | [] => .error .noSource
  | [(mark, value)] =>
    match valueText? value with
    | none => .error .notText
    | some text =>
      .ok (if mark.isNamed fileAttribute then .file (joinPath "." text) else .inline text)
  | _ => .error .severalSources

/-- The description of a grammar. -/
def GrammarSource.description (files : FileTree) : GrammarSource → Except DeriveError String
  | .inline description => .ok description
  | .file path =>
    match files.read (.ofText path) with
    | .ok description => .ok description
    | .error cause => .error (.file path cause)

/-- Reads the grammar that a declaration names, and tells which exports its rules take over. -/
def readGrammar (files : FileTree) (declaration : TypeDeclaration) :
    Except DeriveError (GrammarSource × Grammar) × List Reexport :=
  match grammarSource declaration with
  | .error e => (.error e, [])
  | .ok source =>
    match source.description files with
    | .error e => (.error e, [])
    | .ok description =>
      match Description.readResolved description with
      | (.ok grammar, reexports) => (.ok (source, grammar), reexports)
      | (.error cause, reexports) => (.error (.description cause), reexports)

/-- The function of a type that calls the entry point of a parser. -/
def implementation (declaration : TypeDeclaration) (generated : Generated) : TokenList :=
  let parameters := generated.parser.parameters
  words "impl" ++ declarationTokens declaration.parameters ++ declaration.name ++
    useTokens declaration.parameters ++ declaration.whereClause ++
    brace (words "pub fn parse" ++
      paren (words "input : & str" ++ Synthesis.commaLed (parameters.map Synthesis.Field.code)) ++
      words "->" ++ Synthesis.resultType [.ident generated.parser.start] ++
      brace (words "parse" ++
        paren (words "input" ++ Synthesis.commaLed (parameters.map fun field => [.ident field.name]))))

/-- An item that makes the code depend on a file. -/
def GrammarSource.tracking : GrammarSource → TokenList
  | .inline _ => []
  | .file path => words "const _ : & str = include_str !" ++ paren (quote path) ++ words ";"

/-- The code of the parser of a grammar and of the function of a type. -/
def attach (declaration : TypeDeclaration) (source : GrammarSource) (grammar : Grammar) :
    Except DeriveError TokenList :=
  match Synthesis.generate grammar false with
  | .ok generated =>
    .ok (generated.code ++ implementation declaration generated ++ source.tracking)
  | .error cause => .error (.synthesis cause)

/-- The code for the declaration of a type that names a grammar. -/
def derive (files : FileTree) (declaration : TypeDeclaration) : Except DeriveError TokenList := do
  let (source, grammar) ← (readGrammar files declaration).1
  attach declaration source grammar

end AttributeGrammar.Derive
