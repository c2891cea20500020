import AttributeGrammar.Synthesis.ParserCode
import AttributeGrammar.Synthesis.TokenSpec

/-!
# The text of an emitted parser

* `TokenSpec.code` — the kinds of tokens, the tables of the scanner and its constructor.
* `ParserCode.code` — the node types, the type that joins them and the entry point.
-/

set_option autoImplicit false

namespace AttributeGrammar.Synthesis

open Code

/-- An empty pair of parentheses. -/
def unit : TokenList := paren []

/-- The type of scanners. -/
def scannerType : TokenList := words ":: parsegen :: Scanner < '_ , TokenType"

/-- The type of results that carry `content`. -/
def resultType (content : TokenList) : TokenList :=
  words ":: parsegen :: Result <" ++ content ++ words ">"

namespace TokenSpec

/-- An entry of the table of regex terminals. -/
def regexEntry (name pattern : String) : TokenList :=
  paren (words "TokenType ::" ++ [.ident name] ++ words "," ++ quote pattern)

/-- The code of the tokens, with the identifiers of their kinds. -/
def codeWith (spec : TokenSpec) (variants : List String) : TokenList :=
  let textSlice := words "&" ++ bracket (words "& str")
  let entryType := paren (words "TokenType , & str")
  words "#" ++
    bracket (words "allow" ++ paren (words "non_camel_case_types , clippy :: upper_case_acronyms")) ++
  words "#" ++ bracket (words "derive" ++ paren (words "Copy , Clone , Debug , PartialEq , Eq , Hash")) ++
  words "pub enum TokenType" ++
    brace (commaSeparated (variants.map fun name => [.ident name])) ++
  words "impl :: parsegen :: TokenKind for TokenType" ++
    brace (words "const TEXT : Self = TokenType :: TEXT ; const END : Self = TokenType :: END ;") ++
  words "pub const LITERALS :" ++ textSlice ++ words "= &" ++
    bracket (commaSeparated (spec.literals.toList.map quote)) ++ words ";" ++
  words "pub const REGEXES : &" ++ bracket entryType ++ words "= &" ++
    bracket (commaSeparated
      ((variants.zip spec.regexes).map fun (name, regex) => regexEntry name regex.pattern)) ++
    words ";" ++
  words "pub fn scanner" ++ paren (words "input : & str") ++
    words "-> :: parsegen :: Result <" ++ scannerType ++ words ">>" ++
    brace (words ":: parsegen :: Scanner :: new" ++ paren (words "input , LITERALS , REGEXES"))

/-- The code of the tokens, unless some kind has no identifier. -/
def code (spec : TokenSpec) : Except SynthesisError TokenList := do
  return spec.codeWith (← spec.variants)

end TokenSpec

/-- The declaration of a field or a parameter. -/
def Field.code (field : Field) : TokenList := .ident field.name :: words ":" ++ field.typeCode

/-- The arguments of a method that works with a scanner. -/
def scannerParameters (name : String) : TokenList :=
  paren (words "& mut self ," ++ [.ident name] ++ words ": & mut" ++ scannerType ++ words ">") ++
    words "->" ++ resultType unit

/-- The name of the body of an alternative. -/
def bodyName (index : Nat) : String := s!"parse_{index}"

def Check.code : Check → TokenList
  | .text literal => words "token . is_text" ++ paren (quote literal)
  | .kind name => words "token . kind == TokenType ::" ++ [.ident name]
  | .endOfInput => words "token . kind == TokenType :: END"

/-- A branch of a dispatch method. -/
def Branch.code (branch : Branch) : TokenList :=
  words "if" ++ branch.check.code ++
    brace (words "return self ." ++ [.ident (bodyName branch.body)] ++ paren (words "scanner") ++ words ";")

/-- The dispatch method: it looks at one token and hands over to a body, or does nothing. -/
def dispatchCode (branches : List Branch) : TokenList :=
  let done := words "Ok" ++ paren unit
  if branches.isEmpty then words "pub fn parse" ++ scannerParameters "_scanner" ++ brace done
  else
    words "pub fn parse" ++ scannerParameters "scanner" ++
      brace (words "let token = scanner . next" ++ unit ++ words "? ; scanner . undo" ++ unit ++ words ";" ++
        branches.flatMap Branch.code ++ done)

/-- Adds the text of the token to the children, and stores it in a field if one is given. -/
def storeCode (into : Option String) : TokenList :=
  words "self . children . push" ++
    paren (words "Node :: Terminal" ++ paren (words "token . text . to_owned" ++ unit)) ++ words ";" ++
  match into with
  | some field => words "self ." ++ [.ident field] ++ words "= token . text . to_owned" ++ unit ++ words ";"
  | none => []

/-- The construction of a child node. -/
def ChildCall.code (call : ChildCall) : TokenList :=
  let arguments := call.arguments.map fun name =>
    words "self ." ++ [.ident name] ++ words ". clone" ++ unit
  let copies := call.copies.flatMap fun (field, origin) =>
    words "self ." ++ [.ident field] ++ words "= node ." ++ [.ident origin] ++ words ". clone" ++
      unit ++ words ";"
  brace (words "let mut node =" ++ [.ident call.node] ++ words ":: new" ++
      paren (commaSeparated arguments) ++ words ";" ++
    words "node . parse" ++ paren (words "scanner") ++ words "? ;" ++ copies ++
    words "self . children . push" ++
      paren (words "Node ::" ++ [.ident call.node] ++
        paren (words "Box :: new" ++ paren (words "node"))) ++ words ";")

/-- The name of the method of an action. -/
def actionName (action : String) : String := "action_" ++ action

def Statement.code : Statement → TokenList
  | .expectText literal into =>
    words "let token = scanner . expect_text" ++ paren (quote literal) ++ words "? ;" ++ storeCode into
  | .expectKind kind into =>
    words "let token = scanner . expect_kind" ++ paren (words "TokenType ::" ++ [.ident kind]) ++
      words "? ;" ++ storeCode into
  | .child call => call.code
  | .act action => words "self ." ++ [.ident (actionName action)] ++ unit ++ words ";"

/-- The body of an alternative. -/
def bodyCode (body : List Statement) (index : Nat) : TokenList :=
  let scanner := if body.any Statement.consumes then "scanner" else "_scanner"
  words "fn" ++ [.ident (bodyName index)] ++ scannerParameters scanner ++
    brace (body.flatMap Statement.code ++ words "Ok" ++ paren unit)

def ActionMethod.methodCode (action : ActionMethod) : TokenList :=
  words "fn" ++ [.ident (actionName action.action)] ++ paren (words "& mut self") ++ brace action.code

/-- The code of a node type. -/
def NodeType.code (node : NodeType) : TokenList :=
  let fields := node.fields.map fun field => words "pub" ++ field.code
  let value :=
    if node.parameters.isEmpty then words "Self :: default" ++ unit
    else
      .ident node.name :: brace (commaTerminated (node.parameters.map fun field => [.ident field.name]) ++
        words ".. Default :: default" ++ unit)
  words "#" ++ bracket (words "derive" ++ paren (words "Debug , Clone , Default")) ++
  words "pub struct" ++ [.ident node.name] ++
    brace (words "pub children : Vec < Node > ," ++ commaTerminated fields) ++
  words "impl" ++ [.ident node.name] ++
    brace (words "pub fn new" ++ paren (commaSeparated (node.parameters.map Field.code)) ++
      words "-> Self" ++ brace value ++
      dispatchCode node.dispatch ++
      node.bodies.zipIdx.flatMap (fun (body, index) => bodyCode body index) ++
      node.actions.flatMap ActionMethod.methodCode)

/-- The type of all nodes. -/
def nodeEnumCode (nodes : List NodeType) : TokenList :=
  let variants := nodes.map fun node =>
    .ident node.name :: paren (words "Box <" ++ [.ident node.name] ++ words ">")
  words "#" ++ bracket (words "derive" ++ paren (words "Debug , Clone")) ++
  words "pub enum Node" ++
    brace (words "Terminal" ++ paren (words "String") ++ words "," ++ commaSeparated variants)

/-- Some lists of tokens with a comma before each. -/
def commaLed (lists : List TokenList) : TokenList := lists.flatMap fun item => words "," ++ item

/-- The entry point: the start rule, then the end of the input. -/
def entryCode (start : String) (parameters : List Field) : TokenList :=
  words "pub fn parse" ++ paren (words "input : & str" ++ commaLed (parameters.map Field.code)) ++
    words "->" ++ resultType [.ident start] ++
    brace (words "let mut scanner = scanner" ++ paren (words "input") ++ words "? ;" ++
      words "let mut node =" ++ [.ident start] ++ words ":: new" ++
        paren (commaSeparated (parameters.map fun field => [.ident field.name])) ++ words ";" ++
      words "node . parse" ++ paren (words "& mut scanner") ++ words "? ;" ++
      words "scanner . expect_end" ++ unit ++ words "? ;" ++ words "Ok" ++ paren (words "node"))

/-- Prints an error and ends the program. -/
def exitCode : TokenList :=
  brace (words "eprintln !" ++ paren (quote "\x7b\x7d" ++ words ", e") ++ words ";" ++
    words ":: std :: process :: exit" ++ paren [.literal "1"] ++ words ";")

/-- The program that parses one line. -/
def Demo.code (demo : Demo) : TokenList :=
  let defaults := List.replicate demo.parameters (words ":: std :: default :: Default :: default" ++ unit)
  let node := if demo.exports.isEmpty then "_node" else "node"
  let prints := demo.exports.flatMap fun (name, field) =>
    words "println !" ++
      paren (quote "\x7b\x7d = \x7b\x7d" ++ words "," ++ quote name ++ words ", node ." ++ [.ident field]) ++
      words ";"
  let newlines := bracket [.literal "'\\r'", .punct ',' false, .literal "'\\n'"]
  words "fn main" ++ unit ++
    brace (words "let mut line = String :: new" ++ unit ++ words ";" ++
      words "if let Err" ++ paren (words "e") ++ words "= :: std :: io :: stdin" ++ unit ++
        words ". read_line" ++ paren (words "& mut line") ++ exitCode ++
      words "let input = line . trim_end_matches" ++
        paren (words "&" ++ newlines ++ bracket (words "..")) ++ words ";" ++
      words "match parse" ++ paren (words "input" ++ commaLed defaults) ++
      brace (words "Ok" ++ paren [.ident node] ++ words "=>" ++ brace prints ++
        words "Err" ++ paren (words "e") ++ words "=>" ++ exitCode))

/-- The code of a parser. -/
def ParserCode.code (parser : ParserCode) : TokenList :=
  nodeEnumCode parser.nodes ++ parser.nodes.flatMap NodeType.code ++
    entryCode parser.start parser.parameters ++
    match parser.demo with
    | some demo => demo.code
    | none => []

end AttributeGrammar.Synthesis
