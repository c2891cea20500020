import AttributeGrammar.Scan.Scanner
import AttributeGrammar.Synthesis.Generate

/-!
# Running an emitted parser

An emitted parser reads tokens from a scanner and builds a tree. What the code of its actions does is
given by a `Meaning`.

* `Tree` — a node with its fields and children, or the text of a token.
* `Run` — a computation with the scanner that may fail.
* `parseNode` — runs the dispatch method of a node type and the body that it selects.
* `Generated.parse` — runs the entry point of a parser on an input.
-/

set_option autoImplicit false

namespace AttributeGrammar.Synthesis

/-- The operations that overflow. -/
inductive Arithmetic where
  | add
  | subtract
  | multiply
  | negate
deriving DecidableEq, Repr

/-- Why the code of an action breaks off. -/
inductive Panic where
  | overflow (operation : Arithmetic)
deriving DecidableEq, Repr

def Arithmetic.name : Arithmetic → String
  | .add => "add"
  | .subtract => "subtract"
  | .multiply => "multiply"
  | .negate => "negate"

def Panic.message : Panic → String
  | .overflow operation => s!"attempt to {operation.name} with overflow"

/-- Why a run ends without a tree. -/
inductive RunError where
  | scan (error : ScanError)
  | panic (cause : Panic)
  /-- The code refers to something that it does not declare. -/
  | undeclared (name : String)
  /-- The calls are nested more deeply than was allowed. -/
  | tooDeep
deriving DecidableEq, Repr

variable {V : Type}

/-- The fields of a node with their values. -/
abbrev Fields (V : Type) := List (String × V)

/-- Gives a field a value. -/
def Fields.put (fields : Fields V) (name : String) (value : V) : Fields V :=
  fields.map fun (other, old) => if other = name then (other, value) else (other, old)

/-- A node of a syntax tree, or the text of a token. -/
inductive Tree (V : Type) where
  | leaf (text : String)
  | node (name : String) (fields : Fields V) (children : List (Tree V))
deriving Repr, Inhabited

/-- What types and actions mean. -/
structure Meaning (V : Type) where
  /-- The value that a field of a type has at first. -/
  initial : (type : String) → V
  /-- The value for the text of a token. -/
  ofText : String → V
  /-- What the code of an action does to the fields of its node. -/
  act : (action : String) → Fields V → Except Panic (Fields V)

/-- A computation with a scanner that may fail. -/
abbrev Run := EStateM RunError Scanner

namespace Run

/-- Uses the scanner. -/
def scan {α : Type} (computation : Scan α) : Run α := fun scanner =>
  match computation scanner with
  | .ok a scanner => .ok a scanner
  | .error e scanner => .error (.scan e) scanner

/-- The value that is there, or an error about a name. -/
def declared {α : Type} (name : String) : Option α → Run α
  | some a => pure a
  | none => throw (.undeclared name)

end Run

/-- A node that is being built. -/
structure NodeState (V : Type) where
  fields : Fields V
  children : List (Tree V)

namespace NodeState

def addChild (state : NodeState V) (child : Tree V) : NodeState V :=
  { state with children := state.children ++ [child] }

/-- Stores a value in a declared field. -/
def store (state : NodeState V) (name : String) (value : V) : Run (NodeState V) := do
  discard (Run.declared name (state.fields.lookup name))
  return { state with fields := state.fields.put name value }

/-- Adds a token to the children, and stores its text in a field if one is given. -/
def addToken (meaning : Meaning V) (into : Option String) (token : Token) (state : NodeState V) :
    Run (NodeState V) :=
  let state := state.addChild (.leaf token.text)
  match into with
  | some name => state.store name (meaning.ofText token.text)
  | none => pure state

/-- Stores a field of a child in a field. -/
def copyFrom (child : Fields V) (state : NodeState V) : String × String → Run (NodeState V)
  | (field, source) => do
    state.store field (← Run.declared source (child.lookup source))

end NodeState

/-- Whether a token satisfies a condition. -/
def Check.holds (token : Token) : Check → Bool
  | .text literal => token.isText literal
  | .kind name => token.kind = .regex name
  | .endOfInput => token.kind = .endOfInput

/-- The number of the body that a dispatch method selects; none when it has no condition or none
holds. -/
def selectBody (branches : List Branch) : Run (Option Nat) := do
  if branches.isEmpty then return none
  let token ← Run.scan Scanner.next
  Run.scan Scanner.undo
  return (branches.find? fun branch => branch.check.holds token).map Branch.body

/-- The fields of a new node: the parameters have the given values, the others those of their types. -/
def NodeType.newFields (meaning : Meaning V) (node : NodeType) (arguments : List V) : Fields V :=
  (node.parameters.zip arguments).foldl (fun fields (parameter, value) => fields.put parameter.name value)
    (node.fields.map fun field => (field.name, meaning.initial field.type))

/-- Runs a statement of a body, given how children are parsed. -/
def runStatement (meaning : Meaning V) (code : ParserCode)
    (parseChild : NodeType → Fields V → Run (NodeState V)) (state : NodeState V) :
    Statement → Run (NodeState V)
  | .expectText literal into => do
    state.addToken meaning into (← Run.scan (Scanner.expectText literal))
  | .expectKind kind into => do
    state.addToken meaning into (← Run.scan (Scanner.expectKind (.regex kind)))
  | .child call => do
    let node ← Run.declared call.node (code.node? call.node)
    let arguments ← call.arguments.mapM fun name => Run.declared name (state.fields.lookup name)
    let child ← parseChild node (node.newFields meaning arguments)
    let state ← call.copies.foldlM (NodeState.copyFrom child.fields) state
    return state.addChild (.node node.name child.fields child.children)
  | .act action =>
    match meaning.act action state.fields with
    | .ok fields => pure { state with fields }
    | .error cause => throw (.panic cause)

/-- Runs the dispatch method of a node type on a new node, and the body that it selects. -/
def parseNode (meaning : Meaning V) (code : ParserCode) :
    (depth : Nat) → NodeType → Fields V → Run (NodeState V)
  | 0, _, _ => throw .tooDeep
  | depth + 1, node, fields => do
    match ← selectBody node.dispatch with
    | none => return ⟨fields, []⟩
    | some index =>
      let body ← Run.declared (bodyName index) node.bodies[index]?
      body.foldlM (runStatement meaning code (parseNode meaning code depth)) ⟨fields, []⟩

/-- Runs the entry point of a parser: the start rule, then the end of the input. -/
def ParserCode.run (meaning : Meaning V) (code : ParserCode) (depth : Nat) (arguments : List V) :
    Run (Tree V) := do
  let node ← Run.declared code.start (code.node? code.start)
  let state ← parseNode meaning code depth node (node.newFields meaning arguments)
  Run.scan Scanner.expectEnd
  return .node node.name state.fields state.children

/-- The scanner of an emitted parser over an input. -/
def Generated.scanner (generated : Generated) (input : String) : Except ScanError Scanner :=
  Scanner.new input generated.tokens.literals.toList
    ((generated.variants.zip generated.tokens.regexes).map fun (name, regex) =>
      (.regex name, regex.pattern))

/-- Deep enough for an input: between two tokens no rule is entered twice. -/
def Generated.depthFor (generated : Generated) (input : String) : Nat :=
  (input.utf8ByteSize + 2) * (generated.parser.nodes.length + 1)

/-- The outcome of running a parser: a tree or an error, and the tokens that were delivered. -/
structure Outcome (V : Type) where
  result : Except RunError (Tree V)
  delivered : List Token

/-- Runs a parser on an input, with values for the inherited variables of the start rule. -/
def Generated.parse (meaning : Meaning V) (generated : Generated) (arguments : List V)
    (input : String) : Outcome V :=
  match generated.scanner input with
  | .error e => ⟨.error (.scan e), []⟩
  | .ok scanner =>
    match generated.parser.run meaning (generated.depthFor input) arguments scanner with
    | .ok tree scanner => ⟨.ok tree, scanner.delivered.reverse⟩
    | .error e scanner => ⟨.error e, scanner.delivered.reverse⟩

end AttributeGrammar.Synthesis
