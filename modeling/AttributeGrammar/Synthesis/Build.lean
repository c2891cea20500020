import AttributeGrammar.Synthesis.NodeName
import AttributeGrammar.Synthesis.ParserCode
import AttributeGrammar.Synthesis.TokenSpec

/-!
# Building a parser

* `dispatchOf` — the conditions of a rule's dispatch method: the FIRST set of each alternative, then
  the FOLLOW set of the rule for the alternative that may be empty.
* `bodyOf` — the statements of an alternative.
* `callOf` — the construction of a child: its inherited variables are taken from the fields of the same
  name, and with a variable its exports are copied back.
* `nodeTypeOf`, `parserOf` — the node type of a rule and the whole parser.
-/

set_option autoImplicit false

namespace AttributeGrammar.Synthesis

/-- What a parser is built from. -/
structure Source where
  grammar : Grammar
  analysis : Analysis
  tokens : TokenSpec

/-- A result of building, or why there is none. -/
abbrev Build := Except SynthesisError

/-- The field for a variable. -/
def fieldOf (v : Variable) : Build Field := do
  let name ← ident v.name
  match Code.parseType? v.type with
  | some typeCode => return ⟨name, v.type, typeCode⟩
  | none => fail (.invalidType v.type)

/-- The condition that a token is a terminal. -/
def checkOf : Terminal → Build Check
  | .text literal => return .text literal
  | .regex name => return .kind (← ident name)
  | .endOfInput => return .endOfInput
  | .empty => fail .emptyToken

/-- The branches that select a body on the terminals of a set. -/
def branchesOf (body : Nat) (set : TerminalSet) : Build (List Branch) :=
  (set.toList.filter (· ≠ .empty)).mapM fun t => return ⟨← checkOf t, body⟩

/-- The number of the last alternative that may be empty. -/
def nullableBody? (firsts : List TerminalSet) : Option Nat :=
  (firsts.zipIdx.filter fun (set, _) => set.contains .empty).getLast?.map Prod.snd

/-- The branches of a rule's dispatch method. -/
def dispatchOf (source : Source) (rule : Rule) : Build (List Branch) := do
  let firsts := rule.alternatives.map fun alternative =>
    source.analysis.firstSet alternative.symbols
  let branches ← firsts.zipIdx.mapM fun (set, body) => branchesOf body set
  let more ← match nullableBody? firsts with
    | some body => branchesOf body (source.analysis.getFollow rule.name)
    | none => pure []
  return branches.flatten ++ more

/-- The kind of a regex terminal. -/
def kindOf (source : Source) (regex : String) : Build String :=
  if source.tokens.hasRegex regex then ident regex else fail (.undeclaredRegex regex)

/-- The field that is passed for an inherited variable of a child. -/
def argumentOf (rule : Rule) (target : String) (inherited : Variable) : Build String :=
  match rule.varType? inherited.name with
  | none => fail (.missingInherited rule.name target inherited.name)
  | some type =>
    if sameType type inherited.type then ident inherited.name
    else fail (.inheritedType rule.name inherited.name type target inherited.type)

/-- The copies of a child's exports into the variables named after `var` that the rule declares. -/
def copiesOf (rule child : Rule) (var : String) : Build (List (String × String)) :=
  (child.exportedVars.filter fun v => rule.hasVar (var ++ "_" ++ v.name)).mapM fun v =>
    return (← ident (var ++ "_" ++ v.name), ← ident v.name)

/-- The rule of a name. -/
def ruleOf (source : Source) (name : String) : Build Rule :=
  match source.grammar.rule? name with
  | some rule => .ok rule
  | none => fail (.undeclaredRule name)

/-- The construction of a child. -/
def callOf (source : Source) (rule : Rule) (target : String) (var : Option String) :
    Build ChildCall := do
  let child ← ruleOf source target
  let node ← ident (nodeName target)
  let arguments ← child.inheritedVars.mapM (argumentOf rule target)
  let copies ← match var with
    | some var => copiesOf rule child var
    | none => pure []
  return ⟨node, arguments, copies⟩

/-- Checks that an action's name can become the name of a method. -/
def methodName (action : String) : Build String := do
  discard (ident action)
  if Code.isPlainName ("action_" ++ action) then return action
  else .error (.unnamable ("action_" ++ action))

/-- The statement of an item. An item for the empty string has none. -/
def statementOf (source : Source) (rule : Rule) : Item → Build (Option Statement)
  | .text literal => return some (.expectText literal none)
  | .regex name =>
    if name = emptyName then return none
    else return some (.expectKind (← kindOf source name) none)
  | .rule target => return some (.child (← callOf source rule target none))
  | .assignRule var target => return some (.child (← callOf source rule target (some var)))
  | .assignText var literal => return some (.expectText literal (some (← ident var)))
  | .assignRegex var name => do
    let field ← ident var
    return some (.expectKind (← kindOf source name) (some field))
  | .action name =>
    if rule.actions.contains name then return some (.act (← methodName name))
    else fail (.undeclaredAction name rule.name)

/-- The statements of an alternative. -/
def bodyOf (source : Source) (rule : Rule) (alternative : Alternative) : Build (List Statement) := do
  return (← alternative.items.mapM (statementOf source rule)).filterMap id

/-- The method of an action. -/
def actionOf : String × String → Build ActionMethod
  | (name, code) => do
    let name ← methodName name
    match Code.lexCode? code with
    | some tokens => return ⟨name, tokens⟩
    | none => fail (.invalidCode name)

/-- The node type of a rule. -/
def nodeTypeOf (source : Source) (rule : Rule) : Build NodeType := do
  let name ← ident (nodeName rule.name)
  if rule.hasVar "children" then fail (.reservedVariable rule.name)
  let fields ← rule.allVars.mapM fieldOf
  let parameters ← rule.inheritedVars.mapM fieldOf
  let dispatch ← dispatchOf source rule
  let bodies ← rule.alternatives.mapM (bodyOf source rule)
  let actions ← rule.actions.toList.mapM actionOf
  return ⟨name, fields, parameters, dispatch, bodies, actions⟩

/-- The first two rules whose nodes would have one type. -/
def sameNode? : (before : List String) → List String → Option SynthesisFault
  | _, [] => none
  | before, rule :: rest =>
    match before.find? fun other => nodeName other = nodeName rule with
    | some other => some (.sameNode other rule (nodeName rule))
    | none => sameNode? (rule :: before) rest

/-- The program that parses one line, for a start rule. -/
def demoOf (start : Rule) : Build Demo := do
  let exports ← start.exportedVars.mapM fun v => return (v.name, ← ident v.name)
  return ⟨start.inheritedVars.length, exports⟩

/-- The parser of a grammar, with the program that parses one line if `main` is set. -/
def parserOf (source : Source) (main : Bool) : Build ParserCode := do
  match sameNode? [] (source.grammar.rules.map Rule.name) with
  | some fault => fail fault
  | none =>
    let nodes ← source.grammar.rules.mapM (nodeTypeOf source)
    let start ← ruleOf source source.grammar.start
    let node ← ident (nodeName start.name)
    let parameters ← start.inheritedVars.mapM fieldOf
    let demo ← if main then some <$> demoOf start else pure none
    return ⟨nodes, node, parameters, demo⟩

end AttributeGrammar.Synthesis
