import AttributeGrammar.Grammar.Rule

/-!
# Grammars

* `Action` — a named block of code with the variables that it exports.
* `Grammar` — the rules in the order of their declaration, the regex terminals, the actions and the
  start symbol.
* `Grammar.Edit` — a computation on a grammar that may fail; what it changed before it failed stays.
-/

set_option autoImplicit false

namespace AttributeGrammar

open Std (ExtTreeSet)

/-- A named block of code with the variables that it exports to the rules that call it. -/
structure Action where
  name : String
  exported : List Variable
  code : String
deriving DecidableEq, Repr, Inhabited

/-- A regex terminal: its name and its pattern. -/
structure RegexTerminal where
  name : String
  pattern : String
deriving DecidableEq, Repr, Inhabited

/-- A grammar description. No two rules and no two actions have the same name. -/
structure Grammar where
  start : String
  rules : List Rule
  regexes : List RegexTerminal
  actions : List Action
deriving DecidableEq, Inhabited

namespace Grammar

/-- The grammar without any declaration. -/
def empty : Grammar := ⟨"", [], [], []⟩

def rule? (grammar : Grammar) (name : String) : Option Rule :=
  grammar.rules.find? fun rule => rule.name = name

def action? (grammar : Grammar) (name : String) : Option Action :=
  grammar.actions.find? fun action => action.name = name

def hasRegex (grammar : Grammar) (name : String) : Bool :=
  grammar.regexes.any fun regex => regex.name = name

/-- Every literal that some rule uses. -/
def literals (grammar : Grammar) : ExtTreeSet String :=
  .ofList (grammar.rules.flatMap fun rule => rule.items.filterMap Item.literal?)

/-- Puts a rule in the place of the rule of its name. -/
def replaceRule (grammar : Grammar) (rule : Rule) : Grammar :=
  { grammar with rules := grammar.rules.map fun old => if old.name = rule.name then rule else old }

def setStart (grammar : Grammar) (start : String) : Grammar := { grammar with start }

/-- Records a regex terminal. Names and patterns are checked when a scanner is made of them. -/
def addRegex (grammar : Grammar) (name pattern : String) : Grammar :=
  { grammar with regexes := grammar.regexes ++ [⟨name, pattern⟩] }

/-- A computation on a grammar that may fail and then leaves what it had changed. -/
abbrev Edit := EStateM GrammarError Grammar

/-- Runs an edit of a rule inside a grammar. -/
def editRule {α : Type} (rule : Rule) (edit : Rule.Edit α) : Edit α := fun grammar =>
  match edit rule with
  | .ok a changed => .ok a (grammar.replaceRule changed)
  | .error e changed => .error e (grammar.replaceRule changed)

/-- Adds a rule, or merges it into the rule of its name. -/
def addRule (rule : Rule) : Edit Unit := do
  let grammar ← get
  match grammar.rule? rule.name with
  | some existing => editRule existing (Rule.merge rule)
  | none => set { grammar with rules := grammar.rules ++ [rule] }

def addAction (action : Action) : Edit Unit := do
  let grammar ← get
  if (grammar.action? action.name).isSome then
    throw (.inconsistent (.duplicateAction action.name))
  else set { grammar with actions := grammar.actions ++ [action] }

/-- The lines that declare a rule, one for each alternative, without escapes. -/
def ruleLines (rule : Rule) : List String :=
  let parameters := rule.inheritedVars.map Variable.render
  let header :=
    if parameters = [] then rule.name
    else rule.name ++ " [" ++ ", ".intercalate parameters ++ "]"
  rule.alternatives.map fun alternative => header ++ " : " ++ alternative.render ++ "\n"

/-- A grammar as a description without actions and without escapes. -/
def render (grammar : Grammar) : String :=
  String.join (grammar.regexes.map fun regex => s!"{regex.name} : '{regex.pattern}'\n") ++
    String.join (grammar.rules.flatMap ruleLines) ++ grammar.start ++ "\n"

end Grammar

end AttributeGrammar
