import Std.Data.ExtTreeMap
import AttributeGrammar.Grammar.Error
import AttributeGrammar.Grammar.Item

/-!
# Rules

A `Rule` is a non-terminal with its variables, its inherited and exported names, the code of the
actions it calls, and its alternatives. It is built by edits.

* `Rule.Edit` — a computation on a rule that may fail; what it changed before it failed stays.
* `Rule.declare` — declares a variable; a second declaration must have the same type.
* `Rule.declareInherited`, `Rule.declareExport`, `Rule.addActionCode`, `Rule.push`, `Rule.merge` — the other
  edits.
-/

set_option autoImplicit false

namespace AttributeGrammar

open Std (ExtTreeMap ExtTreeSet)

/-- A non-terminal with its attributes and alternatives. -/
structure Rule where
  name : String
  /-- The types of the declared variables, by name. -/
  vars : ExtTreeMap String String
  /-- The names of the parameters, in their order. -/
  inherited : List String
  exported : ExtTreeSet String
  /-- The code of the actions, by name; filled in when actions are resolved. -/
  actions : ExtTreeMap String String
  alternatives : List Alternative
deriving DecidableEq

namespace Rule

/-- A rule with one empty alternative. -/
def new (name : String) : Rule := ⟨name, ∅, [], ∅, ∅, [⟨[]⟩]⟩

instance : Inhabited Rule := ⟨new ""⟩

/-- The type of a variable. -/
def varType? (rule : Rule) (name : String) : Option String := rule.vars[name]?

def hasVar (rule : Rule) (name : String) : Bool := rule.vars.contains name

/-- The named variables with their types. -/
def withTypes (rule : Rule) (names : List String) : List Variable :=
  names.filterMap fun name => (rule.varType? name).map fun type => ⟨type, name⟩

/-- Every declared variable, by name. -/
def allVars (rule : Rule) : List Variable := rule.vars.toList.map fun (name, type) => ⟨type, name⟩

/-- The inherited variables, in the order of the parameters. -/
def inheritedVars (rule : Rule) : List Variable := rule.withTypes rule.inherited

/-- The exported variables, by name. -/
def exportedVars (rule : Rule) : List Variable := rule.withTypes rule.exported.toList

/-- The items of all alternatives. -/
def items (rule : Rule) : List Item := rule.alternatives.flatMap Alternative.items

/-- The variable and the rule of every non-terminal assignment. -/
def assigns (rule : Rule) : List (String × String) := rule.items.filterMap Item.assign?

/-- The names of the actions that the rule calls. -/
def actionCalls (rule : Rule) : ExtTreeSet String := .ofList (rule.items.filterMap Item.action?)

/-- A computation on a rule that may fail and then leaves what it had changed. -/
abbrev Edit := EStateM GrammarError Rule

/-- Fails with an inconsistency. -/
def Edit.fail {α : Type} (fault : GrammarFault) : Edit α := throw (.inconsistent fault)

/-- Declares a variable and tells whether it is new. -/
def declare (type name : String) : Edit Bool := do
  let rule ← get
  match rule.varType? name with
  | none =>
    set { rule with vars := rule.vars.insert name type }
    return true
  | some declared =>
    if sameType declared type then return false
    else Edit.fail (.retyped name rule.name declared type)

/-- Declares a variable as the next parameter. -/
def declareInherited (type name : String) : Edit Unit := do
  discard (declare type name)
  let rule ← get
  if name ∈ rule.inherited then Edit.fail (.inheritedTwice name rule.name)
  else set { rule with inherited := rule.inherited ++ [name] }

/-- Declares a variable as an export and tells whether it is a new export. -/
def declareExport (type name : String) : Edit Bool := do
  discard (declare type name)
  let rule ← get
  set { rule with exported := rule.exported.insert name }
  return !rule.exported.contains name

/-- Gives an action its code, unless it has some. -/
def addActionCode (name code : String) : Edit Unit :=
  modify fun rule => { rule with actions := rule.actions.insertIfNew name code }

/-- Appends an item to the last alternative of a list. -/
def appendToLast (item : Item) : List Alternative → List Alternative
  | [] => []
  | [last] => [⟨last.items ++ [item]⟩]
  | alternative :: rest => alternative :: appendToLast item rest

/-- Appends an item to the last alternative and declares the variable that it binds to a text. -/
def push (item : Item) : Edit Unit := do
  match item with
  | .assignText var _ => discard (declare textType var)
  | .assignRegex var name =>
    if name = emptyName then Edit.fail (.emptyAssigned var (← get).name)
    discard (declare textType var)
  | _ => pure ()
  modify fun rule => { rule with alternatives := appendToLast item rule.alternatives }

/-- Takes over the parameters of another declaration, which must agree when both have some. -/
def mergeInherited (other : Rule) : Edit Unit := do
  let rule ← get
  if rule.inherited = [] then set { rule with inherited := other.inherited }
  else if other.inherited ≠ [] && other.inherited ≠ rule.inherited then
    Edit.fail (.inheritedDiffer rule.name)

/-- Merges another declaration of the same non-terminal into the rule. -/
def merge (other : Rule) : Edit Unit := do
  let rule ← get
  if rule.name ≠ other.name then Edit.fail (.mergeAcross other.name rule.name)
  other.allVars.forM fun v => discard (declare v.type v.name)
  mergeInherited other
  modify fun rule =>
    { rule with
      exported := rule.exported ∪ other.exported
      actions := other.actions ∪ rule.actions
      alternatives := rule.alternatives ++ other.alternatives }

end Rule

end AttributeGrammar
