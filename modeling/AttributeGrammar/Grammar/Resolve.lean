import AttributeGrammar.Grammar.Basic

/-!
# Resolving a grammar

Resolving checks that everything a grammar refers to is declared, merges the actions into the rules
that call them, and carries exports along assignments: an item `(x = t)` gives its rule an export
`x_v` for each export `v` of `t`.

* `Grammar.referenceFault?` — the first reference to something undeclared.
* `Grammar.mergeActions` — every rule with the exports and the code of the actions it calls.
* `Resolution.exportsOf` — the exports of a rule after everything it assigns from was resolved. A rule
  that is being resolved already contributes the exports it has so far, so that cycles end.
* `Grammar.resolve` — the three steps, with the exports that were carried over on the way.
-/

set_option autoImplicit false

namespace AttributeGrammar

open Std (ExtTreeSet)

namespace Grammar

/-- The first thing an item refers to in vain. -/
def itemFault? (grammar : Grammar) (rule : String) : Item → Option GrammarFault
  | .rule target =>
    if (grammar.rule? target).isSome then none else some (.undeclaredTarget target rule)
  | .assignRule var target =>
    if (grammar.rule? target).isSome then none else some (.undeclaredSource var target rule)
  | .regex name | .assignRegex _ name =>
    if name = emptyName || grammar.hasRegex name then none else some (.undeclaredRegex name rule)
  | .action name =>
    if (grammar.action? name).isSome then none else some (.undeclaredAction name rule)
  | .text _ | .assignText _ _ => none

/-- The first reference to something undeclared: the start symbol's first, then those of the items. -/
def referenceFault? (grammar : Grammar) : Option GrammarFault :=
  if (grammar.rule? grammar.start).isNone then some (.startWithoutRules grammar.start)
  else grammar.rules.findSome? fun rule => rule.items.findSome? (grammar.itemFault? rule.name)

end Grammar

/-- Gives a rule the exports and the code of an action. -/
def Rule.adopt (action : Action) : Rule.Edit Unit := do
  action.exported.forM fun v => discard (declareExport v.type v.name)
  addActionCode action.name action.code

/-- Gives a rule the exports and the code of every action it calls, in the order of their names. -/
def Rule.adoptActions (grammar : Grammar) : Rule.Edit Unit := do
  (← get).actionCalls.toList.forM fun name =>
    match grammar.action? name with
    | some action => adopt action
    | none => Edit.fail (.unknownAction name)

/-- The rule that an edit leaves, unless it fails. -/
def Rule.edited {α : Type} (rule : Rule) (edit : Rule.Edit α) : Except GrammarError Rule :=
  match edit rule with
  | .ok _ changed => .ok changed
  | .error e _ => .error e

/-- Gives every rule the exports and the code of the actions that it calls. -/
def Grammar.mergeActions (grammar : Grammar) : Except GrammarError Grammar := do
  let rules ← grammar.rules.mapM fun rule => rule.edited (Rule.adoptActions grammar)
  return { grammar with rules }

/-- An export that a rule takes over from a child. -/
structure Reexport where
  rule : String
  exported : Variable
deriving DecidableEq, Repr

/-- The state of carrying exports along assignments. -/
structure Resolution where
  grammar : Grammar
  /-- The exports of the rules that are finished. -/
  done : List (String × List Variable)
  /-- The exports carried over so far. -/
  reexports : List Reexport

namespace Resolution

/-- A step of the resolution; its record of what was carried over survives a failure. -/
abbrev Step := EStateM GrammarError Resolution

/-- Runs an edit of a rule of the grammar. -/
def editRule {α : Type} (rule : Rule) (edit : Rule.Edit α) : Step α := fun state =>
  match Grammar.editRule rule edit state.grammar with
  | .ok a grammar => .ok a { state with grammar }
  | .error e grammar => .error e { state with grammar }

/-- The rule of a name, which an assignment refers to. -/
def source (name : String) : Step Rule := do
  match (← get).grammar.rule? name with
  | some rule => return rule
  | none => throw (.inconsistent (.unknownSource name))

/-- The variable that carries an export of a child assigned to `var`. -/
def derived (var : String) (exported : Variable) : Variable :=
  ⟨exported.type, var ++ "_" ++ exported.name⟩

/-- Gives a rule an export that it takes over from a child. -/
def reexport (name : String) (v : Variable) : Step Unit := do
  let isNew ← editRule (← source name) (Rule.declareExport v.type v.name)
  if isNew then modify fun state => { state with reexports := state.reexports ++ [⟨name, v⟩] }

/-- The exports of a rule after all that it assigns from was resolved. The stack holds the rules that
are being resolved; as no rule enters it twice, a depth of one more than the number of rules
is never used up. -/
def exportsOf : (depth : Nat) → (stack : List String) → (name : String) → Step (List Variable)
  | 0, _, _ => return []
  | depth + 1, stack, name => do
    match (← get).done.lookup name with
    | some exports => return exports
    | none =>
      let rule ← source name
      if name ∈ stack then return rule.exportedVars
      let carried ← rule.assigns.mapM fun (var, target) => do
        return (← exportsOf depth (name :: stack) target).map (derived var)
      carried.flatten.forM (reexport name)
      let exports := (← source name).exportedVars
      modify fun state => { state with done := (name, exports) :: state.done }
      return exports

end Resolution

namespace Grammar

/-- Carries exports along assignments, from every rule in the order of declaration. -/
def propagate : Resolution.Step Unit := do
  let names := (← get).grammar.rules.map Rule.name
  names.forM fun name => discard (Resolution.exportsOf (names.length + 1) [] name)

/-- Resolves a grammar, and tells which exports were carried over before it ended or failed. -/
def resolve (grammar : Grammar) : Except GrammarError Grammar × List Reexport :=
  match grammar.referenceFault? with
  | some fault => (.error (.inconsistent fault), [])
  | none =>
    match grammar.mergeActions with
    | .error e => (.error e, [])
    | .ok merged =>
      match propagate ⟨merged, [], []⟩ with
      | .ok _ state => (.ok state.grammar, state.reexports)
      | .error e state => (.error e, state.reexports)

end Grammar

end AttributeGrammar
