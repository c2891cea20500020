import AttributeGrammar.Description.Name
import AttributeGrammar.Description.Quoted
import AttributeGrammar.Grammar.Basic

/-!
# Declarations

The readers for the lines of a description.

* `ruleDecl` — `name [inherited] : items`
* `regexDecl` — `NAME : 'pattern'`
* `actionHeader` — `$name[exported] {`, with the text behind the brace left over
* `startDecl` — the name of the start symbol alone
* `RuleDecl.toRule` — the rule that a declaration stands for.
-/

set_option autoImplicit false

namespace AttributeGrammar.Description

open Reader

/-- A rule line. -/
structure RuleDecl where
  name : String
  inherited : List Variable
  items : List Item
deriving DecidableEq, Repr

/-- Whether a character may stand in a type. -/
def isTypePart (c : Char) : Bool := !Text.isBlank c && c ≠ ',' && c ≠ ']'

/-- An entry of a variable list, with the comma behind it if there is one. -/
def variableEntry : Reader Variable := do
  spaces
  let type ← takeWhile1 isTypePart .nonBlank
  spaces1
  let name ← identifier
  spaces
  discard (optional (char ','))
  return ⟨type, name⟩

/-- A list of variables in brackets. -/
def variableList : Reader (List Variable) := do
  char '['
  let entries ← many variableEntry
  spaces
  char ']'
  return entries

/-- The item of a name that stands alone. -/
def Name.toItem : Name → Item
  | .rule name => .rule name
  | .regex name => .regex name

/-- The item that assigns from a name. -/
def Name.toAssignment (var : String) : Name → Item
  | .rule name => .assignRule var name
  | .regex name => .assignRegex var name

/-- An assignment in parentheses. -/
def assignment : Reader Item := do
  char '('
  spaces
  let var ← identifier
  spaces
  char '='
  spaces
  let item ← Reader.orElse (Item.assignText var <$> literal) (Name.toAssignment var <$> name)
  spaces
  char ')'
  return item

/-- A call of an action. -/
def actionCall : Reader Item := do
  char '$'
  Item.action <$> identifier

/-- An element of an alternative. -/
def item : Reader Item :=
  assignment.orElse <| actionCall.orElse <| Reader.orElse (Item.text <$> literal) <|
    Name.toItem <$> name

/-- A rule with one alternative. -/
def ruleDecl : Reader RuleDecl := whole do
  spaces
  let name ← ruleName
  spaces
  let inherited ← optional variableList
  spaces
  char ':'
  let items ← many do
    spaces
    item
  spaces
  return ⟨name, inherited.getD [], items⟩

/-- A regex terminal. -/
def regexDecl : Reader RegexTerminal := whole do
  spaces
  let name ← regexName
  spaces
  char ':'
  spaces
  let text ← pattern
  spaces
  return ⟨name, text⟩

/-- The head of an action: its name and its exports. -/
def actionHeader : Reader (String × List Variable) := do
  spaces
  char '$'
  let name ← identifier
  spaces
  let exported ← variableList
  spaces
  char '\x7b'
  return (name, exported)

/-- The start symbol alone. -/
def startDecl : Reader String := whole do
  spaces
  let name ← ruleName
  spaces
  return name

/-- Declares the parameters and appends the items. -/
def RuleDecl.build (decl : RuleDecl) : Rule.Edit Unit := do
  decl.inherited.forM fun v => Rule.declareInherited v.type v.name
  decl.items.forM Rule.push

/-- The rule that a declaration stands for. -/
def RuleDecl.toRule (decl : RuleDecl) : Except GrammarError Rule :=
  match decl.build (Rule.new decl.name) with
  | .ok _ rule => .ok rule
  | .error e _ => .error e

end AttributeGrammar.Description
