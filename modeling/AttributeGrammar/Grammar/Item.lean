import AttributeGrammar.Grammar.Symbol
import AttributeGrammar.Text.Lines

/-!
# Variables, items and alternatives

* `Variable` — a typed attribute of a rule or an action.
* `sameType` — equality of types up to white space.
* `Item` — an element of an alternative, with `Item.symbol?` for what it contributes to the grammar
  that is analysed: an action call contributes nothing.
* `Alternative` — a sequence of items.
-/

set_option autoImplicit false

namespace AttributeGrammar

/-- A typed attribute variable. -/
structure Variable where
  type : String
  name : String
deriving DecidableEq, Repr, Inhabited

def Variable.render (v : Variable) : String := v.type ++ " " ++ v.name

/-- A type without its white space. -/
def squeezeType (type : String) : List Char :=
  type.toList.filter fun c => !Text.isBlank c

/-- Whether two types are equal up to white space. -/
def sameType (a b : String) : Bool := squeezeType a = squeezeType b

@[simp] theorem sameType_iff {a b : String} : sameType a b ↔ squeezeType a = squeezeType b := by
  simp [sameType]

/-- The type of the variables that text and regex assignments bind. -/
def textType : String := "String"

/-- An element of an alternative. -/
inductive Item where
  /-- A literal token. -/
  | text (literal : String)
  /-- A token of a regex terminal, or nothing when the name is that of the empty string. -/
  | regex (name : String)
  /-- A child node of a rule. -/
  | rule (target : String)
  /-- A child node of a rule, whose exports become variables of this rule. -/
  | assignRule (var target : String)
  /-- A literal token whose text goes into a variable. -/
  | assignText (var literal : String)
  /-- A token of a regex terminal whose text goes into a variable. -/
  | assignRegex (var name : String)
  /-- A call of an action. -/
  | action (name : String)
deriving DecidableEq, Repr, Inhabited

namespace Item

/-- The symbol that an item contributes to the analysed grammar. -/
def symbol? : Item → Option Symbol
  | .text literal | .assignText _ literal => some (.terminal (.text literal))
  | .regex name | .assignRegex _ name => some (.ofRegexName name)
  | .rule target | .assignRule _ target => some (.nonTerminal target)
  | .action _ => none

/-- The literal that an item asks for. -/
def literal? : Item → Option String
  | .text literal | .assignText _ literal => some literal
  | _ => none

/-- The variable and the rule of a non-terminal assignment. -/
def assign? : Item → Option (String × String)
  | .assignRule var target => some (var, target)
  | _ => none

/-- The action that an item calls. -/
def action? : Item → Option String
  | .action name => some name
  | _ => none

/-- An item as a description writes it, without escapes. -/
def render : Item → String
  | .text literal => s!"'{literal}'"
  | .regex name | .rule name => name
  | .assignRule var target => s!"({var} = {target})"
  | .assignText var literal => s!"({var} = '{literal}')"
  | .assignRegex var name => s!"({var} = {name})"
  | .action name => s!"${name}"

end Item

/-- A sequence of items. -/
structure Alternative where
  items : List Item
deriving DecidableEq, Repr, Inhabited

namespace Alternative

/-- The symbols that the analysis sees. -/
def symbols (alternative : Alternative) : List Symbol :=
  alternative.items.filterMap Item.symbol?

def render (alternative : Alternative) : String :=
  " ".intercalate (alternative.items.map Item.render)

end Alternative

end AttributeGrammar
