import AttributeGrammar.Code.TypeSyntax

/-!
# Emitted parsers

An emitted parser has one node type for each rule. A node type has a dispatch method, which looks at
one token and hands over to a body, one body for each alternative, and one method for each action.

* `Check`, `Statement` — the conditions of a dispatch method and the statements of a body.
* `NodeType`, `ParserCode` — a node type, and a whole parser with its entry point.
-/

set_option autoImplicit false

namespace AttributeGrammar.Synthesis

open Code (TokenList)

/-- A field of a node type or a parameter of its constructor. -/
structure Field where
  /-- The identifier in the code. -/
  name : String
  /-- The type as it was declared. -/
  type : String
  /-- The type in the code. -/
  typeCode : TokenList
deriving Repr, Inhabited

/-- A condition on the token that a dispatch method looks at. -/
inductive Check where
  | text (literal : String)
  | kind (name : String)
  | endOfInput
deriving DecidableEq, Repr

/-- A condition, and the body that it selects. -/
structure Branch where
  check : Check
  body : Nat
deriving DecidableEq, Repr

/-- The construction of a child node. -/
structure ChildCall where
  node : String
  /-- The fields of the parent that are passed to the constructor. -/
  arguments : List String
  /-- The fields of the parent that receive a field of the child, and those fields. -/
  copies : List (String × String)
deriving DecidableEq, Repr

/-- A statement of a body. -/
inductive Statement where
  /-- Reads a literal, and stores its text in a field if one is given. -/
  | expectText (literal : String) (into : Option String)
  /-- Reads a token of a kind, and stores its text in a field if one is given. -/
  | expectKind (kind : String) (into : Option String)
  | child (call : ChildCall)
  /-- Calls the method of an action. -/
  | act (action : String)
deriving DecidableEq, Repr

/-- Whether a statement uses the scanner. -/
def Statement.consumes : Statement → Bool
  | .act _ => false
  | _ => true

/-- The method of an action. -/
structure ActionMethod where
  action : String
  code : TokenList
deriving Repr

/-- The node type of a rule. -/
structure NodeType where
  name : String
  fields : List Field
  /-- The parameters of the constructor. -/
  parameters : List Field
  dispatch : List Branch
  bodies : List (List Statement)
  actions : List ActionMethod
deriving Repr, Inhabited

/-- A program that parses one line and prints the exports of the start node. -/
structure Demo where
  /-- The number of parameters of the entry point besides the input. -/
  parameters : Nat
  /-- The exports under their names, with the fields that hold them. -/
  exports : List (String × String)
deriving DecidableEq, Repr

/-- A whole parser. -/
structure ParserCode where
  nodes : List NodeType
  /-- The node type of the start rule. -/
  start : String
  /-- The parameters of the entry point besides the input. -/
  parameters : List Field
  demo : Option Demo
deriving Repr, Inhabited

namespace ParserCode

def node? (code : ParserCode) (name : String) : Option NodeType :=
  code.nodes.find? fun node => node.name = name

end ParserCode

end AttributeGrammar.Synthesis
