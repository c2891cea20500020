import AttributeGrammar.Text.Lines

/-!
# Names of node types

* `nodeName` — the name of the type of a rule's nodes: the parts between underscores, each with an
  upper-case first letter, and a fixed ending. Different rules may get the same name.
-/

set_option autoImplicit false

namespace AttributeGrammar.Synthesis

/-- A text with its first letter in upper case, when it is an ASCII letter. -/
def capitalize : List Char → List Char
  | [] => []
  | c :: rest => c.toUpper :: rest

/-- The name of the type of a rule's nodes. -/
def nodeName (rule : String) : String :=
  String.ofList ((Text.cutAt '_' rule.toList).flatMap capitalize ++ "Node".toList)

example : nodeName "expr_tail" = "ExprTailNode" := by decide
example : nodeName "x__y" = "XYNode" := by decide

end AttributeGrammar.Synthesis
