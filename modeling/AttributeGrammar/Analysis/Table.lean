import AttributeGrammar.Analysis.Follow

/-!
# Analysis of a grammar

* `Analysis` — the FIRST and FOLLOW sets of a grammar, and the sequences whose FIRST set was asked
  for, with the answers.
* `Analysis.getFirst` — the FIRST set of a sequence; an answer once given is given again.
* `Analysis.findConflict` — the first pair of alternatives that one token does not tell apart.
* `Analysis.ofGrammar` — the analysis of a grammar that has no such pair.
-/

set_option autoImplicit false

namespace AttributeGrammar

/-- Two alternatives of a rule that one token of lookahead cannot tell apart. -/
structure Conflict where
  rule : String
  first : List Symbol
  second : List Symbol
deriving DecidableEq, Repr

namespace Conflict

/-- A flat alternative as a rule line, without the end of the input. -/
def line (rule : String) (symbols : List Symbol) : String :=
  rule ++ " :" ++ String.join
    ((symbols.filter fun s => s ≠ .terminal .endOfInput).map fun s => " " ++ s.render)

def firstLine (conflict : Conflict) : String := line conflict.rule conflict.first

def secondLine (conflict : Conflict) : String := line conflict.rule conflict.second

def message (conflict : Conflict) : String :=
  s!"parser can not be generated because of rules:\n{conflict.firstLine}\n{conflict.secondLine}"

end Conflict

/-- The tables of a grammar, and the answers given from them. -/
structure Analysis where
  flat : Flat
  terminals : TerminalSet
  first : SetTable
  follow : SetTable
  answers : List (List Symbol × TerminalSet)
deriving Inhabited

namespace Analysis

/-- The tables of a flat grammar, before any question. -/
def ofFlat (flat : Flat) : Analysis :=
  let first := flat.firstTable
  ⟨flat, flat.terminals, first, flat.followTable first, []⟩

/-- The FIRST set of a sequence of symbols. -/
def getFirst (symbols : List Symbol) : StateM Analysis TerminalSet := fun analysis =>
  match analysis.answers.lookup symbols with
  | some set => (set, analysis)
  | none =>
    let set := firstOf analysis.first symbols
    (set, { analysis with answers := (symbols, set) :: analysis.answers })

/-- The FIRST set of a sequence of symbols, straight from the table. -/
def firstSet (analysis : Analysis) (symbols : List Symbol) : TerminalSet :=
  firstOf analysis.first symbols

/-- The FOLLOW set of a name; the empty set for a name that never occurs. -/
def getFollow (analysis : Analysis) (name : String) : TerminalSet := analysis.follow.setOf name

/-- Whether two sets have a member in common. -/
def meets (a b : TerminalSet) : Bool := a.any b.contains

/-- Whether a token can select both of two alternatives with these FIRST sets: either both can start
with it, or the first one may be empty and the token both follows the rule and starts the second. -/
def clashes (follow first second : TerminalSet) : Bool :=
  meets first second || (first.contains .empty && meets follow second)

/-- The first alternative other than number `index` that clashes with it. -/
def findRival (rule : String) (alternatives : List (List Symbol)) (index : Nat)
    (alternative : List Symbol) : StateM Analysis (Option Conflict) := do
  let follow := (← get).getFollow rule
  let first ← getFirst alternative
  alternatives.zipIdx.findSomeM? fun (other, otherIndex) => do
    if otherIndex = index then return none
    let second ← getFirst other
    if clashes follow first second then return some ⟨rule, alternative, other⟩ else return none

/-- The first pair of alternatives of a rule that one token does not tell apart. -/
def findConflict : StateM Analysis (Option Conflict) := do
  (← get).flat.rules.findSomeM? fun (rule, alternatives) =>
    alternatives.zipIdx.findSomeM? fun (alternative, index) =>
      findRival rule alternatives index alternative

/-- The analysis of a grammar that is LL(1). -/
def ofGrammar (grammar : Grammar) : Except Conflict Analysis :=
  match findConflict (ofFlat (.ofGrammar grammar)) with
  | (some conflict, _) => .error conflict
  | (none, analysis) => .ok analysis

/-- A set as a line of the summary shows it. -/
def renderSet (set : TerminalSet) : String := ", ".intercalate (set.toList.map Terminal.render)

/-- One line for each rule with its two sets. -/
def summary (analysis : Analysis) : List String :=
  analysis.flat.rules.map fun (rule, _) =>
    rule ++ ": FIRST = \x7b" ++ renderSet (analysis.first.setOf rule) ++ "\x7d, FOLLOW = \x7b" ++
      renderSet (analysis.getFollow rule) ++ "\x7d"

end Analysis

end AttributeGrammar
