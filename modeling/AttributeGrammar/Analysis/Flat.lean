import Std.Data.ExtTreeMap
import AttributeGrammar.Grammar.Basic

/-!
# Flat grammars

The grammar as the analysis sees it: every alternative is a sequence of symbols, and those of the
start rule end with the end of the input.

* `Flat.ofGrammar` — the flat form of a grammar.
* `Flat.terminals` — the terminals that occur, and the end of the input.
* `Flat.occurrences` — every occurrence of a non-terminal with what follows it.
* `SetTable` — a terminal set for each name; names without an entry have the empty set.
* `SetTable.iterate` — repeats a pass over a table until it changes nothing.
-/

set_option autoImplicit false

namespace AttributeGrammar

open Std (ExtTreeMap ExtTreeSet)

/-- A grammar of symbol sequences. -/
structure Flat where
  start : String
  rules : List (String × List (List Symbol))
deriving DecidableEq, Repr, Inhabited

namespace Flat

/-- The flat form of an alternative of the rule `rule`. -/
def alternative (start rule : String) (alternative : Alternative) : List Symbol :=
  if rule = start then alternative.symbols ++ [.terminal .endOfInput] else alternative.symbols

/-- The flat form of a grammar. -/
def ofGrammar (grammar : Grammar) : Flat where
  start := grammar.start
  rules := grammar.rules.map fun rule =>
    (rule.name, rule.alternatives.map (alternative grammar.start rule.name))

/-- Every symbol of every alternative. -/
def symbols (flat : Flat) : List Symbol := flat.rules.flatMap fun (_, alternatives) => alternatives.flatten

/-- A terminal that is not the marker for the empty string. -/
def properTerminal? : Symbol → Option Terminal
  | .terminal .empty => none
  | .terminal t => some t
  | .nonTerminal _ => none

/-- The terminals that occur, without the marker for the empty string, and the end of the input. -/
def terminals (flat : Flat) : TerminalSet :=
  .ofList (.endOfInput :: flat.symbols.filterMap properTerminal?)

/-- The name of a non-terminal. -/
def nonTerminal? : Symbol → Option String
  | .terminal _ => none
  | .nonTerminal name => some name

/-- The names of rules, of the start symbol and of the non-terminals that occur. -/
def names (flat : Flat) : ExtTreeSet String :=
  .ofList (flat.start :: flat.rules.map Prod.fst ++ flat.symbols.filterMap nonTerminal?)

/-- An occurrence of a non-terminal in an alternative of the rule `rule`, and what follows it. -/
structure Occurrence where
  rule : String
  name : String
  tail : List Symbol
deriving DecidableEq, Repr

/-- The occurrences of non-terminals in an alternative, from left to right. -/
def occurrencesIn (rule : String) : List Symbol → List Occurrence
  | [] => []
  | .nonTerminal name :: tail => ⟨rule, name, tail⟩ :: occurrencesIn rule tail
  | .terminal _ :: tail => occurrencesIn rule tail

/-- The occurrences of non-terminals in all alternatives. -/
def occurrences (flat : Flat) : List Occurrence :=
  flat.rules.flatMap fun (rule, alternatives) => alternatives.flatMap (occurrencesIn rule)

end Flat

/-- A terminal set for each name. -/
abbrev SetTable := ExtTreeMap String TerminalSet

namespace SetTable

/-- The set of a name. -/
def setOf (table : SetTable) (name : String) : TerminalSet := table[name]?.getD ∅

/-- Adds terminals to the set of a name. Also tells whether the set has grown. -/
def grow (table : SetTable) (name : String) (added : TerminalSet) : SetTable × Bool :=
  if added.all (table.setOf name).contains then (table, false)
  else (table.insert name (table.setOf name ∪ added), true)

/-- Lets each entry of a list grow a set of the table, in order, each on what the ones before it
left. Also tells whether any set has grown. -/
def growAll {α : Type} (name : α → String) (added : SetTable → α → TerminalSet) (entries : List α)
    (table : SetTable) : SetTable × Bool :=
  entries.foldl (fun (table, changed) entry =>
    let (table, grown) := table.grow (name entry) (added table entry)
    (table, changed || grown)) (table, false)

/-- Repeats a pass until it reports no change, at most `bound` times. -/
def iterate (pass : SetTable → SetTable × Bool) : (bound : Nat) → SetTable → SetTable
  | 0, table => table
  | bound + 1, table =>
    match pass table with
    | (table, true) => iterate pass bound table
    | (table, false) => table

end SetTable

end AttributeGrammar
