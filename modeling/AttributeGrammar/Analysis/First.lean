import AttributeGrammar.Analysis.Flat

/-!
# FIRST sets

* `firstOf` — the terminals that can start what a sequence derives, from a table of such sets for
  the non-terminals; the marker for the empty string tells that the sequence may derive it. The end
  of the input counts as a terminal that may also be left out.
* `Flat.firstPass`, `Flat.firstTable` — the table, as the limit of passes over the rules.
-/

set_option autoImplicit false

namespace AttributeGrammar

/-- The set of one symbol. -/
def firstOfSymbol (table : SetTable) : Symbol → TerminalSet
  | .terminal .endOfInput => {.endOfInput, .empty}
  | .terminal t => {t}
  | .nonTerminal name => table.setOf name

/-- The set of a sequence of symbols. -/
def firstOf (table : SetTable) : List Symbol → TerminalSet
  | [] => {.empty}
  | symbol :: rest =>
    let set := firstOfSymbol table symbol
    if set.contains .empty then set.erase .empty ∪ firstOf table rest else set

/-- The union of the sets of some sequences. -/
def firstOfAny (table : SetTable) (alternatives : List (List Symbol)) : TerminalSet :=
  alternatives.foldl (fun set symbols => set ∪ firstOf table symbols) ∅

namespace Flat

/-- Grows the set of every rule once, in the order of the rules. -/
def firstPass (flat : Flat) : SetTable → SetTable × Bool :=
  SetTable.growAll Prod.fst (fun table rule => firstOfAny table rule.2) flat.rules

/-- One more than the number of members that the sets of all rules can have. -/
def firstBound (flat : Flat) : Nat := flat.rules.length * (flat.terminals.size + 1) + 1

/-- The FIRST sets of the rules. -/
def firstTable (flat : Flat) : SetTable := SetTable.iterate flat.firstPass flat.firstBound ∅

end Flat

end AttributeGrammar
