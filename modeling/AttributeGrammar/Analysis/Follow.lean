import AttributeGrammar.Analysis.First

/-!
# FOLLOW sets

* `Flat.followAdded` — what an occurrence of a non-terminal adds to its set: the terminals that can
  start what stands behind it, and the set of the rule itself when that can be empty.
* `Flat.followPass`, `Flat.followTable` — the table, as the limit of passes over the occurrences.
-/

set_option autoImplicit false

namespace AttributeGrammar.Flat

/-- What an occurrence adds to the FOLLOW set of its non-terminal. -/
def followAdded (first follow : SetTable) (occurrence : Occurrence) : TerminalSet :=
  let set := firstOf first occurrence.tail
  if set.contains .empty then set.erase .empty ∪ follow.setOf occurrence.rule else set

/-- Grows the set of every occurring non-terminal once, in the order of the occurrences. -/
def followPass (flat : Flat) (first : SetTable) : SetTable → SetTable × Bool :=
  SetTable.growAll Occurrence.name (followAdded first) flat.occurrences

/-- One more than the number of members that the sets of all names can have. -/
def followBound (flat : Flat) : Nat := flat.names.size * flat.terminals.size + 1

/-- The FOLLOW sets; the end of the input follows the start symbol. -/
def followTable (flat : Flat) (first : SetTable) : SetTable :=
  SetTable.iterate (flat.followPass first) flat.followBound
    ((∅ : SetTable).insert flat.start {.endOfInput})

end AttributeGrammar.Flat
