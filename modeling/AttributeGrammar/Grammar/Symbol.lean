import Std.Data.ExtTreeSet

/-!
# Terminals and symbols

* `Terminal` — what a scanner can deliver, and the marker for the empty string. Terminals are
  ordered: literals first, then regex terminals, then the end of input, then the marker; within a
  kind by name.
* `Symbol` — an element of a flattened alternative.
* `TerminalSet` — a set of terminals, listed in their order; two sets with the same members are equal.
-/

set_option autoImplicit false

namespace AttributeGrammar

/-- Something that the scanner can deliver, or the marker for the empty string. -/
inductive Terminal where
  /-- A literal token, matched by its text. -/
  | text (literal : String)
  /-- A named regex terminal, matched by the kind of the token. -/
  | regex (name : String)
  /-- The end of the input. -/
  | endOfInput
  /-- Derives the empty string; no scanner delivers it. -/
  | empty
deriving DecidableEq, Repr, Inhabited

/-- How the marker for the empty string is written. -/
def emptyName : String := "EPS"

/-- How the end of the input is written. -/
def endName : String := "END"

namespace Terminal

/-- The place of a kind of terminal in the order of terminals. -/
def rank : Terminal → Nat
  | .text _ => 0
  | .regex _ => 1
  | .endOfInput => 2
  | .empty => 3

/-- The name that orders terminals of one kind. -/
def key : Terminal → String
  | .text literal => literal
  | .regex name => name
  | .endOfInput => ""
  | .empty => ""

instance : Ord Terminal := ⟨compareLex (compareOn rank) (compareOn key)⟩

instance : Std.TransOrd Terminal :=
  inferInstanceAs (Std.TransCmp (compareLex (compareOn rank) (compareOn key)))

instance : Std.LawfulEqOrd Terminal where
  compare_self := Std.ReflCmp.compare_self
  eq_of_compare {a b} h := by
    have h : compareLex (compareOn rank) (compareOn key) a b = .eq := h
    simp only [compareLex, compareOn, Ordering.then_eq_eq, Std.LawfulEqCmp.compare_eq_iff_eq] at h
    cases a <;> cases b <;> simp_all [rank, key]

/-- A terminal as messages and tables show it. -/
def render : Terminal → String
  | .text literal => "'" ++ literal ++ "'"
  | .regex name => name
  | .endOfInput => endName
  | .empty => emptyName

end Terminal

/-- A set of terminals. -/
abbrev TerminalSet := Std.ExtTreeSet Terminal

/-- An element of a flattened alternative. -/
inductive Symbol where
  | terminal (t : Terminal)
  | nonTerminal (name : String)
deriving DecidableEq, Repr, Inhabited

namespace Symbol

/-- The symbol that a regex name stands for: the name of the empty string is its marker. -/
def ofRegexName (name : String) : Symbol :=
  if name = emptyName then .terminal .empty else .terminal (.regex name)

def render : Symbol → String
  | .terminal t => t.render
  | .nonTerminal name => name

end Symbol

example : Terminal.render (.text "+") = "'+'" := by decide
example : Symbol.ofRegexName "EPS" = .terminal .empty := by decide

end AttributeGrammar
