import AttributeGrammar.Pattern.Parse
import AttributeGrammar.Pattern.Program
import AttributeGrammar.Pattern.Size

/-!
# Searching with a pattern

A search follows all ways through a program at once, one character after the other, in the order in
which they are preferred; the first match from the leftmost start wins.

* `Search.closure` — the instructions reachable without a character, each once.
* `Search.run` — the end of the preferred match, as a number of characters.
* `Pattern.Compiled` — a pattern that can be searched with; `Pattern.compile?` makes one.
* `Pattern.ofToken` — the pattern that a scanner searches with for a token: its text is put behind
  an anchor, between parentheses.
-/

set_option autoImplicit false

namespace AttributeGrammar

namespace Search

/-- The instructions of `work`, and those reachable from them without a character, in the order of
preference and each only once. Only instructions that match a character or accept are listed. -/
def closure (program : Array Instruction) (before after : Option Char) :
    (fuel : Nat) → (seen : Array Bool) → (work : List Nat) → List Nat
  | 0, _, _ => []
  | _ + 1, _, [] => []
  | fuel + 1, seen, pc :: work =>
    if seen[pc]?.getD true then closure program before after fuel seen work
    else
      let seen := seen.setIfInBounds pc true
      match program[pc]? with
      | none => closure program before after fuel seen work
      | some .accept => pc :: closure program before after fuel seen work
      | some (.set _) => pc :: closure program before after fuel seen work
      | some (.assert a) =>
        closure program before after fuel seen
          (if a.holds before after then (pc + 1) :: work else work)
      | some (.jump target) => closure program before after fuel seen (target :: work)
      | some (.split first second) =>
        closure program before after fuel seen (first :: second :: work)

/-- The ways on from a position: those of `work` in their order. -/
def threads (program : Array Instruction) (before after : Option Char) (work : List Nat) :
    List Nat :=
  closure program before after (work.length + 2 * program.size + 1)
    (Array.replicate program.size false) work

/-- The ways that come before the first accepting one, and whether there is such. -/
def untilAccept (program : Array Instruction) : List Nat → List Nat × Bool
  | [] => ([], false)
  | pc :: rest =>
    if program[pc]? = some .accept then ([], true)
    else
      let (front, accepted) := untilAccept program rest
      (pc :: front, accepted)

/-- The ways that lead over a character. -/
def advance (program : Array Instruction) (c : Char) (ways : List Nat) : List Nat :=
  ways.filterMap fun (pc : Nat) =>
    match program[pc]? with
    | some (.set s) => if s.contains c.toNat then some (pc + 1) else none
    | _ => none

/-- The end of the preferred match in a text, counted in characters from `position`. When a search
is not anchored and found nothing yet, each position starts another way, the least preferred. -/
def run (program : Array Instruction) (anchored : Bool) (before : Option Char) (work : List Nat)
    (position : Nat) (best : Option Nat) (text : List Char) : Option Nat :=
  let work := if anchored || best.isSome then work else work ++ [0]
  let (ways, accepted) := untilAccept program (threads program before text.head? work)
  let best := if accepted then some position else best
  match text with
  | [] => best
  | c :: rest =>
    let work := advance program c ways
    if work.isEmpty && (anchored || best.isSome) then best
    else run program anchored (some c) work (position + 1) best rest
termination_by structural text

end Search

namespace Pattern

/-- A pattern that can be searched with. -/
structure Compiled where
  program : Array Instruction
  /-- Whether every match starts at the start of the text. -/
  anchored : Bool
deriving DecidableEq, Repr, Inhabited

/-- Compiles a pattern, unless it is malformed or too large. -/
def compile? (pattern : List Char) : Option Compiled := do
  let piece ← parse? pattern
  if piece.form.isTooLarge then none
  return ⟨piece.regex.program, piece.regex.isAnchored⟩

/-- The end of the preferred match in a text, in characters. -/
def Compiled.matchEnd? (compiled : Compiled) (text : List Char) : Option Nat :=
  Search.run compiled.program compiled.anchored none (if compiled.anchored then [0] else []) 0 none
    text

/-- The pattern that a scanner searches with: a token's pattern, behind an anchor and between
parentheses. -/
def ofToken (pattern : String) : List Char :=
  "^(?:".toList ++ pattern.toList ++ ")".toList

/-- Compiles the pattern of a token. -/
def compileToken? (pattern : String) : Option Compiled := compile? (ofToken pattern)

end Pattern

end AttributeGrammar
