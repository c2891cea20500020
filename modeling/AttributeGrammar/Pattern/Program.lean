import AttributeGrammar.Pattern.Basic

/-!
# Programs of regular expressions

* `Instruction` — a step of a search: match a character, test a position, go on, or go on in two ways,
  of which the first is preferred.
* `Regex.code` — the instructions of an expression. They stand at a given place and end by going on to
  the instruction behind them.
* `Regex.program` — a whole program, which ends by accepting.
-/

set_option autoImplicit false

namespace AttributeGrammar

/-- A step of a search. -/
inductive Instruction where
  | accept
  /-- Matches one character and goes on to the next instruction. -/
  | set (s : CodeSet)
  | assert (a : Assertion)
  | jump (target : Nat)
  /-- Goes on in two ways, the first by preference. -/
  | split (first second : Nat)
deriving DecidableEq, Repr, Inhabited

namespace Regex

/-- A split that prefers the first way when greedy. -/
def choose (greedy : Bool) (first second : Nat) : Instruction :=
  if greedy then .split first second else .split second first

/-- A number of copies of some code. -/
def copies (code : Nat → List Instruction) : (count place : Nat) → List Instruction
  | 0, _ => []
  | count + 1, place =>
    let first := code place
    first ++ copies code count (place + first.length)

/-- At most a number of copies of some code, each of which leads to `target` when it is left out. -/
def optional (code : Nat → List Instruction) (greedy : Bool) (target : Nat) :
    (count place : Nat) → List Instruction
  | 0, _ => []
  | count + 1, place =>
    let first := code (place + 1)
    choose greedy (place + 1) target :: first ++
      optional code greedy target count (place + 1 + first.length)

/-- One or more rounds of some code. -/
def oneOrMore (code : Nat → List Instruction) (greedy : Bool) (place : Nat) : List Instruction :=
  let body := code place
  body ++ [choose greedy place (place + body.length + 1)]

/-- The code of a number of rounds. -/
def roundsCode (code : Nat → List Instruction) (greedy : Bool) (place : Nat) :
    (least : Nat) → (most : Option Nat) → List Instruction
  | 0, none =>
    let body := oneOrMore code greedy (place + 1)
    choose greedy (place + 1) (place + 1 + body.length) :: body
  | least + 1, none =>
    let front := copies code least place
    front ++ oneOrMore code greedy (place + front.length)
  | least, some most =>
    let front := copies code least place
    let start := place + front.length
    let size := (code start).length + 1
    front ++ optional code greedy (start + (most - least) * size) (most - least) start

/-- The instructions of an expression. -/
def code : Regex → (place : Nat) → List Instruction
  | .empty, _ => []
  | .set s, _ => [.set s]
  | .assert a, _ => [.assert a]
  | .seq first second, place =>
    let front := first.code place
    front ++ second.code (place + front.length)
  | .alt first second, place =>
    let left := first.code (place + 1)
    let middle := place + 1 + left.length + 1
    let right := second.code middle
    .split (place + 1) middle :: left ++ .jump (middle + right.length) :: right
  | .rounds least most greedy body, place => roundsCode body.code greedy place least most

/-- The program of an expression. -/
def program (regex : Regex) : Array Instruction := (regex.code 0 ++ [Instruction.accept]).toArray

end Regex

end AttributeGrammar
