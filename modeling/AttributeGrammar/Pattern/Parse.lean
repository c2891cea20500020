import AttributeGrammar.Pattern.Bracket
import AttributeGrammar.Pattern.Form

/-!
# Reading regular expressions

* `Piece` — an expression that was read, with the form by which its size is counted.
* `Level` — a group that is being read: its finished branches and the pieces of the open one.
* `repetition?` — reads the operator for a number of rounds.
* `opening?` — reads the start of a group, or a directive that sets flags.
* `parse?` — reads a whole pattern; `Regex.parse?` is the expression that it stands for.
-/

set_option autoImplicit false

namespace AttributeGrammar

namespace Pattern

/-- An element of a sequence. -/
structure Piece where
  regex : Regex
  /-- How deeply it is nested. -/
  depth : Nat
  /-- Whether it only sets flags, so that it cannot be repeated. -/
  isDirective : Bool
  form : Form

/-- A group whose closing parenthesis was not read yet. -/
structure Level where
  flags : Flags
  /-- Whether its match is recorded. -/
  captures : Bool
  /-- The finished branches, the last one first. -/
  branches : List Piece
  /-- The pieces of the open branch, the last one first. -/
  pieces : List Piece

/-- An expression that holds no others, except those of a class of the given depth. -/
def Piece.atom (regex : Regex) (depth : Nat) : Piece := ⟨regex, depth, false, .ofAtom regex⟩

/-- A directive that sets flags. -/
def Piece.directive : Piece := ⟨.empty, 0, true, .empty⟩

/-- A group around a piece. -/
def Piece.grouped (captures : Bool) (piece : Piece) : Piece :=
  ⟨piece.regex, 1 + piece.depth, false, if captures then .capture piece.form else piece.form⟩

/-- The depth of a node around some pieces. -/
def depthAround (pieces : List Piece) : Nat := 1 + (pieces.map Piece.depth).foldl max 0

namespace Level

/-- The open branch as one piece. -/
def branch (level : Level) : Piece :=
  match level.pieces.reverse with
  | [] => .atom .empty 0
  | [piece] => piece
  | pieces =>
    ⟨.seqs (pieces.map Piece.regex), depthAround pieces, false, .sequence (pieces.map Piece.form)⟩

/-- All branches as one piece. -/
def whole (level : Level) : Piece :=
  match level.branches with
  | [] => level.branch
  | branches =>
    let all := (level.branch :: branches).reverse
    ⟨.alts (all.map Piece.regex), depthAround all, false, .choice (all.map Piece.form)⟩

def addPiece (piece : Piece) (level : Level) : Level :=
  { level with pieces := piece :: level.pieces }

def nextBranch (level : Level) : Level :=
  { level with branches := level.branch :: level.branches, pieces := [] }

/-- Repeats the last piece. -/
def repeatLast? (least : Nat) (most : Option Nat) (greedy : Bool) (level : Level) : Option Level :=
  match level.pieces with
  | [] => none
  | piece :: pieces =>
    if piece.isDirective then none
    else
      let greedy := greedy != level.flags.swapGreed
      let (least, most) := piece.form.countedRounds least most
      let regex := Regex.rounds least most greedy piece.regex
      let form := piece.form.repeated least most greedy
      some { level with pieces := ⟨regex, 1 + piece.depth, false, form⟩ :: pieces }

end Level

/-- Reads the digits of a number. -/
def digits (flags : Flags) : (fuel : Nat) → List Char → List Char × List Char
  | 0, text => ([], text)
  | _ + 1, [] => ([], [])
  | fuel + 1, c :: rest =>
    if c.isDigit then
      let (more, rest) := digits flags fuel (skipBlanks flags rest)
      (c :: more, rest)
    else ([], c :: rest)

/-- Reads a number of at most 32 bits, with the blanks around it. -/
def decimal? (flags : Flags) (text : List Char) : Option (Nat × List Char) :=
  let (front, rest) := digits flags (text.length + 1) (text.dropWhile Text.isBlank)
  let value := front.foldl (fun n c => n * 10 + (c.toNat - '0'.toNat)) 0
  if front = [] || 0xFFFFFFFF < value then none
  else some (value, if flags.verbose then dropBlanks false rest else rest.dropWhile Text.isBlank)

/-- Reads the bounds of a counted repetition behind its opening brace. -/
def bounds? (flags : Flags) (text : List Char) : Option (Nat × Option Nat × List Char) := do
  let (least, rest) ← decimal? flags (skipBlanks flags text)
  match rest with
  | '\x7d' :: rest => return (least, some least, rest)
  | ',' :: rest =>
    match skipBlanks flags rest with
    | '\x7d' :: rest => return (least, none, rest)
    | rest =>
      match ← decimal? flags rest with
      | (most, '\x7d' :: rest) => if most < least then none else return (least, some most, rest)
      | _ => none
  | _ => none

/-- Reads a question mark that makes an operator prefer few rounds. -/
def greediness : List Char → Bool × List Char
  | '?' :: rest => (false, rest)
  | rest => (true, rest)

/-- Reads the numbers of rounds that an operator allows. -/
def rounds? (flags : Flags) : List Char → Option (Nat × Option Nat × List Char)
  | '?' :: rest => some (0, some 1, rest)
  | '*' :: rest => some (0, none, rest)
  | '+' :: rest => some (1, none, rest)
  | '\x7b' :: rest =>
    (bounds? flags rest).map fun (least, most, rest) => (least, most, skipBlanks flags rest)
  | _ => none

/-- Reads an operator for a number of rounds. -/
def repetition? (flags : Flags) (text : List Char) :
    Option (Nat × Option Nat × Bool × List Char) := do
  let (least, most, rest) ← rounds? flags text
  let (greedy, rest) := greediness rest
  return (least, most, greedy, rest)

def isAlphabetic (c : Char) : Bool := Unicode.Property.alphabetic.contains c.toNat

def isNumeric (c : Char) : Bool :=
  [Unicode.Category.decimalNumber, Unicode.Category.letterNumber,
    Unicode.Category.otherNumber].any fun set => set.contains c.toNat

/-- Whether a text may name a group. -/
def isGroupName : List Char → Bool
  | [] => false
  | c :: rest =>
    (c = '_' || isAlphabetic c) &&
      rest.all fun d => d ∈ ['_', '.', '[', ']'] || isAlphabetic d || isNumeric d

/-- What an opening parenthesis starts. -/
inductive Opening where
  /-- A group with the flags inside of it, whether its match is recorded, and its name if it has one. -/
  | group (flags : Flags) (captures : Bool) (name : Option (List Char))
  /-- A directive that sets flags for the rest of the group around it. -/
  | directive (flags : Flags)
deriving DecidableEq, Repr

/-- Reads the name of a group up to the angle bracket behind it. -/
def groupName? (flags : Flags) (text : List Char) : Option (Opening × List Char) :=
  match text.span (· ≠ '>') with
  | (name, _ :: rest) => if isGroupName name then some (.group flags true name, rest) else none
  | (_, []) => none

/-- Reads the start of a group, or a directive, behind an opening parenthesis. -/
def opening? (flags : Flags) (text : List Char) : Option (Opening × List Char) :=
  match skipBlanks flags text with
  | '?' :: '=' :: _ | '?' :: '!' :: _ | '?' :: '<' :: '=' :: _ | '?' :: '<' :: '!' :: _ => none
  | '?' :: 'P' :: '<' :: rest | '?' :: '<' :: rest => groupName? flags rest
  | '?' :: rest =>
    match flags.parse? [] rest with
    | some (flags, .group, rest) => some (.group flags false none, rest)
    | some (flags, .directive false, rest) => some (.directive flags, rest)
    | _ => none
  | rest => some (.group flags true none, rest)

/-- Reads on in a group, inside of the groups around it. `names` are the names of groups so far. -/
def patternLoop? : (fuel : Nat) → (names : List (List Char)) → Level → List Level → List Char →
    Option Piece
  | 0, _, _, _, _ => none
  | fuel + 1, names, level, around, text => do
    match skipBlanks level.flags text with
    | [] => if around = [] then return level.whole else none
    | '(' :: rest =>
      match ← opening? level.flags rest with
      | (.directive flags, rest) =>
        patternLoop? fuel names { level.addPiece .directive with flags } around rest
      | (.group flags captures none, rest) =>
        patternLoop? fuel names ⟨flags, captures, [], []⟩ (level :: around) rest
      | (.group flags captures (some name), rest) =>
        if name ∈ names then none
        else patternLoop? fuel (name :: names) ⟨flags, captures, [], []⟩ (level :: around) rest
    | ')' :: rest =>
      match around with
      | [] => none
      | outer :: around =>
        patternLoop? fuel names (outer.addPiece (level.whole.grouped level.captures)) around rest
    | '|' :: rest => patternLoop? fuel names level.nextBranch around rest
    | '[' :: rest =>
      let (part, rest) ← bracket? level.flags rest
      patternLoop? fuel names (level.addPiece (.atom (.set part.set) part.depth)) around rest
    | c :: rest =>
      if c ∈ ['?', '*', '+', '\x7b'] then
        let (least, most, greedy, rest) ← repetition? level.flags (c :: rest)
        patternLoop? fuel names (← level.repeatLast? least most greedy) around rest
      else
        let (primitive, rest) ← primitive? level.flags (c :: rest)
        let regex ← primitive.toRegex? level.flags
        patternLoop? fuel names (level.addPiece (.atom regex 0)) around rest

/-- The greatest depth of a pattern. -/
def depthLimit : Nat := 250

/-- Reads a pattern, unless it is malformed or nested too deeply. -/
def parse? (pattern : List Char) : Option Piece := do
  let piece ← patternLoop? (pattern.length + 1) [] ⟨.initial, false, [], []⟩ [] pattern
  if depthLimit < piece.depth then none
  return piece

end Pattern

/-- The expression of a pattern, unless the pattern is malformed or nested too deeply. -/
def Regex.parse? (pattern : List Char) : Option Regex := (Pattern.parse? pattern).map Pattern.Piece.regex

end AttributeGrammar
