import AttributeGrammar.Pattern.Escape

/-!
# Bracketed classes

A bracketed class is a union of characters, ranges, classes and nested brackets, on which the
operators for intersection, difference and symmetric difference work from left to right.

* `bracket?` — reads a bracketed class behind its opening bracket.
* `ClassPart.depth` — how deeply a class is nested, as `Regex` patterns limit it.
-/

set_option autoImplicit false

namespace AttributeGrammar.Pattern

/-- A part of a class: its set, and how deeply it is nested. -/
structure ClassPart where
  set : CodeSet
  depth : Nat
deriving DecidableEq, Repr

/-- A binary operator on classes. -/
inductive ClassOp where
  | inter
  | diff
  | symmDiff
deriving DecidableEq, Repr

def ClassOp.apply : ClassOp → CodeSet → CodeSet → CodeSet
  | .inter => .inter
  | .diff => .diff
  | .symmDiff => .symmDiff

/-- A class whose closing bracket was not read yet. -/
structure OpenClass where
  negated : Bool
  /-- The parts of the operand that is being read, the last one first. -/
  parts : List ClassPart
  /-- The operator before it, with its left operand. -/
  pending : Option (ClassOp × ClassPart)
deriving DecidableEq, Repr

namespace OpenClass

/-- The operand that is being read. -/
def operand (opened : OpenClass) : ClassPart :=
  match opened.parts with
  | [] => ⟨.empty, 0⟩
  | [part] => part
  | parts => ⟨.unions (parts.map ClassPart.set), 1 + (parts.map ClassPart.depth).foldl max 0⟩

/-- The class up to the end of the operand. -/
def combined (flags : Flags) (opened : OpenClass) : ClassPart :=
  match opened.pending with
  | none => opened.operand
  | some (op, left) =>
    let right := opened.operand
    ⟨op.apply (foldClass flags left.set) (foldClass flags right.set),
      1 + max left.depth right.depth⟩

def addPart (part : ClassPart) (opened : OpenClass) : OpenClass :=
  { opened with parts := part :: opened.parts }

/-- Starts the right operand of an operator. -/
def operator (flags : Flags) (op : ClassOp) (opened : OpenClass) : OpenClass :=
  { opened with parts := [], pending := some (op, opened.combined flags) }

/-- The class when its bracket is closed. -/
def close? (flags : Flags) (opened : OpenClass) : Option ClassPart := do
  let part := opened.combined flags
  let set ← closeClass? flags opened.negated part.set
  return ⟨set.normalize, 1 + part.depth⟩

end OpenClass

/-- The part that a primitive stands for; a dot or an assertion has none. -/
def classPart? (flags : Flags) : Primitive → Option ClassPart
  | .char c _ =>
    if flags.unicode || c.toNat < 0x80 then some ⟨.single c.toNat, 0⟩ else none
  | .set s => some ⟨s, 0⟩
  | .dot | .assertion _ => none

/-- Reads a character or an escape. -/
def classAtom? (flags : Flags) : List Char → Option (Primitive × List Char)
  | [] => none
  | '\\' :: rest => escape? flags rest
  | c :: rest => some (.char c false, rest)

/-- The character that decides whether a hyphen stands between the ends of a range. In verbose
patterns it is looked for behind blanks and behind one number sign. -/
def peekBehind (flags : Flags) (text : List Char) : Option Char :=
  if !flags.verbose then text.head?
  else
    match text.dropWhile Text.isBlank with
    | '#' :: rest => (rest.dropWhile Text.isBlank).head?
    | rest => rest.head?

/-- Reads a character, an escape or a range. -/
def classRange? (flags : Flags) (text : List Char) : Option (ClassPart × List Char) := do
  let (first, rest) ← classAtom? flags text
  match skipBlanks flags rest with
  | [] => none
  | c :: behind =>
    if c ≠ '-' || peekBehind flags behind = some ']' || peekBehind flags behind = some '-' then
      return (← classPart? flags first, c :: behind)
    let (last, rest) ← classAtom? flags (skipBlanks flags behind)
    match first, last with
    | .char lo _, .char hi _ =>
      if hi < lo || (!flags.unicode && 0x80 ≤ hi.toNat) then none
      return (⟨.interval lo.toNat hi.toNat, 0⟩, rest)
    | _, _ => none

/-- Reads a caret that negates a class. -/
def caret : List Char → Bool × List Char
  | '^' :: rest => (true, rest)
  | rest => (false, rest)

/-- Reads the name of an ASCII class up to the colon and the bracket behind it. -/
def asciiName? (flags : Flags) (negated : Bool) (text : List Char) : Option (Option CodeSet × List Char) :=
  match text.span (· ≠ ':') with
  | (name, ':' :: ']' :: rest) =>
    (asciiClass? (String.ofList name)).map fun set => (closeClass? flags negated set, rest)
  | _ => none

/-- Reads the name of an ASCII class between colons, behind an opening bracket. -/
def namedBracket? (flags : Flags) (text : List Char) : Option (Option CodeSet × List Char) :=
  match text with
  | ':' :: rest => asciiName? flags (caret rest).1 (caret rest).2
  | _ => none

/-- Counts the hyphens in front. -/
def hyphensBefore (flags : Flags) : (fuel count : Nat) → List Char → Nat × List Char
  | fuel + 1, count, '-' :: rest => hyphensBefore flags fuel (count + 1) (skipBlanks flags rest)
  | _, count, text => (count, text)

/-- Opens a class behind its bracket: a caret negates it, and hyphens or one closing bracket in
front stand for themselves. -/
def openBracket? (flags : Flags) (text : List Char) : Option (OpenClass × List Char) :=
  let (negated, text) := caret (skipBlanks flags text)
  let text := if negated then skipBlanks flags text else text
  let (hyphens, text) := hyphensBefore flags text.length 0 text
  let parts := List.replicate hyphens ⟨.single '-'.toNat, 0⟩
  match text with
  | [] => none
  | ']' :: rest =>
    if hyphens = 0 then some (⟨negated, [⟨.single ']'.toNat, 0⟩], none⟩, skipBlanks flags rest)
    else some (⟨negated, parts, none⟩, text)
  | _ => some (⟨negated, parts, none⟩, text)

/-- Reads on in a class, inside of the classes around it. -/
def classLoop? (flags : Flags) : (fuel : Nat) → OpenClass → List OpenClass → List Char →
    Option (ClassPart × List Char)
  | 0, _, _, _ => none
  | fuel + 1, opened, around, text => do
    match skipBlanks flags text with
    | [] => none
    | '[' :: rest =>
      match namedBracket? flags rest with
      | some (set, rest) => classLoop? flags fuel (opened.addPart ⟨← set, 0⟩) around rest
      | none =>
        let (inner, rest) ← openBracket? flags rest
        classLoop? flags fuel inner (opened :: around) rest
    | ']' :: rest =>
      let part ← opened.close? flags
      match around with
      | [] => return (part, rest)
      | outer :: around => classLoop? flags fuel (outer.addPart part) around rest
    | '&' :: '&' :: rest => classLoop? flags fuel (opened.operator flags .inter) around rest
    | '-' :: '-' :: rest => classLoop? flags fuel (opened.operator flags .diff) around rest
    | '~' :: '~' :: rest => classLoop? flags fuel (opened.operator flags .symmDiff) around rest
    | text =>
      let (part, rest) ← classRange? flags text
      classLoop? flags fuel (opened.addPart part) around rest

/-- Reads a bracketed class behind its opening bracket. -/
def bracket? (flags : Flags) (text : List Char) : Option (ClassPart × List Char) := do
  let (opened, rest) ← openBracket? flags text
  classLoop? flags (text.length + 1) opened [] rest

end AttributeGrammar.Pattern
