import AttributeGrammar.Pattern.Class

/-!
# Escapes of patterns

* `Primitive` — what a pattern can hold outside of operators: a character, the dot, an assertion or a
  class.
* `escape?` — reads what follows a backslash: characters by name or number, classes and assertions.
* `primitive?` — reads one primitive.
-/

set_option autoImplicit false

namespace AttributeGrammar.Pattern

/-- An operand of a pattern. -/
inductive Primitive where
  /-- A character; `isByte` tells that it was written as a byte of two hexadecimal digits. -/
  | char (c : Char) (isByte : Bool)
  | dot
  | assertion (assertion : Assertion)
  | set (s : CodeSet)
deriving DecidableEq, Repr

/-- The value of a hexadecimal digit. -/
def hexDigit? (c : Char) : Option Nat :=
  if '0' ≤ c && c ≤ '9' then some (c.toNat - '0'.toNat)
  else if 'a' ≤ c && c ≤ 'f' then some (c.toNat - 'a'.toNat + 10)
  else if 'A' ≤ c && c ≤ 'F' then some (c.toNat - 'A'.toNat + 10)
  else none

/-- The character of a code point. -/
def charOfCode? (code : Nat) : Option Char :=
  if code.isValidChar then some (Char.ofNat code) else none

/-- Reads a given number of hexadecimal digits. -/
def fixedHex? (flags : Flags) : (count value : Nat) → List Char → Option (Nat × List Char)
  | 0, value, text => some (value, text)
  | count + 1, value, c :: rest =>
    match hexDigit? c with
    | some digit => fixedHex? flags count (value * 16 + digit) (skipBlanks flags rest)
    | none => none
  | _ + 1, _, [] => none

/-- Reads what stands before a closing brace, and drops the brace. -/
def untilBrace? (flags : Flags) : (fuel : Nat) → List Char → Option (List Char × List Char)
  | 0, _ => none
  | fuel + 1, text =>
    match skipBlanks flags text with
    | [] => none
    | '\x7d' :: rest => some ([], rest)
    | c :: rest => (untilBrace? flags fuel rest).map fun (front, rest) => (c :: front, rest)

/-- Reads a character that is given by its code point, of `digits` digits or between braces. -/
def hexEscape? (flags : Flags) (digits : Nat) (text : List Char) :
    Option (Primitive × List Char) := do
  match skipBlanks flags text with
  | [] => none
  | '\x7b' :: rest =>
    let (front, rest) ← untilBrace? flags (rest.length + 1) rest
    let values ← front.mapM hexDigit?
    if values = [] then none
    let c ← charOfCode? (values.foldl (fun value digit => value * 16 + digit) 0)
    return (.char c false, skipBlanks flags rest)
  | rest =>
    let (code, rest) ← fixedHex? flags digits 0 rest
    let c ← charOfCode? code
    return (.char c (digits = 2), rest)

/-- Reads the name of a property: one letter, or a text between braces. -/
def propertyEscape? (flags : Flags) (negated : Bool) (text : List Char) :
    Option (Primitive × List Char) := do
  match skipBlanks flags text with
  | [] => none
  | '\x7b' :: rest =>
    let (front, rest) ← untilBrace? flags (rest.length + 1) rest
    let set ← propertyClass? flags negated front
    return (.set set, rest)
  | c :: rest =>
    if c = '\\' || !flags.unicode then none
    let set ← (namedClass? (Unicode.looseName (String.singleton c))).bind (closeClass? flags negated)
    return (.set set, skipBlanks flags rest)

/-- A character of the names of word boundaries. -/
def isBoundaryNamePart (c : Char) : Bool :=
  ('a' ≤ c && c ≤ 'z') || ('A' ≤ c && c ≤ 'Z') || c = '-'

/-- The word boundary of a name. -/
def boundary? (flags : Flags) (name : String) : Option Assertion :=
  match name with
  | "start" => some (.wordStart flags.unicode)
  | "end" => some (.wordEnd flags.unicode)
  | "start-half" => some (.noWordBefore flags.unicode)
  | "end-half" => some (.noWordAfter flags.unicode)
  | _ => none

/-- Reads the name of a word boundary in braces. Braces that hold something else are left. -/
def boundaryEscape? (flags : Flags) (text : List Char) : Option (Primitive × List Char) :=
  let plain := (Primitive.assertion (.wordBoundary flags.unicode), text)
  match text with
  | '\x7b' :: rest =>
    match skipBlanks flags rest with
    | [] => none
    | c :: more =>
      if !isBoundaryNamePart c then some plain
      else
        match untilBrace? flags (more.length + 2) (c :: more) with
        | none => none
        | some (front, rest) =>
          (boundary? flags (String.ofList front)).map fun a => (.assertion a, rest)
  | _ => some plain

/-- Whether an ASCII character other than a letter or a digit may be escaped for no reason. -/
def isEscapable (c : Char) : Bool :=
  c.toNat < 0x80 && !c.isAlphanum && c ≠ '<' && c ≠ '>'

/-- Reads what follows a backslash. -/
def escape? (flags : Flags) : List Char → Option (Primitive × List Char)
  | [] => none
  | c :: rest =>
    match c with
    | 'x' => hexEscape? flags 2 rest
    | 'u' => hexEscape? flags 4 rest
    | 'U' => hexEscape? flags 8 rest
    | 'p' => propertyEscape? flags false rest
    | 'P' => propertyEscape? flags true rest
    | 'a' => some (.char '\x07' false, rest)
    | 'f' => some (.char '\x0c' false, rest)
    | 't' => some (.char '\t' false, rest)
    | 'n' => some (.char '\n' false, rest)
    | 'r' => some (.char '\r' false, rest)
    | 'v' => some (.char '\x0b' false, rest)
    | 'A' => some (.assertion .textStart, rest)
    | 'z' => some (.assertion .textEnd, rest)
    | 'b' => boundaryEscape? flags rest
    | 'B' => some (.assertion (.noWordBoundary flags.unicode), rest)
    | '<' => some (.assertion (.wordStart flags.unicode), rest)
    | '>' => some (.assertion (.wordEnd flags.unicode), rest)
    | _ =>
      if isEscapable c then some (.char c false, rest)
      else (letterClass? flags c).map fun set => (.set set, rest)

/-- Reads one primitive. -/
def primitive? (flags : Flags) : List Char → Option (Primitive × List Char)
  | [] => none
  | '\\' :: rest => escape? flags rest
  | '.' :: rest => some (.dot, rest)
  | '^' :: rest =>
    let assertion : Assertion :=
      if !flags.multiLine then .textStart else if flags.crlf then .anyLineStart else .lineStart
    some (.assertion assertion, rest)
  | '$' :: rest =>
    let assertion : Assertion :=
      if !flags.multiLine then .textEnd else if flags.crlf then .anyLineEnd else .lineEnd
    some (.assertion assertion, rest)
  | c :: rest => some (.char c false, rest)

/-- The set of a single character. Without Unicode support a byte beyond ASCII is no character. -/
def charSet? (flags : Flags) (c : Char) (isByte : Bool) : Option CodeSet :=
  if !flags.unicode && isByte && 0x80 ≤ c.toNat then none
  else some (foldClass flags (.single c.toNat))

/-- What the dot matches: all but line ends, or everything. -/
def dotSet? (flags : Flags) : Option CodeSet :=
  if !flags.unicode then none
  else if flags.dotAll then some .full
  else if flags.crlf then some (CodeSet.complement ⟨[(10, 10), (13, 13)]⟩)
  else some (CodeSet.single 10).complement

/-- The expression of a primitive. -/
def Primitive.toRegex? (flags : Flags) : Primitive → Option Regex
  | .char c isByte => (charSet? flags c isByte).map Regex.set
  | .dot => (dotSet? flags).map Regex.set
  | .assertion a => some (.assert a)
  | .set s => some (.set s)

end AttributeGrammar.Pattern
