import AttributeGrammar.Pattern.Search
import AttributeGrammar.Scan.Token
import AttributeGrammar.Text.Lines

/-!
# Scanners

A scanner delivers the longest token at its cursor, and can take back the last one.

* `Tables.longestLiteral`, `Tables.longestRegex` — the longest matches at the front of a text. Among
  regex terminals of one length the first declared wins; a literal wins over a regex of its length.
* `Scanner.next` — delivers a token and moves the cursor past it.
* `Scanner.undo` — moves the cursor back to where it was before the last `next`.
* `Scanner.expectText`, `Scanner.expectKind`, `Scanner.expectEnd` — deliver a token and check it.
* `Scanner.readAll` — delivers all tokens up to the end.
-/

set_option autoImplicit false

namespace AttributeGrammar

open Text

/-- What a scanner looks for. -/
structure Tables where
  /-- The literals, none of them empty. -/
  literals : List (List Char)
  /-- The regex terminals in the order of declaration. -/
  regexes : List (Kind × Pattern.Compiled)
deriving Inhabited

namespace Tables

/-- The length of the longest literal of at most so many bytes at the front of a text. All numbers of
bytes are tried from the greatest on. -/
def literalWithin (tables : Tables) (text : List Char) : (bytes : Nat) → Nat
  | 0 => 0
  | bytes + 1 =>
    match bytePrefix? (bytes + 1) text with
    | some front =>
      if front ∈ tables.literals then front.length else tables.literalWithin text bytes
    | none => tables.literalWithin text bytes

/-- The bytes that the longest literal takes. -/
def literalBound (tables : Tables) : Nat := (tables.literals.map utf8Length).foldl max 0

/-- The length of the longest literal at the front of a text. -/
def longestLiteral (tables : Tables) (text : List Char) : Nat :=
  tables.literalWithin text (min tables.literalBound (utf8Length text))

/-- The kind and the length of the longest match of a regex terminal at the front of a text; the
first one of that length. -/
def longestRegex (tables : Tables) (text : List Char) : Kind × Nat :=
  tables.regexes.foldl (fun best (kind, pattern) =>
    match pattern.matchEnd? text with
    | some length => if best.2 < length then (kind, length) else best
    | none => best) (.endOfInput, 0)

/-- The kind and the length of the token at the front of a text. -/
def longest? (tables : Tables) (text : List Char) : Option (Kind × Nat) :=
  let (kind, regexLength) := tables.longestRegex text
  let literalLength := tables.longestLiteral text
  if literalLength < regexLength then some (kind, regexLength)
  else if 0 < literalLength then some (.text, literalLength)
  else none

end Tables

/-- A place in the input: how many bytes lie before it, and the text behind it. -/
structure Cursor where
  offset : Nat
  rest : List Char
deriving DecidableEq, Repr, Inhabited

/-- The place some characters further on. -/
def Cursor.advance (cursor : Cursor) (count : Nat) : Cursor :=
  ⟨cursor.offset + utf8Length (cursor.rest.take count), cursor.rest.drop count⟩

/-- A scanner. -/
structure Scanner where
  tables : Tables
  cursor : Cursor
  /-- The cursor before the last token that was asked for. -/
  previous : Cursor
  /-- Every token delivered so far, the last one first; a token taken back stays. -/
  delivered : List Token
deriving Inhabited

/-- A computation with a scanner that may fail and then leaves the scanner where it is. -/
abbrev Scan := EStateM ScanError Scanner

namespace Scanner

/-- A scanner at the start of an input. -/
def new (input : String) (literals : List String) (regexes : List (Kind × String)) :
    Except ScanError Scanner := do
  let compiled ← regexes.mapM fun (kind, pattern) =>
    match Pattern.compileToken? pattern with
    | some compiled => Except.ok (kind, compiled)
    | none => .error (.invalidRegex pattern)
  let literals := (literals.map String.toList).filter (· ≠ [])
  return ⟨⟨literals, compiled⟩, ⟨0, input.toList⟩, ⟨0, input.toList⟩, []⟩

/-- The bytes before the cursor. -/
def position (scanner : Scanner) : Nat := scanner.cursor.offset

/-- The characters that an error shows of the text at its position. -/
def nearLength : Nat := 16

/-- Delivers a token and moves the cursor to `cursor`. -/
def deliver (token : Token) (cursor : Cursor) : Scan Token := fun scanner =>
  .ok token { scanner with cursor, delivered := token :: scanner.delivered }

/-- Delivers the longest token at the cursor and moves past it. At the end of the input this is the
end, as often as it is asked for. -/
def next : Scan Token := do
  let scanner ← get
  let cursor := scanner.cursor
  set { scanner with previous := cursor }
  if cursor.rest.isEmpty then deliver ⟨.endOfInput, "", cursor.offset⟩ cursor
  else
    match scanner.tables.longest? cursor.rest with
    | some (kind, length) =>
      deliver ⟨kind, String.ofList (cursor.rest.take length), cursor.offset⟩ (cursor.advance length)
    | none =>
      throw (.unexpectedToken cursor.offset (String.ofList (cursor.rest.take nearLength)))

/-- Takes the last token back. Only one token can be taken back. -/
def undo : Scan Unit := modify fun scanner => { scanner with cursor := scanner.previous }

/-- Delivers a token that must be a given literal. -/
def expectText (text : String) : Scan Token := do
  let token ← next
  if token.isText text then return token else throw (.mismatch token.render text)

/-- Delivers a token that must be of a given kind. -/
def expectKind (kind : Kind) : Scan Token := do
  let token ← next
  if token.kind = kind then return token else throw (.unexpectedKind token.render kind.name)

/-- Requires that the input is used up. -/
def expectEnd : Scan Unit := do
  let token ← next
  if token.isEnd then return () else throw (.trailingInput token.position)

/-- Delivers at most `count` tokens, and no more after the end or an error. -/
def read : (count : Nat) → Scanner → List Token × Option ScanError × Scanner
  | 0, scanner => ([], none, scanner)
  | count + 1, scanner =>
    match next scanner with
    | .error e scanner => ([], some e, scanner)
    | .ok token scanner =>
      if token.isEnd then ([token], none, scanner)
      else
        let (tokens, error, scanner) := read count scanner
        (token :: tokens, error, scanner)

/-- Delivers all tokens up to the end or an error. No token but the end is empty, so there are no more
tokens than characters and the end. -/
def readAll (scanner : Scanner) : List Token × Option ScanError × Scanner :=
  scanner.read (scanner.cursor.rest.length + 1)

end Scanner

end AttributeGrammar
