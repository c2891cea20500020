import AttributeGrammar.Code.Literal
import AttributeGrammar.Code.TokenTree
import AttributeGrammar.Text.Lines

/-!
# Reading code

* `skipSpace` — drops white space and comments; a documentation comment is none of these.
* `docComment?` — reads a documentation comment, which stands for an attribute.
* `leaf?` — reads an identifier, a punctuation character or a literal.
* `lexCode?` — the token trees of a text, if it consists of tokens and its delimiters match.
-/

set_option autoImplicit false

namespace AttributeGrammar.Code

open Text

/-- White space of code, to which the two marks for the direction of writing belong. -/
def isSpace (c : Char) : Bool := isBlank c || c.toNat = 0x200E || c.toNat = 0x200F

/-- Splits a text at the end of its line. A carriage return before the newline belongs to neither part. -/
def splitLine : List Char → List Char × List Char
  | [] => ([], [])
  | '\n' :: rest => ([], '\n' :: rest)
  | '\r' :: '\n' :: rest => ([], '\n' :: rest)
  | c :: rest =>
    let (line, rest) := splitLine rest
    (c :: line, rest)

/-- Reads a block comment, in which others may be nested, behind its opening. Also yields its text up
to the last closing. -/
def blockComment? : (depth : Nat) → List Char → Option (List Char × List Char)
  | _, [] => none
  | depth, '/' :: '*' :: rest =>
    (blockComment? (depth + 1) rest).map fun (text, rest) => ('/' :: '*' :: text, rest)
  | depth, '*' :: '/' :: rest =>
    if depth = 0 then some ([], rest)
    else (blockComment? (depth - 1) rest).map fun (text, rest) => ('*' :: '/' :: text, rest)
  | depth, c :: rest => (blockComment? depth rest).map fun (text, rest) => (c :: text, rest)

/-- Drops a comment that is no documentation from the front of a text. -/
def plainComment? (text : List Char) : Option (List Char) :=
  match text with
  | '/' :: '/' :: '!' :: _ => none
  | '/' :: '/' :: '/' :: '/' :: _ => some (splitLine text).2
  | '/' :: '/' :: '/' :: _ => none
  | '/' :: '/' :: _ => some (splitLine text).2
  | '/' :: '*' :: '*' :: '/' :: rest => some rest
  | '/' :: '*' :: '!' :: _ => none
  | '/' :: '*' :: '*' :: '*' :: rest => (blockComment? 0 ('*' :: '*' :: rest)).map Prod.snd
  | '/' :: '*' :: '*' :: _ => none
  | '/' :: '*' :: rest => (blockComment? 0 rest).map Prod.snd
  | _ => none

/-- Drops white space and comments. -/
def skipSpace : (fuel : Nat) → List Char → List Char
  | 0, text => text
  | fuel + 1, text =>
    match plainComment? text with
    | some rest => skipSpace fuel rest
    | none =>
      match text with
      | c :: rest => if isSpace c then skipSpace fuel rest else text
      | [] => []

/-- Whether every carriage return stands before a newline. -/
def noBareReturn : List Char → Bool
  | [] => true
  | '\r' :: '\n' :: rest => noBareReturn rest
  | c :: rest => c ≠ '\r' && noBareReturn rest

/-- The attribute that a documentation comment stands for: of what follows it, or of what is around. -/
def docAttribute (inner : Bool) (comment : List Char) : TokenList :=
  words (if inner then "# !" else "#") ++
    bracket (words "doc =" ++ quote (String.ofList comment))

/-- Reads the text of a documentation comment, and whether it belongs to what is around it. -/
def docText? (text : List Char) : Option (Bool × List Char × List Char) :=
  match text with
  | '/' :: '/' :: '!' :: rest => let (line, rest) := splitLine rest; some (true, line, rest)
  | '/' :: '*' :: '!' :: rest =>
    (blockComment? 0 ('!' :: rest)).map fun (body, rest) => (true, body.drop 1, rest)
  | '/' :: '/' :: '/' :: '/' :: _ => none
  | '/' :: '/' :: '/' :: rest => let (line, rest) := splitLine rest; some (false, line, rest)
  | '/' :: '*' :: '*' :: '*' :: _ => none
  | '/' :: '*' :: '*' :: rest =>
    (blockComment? 0 ('*' :: rest)).map fun (body, rest) => (false, body.drop 1, rest)
  | _ => none

/-- Reads a documentation comment. -/
def docComment? (text : List Char) : Option (TokenList × List Char) :=
  match docText? text with
  | some (inner, comment, rest) =>
    if noBareReturn comment then some (docAttribute inner comment, rest) else none
  | none => none

/-- The characters of operators. -/
def isPunct (c : Char) : Bool := "~!@#$%^&*-=+|;:,<.>/?'".toList.contains c

/-- Whether a punctuation character is at the front of a text; a comment starts with none. -/
def startsPunct : List Char → Bool
  | '/' :: '/' :: _ => false
  | '/' :: '*' :: _ => false
  | c :: _ => isPunct c
  | [] => false

/-- Reads an identifier; a raw one may not be one of the names of paths. -/
def identifier? (text : List Char) : Option (String × List Char) :=
  let take : List Char → Option (List Char × List Char) := fun text =>
    (identRest? text).map fun rest => (text.take (text.length - rest.length), rest)
  match text with
  | 'r' :: '#' :: rest =>
    match take rest with
    | some (name, rest) =>
      if String.ofList name ∈ ["_", "super", "self", "Self", "crate"] then none
      else some (String.ofList ('r' :: '#' :: name), rest)
    | none => none
  | _ => (take text).map fun (name, rest) => (String.ofList name, rest)

/-- The beginnings of literals that are no identifiers even when the literal is malformed. -/
def literalStarts : List String :=
  ["r\"", "r#\"", "r##", "b\"", "b'", "br\"", "br#", "c\"", "cr\"", "cr#"]

/-- Reads the quote of a lifetime, behind which its name must stand. -/
def lifetimeQuote? (rest : List Char) : Option (TokenTree × List Char) :=
  match identifier? rest with
  | some (_, '\'' :: _) => none
  | some (_, '#' :: _) =>
    if "r#".toList.isPrefixOf rest then some (.punct '\'' true, rest) else none
  | some _ => some (.punct '\'' true, rest)
  | none => none

/-- Reads a token that is no group. -/
def leaf? (text : List Char) : Option (TokenTree × List Char) :=
  match literalRest? text with
  | some rest => some (.literal (String.ofList (text.take (text.length - rest.length))), rest)
  | none =>
    if startsPunct text then
      match text with
      | '\'' :: rest => lifetimeQuote? rest
      | c :: rest => some (.punct c (startsPunct rest), rest)
      | [] => none
    else if literalStarts.any fun start => start.toList.isPrefixOf text then none
    else (identifier? text).map fun (name, rest) => (.ident name, rest)

/-- The delimiter that a character opens. -/
def openDelimiter? : Char → Option Delimiter
  | '(' => some .paren
  | '[' => some .bracket
  | '\x7b' => some .brace
  | _ => none

/-- The delimiter that a character closes. -/
def closeDelimiter? : Char → Option Delimiter
  | ')' => some .paren
  | ']' => some .bracket
  | '\x7d' => some .brace
  | _ => none

/-- Reads on in a group, inside of the groups around it. Both hold the tokens before, the last one
first. -/
def lexLoop? : (fuel : Nat) → TokenList → List (Delimiter × TokenList) → List Char → Option TokenList
  | 0, _, _, _ => none
  | fuel + 1, tokens, around, text =>
    let text := skipSpace (text.length + 1) text
    match docComment? text with
    | some (doc, rest) => lexLoop? fuel (doc.reverse ++ tokens) around rest
    | none =>
      match text with
      | [] => if around.isEmpty then some tokens.reverse else none
      | c :: rest =>
        match openDelimiter? c, closeDelimiter? c with
        | some delimiter, _ => lexLoop? fuel [] ((delimiter, tokens) :: around) rest
        | none, some delimiter =>
          match around with
          | [] => none
          | (opened, outer) :: around =>
            if opened = delimiter then
              lexLoop? fuel (.group delimiter tokens.reverse :: outer) around rest
            else none
        | none, none =>
          match leaf? text with
          | some (token, rest) => lexLoop? fuel (token :: tokens) around rest
          | none => none

/-- The token trees of a text. A byte order mark in front is dropped. -/
def lexCode? (code : String) : Option TokenList :=
  let text := match code.toList with
    | c :: rest => if c.toNat = 0xFEFF then rest else c :: rest
    | [] => []
  lexLoop? (text.length + 1) [] [] text

end AttributeGrammar.Code
