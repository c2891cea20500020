import AttributeGrammar.Text.Identifier

/-!
# Literals of code

The readers here take a literal off the front of a text and return what is left. They accept strings
(cooked, raw, of bytes, and those that end with NUL), characters, bytes and numbers, each with a
suffix if there is one.

* `literalRest?` — what is left behind the literal at the front of a text.
-/

set_option autoImplicit false

namespace AttributeGrammar.Code

open Text

/-- What a string or character literal may hold. -/
inductive QuoteKind where
  | text
  | bytes
  /-- Text that may not hold NUL. -/
  | terminated
deriving DecidableEq, Repr

/-- Whether a character may stand unescaped in a literal. -/
def QuoteKind.allows (kind : QuoteKind) (c : Char) : Bool :=
  match kind with
  | .text => true
  | .bytes => c.toNat < 0x80
  | .terminated => c ≠ '\x00'

def isHex (c : Char) : Bool :=
  isAsciiDigit c || ('a' ≤ c && c ≤ 'f') || ('A' ≤ c && c ≤ 'F')

def hexValue (c : Char) : Nat :=
  if isAsciiDigit c then c.toNat - '0'.toNat
  else if c ≤ 'F' then c.toNat - 'A'.toNat + 10
  else c.toNat - 'a'.toNat + 10

/-- Drops an identifier from the front of a text. -/
def identRest? : List Char → Option (List Char)
  | [] => none
  | c :: rest => if isIdentStart c then some (rest.dropWhile isIdentContinue) else none

/-- Drops the suffix of a literal. -/
def dropSuffix (text : List Char) : List Char := (identRest? text).getD text

/-- Whether two hexadecimal digits may follow a backslash and an x. -/
def QuoteKind.allowsHex (kind : QuoteKind) (high low : Char) : Bool :=
  isHex high && isHex low &&
    match kind with
    | .text => '0' ≤ high && high ≤ '7'
    | .bytes => true
    | .terminated => !(high = '0' && low = '0')

/-- Reads the digits of a code point up to the closing brace: at most six, with underscores between. -/
def codePoint? : (count value : Nat) → List Char → Option (Nat × List Char)
  | _, _, [] => none
  | count, value, c :: rest =>
    if isHex c then if count = 6 then none else codePoint? (count + 1) (value * 16 + hexValue c) rest
    else if c = '_' && 0 < count then codePoint? count value rest
    else if c = '\x7d' && 0 < count && value.isValidChar then some (value, rest)
    else none

/-- Drops the escape behind a backslash, without line continuations. -/
def escapeRest? (kind : QuoteKind) : List Char → Option (List Char)
  | [] => none
  | 'x' :: high :: low :: rest => if kind.allowsHex high low then some rest else none
  | 'u' :: '\x7b' :: rest =>
    if kind = .bytes then none
    else
      match codePoint? 0 0 rest with
      | some (value, rest) => if kind = .terminated && value = 0 then none else some rest
      | none => none
  | c :: rest =>
    if c ∈ ['n', 'r', 't', '\\', '\'', '"'] || (c = '0' && kind ≠ .terminated) then some rest
    else none

/-- Drops the blanks of a line continuation. A carriage return must stand before a newline. -/
def continuationRest? : List Char → Option (List Char)
  | [] => none
  | '\r' :: '\n' :: rest => continuationRest? rest
  | '\r' :: _ => none
  | c :: rest => if c ∈ [' ', '\t', '\n'] then continuationRest? rest else some (c :: rest)

/-- Drops a string up to its closing quote and its suffix. -/
def cookedRest? (kind : QuoteKind) : (fuel : Nat) → List Char → Option (List Char)
  | 0, _ => none
  | _ + 1, [] => none
  | fuel + 1, c :: rest =>
    if c = '"' then some (dropSuffix rest)
    else if c = '\\' then
      let continues := rest.head? = some '\n' || rest.head? = some '\r'
      match if continues then continuationRest? rest else escapeRest? kind rest with
      | some rest => cookedRest? kind fuel rest
      | none => none
    else if c = '\r' then
      match rest with
      | '\n' :: rest => cookedRest? kind fuel rest
      | _ => none
    else if kind.allows c then cookedRest? kind fuel rest
    else none

/-- Drops a raw string up to its closing quote, which `hashes` number signs follow, and its suffix. -/
def rawRest? (kind : QuoteKind) (hashes : List Char) : List Char → Option (List Char)
  | [] => none
  | '\r' :: '\n' :: rest => rawRest? kind hashes rest
  | c :: rest =>
    if c = '"' && hashes.isPrefixOf rest then some (dropSuffix (rest.drop hashes.length))
    else if c ≠ '\r' && kind.allows c then rawRest? kind hashes rest
    else none

/-- Drops a raw string behind its letter. -/
def rawStart? (kind : QuoteKind) (text : List Char) : Option (List Char) :=
  match text.span (· = '#') with
  | (hashes, '"' :: rest) => if hashes.length ≤ 255 then rawRest? kind hashes rest else none
  | _ => none

/-- Drops a character behind its opening quote. -/
def charRest? (kind : QuoteKind) (text : List Char) : Option (List Char) :=
  let behind := match text with
    | [] => none
    | '\\' :: rest => escapeRest? kind rest
    | c :: rest => if kind.allows c then some rest else none
  match behind with
  | some ('\'' :: rest) => some (dropSuffix rest)
  | _ => none

/-- Whether a number may end before a text. -/
def endsNumber : List Char → Bool
  | [] => true
  | c :: _ => !isIdentContinue c

/-- Drops the suffix of a number, which nothing else may follow directly. -/
def numberEnd? (text : List Char) : Option (List Char) :=
  let rest := dropSuffix text
  if endsNumber rest then some rest else none

/-- Drops the exponent of a number behind its letter, if it has a value: a sign, digits and
underscores. -/
def exponentRest? : (signed valued : Bool) → List Char → Option (List Char)
  | _, valued, [] => if valued then some [] else none
  | signed, valued, c :: rest =>
    if c = '+' || c = '-' then
      if valued then some (c :: rest) else if signed then none else exponentRest? true valued rest
    else if isAsciiDigit c then exponentRest? signed true rest
    else if c = '_' then exponentRest? signed valued rest
    else if valued then some (c :: rest)
    else none

def isDigitOrUnderscore (c : Char) : Bool := isAsciiDigit c || c = '_'

/-- Drops the digits of a number with a point, an exponent or both. An exponent without a value counts
as a suffix when the number has a point. -/
def floatDigitsRest? (text : List Char) : Option (List Char) :=
  match text with
  | [] => none
  | c :: rest =>
    if !isAsciiDigit c then none
    else
      match rest.dropWhile isDigitOrUnderscore with
      | '.' :: rest =>
        let refused := match rest with
          | d :: _ => d = '.' || isIdentStart d
          | [] => false
        if refused then none
        else
          let behind := rest.dropWhile isDigitOrUnderscore
          match behind with
          | e :: exponent =>
            if e = 'e' || e = 'E' then some ((exponentRest? false false exponent).getD behind)
            else some behind
          | [] => some []
      | e :: exponent => if e = 'e' || e = 'E' then exponentRest? false false exponent else none
      | [] => none

/-- Drops the digits of an integer of a base. -/
def digitsRest? (base : Nat) : (empty : Bool) → List Char → Option (List Char)
  | empty, [] => if empty then none else some []
  | empty, c :: rest =>
    if c = '_' then if empty && base = 10 then none else digitsRest? base empty rest
    else if isAsciiDigit c then
      if base ≤ hexValue c then none else digitsRest? base false rest
    else if isHex c && hexValue c < base then digitsRest? base false rest
    else if empty then none
    else some (c :: rest)

/-- Drops the digits of an integer, whose base its first two characters may tell. -/
def intDigitsRest? : List Char → Option (List Char)
  | '0' :: 'x' :: rest => digitsRest? 16 true rest
  | '0' :: 'o' :: rest => digitsRest? 8 true rest
  | '0' :: 'b' :: rest => digitsRest? 2 true rest
  | text => digitsRest? 10 true text

/-- Drops a number. -/
def numberRest? (text : List Char) : Option (List Char) :=
  ((floatDigitsRest? text).bind numberEnd?) <|> ((intDigitsRest? text).bind numberEnd?)

/-- What is left behind the literal at the front of a text. -/
def literalRest? (text : List Char) : Option (List Char) :=
  match text with
  | '"' :: rest => cookedRest? .text text.length rest
  | 'r' :: rest => rawStart? .text rest
  | 'b' :: '"' :: rest => cookedRest? .bytes text.length rest
  | 'b' :: 'r' :: rest => rawStart? .bytes rest
  | 'c' :: '"' :: rest => cookedRest? .terminated text.length rest
  | 'c' :: 'r' :: rest => rawStart? .terminated rest
  | 'b' :: '\'' :: rest => charRest? .bytes rest
  | '\'' :: rest => charRest? .text rest
  | _ => numberRest? text

end AttributeGrammar.Code
