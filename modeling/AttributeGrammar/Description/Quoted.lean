import AttributeGrammar.Description.Reader

/-!
# Quoted text

Text between single quotes, with backslash escapes for newline, carriage return, tab, the two quotes
and the backslash. It must not be empty, as the empty string has a name of its own.

* `literal` — quoted text in which every escape must be one of these.
* `pattern` — quoted text in which any other escape stays as it is written.
-/

set_option autoImplicit false

namespace AttributeGrammar.Description

open Reader

/-- The character that an escape stands for. -/
def unescape? : Char → Option Char
  | 'n' => some '\n'
  | 'r' => some '\r'
  | 't' => some '\t'
  | '\'' => some '\''
  | '"' => some '"'
  | '\\' => some '\\'
  | _ => none

/-- The text up to the closing quote. `input` is the text from the opening quote on, at which a
missing closing quote is reported. -/
def quotedBody (keepUnknown : Bool) (input : List Char) : List Char → Reading (List Char)
  | [] => .abort .char input
  | '\'' :: rest => .done [] rest
  | ['\\'] => .abort .escape ['\\']
  | '\\' :: c :: rest =>
    match unescape? c with
    | some d => prepend [d] (quotedBody keepUnknown input rest)
    | none =>
      if keepUnknown then prepend ['\\', c] (quotedBody keepUnknown input rest)
      else .abort .escape ('\\' :: c :: rest)
  | c :: rest => prepend [c] (quotedBody keepUnknown input rest)
where
  /-- The outcome with text in front of its value. -/
  prepend (front : List Char) : Reading (List Char) → Reading (List Char)
    | .done body rest => .done (front ++ body) rest
    | outcome => outcome

/-- Quoted text that is not empty. -/
def quoted (keepUnknown : Bool) : Reader String := fun text =>
  match text with
  | '\'' :: rest =>
    match quotedBody keepUnknown text rest with
    | .done [] _ => .abort .nonEmpty text
    | .done body rest => .done (String.ofList body) rest
    | .reject kind place => .reject kind place
    | .abort kind place => .abort kind place
  | _ => .reject .char text

/-- A literal token. -/
def literal : Reader String := quoted false

/-- A regex pattern. -/
def pattern : Reader String := quoted true

end AttributeGrammar.Description
