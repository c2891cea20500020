import AttributeGrammar.Text.Escape
import AttributeGrammar.Text.Identifier
import AttributeGrammar.Text.Lines

/-!
# Token trees

Emitted code is a list of token trees, which is printed with one blank between two tokens.

* `TokenTree` — an identifier, a punctuation character, a literal or a delimited group. A punctuation
  character that is joint to the next token has no blank behind it.
* `TokenTree.render`, `renderCode` — the text of a token and of a list of tokens.
* `words` — the tokens of a text of words, in which each word is an identifier or an operator.
-/

set_option autoImplicit false

namespace AttributeGrammar.Code

/-- The delimiters of a group. -/
inductive Delimiter where
  | paren
  | bracket
  | brace
deriving DecidableEq, Repr

/-- A token or a delimited group of tokens. -/
inductive TokenTree where
  | ident (name : String)
  | punct (c : Char) (joint : Bool)
  | literal (text : String)
  | group (delimiter : Delimiter) (content : List TokenTree)
deriving Repr, Inhabited

/-- A list of tokens. -/
abbrev TokenList := List TokenTree

namespace TokenTree

/-- Whether no blank follows the token. -/
def isJoint : TokenTree → Bool
  | .punct _ joint => joint
  | _ => false

/-- Puts delimiters around the text of some tokens. Braces stand apart from their content. -/
def delimit (delimiter : Delimiter) (content : String) : String :=
  match delimiter with
  | .paren => "(" ++ content ++ ")"
  | .bracket => "[" ++ content ++ "]"
  | .brace => if content = "" then "\x7b \x7d" else "\x7b " ++ content ++ " \x7d"

mutual

/-- The text of a token. -/
def render : TokenTree → String
  | .ident name => name
  | .punct c _ => c.toString
  | .literal text => text
  | .group delimiter content => delimit delimiter (renderAll content)

/-- The text of some tokens, with a blank behind each that is not joint and not the last. -/
def renderAll : List TokenTree → String
  | [] => ""
  | [token] => token.render
  | token :: next :: rest =>
    (if token.isJoint then token.render else token.render ++ " ") ++ renderAll (next :: rest)

end

end TokenTree

/-- The text of some tokens. -/
def renderCode (code : TokenList) : String := TokenTree.renderAll code

/-- The punctuation characters of an operator; all but the last are joint. -/
def operator : List Char → TokenList
  | [] => []
  | [c] => [.punct c false]
  | c :: rest => .punct c true :: operator rest

/-- The tokens of a word: an identifier, a lifetime or an operator. -/
def word (cs : List Char) : TokenList :=
  match cs with
  | [] => []
  | '\'' :: rest => [.punct '\'' true, .ident (String.ofList rest)]
  | c :: rest => if Text.isIdentStart c then [.ident (String.ofList (c :: rest))] else operator (c :: rest)

/-- The tokens of a text of words. -/
def words (text : String) : TokenList := (Text.cutAt ' ' text.toList).flatMap word

def paren (content : TokenList) : TokenList := [.group .paren content]

def bracket (content : TokenList) : TokenList := [.group .bracket content]

def brace (content : TokenList) : TokenList := [.group .brace content]

/-- An inserted text as a string literal. -/
def quote (text : String) : TokenList := [.literal (Text.stringLiteral text)]

/-- Some lists of tokens with commas between them. -/
def commaSeparated : List TokenList → TokenList
  | [] => []
  | [item] => item
  | item :: rest => item ++ words "," ++ commaSeparated rest

/-- Some lists of tokens with a comma behind each. -/
def commaTerminated (lists : List TokenList) : TokenList :=
  lists.flatMap fun item => item ++ words ","

example : renderCode (words "& mut :: a" ++ paren (words "x , y") ++ brace []) =
    "& mut :: a (x , y) \x7b \x7d" := by decide +kernel

end AttributeGrammar.Code
