import AttributeGrammar.Grammar.Error

/-!
# Readers

A reader takes a value off the front of a text. It either reads one, or rejects the text, so that
another reader may try, or aborts, which nothing recovers from.

* `Reading` — the three outcomes, each with the text at which it happened.
* `Reader.orElse`, `Reader.optional`, `Reader.many` — choice and repetition, which only a rejection
  leads on.
* `Reader.whole` — a reader that must read its text to the end.
-/

set_option autoImplicit false

namespace AttributeGrammar.Description

/-- The outcome of reading. -/
inductive Reading (α : Type) where
  | done (value : α) (rest : List Char)
  | reject (kind : ReadKind) (place : List Char)
  | abort (kind : ReadKind) (place : List Char)
deriving DecidableEq, Repr

/-- Takes a value off the front of a text. -/
def Reader (α : Type) : Type := List Char → Reading α

namespace Reader

variable {α β : Type}

/-- Reads nothing. -/
protected def pure (a : α) : Reader α := fun text => .done a text

/-- Reads with `p` and then with what its value selects. -/
protected def bind (p : Reader α) (f : α → Reader β) : Reader β := fun text =>
  match p text with
  | .done a rest => f a rest
  | .reject kind place => .reject kind place
  | .abort kind place => .abort kind place

instance : Monad Reader where
  pure := Reader.pure
  bind := Reader.bind

/-- Reads with `q` where `p` rejects. -/
protected def orElse (p q : Reader α) : Reader α := fun text =>
  match p text with
  | .reject _ _ => q text
  | outcome => outcome

/-- Reads nothing where `p` rejects. -/
def optional (p : Reader α) : Reader (Option α) := fun text =>
  match p text with
  | .done a rest => .done (some a) rest
  | .reject _ _ => .done none text
  | .abort kind place => .abort kind place

/-- Reads with `p` until it rejects. A value that takes nothing off the text is rejected. -/
def many (p : Reader α) (text : List Char) : Reading (List α) :=
  match p text with
  | .done a rest =>
    if rest.length < text.length then
      match many p rest with
      | .done more rest => .done (a :: more) rest
      | .reject kind place => .reject kind place
      | .abort kind place => .abort kind place
    else .reject .progress text
  | .reject _ _ => .done [] text
  | .abort kind place => .abort kind place
termination_by text.length

/-- Rejects at the front of the text, with `kind`, the values that `f` does not accept. -/
def accept (p : Reader α) (f : α → Option β) : Reader β := fun text =>
  match p text with
  | .done a rest =>
    match f a with
    | some b => .done b rest
    | none => .reject .accepted text
  | .reject kind place => .reject kind place
  | .abort kind place => .abort kind place

/-- Reads the whole text with `p`. -/
def whole (p : Reader α) : Reader α := fun text =>
  match p text with
  | .done a [] => .done a []
  | .done _ (c :: rest) => .reject .endOfText (c :: rest)
  | outcome => outcome

/-- Reads one given character. -/
def char (c : Char) : Reader Unit := fun text =>
  match text with
  | d :: rest => if d = c then .done () rest else .reject .char text
  | [] => .reject .char text

/-- A space or a tab. -/
def isSpace (c : Char) : Bool := c = ' ' || c = '\t'

/-- Reads spaces and tabs, if there are any. -/
def spaces : Reader Unit := fun text => .done () (text.dropWhile isSpace)

/-- Reads at least one space or tab. -/
def spaces1 : Reader Unit := fun text =>
  match text with
  | c :: rest => if isSpace c then .done () (rest.dropWhile isSpace) else .reject .blank text
  | [] => .reject .blank text

/-- Reads at least one character of a class. -/
def takeWhile1 (accepts : Char → Bool) (kind : ReadKind) : Reader String := fun text =>
  match text.takeWhile accepts with
  | [] => .reject kind text
  | taken => .done (String.ofList taken) (text.dropWhile accepts)

end Reader

end AttributeGrammar.Description
