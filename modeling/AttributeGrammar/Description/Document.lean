import AttributeGrammar.Description.Declaration
import AttributeGrammar.Grammar.Resolve

/-!
# Descriptions

A description is read line by line. Between declarations each line is a declaration or blank; the
lines of an action's code run to the brace that closes its header's; behind the start symbol only
blank lines may follow.

* `Progress` — what was read so far and what the next line continues.
* `Progress.line` — reads one more line.
* `read` — the grammar of a whole description, not yet resolved.
-/

set_option autoImplicit false

namespace AttributeGrammar.Description

open Text

/-- An action whose code is being read. -/
structure OpenAction where
  /-- The line of the action's header. -/
  header : Nat
  name : String
  exported : List Variable
  /-- How many braces are open; the header's is one of them. -/
  depth : Nat
  code : List Char
deriving DecidableEq, Repr

/-- What the next line continues. -/
inductive Mode where
  | declarations
  | action (pending : OpenAction)
  | started (start : String)
deriving DecidableEq, Repr

/-- What was read so far. -/
structure Progress where
  grammar : Grammar
  mode : Mode
deriving DecidableEq

/-- A piece of action code, cut where its last open brace is closed. -/
inductive CodePart where
  /-- The braces are closed: the code before the last brace and the text behind it. -/
  | closed (code trailing : List Char)
  /-- Some braces stay open at the end of the line. -/
  | unclosed (depth : Nat) (code : List Char)
deriving DecidableEq, Repr

/-- Follows the braces along a line of action code. -/
def followBraces (depth : Nat) (code : List Char) : List Char → CodePart
  | [] => .unclosed depth code
  | c :: rest =>
    let depth := if c = '\x7b' then depth + 1 else if c = '\x7d' then depth - 1 else depth
    if depth = 0 then .closed code rest else followBraces depth (code ++ [c]) rest

/-- The error of line `no` where a reader gave up at `place`. -/
def readError (no : Nat) (kind : ReadKind) (place : List Char) : GrammarError :=
  .description no (.unreadable (String.ofList (trim place)) kind)

/-- Reads a line with a reader. -/
def readWith {α : Type} (no : Nat) (reader : Reader α) (line : List Char) :
    Except GrammarError (α × List Char) :=
  match reader line with
  | .done a rest => .ok (a, rest)
  | .reject kind place | .abort kind place => .error (readError no kind place)

/-- The grammar that an edit leaves, unless it fails. -/
def applyEdit (grammar : Grammar) (edit : Grammar.Edit Unit) : Except GrammarError Grammar :=
  match edit grammar with
  | .ok _ changed => .ok changed
  | .error e _ => .error e

namespace Progress

/-- Reads a line, or the rest of the header's line, as code of an action. -/
def codeLine (grammar : Grammar) (pending : OpenAction) (no : Nat) (line : List Char) :
    Except GrammarError Progress :=
  match followBraces pending.depth pending.code line with
  | .unclosed depth code =>
    .ok ⟨grammar, .action { pending with depth, code := code ++ ['\n'] }⟩
  | .closed code trailing =>
    if trim trailing ≠ [] then
      .error (.description no (.afterAction (String.ofList (trim trailing))))
    else do
      let code := String.ofList (trim code)
      let grammar ← applyEdit grammar (Grammar.addAction ⟨pending.name, pending.exported, code⟩)
      return ⟨grammar, .declarations⟩

/-- Reads the header of an action and the code that follows it on the line. -/
def actionLine (grammar : Grammar) (no : Nat) (line : List Char) : Except GrammarError Progress := do
  let ((name, exported), rest) ← readWith no actionHeader line
  if (grammar.action? name).isSome then throw (.description no (.duplicateAction name))
  codeLine grammar ⟨no, name, exported, 1, []⟩ no rest

/-- Reads a line that is a declaration or blank. Its first character tells the kind of the
declaration; only that of the start symbol has no colon. -/
def declarationLine (grammar : Grammar) (no : Nat) (line : List Char) :
    Except GrammarError Progress :=
  match trim line with
  | [] => .ok ⟨grammar, .declarations⟩
  | c :: rest =>
    if c = '$' then actionLine grammar no line
    else if ':' ∉ c :: rest then do
      let (start, _) ← readWith no startDecl line
      return ⟨grammar, .started start⟩
    else if isAsciiLower c then do
      let (decl, _) ← readWith no ruleDecl line
      let grammar ← applyEdit grammar (Grammar.addRule (← decl.toRule))
      return ⟨grammar, .declarations⟩
    else if isAsciiUpper c then do
      let (regex, _) ← readWith no regexDecl line
      return ⟨grammar.addRegex regex.name regex.pattern, .declarations⟩
    else .error (.description no (.firstCharacter (String.ofList (c :: rest))))

/-- Reads one more line. -/
def line (progress : Progress) : Nat × List Char → Except GrammarError Progress
  | (no, text) =>
    match progress.mode with
    | .declarations => declarationLine progress.grammar no text
    | .action pending => codeLine progress.grammar pending no text
    | .started start =>
      if trim text = [] then .ok ⟨progress.grammar, .started start⟩
      else .error (.description no (.afterStart (String.ofList (trim text))))

/-- The grammar when `count` lines were all there are. -/
def finish (count : Nat) (progress : Progress) : Except GrammarError Grammar :=
  match progress.mode with
  | .declarations => .error (.description count .missingStart)
  | .action pending => .error (.description pending.header .unbalancedAction)
  | .started start => .ok (progress.grammar.setStart start)

end Progress

/-- The lines of a text with their numbers. -/
def numberedLines (text : List Char) : List (Nat × List Char) :=
  (lines text).zipIdx.map fun (line, index) => (index + 1, line)

/-- Reads a description; the grammar is not resolved. -/
def read (text : String) : Except GrammarError Grammar := do
  let numbered := numberedLines text.toList
  let progress ← numbered.foldlM Progress.line ⟨.empty, .declarations⟩
  progress.finish numbered.length

/-- Reads a description and resolves its grammar. Also tells which exports were carried over. -/
def readResolved (text : String) : Except GrammarError Grammar × List Reexport :=
  match read text with
  | .ok grammar => grammar.resolve
  | .error e => (.error e, [])

end AttributeGrammar.Description
