import AttributeGrammar.Proofs.Description.Reading

/-!
# What lines mean

Whether a description is read, and to which grammar, does not depend on how its lines are numbered.

* `LineMeaning`, `lineMeaning` — what a line between declarations stands for, whatever was declared before it.
* `Progress.follow?`, `Progress.next?` — what one more line leaves; `Progress.toOption_line` says that lines
  are read so, but for their numbers and for the errors.
* `describe?`, `toOption_read` — the grammar that lines describe.
-/

set_option autoImplicit false

namespace AttributeGrammar.Description

open Text

variable {α : Type} {grammar : Grammar} {pending : OpenAction} {no : Nat} {line : List Char}

/-! ## Lines -/

/-- What a line between declarations stands for. -/
inductive LineMeaning where
  | blank
  | action (name : String) (exported : List Variable) (code : List Char)
  | start (start : String)
  | rule (rule : Rule)
  | regex (regex : RegexTerminal)
  | unreadable

/-- What stands for the value that a reader reads. -/
def meaningOf {α : Type} (reader : Reader α) (meaning : α → List Char → LineMeaning) (line : List Char) :
    LineMeaning :=
  match reader line with
  | .done a rest => meaning a rest
  | .reject _ _ | .abort _ _ => .unreadable

def ruleMeaning (decl : RuleDecl) : LineMeaning :=
  match decl.toRule with
  | .ok rule => .rule rule
  | .error _ => .unreadable

/-- What a line between declarations stands for. -/
def lineMeaning (line : List Char) : LineMeaning :=
  match trim line with
  | [] => .blank
  | c :: rest =>
    if c = '$' then meaningOf actionHeader (fun named code => .action named.1 named.2 code) line
    else if ':' ∉ c :: rest then meaningOf startDecl (fun start _ => .start start) line
    else if isAsciiLower c then meaningOf ruleDecl (fun decl _ => ruleMeaning decl) line
    else if isAsciiUpper c then meaningOf regexDecl (fun regex _ => .regex regex) line
    else .unreadable

/-- The rules behind a declaration, unless it cannot be merged. -/
def mergeRule? (rules : List Rule) (rule : Rule) : Option (List Rule) :=
  (applyEdit ⟨"", rules, [], []⟩ (Grammar.addRule rule)).toOption.map Grammar.rules

theorem addRule_apply (grammar : Grammar) (rule : Rule) :
    Grammar.addRule rule grammar =
      match grammar.rule? rule.name with
      | some existing => Grammar.editRule existing (Rule.merge rule) grammar
      | none => .ok () { grammar with rules := grammar.rules ++ [rule] } := by
  show (match grammar.rule? rule.name with | some _ => _ | none => _ : Grammar.Edit Unit) grammar = _
  cases grammar.rule? rule.name <;> rfl

/-- A declaration of a rule changes nothing but the rules, and depends on nothing else. -/
theorem toOption_addRule (grammar : Grammar) (rule : Rule) :
    (applyEdit grammar (Grammar.addRule rule)).toOption =
      (mergeRule? grammar.rules rule).map fun rules => { grammar with rules } := by
  have hsame : (⟨"", grammar.rules, [], []⟩ : Grammar).rule? rule.name = grammar.rule? rule.name := rfl
  unfold mergeRule? applyEdit
  rw [addRule_apply, addRule_apply, hsame]
  cases grammar.rule? rule.name with
  | none => rfl
  | some existing =>
    simp only [Grammar.editRule]
    cases Rule.merge rule existing <;> rfl

theorem toOption_addAction (grammar : Grammar) (action : Action) :
    (applyEdit grammar (Grammar.addAction action)).toOption =
      if grammar.action? action.name = none then some { grammar with actions := grammar.actions ++ [action] }
      else none := by
  have hrun : Grammar.addAction action grammar =
      if (grammar.action? action.name).isSome then
        .error (.inconsistent (.duplicateAction action.name)) grammar
      else .ok () { grammar with actions := grammar.actions ++ [action] } := by
    show (if (grammar.action? action.name).isSome then _ else _ : Grammar.Edit Unit) grammar = _
    split <;> rfl
  unfold applyEdit
  rw [hrun]
  cases grammar.action? action.name <;> rfl

namespace Progress

/-- What a line of code leaves. -/
def code? (grammar : Grammar) (pending : OpenAction) (line : List Char) : Option Progress :=
  match followBraces pending.depth pending.code line with
  | .unclosed depth code => some ⟨grammar, .action { pending with depth, code := code ++ ['\n'] }⟩
  | .closed code trailing =>
    if trim trailing = [] ∧ grammar.action? pending.name = none then
      let action : Action := ⟨pending.name, pending.exported, String.ofList (trim code)⟩
      some ⟨{ grammar with actions := grammar.actions ++ [action] }, .declarations⟩
    else none

/-- What a line between declarations leaves. -/
def follow? (grammar : Grammar) : LineMeaning → Option Progress
  | .blank => some ⟨grammar, .declarations⟩
  | .action name exported code =>
    if grammar.action? name = none then code? grammar ⟨0, name, exported, 1, []⟩ code else none
  | .start start => some ⟨grammar, .started start⟩
  | .rule rule => (mergeRule? grammar.rules rule).map fun rules => ⟨{ grammar with rules }, .declarations⟩
  | .regex regex => some ⟨grammar.addRegex regex.name regex.pattern, .declarations⟩
  | .unreadable => none

/-- What one more line leaves. -/
def next? (progress : Progress) (line : List Char) : Option Progress :=
  match progress.mode with
  | .declarations => follow? progress.grammar (lineMeaning line)
  | .action pending => code? progress.grammar pending line
  | .started start => if trim line = [] then some ⟨progress.grammar, .started start⟩ else none

/-- The progress without the number of a line in it. -/
def unnumbered (progress : Progress) : Progress :=
  match progress.mode with
  | .action pending => ⟨progress.grammar, .action { pending with header := 0 }⟩
  | .declarations | .started _ => progress

theorem toOption_codeLine :
    (codeLine grammar pending no line).toOption.map unnumbered =
      code? grammar { pending with header := 0 } line := by
  unfold codeLine code?
  dsimp only
  cases followBraces pending.depth pending.code line with
  | unclosed depth code => rfl
  | closed code trailing =>
    dsimp only
    by_cases htrailing : trim trailing = []
    · rw [if_neg (not_not_intro htrailing), Outcome.toOption_bind, toOption_addAction]
      by_cases hnew : grammar.action? pending.name = none
      · rw [if_pos hnew, if_pos ⟨htrailing, hnew⟩]
        rfl
      · rw [if_neg hnew, if_neg fun h => hnew h.2]
        rfl
    · rw [if_pos htrailing, if_neg fun h => htrailing h.1]
      rfl

/-- What is read with a reader is what its text means. -/
theorem toOption_readWith_bind {reader : Reader α} {meaning : α → List Char → LineMeaning}
    {next : α × List Char → Except GrammarError Progress}
    (h : ∀ a rest, (next (a, rest)).toOption.map unnumbered = follow? grammar (meaning a rest)) :
    (readWith no reader line >>= next).toOption.map unnumbered =
      follow? grammar (meaningOf reader meaning line) := by
  unfold readWith meaningOf
  cases reader line with
  | done a rest => exact h a rest
  | reject kind place => rfl
  | abort kind place => rfl

theorem toOption_declarationLine :
    (declarationLine grammar no line).toOption.map unnumbered = follow? grammar (lineMeaning line) := by
  unfold declarationLine lineMeaning
  cases trim line with
  | nil => rfl
  | cons c rest =>
    dsimp only
    split
    · refine toOption_readWith_bind fun named code => ?_
      dsimp only [follow?]
      cases haction : grammar.action? named.1 with
      | none =>
        rw [if_pos rfl]
        exact toOption_codeLine
      | some action => rfl
    split
    · exact toOption_readWith_bind fun start rest => rfl
    split
    · refine toOption_readWith_bind fun decl rest => ?_
      unfold ruleMeaning
      dsimp only
      cases decl.toRule with
      | error e => rfl
      | ok rule =>
        show ((applyEdit grammar (Grammar.addRule rule)) >>= _).toOption.map _ = _
        rw [Outcome.toOption_bind, toOption_addRule]
        dsimp only [follow?]
        cases mergeRule? grammar.rules rule <;> rfl
    split
    · exact toOption_readWith_bind fun regex rest => rfl
    · rfl

/-- **A line is read as it is understood,** whatever its number is. -/
theorem toOption_line (progress : Progress) (no : Nat) (line : List Char) :
    (progress.line (no, line)).toOption.map unnumbered = progress.unnumbered.next? line := by
  obtain ⟨grammar, _ | pending | start⟩ := progress
  · exact toOption_declarationLine
  · exact toOption_codeLine
  · show (if _ then _ else _ : Except GrammarError Progress).toOption.map _ = if _ then _ else _
    split <;> rfl

/-- The grammar when there are no more lines. -/
def grammar? (progress : Progress) : Option Grammar :=
  match progress.mode with
  | .started start => some (progress.grammar.setStart start)
  | .declarations | .action _ => none

theorem toOption_finish (progress : Progress) (count : Nat) :
    (progress.finish count).toOption = progress.unnumbered.grammar? := by
  obtain ⟨grammar, _ | pending | start⟩ := progress <;> rfl

/-- Lines in a row are read as they are understood. -/
theorem toOption_readLines (first : Nat) (ls : List (List Char)) (progress : Progress) :
    (readLines first ls progress).toOption.map unnumbered = ls.foldlM next? progress.unnumbered := by
  induction ls generalizing first progress with
  | nil => rfl
  | cons line ls ih =>
    rw [readLines_cons, Outcome.toOption_bind, List.foldlM_cons, ← toOption_line progress (first + 1) line]
    cases progress.line (first + 1, line) with
    | error e => rfl
    | ok after => exact ih (first + 1) after

end Progress

/-- The grammar that lines describe, when some were read before. -/
def describe? (progress : Progress) (ls : List (List Char)) : Option Grammar :=
  (ls.foldlM Progress.next? progress).bind Progress.grammar?

/-- **What a description comes to is what its lines describe.** -/
theorem toOption_readLines_finish (first count : Nat) (ls : List (List Char)) (progress : Progress) :
    (readLines first ls progress >>= Progress.finish count).toOption = describe? progress.unnumbered ls := by
  rw [Outcome.toOption_bind, describe?, ← Progress.toOption_readLines first]
  cases readLines first ls progress with
  | error e => rfl
  | ok after => exact after.toOption_finish count

theorem toOption_read (text : String) :
    (read text).toOption = describe? ⟨.empty, .declarations⟩ (lines text.toList) := by
  rw [read_eq, toOption_readLines_finish]
  rfl

end AttributeGrammar.Description
