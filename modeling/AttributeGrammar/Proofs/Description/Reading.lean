import AttributeGrammar.Description.Document
import AttributeGrammar.Proofs.Description.Rendering
import AttributeGrammar.Proofs.Grammar.Resolved

/-!
# Descriptions are read to well-formed grammars

* `wellFormed_of_toRule` — a rule line stands for a well-formed rule.
* `Progress.Reads` — all that a line between declarations can leave.
* `readLines` — reads lines in a row; `read_eq` says that a description is read so.
* `keeps_read` — what the edits of a reading keep holds of every grammar that is read.
* `wellFormed_of_readResolved` — **every grammar that comes out of reading is well-formed**.
-/

set_option autoImplicit false

namespace AttributeGrammar.Description

variable {α β : Type} {text rest : List Char}

/-! ## Declarations -/

theorem valid_of_regexDecl {regex : RegexTerminal} (h : regexDecl text = .done regex rest) :
    isRegexName regex.name ∧ regex.pattern ≠ "" := by
  obtain ⟨_, _, -, h⟩ := Reader.bind_eq_done.mp (Reader.whole_eq_done.mp h).1
  obtain ⟨name, _, hname, h⟩ := Reader.bind_eq_done.mp h
  obtain ⟨_, _, -, h⟩ := Reader.bind_eq_done.mp h
  obtain ⟨_, _, -, h⟩ := Reader.bind_eq_done.mp h
  obtain ⟨_, _, -, h⟩ := Reader.bind_eq_done.mp h
  obtain ⟨read, _, hpattern, h⟩ := Reader.bind_eq_done.mp h
  obtain ⟨_, _, -, h⟩ := Reader.bind_eq_done.mp h
  cases h
  obtain ⟨_, -, -, hne⟩ := quoted_eq_done.mp hpattern
  exact ⟨(regexName_eq_done.mp hname).1, hne⟩

theorem startDecl_eq_done {start : String} :
    startDecl text = .done start rest ↔
      isRuleName start ∧ rest = [] ∧
        ∃ gap gap', Blanks gap ∧ Blanks gap' ∧ text = gap ++ (start.toList ++ gap') := by
  unfold startDecl
  rw [Reader.whole_eq_done]
  constructor
  · rintro ⟨h, rfl⟩
    obtain ⟨_, _, hfirst, h⟩ := Reader.bind_eq_done.mp h
    obtain ⟨name, _, hname, h⟩ := Reader.bind_eq_done.mp h
    obtain ⟨_, _, hlast, h⟩ := Reader.bind_eq_done.mp h
    cases h
    obtain ⟨gap, hgap, rfl, -⟩ := Reader.spaces_eq_done.mp hfirst
    obtain ⟨hrule, rfl, -⟩ := ruleName_eq_done.mp hname
    obtain ⟨gap', hgap', rfl, -⟩ := Reader.spaces_eq_done.mp hlast
    exact ⟨hrule, rfl, gap, gap', hgap, hgap', by simp⟩
  · rintro ⟨hrule, rfl, gap, gap', hgap, hgap', rfl⟩
    have hstops : Stops gap' := fun c hc => not_isNamePart_of_isSpace (hgap' c (List.mem_of_mem_head? hc))
    refine ⟨?_, rfl⟩
    refine (Reader.bind_of_done
      (Reader.spaces_append hgap (isIdentifier_of_isRuleName hrule).startsOutside)).trans ?_
    refine (Reader.bind_of_done (ruleName_eq_done.mpr ⟨hrule, rfl, hstops⟩)).trans ?_
    exact Reader.bind_of_done (Reader.spaces_eq_done.mpr
      ⟨gap', hgap', (List.append_nil gap').symm, by simp [StartsOutside]⟩)

/-- A rule line with a name of its class stands for a well-formed rule. -/
theorem wellFormed_of_toRule {decl : RuleDecl} {rule : Rule} (hname : isRuleName decl.name)
    (h : decl.toRule = .ok rule) : rule.WellFormed := by
  unfold RuleDecl.toRule at h
  split at h
  · rename_i hbuild
    cases h
    obtain ⟨_, mid, hinherited, hitems⟩ := Outcome.bind_eq_ok.mp hbuild
    have hmid : mid.WellFormed :=
      Outcome.forM_keeps Rule.WellFormed
        (fun v _ s after hs hstep => hs.extends (Rule.extends_declareInherited hstep))
        (Rule.wellFormed_new hname) hinherited
    exact Outcome.forM_keeps Rule.WellFormed (fun item _ s after hs hstep => hs.push hstep) hmid hitems
  · cases h

/-! ## Lines -/

theorem readWith_eq_ok {no : Nat} {reader : Reader α} {a : α} :
    readWith no reader text = .ok (a, rest) ↔ reader text = .done a rest := by
  unfold readWith
  split
  · rename_i heq
    simp [heq]
  · rename_i heq
    simp [heq]
  · rename_i heq
    simp [heq]

theorem of_applyEdit {grammar after : Grammar} {edit : Grammar.Edit Unit}
    (h : applyEdit grammar edit = .ok after) : edit grammar = .ok () after := by
  unfold applyEdit at h
  split at h
  · rename_i heq
    cases h
    exact heq
  · cases h

namespace Progress

variable {grammar : Grammar} {progress after : Progress} {no : Nat}

/-- What a line between declarations can leave. -/
inductive Reads (grammar : Grammar) (no : Nat) (text : List Char) : Progress → Prop where
  | blank : Reads grammar no text ⟨grammar, .declarations⟩
  | action {name : String} {exported : List Variable} {rest : List Char} {after : Progress} :
      actionHeader text = .done (name, exported) rest →
      codeLine grammar ⟨no, name, exported, 1, []⟩ no rest = .ok after → Reads grammar no text after
  | start {start : String} {rest : List Char} :
      startDecl text = .done start rest → Reads grammar no text ⟨grammar, .started start⟩
  | rule {decl : RuleDecl} {rest : List Char} {rule : Rule} {changed : Grammar} :
      ruleDecl text = .done decl rest → decl.toRule = .ok rule →
      Grammar.addRule rule grammar = .ok () changed → Reads grammar no text ⟨changed, .declarations⟩
  | regex {regex : RegexTerminal} {rest : List Char} :
      regexDecl text = .done regex rest →
      Reads grammar no text ⟨grammar.addRegex regex.name regex.pattern, .declarations⟩

theorem reads_declarationLine (h : declarationLine grammar no text = .ok after) :
    Reads grammar no text after := by
  unfold declarationLine at h
  split at h
  · cases h
    exact .blank
  split at h
  · obtain ⟨⟨⟨name, exported⟩, rest⟩, hread, h⟩ := Outcome.except_bind_eq_ok.mp h
    by_cases htwice : (grammar.action? name).isSome
    · simp only [htwice, if_true] at h
      obtain ⟨_, hthrow, -⟩ := Outcome.except_bind_eq_ok.mp h
      cases hthrow
    · simp only [htwice] at h
      exact .action (readWith_eq_ok.mp hread) h
  split at h
  · obtain ⟨_, hread, h⟩ := Outcome.except_bind_eq_ok.mp h
    cases h
    exact .start (readWith_eq_ok.mp hread)
  split at h
  · obtain ⟨_, hread, h⟩ := Outcome.except_bind_eq_ok.mp h
    obtain ⟨rule, hmade, h⟩ := Outcome.except_bind_eq_ok.mp h
    obtain ⟨changed, hedit, h⟩ := Outcome.except_bind_eq_ok.mp h
    cases h
    exact .rule (readWith_eq_ok.mp hread) hmade (of_applyEdit hedit)
  split at h
  · obtain ⟨_, hread, h⟩ := Outcome.except_bind_eq_ok.mp h
    cases h
    exact .regex (readWith_eq_ok.mp hread)
  · cases h

/-! ### The start symbol -/

/-- The start symbol that was read has a name of its class. -/
def StartNamed (progress : Progress) : Prop := ∀ start, progress.mode = .started start → isRuleName start

theorem startNamed_codeLine {pending : OpenAction} (h : codeLine grammar pending no text = .ok after) :
    after.StartNamed := by
  intro start hstart
  unfold codeLine at h
  split at h
  · cases h
    cases hstart
  · split at h
    · cases h
    · obtain ⟨changed, -, h⟩ := Outcome.except_bind_eq_ok.mp h
      cases h
      cases hstart

theorem StartNamed.line {numbered : Nat × List Char} (hprogress : progress.StartNamed)
    (h : progress.line numbered = .ok after) : after.StartNamed := by
  obtain ⟨no, text⟩ := numbered
  simp only [Progress.line] at h
  split at h
  · intro start hstart
    cases reads_declarationLine h with
    | action _ hcode => exact startNamed_codeLine hcode start hstart
    | start hread =>
      cases hstart
      exact (startDecl_eq_done.mp hread).1
    | _ => cases hstart
  · exact startNamed_codeLine h
  · rename_i start hmode
    split at h
    · cases h
      intro name hname
      cases hname
      exact hprogress start hmode
    · cases h

end Progress

/-! ## Lines in a row -/

/-- Reads lines, numbered from the one behind `first` on. -/
def readLines (first : Nat) (ls : List (List Char)) (progress : Progress) : Except GrammarError Progress :=
  ((ls.zipIdx first).map fun numbered => (numbered.2 + 1, numbered.1)).foldlM Progress.line progress

theorem readLines_cons {first : Nat} (line : List Char) (ls : List (List Char)) (progress : Progress) :
    readLines first (line :: ls) progress =
      progress.line (first + 1, line) >>= readLines (first + 1) ls := rfl

/-- A description is read by its lines. -/
theorem read_eq (text : String) :
    read text = readLines 0 (Text.lines text.toList) ⟨.empty, .declarations⟩ >>=
      Progress.finish (Text.lines text.toList).length := by
  simp only [read, numberedLines, readLines, List.length_map, List.length_zipIdx]

/-- What the lines of a description leave, and the start symbol that ends them. -/
theorem of_read {input : String} {grammar : Grammar} (h : read input = .ok grammar) :
    ∃ progress start, (numberedLines input.toList).foldlM Progress.line ⟨.empty, .declarations⟩ = .ok progress ∧
      progress.mode = .started start ∧ grammar = progress.grammar.setStart start := by
  obtain ⟨progress, hlines, hfinish⟩ := Outcome.except_bind_eq_ok.mp h
  unfold Progress.finish at hfinish
  split at hfinish
  · cases hfinish
  · cases hfinish
  · rename_i start hmode
    cases hfinish
    exact ⟨progress, start, hlines, hmode, rfl⟩

theorem isRuleName_start_of_read {input : String} {grammar : Grammar} (h : read input = .ok grammar) :
    isRuleName grammar.start := by
  obtain ⟨progress, start, hlines, hmode, rfl⟩ := of_read h
  exact Outcome.foldlM_keeps Progress.StartNamed (fun _ _ _ _ hb hstep => hb.line hstep)
    (fun start hmode => by cases hmode) hlines start hmode

/-! ### What edits keep, lines keep -/

section Kept

variable (keeps : Grammar → Prop)
  (haction : ∀ {grammar after : Grammar} {action : Action}, keeps grammar →
    Grammar.addAction action grammar = .ok () after → keeps after)

include haction

namespace Progress

variable {grammar : Grammar} {progress after : Progress} {no : Nat}

theorem keeps_codeLine {pending : OpenAction} (hgrammar : keeps grammar)
    (h : codeLine grammar pending no text = .ok after) : keeps after.grammar := by
  unfold codeLine at h
  split at h
  · cases h
    exact hgrammar
  · split at h
    · cases h
    · obtain ⟨changed, hedit, h⟩ := Outcome.except_bind_eq_ok.mp h
      cases h
      exact haction hgrammar (of_applyEdit hedit)

end Progress

variable
  (hrule : ∀ {grammar after : Grammar} {decl : RuleDecl} {rule : Rule}, keeps grammar → decl.Valid →
    decl.toRule = .ok rule → Grammar.addRule rule grammar = .ok () after → keeps after)
  (hregex : ∀ {grammar : Grammar} {regex : RegexTerminal}, keeps grammar → isRegexName regex.name →
    regex.pattern ≠ "" → keeps (grammar.addRegex regex.name regex.pattern))

include hrule hregex

namespace Progress

variable {progress after : Progress}

theorem keeps_line {numbered : Nat × List Char} (hprogress : keeps progress.grammar)
    (h : progress.line numbered = .ok after) : keeps after.grammar := by
  obtain ⟨no, text⟩ := numbered
  simp only [line] at h
  split at h
  · cases reads_declarationLine h with
    | blank => exact hprogress
    | action _ hcode => exact keeps_codeLine keeps haction hprogress hcode
    | start _ => exact hprogress
    | rule hread hmade hedit => exact hrule hprogress (valid_of_ruleDecl hread) hmade hedit
    | regex hread =>
      obtain ⟨hname, hpattern⟩ := valid_of_regexDecl hread
      exact hregex hprogress hname hpattern
  · exact keeps_codeLine keeps haction hprogress h
  · split at h
    · cases h
      exact hprogress
    · cases h

end Progress

/-- What the edits of a reading keep, with valid declarations, holds of every grammar that is read. -/
theorem keeps_read (hempty : keeps .empty)
    (hstart : ∀ {grammar : Grammar} (start : String), keeps grammar → keeps (grammar.setStart start))
    {input : String} {grammar : Grammar} (h : read input = .ok grammar) : keeps grammar := by
  obtain ⟨progress, start, hlines, -, rfl⟩ := of_read h
  exact hstart start (Outcome.foldlM_keeps (fun progress : Progress => keeps progress.grammar)
    (fun _ _ _ _ hb hstep => Progress.keeps_line keeps haction hrule hregex hb hstep) hempty hlines)

end Kept

theorem wellFormed_of_read {input : String} {grammar : Grammar} (h : read input = .ok grammar) :
    grammar.WellFormed :=
  keeps_read Grammar.WellFormed Grammar.WellFormed.addAction
    (fun hgrammar hvalid hmade hedit => hgrammar.addRule (wellFormed_of_toRule hvalid.name hmade) hedit)
    (fun hgrammar hname _ => hgrammar.addRegex hname _) Grammar.wellFormed_empty
    (fun _ hgrammar => ⟨hgrammar.rules, hgrammar.regexes⟩) h

theorem readResolved_eq_ok {input : String} {grammar : Grammar} :
    (readResolved input).1 = .ok grammar ↔ ∃ source, read input = .ok source ∧
      source.resolve.1 = .ok grammar := by
  unfold readResolved
  split
  · rename_i source hread
    simp [hread]
  · rename_i hread
    simp [hread]

/-- **Every grammar that comes out of reading and resolving is well-formed.** -/
theorem wellFormed_of_readResolved {input : String} {grammar : Grammar}
    (h : (readResolved input).1 = .ok grammar) : grammar.WellFormed := by
  obtain ⟨source, hread, hresolve⟩ := readResolved_eq_ok.mp h
  exact (wellFormed_of_read hread).resolve hresolve

end AttributeGrammar.Description
