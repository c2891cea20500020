import AttributeGrammar.Proofs.Description.Declarations
import AttributeGrammar.Proofs.Text.Lines

/-!
# The lines on which a grammar is displayed

A grammar is displayed without escapes, one line for each declaration, with the start symbol on the last line.

* `Declaration.text`, `Grammar.toList_render` — what a declaration looks like, and a whole grammar.
* `Item.displayed`, `Alternative.cons_toList_render` — what the elements of an alternative look like.
* `Declaration.tail` — what reads the text behind the colon of a declaration;
  `Declaration.declarationLine_eq_ok` ties it to the reading of lines.
* `Declaration.Valid.withinLine_head` — the head of a line ends no line.
-/

set_option autoImplicit false

namespace AttributeGrammar

open Description

/-! ## Declarations as they are displayed -/

namespace Declaration

/-- The name on a line, with the parameters if there are some. -/
def label (name : String) (inherited : List Variable) : String :=
  if inherited = [] then name else name ++ " [" ++ ", ".intercalate (inherited.map Variable.render) ++ "]"

/-- The line of a declaration, up to its colon. -/
def head : Declaration → List Char
  | .regex terminal => terminal.name.toList ++ [' ']
  | .rule decl => (label decl.name decl.inherited).toList ++ [' ']

/-- The line of a declaration behind its colon. -/
def body : Declaration → List Char
  | .regex terminal => ' ' :: '\'' :: (terminal.pattern.toList ++ ['\''])
  | .rule decl => ' ' :: (Alternative.render ⟨decl.items⟩).toList

def text (declaration : Declaration) : List Char := declaration.head ++ ':' :: declaration.body

/-- Declarations in a row, each with a newline behind it. -/
def displayAll (declarations : List Declaration) : List Char :=
  declarations.flatMap fun declaration => declaration.text ++ ['\n']

theorem displayAll_cons (declaration : Declaration) (declarations : List Declaration) (rest : List Char) :
    displayAll (declaration :: declarations) ++ rest =
      declaration.text ++ '\n' :: (displayAll declarations ++ rest) := by
  simp [displayAll]

end Declaration

namespace Grammar

open Declaration

theorem toList_ruleLines (rule : Rule) :
    (String.join (ruleLines rule)).toList = displayAll rule.declarations := by
  rw [String.toList_join, ruleLines, displayAll, Rule.declarations, List.flatMap_map, List.flatMap_map]
  refine List.flatMap_congr fun alternative _ => ?_
  simp [text, head, body, label, List.map_eq_nil_iff]

/-- A displayed grammar is the row of its declarations, with the start symbol behind them. -/
theorem toList_render (grammar : Grammar) :
    grammar.render.toList = displayAll grammar.declarations ++ (grammar.start.toList ++ ['\n']) := by
  have hregexes :
    (String.join (grammar.regexes.map fun regex => s!"{regex.name} : '{regex.pattern}'\n")).toList =
      displayAll (grammar.regexes.map .regex) := by
    rw [String.toList_join, displayAll, List.flatMap_map, List.flatMap_map]
    refine List.flatMap_congr fun regex _ => ?_
    simp [text, head, body, toString]
  have hrules : (String.join (grammar.rules.flatMap ruleLines)).toList =
      displayAll (grammar.rules.flatMap Rule.declarations) := by
    rw [String.toList_join, displayAll, List.flatMap_assoc, List.flatMap_assoc]
    refine List.flatMap_congr fun rule _ => ?_
    rw [← String.toList_join, toList_ruleLines, displayAll]
  rw [declarations, displayAll, List.flatMap_append, ← displayAll, ← displayAll, ← hregexes, ← hrules]
  simp only [render, String.toList_append, List.append_assoc]
  rfl

end Grammar

/-! ### Elements of an alternative -/

/-- The characters of an element that is displayed. -/
def Item.displayed : Item → List Char
  | .text literal => '\'' :: (literal.toList ++ ['\''])
  | .regex name | .rule name => name.toList
  | .assignRule var target => '(' :: (var.toList ++ (' ' :: '=' :: ' ' :: (target.toList ++ [')'])))
  | .assignText var literal =>
    '(' :: (var.toList ++ (' ' :: '=' :: ' ' :: (('\'' :: (literal.toList ++ ['\''])) ++ [')'])))
  | .assignRegex var name => '(' :: (var.toList ++ (' ' :: '=' :: ' ' :: (name.toList ++ [')'])))
  | .action name => '$' :: name.toList

theorem Item.toList_render (item : Item) : item.render.toList = item.displayed := by
  cases item <;> simp [render, displayed, toString]

namespace Alternative

variable {item other : Item} {items : List Item}

theorem toList_render_singleton : (render ⟨[item]⟩).toList = item.displayed := by
  simp [render, Item.toList_render]

theorem toList_render_cons_cons :
    (render ⟨item :: other :: items⟩).toList =
      item.displayed ++ ([' '] ++ (render ⟨other :: items⟩).toList) := by
  simp [render, Item.toList_render]

/-- Each element is displayed with a blank before it. -/
theorem cons_toList_render (h : items ≠ []) :
    ' ' :: (render ⟨items⟩).toList = items.flatMap fun item => ' ' :: item.displayed := by
  induction items with
  | nil => exact absurd rfl h
  | cons item items ih =>
    cases items with
    | nil => simp [toList_render_singleton]
    | cons other items =>
      rw [toList_render_cons_cons, List.flatMap_cons, ← ih (List.cons_ne_nil _ _)]
      simp

end Alternative

/-! ## Texts within a line -/

namespace Description

open Text

variable {text : List Char} {inherited : List Variable}

theorem withinLine_of_blanks (h : Blanks text) : WithinLine text := by
  refine withinLine_of_forall fun c hc => ⟨?_, ?_⟩ <;> rintro rfl <;> cases h _ hc

theorem withinLine_of_isNamePart (h : ∀ c ∈ text, isNamePart c) : WithinLine text := by
  refine withinLine_of_forall fun c hc => ⟨?_, ?_⟩ <;> rintro rfl <;> cases h _ hc

theorem withinLine_type {v : Variable} (h : v.Valid) : WithinLine v.type.toList := by
  refine withinLine_of_forall fun c hc => ⟨?_, ?_⟩ <;> rintro rfl <;> cases h.type _ hc

theorem withinLine_of_separator (h : Separator text) : WithinLine text := by
  cases h with
  | blank hgap _ => exact withinLine_of_blanks hgap
  | comma hgap hgap' =>
    exact (withinLine_of_blanks hgap).append ((withinLine_of_blanks hgap').cons (by decide))

theorem withinLine_of_list {vs : List Variable} (h : EntriesRendering vs text) (hvalid : ∀ v ∈ vs, v.Valid) :
    WithinLine text := by
  induction h with
  | last hgap _ =>
    have hv := hvalid _ (.head _)
    exact (withinLine_type hv).append
      ((withinLine_of_blanks hgap).append (withinLine_of_isNamePart hv.name.isNamePart))
  | cons hgap _ hseparator _ ih =>
    obtain ⟨hv, hvs⟩ := List.forall_mem_cons.mp hvalid
    exact (withinLine_type hv).append ((withinLine_of_blanks hgap).append
      ((withinLine_of_isNamePart hv.name.isNamePart).append
        ((withinLine_of_separator hseparator).append (ih hvs))))

theorem withinLine_of_parameters (h : ParametersRendering inherited text) (hvalid : ∀ v ∈ inherited, v.Valid) :
    WithinLine text := by
  have hclose : WithinLine [']'] := withinLine_singleton (by decide)
  cases h with
  | none => exact withinLine_nil
  | empty hgap => exact ((withinLine_of_blanks hgap).append hclose).cons (by decide)
  | list hgap hlist hgap' =>
    exact ((withinLine_of_blanks hgap).append ((withinLine_of_list hlist hvalid).append
      ((withinLine_of_blanks hgap').append hclose))).cons (by decide)

end Description

namespace Declaration

open Text

variable {declaration read : Declaration} {grammar after : Grammar} {name : String} {inherited : List Variable}
  {text rest : List Char}

/-! ### Heads -/

theorem entriesRendering_intercalate {v : Variable} {vs : List Variable} :
    EntriesRendering (v :: vs) (", ".intercalate ((v :: vs).map Variable.render)).toList := by
  have hrender (v : Variable) : v.render.toList = v.type.toList ++ ([' '] ++ v.name.toList) := by
    simp [Variable.render]
  induction vs generalizing v with
  | nil =>
    rw [List.map_singleton, String.intercalate_singleton, hrender]
    exact .last blanks_space (by simp)
  | cons w vs ih =>
    rw [List.map_cons, List.map_cons, String.intercalate_cons_cons, ← List.map_cons, String.toList_append,
      String.toList_append, hrender]
    have h := EntriesRendering.cons (v := v) blanks_space (by simp) (.comma blanks_nil blanks_space) (@ih w)
    simpa using h

/-- The displayed head of a rule line is one that can be read. -/
theorem headerRendering_label : HeaderRendering name inherited ((label name inherited).toList ++ [' ']) := by
  cases inherited with
  | nil =>
    have h := @HeaderRendering.mk name _ _ _ _ _ blanks_nil blanks_nil .none blanks_space
    simpa [label] using h
  | cons v vs =>
    have h := @HeaderRendering.mk name _ _ _ _ _ blanks_nil blanks_space
      (.list blanks_nil (@entriesRendering_intercalate v vs) blanks_nil) blanks_space
    simpa [label] using h

/-- What reads the text behind the colon of a declaration. -/
def tail : Declaration → Reader Declaration
  | .regex terminal => .regex <$> Reader.whole (patternEnd terminal.name)
  | .rule decl => .rule <$> Reader.whole (afterColon decl.name decl.inherited)

/-- The letters with which the names of a class start. -/
def IsInitial (c : Char) : Declaration → Prop
  | .regex _ => isAsciiUpper c
  | .rule _ => isAsciiLower c

/-- The head of a declaration starts with a letter of its class. -/
theorem Valid.exists_head (h : declaration.Valid) :
    ∃ c more, declaration.head = c :: more ∧ declaration.IsInitial c := by
  cases declaration with
  | regex terminal =>
    obtain ⟨c, more, hname, hc⟩ := exists_cons_of_isCased h.1
    exact ⟨c, more ++ [' '], by rw [head, hname]; rfl, hc⟩
  | rule decl =>
    obtain ⟨c, more, hname, hc⟩ := exists_cons_of_isCased (RuleDecl.Valid.name h)
    refine ⟨c, (label decl.name decl.inherited).toList.tail ++ [' '], ?_, hc⟩
    rw [head, label]
    split <;> simp [hname]

/-- **A line with the head of a declaration declares what is read behind its colon.** -/
theorem declarationLine_eq_ok (hvalid : declaration.Valid) {no : Nat} {progress : Progress} :
    Progress.declarationLine grammar no (declaration.head ++ ':' :: text) = .ok progress ↔
      ∃ read rest changed, declaration.tail text = .done read rest ∧ grammar.addDeclaration read = .ok changed ∧
        progress = ⟨changed, .declarations⟩ := by
  obtain ⟨c, more, hhead, hc⟩ := hvalid.exists_head
  have hletter : isAsciiLetter c := by
    cases declaration <;> simp_all [isAsciiLetter, IsInitial]
  have hdollar : c ≠ '$' := by
    rintro rfl
    cases hletter
  obtain ⟨trimmed, htrim, -⟩ := exists_trim_cons (more ++ ':' :: text) (isBlank_of_isAsciiLetter hletter)
  have hcolon : ':' ∈ c :: trimmed := by
    rw [← htrim]
    exact mem_trim (by simp) rfl
  have hline : declaration.head ++ ':' :: text = c :: (more ++ ':' :: text) := by rw [hhead, List.cons_append]
  rw [Progress.declarationLine, hline, htrim]
  dsimp only
  rw [if_neg hdollar, if_neg (not_not_intro hcolon), ← hline]
  cases declaration with
  | regex terminal =>
    have hread : regexDecl ((Declaration.regex terminal).head ++ ':' :: text) =
        Reader.whole (patternEnd terminal.name) text := by
      have h := @regexDecl_header text terminal.name [] [' '] hvalid.1 blanks_nil blanks_space
      simpa [head] using h
    have hupper : isAsciiUpper c := hc
    rw [if_neg (not_isAsciiLower_of_isAsciiUpper hupper), if_pos hupper]
    simp only [Outcome.except_bind_eq_ok, Prod.exists, readWith_eq_ok, hread, tail, Reader.map_eq_done]
    constructor
    · rintro ⟨read, rest, hdone, h⟩
      cases h
      exact ⟨.regex read, rest, _, ⟨read, hdone, rfl⟩, rfl, rfl⟩
    · rintro ⟨_, rest, changed, ⟨read, hdone, rfl⟩, hdeclare, rfl⟩
      cases hdeclare
      exact ⟨read, rest, hdone, rfl⟩
  | rule decl =>
    have hread : ruleDecl ((Declaration.rule decl).head ++ ':' :: text) =
        Reader.whole (afterColon decl.name decl.inherited) text :=
      ruleDecl_header headerRendering_label (RuleDecl.Valid.name hvalid) (RuleDecl.Valid.inherited hvalid)
    have hlower : isAsciiLower c := hc
    rw [if_pos hlower]
    simp only [Outcome.except_bind_eq_ok, Prod.exists, readWith_eq_ok, hread, tail, Reader.map_eq_done]
    constructor
    · rintro ⟨read, rest, hdone, rule, hmade, changed, hadd, h⟩
      cases h
      exact ⟨.rule read, rest, changed, ⟨read, hdone, rfl⟩,
        Outcome.except_bind_eq_ok.mpr ⟨rule, hmade, hadd⟩, rfl⟩
    · rintro ⟨_, rest, changed, ⟨read, hdone, rfl⟩, hdeclare, rfl⟩
      obtain ⟨rule, hmade, hadd⟩ := Outcome.except_bind_eq_ok.mp hdeclare
      exact ⟨read, rest, hdone, rule, hmade, changed, hadd, rfl⟩

/-- The head of a valid declaration ends no line. -/
theorem Valid.withinLine_head (h : declaration.Valid) : WithinLine declaration.head := by
  cases declaration with
  | regex terminal =>
    exact (withinLine_of_isNamePart (isIdentifier_of_isRegexName h.1).isNamePart).append
      (withinLine_of_blanks blanks_space)
  | rule decl =>
    have hname := (isIdentifier_of_isRuleName (RuleDecl.Valid.name h)).isNamePart
    have hheader := @headerRendering_label decl.name decl.inherited
    rw [head]
    generalize (label decl.name decl.inherited).toList ++ [' '] = header at hheader ⊢
    cases hheader with
    | mk hgap hgap' hparameters hgap'' =>
      exact (withinLine_of_blanks hgap).append ((withinLine_of_isNamePart hname).append
        ((withinLine_of_blanks hgap').append
          ((withinLine_of_parameters hparameters (RuleDecl.Valid.inherited h)).append
            (withinLine_of_blanks hgap''))))

end Declaration

end AttributeGrammar
