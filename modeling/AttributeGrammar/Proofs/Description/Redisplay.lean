import AttributeGrammar.Proofs.Description.Display

/-!
# What is displayed is read back

Nothing is escaped where a grammar is displayed, so that not every grammar is read back.

* `LiteralDisplayable`, `PatternDisplayable`, `Grammar.Displayable` — nothing that is displayed between quotes
  would need an escape, or ends a line.
* `ItemText.verbatim`, `Declaration.displayable_of_tail` — an element, and a declaration, that is read from
  what is displayed for it is displayable.
* `readLines_declarations` — displayable declarations are read from their lines.
* `displayable_of_readLines` — a grammar that is read from what is displayed is another one where a
  declaration is not displayable: what is read there stays in the grammar.
* `read_render` — **a grammar that was read is read back from its display if and only if it is displayable**.
-/

set_option autoImplicit false

namespace AttributeGrammar

open Description Text

/-! ## What can be displayed -/

/-- A literal without quotes, backslashes and newlines. -/
def LiteralDisplayable (literal : String) : Prop :=
  '\'' ∉ literal.toList ∧ '\\' ∉ literal.toList ∧ '\n' ∉ literal.toList

/-- A pattern without quotes and newlines, in which no backslash is the last character or makes an escape
with the character that it is paired with. -/
def PatternDisplayable (pattern : String) : Prop :=
  '\'' ∉ pattern.toList ∧ '\n' ∉ pattern.toList ∧ pattern.toList.getLast? ≠ some '\\' ∧
    ∀ c ∈ escapedChars pattern.toList, c ∉ ['n', 'r', 't', '\'', '"', '\\']

theorem literalDisplayable_iff {literal : String} :
    LiteralDisplayable literal ↔ Verbatim false literal.toList ∧ '\n' ∉ literal.toList := by
  rw [LiteralDisplayable, verbatim_literal_iff, and_assoc]

theorem patternDisplayable_iff {pattern : String} :
    PatternDisplayable pattern ↔ Verbatim true pattern.toList ∧ '\n' ∉ pattern.toList := by
  simp only [PatternDisplayable, verbatim_pattern_iff, unescape?_eq_none]
  tauto

/-- Everything that is displayed between quotes can be displayed. -/
structure Grammar.Displayable (grammar : Grammar) : Prop where
  literals : ∀ literal ∈ grammar.literals, LiteralDisplayable literal
  patterns : ∀ regex ∈ grammar.regexes, PatternDisplayable regex.pattern

def Item.Displayable (item : Item) : Prop := ∀ literal ∈ item.literal?, LiteralDisplayable literal

def Declaration.Displayable : Declaration → Prop
  | .regex terminal => PatternDisplayable terminal.pattern
  | .rule decl => ∀ item ∈ decl.items, item.Displayable

theorem Grammar.displayable_iff {grammar : Grammar} :
    grammar.Displayable ↔ ∀ declaration ∈ grammar.declarations, declaration.Displayable := by
  rw [forall_mem_declarations]
  constructor
  · exact fun h => ⟨h.patterns, fun rule hrule alternative halternative item hitem literal hliteral =>
      h.literals literal (mem_literals.mpr ⟨rule, hrule, alternative, halternative, item, hitem, hliteral⟩)⟩
  · rintro ⟨hpatterns, hliterals⟩
    refine ⟨fun literal hliteral => ?_, hpatterns⟩
    obtain ⟨rule, hrule, alternative, halternative, item, hitem, hmem⟩ := mem_literals.mp hliteral
    exact hliterals rule hrule alternative halternative item hitem literal hmem

/-! ## Displayable declarations are read -/

variable {item : Item} {items : List Item} {text rest more : List Char}

theorem LiteralDisplayable.escaped {literal : String} (h : LiteralDisplayable literal) :
    Escaped literal.toList literal.toList :=
  (literalDisplayable_iff.mp h).1.escaped

/-- A displayable element is displayed in one of the ways to write it. -/
theorem Item.Displayable.rendering (h : item.Displayable) : ItemRendering item item.displayed := by
  have hassignment {var : String} {source : List Char} (hsource : SourceRendering var item source)
      (hdisplayed : item.displayed = '(' :: (var.toList ++ (' ' :: '=' :: ' ' :: (source ++ [')'])))) :
      ItemRendering item item.displayed := by
    have h := ItemRendering.assignment blanks_nil blanks_space blanks_space blanks_nil hsource
    rw [hdisplayed]
    simpa using h
  cases item with
  | text literal => exact .literal (h literal rfl).escaped
  | regex name => exact .name (.regex name)
  | rule name => exact .name (.rule name)
  | assignRule var target => exact hassignment (.name (.rule target)) rfl
  | assignText var literal => exact hassignment (.literal (h literal rfl).escaped) rfl
  | assignRegex var name => exact hassignment (.name (.regex name)) rfl
  | action name => exact .action name

/-- Displayable elements are displayed in one of the ways to write them. -/
theorem itemsRendering_render (h : ∀ item ∈ items, item.Displayable) :
    ItemsRendering items (Alternative.render ⟨items⟩).toList := by
  induction items with
  | nil => exact .nil
  | cons item items ih =>
    obtain ⟨hitem, hitems⟩ := List.forall_mem_cons.mp h
    cases items with
    | nil =>
      have hlast := ItemsRendering.cons hitem.rendering blanks_nil .nil fun _ _ _ => by simp [StartsOutside]
      rw [Alternative.toList_render_singleton]
      simpa using hlast
    | cons other items =>
      rw [Alternative.toList_render_cons_cons]
      refine .cons hitem.rendering blanks_space (ih hitems) fun _ _ _ c hc => ?_
      cases hc
      rfl

/-- **A displayable declaration is read back from what is displayed behind its colon.** -/
theorem Declaration.tail_body {declaration : Declaration} (hvalid : declaration.Valid)
    (h : declaration.Displayable) :
    declaration.tail declaration.body = .done declaration [] := by
  cases declaration with
  | regex terminal =>
    have hbody := (patternDisplayable_iff.mp h).1.body []
    exact Reader.map_eq_done.mpr ⟨terminal, patternEnd_eq_done.mpr
      ⟨terminal.pattern, [' '], _, [], rfl, rfl, rfl, blanks_space, blanks_nil, hvalid.2, hbody⟩, rfl⟩
  | rule decl =>
    obtain ⟨last, hlast, hitems⟩ :=
      many_spacedItem (itemsRendering_render h) (RuleDecl.Valid.items hvalid) blanks_space
    exact Reader.map_eq_done.mpr ⟨decl, afterColon_eq_done.mpr ⟨decl.items, last, rfl, rfl, hlast, hitems⟩, rfl⟩

/-! ## Only displayable declarations are read -/

namespace Description

/-- Blanks before what starts with none are the blanks before what is meant. -/
theorem Blanks.cancel {gap gap' meant : List Char} (hgap : Blanks gap) (hgap' : Blanks gap')
    (htext : StartsOutside Reader.isSpace text) (hne : text ≠ []) (hmeant : StartsOutside Reader.isSpace meant)
    (h : gap ++ text <+: gap' ++ meant) : gap = gap' ∧ text <+: meant := by
  induction gap generalizing gap' with
  | nil =>
    cases gap' with
    | nil => exact ⟨rfl, h⟩
    | cons c gap' =>
      cases text with
      | nil => exact absurd rfl hne
      | cons d text =>
        obtain ⟨rfl, -⟩ := List.cons_prefix_cons.mp h
        have hspace := hgap' d (.head _)
        rw [htext d rfl] at hspace
        cases hspace
  | cons c gap ih =>
    cases gap' with
    | nil =>
      obtain ⟨tail, htail⟩ := h
      have hspace := hgap c (.head _)
      rw [hmeant c (by rw [List.nil_append] at htail; rw [← htail]; rfl)] at hspace
      cases hspace
    | cons d gap' =>
      obtain ⟨rfl, hmore⟩ := List.cons_prefix_cons.mp h
      obtain ⟨rfl, hbegins⟩ := ih (fun d hd => hgap d (.tail _ hd)) (fun d hd => hgap' d (.tail _ hd)) hmore
      exact ⟨rfl, hbegins⟩

/-- What an assignment takes is displayable if it is read from its display, and nothing else of the display
is read. -/
theorem SourceText.exists_displayed {var : String} (h : SourceText var item text rest) :
    ∃ source, item.displayed = '(' :: (var.toList ++ (' ' :: '=' :: ' ' :: (source ++ [')']))) ∧
      (∀ more, StartsOutside Reader.isSpace (source ++ more)) ∧
      ∀ more, text <+: source ++ more →
        (∀ literal ∈ item.literal?, Verbatim false literal.toList) ∧ text = source ++ rest := by
  cases h with
  | @literal literal body _ hbody hne =>
    refine ⟨_, rfl, fun more c hc => ?_, fun more hbegins => ?_⟩
    · cases hc
      rfl
    · rw [List.cons_append, List.cons_prefix_cons, List.append_assoc] at hbegins
      obtain ⟨hverbatim, rfl⟩ := hbody.verbatim hbegins.2
      refine ⟨fun other hother => ?_, by simp⟩
      cases hother
      exact hverbatim
  | @name name _ hname _ =>
    obtain ⟨word, hword, hchars⟩ := hname.exists_chars
    refine ⟨name.chars, ?_, fun more => by rw [hchars]; exact hword.startsOutside, fun more _ => ⟨?_, rfl⟩⟩
    · cases name <;> rfl
    · cases name <;> simp [Name.toAssignment, Item.literal?]

/-- **An element that is read from its display is displayable,** and nothing else of the display is read. -/
theorem ItemText.verbatim (h : ItemText item text rest) (hbegins : text <+: item.displayed ++ more) :
    (∀ literal ∈ item.literal?, Verbatim false literal.toList) ∧ text = item.displayed ++ rest := by
  cases h with
  | @literal literal body _ hbody hne =>
    rw [Item.displayed, List.cons_append, List.cons_prefix_cons, List.append_assoc] at hbegins
    obtain ⟨hverbatim, rfl⟩ := hbody.verbatim hbegins.2
    refine ⟨fun other hother => ?_, by simp [Item.displayed]⟩
    cases hother
    exact hverbatim
  | @name name _ hname hrest => cases name <;> simp [Name.toItem, Item.displayed, Item.literal?, Name.chars]
  | action hname hrest => simp [Item.displayed, Item.literal?]
  | @assignment var item gap gap' gap'' last source _ hvar hgap hgap' hgap'' hlast hsource =>
    obtain ⟨display, hshape, hstarts, hdisplay⟩ := hsource.exists_displayed
    have hne : source ≠ [] := List.ne_nil_of_length_pos (Nat.lt_of_le_of_lt (Nat.zero_le _) hsource.length_lt)
    have hequals (more : List Char) : StartsOutside Reader.isSpace ('=' :: more) := fun c hc => by cases hc; rfl
    have hclose (more : List Char) : StartsOutside Reader.isSpace (')' :: more) := fun c hc => by cases hc; rfl
    have hvarNe : var.toList ++ (gap' ++ '=' :: (gap'' ++ source)) ≠ [] := by simp
    rw [hshape] at hbegins ⊢
    simp only [List.cons_append, List.append_assoc, List.nil_append, List.cons_prefix_cons, true_and] at hbegins
    obtain ⟨rfl, hname⟩ := hgap.cancel blanks_nil hvar.startsOutside hvarNe hvar.startsOutside hbegins
    have hbehindName := (List.prefix_append_right_inj _).mp hname
    obtain ⟨rfl, hequal⟩ := hgap'.cancel blanks_space (hequals _) (by simp) (hequals _) hbehindName
    have hbehindEquals := (List.cons_prefix_cons.mp hequal).2
    obtain ⟨rfl, hdisplayed⟩ :=
      hgap''.cancel blanks_space hsource.startsOutside hne (hstarts (')' :: more)) hbehindEquals
    obtain ⟨hverbatim, rfl⟩ := hdisplay _ hdisplayed
    have hbehindSource := (List.prefix_append_right_inj _).mp hdisplayed
    obtain ⟨rfl, -⟩ := hlast.cancel blanks_nil (hclose _) (by simp) (hclose _) hbehindSource
    exact ⟨hverbatim, by simp⟩

/-- No element starts with a blank where it is displayed. -/
theorem startsOutside_displayed (h : item.Valid) : StartsOutside Reader.isSpace (item.displayed ++ text) := by
  cases item with
  | regex name => exact (isIdentifier_of_isRegexName h).startsOutside
  | rule name => exact (isIdentifier_of_isRuleName h).startsOutside
  | _ =>
    intro c hc
    cases hc
    rfl

theorem mem_displayed_of_literal {literal : String} (h : literal ∈ item.literal?) {c : Char}
    (hc : c ∈ literal.toList) : c ∈ item.displayed := by
  cases item with
  | text other | assignText var other =>
    cases h
    simp [Item.displayed, hc]
  | _ => cases h

/-- Elements that are read from their display are displayable. -/
theorem displayable_of_many {last : List Char} (h : Reader.many spacedItem text = .done items last)
    (hnewline : '\n' ∉ text) (hbegins : text <+: items.flatMap fun item => ' ' :: item.displayed) :
    ∀ item ∈ items, item.Displayable := by
  induction items generalizing text with
  | nil => simp
  | cons item items ih =>
    obtain ⟨mid, hfirst, hmore⟩ := Reader.of_many_eq_done_cons h
    obtain ⟨_, start, hspaces, hitem⟩ := Reader.bind_eq_done.mp hfirst
    obtain ⟨gap, hgap, rfl, -⟩ := Reader.spaces_eq_done.mp hspaces
    have htext := item_eq_done.mp hitem
    have hne : start ≠ [] := List.ne_nil_of_length_pos (Nat.lt_of_le_of_lt (Nat.zero_le _) htext.length_lt)
    obtain ⟨rfl, hdisplayed⟩ :=
      hgap.cancel blanks_space htext.startsOutside hne (startsOutside_displayed htext.valid) hbegins
    obtain ⟨hverbatim, rfl⟩ := htext.verbatim hdisplayed
    simp only [List.mem_append, not_or] at hnewline
    refine List.forall_mem_cons.mpr ⟨fun literal hliteral => ?_, ?_⟩
    · exact literalDisplayable_iff.mpr ⟨hverbatim literal hliteral,
        fun hmem => hnewline.2.1 (mem_displayed_of_literal hliteral hmem)⟩
    · exact ih hmore hnewline.2.2 ((List.prefix_append_right_inj _).mp hdisplayed)

end Description

/-- **A declaration that is read from the start of its display is displayable.** -/
theorem Declaration.displayable_of_tail {declaration : Declaration}
    (h : declaration.tail text = .done declaration rest) (hbegins : text <+: declaration.body)
    (hnewline : '\n' ∉ text) : declaration.Displayable := by
  cases declaration with
  | regex terminal =>
    obtain ⟨read, hread, heq⟩ := Reader.map_eq_done.mp h
    cases heq
    obtain ⟨pattern, gap, body, last, hterminal, -, rfl, hgap, -, -, hbody⟩ := patternEnd_eq_done.mp hread
    have hquote (more : List Char) : StartsOutside Reader.isSpace ('\'' :: more) := fun c hc => by cases hc; rfl
    obtain ⟨rfl, hdisplayed⟩ := hgap.cancel blanks_space (hquote _) (by simp) (hquote _) hbegins
    have hpattern : pattern = terminal.pattern := by rw [hterminal]
    subst hpattern
    obtain ⟨hverbatim, rfl⟩ := hbody.verbatim (List.cons_prefix_cons.mp hdisplayed).2
    refine patternDisplayable_iff.mpr ⟨hverbatim, fun hmem => hnewline ?_⟩
    simp [hmem]
  | rule decl =>
    obtain ⟨read, hread, heq⟩ := Reader.map_eq_done.mp h
    cases heq
    obtain ⟨items, last, hdecl, -, -, hitems⟩ := afterColon_eq_done.mp hread
    have hsame : items = decl.items := by rw [hdecl]
    subst hsame
    intro item hitem
    rw [body, Alternative.cons_toList_render (List.ne_nil_of_mem hitem)] at hbegins
    exact displayable_of_many hitems hnewline hbegins item hitem

/-! ## Displayable declarations stay on their lines -/

theorem withinLine_quoted (h : '\n' ∉ text) : WithinLine ('\'' :: (text ++ ['\''])) := by
  refine ⟨by simpa using h, ?_⟩
  rw [← List.cons_append, List.getLast?_append]
  simp

namespace Declaration

theorem withinLine_displayed (hvalid : item.Valid) (h : item.Displayable) : WithinLine item.displayed := by
  have hname {name : String} (hname : IsIdentifier name) : WithinLine name.toList :=
    withinLine_of_isNamePart hname.isNamePart
  have hassignment {var : String} {source : List Char} (hvar : IsIdentifier var) (hsource : WithinLine source) :
      WithinLine ('(' :: (var.toList ++ (' ' :: '=' :: ' ' :: (source ++ [')'])))) := by
    have hclose : WithinLine [')'] := withinLine_singleton (by decide)
    exact ((hname hvar).append
      ((((hsource.append hclose).cons (by decide)).cons (by decide)).cons (by decide))).cons (by decide)
  cases item with
  | text literal => exact withinLine_quoted (h literal rfl).2.2
  | regex name => exact hname (isIdentifier_of_isRegexName hvalid)
  | rule name => exact hname (isIdentifier_of_isRuleName hvalid)
  | assignRule var target => exact hassignment hvalid.1 (hname (isIdentifier_of_isRuleName hvalid.2))
  | assignText var literal => exact hassignment hvalid.1 (withinLine_quoted (h literal rfl).2.2)
  | assignRegex var name => exact hassignment hvalid.1 (hname (isIdentifier_of_isRegexName hvalid.2))
  | action name => exact (hname hvalid).cons (by decide)

theorem Displayable.withinLine_body {declaration : Declaration} (hvalid : declaration.Valid)
    (h : declaration.Displayable) : WithinLine declaration.body := by
  cases declaration with
  | regex terminal => exact (withinLine_quoted h.2.1).cons (by decide)
  | rule decl =>
    refine WithinLine.cons (by decide) ?_
    have hitems := RuleDecl.Valid.items hvalid
    rw [Displayable] at h
    generalize decl.items = items at h hitems ⊢
    induction items with
    | nil => exact withinLine_nil
    | cons item items ih =>
      obtain ⟨hitem, hmore⟩ := List.forall_mem_cons.mp h
      obtain ⟨hvalid, hvalids⟩ := List.forall_mem_cons.mp hitems
      cases items with
      | nil =>
        rw [Alternative.toList_render_singleton]
        exact withinLine_displayed hvalid hitem
      | cons other items =>
        rw [Alternative.toList_render_cons_cons]
        exact (withinLine_displayed hvalid hitem).append ((ih hmore hvalids).cons (by decide))

end Declaration

/-! ## What is declared stays -/

namespace Grammar

variable {grammar other after : Grammar} {declarations : List Declaration}

/-- What one grammar declares comes first in another. -/
structure ContinuedBy (grammar other : Grammar) : Prop where
  regexes : grammar.regexes <+: other.regexes
  alternatives : ∀ name, grammar.alternativesOf name <+: other.alternativesOf name

theorem ContinuedBy.refl (grammar : Grammar) : grammar.ContinuedBy grammar :=
  ⟨List.prefix_rfl, fun _ => List.prefix_rfl⟩

theorem ContinuedBy.trans (h : grammar.ContinuedBy other) (h' : other.ContinuedBy after) :
    grammar.ContinuedBy after :=
  ⟨h.regexes.trans h'.regexes, fun name => (h.alternatives name).trans (h'.alternatives name)⟩

theorem continuedBy_addRule {rule : Rule} (h : addRule rule grammar = .ok () after) :
    grammar.ContinuedBy after := by
  obtain ⟨hregexes, halternatives⟩ := alternativesOf_addRule h
  exact ⟨⟨[], by rw [List.append_nil, hregexes]⟩, fun name => ⟨_, (halternatives name).symm⟩⟩

theorem continuedBy_addDeclaration {declaration : Declaration} (hvalid : declaration.Valid)
    (h : grammar.addDeclaration declaration = .ok after) : grammar.ContinuedBy after :=
  ⟨⟨_, (regexes_addDeclaration h).symm⟩, fun name => ⟨_, (alternativesOf_addDeclaration hvalid h name).symm⟩⟩

theorem continuedBy_addDeclarations (hvalid : ∀ declaration ∈ declarations, declaration.Valid)
    (h : declarations.foldlM addDeclaration grammar = .ok after) : grammar.ContinuedBy after :=
  Outcome.foldlM_keeps grammar.ContinuedBy
    (fun declaration hmem _ _ hb hstep => hb.trans (continuedBy_addDeclaration (hvalid declaration hmem) hstep))
    (.refl grammar) h

/-- Reading lines takes nothing back. -/
theorem continuedBy_lines {numbered : List (Nat × List Char)} {progress last : Progress}
    (h : numbered.foldlM Progress.line progress = .ok last) : progress.grammar.ContinuedBy last.grammar := by
  refine Outcome.foldlM_keeps (fun after : Progress => progress.grammar.ContinuedBy after.grammar)
    (fun _ _ _ _ hb hstep => ?_) (.refl _) h
  refine Progress.keeps_line progress.grammar.ContinuedBy (fun hgrammar hedit => ?_)
    (fun hgrammar _ _ hedit => hgrammar.trans (continuedBy_addRule hedit)) (fun hgrammar _ _ => ?_) hb hstep
  · rw [addAction_eq_ok hedit]
    exact ⟨hgrammar.regexes, hgrammar.alternatives⟩
  · exact hgrammar.trans ⟨List.prefix_append _ _, fun _ => List.prefix_rfl⟩

end Grammar

theorem eq_of_concat {α : Type} {front whole : List α} {a b : α} (ha : front ++ [a] <+: whole)
    (hb : front ++ [b] <+: whole) : a = b := by
  have hle := List.prefix_of_prefix_length_le ha hb (by simp)
  have heq := hle.eq_of_length (by simp)
  simpa using heq

/-- **What is read in the place of a declaration stays in the grammar.** If the same regex terminals and
alternatives come about, it was that declaration. -/
theorem Declaration.eq_of_continuedBy {declaration read : Declaration}
    {grammar declared changed whole again : Grammar} (hvalid : declaration.Valid)
    (hread : declaration.tail text = .done read rest)
    (hdeclaration : grammar.addDeclaration declaration = .ok declared)
    (hother : grammar.addDeclaration read = .ok changed) (hwhole : declared.ContinuedBy whole)
    (hagain : changed.ContinuedBy again) (hregexes : again.regexes = whole.regexes)
    (halternatives : ∀ name, again.alternativesOf name = whole.alternativesOf name) : read = declaration := by
  cases declaration with
  | regex terminal =>
    obtain ⟨terminal', hdone, rfl⟩ := Reader.map_eq_done.mp hread
    have hfront := hwhole.regexes
    have hback := hagain.regexes
    rw [Grammar.regexes_addDeclaration hdeclaration] at hfront
    rw [Grammar.regexes_addDeclaration hother, hregexes] at hback
    rw [eq_of_concat hback hfront]
  | rule decl =>
    obtain ⟨decl', hdone, rfl⟩ := Reader.map_eq_done.mp hread
    have hline := @ruleDecl_header text _ _ _ headerRendering_label (RuleDecl.Valid.name hvalid)
      (RuleDecl.Valid.inherited hvalid)
    have hvalid' : (Declaration.rule decl').Valid := valid_of_ruleDecl (hline.trans hdone)
    obtain ⟨items, last, rfl, -⟩ := afterColon_eq_done.mp hdone
    have hfront := hwhole.alternatives decl.name
    have hback := hagain.alternatives decl.name
    rw [Grammar.alternativesOf_addDeclaration hvalid hdeclaration, alternativesOf, if_pos rfl] at hfront
    rw [Grammar.alternativesOf_addDeclaration hvalid' hother, alternativesOf, if_pos rfl,
      halternatives] at hback
    have hitems : items = decl.items := congrArg Alternative.items (eq_of_concat hback hfront)
    rw [hitems]

/-! ## Reading what is displayed -/

open Declaration

variable {declarations : List Declaration} {declaration : Declaration} {grammar declared : Grammar}
    {first : Nat}

/-- The first line of the display of a declaration has its head. -/
theorem exists_firstLine (hvalid : declaration.Valid) (rest : List Char) :
    ∃ text more, lines (declaration.text ++ '\n' :: rest) = (declaration.head ++ ':' :: text) :: more ∧
      text <+: declaration.body ∧ '\n' ∉ text := by
  obtain ⟨text, more, hlines, hbegins, hnewline⟩ := exists_lines declaration.body rest
  have hfront : WithinLine (declaration.head ++ [':']) :=
    hvalid.withinLine_head.append (withinLine_singleton (by decide))
  refine ⟨text, more, ?_, hbegins, hnewline⟩
  have hline := lines_append hfront hlines
  simpa [Declaration.text] using hline

/-- A displayable declaration is displayed on one line. -/
theorem lines_displayable (hvalid : declaration.Valid) (h : declaration.Displayable) (rest : List Char) :
    lines (declaration.text ++ '\n' :: rest) = declaration.text :: lines rest :=
  lines_append_newline (hvalid.withinLine_head.append ((h.withinLine_body hvalid).cons (by decide))) rest

/-- **The lines of displayable declarations declare them.** -/
theorem readLines_declarations (hvalid : ∀ declaration ∈ declarations, declaration.Valid)
    (hdisplayable : ∀ declaration ∈ declarations, declaration.Displayable)
    (h : declarations.foldlM Grammar.addDeclaration grammar = .ok declared) :
    readLines first (lines (displayAll declarations ++ rest)) ⟨grammar, .declarations⟩ =
      readLines (first + declarations.length) (lines rest) ⟨declared, .declarations⟩ := by
  induction declarations generalizing grammar first with
  | nil =>
    cases h
    rfl
  | cons declaration declarations ih =>
    obtain ⟨hdeclaration, hvalid⟩ := List.forall_mem_cons.mp hvalid
    obtain ⟨hdisplayed, hdisplayable⟩ := List.forall_mem_cons.mp hdisplayable
    rw [List.foldlM_cons] at h
    obtain ⟨mid, hfirst, hmore⟩ := Outcome.except_bind_eq_ok.mp h
    have hline : Progress.line ⟨grammar, .declarations⟩ (first + 1, declaration.text) =
        .ok ⟨mid, .declarations⟩ :=
      (Declaration.declarationLine_eq_ok hdeclaration).mpr
        ⟨declaration, [], mid, Declaration.tail_body hdeclaration hdisplayed, hfirst, rfl⟩
    rw [displayAll_cons, lines_displayable hdeclaration hdisplayed, readLines_cons, hline]
    refine (ih hvalid hdisplayable hmore).trans ?_
    rw [List.length_cons, Nat.add_assoc, Nat.add_comm 1]

/-- **Where a declaration is not displayable, what is read from the display is another grammar.** If the grammar
has the regex terminals and the alternatives that were displayed, every declaration is displayable. -/
theorem displayable_of_readLines {last : Progress} (hvalid : ∀ declaration ∈ declarations, declaration.Valid)
    (hdeclare : declarations.foldlM Grammar.addDeclaration grammar = .ok declared)
    (hread : readLines first (lines (displayAll declarations ++ rest))
      ⟨grammar, .declarations⟩ = .ok last)
    (hregexes : last.grammar.regexes = declared.regexes)
    (halternatives : ∀ name, last.grammar.alternativesOf name = declared.alternativesOf name) :
    ∀ declaration ∈ declarations, declaration.Displayable := by
  induction declarations generalizing grammar first with
  | nil => simp
  | cons declaration declarations ih =>
    obtain ⟨hdeclaration, hdeclarations⟩ := List.forall_mem_cons.mp hvalid
    rw [List.foldlM_cons] at hdeclare
    obtain ⟨mid, hfirst, hmore⟩ := Outcome.except_bind_eq_ok.mp hdeclare
    rw [displayAll_cons] at hread
    obtain ⟨text, more, hlines, hbegins, hnewline⟩ := exists_firstLine hdeclaration
      (displayAll declarations ++ rest)
    rw [hlines, readLines_cons] at hread
    obtain ⟨progress, hline, hlast⟩ := Outcome.except_bind_eq_ok.mp hread
    obtain ⟨read, left, changed, htail, hchanged, rfl⟩ :=
      (Declaration.declarationLine_eq_ok hdeclaration).mp hline
    have hwhole := Grammar.continuedBy_addDeclarations hdeclarations hmore
    have hagain := Grammar.continuedBy_lines hlast
    obtain rfl :=
      Declaration.eq_of_continuedBy hdeclaration htail hfirst hchanged hwhole hagain hregexes halternatives
    cases hfirst.symm.trans hchanged
    have hdisplayable := Declaration.displayable_of_tail htail hbegins hnewline
    rw [lines_displayable hdeclaration hdisplayable, List.cons.injEq] at hlines
    rw [← hlines.2] at hlast
    exact List.forall_mem_cons.mpr ⟨hdisplayable, ih hdeclarations hmore hlast⟩

theorem declarationLine_start {start : String} (h : isRuleName start) (no : Nat) :
    Progress.declarationLine grammar no start.toList = .ok ⟨grammar, .started start⟩ := by
  obtain ⟨c, more, hstart, hlower⟩ := exists_cons_of_isCased h
  have hletter : isAsciiLetter c := by simp [isAsciiLetter, hlower]
  have hdollar : c ≠ '$' := by
    rintro rfl
    cases hlower
  obtain ⟨trimmed, htrim, hbegins⟩ := exists_trim_cons more (isBlank_of_isAsciiLetter hletter)
  have hcolon : ':' ∉ c :: trimmed := by
    intro hmem
    rw [← hstart] at hbegins
    cases (isIdentifier_of_isRuleName h).isNamePart ':' (hbegins.subset hmem)
  have hread : startDecl start.toList = .done start [] :=
    startDecl_eq_done.mpr ⟨h, rfl, [], [], blanks_nil, blanks_nil, by simp⟩
  rw [Progress.declarationLine, hstart, htrim]
  dsimp only
  rw [if_neg hdollar, if_pos hcolon, ← hstart, readWith_eq_ok.mpr hread]
  rfl

/-! ## Whole grammars -/

namespace Grammar

variable {grammar again : Grammar} {text : String}

/-- The grammars are the same but for the order in which their rules were declared. -/
structure SameAs (grammar again : Grammar) : Prop where
  start : grammar.start = again.start
  rules : ∀ name, grammar.rule? name = again.rule? name
  regexes : grammar.regexes = again.regexes
  actions : grammar.actions = again.actions

/-- A displayable grammar is read back. -/
theorem Described.read_displayed (h : grammar.Described) (hstart : isRuleName grammar.start)
    (hdisplayable : grammar.Displayable) :
    Description.read grammar.render = .ok { grammar with actions := [] } := by
  have hdeclarations := @readLines_declarations (grammar.start.toList ++ ['\n']) _ _ _ 0 h.valid_declarations
    (displayable_iff.mp hdisplayable) h.addDeclaration_declarations
  have hlast : lines (grammar.start.toList ++ ['\n']) = [grammar.start.toList] :=
    lines_append_newline (withinLine_of_isNamePart (isIdentifier_of_isRuleName hstart).isNamePart) []
  have hline : Progress.line ⟨{ grammar with start := "", actions := [] }, .declarations⟩
      (0 + grammar.declarations.length + 1, grammar.start.toList) =
        .ok ⟨{ grammar with start := "", actions := [] }, .started grammar.start⟩ :=
    declarationLine_start hstart _
  rw [hlast, ← toList_render, readLines_cons, hline] at hdeclarations
  exact Outcome.except_bind_eq_ok.mpr ⟨_, hdeclarations, rfl⟩

end Grammar

/-- **A grammar that was read is read back from its display,** up to its actions, if and only if none of its
literals has a quote, a backslash or a newline, and none of its patterns has a quote, a newline, or a backslash
that is its last character or makes an escape. Else not even one with its rules in another order is read. -/
theorem read_render {text : String} {grammar : Grammar} (h : Description.read text = .ok grammar) :
    (Description.read grammar.render = .ok { grammar with actions := [] } ↔ grammar.Displayable) ∧
    ((∃ again, Description.read grammar.render = .ok again ∧ again.SameAs { grammar with actions := [] }) ↔
      grammar.Displayable) := by
  have hdescribed := Description.described_of_read h
  have hback (hdisplayable : grammar.Displayable) :
      Description.read grammar.render = .ok { grammar with actions := [] } :=
    hdescribed.read_displayed (isRuleName_start_of_read h) hdisplayable
  have hdisplayable : ∀ again, Description.read grammar.render = .ok again →
      again.SameAs { grammar with actions := [] } → grammar.Displayable := by
    intro again hagain hsame
    obtain ⟨progress, start, hlines, -, rfl⟩ := of_read hagain
    rw [Grammar.toList_render] at hlines
    refine Grammar.displayable_iff.mpr (displayable_of_readLines hdescribed.valid_declarations
      hdescribed.addDeclaration_declarations hlines hsame.regexes fun name => ?_)
    exact congrArg (fun found : Option Rule => (found.map Rule.alternatives).getD []) (hsame.rules name)
  refine ⟨⟨fun hread => hdisplayable _ hread ⟨rfl, fun _ => rfl, rfl, rfl⟩, hback⟩, ?_, fun hdisplay => ?_⟩
  · rintro ⟨again, hread, hsame⟩
    exact hdisplayable again hread hsame
  · exact ⟨_, hback hdisplay, rfl, fun _ => rfl, rfl, rfl⟩

/-- A pattern with a backslash is read back, and the action is left out; a literal with a quote is not. -/
theorem read_render_lines :
    (∃ grammar, Description.read "D : '\\d'\n$f[] \x7b\x7d\nr : 'a' D $f\nr\n" = .ok grammar ∧
      Description.read grammar.render = .ok { grammar with actions := [] }) ∧
    ∃ grammar, Description.read "r : '\\''\nr\n" = .ok grammar ∧
      Description.read grammar.render ≠ .ok { grammar with actions := [] } := by
  have hdigits : Description.read "D : '\\d'\n$f[] \x7b\x7d\nr : 'a' D $f\nr\n" =
      .ok ⟨"r", [{ Rule.new "r" with alternatives := [⟨[.text "a", .regex "D", .action "f"]⟩] }],
        [⟨"D", "\\d"⟩],
        [⟨"f", [], ""⟩]⟩ := by
    decide +kernel
  have hquote : Description.read "r : '\\''\nr\n" =
      .ok ⟨"r", [{ Rule.new "r" with alternatives := [⟨[.text "'"]⟩] }], [], []⟩ := by
    decide +kernel
  refine ⟨⟨_, hdigits, (read_render hdigits).1.mpr (Grammar.displayable_iff.mpr ?_)⟩,
    _, hquote, fun hread => ?_⟩
  · simp [Grammar.declarations, Rule.declarations, Declaration.Displayable, Item.Displayable, Item.literal?,
      LiteralDisplayable, PatternDisplayable, escapedChars]
  · have hdisplayable := Grammar.displayable_iff.mp ((read_render hquote).1.mp hread)
    simp [Grammar.declarations, Rule.declarations, Declaration.Displayable, Item.Displayable, Item.literal?,
      LiteralDisplayable, Rule.new] at hdisplayable

end AttributeGrammar
