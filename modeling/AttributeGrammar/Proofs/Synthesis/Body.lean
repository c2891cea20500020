import AttributeGrammar.Proofs.Grammar.Exporting
import AttributeGrammar.Proofs.Synthesis.Emission
import AttributeGrammar.Proofs.Synthesis.Return

/-!
# The bodies of an emitted parser

* `Emits` — the statements of a body belong to the symbols of an alternative, one for one: the marker for
  the empty string has no statement, and a call of an action no symbol.
* `Emission.emits` — the body of an alternative belongs to its symbols.
* `uses_of_mem_bodies` — the statements of every body use what is there.
* `Emission.closed` — the statements of every body refer only to what is declared.
-/

set_option autoImplicit false

namespace AttributeGrammar.Synthesis

/-- The statements belong to the symbols. -/
inductive Emits (grammar : Grammar) (tokens : TokenSpec) : List Symbol → List Statement → Prop where
  | nil : Emits grammar tokens [] []
  | act {action : String} {symbols : List Symbol} {body : List Statement} :
      Emits grammar tokens symbols body → Emits grammar tokens symbols (.act action :: body)
  | empty {symbols : List Symbol} {body : List Statement} :
      Emits grammar tokens symbols body → Emits grammar tokens (.terminal .empty :: symbols) body
  | text {literal : String} {into : Option String} {symbols : List Symbol} {body : List Statement} :
      Emits grammar tokens symbols body →
      Emits grammar tokens (.terminal (.text literal) :: symbols) (.expectText literal into :: body)
  | regex {name : String} {into : Option String} {symbols : List Symbol} {body : List Statement} :
      tokens.hasRegex name → Emits grammar tokens symbols body →
      Emits grammar tokens (.terminal (.regex name) :: symbols) (.expectKind name into :: body)
  | rule {target : String} {child : Rule} {call : ChildCall} {symbols : List Symbol}
      {body : List Statement} :
      grammar.rule? target = some child → call.node = nodeName target →
      Emits grammar tokens symbols body →
      Emits grammar tokens (.nonTerminal target :: symbols) (.child call :: body)

variable {grammar : Grammar} {analysis : Analysis} {generated : Generated} {rule : Rule}
  {node : NodeType} {item : Item} {statement : Statement}

theorem argumentOf_eq_ok {target argument : String} {inherited : Variable}
    (h : argumentOf rule target inherited = .ok argument) :
    ident inherited.name = .ok argument ∧
      ∃ type, rule.varType? inherited.name = some type ∧ sameType type inherited.type := by
  unfold argumentOf at h
  split at h
  · cases h
  · rename_i type htype
    split at h
    · exact ⟨h, type, htype, ‹_›⟩
    · cases h

theorem mem_of_copiesOf {child : Rule} {var : String} {copies : List (String × String)}
    (h : copiesOf rule child var = .ok copies) {copy : String × String} (hcopy : copy ∈ copies) :
    ∃ v ∈ child.exportedVars, rule.hasVar (Resolution.derived var v).name ∧
      ident (Resolution.derived var v).name = .ok copy.1 ∧ ident v.name = .ok copy.2 := by
  obtain ⟨v, hv, hcopied⟩ := Outcome.exists_mem_left (Outcome.mapM_eq_ok.mp h) hcopy
  obtain ⟨field, hfield, hcopied⟩ := Outcome.except_bind_eq_ok.mp hcopied
  obtain ⟨origin, horigin, hcopied⟩ := Outcome.except_bind_eq_ok.mp hcopied
  cases hcopied
  obtain ⟨hexported, hdeclared⟩ := List.mem_filter.mp hv
  exact ⟨v, hexported, hdeclared, hfield, horigin⟩

/-- The parts of a call of a child. -/
theorem callOf_eq_ok {source : Source} {target : String} {var : Option String} {call : ChildCall}
    (h : callOf source rule target var = .ok call) :
    ∃ child, source.grammar.rule? target = some child ∧ ident (nodeName target) = .ok call.node ∧
      List.Forall₂ (fun inherited argument => argumentOf rule target inherited = .ok argument)
        child.inheritedVars call.arguments ∧
      ∀ copy ∈ call.copies, ∃ x ∈ var, ∃ v ∈ child.exportedVars, rule.hasVar (Resolution.derived x v).name ∧
        ident (Resolution.derived x v).name = .ok copy.1 ∧ ident v.name = .ok copy.2 := by
  obtain ⟨child, hchild, h⟩ := Outcome.except_bind_eq_ok.mp h
  obtain ⟨name, hname, h⟩ := Outcome.except_bind_eq_ok.mp h
  obtain ⟨arguments, harguments, h⟩ := Outcome.except_bind_eq_ok.mp h
  cases var with
  | none =>
    cases h
    exact ⟨child, ruleOf_eq_ok.mp hchild, hname, Outcome.mapM_eq_ok.mp harguments, by simp⟩
  | some x =>
    obtain ⟨copies, hcopies, h⟩ := Outcome.except_bind_eq_ok.mp h
    cases h
    exact ⟨child, ruleOf_eq_ok.mp hchild, hname, Outcome.mapM_eq_ok.mp harguments,
      fun copy hcopy => ⟨x, rfl, mem_of_copiesOf hcopies hcopy⟩⟩

theorem kindOf_eq_ok {source : Source} {regex kind : String} (h : kindOf source regex = .ok kind) :
    source.tokens.hasRegex regex ∧ ident regex = .ok kind := by
  unfold kindOf at h
  split at h
  · rename_i hregex
    exact ⟨hregex, h⟩
  · cases h

/-! ## What statements use -/

/-- What a statement uses is there: fields of its node, kinds of regex terminals, the rule of a child with
what it takes and exports, and methods of actions. -/
def Statement.Uses (source : Source) (node : NodeType) : Statement → Prop
  | .expectText _ into => ∀ name ∈ into, name ∈ node.fieldNames
  | .expectKind kind into =>
    (∃ regex, source.tokens.hasRegex regex ∧ ident regex = .ok kind) ∧ ∀ name ∈ into, name ∈ node.fieldNames
  | .child call => ∃ target child, source.grammar.rule? target = some child ∧
    ident (nodeName target) = .ok call.node ∧
    List.Forall₂ (fun inherited argument => ∃ field ∈ node.fields, field.name = argument ∧
      sameType field.type inherited.type) child.inheritedVars call.arguments ∧
    ∀ copy ∈ call.copies, copy.1 ∈ node.fieldNames ∧ ∃ v ∈ child.exportedVars, ident v.name = .ok copy.2
  | .act action => ∃ method ∈ node.actions, method.action = action

variable {source : Source}

theorem uses_call (hnode : nodeTypeOf source rule = .ok node) {target : String} {var : Option String}
    {call : ChildCall} (h : callOf source rule target var = .ok call) :
    (Statement.child call).Uses source node := by
  obtain ⟨child, hchild, hname, harguments, hcopies⟩ := callOf_eq_ok h
  refine ⟨target, child, hchild, hname, harguments.imp fun inherited argument hargument => ?_,
    fun copy hcopy => ?_⟩
  · obtain ⟨hident, type, htype, hsame⟩ := argumentOf_eq_ok hargument
    obtain ⟨field, hfield, rfl, rfl⟩ := exists_field hnode htype hident
    exact ⟨field, hfield, rfl, hsame⟩
  · obtain ⟨x, -, v, hv, hdeclared, hfield, horigin⟩ := hcopies copy hcopy
    exact ⟨mem_fieldNames hnode hdeclared hfield, v, hv, horigin⟩

/-- Only items for rules have statements that construct children. -/
theorem call_of_statementOf {call : ChildCall} (h : statementOf source rule item = .ok (some (.child call))) :
    (∃ target, item = .rule target ∧ callOf source rule target none = .ok call) ∨
      ∃ var target, item = .assignRule var target ∧ callOf source rule target (some var) = .ok call := by
  cases item with
  | rule target =>
    obtain ⟨made, hmade, heq⟩ := Outcome.except_bind_eq_ok.mp h
    cases heq
    exact Or.inl ⟨target, rfl, hmade⟩
  | assignRule var target =>
    obtain ⟨made, hmade, heq⟩ := Outcome.except_bind_eq_ok.mp h
    cases heq
    exact Or.inr ⟨var, target, rfl, hmade⟩
  | text literal => cases h
  | assignText var literal =>
    obtain ⟨_, -, heq⟩ := Outcome.except_bind_eq_ok.mp h
    cases heq
  | regex name =>
    by_cases hempty : name = emptyName
    · subst hempty
      cases h
    · simp only [statementOf, hempty, if_false] at h
      obtain ⟨_, -, heq⟩ := Outcome.except_bind_eq_ok.mp h
      cases heq
  | assignRegex var name =>
    obtain ⟨_, -, hkind⟩ := Outcome.except_bind_eq_ok.mp h
    obtain ⟨_, -, heq⟩ := Outcome.except_bind_eq_ok.mp hkind
    cases heq
  | action name =>
    simp only [statementOf] at h
    split at h
    · obtain ⟨_, -, heq⟩ := Outcome.except_bind_eq_ok.mp h
      cases heq
    · cases h

/-- A method is there for every action that the rule has code for. -/
theorem exists_method (hnode : nodeTypeOf source rule = .ok node) {name action : String}
    (hcontains : rule.actions.contains name) (haction : methodName name = .ok action) :
    ∃ method ∈ node.actions, method.action = action := by
  rw [Std.ExtTreeMap.contains_eq_isSome_getElem?, Option.isSome_iff_exists] at hcontains
  obtain ⟨code, hcode⟩ := hcontains
  obtain ⟨method, hmethod, hof⟩ := Outcome.exists_mem_right (nodeTypeOf_eq_ok hnode).actions
    (Std.ExtTreeMap.mem_toList_iff_getElem?_eq_some.mpr hcode)
  obtain ⟨found, hfound, hmade⟩ := Outcome.except_bind_eq_ok.mp hof
  cases haction.symm.trans hfound
  refine ⟨method, hmethod, ?_⟩
  split at hmade
  · cases hmade
    rfl
  · cases hmade

/-- **The statement of an item uses what is there**, if the rule declares the variable that takes a text. -/
theorem uses_statementOf (hnode : nodeTypeOf source rule = .ok node)
    (hvars : ∀ var ∈ item.textVar?, rule.hasVar var)
    (h : statementOf source rule item = .ok (some statement)) : statement.Uses source node := by
  cases item with
  | text literal =>
    cases h
    exact fun _ hname => by cases hname
  | assignText var literal =>
    obtain ⟨field, hfield, hmade⟩ := Outcome.except_bind_eq_ok.mp h
    cases hmade
    rintro _ ⟨⟩
    exact mem_fieldNames hnode (hvars var rfl) hfield
  | regex name =>
    by_cases hempty : name = emptyName
    · subst hempty
      cases h
    · simp only [statementOf, hempty, if_false] at h
      obtain ⟨kind, hkind, hmade⟩ := Outcome.except_bind_eq_ok.mp h
      cases hmade
      exact ⟨⟨name, kindOf_eq_ok hkind⟩, fun _ hname => by cases hname⟩
  | assignRegex var name =>
    obtain ⟨field, hfield, hmade⟩ := Outcome.except_bind_eq_ok.mp h
    obtain ⟨kind, hkind, hmade⟩ := Outcome.except_bind_eq_ok.mp hmade
    cases hmade
    refine ⟨⟨name, kindOf_eq_ok hkind⟩, ?_⟩
    rintro _ ⟨⟩
    exact mem_fieldNames hnode (hvars var rfl) hfield
  | rule target | assignRule var target =>
    obtain ⟨call, hcall, hmade⟩ := Outcome.except_bind_eq_ok.mp h
    cases hmade
    exact uses_call hnode hcall
  | action name =>
    simp only [statementOf] at h
    split at h
    · rename_i hcontains
      obtain ⟨action, haction, hmade⟩ := Outcome.except_bind_eq_ok.mp h
      cases hmade
      exact exists_method hnode hcontains haction
    · cases h

/-- Every statement of a body was made of an item of the rule. -/
theorem exists_item (hnode : nodeTypeOf source rule = .ok node) {body : List Statement}
    (hbody : body ∈ node.bodies)
    (hstatement : statement ∈ body) : ∃ item ∈ rule.items, statementOf source rule item =
      .ok (some statement) := by
  obtain ⟨alternative, halternative, hmade⟩ := Outcome.exists_mem_left (nodeTypeOf_eq_ok hnode).bodies hbody
  obtain ⟨statements, hstatements, hfilter⟩ := Outcome.except_bind_eq_ok.mp hmade
  cases hfilter
  obtain ⟨made, hmem, rfl⟩ := List.mem_filterMap.mp hstatement
  obtain ⟨item, hitem, hof⟩ := Outcome.exists_mem_left (Outcome.mapM_eq_ok.mp hstatements) hmem
  exact ⟨item, List.mem_flatMap.mpr ⟨alternative, halternative, hitem⟩, hof⟩

/-- **The statements of every body use what is there.** -/
theorem uses_of_mem_bodies (hnode : nodeTypeOf source rule = .ok node)
    (hvars : ∀ item ∈ rule.items, ∀ var ∈ item.textVar?, rule.hasVar var) {body : List Statement}
    (hbody : body ∈ node.bodies) (hstatement : statement ∈ body) : statement.Uses source node := by
  obtain ⟨item, hitem, hof⟩ := exists_item hnode hbody hstatement
  exact uses_statementOf hnode (hvars item hitem) hof

/-- The scanner has every regex terminal of an alternative that a body was made of. -/
theorem hasRegex_of_bodyOf {alternative : Alternative} {body : List Statement} {name : String}
    (h : bodyOf source rule alternative = .ok body)
    (hmem : .terminal (.regex name) ∈ alternative.symbols) : source.tokens.hasRegex name := by
  obtain ⟨made, hmade, -⟩ := Outcome.except_bind_eq_ok.mp h
  obtain ⟨item, hitem, hsymbol⟩ := List.mem_filterMap.mp hmem
  obtain ⟨statement, -, hstatement⟩ := Outcome.exists_mem_right (Outcome.mapM_eq_ok.mp hmade) hitem
  cases item with
  | regex other =>
    obtain ⟨rfl, hne⟩ := Symbol.ofRegexName_eq_regex_iff.mp (Option.some.inj hsymbol)
    simp only [statementOf, hne, if_false] at hstatement
    obtain ⟨kind, hkind, -⟩ := Outcome.except_bind_eq_ok.mp hstatement
    exact (kindOf_eq_ok hkind).1
  | assignRegex var other =>
    obtain ⟨rfl, -⟩ := Symbol.ofRegexName_eq_regex_iff.mp (Option.some.inj hsymbol)
    obtain ⟨field, -, hrest⟩ := Outcome.except_bind_eq_ok.mp hstatement
    obtain ⟨kind, hkind, -⟩ := Outcome.except_bind_eq_ok.mp hrest
    exact (kindOf_eq_ok hkind).1
  | text | assignText | rule | assignRule | action => cases hsymbol

namespace Emission

theorem kind_eq (h : Emission grammar analysis generated) {regex kind : String}
    (hkind : kindOf ⟨grammar, analysis, generated.tokens⟩ regex = .ok kind) :
    generated.tokens.hasRegex regex ∧ kind = regex ∧ regex ≠ emptyName := by
  obtain ⟨hregex, hident⟩ := kindOf_eq_ok hkind
  obtain ⟨hname, hreserved⟩ := h.of_hasRegex hregex
  refine ⟨hregex, eq_of_ident hname hident, ?_⟩
  rintro rfl
  exact hreserved (by decide)

theorem call_eq (h : Emission grammar analysis generated) {target : String} {var : Option String}
    {call : ChildCall} (hcall : callOf ⟨grammar, analysis, generated.tokens⟩ rule target var = .ok call) :
    ∃ child, grammar.rule? target = some child ∧ call.node = nodeName target := by
  obtain ⟨child, hchild, hident, -⟩ := callOf_eq_ok hcall
  obtain ⟨hmem, rfl⟩ := Grammar.mem_of_rule? hchild
  exact ⟨child, hchild, eq_of_ident (isIdentifier_nodeName (h.wellFormed.rules child hmem).name) hident⟩

/-- The statement of an item belongs to its symbol. -/
theorem emits_cons (h : Emission grammar analysis generated) {items : List Item}
    {made : Option Statement} {others : List (Option Statement)}
    (hitem : statementOf ⟨grammar, analysis, generated.tokens⟩ rule item = .ok made)
    (hrest : Emits grammar generated.tokens (items.filterMap Item.symbol?) (others.filterMap id)) :
    Emits grammar generated.tokens ((item :: items).filterMap Item.symbol?)
      ((made :: others).filterMap id) := by
  cases item with
  | text literal =>
    cases hitem
    exact .text hrest
  | assignText var literal =>
    obtain ⟨field, -, hitem⟩ := Outcome.except_bind_eq_ok.mp hitem
    cases hitem
    exact .text hrest
  | regex name =>
    by_cases hempty : name = emptyName
    · subst hempty
      cases hitem
      exact .empty hrest
    · simp only [statementOf, hempty, if_false] at hitem
      obtain ⟨kind, hkind, hitem⟩ := Outcome.except_bind_eq_ok.mp hitem
      cases hitem
      obtain ⟨hregex, rfl, -⟩ := h.kind_eq hkind
      show Emits _ _ (Symbol.ofRegexName kind :: _) _
      rw [Symbol.ofRegexName_of_ne hempty]
      exact .regex hregex hrest
  | assignRegex var name =>
    obtain ⟨field, -, hitem⟩ := Outcome.except_bind_eq_ok.mp hitem
    obtain ⟨kind, hkind, hitem⟩ := Outcome.except_bind_eq_ok.mp hitem
    cases hitem
    obtain ⟨hregex, rfl, hempty⟩ := h.kind_eq hkind
    show Emits _ _ (Symbol.ofRegexName kind :: _) _
    rw [Symbol.ofRegexName_of_ne hempty]
    exact .regex hregex hrest
  | rule target | assignRule var target =>
    obtain ⟨call, hcall, hitem⟩ := Outcome.except_bind_eq_ok.mp hitem
    cases hitem
    obtain ⟨child, hchild, hnode⟩ := h.call_eq hcall
    exact .rule hchild hnode hrest
  | action name =>
    simp only [statementOf] at hitem
    split at hitem
    · obtain ⟨action, -, hitem⟩ := Outcome.except_bind_eq_ok.mp hitem
      cases hitem
      exact .act hrest
    · cases hitem

/-- **The body of an alternative belongs to its symbols.** -/
theorem emits (h : Emission grammar analysis generated) {alternative : Alternative}
    {body : List Statement}
    (hbody : bodyOf ⟨grammar, analysis, generated.tokens⟩ rule alternative = .ok body) :
    Emits grammar generated.tokens alternative.symbols body := by
  obtain ⟨made, hmade, hbody⟩ := Outcome.except_bind_eq_ok.mp hbody
  cases hbody
  have hitems := Outcome.mapM_eq_ok.mp hmade
  show Emits _ _ (alternative.items.filterMap Item.symbol?) (made.filterMap id)
  clear hmade hbody
  generalize alternative.items = items at hitems ⊢
  induction hitems with
  | nil => exact .nil
  | cons hitem _ ih => exact h.emits_cons hitem ih

/-! ## Declarations -/

/-- **The statements of every body refer only to what is declared.** -/
theorem closed (h : Emission grammar analysis generated) : generated.parser.Closed := by
  intro node hmem body hbody statement hstatement
  obtain ⟨rule, hrule, hnode⟩ := Outcome.exists_mem_left h.nodes hmem
  have huses := uses_of_mem_bodies hnode (h.wellFormed.rules rule hrule).declares hbody hstatement
  cases statement with
  | expectText literal into => exact huses
  | expectKind kind into => exact huses.2
  | act action => trivial
  | child call =>
    obtain ⟨target, child, hchild, hident, harguments, hcopies⟩ := huses
    obtain ⟨childNode, hfound, hchildNode⟩ := h.exists_node hchild
    obtain ⟨hchildRule, rfl⟩ := Grammar.mem_of_rule? hchild
    have hname := eq_of_ident (isIdentifier_nodeName (h.wellFormed.rules child hchildRule).name) hident
    refine ⟨childNode, hname ▸ hfound, fun argument hargument => ?_, fun copy hcopy => ?_⟩
    · obtain ⟨_, -, field, hfield, rfl, -⟩ := Outcome.exists_mem_left harguments hargument
      exact List.mem_map_of_mem hfield
    · obtain ⟨hfield, v, hv, horigin⟩ := hcopies copy hcopy
      have hvar := Rule.hasVar_iff.mpr ⟨_, (Rule.mem_exportedVars.mp hv).2⟩
      exact ⟨hfield, mem_fieldNames hchildNode hvar horigin⟩

end Emission

end AttributeGrammar.Synthesis
