import AttributeGrammar.Proofs.Synthesis.Dispatch

/-!
# Walks through an emitted parser and predictive reading

* `Emission.reads_of_walk`, `Emission.walk_of_reads` — a walk through the statements of a body reads the
  symbols that they belong to, and conversely.
* `Emission.reads_of_visit`, `Emission.visit_of_reads` — the same for a node type and its rule.
-/

set_option autoImplicit false

namespace AttributeGrammar.Synthesis

variable {V : Type} {grammar : Grammar} {analysis : Analysis} {generated : Generated} {spec : TokenSpec}
  {symbols : List Symbol} {body : List Statement} {tokens left : List Token} {trees : List (Tree V)}
  {rule : Rule} {node : NodeType} {name : String}

/-! ## Symbols without statements and statements without symbols -/

/-- Symbols are read as those are that the same statements belong to and that do not start with the marker
for the empty string. -/
theorem Emits.reads_of_core (h : Emits grammar spec symbols body)
    (hreads : ∀ core, Emits grammar spec core body → core.head? ≠ some (.terminal .empty) →
      grammar.Reads core tokens trees left) :
    grammar.Reads symbols tokens trees left := by
  induction h with
  | nil => exact hreads [] .nil (by simp)
  | act _ ih => exact ih fun core hcore hhead => hreads core (.act hcore) hhead
  | empty _ ih => exact .empty (ih hreads)
  | text hrest => exact hreads _ (.text hrest) (by simp)
  | regex hregex hrest => exact hreads _ (.regex hregex hrest) (by simp)
  | rule hchild hname hrest => exact hreads _ (.rule hchild hname hrest) (by simp)

/-- Statements are walked through as those are that belong to the same symbols and that do not start with
the call of an action. -/
theorem Emits.walk_of_core {code : ParserCode} (h : Emits grammar spec symbols body)
    (hwalk : ∀ core, Emits grammar spec symbols core → (∀ action, core.head? ≠ some (.act action)) →
      code.Walk core tokens trees left) :
    code.Walk body tokens trees left := by
  induction h with
  | nil => exact hwalk [] .nil (by simp)
  | act _ ih => exact .act (ih hwalk)
  | empty _ ih => exact ih fun core hcore hhead => hwalk core (.empty hcore) hhead
  | text hrest => exact hwalk _ (.text hrest) (by simp)
  | regex hregex hrest => exact hwalk _ (.regex hregex hrest) (by simp)
  | rule hchild hname hrest => exact hwalk _ (.rule hchild hname hrest) (by simp)

namespace Emission

/-! ## Walks and reading -/

/-- **A walk through statements reads the symbols that they belong to.** -/
theorem reads_of_walk (h : Emission grammar analysis generated)
    (hwalk : generated.parser.Walk body tokens trees left)
    (hemits : Emits grammar generated.tokens symbols body) :
    grammar.Reads symbols tokens trees left := by
  induction hwalk generalizing symbols with
  | nil =>
    refine hemits.reads_of_core fun core hcore hhead => ?_
    cases hcore with
    | nil => exact .nil
    | empty => exact absurd rfl hhead
  | text htext _ ih =>
    refine hemits.reads_of_core fun core hcore hhead => ?_
    cases hcore with
    | text hrest => exact .terminal (Token.terminal_eq_text.mpr htext) (ih hrest)
    | empty => exact absurd rfl hhead
  | kind hkind _ ih =>
    refine hemits.reads_of_core fun core hcore hhead => ?_
    cases hcore with
    | regex _ hrest => exact .terminal (Token.terminal_eq_regex.mpr hkind) (ih hrest)
    | empty => exact absurd rfl hhead
  | act _ ih =>
    refine hemits.reads_of_core fun core hcore hhead => ?_
    cases hcore with
    | act hrest => exact ih hrest
    | empty => exact absurd rfl hhead
  | idle hnode hchoice _ ih =>
    refine hemits.reads_of_core fun core hcore hhead => ?_
    cases hcore with
    | rule hchild hname hrest =>
      have hmade := h.node_eq hchild (hname ▸ hnode)
      obtain ⟨hmem, rfl⟩ := Grammar.mem_of_rule? hchild
      rw [h.name_eq hmem hmade]
      exact .decline hchild ((h.choice?_eq_some_none_iff hmem hmade).mp hchoice) (ih hrest)
    | empty => exact absurd rfl hhead
  | enter hnode hchoice hbody _ _ ihbody ih =>
    refine hemits.reads_of_core fun core hcore hhead => ?_
    cases hcore with
    | rule hchild hname hrest =>
      have hmade := h.node_eq hchild (hname ▸ hnode)
      obtain ⟨hmem, rfl⟩ := Grammar.mem_of_rule? hchild
      obtain ⟨token, rest, alternative, rfl, halt, hpicks⟩ :=
        (h.choice?_eq_some_some_iff hmem hmade).mp hchoice
      have hbodies := (nodeTypeOf_eq_ok hmade).bodies
      obtain ⟨_, hthere, hstatements⟩ := Outcome.exists_getElem?_left hbodies hbody
      cases halt.symm.trans hthere
      rw [h.name_eq hmem hmade]
      exact .pick hchild (List.mem_of_getElem? halt) hpicks (ihbody (h.emits hstatements)) (ih hrest)
    | empty => exact absurd rfl hhead

/-- The body of an alternative that is picked is what the node type selects. -/
theorem exists_body (h : Emission grammar analysis generated) (hrule : rule ∈ grammar.rules)
    (hnode : nodeTypeOf ⟨grammar, analysis, generated.tokens⟩ rule = .ok node) {token : Token}
    {rest : List Token} {alternative : Alternative} (halt : alternative ∈ rule.alternatives)
    (hpicks : grammar.Picks rule alternative token.terminal) :
    ∃ index body, node.choice? (token :: rest) = some (some index) ∧ node.bodies[index]? = some body ∧
      Emits grammar generated.tokens alternative.symbols body := by
  obtain ⟨index, hindex⟩ := List.mem_iff_getElem?.mp halt
  have hbodies := (nodeTypeOf_eq_ok hnode).bodies
  obtain ⟨body, hbody, hstatements⟩ := Outcome.exists_getElem?_right hbodies hindex
  exact ⟨index, body, (h.choice?_eq_some_some_iff hrule hnode).mpr
    ⟨token, rest, alternative, rfl, hindex, hpicks⟩, hbody, h.emits hstatements⟩

/-- **Reading symbols is a walk through the statements that belong to them.** -/
theorem walk_of_reads (h : Emission grammar analysis generated)
    (hreads : grammar.Reads symbols tokens trees left)
    (hemits : Emits grammar generated.tokens symbols body) :
    generated.parser.Walk body tokens trees left := by
  induction hreads generalizing body with
  | nil =>
    refine hemits.walk_of_core fun core hcore hhead => ?_
    cases hcore with
    | nil => exact .nil
    | act => exact absurd rfl (hhead _)
  | empty _ ih =>
    refine hemits.walk_of_core fun core hcore hhead => ?_
    cases hcore with
    | empty hrest => exact ih hrest
    | act => exact absurd rfl (hhead _)
  | terminal heq _ ih =>
    refine hemits.walk_of_core fun core hcore hhead => ?_
    cases hcore with
    | text hrest => exact .text (Token.terminal_eq_text.mp heq) (ih hrest)
    | regex _ hrest => exact .kind (Token.terminal_eq_regex.mp heq) (ih hrest)
    | empty => exact absurd heq (Token.terminal_ne_empty _)
    | act => exact absurd rfl (hhead _)
  | decline hrule hdeclines _ ih =>
    refine hemits.walk_of_core fun core hcore hhead => ?_
    obtain ⟨node, hnode, hmade⟩ := h.exists_node hrule
    obtain ⟨hmem, rfl⟩ := Grammar.mem_of_rule? hrule
    rw [← h.name_eq hmem hmade]
    cases hcore with
    | rule hchild hname hrest =>
      exact .idle (hname ▸ hnode) ((h.choice?_eq_some_none_iff hmem hmade).mpr hdeclines) (ih hrest)
    | act => exact absurd rfl (hhead _)
  | pick hrule halt hpicks _ _ ihbody ih =>
    refine hemits.walk_of_core fun core hcore hhead => ?_
    obtain ⟨node, hnode, hmade⟩ := h.exists_node hrule
    obtain ⟨hmem, rfl⟩ := Grammar.mem_of_rule? hrule
    obtain ⟨index, body, hchoice, hbody, hstatements⟩ := h.exists_body hmem hmade halt hpicks
    rw [← h.name_eq hmem hmade]
    cases hcore with
    | rule hchild hname hrest =>
      exact .enter (hname ▸ hnode) hchoice hbody (ihbody hstatements) (ih hrest)
    | act => exact absurd rfl (hhead _)

/-- **What a node type visits, its rule reads.** -/
theorem reads_of_visit (h : Emission grammar analysis generated) (hrule : grammar.rule? name = some rule)
    (hnode : generated.parser.node? (nodeName name) = some node)
    (hvisit : generated.parser.Visit node tokens trees left) (fields : Fields V) :
    grammar.Reads [.nonTerminal name] tokens [.node node.name fields trees] left := by
  have hcall : generated.parser.node? (ChildCall.mk (nodeName name) [] []).node = some node := hnode
  exact h.reads_of_walk (.child hcall hvisit .nil fields) (.rule hrule rfl .nil)

/-- **What a rule reads, its node type visits.** -/
theorem visit_of_reads (h : Emission grammar analysis generated) (hrule : grammar.rule? name = some rule)
    (hnode : generated.parser.node? (nodeName name) = some node)
    (hreads : grammar.Reads [.nonTerminal name] tokens trees left) :
    ∃ children : List (Tree V), generated.parser.Visit node tokens children left := by
  have hwalk : generated.parser.Walk [.child ⟨nodeName name, [], []⟩] tokens trees left :=
    h.walk_of_reads hreads (.rule hrule rfl .nil)
  obtain ⟨found, _, children, _, _, hfound, -, hvisit, hrest⟩ := hwalk.child_inv
  cases hnode.symm.trans hfound
  cases hrest
  exact ⟨children, hvisit⟩

end Emission

end AttributeGrammar.Synthesis
