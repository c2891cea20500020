import AttributeGrammar.Proofs.Grammar.Building
import AttributeGrammar.Proofs.Synthesis.Dispatch

/-!
# The names of an emitted parser

* `Statement.Closed`, `NodeType.Closed`, `Generated.Closed` — what the emitted code names outside the code of
  actions is declared by it, and constructors get what they ask for.
* `closed_nodeTypeOf` — the code of a rule names what is declared.
* `closed_of_generate` — **so does whatever is generated from a grammar that edits have built**, resolved or
  not.
-/

set_option autoImplicit false

namespace AttributeGrammar.Synthesis

/-- A field of the node can be passed for a parameter: it has the type up to white space. -/
def NodeType.Passes (node : NodeType) (argument : String) (parameter : Field) : Prop :=
  ∃ field ∈ node.fields, field.name = argument ∧ sameType field.type parameter.type

/-- The names in a statement of a node's body are declared: fields of the node, kinds of tokens, methods of its
actions, and a node type whose constructor takes the arguments and whose fields are copied. -/
def Statement.Closed (generated : Generated) (node : NodeType) : Statement → Prop
  | .expectText _ into => ∀ name ∈ into, name ∈ node.fieldNames
  | .expectKind kind into => kind ∈ generated.variants ∧ ∀ name ∈ into, name ∈ node.fieldNames
  | .child call => ∃ child ∈ generated.parser.nodes, call.node = child.name ∧
    List.Forall₂ node.Passes call.arguments child.parameters ∧
    ∀ copy ∈ call.copies, copy.1 ∈ node.fieldNames ∧ copy.2 ∈ child.fieldNames
  | .act action => ∃ method ∈ node.actions, method.action = action

/-- The names in the code of a rule's node type are declared. -/
structure NodeType.Closed (generated : Generated) (rule : Rule) (node : NodeType) : Prop where
  /-- The constructor takes the inherited variables of the rule, each of them once and in their order. -/
  parameters : List.Forall₂ (fun name parameter => ident name = .ok parameter.name ∧
    rule.varType? name = some parameter.type) rule.inherited node.parameters
  distinct : rule.inherited.Nodup
  /-- It stores them in fields. -/
  stored : ∀ parameter ∈ node.parameters, node.Passes parameter.name parameter
  kinds : ∀ branch ∈ node.dispatch, ∀ kind, branch.check = .kind kind → kind ∈ generated.variants
  selected : ∀ branch ∈ node.dispatch, branch.body < node.bodies.length
  statements : ∀ body ∈ node.bodies, ∀ statement ∈ body, statement.Closed generated node

/-- The names in the whole code are declared. -/
structure Generated.Closed (grammar : Grammar) (generated : Generated) : Prop where
  /-- The kinds that every parser has. -/
  kinds : "TEXT" ∈ generated.variants ∧ "END" ∈ generated.variants
  nodes : List.Forall₂ (NodeType.Closed generated) grammar.rules generated.parser.nodes
  /-- The entry point passes its parameters on to the node of the start rule, and the program that parses
  one line prints fields of it. -/
  entry : ∃ node ∈ generated.parser.nodes, generated.parser.start = node.name ∧
    generated.parser.parameters = node.parameters ∧
    ∀ demo ∈ generated.parser.demo, demo.parameters = generated.parser.parameters.length ∧
      ∀ entry ∈ demo.exports, entry.2 ∈ node.fieldNames

variable {grammar : Grammar} {generated : Generated} {main : Bool} {source : Source} {rule : Rule}
  {node : NodeType} {analysis : Analysis}

/-! ## Parameters -/

/-- Names that are declared have fields, one for one. -/
theorem forall₂_fields {names : List String} {fields : List Field} (hnames : ∀ name ∈ names, rule.hasVar name)
    (h : List.Forall₂ (fun v field => fieldOf v = .ok field) (rule.withTypes names) fields) :
    List.Forall₂ (fun name field => ident name = .ok field.name ∧ rule.varType? name = some field.type)
      names fields := by
  induction names generalizing fields with
  | nil =>
    cases h
    exact .nil
  | cons name names ih =>
    obtain ⟨hname, hrest⟩ := List.forall_mem_cons.mp hnames
    obtain ⟨type, htype⟩ := Rule.hasVar_iff.mp hname
    rw [Rule.withTypes, List.filterMap_cons, htype] at h
    obtain ⟨field, fields, hfield, hfields, rfl⟩ := List.forall₂_cons_left_iff.mp h
    obtain ⟨hident, hsame⟩ := fieldOf_eq_ok hfield
    exact .cons ⟨hident, hsame ▸ htype⟩ (ih hrest hfields)

theorem passes_parameter (hnode : nodeTypeOf source rule = .ok node) {parameter : Field}
    (hparameter : parameter ∈ node.parameters) : node.Passes parameter.name parameter := by
  obtain ⟨v, hv, hof⟩ := Outcome.exists_mem_left (nodeTypeOf_eq_ok hnode).parameters hparameter
  obtain ⟨hident, htype⟩ := fieldOf_eq_ok hof
  obtain ⟨field, hfield, hname, hsame⟩ := exists_field hnode (Rule.mem_withTypes.mp hv).2 hident
  exact ⟨field, hfield, hname, by rw [hsame, htype, sameType_iff]⟩

/-! ## Kinds of tokens -/

/-- Every kind is declared under the identifier of its name. -/
theorem mem_variants (h : generated.tokens.variants = .ok generated.variants) {name kind : String}
    (hname : name ∈ generated.tokens.kindNames) (hident : ident name = .ok kind) :
    kind ∈ generated.variants := by
  obtain ⟨variant, hvariant, hof⟩ := Outcome.exists_mem_right (Outcome.mapM_eq_ok.mp h) hname
  cases hident.symm.trans hof
  exact hvariant

theorem mem_kindNames {tokens : TokenSpec} {name : String} (h : tokens.hasRegex name) :
    name ∈ tokens.kindNames := by
  obtain ⟨regex, hregex, hname⟩ := List.any_eq_true.mp h
  exact List.mem_append_left _ (List.mem_map.mpr ⟨regex, hregex, of_decide_eq_true hname⟩)

/-- A condition tells of which terminals it was made. -/
theorem terminal_of_checkOf {t : Terminal} {check : Check} (h : checkOf t = .ok check) :
    match check with
    | .text literal => t = .text literal
    | .kind kind => ∃ name, t = .regex name ∧ ident name = .ok kind
    | .endOfInput => t = .endOfInput := by
  cases t with
  | regex name =>
    obtain ⟨kind, hkind, hmade⟩ := Outcome.except_bind_eq_ok.mp h
    cases hmade
    exact ⟨name, rfl, hkind⟩
  | text literal =>
    cases h
    rfl
  | endOfInput =>
    cases h
    rfl
  | empty => cases h

/-- A condition asks only for kinds of tokens that the scanner knows. -/
theorem hasRegex_of_mem_dispatch {spec : TokenSpec} {nodes : List NodeType} {branch : Branch} {kind : String}
    (hfaithful : analysis.Faithful grammar.flat)
    (hnodes : List.Forall₂ (fun rule node => nodeTypeOf ⟨grammar, analysis, spec⟩ rule = .ok node)
      grammar.rules nodes)
    (hrule : rule ∈ grammar.rules) (hnode : nodeTypeOf ⟨grammar, analysis, spec⟩ rule = .ok node)
    (hbranch : branch ∈ node.dispatch) (hkind : branch.check = .kind kind) :
    ∃ regex, spec.hasRegex regex ∧ ident regex = .ok kind := by
  obtain ⟨alternative, t, halt, hpicks, hcheck⟩ := picks_of_mem_dispatch hfaithful hnode hbranch
  rw [hkind] at hcheck
  obtain ⟨regex, rfl, hident⟩ := terminal_of_checkOf hcheck
  exact ⟨regex, hasRegex_of_picks hnodes hrule (List.mem_of_getElem? halt) hpicks, hident⟩

/-! ## Node types -/

section Nodes

variable (hvariants : generated.tokens.variants = .ok generated.variants)
  (hfaithful : analysis.Faithful grammar.flat)
  (hnodes : List.Forall₂ (fun rule node => nodeTypeOf ⟨grammar, analysis, generated.tokens⟩ rule = .ok node)
    grammar.rules generated.parser.nodes)

include hvariants hnodes

theorem closed_of_uses {statement : Statement}
    (h : statement.Uses ⟨grammar, analysis, generated.tokens⟩ node) : statement.Closed generated node := by
  cases statement with
  | expectText literal into => exact h
  | act action => exact h
  | expectKind kind into =>
    obtain ⟨⟨regex, hregex, hident⟩, hinto⟩ := h
    exact ⟨mem_variants hvariants (mem_kindNames hregex) hident, hinto⟩
  | child call =>
    obtain ⟨target, child, hchild, hident, harguments, hcopies⟩ := h
    obtain ⟨hmem, rfl⟩ := Grammar.mem_of_rule? hchild
    obtain ⟨childNode, hchildNode, hmade⟩ := Outcome.exists_mem_right hnodes hmem
    have hparts := nodeTypeOf_eq_ok hmade
    refine ⟨childNode, hchildNode, Except.ok.inj (hident.symm.trans hparts.name), ?_, fun copy hcopy => ?_⟩
    · refine (Outcome.forall₂_join harguments hparts.parameters).imp fun argument parameter => ?_
      rintro ⟨v, ⟨field, hfield, hname, hsame⟩, hparameter⟩
      exact ⟨field, hfield, hname, (fieldOf_eq_ok hparameter).2 ▸ hsame⟩
    · obtain ⟨hfield, v, hv, horigin⟩ := hcopies copy hcopy
      have hvar := Rule.hasVar_iff.mpr ⟨_, (Rule.mem_exportedVars.mp hv).2⟩
      exact ⟨hfield, mem_fieldNames hmade hvar horigin⟩

include hfaithful

/-- **The code of a rule that declares what it uses names what is declared.** -/
theorem closed_nodeTypeOf (hrule : rule ∈ grammar.rules) (hdeclaring : rule.Declaring)
    (hnode : nodeTypeOf ⟨grammar, analysis, generated.tokens⟩ rule = .ok node) :
    node.Closed generated rule := by
  have hparts := nodeTypeOf_eq_ok hnode
  refine ⟨forall₂_fields hdeclaring.inherited hparts.parameters, hdeclaring.distinct,
    fun parameter hparameter => passes_parameter hnode hparameter, fun branch hbranch kind hkind => ?_,
    fun branch hbranch => ?_, fun body hbody statement hstatement =>
      closed_of_uses hvariants hnodes (uses_of_mem_bodies hnode hdeclaring.texts hbody hstatement)⟩
  · obtain ⟨regex, hregex, hident⟩ := hasRegex_of_mem_dispatch hfaithful hnodes hrule hnode hbranch hkind
    exact mem_variants hvariants (mem_kindNames hregex) hident
  · obtain ⟨alternative, -, halt, -⟩ := picks_of_mem_dispatch hfaithful hnode hbranch
    rw [← hparts.bodies.length_eq]
    exact (List.getElem?_eq_some_iff.mp halt).1

end Nodes

/-! ## Whole parsers -/

theorem closed_demoOf {demo : Demo} (hnode : nodeTypeOf source rule = .ok node) (h : demoOf rule = .ok demo) :
    demo.parameters = node.parameters.length ∧ ∀ entry ∈ demo.exports, entry.2 ∈ node.fieldNames := by
  obtain ⟨exports, hexports, hmade⟩ := Outcome.except_bind_eq_ok.mp h
  cases hmade
  refine ⟨(nodeTypeOf_eq_ok hnode).parameters.length_eq, fun entry hentry => ?_⟩
  obtain ⟨v, hv, hof⟩ := Outcome.exists_mem_left (Outcome.mapM_eq_ok.mp hexports) hentry
  obtain ⟨field, hfield, hpair⟩ := Outcome.except_bind_eq_ok.mp hof
  cases hpair
  exact mem_fieldNames hnode (Rule.hasVar_iff.mpr ⟨_, (Rule.mem_exportedVars.mp hv).2⟩) hfield

/-- **Whatever is generated from a grammar that edits have built names only what it declares.** The grammar
need not be resolved, and the edits may have failed. -/
theorem closed_of_generate (hgrammar : grammar.Built) (h : generate grammar main = .ok generated) :
    generated.Closed grammar := by
  obtain ⟨analysis, hanalysis, htokens, hvariants, hparser⟩ := generate_eq_ok h
  obtain ⟨start, hstart, hmade⟩ := parserOf_eq_ok hparser
  have hfaithful := Analysis.faithful_of_ofGrammar hanalysis
  have hfixed : ∀ name ∈ ["TEXT", "END"], ident name = .ok name := by decide +kernel
  refine ⟨⟨?_, ?_⟩, ?_, ?_⟩
  · exact mem_variants hvariants (List.mem_append_right _ (by simp)) (hfixed _ (by simp))
  · exact mem_variants hvariants (List.mem_append_right _ (by simp)) (hfixed _ (by simp))
  · obtain ⟨hlength, hzip⟩ := List.forall₂_iff_zip.mp hmade.nodes
    refine List.forall₂_iff_zip.mpr ⟨hlength, fun {rule node} hpair => ?_⟩
    have hrule := (List.of_mem_zip hpair).1
    exact closed_nodeTypeOf hvariants hfaithful hmade.nodes hrule (hgrammar.rules rule hrule).declaring
      (hzip hpair)
  · obtain ⟨hmem, -⟩ := Grammar.mem_of_rule? hstart
    obtain ⟨node, hnode, hof⟩ := Outcome.exists_mem_right hmade.nodes hmem
    have hparts := nodeTypeOf_eq_ok hof
    refine ⟨node, hnode, Except.ok.inj (hmade.startNode.symm.trans hparts.name), ?_, fun demo hdemo => ?_⟩
    · exact Except.ok.inj ((Outcome.mapM_eq_ok.mpr hmade.parameters).symm.trans
        (Outcome.mapM_eq_ok.mpr hparts.parameters))
    · obtain ⟨hcount, hexports⟩ := closed_demoOf hof (hmade.demo demo hdemo)
      refine ⟨?_, hexports⟩
      rw [hcount, ← hparts.parameters.length_eq, hmade.parameters.length_eq]

open AttributeGrammar.Outcome (stateBehind) in
/-- A grammar built by edits of which some fail: a parameter and a variable are declared again with other
types, the latter in a rule that had been merged by half, and the empty string cannot be assigned. -/
def patched : Grammar :=
  let child := stateBehind (Rule.push (.assignRegex "v" "NUM")) (stateBehind (Rule.declareInherited "u8" "n")
    (stateBehind (Rule.declareInherited "i32" "n") (Rule.new "t")))
  let start := stateBehind (Rule.push (.rule "t")) (stateBehind (Rule.push (.assignRegex "v" "EPS"))
    (stateBehind (Rule.declareExport "i32" "n") (Rule.new "s")))
  let again := stateBehind (Rule.declare "String" "n") (stateBehind (Rule.declare "i32" "a") (Rule.new "s"))
  let grammar := stateBehind (Grammar.addRule child) (stateBehind (Grammar.addRule start)
    (Grammar.empty.addRegex "NUM" "[0-9]+"))
  (stateBehind (Grammar.addRule again) grammar).setStart "s"

theorem closed_patched :
    patched.Built ∧ ∃ generated, generate patched true = .ok generated ∧ generated.Closed patched := by
  have hbuilt : patched.Built :=
    .setStart _
      (.addRule (.addRule (.addRule (.addRegex _ _ .empty) (.push _ (.push _ (.declareExport _ _ (.new _)))))
      (.push _ (.declareInherited _ _ (.declareInherited _ _ (.new _)))))
        (.declare _ _ (.declare _ _ (.new _))))
  have hsome : (generate patched true).toOption.isSome := by decide +kernel
  rcases hgenerate : generate patched true with e | generated
  · rw [hgenerate] at hsome
    cases hsome
  · exact ⟨hbuilt, generated, rfl, closed_of_generate hbuilt hgenerate⟩

end AttributeGrammar.Synthesis
