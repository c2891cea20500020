import AttributeGrammar.Proofs.Code.Name
import AttributeGrammar.Proofs.Description.Reading
import AttributeGrammar.Proofs.Language.Prediction
import AttributeGrammar.Proofs.Synthesis.Run
import Mathlib.Data.List.Pairwise

/-!
# What the code of an emitted parser is made of

* `Emission` — a grammar, its analysis and the code that was generated from them.
* `emission_of_generate` — whatever `generate` makes of a grammar that was read is an emission.
* `exists_of_passes` — runs of reading and generating on a fixed text.
* `Emission.predictive` — the grammar can be read predictively.
* `Emission.exists_node` — every rule has the node type of its name.
* `Emission.of_hasRegex` — a regex terminal stands for itself in code.
-/

set_option autoImplicit false

namespace AttributeGrammar.Synthesis

variable {grammar : Grammar} {generated : Generated} {main : Bool}

/-- An identifier is itself in code. -/
theorem eq_of_ident {text name : String} (hname : Description.IsIdentifier text)
    (h : ident text = .ok name) : name = text := by
  unfold ident at h
  split at h
  · rename_i heq
    cases h
    exact Code.eq_of_parseName? hname heq
  · cases h

/-! ## Tokens -/

theorem addRegex_eq_ok {spec after : TokenSpec} {name pattern : String} :
    spec.addRegex name pattern = .ok after ↔ name ∉ reservedNames ∧ ¬ spec.hasRegex name ∧
      (Pattern.compileToken? pattern).isSome ∧
        after = { spec with regexes := spec.regexes ++ [⟨name, pattern⟩] } := by
  unfold TokenSpec.addRegex
  split
  · simp [fail, *]
  rename_i hreserved
  split
  · simp [fail, *]
  rename_i hnew
  split
  · rename_i hnone
    simp [fail, Option.isNone_iff_eq_none.mp hnone]
  · rename_i hsome
    rw [Bool.not_eq_true, Option.isNone_eq_false_iff] at hsome
    simp only [Except.ok.injEq, hreserved, hnew, hsome, Bool.false_eq_true, not_false_eq_true, true_and]
    exact eq_comm

/-- No two regex terminals are registered under one name. -/
theorem nodup_names_of_addRegex {spec after : TokenSpec} {name pattern : String}
    (hspec : (spec.regexes.map RegexTerminal.name).Nodup) (h : spec.addRegex name pattern = .ok after) :
    (after.regexes.map RegexTerminal.name).Nodup := by
  obtain ⟨-, hnew, -, rfl⟩ := addRegex_eq_ok.mp h
  rw [List.map_append, List.map_singleton, List.nodup_append_comm, List.singleton_append, List.nodup_cons]
  refine ⟨fun hmem => hnew ?_, hspec⟩
  obtain ⟨other, hother, hname⟩ := List.mem_map.mp hmem
  exact List.any_eq_true.mpr ⟨other, hother, decide_eq_true hname⟩

/-- The names of the kinds of tokens differ if those of the regex terminals do and none of them is reserved. -/
theorem nodup_kindNames {spec : TokenSpec} (hnames : (spec.regexes.map RegexTerminal.name).Nodup)
    (hfree : ∀ regex ∈ spec.regexes, regex.name ∉ reservedNames) : spec.kindNames.Nodup := by
  have hreserved : ∀ name ∈ ["TEXT", "END"], name ∈ reservedNames := by decide
  refine List.Nodup.append hnames (by decide) fun name hname hfixed => ?_
  obtain ⟨regex, hregex, rfl⟩ := List.mem_map.mp hname
  exact hfree regex hregex (hreserved _ hfixed)

theorem eq_of_addRegexes {spec tokens : TokenSpec} {regexes : List RegexTerminal}
    (h : spec.addRegexes regexes = .ok tokens) : tokens = { spec with regexes := spec.regexes ++ regexes } := by
  induction regexes generalizing spec with
  | nil =>
    cases h
    simp
  | cons regex regexes ih =>
    obtain ⟨mid, hfirst, hrest⟩ := Outcome.except_bind_eq_ok.mp h
    obtain ⟨-, -, -, rfl⟩ := addRegex_eq_ok.mp hfirst
    rw [ih hrest]
    simp

/-- The tokens of a grammar are its literals and its regex terminals. -/
theorem eq_of_ofGrammar {tokens : TokenSpec} (h : TokenSpec.ofGrammar grammar = .ok tokens) :
    tokens = ⟨grammar.literals, grammar.regexes⟩ :=
  eq_of_addRegexes h

/-- The regex terminals of a scanner are those of the grammar, under names that are not reserved. -/
theorem mem_regexes_of_ofGrammar {tokens : TokenSpec} (h : TokenSpec.ofGrammar grammar = .ok tokens) :
    ∀ regex ∈ tokens.regexes, regex ∈ grammar.regexes ∧ regex.name ∉ reservedNames := by
  refine Outcome.foldlM_keeps (fun tokens : TokenSpec =>
    ∀ regex ∈ tokens.regexes, regex ∈ grammar.regexes ∧ regex.name ∉ reservedNames)
    (fun regex hregex spec after hspec hstep => ?_) (by simp) h
  obtain ⟨hreserved, -, -, rfl⟩ := addRegex_eq_ok.mp hstep
  exact List.forall_mem_append.mpr ⟨hspec, List.forall_mem_singleton.mpr ⟨hregex, hreserved⟩⟩

/-! ## The parts of a parser -/

/-- A grammar with its analysis, and the code that was generated from them. -/
structure Emission (grammar : Grammar) (analysis : Analysis) (generated : Generated) : Prop where
  wellFormed : grammar.WellFormed
  tokens : TokenSpec.ofGrammar grammar = .ok generated.tokens
  faithful : analysis.Faithful grammar.flat
  deterministic : grammar.flat.Deterministic
  /-- No two rules have nodes of one type. -/
  names : grammar.rules.Pairwise fun a b => nodeName a.name ≠ nodeName b.name
  nodes : List.Forall₂ (fun rule node => nodeTypeOf ⟨grammar, analysis, generated.tokens⟩ rule = .ok node)
    grammar.rules generated.parser.nodes
  start : ∃ rule, grammar.rule? grammar.start = some rule ∧
    ident (nodeName rule.name) = .ok generated.parser.start

theorem pairwise_of_sameNode? {rules : List Rule} {before : List String}
    (h : sameNode? before (rules.map Rule.name) = none) :
    rules.Pairwise (fun a b => nodeName a.name ≠ nodeName b.name) ∧
      ∀ name ∈ before, ∀ rule ∈ rules, nodeName name ≠ nodeName rule.name := by
  induction rules generalizing before with
  | nil => exact ⟨.nil, by simp⟩
  | cons rule rules ih =>
    rw [List.map_cons, sameNode?] at h
    split at h
    · cases h
    · rename_i hnone
      obtain ⟨hpairwise, hbefore⟩ := ih h
      refine ⟨List.pairwise_cons.mpr ⟨fun other hother =>
        hbefore rule.name List.mem_cons_self other hother, hpairwise⟩, fun name hname other hother => ?_⟩
      rcases List.mem_cons.mp hother with rfl | hother
      · simpa using List.find?_eq_none.mp hnone name hname
      · exact hbefore name (List.mem_cons_of_mem _ hname) other hother

theorem ruleOf_eq_ok {source : Source} {name : String} {rule : Rule} :
    ruleOf source name = .ok rule ↔ source.grammar.rule? name = some rule := by
  unfold ruleOf
  split
  · rename_i heq
    simp [heq]
  · rename_i heq
    simp [heq, fail]

theorem analyze_eq_ok {analysis : Analysis} (h : analyze grammar = .ok analysis) :
    Analysis.ofGrammar grammar = .ok analysis := by
  unfold analyze at h
  split at h
  · rename_i heq
    cases h
    exact heq
  · cases h

/-- The parts of what is generated. -/
theorem generate_eq_ok (h : generate grammar main = .ok generated) :
    ∃ analysis, Analysis.ofGrammar grammar = .ok analysis ∧
      TokenSpec.ofGrammar grammar = .ok generated.tokens ∧
      generated.tokens.variants = .ok generated.variants ∧
      parserOf ⟨grammar, analysis, generated.tokens⟩ main = .ok generated.parser := by
  obtain ⟨tokens, htokens, h⟩ := Outcome.except_bind_eq_ok.mp h
  obtain ⟨analysis, hanalysis, h⟩ := Outcome.except_bind_eq_ok.mp h
  obtain ⟨variants, hvariants, h⟩ := Outcome.except_bind_eq_ok.mp h
  obtain ⟨parser, hparser, h⟩ := Outcome.except_bind_eq_ok.mp h
  cases h
  exact ⟨analysis, analyze_eq_ok hanalysis, htokens, hvariants, hparser⟩

/-- The parts of a parser are made of the rules of a grammar and of its start rule. -/
structure ParserCode.MadeOf (source : Source) (start : Rule) (parser : ParserCode) : Prop where
  distinct : sameNode? [] (source.grammar.rules.map Rule.name) = none
  nodes : List.Forall₂ (fun rule node => nodeTypeOf source rule = .ok node) source.grammar.rules parser.nodes
  startNode : ident (nodeName start.name) = .ok parser.start
  parameters : List.Forall₂ (fun v field => fieldOf v = .ok field) start.inheritedVars parser.parameters
  demo : ∀ demo ∈ parser.demo, demoOf start = .ok demo

theorem parserOf_eq_ok {source : Source} {parser : ParserCode} (h : parserOf source main = .ok parser) :
    ∃ start, source.grammar.rule? source.grammar.start = some start ∧ parser.MadeOf source start := by
  unfold parserOf at h
  split at h
  · cases h
  rename_i hsame
  obtain ⟨nodes, hnodes, h⟩ := Outcome.except_bind_eq_ok.mp h
  obtain ⟨start, hstart, h⟩ := Outcome.except_bind_eq_ok.mp h
  obtain ⟨node, hnode, h⟩ := Outcome.except_bind_eq_ok.mp h
  obtain ⟨parameters, hparameters, h⟩ := Outcome.except_bind_eq_ok.mp h
  obtain ⟨demo, rfl, hdemo⟩ : ∃ demo, parser = ⟨nodes, node, parameters, demo⟩ ∧
      ∀ made ∈ demo, demoOf start = .ok made := by
    cases main with
    | true =>
      obtain ⟨demo, hdemo, h⟩ := Outcome.except_bind_eq_ok.mp h
      obtain ⟨made, hmade, hsome⟩ := Outcome.except_bind_eq_ok.mp hdemo
      cases hsome
      cases h
      exact ⟨_, rfl, fun _ heq => Option.some.inj heq ▸ hmade⟩
    | false =>
      cases h
      exact ⟨none, rfl, fun _ heq => by cases heq⟩
  exact ⟨start, ruleOf_eq_ok.mp hstart, hsame, Outcome.mapM_eq_ok.mp hnodes, hnode,
    Outcome.mapM_eq_ok.mp hparameters, hdemo⟩

theorem emission_of_ofGrammar {analysis : Analysis} (hgrammar : grammar.WellFormed)
    (hanalysis : Analysis.ofGrammar grammar = .ok analysis) (h : generate grammar main = .ok generated) :
    Emission grammar analysis generated := by
  obtain ⟨_, hanalyzed, htokens, -, hparser⟩ := generate_eq_ok h
  cases hanalysis.symm.trans hanalyzed
  obtain ⟨start, hstart, hmade⟩ := parserOf_eq_ok hparser
  exact ⟨hgrammar, htokens, Analysis.faithful_of_ofGrammar hanalysis,
    Analysis.deterministic_of_ofGrammar hanalysis,
    (pairwise_of_sameNode? hmade.distinct).1, hmade.nodes, start, hstart, hmade.startNode⟩

/-- **What is generated from a grammar that was read is an emission.** -/
theorem emission_of_generate (hgrammar : grammar.WellFormed)
    (h : generate grammar main = .ok generated) : ∃ analysis, Emission grammar analysis generated := by
  obtain ⟨analysis, hanalysis, -⟩ := generate_eq_ok h
  exact ⟨analysis, emission_of_ofGrammar hgrammar hanalysis h⟩

/-- Whether a description is read and a parser generated from it, and both pass a check. -/
def passes (text : String) (main : Bool) (check : Grammar → Generated → Bool) : Bool :=
  match (Description.readResolved text).1 with
  | .error _ => false
  | .ok grammar =>
    match generate grammar main with
    | .error _ => false
    | .ok generated => check grammar generated

theorem exists_of_passes {text : String} {check : Grammar → Generated → Bool}
    (h : passes text main check) :
    ∃ grammar generated, (Description.readResolved text).1 = .ok grammar ∧
      generate grammar main = .ok generated ∧ check grammar generated := by
  unfold passes at h
  split at h
  · cases h
  rename_i grammar hread
  split at h
  · cases h
  rename_i generated hgenerate
  exact ⟨grammar, generated, hread, hgenerate, h⟩

theorem exists_emission {text : String} (hread : (Description.readResolved text).1 = .ok grammar)
    (hgenerate : generate grammar main = .ok generated) :
    ∃ analysis, Emission grammar analysis generated :=
  emission_of_generate (Description.wellFormed_of_readResolved hread) hgenerate

/-- The parts of a node type are made of those of a rule. -/
structure NodeType.MadeOf (source : Source) (rule : Rule) (node : NodeType) : Prop where
  name : ident (nodeName rule.name) = .ok node.name
  fields : List.Forall₂ (fun v field => fieldOf v = .ok field) rule.allVars node.fields
  parameters : List.Forall₂ (fun v field => fieldOf v = .ok field) rule.inheritedVars node.parameters
  dispatch : dispatchOf source rule = .ok node.dispatch
  bodies : List.Forall₂ (fun alternative body => bodyOf source rule alternative = .ok body)
    rule.alternatives node.bodies
  actions : List.Forall₂ (fun entry method => actionOf entry = .ok method) rule.actions.toList node.actions

theorem nodeTypeOf_eq_ok {source : Source} {rule : Rule} {node : NodeType}
    (h : nodeTypeOf source rule = .ok node) : node.MadeOf source rule := by
  obtain ⟨name, hname, h⟩ := Outcome.except_bind_eq_ok.mp h
  by_cases hchildren : rule.hasVar "children"
  · simp only [hchildren, if_true] at h
    obtain ⟨_, hfail, -⟩ := Outcome.except_bind_eq_ok.mp h
    cases hfail
  · simp only [hchildren] at h
    obtain ⟨fields, hfields, h⟩ := Outcome.except_bind_eq_ok.mp h
    obtain ⟨parameters, hparameters, h⟩ := Outcome.except_bind_eq_ok.mp h
    obtain ⟨dispatch, hdispatch, h⟩ := Outcome.except_bind_eq_ok.mp h
    obtain ⟨bodies, hbodies, h⟩ := Outcome.except_bind_eq_ok.mp h
    obtain ⟨actions, hactions, h⟩ := Outcome.except_bind_eq_ok.mp h
    cases h
    exact ⟨hname, Outcome.mapM_eq_ok.mp hfields, Outcome.mapM_eq_ok.mp hparameters, hdispatch,
      Outcome.mapM_eq_ok.mp hbodies, Outcome.mapM_eq_ok.mp hactions⟩

theorem fieldOf_eq_ok {v : Variable} {field : Field} (h : fieldOf v = .ok field) :
    ident v.name = .ok field.name ∧ field.type = v.type := by
  obtain ⟨name, hname, h⟩ := Outcome.except_bind_eq_ok.mp h
  split at h
  · cases h
    exact ⟨hname, rfl⟩
  · cases h

/-- A field is there for every declared variable, with its type. -/
theorem exists_field {source : Source} {rule : Rule} {node : NodeType}
    (h : nodeTypeOf source rule = .ok node) {var type name : String} (hvar : rule.varType? var = some type)
    (hname : ident var = .ok name) : ∃ field ∈ node.fields, field.name = name ∧ field.type = type := by
  obtain ⟨field, hfield, hmade⟩ := Outcome.exists_mem_right (nodeTypeOf_eq_ok h).fields
    (show ⟨type, var⟩ ∈ rule.allVars from Rule.mem_allVars.mpr hvar)
  obtain ⟨hident, htype⟩ := fieldOf_eq_ok hmade
  cases hname.symm.trans hident
  exact ⟨field, hfield, rfl, htype⟩

theorem mem_fieldNames {source : Source} {rule : Rule} {node : NodeType}
    (h : nodeTypeOf source rule = .ok node) {var name : String} (hvar : rule.hasVar var)
    (hname : ident var = .ok name) : name ∈ node.fieldNames := by
  obtain ⟨type, htype⟩ := Rule.hasVar_iff.mp hvar
  obtain ⟨field, hfield, rfl, -⟩ := exists_field h htype hname
  exact List.mem_map_of_mem hfield

namespace Emission

variable {analysis : Analysis} {rule other : Rule} {node : NodeType} {name : String}

theorem eq_of_nodeName (h : Emission grammar analysis generated) (hrule : rule ∈ grammar.rules)
    (hother : other ∈ grammar.rules) (hname : nodeName rule.name = nodeName other.name) : rule = other := by
  by_contra hne
  have : Std.Symm fun a b : Rule => nodeName a.name ≠ nodeName b.name := ⟨fun _ _ h => Ne.symm h⟩
  exact h.names.forall hrule hother hne hname

/-- **A grammar from which a parser was made can be read predictively.** -/
theorem predictive (h : Emission grammar analysis generated) : grammar.Predictive := by
  refine ⟨fun rule hrule => ?_, h.deterministic⟩
  have hsome : (grammar.rule? rule.name).isSome := List.find?_isSome.mpr ⟨rule, hrule, by simp⟩
  obtain ⟨found, hfound⟩ := Option.isSome_iff_exists.mp hsome
  obtain ⟨hmem, hname⟩ := Grammar.mem_of_rule? hfound
  rw [hfound, h.eq_of_nodeName hmem hrule (congrArg nodeName hname)]

theorem name_eq (h : Emission grammar analysis generated) (hrule : rule ∈ grammar.rules)
    (hnode : nodeTypeOf ⟨grammar, analysis, generated.tokens⟩ rule = .ok node) :
    node.name = nodeName rule.name :=
  eq_of_ident (isIdentifier_nodeName (h.wellFormed.rules rule hrule).name) (nodeTypeOf_eq_ok hnode).name

/-- **Every rule has the node type of its name.** -/
theorem exists_node (h : Emission grammar analysis generated) (hrule : grammar.rule? name = some rule) :
    ∃ node, generated.parser.node? (nodeName name) = some node ∧
      nodeTypeOf ⟨grammar, analysis, generated.tokens⟩ rule = .ok node := by
  obtain ⟨hmem, rfl⟩ := Grammar.mem_of_rule? hrule
  obtain ⟨node, hnode, hmade⟩ := Outcome.exists_mem_right h.nodes hmem
  have hsome : (generated.parser.node? (nodeName rule.name)).isSome :=
    List.find?_isSome.mpr ⟨node, hnode, by simp [h.name_eq hmem hmade]⟩
  obtain ⟨found, hfound⟩ := Option.isSome_iff_exists.mp hsome
  obtain ⟨other, hother, hothermade⟩ :=
    Outcome.exists_mem_left h.nodes (List.mem_of_find?_eq_some hfound)
  have hname : found.name = nodeName rule.name := by simpa using List.find?_some hfound
  have hsame : other = rule := h.eq_of_nodeName hother hmem
    ((h.name_eq hother hothermade).symm.trans hname)
  subst hsame
  exact ⟨found, hfound, hothermade⟩

/-- A node type that is found by a name is that of the rule. -/
theorem node_eq (h : Emission grammar analysis generated) (hrule : grammar.rule? name = some rule)
    (hnode : generated.parser.node? (nodeName name) = some node) :
    nodeTypeOf ⟨grammar, analysis, generated.tokens⟩ rule = .ok node := by
  obtain ⟨found, hfound, hmade⟩ := h.exists_node hrule
  cases hnode.symm.trans hfound
  exact hmade

theorem start_eq (h : Emission grammar analysis generated) :
    ∃ rule, grammar.rule? grammar.start = some rule ∧
      generated.parser.start = nodeName grammar.start := by
  obtain ⟨rule, hrule, hident⟩ := h.start
  obtain ⟨hmem, hname⟩ := Grammar.mem_of_rule? hrule
  refine ⟨rule, hrule, ?_⟩
  rw [eq_of_ident (isIdentifier_nodeName (h.wellFormed.rules rule hmem).name) hident, hname]

/-- A regex terminal that a scanner has stands for itself in code and is not reserved. -/
theorem of_hasRegex (h : Emission grammar analysis generated) (hregex : generated.tokens.hasRegex name) :
    Description.IsIdentifier name ∧ name ∉ reservedNames := by
  obtain ⟨regex, hmem, heq⟩ := List.any_eq_true.mp hregex
  obtain rfl : regex.name = name := by simpa using heq
  obtain ⟨hgrammar, hreserved⟩ := mem_regexes_of_ofGrammar h.tokens regex hmem
  exact ⟨Description.isIdentifier_of_isRegexName (h.wellFormed.regexes regex hgrammar), hreserved⟩

end Emission

end AttributeGrammar.Synthesis
