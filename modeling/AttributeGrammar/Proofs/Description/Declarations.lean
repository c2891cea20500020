import AttributeGrammar.Proofs.Grammar.Building
import AttributeGrammar.Proofs.Grammar.Parts

/-!
# Grammars as rows of declarations

A grammar without actions is known from its declarations, one for each regex terminal and one for each
alternative of a rule.

* `Declaration`, `Grammar.addDeclaration`, `Grammar.declarations` — what a line declares, what that adds to a
  grammar, and the declarations of a grammar.
* `Grammar.regexes_addDeclaration`, `Grammar.alternativesOf_addDeclaration` — what a declaration adds.
* `Rule.Described`, `Grammar.Described` — rules and grammars that only valid lines have declared;
  `Description.described_of_read` says that all grammars that are read are.
* `Grammar.Described.addDeclaration_declarations` — **the declarations of a described grammar build it**.
-/

set_option autoImplicit false

namespace AttributeGrammar

open Description (RuleDecl isRuleName isRegexName applyEdit)

/-- A declaration of a regex terminal or of an alternative of a rule. -/
inductive Declaration where
  | regex (terminal : RegexTerminal)
  | rule (decl : RuleDecl)

namespace Declaration

/-- A line can hold the declaration. -/
def Valid : Declaration → Prop
  | .regex terminal => isRegexName terminal.name ∧ terminal.pattern ≠ ""
  | .rule decl => decl.Valid

/-- The regex terminal that is declared. -/
def regexes : Declaration → List RegexTerminal
  | .regex terminal => [terminal]
  | .rule _ => []

/-- The alternative that is declared for a rule. -/
def alternativesOf (name : String) : Declaration → List Alternative
  | .regex _ => []
  | .rule decl => if decl.name = name then [⟨decl.items⟩] else []

end Declaration

/-- The declarations of a rule: one for each alternative, each with the parameters. -/
def Rule.declarations (rule : Rule) : List Declaration :=
  rule.alternatives.map fun alternative => .rule ⟨rule.name, rule.inheritedVars, alternative.items⟩

namespace Grammar

variable {grammar after : Grammar} {rule : Rule} {name : String}

def declarations (grammar : Grammar) : List Declaration :=
  grammar.regexes.map .regex ++ grammar.rules.flatMap Rule.declarations

/-- Adds what a line declares. -/
def addDeclaration (grammar : Grammar) : Declaration → Except GrammarError Grammar
  | .regex terminal => .ok (grammar.addRegex terminal.name terminal.pattern)
  | .rule decl => do applyEdit grammar (addRule (← decl.toRule))

/-- The alternatives of a rule, none if there is no rule of the name. -/
def alternativesOf (grammar : Grammar) (name : String) : List Alternative :=
  ((grammar.rule? name).map Rule.alternatives).getD []

theorem forall_mem_declarations {holds : Declaration → Prop} :
    (∀ declaration ∈ grammar.declarations, holds declaration) ↔
      (∀ terminal ∈ grammar.regexes, holds (.regex terminal)) ∧
        ∀ rule ∈ grammar.rules, ∀ alternative ∈ rule.alternatives,
          holds (.rule ⟨rule.name, rule.inheritedVars, alternative.items⟩) := by
  simp only [declarations, Rule.declarations, List.forall_mem_append, List.forall_mem_map, List.mem_flatMap,
    forall_exists_index, and_imp]
  exact and_congr_right fun _ => ⟨fun h rule hrule alternative halternative =>
    h _ rule hrule (List.mem_map_of_mem halternative), fun h declaration rule hrule hmem => by
      obtain ⟨alternative, halternative, rfl⟩ := List.mem_map.mp hmem
      exact h rule hrule alternative halternative⟩

/-! ## What a declaration adds -/

/-- A rule is added, or merged into the one of its name. -/
theorem addRule_eq_ok :
    addRule rule grammar = .ok () after ↔
      (grammar.rule? rule.name = none ∧ after = { grammar with rules := grammar.rules ++ [rule] }) ∨
        ∃ existing merged, grammar.rule? rule.name = some existing ∧ rule.merge existing = .ok () merged ∧
          after = grammar.replaceRule merged := by
  unfold addRule
  rw [Outcome.bind_eq_ok]
  constructor
  · rintro ⟨_, _, hget, h⟩
    cases hget
    rcases hexisting : grammar.rule? rule.name with _ | existing
    · simp only [hexisting] at h
      cases h
      exact .inl ⟨rfl, rfl⟩
    · simp only [hexisting, editRule] at h
      split at h
      · rename_i merged hmerge
        cases h
        exact .inr ⟨existing, merged, rfl, hmerge, rfl⟩
      · cases h
  · rintro (⟨hnone, rfl⟩ | ⟨existing, merged, hexisting, hmerge, rfl⟩)
    · exact ⟨grammar, grammar, rfl, by simp only [hnone]; rfl⟩
    · refine ⟨grammar, grammar, rfl, ?_⟩
      simp only [hexisting, editRule, hmerge]

theorem rule?_concat (hnew : grammar.rule? rule.name = none) :
    rule? { grammar with rules := grammar.rules ++ [rule] } name =
      if rule.name = name then some rule else grammar.rule? name := by
  rw [rule?, List.find?_append, ← rule?]
  split
  · rename_i hname
    rw [← hname, hnew]
    simp
  · rename_i hname
    simp [hname]

theorem addAction_eq_ok {action : Action} (h : addAction action grammar = .ok () after) :
    after = { grammar with actions := grammar.actions ++ [action] } := by
  obtain ⟨_, _, hget, h⟩ := Outcome.bind_eq_ok.mp h
  cases hget
  split at h
  · cases h
  · cases h
    rfl

theorem name_of_merge {other existing merged : Rule} (h : Rule.merge other existing = .ok () merged) :
    merged.name = existing.name ∧ merged.alternatives = existing.alternatives ++ other.alternatives := by
  obtain ⟨-, rfl⟩ := Rule.merge_eq_ok_iff.mp h
  exact ⟨rfl, rfl⟩

/-- Adding a rule appends its alternatives to those of its name. -/
theorem alternativesOf_addRule (h : addRule rule grammar = .ok () after) :
    after.regexes = grammar.regexes ∧ ∀ name, after.alternativesOf name =
      grammar.alternativesOf name ++ if rule.name = name then rule.alternatives else [] := by
  rcases addRule_eq_ok.mp h with ⟨hnew, rfl⟩ | ⟨existing, merged, hexisting, hmerge, rfl⟩
  · refine ⟨rfl, fun name => ?_⟩
    rw [alternativesOf, rule?_concat hnew, alternativesOf]
    by_cases hname : rule.name = name
    · rw [if_pos hname, if_pos hname, ← hname, hnew]
      rfl
    · rw [if_neg hname, if_neg hname, List.append_nil]
  · obtain ⟨hname, halternatives⟩ := name_of_merge hmerge
    have hexistingName := (mem_of_rule? hexisting).2
    refine ⟨rfl, fun name => ?_⟩
    rw [alternativesOf, rule?_replaceRule, hname, hexistingName, alternativesOf]
    by_cases heq : rule.name = name
    · rw [if_pos heq.symm, if_pos heq, ← heq, hexisting]
      simp [halternatives]
    · rw [if_neg (Ne.symm heq), if_neg heq, List.append_nil]

end Grammar

theorem Description.RuleDecl.Valid.spaceless {decl : RuleDecl} (h : decl.Valid) :
    ∀ v ∈ decl.inherited, Spaceless v.type := by
  intro v hv c hc
  have hpart := (h.inherited v hv).type c hc
  simp only [Description.isTypePart, Bool.and_eq_true, Bool.not_eq_true'] at hpart
  exact hpart.1.1

namespace Grammar

variable {grammar after : Grammar} {declaration : Declaration}

theorem addDeclaration_rule_eq_ok {decl : RuleDecl} :
    grammar.addDeclaration (.rule decl) = .ok after ↔
      ∃ rule, decl.toRule = .ok rule ∧ addRule rule grammar = .ok () after := by
  rw [addDeclaration, Outcome.except_bind_eq_ok]
  unfold applyEdit
  refine exists_congr fun rule => and_congr_right fun _ => ?_
  split <;> rename_i heq <;> simp [heq]

theorem regexes_addDeclaration (h : grammar.addDeclaration declaration = .ok after) :
    after.regexes = grammar.regexes ++ declaration.regexes := by
  cases declaration with
  | regex terminal =>
    cases h
    rfl
  | rule decl =>
    obtain ⟨rule, -, hadd⟩ := addDeclaration_rule_eq_ok.mp h
    rw [(alternativesOf_addRule hadd).1, Declaration.regexes, List.append_nil]

theorem alternativesOf_addDeclaration (hvalid : declaration.Valid)
    (h : grammar.addDeclaration declaration = .ok after) (name : String) :
    after.alternativesOf name = grammar.alternativesOf name ++ declaration.alternativesOf name := by
  cases declaration with
  | regex terminal =>
    cases h
    simp [Declaration.alternativesOf, alternativesOf, rule?, addRegex]
  | rule decl =>
    obtain ⟨rule, hmade, hadd⟩ := addDeclaration_rule_eq_ok.mp h
    obtain ⟨hparts, -⟩ := Rule.madeOf_of_toRule (Description.RuleDecl.Valid.spaceless hvalid) hmade
    rw [(alternativesOf_addRule hadd).2, hparts.name_eq, hparts.alternatives_eq, Declaration.alternativesOf]

end Grammar

/-! ## What is read is described -/

/-- A rule that only valid lines have declared. -/
structure Rule.Described (rule : Rule) : Prop where
  made : rule.MadeOf rule.name rule.inheritedVars rule.alternatives
  name : isRuleName rule.name
  inherited : ∀ v ∈ rule.inheritedVars, v.Valid
  items : ∀ item ∈ rule.items, item.Valid
  assigns : ∀ item ∈ rule.items, ∀ var, item ≠ .assignRegex var emptyName
  nonempty : rule.alternatives ≠ []

/-- A grammar that only valid lines have declared. -/
structure Grammar.Described (grammar : Grammar) : Prop where
  rules : ∀ rule ∈ grammar.rules, rule.Described
  regexes : ∀ regex ∈ grammar.regexes, isRegexName regex.name ∧ regex.pattern ≠ ""
  keyed : grammar.Keyed

namespace Rule

variable {rule other after : Rule} {name : String} {inherited : List Variable} {alternatives : List Alternative}

theorem MadeOf.self (h : rule.MadeOf name inherited alternatives) :
    rule.MadeOf rule.name rule.inheritedVars rule.alternatives := by
  rw [h.inheritedVars_eq, h.name_eq, h.alternatives_eq]
  exact h

theorem described_of_toRule {decl : RuleDecl} (hvalid : decl.Valid) (h : decl.toRule = .ok rule) :
    rule.Described := by
  obtain ⟨hmade, hassigns⟩ := madeOf_of_toRule hvalid.spaceless h
  have hitems : rule.items = decl.items := by simp [Rule.items, hmade.alternatives_eq]
  refine ⟨hmade.self, ?_, ?_, ?_, ?_, ?_⟩
  · rw [hmade.name_eq]
    exact hvalid.name
  · rw [hmade.inheritedVars_eq]
    exact hvalid.inherited
  · rw [hitems]
    exact hvalid.items
  · rw [hitems]
    exact hassigns
  · rw [hmade.alternatives_eq]
    exact List.cons_ne_nil _ _

theorem Described.merge (h : rule.Described) (hother : other.Described)
    (hmerge : Rule.merge other rule = .ok () after) : after.Described := by
  have hparts := hother.made
  rw [← (merge_eq_ok.mp hmerge).1] at hparts
  have hmade := h.made.merge hparts hmerge
  have hitems : after.items = rule.items ++ other.items := by simp [Rule.items, hmade.alternatives_eq]
  refine ⟨hmade.self, ?_, ?_, ?_, ?_, ?_⟩
  · rw [hmade.name_eq]
    exact h.name
  · rw [hmade.inheritedVars_eq]
    split
    · exact hother.inherited
    · exact h.inherited
  · rw [hitems]
    exact List.forall_mem_append.mpr ⟨h.items, hother.items⟩
  · rw [hitems]
    exact List.forall_mem_append.mpr ⟨h.assigns, hother.assigns⟩
  · rw [hmade.alternatives_eq]
    exact List.append_ne_nil_of_left_ne_nil h.nonempty _

end Rule

theorem Grammar.described_addRule {grammar after : Grammar} {rule : Rule}
    (hgrammar : ∀ old ∈ grammar.rules, old.Described) (hrule : rule.Described)
    (h : addRule rule grammar = .ok () after) : ∀ new ∈ after.rules, new.Described := by
  rcases addRule_eq_ok.mp h with ⟨-, rfl⟩ | ⟨existing, merged, hexisting, hmerge, rfl⟩
  · exact List.forall_mem_append.mpr ⟨hgrammar, by simpa using hrule⟩
  · intro new hnew
    obtain ⟨old, hold, rfl⟩ := List.mem_map.mp hnew
    split
    · exact (hgrammar existing (mem_of_rule? hexisting).1).merge hrule hmerge
    · exact hgrammar old hold

/-- **Every grammar that is read is described.** -/
theorem Description.described_of_read {input : String} {grammar : Grammar}
    (h : Description.read input = .ok grammar) : grammar.Described := by
  have hdeclared : (∀ rule ∈ grammar.rules, rule.Described) ∧
      ∀ regex ∈ grammar.regexes, isRegexName regex.name ∧ regex.pattern ≠ "" := by
    refine Description.keeps_read (fun grammar => (∀ rule ∈ grammar.rules, rule.Described) ∧
      ∀ regex ∈ grammar.regexes, isRegexName regex.name ∧ regex.pattern ≠ "")
      (fun hgrammar hedit => ?_) (fun hgrammar hvalid hmade hedit => ?_) (fun hgrammar hname hpattern => ?_)
      (by simp [Grammar.empty]) (fun _ hgrammar => hgrammar) h
    · rw [Grammar.addAction_eq_ok hedit]
      exact hgrammar
    · refine ⟨Grammar.described_addRule hgrammar.1 (Rule.described_of_toRule hvalid hmade) hedit, ?_⟩
      rw [(Grammar.alternativesOf_addRule hedit).1]
      exact hgrammar.2
    · exact ⟨hgrammar.1, List.forall_mem_append.mpr ⟨hgrammar.2, by simpa using ⟨hname, hpattern⟩⟩⟩
  exact ⟨hdeclared.1, hdeclared.2, (built_of_read h).keyed⟩

/-! ## Declaring a grammar again -/

namespace Grammar

variable {grammar : Grammar} {rule line : Rule}

theorem Described.valid_declarations (h : grammar.Described) :
    ∀ declaration ∈ grammar.declarations, declaration.Valid := by
  refine forall_mem_declarations.mpr ⟨h.regexes, fun rule hrule alternative halternative => ?_⟩
  have hrule := h.rules rule hrule
  exact ⟨hrule.name, hrule.inherited, fun item hitem =>
    hrule.items item (List.mem_flatMap.mpr ⟨alternative, halternative, hitem⟩)⟩

theorem foldlM_regexes (regexes : List RegexTerminal) :
    (regexes.map Declaration.regex).foldlM addDeclaration grammar =
      .ok { grammar with regexes := grammar.regexes ++ regexes } := by
  induction regexes generalizing grammar with
  | nil => simp [pure, Except.pure]
  | cons regex regexes ih =>
    rw [List.map_cons, List.foldlM_cons]
    refine (@ih (grammar.addRegex regex.name regex.pattern)).trans ?_
    simp [addRegex]

/-- The variables of some of the alternatives are variables of the rule. -/
theorem mem_allVars_of_subset (h : rule.Described) {front : List Alternative}
    (hfront : ∀ alternative ∈ front, alternative ∈ rule.alternatives) :
    ∀ v ∈ rule.inheritedVars ++ textVars front, v ∈ rule.allVars := by
  intro v hv
  refine (h.made.mem_allVars_iff v).mpr (List.mem_append.mpr ((List.mem_append.mp hv).imp_right fun hv => ?_))
  obtain ⟨item, hitem, hvar⟩ := List.mem_filterMap.mp hv
  obtain ⟨alternative, hmem, hitem⟩ := List.mem_flatMap.mp hitem
  exact List.mem_filterMap.mpr ⟨item, List.mem_flatMap.mpr ⟨alternative, hfront _ hmem, hitem⟩, hvar⟩

/-- The line of an alternative of a described rule stands for a rule. -/
theorem exists_line (h : rule.Described) {alternative : Alternative} (hmem : alternative ∈ rule.alternatives) :
    ∃ line, RuleDecl.toRule ⟨rule.name, rule.inheritedVars, alternative.items⟩ = .ok line ∧
      line.MadeOf rule.name rule.inheritedVars [alternative] := by
  have hitems : ∀ item ∈ alternative.items, item ∈ rule.items := fun item hitem =>
    List.mem_flatMap.mpr ⟨alternative, hmem, hitem⟩
  obtain ⟨line, hline⟩ := @Rule.exists_toRule rule ⟨rule.name, rule.inheritedVars, alternative.items⟩
    h.made.spaceless_allVars (mem_allVars_of_subset h (by simpa using hmem)) h.made.distinct
    fun item hitem => h.assigns item (hitems item hitem)
  exact ⟨line, hline, (Rule.madeOf_of_toRule h.made.spaceless hline).1⟩

theorem replaceRule_concat {merged : Rule} (hnew : grammar.rule? merged.name = none)
    (hname : rule.name = merged.name) :
    replaceRule { grammar with rules := grammar.rules ++ [rule] } merged =
      { grammar with rules := grammar.rules ++ [merged] } := by
  have hold : grammar.rules.map (fun old => if old.name = merged.name then merged else old) =
      grammar.rules := by
    refine (List.map_congr_left fun old hmem => if_neg fun heq => ?_).trans (List.map_id _)
    have hsome := isSome_rule?_iff.mpr (List.mem_map_of_mem (f := Rule.name) hmem)
    rw [heq, hnew] at hsome
    cases hsome
  simp [replaceRule, hold, hname]

/-- The other lines of a rule complete it. -/
theorem foldlM_alternatives (h : rule.Described) (hnew : grammar.rule? rule.name = none)
    {front back : List Alternative} (hsplit : rule.alternatives = front ++ back)
    (hline : line.MadeOf rule.name rule.inheritedVars front) :
    (back.map fun alternative => Declaration.rule ⟨rule.name, rule.inheritedVars, alternative.items⟩).foldlM
        addDeclaration { grammar with rules := grammar.rules ++ [line] } =
      .ok { grammar with rules := grammar.rules ++ [rule] } := by
  induction back generalizing line front with
  | nil =>
    rw [List.append_nil] at hsplit
    subst hsplit
    rw [hline.unique h.made]
    rfl
  | cons alternative back ih =>
    have hfront : ∀ v ∈ line.allVars, v ∈ rule.allVars := fun v hv =>
      mem_allVars_of_subset h (fun a ha => by simp [hsplit, ha]) v ((hline.mem_allVars_iff v).mp hv)
    have hmem : alternative ∈ rule.alternatives := by simp [hsplit]
    obtain ⟨next, hnext, hmade⟩ := exists_line h hmem
    have hvars : ∀ v ∈ next.allVars, v ∈ rule.allVars := fun v hv =>
      mem_allVars_of_subset h (by simpa using hmem) v ((hmade.mem_allVars_iff v).mp hv)
    obtain ⟨merged, hmerge⟩ := hline.exists_merge hmade hfront hvars
    have hmerged := hline.merge hmade hmerge
    rw [ite_self] at hmerged
    have hfound : rule? { grammar with rules := grammar.rules ++ [line] } next.name = some line := by
      rw [rule?_concat (by rwa [hline.name_eq]), if_pos (hline.name_eq.trans hmade.name_eq.symm)]
    have hreplace := @replaceRule_concat grammar line merged (by rwa [hmerged.name_eq])
      (hline.name_eq.trans hmerged.name_eq.symm)
    have hfirst : addDeclaration { grammar with rules := grammar.rules ++ [line] }
        (.rule ⟨rule.name, rule.inheritedVars, alternative.items⟩) =
        .ok { grammar with rules := grammar.rules ++ [merged] } :=
      addDeclaration_rule_eq_ok.mpr
        ⟨next, hnext, addRule_eq_ok.mpr (.inr ⟨line, merged, hfound, hmerge, hreplace.symm⟩)⟩
    rw [List.map_cons, List.foldlM_cons, hfirst]
    exact ih (by rw [hsplit]; simp) hmerged

/-- The lines of a rule add it. -/
theorem foldlM_rule (h : rule.Described) (hnew : grammar.rule? rule.name = none) :
    rule.declarations.foldlM addDeclaration grammar =
      .ok { grammar with rules := grammar.rules ++ [rule] } := by
  obtain ⟨alternative, back, hsplit⟩ := List.exists_cons_of_ne_nil h.nonempty
  obtain ⟨line, hline, hmade⟩ := exists_line h (show alternative ∈ rule.alternatives by simp [hsplit])
  have hfirst : grammar.addDeclaration (.rule ⟨rule.name, rule.inheritedVars, alternative.items⟩) =
      .ok { grammar with rules := grammar.rules ++ [line] } :=
    addDeclaration_rule_eq_ok.mpr ⟨line, hline, addRule_eq_ok.mpr (.inl ⟨by rwa [hmade.name_eq], rfl⟩)⟩
  rw [Rule.declarations, hsplit, List.map_cons, List.foldlM_cons, hfirst]
  exact foldlM_alternatives h hnew hsplit hmade

theorem foldlM_rules {rules : List Rule} (h : ∀ rule ∈ rules, rule.Described)
    (hdistinct : ((grammar.rules ++ rules).map Rule.name).Nodup) :
    (rules.flatMap Rule.declarations).foldlM addDeclaration grammar =
      .ok { grammar with rules := grammar.rules ++ rules } := by
  induction rules generalizing grammar with
  | nil => simp [pure, Except.pure]
  | cons rule rules ih =>
    obtain ⟨hrule, hrules⟩ := List.forall_mem_cons.mp h
    have hnew : grammar.rule? rule.name = none := by
      rw [← Option.not_isSome_iff_eq_none, isSome_rule?_iff]
      intro hold
      rw [List.map_append] at hdistinct
      exact (List.nodup_append.mp hdistinct).2.2 _ hold _ (.head _) rfl
    rw [List.flatMap_cons, List.foldlM_append, foldlM_rule hrule hnew]
    refine (@ih { grammar with rules := grammar.rules ++ [rule] } hrules (by simpa using hdistinct)).trans ?_
    simp

/-- **The declarations of a described grammar build it,** up to its actions and its start symbol. -/
theorem Described.addDeclaration_declarations (h : grammar.Described) :
    grammar.declarations.foldlM addDeclaration .empty = .ok { grammar with start := "", actions := [] } := by
  rw [declarations, List.foldlM_append, foldlM_regexes]
  exact foldlM_rules h.rules h.keyed

end Grammar

end AttributeGrammar
