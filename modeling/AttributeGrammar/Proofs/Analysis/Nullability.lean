import AttributeGrammar.Proofs.Analysis.LL1
import AttributeGrammar.Proofs.Grammar.Lookup
import AttributeGrammar.Proofs.Language.Progress

/-!
# Rules that may be empty

The search for conflicts compares what stands behind a rule with the other alternatives only, never with
what the alternative that may be empty begins with itself. No terminal hides there, however many rules the
empty derivation goes through.

* `Grammar.Keyed.distinct` — where no two rules have one name, every rule is found under its name.
* `Grammar.Predictive.existsUnique_nullable` — a rule that may be empty is so by one alternative.
* `Grammar.Predictive.eq_endOfInput` — only the end of the input can begin such a rule and stand behind it.
* `Grammar.Predictive.firstSet_inter_followSet` — in the grammar as it is written, nothing does both.
* `Analysis.apart_of_empty_mem` — so it is with the sets of an analysis.
-/

set_option autoImplicit false

namespace AttributeGrammar

namespace Grammar

variable {grammar : Grammar} {rule : Rule} {t : Terminal} {name : String} {form symbols : List Symbol}

theorem Keyed.distinct (h : grammar.Keyed) : grammar.Distinct :=
  fun _ hrule => (rule?_eq_some_iff h).mpr ⟨hrule, rfl⟩

/-- **A rule that may be empty is so by one alternative.** -/
theorem Predictive.existsUnique_nullable (hpredictive : grammar.Predictive) (hrule : rule ∈ grammar.rules)
    (h : grammar.flat.Vanishes [.nonTerminal rule.name]) :
    ∃! index : Nat, ∃ alternative : Alternative, rule.alternatives[index]? = some alternative ∧
      grammar.Nullable alternative.symbols := by
  obtain ⟨alternative, halt, hvanishes⟩ :=
    hpredictive.vanishes_nonTerminal (hpredictive.distinct rule hrule) h
  obtain ⟨index, hindex⟩ := List.mem_iff_getElem?.mp halt
  refine ⟨index, ⟨alternative, hindex, vanishes_iff_nullable.mp hvanishes⟩, ?_⟩
  rintro other ⟨rival, hrival, hnullable⟩
  exact vanishes_unique hpredictive.deterministic hrule hrival hindex
    (vanishes_iff_nullable.mpr hnullable) hvanishes

/-- **Only the end of the input can both begin a rule that may be empty and stand behind it.** -/
theorem Predictive.eq_endOfInput (hpredictive : grammar.Predictive)
    (hvanishes : grammar.flat.Vanishes [.nonTerminal name])
    (hbegins : grammar.flat.Begins t [.nonTerminal name]) (hfollows : grammar.flat.Follows t name) :
    t = .endOfInput := by
  by_contra hend
  refine not_begins_of_vanishes hpredictive hend hbegins hvanishes fun other hother => ?_
  cases List.mem_singleton.mp hother
  exact hfollows

/-! ## The sets as the grammar is written -/

/-- No derivation brings the end of the input. -/
theorem endOfInput_notMem_of_derives (h : grammar.written.Derives form symbols)
    (hform : .terminal .endOfInput ∉ form) : .terminal .endOfInput ∉ symbols := by
  refine h.preserves (P := fun form => .terminal .endOfInput ∉ form) (fun a b hstep ha => ?_) hform
  cases hstep with
  | replace front back hproduces =>
    obtain ⟨rule, -, alternative, -, rfl, rfl⟩ := hproduces
    have hbody : .terminal .endOfInput ∉ eraseTerminal .empty alternative.symbols := fun hmem =>
      endOfInput_notMem_symbols alternative (mem_eraseTerminal.mp hmem).1
    simp only [List.mem_append, List.mem_cons, not_or] at ha ⊢
    exact ⟨⟨ha.1, hbody⟩, ha.2.2⟩

/-- **In the grammar as it is written, nothing both begins a rule that may be empty and stands behind it.**
The end of the input stands behind rules, but begins none. -/
theorem Predictive.firstSet_inter_followSet (hpredictive : grammar.Predictive)
    (hnullable : grammar.Nullable [.nonTerminal name]) :
    grammar.firstSet [.nonTerminal name] ∩ grammar.followSet name = ∅ := by
  rw [Set.eq_empty_iff_forall_notMem]
  rintro t ⟨hfirst, hfollow⟩
  have hvanishes : grammar.flat.Vanishes [.nonTerminal name] :=
    vanishes_iff_derives.mpr (ended_derives_of_written hnullable)
  obtain rfl : t = .endOfInput :=
    hpredictive.eq_endOfInput hvanishes (begins_of_mem_firstSet hfirst) (follows_of_mem_followSet hfollow)
  obtain ⟨rest, hrest⟩ := hfirst
  refine endOfInput_notMem_of_derives hrest ?_ List.mem_cons_self
  simp [eraseTerminal]

/-- A sample. The rule `p` may be empty through the start rule and through `q`, so that the end of the input
comes to begin it. -/
def chained : Grammar where
  start := "s"
  rules := [
    { Rule.new "s" with alternatives := [⟨[.text "a", .rule "p"]⟩, ⟨[.regex emptyName]⟩] },
    { Rule.new "p" with alternatives := [⟨[.text "c"]⟩, ⟨[.rule "s", .rule "q"]⟩] },
    { Rule.new "q" with alternatives := [⟨[.regex emptyName]⟩] }]
  regexes := []
  actions := []

end Grammar

/-! ## The answers of an analysis -/

namespace Analysis

variable {grammar : Grammar} {analysis later : Analysis} {rule : Rule}

theorem predictive_of_ofGrammar (h : ofGrammar grammar = .ok analysis) (hkeyed : grammar.Keyed) :
    grammar.Predictive :=
  ⟨hkeyed.distinct, deterministic_of_ofGrammar h⟩

/-- **A rule that may be empty is so by one alternative, and only the end of the input can both begin it and
stand behind it**, whatever was asked before. An alternative may be empty when it derives nothing, as the
grammar is written; the FIRST sets that the search for conflicts compares tell this of every alternative. -/
theorem apart_of_empty_mem (h : ofGrammar grammar = .ok analysis) (hserves : analysis.Serves later)
    (hkeyed : grammar.Keyed) (hrule : rule ∈ grammar.rules)
    (hempty : .empty ∈ (getFirst [.nonTerminal rule.name] later).1) :
    (∃! index : Nat, ∃ alternative : Alternative, rule.alternatives[index]? = some alternative ∧
      grammar.Nullable alternative.symbols) ∧
    (∀ alternative ∈ rule.alternatives, grammar.Nullable alternative.symbols ↔
      .empty ∈ (getFirst (Flat.alternative grammar.start rule.name alternative) later).1) ∧
    ∀ t ∈ (getFirst [.nonTerminal rule.name] later).1, t ∈ later.getFollow rule.name →
      t = .endOfInput := by
  have hpredictive := predictive_of_ofGrammar h hkeyed
  have hfaithful := hserves.faithful (faithful_of_ofGrammar h)
  simp only [hfaithful.getFirst_eq_firstSet] at hempty ⊢
  have hvanishes := hfaithful.empty_mem_firstSet_iff.mp hempty
  refine ⟨hpredictive.existsUnique_nullable hrule hvanishes, fun alternative _ => ?_,
    fun t hfirst hfollow => ?_⟩
  · rw [hfaithful.empty_mem_firstSet_iff]
    exact Grammar.vanishes_alternative_iff_nullable.symm
  · have hfollows := hfaithful.mem_getFollow_iff.mp hfollow
    have hbegins := (hfaithful.mem_firstSet_iff hfollows.ne_empty).mp hfirst
    exact hpredictive.eq_endOfInput hvanishes hbegins hfollows

/-- In the sample the end of the input both begins the rule `p` and stands behind it. -/
theorem exists_chained : ∃ analysis, ofGrammar .chained = .ok analysis ∧
    .empty ∈ (getFirst [.nonTerminal "p"] analysis).1 ∧
    .endOfInput ∈ (getFirst [.nonTerminal "p"] analysis).1 ∧ .endOfInput ∈ analysis.getFollow "p" := by
  have hcheck : (ofGrammar .chained).toOption.any fun analysis =>
      (getFirst [.nonTerminal "p"] analysis).1.contains .empty &&
      (getFirst [.nonTerminal "p"] analysis).1.contains .endOfInput &&
      (analysis.getFollow "p").contains .endOfInput := by decide +kernel
  cases h : ofGrammar .chained with
  | error conflict => simp [h, Except.toOption] at hcheck
  | ok analysis =>
    simp only [h, Except.toOption, Option.any_some, Bool.and_eq_true, Std.ExtTreeSet.contains_iff_mem] at hcheck
    exact ⟨analysis, rfl, hcheck.1.1, hcheck.1.2, hcheck.2⟩

/-- The rule `p` of the sample, for which the exception is needed. -/
theorem apart_of_empty_mem_chained :
    ∃ analysis rule, ofGrammar .chained = .ok analysis ∧ analysis.Serves analysis ∧
    Grammar.chained.Keyed ∧ rule ∈ Grammar.chained.rules ∧ rule.name = "p" ∧
    .empty ∈ (getFirst [.nonTerminal "p"] analysis).1 ∧
    (∃! index : Nat, ∃ alternative : Alternative, rule.alternatives[index]? = some alternative ∧
      Grammar.chained.Nullable alternative.symbols) ∧
    (∀ alternative ∈ rule.alternatives, Grammar.chained.Nullable alternative.symbols ↔
      .empty ∈ (getFirst (Flat.alternative "s" "p" alternative) analysis).1) ∧
    (∀ t ∈ (getFirst [.nonTerminal "p"] analysis).1, t ∈ analysis.getFollow "p" → t = .endOfInput) ∧
    .endOfInput ∈ (getFirst [.nonTerminal "p"] analysis).1 ∧ .endOfInput ∈ analysis.getFollow "p" := by
  obtain ⟨analysis, h, hempty, hfirst, hfollow⟩ := exists_chained
  have hkeyed : Grammar.chained.Keyed := by unfold Grammar.Keyed; decide
  obtain ⟨rule, hrule, hname⟩ : ∃ rule ∈ Grammar.chained.rules, rule.name = "p" :=
    ⟨_, List.mem_cons_of_mem _ List.mem_cons_self, rfl⟩
  have hapart := apart_of_empty_mem h .made hkeyed hrule (hname.symm ▸ hempty)
  rw [hname] at hapart
  obtain ⟨hunique, htells, honly⟩ := hapart
  exact ⟨analysis, rule, h, .made, hkeyed, hrule, hname, hempty, hunique, htells, honly, hfirst, hfollow⟩

end Analysis

end AttributeGrammar
