import AttributeGrammar.Proofs.Synthesis.Body

/-!
# The dispatch methods of an emitted parser

* `Emission.holds_iff` — the condition that was made of a terminal holds of the tokens that stand for it.
* `picks_of_mem_dispatch`, `Emission.exists_branch` — the conditions of a dispatch method are
  those of the terminals that pick an alternative.
* `Emission.choice?_eq_some_some_iff` — a body is selected exactly when the token ahead picks its
  alternative.
* `Emission.choice?_eq_some_none_iff` — none is selected exactly when none is picked.
-/

set_option autoImplicit false

namespace AttributeGrammar.Synthesis

variable {grammar : Grammar} {analysis : Analysis} {generated : Generated} {rule : Rule}
  {node : NodeType} {alternative : Alternative} {t : Terminal} {token : Token} {tokens : List Token}
  {set : TerminalSet} {branches : List Branch} {branch : Branch} {source : Source}

/-! ## The branches of a set -/

/-- The branches of a set are made of its terminals, all of them but the marker for the empty string. -/
theorem mem_branchesOf {body : Nat} (h : branchesOf body set = .ok branches) :
    (∀ branch ∈ branches, branch.body = body ∧ ∃ t ∈ set, t ≠ .empty ∧ checkOf t = .ok branch.check) ∧
      ∀ t ∈ set, t ≠ .empty → ∃ branch ∈ branches, checkOf t = .ok branch.check := by
  have hbranches := Outcome.mapM_eq_ok.mp h
  constructor
  · intro branch hbranch
    obtain ⟨t, ht, hmade⟩ := Outcome.exists_mem_left hbranches hbranch
    obtain ⟨check, hcheck, hmade⟩ := Outcome.except_bind_eq_ok.mp hmade
    cases hmade
    obtain ⟨hmem, hne⟩ := List.mem_filter.mp ht
    exact ⟨rfl, t, Std.ExtTreeSet.mem_toList.mp hmem, of_decide_eq_true hne, hcheck⟩
  · intro t ht hne
    have hmem : t ∈ set.toList.filter (· ≠ .empty) :=
      List.mem_filter.mpr ⟨Std.ExtTreeSet.mem_toList.mpr ht, decide_eq_true hne⟩
    obtain ⟨branch, hbranch, hmade⟩ := Outcome.exists_mem_right hbranches hmem
    obtain ⟨check, hcheck, hmade⟩ := Outcome.except_bind_eq_ok.mp hmade
    cases hmade
    exact ⟨_, hbranch, hcheck⟩

/-- The alternative that is taken for nothing is one that may be empty. -/
theorem mem_of_nullableBody? {firsts : List TerminalSet} {body : Nat}
    (h : nullableBody? firsts = some body) : ∃ set, firsts[body]? = some set ∧ .empty ∈ set := by
  obtain ⟨⟨set, index⟩, hlast, rfl⟩ := Option.map_eq_some_iff.mp h
  obtain ⟨hmem, hempty⟩ := List.mem_filter.mp (List.mem_of_getLast? hlast)
  exact ⟨set, List.mem_zipIdx_iff_getElem?.mp hmem, Std.ExtTreeSet.contains_iff_mem.mp hempty⟩

theorem exists_nullableBody? {firsts : List TerminalSet} {body : Nat} (hset : firsts[body]? = some set)
    (hempty : .empty ∈ set) : ∃ last, nullableBody? firsts = some last := by
  rcases hlast : nullableBody? firsts with _ | last
  · have hnone := List.getLast?_eq_none_iff.mp (Option.map_eq_none_iff.mp hlast)
    refine absurd (Std.ExtTreeSet.contains_iff_mem.mpr hempty) ?_
    exact List.filter_eq_nil_iff.mp hnone (set, body) (List.mem_zipIdx_iff_getElem?.mpr hset)
  · exact ⟨last, rfl⟩

/-- The FIRST sets of the alternatives of a rule. -/
def Source.firstSets (source : Source) (rule : Rule) : List TerminalSet :=
  rule.alternatives.map fun alternative => source.analysis.firstSet alternative.symbols

/-- A dispatch method is made of the FIRST sets of all alternatives, and of the FOLLOW set for one that
may be empty. -/
theorem dispatchOf_eq_ok (h : dispatchOf source rule = .ok branches) :
    ∃ made more, branches = made.flatten ++ more ∧
      List.Forall₂ (fun entry branches => branchesOf entry.2 entry.1 = .ok branches)
        (source.firstSets rule).zipIdx made ∧
      ((∃ body, nullableBody? (source.firstSets rule) = some body ∧
          branchesOf body (source.analysis.getFollow rule.name) = .ok more) ∨
        (nullableBody? (source.firstSets rule) = none ∧ more = [])) := by
  obtain ⟨made, hmade, h⟩ := Outcome.except_bind_eq_ok.mp h
  rcases hnullable : nullableBody? (source.firstSets rule) with _ | body
  · simp only [Source.firstSets] at hnullable
    simp only [hnullable] at h
    cases h
    exact ⟨made, [], rfl, Outcome.mapM_eq_ok.mp hmade, Or.inr ⟨rfl, rfl⟩⟩
  · simp only [Source.firstSets] at hnullable
    simp only [hnullable] at h
    obtain ⟨more, hmore, h⟩ := Outcome.except_bind_eq_ok.mp h
    cases h
    exact ⟨made, more, rfl, Outcome.mapM_eq_ok.mp hmade, Or.inl ⟨body, rfl, hmore⟩⟩

/-! ## Conditions and terminals -/

/-- A terminal that picks an alternative occurs in the grammar. -/
theorem mem_terminals_of_picks (hrule : rule ∈ grammar.rules) (halt : alternative ∈ rule.alternatives)
    (hpicks : grammar.Picks rule alternative t) : t ∈ grammar.flat.terminals := by
  rcases hpicks with hbegins | ⟨-, hfollows⟩
  · by_cases hend : t = .endOfInput
    · exact Flat.mem_terminals_iff.mpr (Or.inl hend)
    · refine Flat.mem_terminals_iff.mpr (Or.inr ⟨hbegins.ne_empty, ?_⟩)
      rcases hbegins.mem with hmem | hmem
      · exact (Grammar.mem_flat_symbols_iff hend).mpr ⟨rule, hrule, alternative, halt, hmem⟩
      · exact hmem
  · exact hfollows.mem_terminals

/-- A regex terminal that picks an alternative is one that the scanner knows: of the alternative where it
occurs a body was made. -/
theorem hasRegex_of_picks {spec : TokenSpec} {nodes : List NodeType} {name : String}
    (hnodes : List.Forall₂ (fun rule node => nodeTypeOf ⟨grammar, analysis, spec⟩ rule = .ok node)
      grammar.rules nodes)
    (hrule : rule ∈ grammar.rules) (halt : alternative ∈ rule.alternatives)
    (hpicks : grammar.Picks rule alternative (.regex name)) : spec.hasRegex name := by
  have hoccurs := Flat.mem_terminals_iff.mp (mem_terminals_of_picks hrule halt hpicks)
  obtain ⟨other, hother, body, hbody, hmem⟩ :=
    (Grammar.mem_flat_symbols_iff (by simp)).mp (hoccurs.resolve_left (by simp)).2
  obtain ⟨otherNode, -, hnode⟩ := Outcome.exists_mem_right hnodes hother
  obtain ⟨statements, -, hstatements⟩ := Outcome.exists_mem_right (nodeTypeOf_eq_ok hnode).bodies hbody
  exact hasRegex_of_bodyOf hstatements hmem

/-- A branch was made of a terminal that picks the alternative of its body. -/
theorem picks_of_mem_dispatch {spec : TokenSpec} (h : analysis.Faithful grammar.flat)
    (hnode : nodeTypeOf ⟨grammar, analysis, spec⟩ rule = .ok node) (hbranch : branch ∈ node.dispatch) :
    ∃ alternative t, rule.alternatives[branch.body]? = some alternative ∧
      grammar.Picks rule alternative t ∧ checkOf t = .ok branch.check := by
  obtain ⟨made, more, heq, hmade, hmore⟩ := dispatchOf_eq_ok (nodeTypeOf_eq_ok hnode).dispatch
  rw [heq] at hbranch
  rcases List.mem_append.mp hbranch with hbranch | hbranch
  · obtain ⟨branches, hbranches, hmem⟩ := List.mem_flatten.mp hbranch
    obtain ⟨⟨set, index⟩, hset, hof⟩ := Outcome.exists_mem_left hmade hbranches
    obtain ⟨rfl, t, ht, hne, hcheck⟩ := (mem_branchesOf hof).1 branch hmem
    rw [List.mem_zipIdx_iff_getElem?, Source.firstSets, List.getElem?_map] at hset
    obtain ⟨alternative, halt, rfl⟩ := Option.map_eq_some_iff.mp hset
    exact ⟨alternative, t, halt, Or.inl ((h.mem_firstSet_iff hne).mp ht), hcheck⟩
  · rcases hmore with ⟨index, hnullable, hof⟩ | ⟨-, rfl⟩
    · obtain ⟨set, hset, hempty⟩ := mem_of_nullableBody? hnullable
      obtain ⟨rfl, t, ht, hne, hcheck⟩ := (mem_branchesOf hof).1 branch hbranch
      rw [Source.firstSets, List.getElem?_map] at hset
      obtain ⟨alternative, halt, rfl⟩ := Option.map_eq_some_iff.mp hset
      exact ⟨alternative, t, halt,
        Or.inr ⟨h.empty_mem_firstSet_iff.mp hempty, h.mem_getFollow_iff.mp ht⟩, hcheck⟩
    · cases hbranch

namespace Emission

/-- A regex terminal that picks an alternative stands for itself in code. -/
theorem isIdentifier_of_picks (h : Emission grammar analysis generated) {name : String}
    (hrule : rule ∈ grammar.rules) (halt : alternative ∈ rule.alternatives)
    (hpicks : grammar.Picks rule alternative (.regex name)) : Description.IsIdentifier name :=
  (h.of_hasRegex (hasRegex_of_picks h.nodes hrule halt hpicks)).1

/-- **The condition that was made of a terminal holds of the tokens that stand for it.** -/
theorem holds_iff (h : Emission grammar analysis generated) (hrule : rule ∈ grammar.rules)
    (halt : alternative ∈ rule.alternatives) (hpicks : grammar.Picks rule alternative t)
    {check : Check} (hcheck : checkOf t = .ok check) : check.holds token ↔ token.terminal = t := by
  cases t with
  | text literal =>
    cases hcheck
    exact Token.terminal_eq_text.symm
  | regex name =>
    obtain ⟨kind, hkind, hmade⟩ := Outcome.except_bind_eq_ok.mp hcheck
    cases hmade
    rw [eq_of_ident (h.isIdentifier_of_picks hrule halt hpicks) hkind, Token.terminal_eq_regex]
    exact decide_eq_true_iff
  | endOfInput =>
    cases hcheck
    exact Token.terminal_eq_endOfInput.symm
  | empty => cases hcheck

variable {rest : List Token} {index : Nat}

/-- Of every terminal that picks an alternative a branch was made. -/
theorem exists_branch (h : Emission grammar analysis generated)
    (hnode : nodeTypeOf ⟨grammar, analysis, generated.tokens⟩ rule = .ok node)
    (halt : alternative ∈ rule.alternatives) (hpicks : grammar.Picks rule alternative t) :
    ∃ branch ∈ node.dispatch, checkOf t = .ok branch.check := by
  obtain ⟨made, more, heq, hmade, hmore⟩ := dispatchOf_eq_ok (nodeTypeOf_eq_ok hnode).dispatch
  obtain ⟨index, hindex⟩ := List.mem_iff_getElem?.mp halt
  have hset : (Source.firstSets ⟨grammar, analysis, generated.tokens⟩ rule)[index]? =
      some (analysis.firstSet alternative.symbols) := by
    rw [Source.firstSets, List.getElem?_map, hindex, Option.map_some]
  rw [heq]
  rcases hpicks with hbegins | ⟨hvanishes, hfollows⟩
  · have hne := hbegins.ne_empty
    have hmem : (analysis.firstSet alternative.symbols, index) ∈
        (Source.firstSets ⟨grammar, analysis, generated.tokens⟩ rule).zipIdx :=
      List.mem_zipIdx_iff_getElem?.mpr hset
    obtain ⟨branches, hbranches, hof⟩ := Outcome.exists_mem_right hmade hmem
    obtain ⟨branch, hbranch, hcheck⟩ :=
      (mem_branchesOf hof).2 t ((h.faithful.mem_firstSet_iff hne).mpr hbegins) hne
    exact ⟨branch, List.mem_append_left _ (List.mem_flatten.mpr ⟨branches, hbranches, hbranch⟩), hcheck⟩
  · obtain ⟨last, hlast⟩ := exists_nullableBody? hset (h.faithful.empty_mem_firstSet_iff.mpr hvanishes)
    rcases hmore with ⟨body, -, hof⟩ | ⟨hnone, -⟩
    · obtain ⟨branch, hbranch, hcheck⟩ :=
        (mem_branchesOf hof).2 t (h.faithful.mem_getFollow_iff.mpr hfollows) hfollows.ne_empty
      exact ⟨branch, List.mem_append_right _ hbranch, hcheck⟩
    · cases hlast.symm.trans hnone

/-! ## What is selected -/

/-- A token of which the condition of a branch holds picks the alternative of its body. -/
theorem picks_of_holds (h : Emission grammar analysis generated) (hrule : rule ∈ grammar.rules)
    (hnode : nodeTypeOf ⟨grammar, analysis, generated.tokens⟩ rule = .ok node)
    (hbranch : branch ∈ node.dispatch) (hholds : branch.check.holds token) :
    ∃ alternative, rule.alternatives[branch.body]? = some alternative ∧
      grammar.Picks rule alternative token.terminal := by
  obtain ⟨alternative, t, halt, hpicks, hcheck⟩ := picks_of_mem_dispatch h.faithful hnode hbranch
  obtain rfl := (h.holds_iff hrule (List.mem_of_getElem? halt) hpicks hcheck).mp hholds
  exact ⟨alternative, halt, hpicks⟩

theorem exists_holds (h : Emission grammar analysis generated) (hrule : rule ∈ grammar.rules)
    (hnode : nodeTypeOf ⟨grammar, analysis, generated.tokens⟩ rule = .ok node)
    (halt : alternative ∈ rule.alternatives) (hpicks : grammar.Picks rule alternative token.terminal) :
    ∃ branch ∈ node.dispatch, branch.check.holds token := by
  obtain ⟨branch, hbranch, hcheck⟩ := h.exists_branch hnode halt hpicks
  exact ⟨branch, hbranch, (h.holds_iff hrule halt hpicks hcheck).mpr rfl⟩

/-- **A body is selected exactly when the token ahead picks its alternative.** -/
theorem choice?_eq_some_some_iff (h : Emission grammar analysis generated)
    (hrule : rule ∈ grammar.rules)
    (hnode : nodeTypeOf ⟨grammar, analysis, generated.tokens⟩ rule = .ok node) :
    node.choice? tokens = some (some index) ↔ ∃ token rest alternative, tokens = token :: rest ∧
      rule.alternatives[index]? = some alternative ∧ grammar.Picks rule alternative token.terminal := by
  unfold NodeType.choice?
  constructor
  · intro hchoice
    split at hchoice
    · cases hchoice
    obtain ⟨token, htoken, hfound⟩ := Option.map_eq_some_iff.mp hchoice
    obtain ⟨rest, rfl⟩ := List.head?_eq_some_iff.mp htoken
    obtain ⟨branch, hbranch, rfl⟩ := Option.map_eq_some_iff.mp hfound
    have hholds : branch.check.holds token := by simpa using List.find?_some hbranch
    obtain ⟨alternative, halt, hpicks⟩ :=
      h.picks_of_holds hrule hnode (List.mem_of_find?_eq_some hbranch) hholds
    exact ⟨token, rest, alternative, rfl, halt, hpicks⟩
  · rintro ⟨token, rest, alternative, rfl, halt, hpicks⟩
    obtain ⟨branch, hbranch, hholds⟩ := h.exists_holds hrule hnode (List.mem_of_getElem? halt) hpicks
    rw [if_neg (by simpa using List.ne_nil_of_mem hbranch), List.head?_cons, Option.map_some]
    have hsome : (node.dispatch.find? fun branch => branch.check.holds token).isSome :=
      List.find?_isSome.mpr ⟨branch, hbranch, hholds⟩
    obtain ⟨found, hfound⟩ := Option.isSome_iff_exists.mp hsome
    have hfits : found.check.holds token := by simpa using List.find?_some hfound
    obtain ⟨other, hother, hpicked⟩ :=
      h.picks_of_holds hrule hnode (List.mem_of_find?_eq_some hfound) hfits
    rw [hfound, Option.map_some,
      Grammar.picks_unique h.predictive.deterministic hrule hother halt hpicked hpicks]

/-- **No body is selected exactly when no alternative is picked.** -/
theorem choice?_eq_some_none_iff (h : Emission grammar analysis generated)
    (hrule : rule ∈ grammar.rules)
    (hnode : nodeTypeOf ⟨grammar, analysis, generated.tokens⟩ rule = .ok node) :
    node.choice? tokens = some none ↔ grammar.Declines rule tokens := by
  unfold NodeType.choice?
  constructor
  · intro hchoice
    split at hchoice
    · rename_i hempty
      refine Or.inl fun alternative halt t hpicks => ?_
      obtain ⟨branch, hbranch, -⟩ := h.exists_branch hnode halt hpicks
      rw [List.isEmpty_iff.mp hempty] at hbranch
      cases hbranch
    · obtain ⟨token, htoken, hnone⟩ := Option.map_eq_some_iff.mp hchoice
      obtain ⟨rest, rfl⟩ := List.head?_eq_some_iff.mp htoken
      refine Or.inr ⟨token, rest, rfl, fun alternative halt hpicks => ?_⟩
      obtain ⟨branch, hbranch, hholds⟩ := h.exists_holds hrule hnode halt hpicks
      exact List.find?_eq_none.mp (Option.map_eq_none_iff.mp hnone) branch hbranch hholds
  · intro hdeclines
    split
    · rfl
    rename_i hempty
    rcases hdeclines with hnever | ⟨token, rest, rfl, hnot⟩
    · obtain ⟨branch, hbranch⟩ := List.exists_mem_of_ne_nil _ (by simpa using hempty)
      obtain ⟨alternative, t, halt, hpicks, -⟩ := picks_of_mem_dispatch h.faithful hnode hbranch
      exact absurd hpicks (hnever alternative (List.mem_of_getElem? halt) t)
    · rw [List.head?_cons, Option.map_some, Option.some.injEq, Option.map_eq_none_iff,
        List.find?_eq_none]
      intro branch hbranch hholds
      obtain ⟨alternative, halt, hpicks⟩ := h.picks_of_holds hrule hnode hbranch hholds
      exact hnot alternative (List.mem_of_getElem? halt) hpicks

end Emission

end AttributeGrammar.Synthesis
