import AttributeGrammar.Proofs.Description.Naming

/-!
# What a resolved description refers to

A description is checked for references in vain before the actions are merged into its rules and the exports are
carried along assignments. What was checked still holds behind these steps, and they find all they need.

* `Grammar.Grounded` — everything that a grammar refers to is there.
* `Description.grounded_of_readResolved` — **a resolved description is grounded**.
-/

set_option autoImplicit false

namespace AttributeGrammar

open Description (IsIdentifier)

/-- Everything that a grammar refers to is there: the start symbol, the rules, regex terminals and actions
of all items, and the variables of its rules. A rule has the code of the actions that it calls and no other,
and they have names that are identifiers. -/
structure Grammar.Grounded (grammar : Grammar) : Prop where
  references : grammar.referenceFault? = none
  actions : ∀ rule ∈ grammar.rules, ∀ name, name ∈ rule.actions ↔ name ∈ rule.actionCalls
  names : ∀ rule ∈ grammar.rules, ∀ name ∈ rule.actionCalls, IsIdentifier name
  coherent : ∀ rule ∈ grammar.rules, rule.Coherent

namespace Rule

theorem mem_actionCalls {rule : Rule} {name : String} :
    name ∈ rule.actionCalls ↔ .action name ∈ rule.items := by
  rw [actionCalls, Std.ExtTreeSet.mem_ofList, List.contains_iff_mem, List.mem_filterMap]
  constructor
  · rintro ⟨item, hitem, haction⟩
    cases item with
    | action called =>
      cases haction
      exact hitem
    | _ => cases haction
  · exact fun hitem => ⟨_, hitem, rfl⟩

end Rule

namespace Description

variable {text : String} {read merged grammar : Grammar} {rule : Rule} {name : String}

/-- A rule of a resolved description has the code of exactly the actions that it calls. -/
theorem mem_actions_iff_of_resolve (hread : Description.read text = .ok read)
    (hresolve : read.resolve.1 = .ok grammar) (hrule : rule ∈ grammar.rules) :
    name ∈ rule.actions ↔ name ∈ rule.actionCalls := by
  have hdescribed := described_of_read hread
  obtain ⟨-, merged, hmerged, hpropagates⟩ := Grammar.propagates_of_resolve hresolve
  have hkeyed : grammar.Keyed := by
    rw [Grammar.Keyed, (Grammar.extends_of_resolve hresolve).2.names_eq]
    exact hdescribed.keyed
  have hfound := (Grammar.rule?_eq_some_iff hkeyed).mpr ⟨hrule, rfl⟩
  constructor
  · intro hname
    have hsome : (merged.rule? rule.name).isSome := by rw [← hpropagates.isSome_rule?, hfound]; rfl
    obtain ⟨mid, hmid⟩ := Option.isSome_iff_exists.mp hsome
    obtain ⟨last, hlast, htakes⟩ := hpropagates.rules hmid
    cases hfound.symm.trans hlast
    obtain ⟨old, hold, hadopt⟩ := Grammar.exists_rule?_mergeActions hmerged hmid
    obtain ⟨vs, hgains⟩ := htakes.gains
    have hmade := (hdescribed.rules old (Grammar.mem_of_rule? hold).1).made
    rw [hgains.actions_eq] at hname
    rw [Rule.actionCalls, Rule.items, hgains.alternatives_eq,
      (Rule.extends_adoptActions hadopt).alternatives_eq]
    refine (Rule.mem_actions_adoptActions hadopt name hname).resolve_left fun hold => ?_
    rw [hmade.actions_eq] at hold
    simp at hold
  · intro hname
    have hadopt := Grammar.adoptActions_resolved hmerged hpropagates hfound
    obtain ⟨action, haction, hadopted⟩ :=
      (Rule.adopted_adoptActions hadopt).2 name (Std.ExtTreeSet.mem_toList.mpr hname)
    rw [← show action.name = name by simpa using List.find?_some haction]
    exact hadopted.code

/-- **Everything that a resolved description refers to is there.** -/
theorem grounded_of_readResolved (h : (readResolved text).1 = .ok grammar) : grammar.Grounded := by
  obtain ⟨source, hread, hresolve⟩ := readResolved_eq_ok.mp h
  have hdescribed := described_of_read hread
  have hextends := (Grammar.extends_of_resolve hresolve).2
  refine ⟨Grammar.referenceFault?_of_resolve hresolve,
    fun rule hrule name => mem_actions_iff_of_resolve hread hresolve hrule, fun rule hrule name hname => ?_,
    fun rule hrule => ((built_of_readResolved h).rules rule hrule).coherent⟩
  obtain ⟨old, hold, hsame⟩ := hextends.rules rule hrule
  rw [Rule.mem_actionCalls, Rule.items, hsame.alternatives_eq] at hname
  exact (hdescribed.rules old hold).items _ hname

end Description

end AttributeGrammar
