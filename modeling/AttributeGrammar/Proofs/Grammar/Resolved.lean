import AttributeGrammar.Proofs.Grammar.Lookup
import AttributeGrammar.Proofs.Grammar.WellFormed

/-!
# Resolved grammars

Resolving only adds declarations, exports and code to rules.

* `Grammar.Extends` — what resolving leaves of a grammar: its start symbol and its regex terminals, and the
  names and alternatives of its rules.
* `Grammar.extends_of_resolve` — resolving leaves all that.
* `Grammar.WellFormed.resolve` — so a resolved grammar is well-formed if it was before.
* `Grammar.Closed` — every rule that a grammar refers to is declared.
* `Grammar.closed_of_resolve` — a resolved grammar is closed.
-/

set_option autoImplicit false

namespace AttributeGrammar

/-- The symbol of a regex terminal, unless its name is that of the empty string. -/
theorem Symbol.ofRegexName_of_ne {name : String} (h : name ≠ emptyName) :
    ofRegexName name = .terminal (.regex name) := if_neg h

theorem Symbol.ofRegexName_eq_regex_iff {name other : String} :
    ofRegexName other = .terminal (.regex name) ↔ other = name ∧ name ≠ emptyName := by
  by_cases hempty : other = emptyName
  · simp only [ofRegexName, hempty, if_true]
    simp [eq_comm]
  · rw [ofRegexName_of_ne hempty]
    simp only [Symbol.terminal.injEq, Terminal.regex.injEq]
    exact ⟨fun heq => ⟨heq, heq ▸ hempty⟩, And.left⟩

namespace Grammar

variable {grammar after last : Grammar} {rule changed : Rule}

/-- The grammar `after` has the start symbol, the regex terminals and the rule names of `grammar`, and each
of its rules extends one of `grammar`. -/
structure Extends (grammar after : Grammar) : Prop where
  start_eq : after.start = grammar.start
  regexes_eq : after.regexes = grammar.regexes
  names_eq : after.rules.map Rule.name = grammar.rules.map Rule.name
  rules : ∀ rule ∈ after.rules, ∃ old ∈ grammar.rules, old.Extends rule

theorem Extends.refl (grammar : Grammar) : grammar.Extends grammar :=
  ⟨rfl, rfl, rfl, fun rule hrule => ⟨rule, hrule, Rule.Extends.refl rule⟩⟩

theorem Extends.trans (h : grammar.Extends after) (h' : after.Extends last) : grammar.Extends last := by
  refine ⟨h'.start_eq.trans h.start_eq, h'.regexes_eq.trans h.regexes_eq, h'.names_eq.trans h.names_eq,
    fun rule hrule => ?_⟩
  obtain ⟨mid, hmid, hextends⟩ := h'.rules rule hrule
  obtain ⟨old, hold, hfirst⟩ := h.rules mid hmid
  exact ⟨old, hold, hfirst.trans hextends⟩

theorem WellFormed.extends (hgrammar : grammar.WellFormed) (h : grammar.Extends after) :
    after.WellFormed := by
  refine ⟨fun rule hrule => ?_, h.regexes_eq ▸ hgrammar.regexes⟩
  obtain ⟨old, hold, hextends⟩ := h.rules rule hrule
  exact (hgrammar.rules old hold).extends hextends

/-! ## Steps of resolving -/

theorem extends_replaceRule (hrule : rule ∈ grammar.rules) (h : rule.Extends changed) :
    grammar.Extends (grammar.replaceRule changed) := by
  refine ⟨rfl, rfl, names_replaceRule, fun other hother => ?_⟩
  obtain ⟨old, hold, rfl⟩ := List.mem_map.mp hother
  split
  · exact ⟨rule, hrule, h⟩
  · exact ⟨old, hold, Rule.Extends.refl old⟩

theorem extends_editRule {α : Type} {edit : Rule.Edit α} {a : α} (hrule : rule ∈ grammar.rules)
    (hedit : ∀ {changed}, edit rule = .ok a changed → rule.Extends changed)
    (h : editRule rule edit grammar = .ok a after) : grammar.Extends after := by
  unfold editRule at h
  split at h
  · rename_i heq
    cases h
    exact extends_replaceRule hrule (hedit heq)
  · cases h

/-- Every rule adopts the actions that it calls. -/
theorem mergeActions_eq_ok :
    grammar.mergeActions = .ok after ↔ ∃ rules, after = { grammar with rules } ∧
      List.Forall₂ (fun old rule => Rule.adoptActions grammar old = .ok () rule) grammar.rules rules := by
  have hedited : ∀ old rule : Rule, old.edited (Rule.adoptActions grammar) = .ok rule ↔
      Rule.adoptActions grammar old = .ok () rule := by
    intro old rule
    unfold Rule.edited
    split
    · rename_i heq
      simp [heq]
    · rename_i heq
      simp [heq]
  unfold mergeActions
  rw [Outcome.except_bind_eq_ok]
  simp only [Outcome.mapM_eq_ok, hedited]
  constructor
  · rintro ⟨rules, hrules, h⟩
    cases h
    exact ⟨rules, rfl, hrules⟩
  · rintro ⟨rules, rfl, hrules⟩
    exact ⟨rules, hrules, rfl⟩

theorem extends_mergeActions (h : grammar.mergeActions = .ok after) : grammar.Extends after := by
  obtain ⟨rules, rfl, hrules⟩ := mergeActions_eq_ok.mp h
  have hextends : List.Forall₂ Rule.Extends grammar.rules rules :=
    hrules.imp fun old rule => Rule.extends_adoptActions
  refine ⟨rfl, rfl, ?_, fun rule hrule => Outcome.exists_mem_left hextends hrule⟩
  have hnames : List.Forall₂ (fun old rule => rule.name = old.name) grammar.rules rules :=
    hextends.imp fun _ _ hrule => hrule.name_eq
  rw [← List.forall₂_eq_eq_eq, List.forall₂_map_left_iff, List.forall₂_map_right_iff]
  exact hnames.flip

end Grammar

namespace Resolution

variable {state after : Resolution} {name : String}

theorem source_eq_ok {rule : Rule} (h : source name state = .ok rule after) :
    after = state ∧ rule ∈ state.grammar.rules := by
  obtain ⟨_, _, hget, h⟩ := Outcome.bind_eq_ok.mp h
  cases hget
  rcases hrule : state.grammar.rule? name with _ | found
  · simp only [hrule] at h
    cases h
  · simp only [hrule] at h
    cases h
    exact ⟨rfl, List.mem_of_find?_eq_some hrule⟩

/-! ### What declaring exports does to a grammar, carrying over does -/

section Carried

variable (relates : Grammar → Grammar → Prop) (hrefl : ∀ grammar, relates grammar grammar)
  (htrans : ∀ {a b c}, relates a b → relates b c → relates a c)
  (hexport : ∀ {grammar after : Grammar} {rule : Rule} {v : Variable} {isNew : Bool},
    rule ∈ grammar.rules →
    Grammar.editRule rule (Rule.declareExport v.type v.name) grammar = .ok isNew after →
    relates grammar after)

include hexport

theorem relates_reexport {v : Variable} (h : reexport name v state = .ok () after) :
    relates state.grammar after.grammar := by
  obtain ⟨rule, state, hsource, hrest⟩ := Outcome.bind_eq_ok.mp h
  obtain ⟨rfl, hrule⟩ := source_eq_ok hsource
  obtain ⟨isNew, mid, hedit, hlast⟩ := Outcome.bind_eq_ok.mp hrest
  have hmid : relates state.grammar mid.grammar := by
    unfold Resolution.editRule at hedit
    split at hedit
    · rename_i heq
      cases hedit
      exact hexport hrule heq
    · cases hedit
  cases isNew with
  | false =>
    cases hlast
    exact hmid
  | true =>
    cases hlast
    exact hmid

include hrefl htrans

theorem relates_exportsOf {depth : Nat} {stack : List String} {exports : List Variable}
    (h : exportsOf depth stack name state = .ok exports after) : relates state.grammar after.grammar := by
  induction depth generalizing stack name state exports after with
  | zero =>
    cases h
    exact hrefl _
  | succ depth ih =>
    obtain ⟨_, _, hget, h⟩ := Outcome.bind_eq_ok.mp h
    cases hget
    rcases hdone : state.done.lookup name with _ | found
    swap
    · simp only [hdone] at h
      cases h
      exact hrefl _
    simp only [hdone] at h
    obtain ⟨rule, state, hsource, hrule⟩ := Outcome.bind_eq_ok.mp h
    obtain ⟨rfl, -⟩ := source_eq_ok hsource
    by_cases hstack : name ∈ stack
    · simp only [hstack, if_true] at hrule
      cases hrule
      exact hrefl _
    simp only [hstack, if_false] at hrule
    obtain ⟨carried, s, hcarried, hbehind⟩ := Outcome.bind_eq_ok.mp hrule
    obtain ⟨_, t, hreexport, hlast⟩ := Outcome.bind_eq_ok.mp hbehind
    have hs : relates state.grammar s.grammar := by
      refine Outcome.mapM_keeps (fun s : Resolution => relates state.grammar s.grammar)
        (fun assign _ s' after' b hs' hstep => ?_) (hrefl _) hcarried
      obtain ⟨exports, _, hexports, hpure⟩ := Outcome.bind_eq_ok.mp hstep
      cases hpure
      exact htrans hs' (ih hexports)
    have ht : relates state.grammar t.grammar :=
      Outcome.forM_keeps (fun s : Resolution => relates state.grammar s.grammar)
        (fun v _ s' after' hs' hstep => htrans hs' (relates_reexport relates hexport hstep)) hs hreexport
    obtain ⟨_, _, hagain, hdone⟩ := Outcome.bind_eq_ok.mp hlast
    obtain ⟨rfl, -⟩ := source_eq_ok hagain
    cases hdone
    exact ht

theorem relates_of_resolve {grammar after : Grammar} (h : grammar.resolve.1 = .ok after) :
    grammar.referenceFault? = none ∧ ∃ merged, grammar.mergeActions = .ok merged ∧ relates merged after := by
  unfold Grammar.resolve at h
  split at h
  · cases h
  · rename_i hreferences
    split at h
    · cases h
    · rename_i merged hmerged
      split at h
      · rename_i state hpropagate
        cases h
        obtain ⟨_, _, hget, hnames⟩ := Outcome.bind_eq_ok.mp hpropagate
        cases hget
        refine ⟨hreferences, merged, hmerged, ?_⟩
        refine Outcome.forM_relates (fun s s' : Resolution => relates s.grammar s'.grammar)
          (fun s => hrefl _) htrans (fun name _ s s' hstep => ?_) hnames
        obtain ⟨_, hexports⟩ := Outcome.discard_eq_ok.mp hstep
        exact relates_exportsOf relates hrefl htrans hexport hexports
      · cases h

end Carried

end Resolution

namespace Grammar

variable {grammar after : Grammar} {rule : Rule} {name : String}

/-- **Resolving a grammar without a reference in vain only adds to its rules.** -/
theorem extends_of_resolve (h : grammar.resolve.1 = .ok after) :
    grammar.referenceFault? = none ∧ grammar.Extends after := by
  obtain ⟨hreferences, merged, hmerged, hextends⟩ := Resolution.relates_of_resolve Extends
    Extends.refl Extends.trans (fun hrule => extends_editRule hrule Rule.extends_declareExport) h
  exact ⟨hreferences, (extends_mergeActions hmerged).trans hextends⟩

/-- **Resolving a well-formed grammar leaves a well-formed one.** -/
theorem WellFormed.resolve (hgrammar : grammar.WellFormed) (h : grammar.resolve.1 = .ok after) :
    after.WellFormed :=
  hgrammar.extends (extends_of_resolve h).2

/-! ## References -/

/-- A rule of the name is declared. -/
def Declares (grammar : Grammar) (name : String) : Prop := name ∈ grammar.rules.map Rule.name

/-- The start symbol and every rule that an alternative refers to are declared. -/
structure Closed (grammar : Grammar) : Prop where
  start : grammar.Declares grammar.start
  references : ∀ rule ∈ grammar.rules, ∀ alternative ∈ rule.alternatives, ∀ name,
    .nonTerminal name ∈ alternative.symbols → grammar.Declares name

theorem declares_of_isSome (h : (grammar.rule? name).isSome) : grammar.Declares name := by
  obtain ⟨rule, hrule⟩ := Option.isSome_iff_exists.mp h
  have hname : rule.name = name := by simpa using List.find?_some hrule
  exact List.mem_map.mpr ⟨rule, List.mem_of_find?_eq_some hrule, hname⟩

/-- An item that refers to a rule is faultless only if this is declared. -/
theorem declares_of_itemFault? {item : Item} (hitem : item.symbol? = some (.nonTerminal name))
    (h : grammar.itemFault? rule.name item = none) : grammar.Declares name := by
  cases item with
  | rule target | assignRule _ target =>
    cases hitem
    simp only [itemFault?] at h
    split at h
    · exact declares_of_isSome ‹_›
    · cases h
  | regex other | assignRegex _ other =>
    simp only [Item.symbol?, Symbol.ofRegexName, Option.some.injEq] at hitem
    split at hitem <;> cases hitem
  | text | assignText | action => cases hitem

/-- An item that asks for a regex terminal is faultless only if this is declared. -/
theorem hasRegex_of_itemFault? {item : Item} (hitem : item.symbol? = some (.terminal (.regex name)))
    (h : grammar.itemFault? rule.name item = none) : grammar.hasRegex name := by
  cases item with
  | regex other | assignRegex _ other =>
    obtain ⟨rfl, hne⟩ := Symbol.ofRegexName_eq_regex_iff.mp (Option.some.inj hitem)
    simpa [itemFault?, hne] using h
  | text | assignText | rule | assignRule | action => cases hitem

theorem referenceFault?_eq_none_iff :
    grammar.referenceFault? = none ↔ (grammar.rule? grammar.start).isSome ∧
      ∀ rule ∈ grammar.rules, ∀ item ∈ rule.items, grammar.itemFault? rule.name item = none := by
  unfold referenceFault?
  split
  · rename_i hstart
    simp [Option.isNone_iff_eq_none.mp hstart]
  · rename_i hstart
    rw [Bool.not_eq_true, Option.isNone_eq_false_iff] at hstart
    simp only [hstart, true_and, List.findSome?_eq_none_iff]

/-- Only whether names are declared decides about faults. -/
theorem itemFault?_congr (hrules : ∀ name, (after.rule? name).isSome = (grammar.rule? name).isSome)
    (hregexes : after.regexes = grammar.regexes) (hactions : after.actions = grammar.actions) :
    after.itemFault? = grammar.itemFault? := by
  funext rule item
  have haction : ∀ name, after.action? name = grammar.action? name :=
    fun name => by rw [action?, hactions, action?]
  have hregex : ∀ name, after.hasRegex name = grammar.hasRegex name := fun name => by
    rw [hasRegex, hregexes, hasRegex]
  cases item <;> simp only [itemFault?, hrules, hregex, haction]

theorem closed_of_referenceFault? (h : grammar.referenceFault? = none) : grammar.Closed := by
  obtain ⟨hstart, hitems⟩ := referenceFault?_eq_none_iff.mp h
  refine ⟨declares_of_isSome hstart, fun rule hrule alternative halt name hname => ?_⟩
  obtain ⟨item, hitem, hsymbol⟩ := List.mem_filterMap.mp hname
  exact declares_of_itemFault? hsymbol
    (hitems rule hrule item (List.mem_flatMap.mpr ⟨alternative, halt, hitem⟩))

theorem Extends.closed (h : grammar.Extends after) (hclosed : grammar.Closed) : after.Closed := by
  have hdeclares : ∀ name, grammar.Declares name → after.Declares name := by
    intro name hname
    rwa [Declares, h.names_eq]
  refine ⟨h.start_eq ▸ hdeclares _ hclosed.start, fun rule hrule alternative halt name hname => ?_⟩
  obtain ⟨old, hold, hextends⟩ := h.rules rule hrule
  rw [hextends.alternatives_eq] at halt
  exact hdeclares name (hclosed.references old hold alternative halt name hname)

/-- **In a resolved grammar every rule that is referred to is declared.** -/
theorem closed_of_resolve (h : grammar.resolve.1 = .ok after) : after.Closed := by
  obtain ⟨hreferences, hextends⟩ := extends_of_resolve h
  exact hextends.closed (closed_of_referenceFault? hreferences)

end Grammar

end AttributeGrammar
