import AttributeGrammar.Proofs.Grammar.Traversal

/-!
# How exports are carried along assignments

* `Grammar.propagates_of_resolve` — every rule of a resolved grammar has taken over what its assignments carry.
* `Grammar.exists_propagate` — without cycles carrying over succeeds whenever there is something to leave.
* `Grammar.CarriesExports`, `Grammar.carriesExports_of_resolve` — which exports a resolved grammar has. Without
  cycles the order of the rules has no part in it, and resolving again changes nothing.
-/

set_option autoImplicit false

namespace AttributeGrammar

open Relation (TransGen)

/-! ## Resolved grammars -/

namespace Grammar

variable {grammar merged after last other : Grammar} {rule old : Rule} {name target : String}

/-- Every rule of `after` is that of `merged` with the exports that its assignments carry over. -/
structure Propagates (merged after : Grammar) : Prop extends merged.Framed after where
  rules : ∀ {name old}, merged.rule? name = some old → ∃ rule, after.rule? name = some rule ∧
    old.TakesOver (fun target exports => exports = after.exportsOf target ∨
      TransGen merged.AssignsFrom target name ∧ exports = merged.exportsOf target) rule

theorem propagates_of_propagate {state : Resolution} (h : propagate ⟨merged, [], []⟩ = .ok () state) :
    Propagates merged state.grammar := by
  obtain ⟨_, _, hget, hnames⟩ := Outcome.bind_eq_ok.mp h
  cases hget
  obtain ⟨hsound, -, hdone⟩ := Outcome.forM_establishes (Resolution.Sound merged) Resolution.Grows
    Resolution.Grows.refl Resolution.Grows.trans
    (fun name s => ∃ exports, s.done.lookup name = some exports)
    (fun hgrows ⟨exports, hdone⟩ => ⟨exports, hgrows _ _ hdone⟩)
    (fun name _ s s' hs hstep => by
      obtain ⟨exports, hexports⟩ := Outcome.discard_eq_ok.mp hstep
      obtain ⟨⟨hs', -⟩, hgrows, hdone⟩ := Resolution.sound_exportsOf hs (by simp)
        (Resolution.stacked_nil merged name) (by simp) hexports
      exact ⟨hs', hgrows, exports, hdone.resolve_right (by simp)⟩)
    (Resolution.sound_start merged) hnames
  refine ⟨hsound.framed, fun {name old} hold => ?_⟩
  obtain ⟨exports, hfinished⟩ := hdone name (isSome_rule?_iff.mp (by rw [hold]; rfl))
  obtain ⟨old', rule, hold', hrule, -, htakes⟩ := hsound.finished hfinished
  cases hold.symm.trans hold'
  refine ⟨rule, hrule, htakes.imp fun _ hsees => hsees.imp (fun hlookup => ?_) id⟩
  obtain ⟨_, final, -, hfinal, rfl, -⟩ := hsound.finished hlookup
  exact (exportsOf_eq hfinal).symm

/-- **In a resolved grammar every rule has taken over what its assignments carry.** -/
theorem propagates_of_resolve (h : grammar.resolve.1 = .ok after) :
    grammar.referenceFault? = none ∧ ∃ merged, grammar.mergeActions = .ok merged ∧
      Propagates merged after := by
  unfold resolve at h
  split at h
  · cases h
  · rename_i hreferences
    split at h
    · cases h
    · rename_i merged hmerged
      split at h
      · rename_i state hpropagate
        cases h
        exact ⟨hreferences, merged, hmerged, propagates_of_propagate hpropagate⟩
      · cases h

theorem resolve_eq_ok {state : Resolution} (hreferences : grammar.referenceFault? = none)
    (hmerged : grammar.mergeActions = .ok merged) (h : propagate ⟨merged, [], []⟩ = .ok () state) :
    grammar.resolve.1 = .ok state.grammar := by
  simp only [resolve, hreferences, hmerged, h]

/-- Without cycles every rule sees the exports that a rule has in the end. -/
theorem Propagates.settles (h : Propagates merged after)
    (hacyclic : ∀ name, ¬ TransGen merged.AssignsFrom name name) : Resolution.Settles merged after := by
  intro name old hold
  obtain ⟨rule, hrule, htakes⟩ := h.rules hold
  refine ⟨rule, hrule, htakes.imp fun {var target exports} hassign hsees => hsees.resolve_right ?_⟩
  rintro ⟨hback, -⟩
  exact hacyclic target (hback.tail ⟨old, hold, var, hassign⟩)

/-- **Without cycles exports are carried over as soon as there are rules that could be left**, and those are. -/
theorem exists_propagate (hsettles : Resolution.Settles merged last)
    (hclosed : ∀ {name target}, merged.AssignsFrom name target → (merged.rule? target).isSome)
    (hacyclic : ∀ name, ¬ TransGen merged.AssignsFrom name name) :
    ∃ state, propagate ⟨merged, [], []⟩ = .ok () state ∧ merged.Framed state.grammar ∧
      ∀ name, (merged.rule? name).isSome → state.grammar.rule? name = last.rule? name := by
  have hstep : ∀ name ∈ merged.rules.map Rule.name, ∀ {s : Resolution}, Resolution.Agrees merged last s →
      ∃ s', discard (Resolution.exportsOf ((merged.rules.map Rule.name).length + 1) [] name) s = .ok () s' ∧
        Resolution.Agrees merged last s' ∧ s.Grows s' ∧ (s'.done.lookup name).isSome := by
    intro name hname s hs
    have hdepth : (merged.rules.map Rule.name).length + 1 + ([] : List String).length =
        merged.rules.length + 1 := by
      simp
    obtain ⟨s', hexports, ⟨hs', -⟩, hdone, hgrows⟩ := Resolution.exists_exportsOf hsettles hclosed hacyclic hs
      hdepth (Resolution.stacked_nil merged name) (by simp) (isSome_rule?_iff.mpr hname)
    exact ⟨s', Outcome.discard_eq_ok.mpr ⟨_, hexports⟩, hs', hgrows, hdone⟩
  obtain ⟨state, hrun, -⟩ := Outcome.exists_forM (Resolution.Agrees merged last)
    (fun name hname s hs => by
      obtain ⟨s', hok, hs', -⟩ := hstep name hname hs
      exact ⟨s', hok, hs'⟩)
    (Resolution.agrees_start merged last)
  obtain ⟨hagrees, -, hdone⟩ := Outcome.forM_establishes (Resolution.Agrees merged last) Resolution.Grows
    Resolution.Grows.refl Resolution.Grows.trans (fun name s => (s.done.lookup name).isSome)
    (fun hgrows hdone => by
      obtain ⟨exports, hexports⟩ := Option.isSome_iff_exists.mp hdone
      rw [hgrows _ _ hexports]
      rfl)
    (fun name hname s s' hs hok => by
      obtain ⟨s'', hok', hkeeps⟩ := hstep name hname hs
      cases hok.symm.trans hok'
      exact hkeeps)
    (Resolution.agrees_start merged last) hrun
  refine ⟨state, Outcome.bind_eq_ok.mpr ⟨_, _, rfl, hrun⟩, hagrees.framed, fun name hname => ?_⟩
  obtain ⟨exports, hexports⟩ := Option.isSome_iff_exists.mp (hdone name (isSome_rule?_iff.mp hname))
  exact (hagrees.finished hexports).1

/-! ## What a merge of actions leaves -/

theorem framed_mergeActions (h : grammar.mergeActions = .ok merged) : grammar.Framed merged := by
  obtain ⟨hstart, hregexes, hnames, -⟩ := extends_mergeActions h
  obtain ⟨rules, rfl, -⟩ := mergeActions_eq_ok.mp h
  exact ⟨hstart, hregexes, rfl, hnames⟩

/-- A rule that is found after the merge has adopted the actions that the rule of its name calls. -/
theorem rule?_mergeActions (h : grammar.mergeActions = .ok merged) (name : String) :
    Option.Rel (fun old rule => Rule.adoptActions grammar old = .ok () rule) (grammar.rule? name)
      (merged.rule? name) := by
  obtain ⟨rules, rfl, hrules⟩ := mergeActions_eq_ok.mp h
  exact rule?_of_forall₂ (fun hadopt => (Rule.adopted_adoptActions hadopt).1.name_eq) hrules

theorem exists_rule?_mergeActions (h : grammar.mergeActions = .ok merged)
    (hrule : merged.rule? name = some rule) :
    ∃ old, grammar.rule? name = some old ∧ Rule.adoptActions grammar old = .ok () rule := by
  have hrel := rule?_mergeActions h name
  rw [hrule] at hrel
  cases hfound : grammar.rule? name with
  | none =>
    rw [hfound] at hrel
    cases hrel
  | some old =>
    rw [hfound] at hrel
    cases hrel with
    | some hadopt => exact ⟨old, rfl, hadopt⟩

theorem assigns_eq_of_alternatives_eq {rule old : Rule} (h : rule.alternatives = old.alternatives) :
    rule.assigns = old.assigns := by
  rw [Rule.assigns, Rule.items, h]
  rfl

/-- Assignments are those of before where the rules that are found have the alternatives of before. -/
theorem assignsFrom_eq {relates : Rule → Rule → Prop}
    (halternatives : ∀ {old rule}, relates old rule → rule.alternatives = old.alternatives)
    (h : ∀ name, Option.Rel relates (grammar.rule? name) (after.rule? name)) :
    after.AssignsFrom = grammar.AssignsFrom := by
  funext name target
  have hname := h name
  unfold AssignsFrom
  generalize grammar.rule? name = old? at hname ⊢
  generalize after.rule? name = rule? at hname ⊢
  cases hname with
  | none => rfl
  | some hrelates => simp [assigns_eq_of_alternatives_eq (halternatives hrelates)]

theorem assignsFrom_mergeActions (h : grammar.mergeActions = .ok merged) :
    merged.AssignsFrom = grammar.AssignsFrom :=
  assignsFrom_eq (fun hadopt => (Rule.adopted_adoptActions hadopt).1.alternatives_eq) (rule?_mergeActions h)

/-- What is found behind carrying over belongs to what was found before. -/
theorem Propagates.rule?_rel (h : Propagates merged after) (name : String) :
    Option.Rel (fun old rule : Rule => ∃ vs, old.Gains vs rule) (merged.rule? name) (after.rule? name) := by
  cases hold : merged.rule? name with
  | none =>
    rw [h.toFramed.rule?_eq_none hold]
    exact .none
  | some old =>
    obtain ⟨rule, hrule, htakes⟩ := h.rules hold
    rw [hrule]
    exact .some htakes.gains

theorem Propagates.assignsFrom_eq (h : Propagates merged after) : after.AssignsFrom = merged.AssignsFrom :=
  Grammar.assignsFrom_eq (fun ⟨_, hgains⟩ => hgains.alternatives_eq) h.rule?_rel

/-! ## Resolving again, and in another order -/

theorem assigns_iff_mem_items {var : String} :
    (var, target) ∈ rule.assigns ↔ .assignRule var target ∈ rule.items := by
  rw [Rule.assigns, List.mem_filterMap]
  constructor
  · rintro ⟨item, hitem, hassign⟩
    cases item <;> cases hassign
    exact hitem
  · exact fun hitem => ⟨_, hitem, rfl⟩

theorem isSome_rule?_of_assignsFrom (hreferences : grammar.referenceFault? = none)
    (h : grammar.AssignsFrom name target) : (grammar.rule? target).isSome := by
  obtain ⟨rule, hrule, var, hassign⟩ := h
  have hfault := (referenceFault?_eq_none_iff.mp hreferences).2 rule (mem_of_rule? hrule).1 _
    (assigns_iff_mem_items.mp hassign)
  simp only [itemFault?] at hfault
  split at hfault
  · assumption
  · cases hfault

/-- References are checked in the same way where the same is declared and the rules have the same items. -/
theorem referenceFault?_eq_none_of (h : grammar.referenceFault? = none) (hstart : after.start = grammar.start)
    (hdeclared : ∀ name, (after.rule? name).isSome = (grammar.rule? name).isSome)
    (hregexes : after.regexes = grammar.regexes) (hactions : after.actions = grammar.actions)
    (hrules : ∀ rule ∈ after.rules, ∃ old ∈ grammar.rules, rule.name = old.name ∧
      rule.alternatives = old.alternatives) : after.referenceFault? = none := by
  obtain ⟨hfound, hitems⟩ := referenceFault?_eq_none_iff.mp h
  refine referenceFault?_eq_none_iff.mpr ⟨by rw [hstart, hdeclared, hfound], fun rule hrule item hitem => ?_⟩
  obtain ⟨old, hold, hname, halternatives⟩ := hrules rule hrule
  rw [itemFault?_congr hdeclared hregexes hactions, hname]
  refine hitems old hold item ?_
  rwa [Rule.items, ← halternatives]

/-- Without cycles, rules that could be left are what resolving leaves, from any grammar in which the merge of
actions leaves the same to be found. -/
theorem exists_resolve_of_settles {other made : Grammar} (hreferences : other.referenceFault? = none)
    (hmade : other.mergeActions = .ok made) (hsettles : Resolution.Settles made last)
    (hundeclared : ∀ {name}, made.rule? name = none → last.rule? name = none)
    (hacyclic : ∀ name, ¬ TransGen other.AssignsFrom name name) :
    ∃ result, other.resolve.1 = .ok result ∧ made.Framed result ∧
      ∀ name, result.rule? name = last.rule? name := by
  rw [← assignsFrom_mergeActions hmade] at hacyclic
  have hclosed : ∀ {name target}, made.AssignsFrom name target → (made.rule? target).isSome := by
    intro name target hassign
    rw [assignsFrom_mergeActions hmade] at hassign
    rw [(framed_mergeActions hmade).isSome_rule?]
    exact isSome_rule?_of_assignsFrom hreferences hassign
  obtain ⟨state, hrun, hresult, hrules⟩ := exists_propagate hsettles hclosed hacyclic
  refine ⟨state.grammar, resolve_eq_ok hreferences hmade hrun, hresult, fun name => ?_⟩
  cases hname : made.rule? name with
  | none => rw [hresult.rule?_eq_none hname, hundeclared hname]
  | some rule => exact hrules name (by rw [hname]; rfl)

/-- **Without cycles the order of the rules has no part in what resolving leaves.** -/
theorem exists_resolve_of_perm (hkeyed : grammar.Keyed)
    (hacyclic : ∀ name, ¬ TransGen grammar.AssignsFrom name name) (h : grammar.resolve.1 = .ok after)
    {rules : List Rule} (hperm : rules.Perm grammar.rules) :
    ∃ other, ({ grammar with rules } : Grammar).resolve.1 = .ok other ∧
      ∀ name, other.rule? name = after.rule? name := by
  obtain ⟨hreferences, merged, hmerged, hpropagates⟩ := propagates_of_resolve h
  obtain ⟨made, rfl, hmade⟩ := mergeActions_eq_ok.mp hmerged
  obtain ⟨made', hmade', hperm'⟩ := List.perm_comp_forall₂ hperm hmade
  have hrule? : ∀ name, ({ grammar with rules } : Grammar).rule? name = grammar.rule? name := fun name =>
    rule?_of_perm hkeyed hperm
  have hassigns : ({ grammar with rules } : Grammar).AssignsFrom = grammar.AssignsFrom := by
    funext name target
    simp only [AssignsFrom, hrule?]
  have hfound : ∀ name, ({ grammar with rules := made' } : Grammar).rule? name =
      ({ grammar with rules := made } : Grammar).rule? name := by
    refine fun name => rule?_of_perm ?_ hperm'
    rw [Keyed, (framed_mergeActions hmerged).names_eq]
    exact hkeyed
  have hreferences' : ({ grammar with rules } : Grammar).referenceFault? = none :=
    referenceFault?_eq_none_of hreferences rfl (fun name => by rw [hrule?]) rfl rfl
      fun rule hrule => ⟨rule, hperm.mem_iff.mp hrule, rfl, rfl⟩
  have hmerged' : ({ grammar with rules } : Grammar).mergeActions = .ok { grammar with rules := made' } :=
    mergeActions_eq_ok.mpr ⟨made', rfl, hmade'⟩
  have hsettles : Resolution.Settles { grammar with rules := made' } after := fun name old hold =>
    hpropagates.settles (assignsFrom_mergeActions hmerged ▸ hacyclic) name old (hfound name ▸ hold)
  obtain ⟨other, hother, -, hsame⟩ := exists_resolve_of_settles hreferences' hmerged' hsettles
    (fun {name} hname => hpropagates.rule?_eq_none (hfound name ▸ hname)) (hassigns ▸ hacyclic)
  exact ⟨other, hother, hsame⟩

/-- A rule of a resolved grammar has adopted the actions that it calls. -/
theorem adoptActions_resolved (hmerged : grammar.mergeActions = .ok merged) (h : Propagates merged after)
    (hrule : after.rule? name = some rule) : Rule.adoptActions after rule = .ok () rule := by
  have hsome : (merged.rule? name).isSome := by rw [← h.isSome_rule?, hrule]; rfl
  obtain ⟨mid, hmid⟩ := Option.isSome_iff_exists.mp hsome
  obtain ⟨found, hfound, htakes⟩ := h.rules hmid
  cases hrule.symm.trans hfound
  obtain ⟨old, -, hadopt⟩ := exists_rule?_mergeActions hmerged hmid
  obtain ⟨vs, hgains⟩ := htakes.gains
  refine Rule.adoptActions_eq_self fun action haction => ?_
  rw [Rule.actionCalls, Rule.items, hgains.alternatives_eq] at haction
  obtain ⟨code, hcode, hadopted⟩ := (Rule.adopted_adoptActions hadopt).2 action haction
  refine ⟨code, ?_, hgains.grows.adopted hadopted⟩
  rw [action?, h.actions_eq, (framed_mergeActions hmerged).actions_eq]
  exact hcode

/-- **A resolved grammar refers to nothing in vain**, as the one that it was resolved from. -/
theorem referenceFault?_of_resolve (h : grammar.resolve.1 = .ok after) : after.referenceFault? = none := by
  obtain ⟨hreferences, merged, hmerged, hpropagates⟩ := propagates_of_resolve h
  have hframed := (framed_mergeActions hmerged).trans hpropagates.toFramed
  refine referenceFault?_eq_none_of hreferences hframed.start_eq (fun name => hframed.isSome_rule?)
    hframed.regexes_eq hframed.actions_eq fun rule hrule => ?_
  obtain ⟨old, hold, hextends⟩ := (extends_of_resolve h).2.rules rule hrule
  exact ⟨old, hold, hextends.name_eq, hextends.alternatives_eq⟩

/-- **Without cycles resolving again changes nothing.** -/
theorem resolve_resolved (hkeyed : grammar.Keyed)
    (hacyclic : ∀ name, ¬ TransGen grammar.AssignsFrom name name) (h : grammar.resolve.1 = .ok after) :
    after.resolve.1 = .ok after := by
  obtain ⟨-, merged, hmerged, hpropagates⟩ := propagates_of_resolve h
  have hframed := (framed_mergeActions hmerged).trans hpropagates.toFramed
  have hafter : after.Keyed := by
    rw [Keyed, hframed.names_eq]
    exact hkeyed
  rw [← assignsFrom_mergeActions hmerged] at hacyclic
  have hsettles := hpropagates.settles hacyclic
  -- The merge of actions finds all that it declares in place, and so does carrying over.
  have hagain : after.mergeActions = .ok after := by
    refine mergeActions_eq_ok.mpr ⟨after.rules, rfl, List.forall₂_same.mpr fun rule hrule => ?_⟩
    exact adoptActions_resolved hmerged hpropagates ((rule?_eq_some_iff hafter).mpr ⟨hrule, rfl⟩)
  have hself : Resolution.Settles after after := by
    intro name rule hrule
    have hsome : (merged.rule? name).isSome := by rw [← hpropagates.isSome_rule?, hrule]; rfl
    obtain ⟨old, hold⟩ := Option.isSome_iff_exists.mp hsome
    obtain ⟨found, hfound, htakes⟩ := hsettles name old hold
    cases hrule.symm.trans hfound
    refine ⟨rule, hrule, Rule.takesOver_eq_iff.mpr (Rule.exportAll_eq_self fun v hv => ?_)⟩
    obtain ⟨vs, hvs, hv⟩ := List.mem_flatten.mp hv
    obtain ⟨⟨var, target⟩, hassign, rfl⟩ := List.mem_map.mp hvs
    obtain ⟨w, hw, rfl⟩ := List.mem_map.mp hv
    obtain ⟨vs, hgains⟩ := htakes.gains
    rw [assigns_eq_of_alternatives_eq hgains.alternatives_eq] at hassign
    obtain ⟨_, rfl, hexports⟩ := htakes.exports hassign
    exact hexports w hw
  obtain ⟨result, hresult, hsame, hrules⟩ :=
    exists_resolve_of_settles (referenceFault?_of_resolve h) hagain hself
    (fun hnone => hnone)
    (by rw [hpropagates.assignsFrom_eq]; exact hacyclic)
  rw [hresult]
  have hgrammar : result.rules = after.rules := rules_eq hafter hsame.names_eq hrules
  obtain ⟨start, rules, regexes, actions⟩ := result
  obtain ⟨hstart, hregexes, hactions, -⟩ := hsame
  cases after
  simp only at hgrammar hstart hregexes hactions
  subst hgrammar hstart hregexes hactions
  rfl

/-! ## The exports of a resolved grammar -/

/-- The rule of the name exports a variable of that name, with that type up to white space. -/
def Exports (grammar : Grammar) (name : String) (v : Variable) : Prop :=
  ∃ w ∈ grammar.exportsOf name, w.name = v.name ∧ sameType w.type v.type

/-- No assignments lead from a rule back to it. -/
def AssignsAcyclic (grammar : Grammar) : Prop := ∀ name, ¬ TransGen grammar.AssignsFrom name name

/-- Which exports the resolved grammar `after` has, where in `merged` the rules have those of their own and
of the actions that they call. -/
structure CarriesExports (grammar merged after : Grammar) : Prop where
  /-- An assignment carries over the exports that its rule has at first. -/
  first : ∀ rule ∈ grammar.rules, ∀ var target, .assignRule var target ∈ rule.items →
    ∀ v ∈ merged.exportsOf target, after.Exports rule.name (Resolution.derived var v)
  /-- An assignment from which none leads back carries over the exports that its rule has in the end. -/
  final : ∀ rule ∈ grammar.rules, ∀ var target, .assignRule var target ∈ rule.items →
    ¬ TransGen grammar.AssignsFrom target rule.name →
    ∀ v ∈ after.exportsOf target, after.Exports rule.name (Resolution.derived var v)
  /-- There are no other exports. -/
  origin : ∀ rule ∈ grammar.rules, ∀ v ∈ after.exportsOf rule.name, v ∈ merged.exportsOf rule.name ∨
    ∃ var target, .assignRule var target ∈ rule.items ∧ ∃ w ∈ after.exportsOf target,
      v.name = (Resolution.derived var w).name ∧ sameType v.type w.type
  /-- Without cycles the order of the rules has no part in it. -/
  order : grammar.AssignsAcyclic → ∀ rules : List Rule, rules.Perm grammar.rules →
    ∃ other, ({ grammar with rules } : Grammar).resolve.1 = .ok other ∧
      ∀ name, other.exportsOf name = after.exportsOf name
  /-- Without cycles resolving again changes nothing. -/
  again : grammar.AssignsAcyclic → after.resolve.1 = .ok after

theorem exports_of_rule_exports {v : Variable} (hrule : grammar.rule? name = some rule) (h : rule.Exports v) :
    grammar.Exports name v := by
  rw [Exports, exportsOf_eq hrule]
  exact Rule.exports_iff.mp h

/-- The rule that a rule of the grammar becomes. -/
theorem Propagates.exists_rule (hkeyed : grammar.Keyed) (hmerged : grammar.mergeActions = .ok merged)
    (h : Propagates merged after) (hrule : rule ∈ grammar.rules) : ∃ mid last,
      merged.rule? rule.name = some mid ∧ after.rule? rule.name = some last ∧
      (∀ {var target}, (var, target) ∈ mid.assigns ↔ .assignRule var target ∈ rule.items) ∧
      mid.TakesOver (fun target exports => exports = after.exportsOf target ∨
        TransGen grammar.AssignsFrom target rule.name ∧ exports = merged.exportsOf target) last := by
  have hfound : grammar.rule? rule.name = some rule := (rule?_eq_some_iff hkeyed).mpr ⟨hrule, rfl⟩
  have hrel := rule?_mergeActions hmerged rule.name
  rw [hfound] at hrel
  generalize hmid : merged.rule? rule.name = found at hrel
  cases hrel with
  | some hadopt =>
    obtain ⟨last, hlast, htakes⟩ := h.rules hmid
    rw [assignsFrom_mergeActions hmerged] at htakes
    refine ⟨_, last, rfl, hlast, fun {var target} => ?_, htakes⟩
    rw [assigns_iff_mem_items, Rule.items, Rule.items, (Rule.adopted_adoptActions hadopt).1.alternatives_eq]

/-- Exports that a rule has at first it has in the end. -/
theorem Propagates.mem_exportsOf (h : Propagates merged after) {v : Variable}
    (hv : v ∈ merged.exportsOf name) : v ∈ after.exportsOf name := by
  have hrel := h.rule?_rel name
  unfold exportsOf at hv ⊢
  generalize merged.rule? name = old? at hrel hv
  generalize after.rule? name = rule? at hrel ⊢
  cases hrel with
  | none => exact hv
  | some hgains =>
    obtain ⟨vs, hgains⟩ := hgains
    exact hgains.mem_exportedVars hv

/-- An assignment gives its rule, under the derived names, the exports that the other rule has at first, and
those that it has in the end unless this leads back to the rule. -/
theorem Propagates.exports_derived (hkeyed : grammar.Keyed) (hmerged : grammar.mergeActions = .ok merged)
    (h : Propagates merged after) (hrule : rule ∈ grammar.rules) {var : String}
    (hitem : .assignRule var target ∈ rule.items) {v : Variable}
    (hv : v ∈ merged.exportsOf target ∨
      v ∈ after.exportsOf target ∧ ¬ TransGen grammar.AssignsFrom target rule.name) :
    after.Exports rule.name (Resolution.derived var v) := by
  obtain ⟨mid, last, -, hlast, hassigns, htakes⟩ := h.exists_rule hkeyed hmerged hrule
  obtain ⟨exports, hsees, hexports⟩ := htakes.exports (hassigns.mpr hitem)
  refine exports_of_rule_exports hlast (hexports v ?_)
  rcases hv with hfirst | ⟨hfinal, hback⟩
  · rcases hsees with rfl | ⟨-, rfl⟩
    · exact h.mem_exportsOf hfirst
    · exact hfirst
  · rcases hsees with rfl | ⟨hleads, -⟩
    · exact hfinal
    · exact absurd hleads hback

/-- Every export of a rule is one that it has at first, or carries one that a rule has from which it assigns. -/
theorem Propagates.origin (hkeyed : grammar.Keyed) (hmerged : grammar.mergeActions = .ok merged)
    (h : Propagates merged after) (hrule : rule ∈ grammar.rules) {v : Variable}
    (hv : v ∈ after.exportsOf rule.name) :
    v ∈ merged.exportsOf rule.name ∨
      ∃ var target, .assignRule var target ∈ rule.items ∧ ∃ w ∈ after.exportsOf target,
        v.name = (Resolution.derived var w).name ∧ sameType v.type w.type := by
  obtain ⟨mid, last, hmid, hlast, hassigns, htakes⟩ := h.exists_rule hkeyed hmerged hrule
  rw [exportsOf_eq hlast] at hv
  rcases htakes.origin hv with hold | ⟨var, target, exports, hassign, hsees, w, hw, hname, htype⟩
  · rw [exportsOf_eq hmid]
    exact Or.inl hold
  · refine Or.inr ⟨var, target, hassigns.mp hassign, w, ?_, hname, htype⟩
    rcases hsees with rfl | ⟨-, rfl⟩
    · exact hw
    · exact h.mem_exportsOf hw

/-- **What resolving carries over**: every assignment gives its rule, under the derived names, the exports
that the other rule has at first, and those that it has in the end unless this leads back to the rule. -/
theorem carriesExports_of_resolve (hkeyed : grammar.Keyed) (h : grammar.resolve.1 = .ok after) :
    ∃ merged, grammar.mergeActions = .ok merged ∧ CarriesExports grammar merged after := by
  obtain ⟨-, merged, hmerged, hpropagates⟩ := propagates_of_resolve h
  refine ⟨merged, hmerged,
    fun rule hrule var target hitem v hv => hpropagates.exports_derived hkeyed hmerged hrule hitem (Or.inl hv),
    fun rule hrule var target hitem hback v hv =>
      hpropagates.exports_derived hkeyed hmerged hrule hitem (Or.inr ⟨hv, hback⟩),
    fun rule hrule v hv => ?_, fun hacyclic rules hperm => ?_,
    fun hacyclic => resolve_resolved hkeyed hacyclic h⟩
  · exact hpropagates.origin hkeyed hmerged hrule hv
  · obtain ⟨other, hother, hsame⟩ := exists_resolve_of_perm hkeyed hacyclic h hperm
    exact ⟨other, hother, fun name => by rw [exportsOf, hsame, exportsOf]⟩

/-- Lists whose rule assigns from itself, in a rule that assigns from them. -/
def tails : Grammar where
  start := "outer"
  rules :=
    [⟨"outer", ∅, [], ∅, ∅, [⟨[.assignRule "l" "list"]⟩]⟩,
     ⟨"list", ∅, [], ∅, ∅, [⟨[.text "x", .assignRule "rest" "list", .action "len"]⟩, ⟨[.action "len"]⟩]⟩]
  regexes := []
  actions := [⟨"len", [⟨"i32", "n"⟩], "self.n += 1;"⟩]

/-- In the sample `list` takes over its own first export, and `outer` takes over both. -/
theorem carriesExports_tails : ∃ merged after, tails.Keyed ∧ tails.resolve.1 = .ok after ∧
    tails.mergeActions = .ok merged ∧ CarriesExports tails merged after ∧
    after.exportsOf "outer" = [⟨"i32", "l_n"⟩, ⟨"i32", "l_rest_n"⟩] := by
  have hkeyed : tails.Keyed := by unfold Keyed; decide
  have hcheck : (tails.resolve.1.toOption.map fun after => after.exportsOf "outer") =
      some [⟨"i32", "l_n"⟩, ⟨"i32", "l_rest_n"⟩] := by
    decide +kernel
  cases hresolve : tails.resolve.1 with
  | error e =>
    rw [hresolve] at hcheck
    cases hcheck
  | ok after =>
    rw [hresolve] at hcheck
    obtain ⟨merged, hmerged, hcarries⟩ := carriesExports_of_resolve hkeyed hresolve
    exact ⟨merged, after, hkeyed, rfl, hmerged, hcarries, Option.some.inj hcheck⟩

end Grammar

end AttributeGrammar
