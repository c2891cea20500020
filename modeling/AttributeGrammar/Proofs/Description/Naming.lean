import AttributeGrammar.Proofs.Description.Declarations
import AttributeGrammar.Proofs.Grammar.Propagation

/-!
# Names of variables in descriptions

The variables of a description are identifiers: those that an item binds, those that an action exports, and
so those that are carried over along assignments.

* `Description.valid_actions_of_read` — the exports of the actions that are read are valid.
* `Rule.forall_exported_adoptActions` — which exports a rule gets from actions.
* `Resolution.isIdentifier_derived` — the name that carries an export is an identifier.
* `Grammar.inherited_of_resolve` — resolving leaves the parameters of rules.
* `Description.isIdentifier_inherited` — the parameters of a resolved description are identifiers.
* `Description.named_of_resolve` — **the variables and the exports of a resolved description are identifiers**.
-/

set_option autoImplicit false

namespace AttributeGrammar

open Description (IsIdentifier)

/-! ## Variables of items -/

/-- The variable that an item binds. -/
def Item.var? : Item → Option String
  | .assignRule var _ | .assignText var _ | .assignRegex var _ => some var
  | .text _ | .regex _ | .rule _ | .action _ => none

theorem Item.Valid.isIdentifier {item : Item} {var : String} (h : item.Valid) (hvar : var ∈ item.var?) :
    IsIdentifier var := by
  cases item with
  | assignRule | assignText | assignRegex =>
    cases hvar
    exact h.1
  | text | regex | rule | action => cases hvar

namespace Resolution

theorem toList_derived (var : String) (v : Variable) :
    (derived var v).name.toList = var.toList ++ '_' :: v.name.toList := by
  simp [derived, String.toList_append]

theorem derived_inj {var : String} {v w : Variable} (h : (derived var v).name = (derived var w).name) :
    v.name = w.name := by
  have hlists := congrArg String.toList h
  rw [toList_derived, toList_derived, List.append_cancel_left_eq, List.cons_inj_right] at hlists
  exact String.toList_inj.mp hlists

theorem length_derived (var : String) (v : Variable) : v.name.length < (derived var v).name.length := by
  have hlength := congrArg List.length (toList_derived var v)
  simp only [String.length_toList, List.length_append, List.length_cons] at hlength
  omega

/-- **The name that carries an identifier for an identifier is one.** -/
theorem isIdentifier_derived {var : String} {v : Variable} (hvar : IsIdentifier var)
    (hv : IsIdentifier v.name) :
    IsIdentifier (derived var v).name := by
  have hparts := hv.isNamePart
  obtain ⟨c, rest, hname, hstart, hrest⟩ := hvar
  refine ⟨c, rest ++ '_' :: v.name.toList, ?_, hstart, fun d hd => ?_⟩
  · rw [toList_derived, hname, List.cons_append]
  · rcases List.mem_append.mp hd with hd | hd
    · exact hrest d hd
    · rcases List.mem_cons.mp hd with rfl | hd
      · decide
      · exact hparts d hd

end Resolution

/-! ## Exports of actions -/

theorem Grammar.actions_addRule {grammar after : Grammar} {rule : Rule}
    (h : addRule rule grammar = .ok () after) :
    after.actions = grammar.actions := by
  rcases addRule_eq_ok.mp h with ⟨-, rfl⟩ | ⟨_, _, -, -, rfl⟩ <;> rfl

namespace Description

open Reader

theorem valid_of_actionHeader {name : String} {exported : List Variable} {text rest : List Char}
    (h : actionHeader text = .done (name, exported) rest) : ∀ v ∈ exported, v.Valid := by
  obtain ⟨_, _, -, h⟩ := bind_eq_done.mp h
  obtain ⟨_, _, -, h⟩ := bind_eq_done.mp h
  obtain ⟨_, _, -, h⟩ := bind_eq_done.mp h
  obtain ⟨_, _, -, h⟩ := bind_eq_done.mp h
  obtain ⟨entries, _, hentries, h⟩ := bind_eq_done.mp h
  obtain ⟨_, _, -, h⟩ := bind_eq_done.mp h
  obtain ⟨_, _, -, h⟩ := bind_eq_done.mp h
  cases h
  exact valid_of_variableList hentries

namespace Progress

variable {progress after : Progress} {grammar : Grammar} {no : Nat} {text : List Char}

/-- The exports of the actions that were read, and of the one that is being read, are valid. -/
structure ValidActions (progress : Progress) : Prop where
  actions : ∀ action ∈ progress.grammar.actions, ∀ v ∈ action.exported, v.Valid
  pending : ∀ pending, progress.mode = .action pending → ∀ v ∈ pending.exported, v.Valid

theorem validActions_codeLine {pending : OpenAction}
    (hactions : ∀ action ∈ grammar.actions, ∀ v ∈ action.exported, v.Valid)
    (hpending : ∀ v ∈ pending.exported, v.Valid)
    (h : codeLine grammar pending no text = .ok after) : after.ValidActions := by
  unfold codeLine at h
  split at h
  · cases h
    refine ⟨hactions, fun other hother => ?_⟩
    cases hother
    exact hpending
  · split at h
    · cases h
    · obtain ⟨changed, hedit, h⟩ := Outcome.except_bind_eq_ok.mp h
      cases h
      rw [Grammar.addAction_eq_ok (of_applyEdit hedit)]
      refine ⟨fun action haction => ?_, fun other hother => by cases hother⟩
      rcases List.mem_append.mp haction with haction | haction
      · exact hactions action haction
      · rw [List.mem_singleton.mp haction]
        exact hpending

theorem ValidActions.line {numbered : Nat × List Char} (hprogress : progress.ValidActions)
    (h : progress.line numbered = .ok after) : after.ValidActions := by
  obtain ⟨no, text⟩ := numbered
  simp only [Progress.line] at h
  split at h
  · cases reads_declarationLine h with
    | blank => exact ⟨hprogress.actions, fun _ hmode => by cases hmode⟩
    | action hread hcode =>
      exact validActions_codeLine hprogress.actions (valid_of_actionHeader hread) hcode
    | start => exact ⟨hprogress.actions, fun _ hmode => by cases hmode⟩
    | rule _ _ hedit =>
      exact ⟨Grammar.actions_addRule hedit ▸ hprogress.actions, fun _ hmode => by cases hmode⟩
    | regex => exact ⟨hprogress.actions, fun _ hmode => by cases hmode⟩
  · rename_i pending hmode
    exact validActions_codeLine hprogress.actions (hprogress.pending pending hmode) h
  · split at h
    · cases h
      exact ⟨hprogress.actions, fun _ hmode => by cases hmode⟩
    · cases h

end Progress

/-- **The exports of the actions that are read are valid.** -/
theorem valid_actions_of_read {input : String} {grammar : Grammar} (h : read input = .ok grammar) :
    ∀ action ∈ grammar.actions, ∀ v ∈ action.exported, v.Valid := by
  obtain ⟨progress, start, hlines, -, rfl⟩ := of_read h
  exact (Outcome.foldlM_keeps Progress.ValidActions (fun _ _ _ _ hb hstep => hb.line hstep)
    ⟨by simp [Grammar.empty], fun _ hmode => by cases hmode⟩ hlines).actions

end Description

/-! ## Exports of rules -/

/-- What holds of the names of a rule's exports and of those of all actions holds when the rule has adopted its
actions. -/
theorem Rule.forall_exported_adoptActions {grammar : Grammar} {rule after : Rule} (holds : String → Prop)
    (hrule : ∀ name ∈ rule.exported, holds name)
    (hactions : ∀ action ∈ grammar.actions, ∀ v ∈ action.exported, holds v.name)
    (h : adoptActions grammar rule = .ok () after) : ∀ name ∈ after.exported, holds name := by
  obtain ⟨_, _, hget, h⟩ := Outcome.bind_eq_ok.mp h
  cases hget
  refine Outcome.forM_keeps (fun rule : Rule => ∀ name ∈ rule.exported, holds name)
    (fun name _ s t hs hstep => ?_)
    hrule h
  rcases haction : grammar.action? name with _ | action
  · simp only [haction] at hstep
    cases hstep
  · simp only [haction] at hstep
    obtain ⟨_, mid, hexports, hcode⟩ := Outcome.bind_eq_ok.mp hstep
    have hgains : s.Gains action.exported mid := gains_exportAll hexports
    cases hcode
    intro other hother
    rcases (hgains.mem_exported other).mp hother with hold | ⟨v, hv, rfl⟩
    · exact hs other hold
    · exact hactions action (List.mem_of_find?_eq_some haction) v hv

/-! ## Parameters -/

/-- The rules of the grammar `after` have the parameters of rules of `grammar`. -/
def Grammar.KeepsParameters (grammar after : Grammar) : Prop :=
  ∀ rule ∈ after.rules, ∃ old ∈ grammar.rules, rule.inherited = old.inherited

/-- **Resolving leaves the parameters of rules.** -/
theorem Grammar.inherited_of_resolve {grammar after : Grammar} (h : grammar.resolve.1 = .ok after) :
    grammar.KeepsParameters after := by
  obtain ⟨-, merged, hmerged, hcarried⟩ := Resolution.relates_of_resolve KeepsParameters
    (fun _ rule hrule => ⟨rule, hrule, rfl⟩)
    (fun hab hbc rule hrule => by
      obtain ⟨mid, hmid, hsame⟩ := hbc rule hrule
      obtain ⟨old, hold, hfirst⟩ := hab mid hmid
      exact ⟨old, hold, hsame.trans hfirst⟩)
    (fun {grammar after rule v isNew} hrule hedit other hother => by
      unfold editRule at hedit
      split at hedit
      · rename_i hexport
        cases hedit
        obtain ⟨old, hold, rfl⟩ := List.mem_map.mp hother
        split
        · exact ⟨rule, hrule, (Rule.gains_declareExport hexport).inherited_eq⟩
        · exact ⟨old, hold, rfl⟩
      · cases hedit) h
  obtain ⟨rules, rfl, hadopted⟩ := mergeActions_eq_ok.mp hmerged
  intro rule hrule
  obtain ⟨mid, hmid, hsame⟩ := hcarried rule hrule
  obtain ⟨old, hold, hadopt⟩ := Outcome.exists_mem_left hadopted hmid
  exact ⟨old, hold, hsame.trans (Rule.adopted_adoptActions hadopt).1.inherited_eq⟩

/-! ## Resolved descriptions -/

/-- The variables of items and the exports are identifiers. -/
structure Grammar.Named (grammar : Grammar) : Prop where
  vars : ∀ rule ∈ grammar.rules, ∀ item ∈ rule.items, ∀ var ∈ item.var?, IsIdentifier var
  exports : ∀ name, ∀ v ∈ grammar.exportsOf name, IsIdentifier v.name

namespace Description

variable {text : String} {read merged grammar : Grammar}

/-- The exports that rules have of their own or of their actions are identifiers. -/
theorem isIdentifier_of_mergeActions (hread : Description.read text = .ok read)
    (hmerged : read.mergeActions = .ok merged) {name : String} {v : Variable} (hv : v ∈ merged.exportsOf name) :
    IsIdentifier v.name := by
  rcases hrule : merged.rule? name with _ | rule
  · rw [Grammar.exportsOf, hrule] at hv
    cases hv
  · rw [Grammar.exportsOf_eq hrule] at hv
    obtain ⟨old, hold, hadopt⟩ := Grammar.exists_rule?_mergeActions hmerged hrule
    have hmade := ((described_of_read hread).rules old (Grammar.mem_of_rule? hold).1).made
    refine Rule.forall_exported_adoptActions IsIdentifier (fun other hother => ?_)
      (fun action haction w hw => (valid_actions_of_read hread action haction w hw).name) hadopt v.name
      (Rule.mem_exportedVars.mp hv).1
    rw [hmade.exported_eq] at hother
    simp at hother

/-- **The parameters of a resolved description are identifiers.** -/
theorem isIdentifier_inherited (hread : Description.read text = .ok read)
    (hresolve : read.resolve.1 = .ok grammar) :
    ∀ rule ∈ grammar.rules, ∀ name ∈ rule.inherited, IsIdentifier name := by
  intro rule hrule name hname
  obtain ⟨old, hold, hsame⟩ := Grammar.inherited_of_resolve hresolve rule hrule
  have hdescribed := (described_of_read hread).rules old hold
  rw [hsame, hdescribed.made.inherited_eq] at hname
  obtain ⟨v, hv, rfl⟩ := List.mem_map.mp hname
  exact (hdescribed.inherited v hv).name

/-- **The variables and the exports of a resolved description are identifiers.** -/
theorem named_of_resolve (hread : Description.read text = .ok read) (hresolve : read.resolve.1 = .ok grammar) :
    grammar.Named := by
  have hdescribed := described_of_read hread
  have hextends := (Grammar.extends_of_resolve hresolve).2
  obtain ⟨-, merged, hmerged, hpropagates⟩ := Grammar.propagates_of_resolve hresolve
  constructor
  · intro rule hrule item hitem var hvar
    obtain ⟨old, hold, hsame⟩ := hextends.rules rule hrule
    rw [Rule.items, hsame.alternatives_eq] at hitem
    exact ((hdescribed.rules old hold).items item hitem).isIdentifier hvar
  · intro name v hv
    -- An export that was carried over has a longer name than the one that it was carried over from.
    induction hlength : v.name.length using Nat.strongRecOn generalizing name v with
    | _ length ih =>
      rcases hrule : grammar.rule? name with _ | rule
      · rw [Grammar.exportsOf, hrule] at hv
        cases hv
      obtain ⟨hmem, rfl⟩ := Grammar.mem_of_rule? hrule
      obtain ⟨old, hold, hsame⟩ := hextends.rules rule hmem
      rw [hsame.name_eq] at hv
      rcases hpropagates.origin hdescribed.keyed hmerged hold hv with
        hfirst | ⟨var, target, hitem, w, hw, hname, -⟩
      · exact isIdentifier_of_mergeActions hread hmerged hfirst
      · have hvar : IsIdentifier var := ((hdescribed.rules old hold).items _ hitem).isIdentifier rfl
        have hshorter : w.name.length < length := by
          rw [← hlength, hname]
          exact Resolution.length_derived var w
        rw [hname]
        exact Resolution.isIdentifier_derived hvar (ih _ hshorter target w hw rfl)

end Description

end AttributeGrammar
