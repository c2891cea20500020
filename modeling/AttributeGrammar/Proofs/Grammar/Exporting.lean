import AttributeGrammar.Proofs.Grammar.Resolved

/-!
# Declaring exports

* `Rule.mem_exportedVars` — the exported variables of a rule are its exported names with their types.
* `Rule.Gains` — what a rule has after some variables became exports of it: their types are those it had
  declared before, or theirs.
* `Rule.gains_exportAll` — declaring exports in a row leaves that.
* `Rule.exportAll_eq_self` — nothing changes for variables that are exports already.
* `Rule.adopted_adoptActions`, `Rule.adoptActions_eq_self` — a rule adopts the actions that it calls, and
  adopting them again changes nothing.
-/

set_option autoImplicit false

namespace AttributeGrammar

open Std (ExtTreeMap ExtTreeSet)

namespace Rule

variable {rule mid after : Rule} {type name : String} {vs ws : List Variable} {v : Variable}

/-! ## Variables of a rule -/

theorem mem_withTypes {names : List String} :
    v ∈ rule.withTypes names ↔ v.name ∈ names ∧ rule.varType? v.name = some v.type := by
  rw [withTypes, List.mem_filterMap]
  constructor
  · rintro ⟨name, hname, hv⟩
    obtain ⟨type, htype, rfl⟩ := Option.map_eq_some_iff.mp hv
    exact ⟨hname, htype⟩
  · rintro ⟨hname, htype⟩
    exact ⟨v.name, hname, by rw [htype]; rfl⟩

theorem mem_exportedVars :
    v ∈ rule.exportedVars ↔ v.name ∈ rule.exported ∧ rule.varType? v.name = some v.type := by
  rw [exportedVars, mem_withTypes, ExtTreeSet.mem_toList]

/-- The rule exports a variable of the name, with the type up to white space. -/
def Exports (rule : Rule) (v : Variable) : Prop :=
  v.name ∈ rule.exported ∧ ∃ type, rule.varType? v.name = some type ∧ sameType type v.type

theorem exports_iff :
    rule.Exports v ↔ ∃ w ∈ rule.exportedVars, w.name = v.name ∧ sameType w.type v.type := by
  constructor
  · rintro ⟨hname, type, htype, hsame⟩
    exact ⟨⟨type, v.name⟩, mem_exportedVars.mpr ⟨hname, htype⟩, rfl, hsame⟩
  · rintro ⟨w, hw, hname, hsame⟩
    obtain ⟨hexported, htype⟩ := mem_exportedVars.mp hw
    rw [hname] at hexported htype
    exact ⟨hexported, w.type, htype, hsame⟩

/-! ## Declaring one export -/

/-- Declaring a variable leaves it to the first declaration which type it has. -/
theorem declare_eq_ok {isNew : Bool} :
    declare type name rule = .ok isNew after ↔
      (rule.varType? name = none ∧ isNew = true ∧ after = { rule with vars := rule.vars.insert name type }) ∨
      (∃ declared, rule.varType? name = some declared ∧ sameType declared type ∧ isNew = false ∧
        after = rule) := by
  unfold declare
  rw [Outcome.bind_eq_ok]
  constructor
  · rintro ⟨_, _, hget, h⟩
    cases hget
    rcases hdeclared : rule.varType? name with _ | declared
    · simp only [hdeclared] at h
      cases h
      exact Or.inl ⟨rfl, rfl, rfl⟩
    · simp only [hdeclared] at h
      by_cases hsame : sameType declared type
      · rw [if_pos hsame] at h
        cases h
        exact Or.inr ⟨declared, rfl, hsame, rfl, rfl⟩
      · rw [if_neg hsame] at h
        cases h
  · rintro (⟨hnone, rfl, rfl⟩ | ⟨declared, hdeclared, hsame, rfl, rfl⟩)
    · exact ⟨rule, rule, rfl, by simp only [hnone]; rfl⟩
    · refine ⟨after, after, rfl, ?_⟩
      simp only [hdeclared]
      rw [if_pos hsame]
      rfl

/-- The rule `after` is `rule` with the variables `vs` as further exports. A variable that was declared keeps
its type, and the others have that of one of `vs`. -/
structure Gains (rule : Rule) (vs : List Variable) (after : Rule) : Prop where
  name_eq : after.name = rule.name
  inherited_eq : after.inherited = rule.inherited
  actions_eq : after.actions = rule.actions
  alternatives_eq : after.alternatives = rule.alternatives
  mem_exported : ∀ name, name ∈ after.exported ↔ name ∈ rule.exported ∨ ∃ v ∈ vs, v.name = name
  varType? : ∀ {name type}, rule.varType? name = some type → after.varType? name = some type
  exports : ∀ v ∈ vs, after.Exports v
  origin : ∀ {name type}, after.varType? name = some type →
    rule.varType? name = some type ∨ ∃ v ∈ vs, v = ⟨type, name⟩

theorem Gains.refl (rule : Rule) : rule.Gains [] rule :=
  ⟨rfl, rfl, rfl, rfl, by simp, id, by simp, Or.inl⟩

/-- An export stays one. -/
theorem Gains.exports_of_exports (h : rule.Gains vs after) (hv : rule.Exports v) : after.Exports v := by
  obtain ⟨hname, type, htype, hsame⟩ := hv
  exact ⟨(h.mem_exported _).mpr (Or.inl hname), type, h.varType? htype, hsame⟩

theorem Gains.trans (h : rule.Gains vs mid) (h' : mid.Gains ws after) : rule.Gains (vs ++ ws) after := by
  refine ⟨h'.name_eq.trans h.name_eq, h'.inherited_eq.trans h.inherited_eq,
    h'.actions_eq.trans h.actions_eq, h'.alternatives_eq.trans h.alternatives_eq, fun name => ?_,
    fun htype => h'.varType? (h.varType? htype), fun v hv => ?_, fun htype => ?_⟩
  · rw [h'.mem_exported, h.mem_exported, or_assoc]
    simp only [List.mem_append, or_and_right, exists_or]
  · rcases List.mem_append.mp hv with hv | hv
    · exact h'.exports_of_exports (h.exports v hv)
    · exact h'.exports v hv
  · rcases h'.origin htype with htype | ⟨v, hv, heq⟩
    · rcases h.origin htype with htype | ⟨v, hv, heq⟩
      · exact Or.inl htype
      · exact Or.inr ⟨v, List.mem_append_left _ hv, heq⟩
    · exact Or.inr ⟨v, List.mem_append_right _ hv, heq⟩

/-- An export that was declared before is one of before. -/
theorem Gains.mem_exportedVars (h : rule.Gains vs after) (hv : v ∈ rule.exportedVars) :
    v ∈ after.exportedVars := by
  obtain ⟨hname, htype⟩ := Rule.mem_exportedVars.mp hv
  exact Rule.mem_exportedVars.mpr ⟨(h.mem_exported _).mpr (Or.inl hname), h.varType? htype⟩

/-- Every export is one of before or one of the variables, with its type up to white space. -/
theorem Gains.mem_or_mem (h : rule.Gains vs after) (hv : v ∈ after.exportedVars) :
    v ∈ rule.exportedVars ∨ ∃ w ∈ vs, w.name = v.name ∧ sameType v.type w.type := by
  obtain ⟨hname, htype⟩ := Rule.mem_exportedVars.mp hv
  rcases (h.mem_exported _).mp hname with hname | ⟨w, hw, hwv⟩
  · rcases h.origin htype with hold | ⟨w, hw, rfl⟩
    · exact Or.inl (Rule.mem_exportedVars.mpr ⟨hname, hold⟩)
    · exact Or.inr ⟨_, hw, rfl, by simp⟩
  · obtain ⟨-, type, hfound, hsame⟩ := h.exports w hw
    rw [hwv, htype, Option.some.injEq] at hfound
    exact Or.inr ⟨w, hw, hwv, hfound ▸ hsame⟩

theorem varType?_insert {other : String} :
    varType? { rule with vars := rule.vars.insert name type } other =
      if name = other then some type else rule.varType? other := by
  simp only [varType?, ExtTreeMap.getElem?_insert, Std.LawfulEqCmp.compare_eq_iff_eq]

theorem gains_declareExport {isNew : Bool} (h : declareExport type name rule = .ok isNew after) :
    rule.Gains [⟨type, name⟩] after := by
  obtain ⟨_, mid, hdiscard, h⟩ := Outcome.bind_eq_ok.mp h
  obtain ⟨_, hdeclare⟩ := Outcome.discard_eq_ok.mp hdiscard
  obtain ⟨_, _, hget, h⟩ := Outcome.bind_eq_ok.mp h
  cases hget
  cases h
  have hexported : ∀ (exported : ExtTreeSet String) (other : String),
      other ∈ exported.insert name ↔ other ∈ exported ∨ ∃ v ∈ [(⟨type, name⟩ : Variable)], v.name = other := by
    intro exported other
    simp only [ExtTreeSet.mem_insert, Std.LawfulEqCmp.compare_eq_iff_eq, List.mem_singleton,
      exists_eq_left, or_comm]
  rcases declare_eq_ok.mp hdeclare with ⟨hnone, -, rfl⟩ | ⟨declared, hdeclared, hsame, -, rfl⟩
  · have hfound : ∀ other,
        varType? { rule with vars := rule.vars.insert name type, exported := rule.exported.insert name } other =
          if name = other then some type else rule.varType? other := fun _ => varType?_insert
    refine ⟨rfl, rfl, rfl, rfl, hexported _, fun {other found} hother => ?_, fun v hv => ?_,
      fun {other found} hother => ?_⟩
    · rw [hfound, if_neg, hother]
      rintro rfl
      rw [hnone] at hother
      cases hother
    · rw [List.mem_singleton.mp hv]
      exact ⟨(hexported _ _).mpr (Or.inr ⟨_, List.mem_singleton_self _, rfl⟩), type,
        by rw [hfound, if_pos rfl], by simp⟩
    · rw [hfound] at hother
      split at hother
      · rename_i heq
        cases hother
        exact Or.inr ⟨_, List.mem_singleton_self _, by rw [heq]⟩
      · exact Or.inl hother
  · refine ⟨rfl, rfl, rfl, rfl, hexported _, fun hother => hother, fun v hv => ?_, Or.inl⟩
    rw [List.mem_singleton.mp hv]
    exact ⟨(hexported _ _).mpr (Or.inr ⟨_, List.mem_singleton_self _, rfl⟩), declared, hdeclared, hsame⟩

/-! ## Declaring exports in a row -/

/-- Declares exports in a row. -/
def exportAll (vs : List Variable) : Edit Unit := vs.forM fun v => discard (declareExport v.type v.name)

theorem gains_exportAll (h : exportAll vs rule = .ok () after) : rule.Gains vs after := by
  induction vs generalizing rule with
  | nil =>
    cases h
    exact .refl _
  | cons v vs ih =>
    obtain ⟨_, mid, hfirst, hrest⟩ := Outcome.bind_eq_ok.mp h
    obtain ⟨_, hdeclare⟩ := Outcome.discard_eq_ok.mp hfirst
    exact (gains_declareExport hdeclare).trans (ih hrest)

/-- Declaring an export that the rule has changes nothing. -/
theorem declareExport_eq_self (h : rule.Exports v) :
    declareExport v.type v.name rule = .ok false rule := by
  obtain ⟨hname, declared, hdeclared, hsame⟩ := h
  have hdeclare : declare v.type v.name rule = .ok false rule :=
    declare_eq_ok.mpr (Or.inr ⟨declared, hdeclared, hsame, rfl, rfl⟩)
  have hinsert : rule.exported.insert v.name = rule.exported := by
    refine ExtTreeSet.ext_mem fun other => ?_
    rw [ExtTreeSet.mem_insert, Std.LawfulEqCmp.compare_eq_iff_eq]
    constructor
    · rintro (rfl | hother)
      · exact hname
      · exact hother
    · exact Or.inr
  refine Outcome.bind_eq_ok.mpr ⟨(), rule, Outcome.discard_eq_ok.mpr ⟨_, hdeclare⟩,
    Outcome.bind_eq_ok.mpr ⟨rule, rule, rfl, ?_⟩⟩
  show EStateM.Result.ok (!rule.exported.contains v.name)
    { rule with exported := rule.exported.insert v.name } = _
  rw [hinsert, ExtTreeSet.contains_iff_mem.mpr hname]
  rfl

/-- **Declaring exports that the rule has changes nothing.** -/
theorem exportAll_eq_self (h : ∀ v ∈ vs, rule.Exports v) : exportAll vs rule = .ok () rule := by
  induction vs with
  | nil => rfl
  | cons v vs ih =>
    obtain ⟨hv, hvs⟩ := List.forall_mem_cons.mp h
    exact Outcome.bind_eq_ok.mpr ⟨(), rule,
      Outcome.discard_eq_ok.mpr ⟨_, declareExport_eq_self hv⟩, ih hvs⟩

/-! ## Adopting actions -/

/-- The rule has the exports and some code of an action. -/
structure Adopted (rule : Rule) (action : Action) : Prop where
  exports : ∀ v ∈ action.exported, rule.Exports v
  code : action.name ∈ rule.actions

/-- The rule `after` has the name, the parameters and the alternatives of `rule`, and all its exports and
actions. -/
structure Grows (rule after : Rule) : Prop where
  name_eq : after.name = rule.name
  inherited_eq : after.inherited = rule.inherited
  alternatives_eq : after.alternatives = rule.alternatives
  exports : ∀ {v}, rule.Exports v → after.Exports v
  actions : ∀ {name}, name ∈ rule.actions → name ∈ after.actions

theorem Grows.refl (rule : Rule) : rule.Grows rule := ⟨rfl, rfl, rfl, id, id⟩

theorem Grows.trans (h : rule.Grows mid) (h' : mid.Grows after) : rule.Grows after :=
  ⟨h'.name_eq.trans h.name_eq, h'.inherited_eq.trans h.inherited_eq,
    h'.alternatives_eq.trans h.alternatives_eq, fun hv => h'.exports (h.exports hv),
    fun hname => h'.actions (h.actions hname)⟩

theorem Gains.grows (h : rule.Gains vs after) : rule.Grows after :=
  ⟨h.name_eq, h.inherited_eq, h.alternatives_eq, h.exports_of_exports, fun hname => h.actions_eq ▸ hname⟩

theorem Grows.adopted {action : Action} (h : rule.Grows after) (hadopted : rule.Adopted action) :
    after.Adopted action :=
  ⟨fun v hv => h.exports (hadopted.exports v hv), h.actions hadopted.code⟩

theorem adopted_adopt {action : Action} (h : adopt action rule = .ok () after) :
    rule.Grows after ∧ after.Adopted action := by
  obtain ⟨_, mid, hexports, h⟩ := Outcome.bind_eq_ok.mp h
  have hgains : rule.Gains action.exported mid := gains_exportAll hexports
  have hcode : mid.Grows { mid with actions := mid.actions.insertIfNew action.name action.code } :=
    ⟨rfl, rfl, rfl, id, fun hname => ExtTreeMap.mem_insertIfNew.mpr (Or.inr hname)⟩
  cases h
  exact ⟨hgains.grows.trans hcode, fun v hv => hcode.exports (hgains.exports v hv),
    ExtTreeMap.mem_insertIfNew.mpr (Or.inl Std.ReflCmp.compare_self)⟩

/-- Adopting an action again changes nothing. -/
theorem adopt_eq_self {action : Action} (h : rule.Adopted action) : adopt action rule = .ok () rule := by
  refine Outcome.bind_eq_ok.mpr ⟨(), rule, exportAll_eq_self h.exports, ?_⟩
  have hinsert : rule.actions.insertIfNew action.name action.code = rule.actions := by
    refine ExtTreeMap.ext_getElem? fun other => ?_
    rw [ExtTreeMap.getElem?_insertIfNew, if_neg]
    rintro ⟨-, hnot⟩
    exact hnot h.code
  show EStateM.Result.ok () { rule with actions := rule.actions.insertIfNew action.name action.code } = _
  rw [hinsert]

/-- A rule has adopted the actions that it calls. -/
theorem adopted_adoptActions {grammar : Grammar} (h : adoptActions grammar rule = .ok () after) :
    rule.Grows after ∧ ∀ name ∈ after.actionCalls.toList, ∃ action, grammar.action? name = some action ∧
      after.Adopted action := by
  obtain ⟨_, _, hget, h⟩ := Outcome.bind_eq_ok.mp h
  cases hget
  have hrow := Outcome.forM_establishes rule.Grows Grows Grows.refl Grows.trans
    (fun name s => ∃ action, grammar.action? name = some action ∧ Adopted s action)
    (fun hgrows ⟨action, haction, hadopted⟩ => ⟨action, haction, hgrows.adopted hadopted⟩)
    (fun name _ s t hs hstep => ?_) (.refl _) h
  · obtain ⟨-, hgrows, hnames⟩ := hrow
    refine ⟨hgrows, ?_⟩
    rwa [actionCalls, items, hgrows.alternatives_eq]
  · rcases haction : grammar.action? name with _ | action
    · simp only [haction] at hstep
      cases hstep
    · simp only [haction] at hstep
      obtain ⟨hgrows, hadopted⟩ := adopted_adopt hstep
      exact ⟨hs.trans hgrows, hgrows, action, rfl, hadopted⟩

/-- The only code that a rule gets is that of the actions that it calls. -/
theorem mem_actions_adoptActions {grammar : Grammar} (h : adoptActions grammar rule = .ok () after) :
    ∀ name ∈ after.actions, name ∈ rule.actions ∨ name ∈ rule.actionCalls := by
  obtain ⟨_, _, hget, h⟩ := Outcome.bind_eq_ok.mp h
  cases hget
  refine Outcome.forM_keeps (fun s : Rule => ∀ name ∈ s.actions, name ∈ rule.actions ∨ name ∈ rule.actionCalls)
    (fun called hcalled s t hs hstep => ?_) (fun name hname => Or.inl hname) h
  rcases haction : grammar.action? called with _ | action
  · simp only [haction] at hstep
    cases hstep
  simp only [haction] at hstep
  obtain ⟨_, mid, hexports, hcode⟩ := Outcome.bind_eq_ok.mp hstep
  have hgains : s.Gains action.exported mid := gains_exportAll hexports
  cases hcode
  intro name hname
  rcases ExtTreeMap.mem_insertIfNew.mp hname with heq | hold
  · rw [← Std.LawfulEqCmp.eq_of_compare heq,
      show action.name = called by simpa using List.find?_some haction]
    exact Or.inr (ExtTreeSet.mem_toList.mp hcalled)
  · exact hs name (hgains.actions_eq ▸ hold)

/-- **Adopting the actions again changes nothing.** -/
theorem adoptActions_eq_self {grammar : Grammar}
    (h : ∀ name ∈ rule.actionCalls.toList, ∃ action, grammar.action? name = some action ∧
      rule.Adopted action) : adoptActions grammar rule = .ok () rule := by
  refine Outcome.bind_eq_ok.mpr ⟨rule, rule, rfl, ?_⟩
  generalize rule.actionCalls.toList = names at h ⊢
  induction names with
  | nil => rfl
  | cons name names ih =>
    obtain ⟨⟨action, haction, hadopted⟩, hnames⟩ := List.forall_mem_cons.mp h
    refine Outcome.bind_eq_ok.mpr ⟨(), rule, ?_, ih hnames⟩
    simp only [haction]
    exact adopt_eq_self hadopted

end Rule

end AttributeGrammar
