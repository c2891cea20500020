import AttributeGrammar.Description.Declaration
import AttributeGrammar.Proofs.Grammar.Calls

/-!
# The parts that make up a rule

A rule that only lines have declared is known from its name, its parameters and its alternatives: its
variables are the parameters and those that take the text of a token.

* `Rule.mem_allVars_declared`, `Rule.canDeclare` — what declaring a variable leaves, and when it succeeds.
* `Rule.MadeOf` — a rule is made of a name, parameters and alternatives; `Rule.MadeOf.unique` says that it
  is known from them.
* `Rule.madeOf_of_toRule`, `Rule.exists_toRule` — the parts of the rule of a line, and when there is one.
* `Rule.MadeOf.merge`, `Rule.MadeOf.exists_merge` — the same for two rules that are merged.
-/

set_option autoImplicit false

namespace AttributeGrammar

open Description (RuleDecl)

/-! ## Types and variables -/

/-- A type without white space. -/
def Spaceless (type : String) : Prop := ∀ c ∈ type.toList, Text.isBlank c = false

theorem spaceless_textType : Spaceless textType := by
  have hall : textType.toList.all (fun c => !Text.isBlank c) = true := rfl
  exact fun c hc => by simpa using List.all_eq_true.mp hall c hc

theorem eq_of_sameType {a b : String} (ha : Spaceless a) (hb : Spaceless b) (h : sameType a b) : a = b := by
  have hsqueeze {type : String} (htype : Spaceless type) : squeezeType type = type.toList :=
    List.filter_eq_self.mpr fun c hc => by simp [htype c hc]
  rw [sameType_iff, hsqueeze ha, hsqueeze hb] at h
  exact String.toList_inj.mp h

/-- The variable that takes the text of a token, with its type. -/
def Item.textVariable? (item : Item) : Option Variable := item.textVar?.map fun var => ⟨textType, var⟩

/-- The variables that take the texts of tokens. -/
def textVars (alternatives : List Alternative) : List Variable :=
  (alternatives.flatMap Alternative.items).filterMap Item.textVariable?

theorem textVars_append (a b : List Alternative) : textVars (a ++ b) = textVars a ++ textVars b := by
  simp [textVars]

theorem type_of_textVariable? {item : Item} {v : Variable} (h : item.textVariable? = some v) :
    v.type = textType := by
  obtain ⟨var, -, rfl⟩ := Option.map_eq_some_iff.mp h
  rfl

namespace Rule

variable {rule other mid after frame : Rule} {v w : Variable} {vs : List Variable} {name : String}
  {inherited inherited' : List Variable} {alternatives alternatives' : List Alternative}
  {items more : List Item} {item : Item}

theorem eq_of_mem_allVars (hv : v ∈ rule.allVars) (hw : w ∈ rule.allVars) (h : v.name = w.name) : v = w := by
  obtain ⟨type, name⟩ := v
  obtain ⟨type', name'⟩ := w
  cases h
  have htype : some type = some type' := (mem_allVars.mp hv).symm.trans (mem_allVars.mp hw)
  rw [Option.some.inj htype]

/-! ## Declaring variables -/

/-- Declaring a variable adds it, unless it is declared already. -/
theorem mem_allVars_declared (hv : Spaceless v.type) (hrule : ∀ w ∈ rule.allVars, Spaceless w.type)
    (hcan : rule.CanDeclare v.type v.name) :
    w ∈ (rule.declared v.type v.name).allVars ↔ w ∈ rule.allVars ∨ w = v := by
  obtain ⟨type, name⟩ := v
  obtain ⟨type', name'⟩ := w
  rw [mem_allVars, mem_allVars, varType?_declared]
  rcases hfound : rule.varType? name' with _ | found
  · simp [eq_comm, and_comm]
  · rw [Option.some_or]
    refine ⟨.inl, ?_⟩
    rintro (htype | heq)
    · exact htype
    · cases heq
      exact congrArg some (eq_of_sameType (hrule ⟨found, _⟩ (mem_allVars.mpr hfound)) hv (hcan found hfound))

/-- A variable can be declared if none of its name is that is another one. -/
theorem canDeclare (h : ∀ w ∈ rule.allVars, w.name = v.name → w = v) : rule.CanDeclare v.type v.name := by
  intro declared hdeclared
  rw [← h ⟨declared, v.name⟩ (mem_allVars.mpr hdeclared) rfl, sameType_iff]

/-- Appending an element declares the variable that takes its text. -/
theorem of_push (hrule : ∀ w ∈ rule.allVars, Spaceless w.type) (h : push item rule = .ok () after) :
    after = { rule with vars := after.vars, alternatives := appendToLast item rule.alternatives } ∧
      (∀ w, w ∈ after.allVars ↔ w ∈ rule.allVars ∨ item.textVariable? = some w) ∧
      ∀ var, item ≠ .assignRegex var emptyName := by
  cases step_of_ok (.push item) h with
  | push hvar =>
    refine ⟨rfl, fun w => ?_, by rintro var rfl; cases hvar⟩
    have hnone : item.textVariable? = none := by rw [Item.textVariable?, hvar]; rfl
    rw [hnone]
    exact (or_iff_left (by simp)).symm
  | @pushText _ var hvar hassign hcan =>
    refine ⟨rfl, fun w => ?_, hassign⟩
    have htext : item.textVariable? = some ⟨textType, var⟩ := by rw [Item.textVariable?, hvar]; rfl
    rw [htext, Option.some.injEq, eq_comm (b := w)]
    exact mem_allVars_declared (v := ⟨textType, var⟩) spaceless_textType hrule hcan

theorem exists_push (hitem : ∀ var, item ≠ .assignRegex var emptyName)
    (h : ∀ v, item.textVariable? = some v → ∀ w ∈ rule.allVars, w.name = v.name → w = v) :
    ∃ after, push item rule = .ok () after := by
  rcases hvar : item.textVar? with _ | var
  · exact ⟨_, run_of_step (.push hvar)⟩
  · have htext : item.textVariable? = some ⟨textType, var⟩ := by rw [Item.textVariable?, hvar]; rfl
    exact ⟨_, run_of_step (.pushText hvar hitem (canDeclare (h _ htext)))⟩

/-! ## Rules and their parts -/

/-- The rule is made of a name, parameters and alternatives, as lines declare it. -/
structure MadeOf (rule : Rule) (name : String) (inherited : List Variable)
    (alternatives : List Alternative) : Prop where
  name_eq : rule.name = name
  inherited_eq : rule.inherited = inherited.map Variable.name
  exported_eq : rule.exported = ∅
  actions_eq : rule.actions = ∅
  alternatives_eq : rule.alternatives = alternatives
  mem_allVars_iff : ∀ v, v ∈ rule.allVars ↔ v ∈ inherited ++ textVars alternatives
  spaceless : ∀ v ∈ inherited, Spaceless v.type
  distinct : (inherited.map Variable.name).Nodup

namespace MadeOf

theorem spaceless_allVars (h : rule.MadeOf name inherited alternatives) :
    ∀ v ∈ rule.allVars, Spaceless v.type := by
  intro v hv
  rcases List.mem_append.mp ((h.mem_allVars_iff v).mp hv) with hv | hv
  · exact h.spaceless v hv
  · obtain ⟨item, -, hitem⟩ := List.mem_filterMap.mp hv
    rw [type_of_textVariable? hitem]
    exact spaceless_textType

/-- **A rule is known from its parts.** -/
theorem unique (h : rule.MadeOf name inherited alternatives)
    (hother : other.MadeOf name inherited alternatives) :
    rule = other := by
  have hvars : rule.vars = other.vars := by
    refine Std.ExtTreeMap.ext_getElem? fun var => Option.ext fun type => ?_
    exact mem_allVars.symm.trans
      ((h.mem_allVars_iff ⟨type, var⟩).trans ((hother.mem_allVars_iff ⟨type, var⟩).symm.trans mem_allVars))
  obtain ⟨_, _, _, _, _, _⟩ := rule
  obtain ⟨_, _, _, _, _, _⟩ := other
  obtain ⟨rfl, rfl, rfl, rfl, rfl, -, -, -⟩ := h
  obtain ⟨hname, hinherited, hexported, hactions, halternatives, -, -, -⟩ := hother
  simp_all

theorem inheritedVars_eq (h : rule.MadeOf name inherited alternatives) : rule.inheritedVars = inherited := by
  rw [inheritedVars, withTypes, h.inherited_eq, List.filterMap_map]
  refine (List.filterMap_congr fun v hv => ?_).trans List.filterMap_some
  have htype := mem_allVars.mp ((h.mem_allVars_iff v).mpr (List.mem_append_left _ hv))
  simp [htype]

/-! ## The rule of a line -/

theorem new (name : String) : (Rule.new name).MadeOf name [] [⟨[]⟩] :=
  ⟨rfl, rfl, rfl, rfl, rfl, fun v => by simp [mem_allVars, varType?, Rule.new, textVars], by simp, by simp⟩

/-- Another parameter. -/
theorem declareInherited (h : rule.MadeOf name inherited alternatives) (hv : Spaceless v.type)
    (hedit : Rule.declareInherited v.type v.name rule = .ok () after) :
    after.MadeOf name (inherited ++ [v]) alternatives := by
  cases step_of_ok (.declareInherited v.type v.name) hedit with
  | declareInherited hcan hnew =>
    refine ⟨h.name_eq, ?_, h.exported_eq, h.actions_eq, h.alternatives_eq, fun w => ?_, ?_, ?_⟩
    · simp [h.inherited_eq]
    · refine (mem_allVars_declared hv h.spaceless_allVars hcan).trans ?_
      rw [h.mem_allVars_iff]
      simp only [List.mem_append, List.mem_singleton]
      exact or_right_comm
    · exact List.forall_mem_append.mpr ⟨h.spaceless, by simpa using hv⟩
    · rw [h.inherited_eq] at hnew
      rw [List.map_append, List.map_singleton]
      exact List.nodup_append.mpr ⟨h.distinct, List.nodup_singleton _, by
        rintro a ha b hb rfl
        exact hnew (List.mem_singleton.mp hb ▸ ha)⟩

/-- Another element of the only alternative. -/
theorem push (h : rule.MadeOf name inherited [⟨items⟩]) (hedit : Rule.push item rule = .ok () after) :
    after.MadeOf name inherited [⟨items ++ [item]⟩] ∧ ∀ var, item ≠ .assignRegex var emptyName := by
  obtain ⟨hafter, hmem, hassigns⟩ := of_push h.spaceless_allVars hedit
  refine ⟨⟨?_, ?_, ?_, ?_, ?_, fun w => ?_, h.spaceless, h.distinct⟩, hassigns⟩
  · rw [← h.name_eq, hafter]
  · rw [← h.inherited_eq, hafter]
  · rw [← h.exported_eq, hafter]
  · rw [← h.actions_eq, hafter]
  · rw [hafter, h.alternatives_eq, appendToLast]
  · rw [hmem, h.mem_allVars_iff]
    simp [textVars, or_assoc, eq_comm]

theorem declareInherited_all (h : rule.MadeOf name inherited alternatives)
    (hvs : ∀ v ∈ vs, Spaceless v.type)
    (hedit : (vs.forM fun v => Rule.declareInherited v.type v.name) rule = .ok () after) :
    after.MadeOf name (inherited ++ vs) alternatives := by
  induction vs generalizing rule inherited with
  | nil =>
    cases hedit
    rwa [List.append_nil]
  | cons v vs ih =>
    obtain ⟨hv, hvs⟩ := List.forall_mem_cons.mp hvs
    obtain ⟨_, mid, hfirst, hrest⟩ := Outcome.bind_eq_ok.mp hedit
    simpa using ih (h.declareInherited hv hfirst) hvs hrest

theorem push_all (h : rule.MadeOf name inherited [⟨items⟩]) (hedit : more.forM Rule.push rule = .ok () after) :
    after.MadeOf name inherited [⟨items ++ more⟩] ∧
      ∀ item ∈ more, ∀ var, item ≠ .assignRegex var emptyName := by
  induction more generalizing rule items with
  | nil =>
    cases hedit
    exact ⟨by rwa [List.append_nil], by simp⟩
  | cons item more ih =>
    obtain ⟨_, mid, hfirst, hrest⟩ := Outcome.bind_eq_ok.mp hedit
    obtain ⟨hmid, hitem⟩ := h.push hfirst
    obtain ⟨hafter, hmore⟩ := ih hmid hrest
    exact ⟨by simpa using hafter, List.forall_mem_cons.mpr ⟨hitem, hmore⟩⟩

/-- Parameters with names of their own, which one rule declares, can be declared in a row. -/
theorem exists_declareInherited_all (h : rule.MadeOf name inherited alternatives)
    (hframe : ∀ v ∈ frame.allVars, Spaceless v.type) (hrule : ∀ v ∈ rule.allVars, v ∈ frame.allVars)
    (hvs : ∀ v ∈ vs, v ∈ frame.allVars) (hdistinct : ((inherited ++ vs).map Variable.name).Nodup) :
    ∃ after, (vs.forM fun v => Rule.declareInherited v.type v.name) rule = .ok () after := by
  induction vs generalizing rule inherited with
  | nil => exact ⟨rule, rfl⟩
  | cons v vs ih =>
    obtain ⟨hv, hvs⟩ := List.forall_mem_cons.mp hvs
    have hcan := canDeclare fun w hw => eq_of_mem_allVars (hrule w hw) hv
    have hnew : v.name ∉ rule.inherited := by
      rw [h.inherited_eq]
      intro hold
      rw [List.map_append, List.map_cons] at hdistinct
      exact (List.nodup_append.mp hdistinct).2.2 _ hold _ (.head _) rfl
    have hfirst := run_of_step (.declareInherited hcan hnew)
    have hmem (w : Variable) := mem_allVars_declared (w := w) (hframe v hv) h.spaceless_allVars hcan
    obtain ⟨after, hrest⟩ := ih (h.declareInherited (hframe v hv) hfirst)
      (fun w hw => ((hmem w).mp hw).elim (hrule w) fun heq => heq ▸ hv) hvs (by simpa using hdistinct)
    exact ⟨after, Outcome.bind_eq_ok.mpr ⟨(), _, hfirst, hrest⟩⟩

/-- Elements whose variables one rule declares can be appended in a row. -/
theorem exists_push_all (h : rule.MadeOf name inherited [⟨items⟩])
    (hrule : ∀ v ∈ rule.allVars, v ∈ frame.allVars)
    (hmore : ∀ item ∈ more, ∀ v, item.textVariable? = some v → v ∈ frame.allVars)
    (hassigns : ∀ item ∈ more, ∀ var, item ≠ .assignRegex var emptyName) :
    ∃ after, more.forM Rule.push rule = .ok () after := by
  induction more generalizing rule items with
  | nil => exact ⟨rule, rfl⟩
  | cons item more ih =>
    obtain ⟨hitem, hmore⟩ := List.forall_mem_cons.mp hmore
    obtain ⟨hassign, hassigns⟩ := List.forall_mem_cons.mp hassigns
    obtain ⟨mid, hfirst⟩ := exists_push hassign fun v hv w hw => eq_of_mem_allVars (hrule w hw) (hitem v hv)
    obtain ⟨-, hmem, -⟩ := of_push h.spaceless_allVars hfirst
    obtain ⟨after, hrest⟩ :=
      ih (h.push hfirst).1 (fun w hw => ((hmem w).mp hw).elim (hrule w) (hitem w)) hmore hassigns
    exact ⟨after, Outcome.bind_eq_ok.mpr ⟨(), mid, hfirst, hrest⟩⟩

end MadeOf

/-- **The rule of a line is made of the name, the parameters and the elements on it.** -/
theorem madeOf_of_toRule {decl : RuleDecl} (hinherited : ∀ v ∈ decl.inherited, Spaceless v.type)
    (h : decl.toRule = .ok rule) :
    rule.MadeOf decl.name decl.inherited [⟨decl.items⟩] ∧
      ∀ item ∈ decl.items, ∀ var, item ≠ .assignRegex var emptyName := by
  unfold RuleDecl.toRule at h
  split at h
  · rename_i hbuild
    cases h
    obtain ⟨_, mid, hparameters, hitems⟩ := Outcome.bind_eq_ok.mp hbuild
    exact ((MadeOf.new decl.name).declareInherited_all hinherited hparameters).push_all hitems
  · cases h

/-- A line whose variables one rule declares stands for a rule. -/
theorem exists_toRule {decl : RuleDecl} (hframe : ∀ v ∈ frame.allVars, Spaceless v.type)
    (hvars : ∀ v ∈ decl.inherited ++ textVars [⟨decl.items⟩], v ∈ frame.allVars)
    (hdistinct : (decl.inherited.map Variable.name).Nodup)
    (hassigns : ∀ item ∈ decl.items, ∀ var, item ≠ .assignRegex var emptyName) :
    ∃ rule, decl.toRule = .ok rule := by
  obtain ⟨hinherited, htexts⟩ := List.forall_mem_append.mp hvars
  obtain ⟨mid, hparameters⟩ := (MadeOf.new decl.name).exists_declareInherited_all hframe
    (fun v hv => by simp [mem_allVars, varType?, Rule.new] at hv) hinherited hdistinct
  have hmade := (MadeOf.new decl.name).declareInherited_all (fun v hv => hframe v (hinherited v hv)) hparameters
  have hmid : ∀ v ∈ mid.allVars, v ∈ frame.allVars := fun v hv =>
    hinherited v (by simpa [textVars] using (hmade.mem_allVars_iff v).mp hv)
  obtain ⟨after, hitems⟩ := hmade.exists_push_all hmid
    (fun item hitem v hv => htexts v (List.mem_filterMap.mpr ⟨item, by simpa using hitem, hv⟩)) hassigns
  have hbuild : decl.build (Rule.new decl.name) = .ok () after :=
    Outcome.bind_eq_ok.mpr ⟨(), mid, hparameters, hitems⟩
  exact ⟨after, by rw [RuleDecl.toRule, hbuild]⟩

/-! ## Merged rules -/

/-- Two declarations as one declare the variables of both. -/
theorem mem_allVars_join (h : rule.Agrees other) (hrule : ∀ w ∈ rule.allVars, Spaceless w.type)
    (hother : ∀ w ∈ other.allVars, Spaceless w.type) :
    v ∈ (rule.join other).allVars ↔ v ∈ rule.allVars ∨ v ∈ other.allVars := by
  rw [mem_allVars, varType?_join]
  rcases hfirst : rule.varType? v.name with _ | first
  · rw [Option.none_or, mem_allVars, mem_allVars, hfirst]
    simp
  · rw [Option.some_or, mem_allVars, mem_allVars, hfirst]
    refine ⟨.inl, ?_⟩
    rintro (htype | hsecond)
    · exact htype
    · have heq := eq_of_sameType (hrule ⟨first, v.name⟩ (mem_allVars.mpr hfirst))
        (hother v (mem_allVars.mpr hsecond)) (h.types hfirst hsecond)
      exact congrArg some heq

/-- Merging two rules joins their parts; the parameters come from the first that has some. -/
theorem MadeOf.merge (h : rule.MadeOf name inherited alternatives)
    (hother : other.MadeOf name inherited' alternatives') (hmerge : Rule.merge other rule = .ok () after) :
    after.MadeOf name (if inherited = [] then inherited' else inherited) (alternatives ++ alternatives') := by
  obtain ⟨hagrees, rfl⟩ := merge_eq_ok_iff.mp hmerge
  have hmem (v : Variable) := mem_allVars_join (v := v) hagrees h.spaceless_allVars hother.spaceless_allVars
  have hnone : rule.inherited = [] ↔ inherited = [] := by rw [h.inherited_eq, List.map_eq_nil_iff]
  refine ⟨h.name_eq, ?_, ?_, ?_, ?_, fun v => ?_, ?_, ?_⟩
  · simp only [join, hnone]
    split
    · exact hother.inherited_eq
    · exact h.inherited_eq
  · show rule.exported ∪ other.exported = ∅
    rw [h.exported_eq, hother.exported_eq]
    rfl
  · show other.actions ∪ rule.actions = ∅
    rw [h.actions_eq, hother.actions_eq]
    rfl
  · show rule.alternatives ++ other.alternatives = _
    rw [h.alternatives_eq, hother.alternatives_eq]
  · -- where both have parameters, these have the same names and so are the same
    have hparameters : v ∈ (if inherited = [] then inherited' else inherited) ↔
        v ∈ inherited ∨ v ∈ inherited' := by
      split
      · rename_i hempty
        simp [hempty]
      · rename_i hsome
        refine ⟨.inl, fun hv => hv.elim id fun hv => ?_⟩
        have hnames : rule.inherited = other.inherited := by
          refine (hagrees.inherited.resolve_left (mt hnone.mp hsome)).resolve_left fun hempty => ?_
          rw [hother.inherited_eq, List.map_eq_nil_iff] at hempty
          simp [hempty] at hv
        rw [h.inherited_eq, hother.inherited_eq] at hnames
        obtain ⟨w, hw, hname⟩ := List.mem_map.mp (hnames ▸ List.mem_map_of_mem hv)
        have hw' := (hmem w).mpr (.inl ((h.mem_allVars_iff w).mpr (List.mem_append_left _ hw)))
        have hv' := (hmem v).mpr (.inr ((hother.mem_allVars_iff v).mpr (List.mem_append_left _ hv)))
        rwa [eq_of_mem_allVars hv' hw' hname.symm]
    rw [hmem, h.mem_allVars_iff, hother.mem_allVars_iff]
    simp only [List.mem_append, hparameters, textVars_append]
    exact or_or_or_comm
  · split
    · exact hother.spaceless
    · exact h.spaceless
  · split
    · exact hother.distinct
    · exact h.distinct

/-- Rules with the same parameters, whose variables one rule declares, can be merged. -/
theorem MadeOf.exists_merge (h : rule.MadeOf name inherited alternatives)
    (hother : other.MadeOf name inherited alternatives')
    (hrule : ∀ v ∈ rule.allVars, v ∈ frame.allVars) (hvars : ∀ v ∈ other.allVars, v ∈ frame.allVars) :
    ∃ after, Rule.merge other rule = .ok () after := by
  have hname : rule.name = other.name := h.name_eq.trans hother.name_eq.symm
  have hinherited : rule.inherited = other.inherited := h.inherited_eq.trans hother.inherited_eq.symm
  refine ⟨_,
    merge_eq_ok_iff.mpr ⟨⟨hname, fun {name type type'} htype htype' => ?_, .inr (.inr hinherited)⟩, rfl⟩⟩
  have hfirst := hrule ⟨type, name⟩ (mem_allVars.mpr htype)
  have hsecond := hvars ⟨type', name⟩ (mem_allVars.mpr htype')
  cases eq_of_mem_allVars hfirst hsecond rfl
  simp

end Rule

end AttributeGrammar
