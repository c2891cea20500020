import AttributeGrammar.Proofs.Grammar.Exporting

/-!
# Merging the declarations of a rule

Two declarations of a rule are merged by declaring the variables of the other, taking over its parameters and
joining the rest.

* `Rule.Agrees` — when two declarations can be merged, and `Rule.join` — what is left when they are.
* `Rule.CanDeclare`, `Rule.declared` — when a variable can be declared, and what is left when it is.
* `Rule.declareAll_eq_ok` — declaring variables in a row, each of which agrees with the one declared before.
* `Rule.merge_eq_ok_iff` — merging succeeds for declarations that agree, and leaves both joined.
* `Rule.join_agrees_iff`, `Rule.agrees_join_iff` — what agrees with two declarations that are joined agrees with
  each of them.
* `Rule.merge_assoc` — merging is associative.
-/

set_option autoImplicit false

namespace AttributeGrammar

open Std (ExtTreeMap ExtTreeSet)

namespace Rule

variable {rule other after : Rule} {a b c : Rule} {v : Variable} {vs : List Variable} {name type : String}

/-! ## Variables in a row -/

/-- A variable can be declared with a type that is the same, up to white space, as that of an earlier
declaration. -/
def CanDeclare (rule : Rule) (type name : String) : Prop :=
  ∀ declared, rule.varType? name = some declared → sameType declared type

/-- The rule with a variable, whose type is that of an earlier declaration if there is one. -/
def declared (rule : Rule) (type name : String) : Rule := { rule with vars := rule.vars.insertIfNew name type }

/-- Declares variables in a row. -/
def declareAll (vs : List Variable) : Edit Unit := vs.forM fun v => discard (declare v.type v.name)

/-- The types by name when variables are added that have none yet. -/
def addTypes (vars : ExtTreeMap String String) (vs : List Variable) : ExtTreeMap String String :=
  vs.foldl (fun vars v => vars.insertIfNew v.name v.type) vars

theorem insertIfNew_of_none (h : rule.varType? name = none) :
    rule.vars.insertIfNew name type = rule.vars.insert name type := by
  have hnew : name ∉ rule.vars := by
    rw [ExtTreeMap.mem_iff_isSome_getElem?, ← varType?, h]
    simp
  refine ExtTreeMap.ext_getElem? fun key => ?_
  simp [ExtTreeMap.getElem?_insertIfNew, ExtTreeMap.getElem?_insert, hnew]

theorem insertIfNew_of_some {declared : String} (h : rule.varType? name = some declared) :
    rule.vars.insertIfNew name type = rule.vars := by
  have hold : name ∈ rule.vars := by
    rw [ExtTreeMap.mem_iff_isSome_getElem?, ← varType?, h]
    rfl
  refine ExtTreeMap.ext_getElem? fun key => ?_
  simp [ExtTreeMap.getElem?_insertIfNew, hold]

theorem varType?_declared {key : String} :
    (rule.declared type name).varType? key =
      (rule.varType? key).or (if name = key then some type else none) := by
  unfold declared
  rcases hdeclared : rule.varType? name with _ | declared
  · rw [insertIfNew_of_none hdeclared, varType?_insert]
    by_cases hname : name = key
    · rw [if_pos hname, if_pos hname, ← hname, hdeclared, Option.none_or]
    · rw [if_neg hname, if_neg hname, Option.or_none]
  · rw [insertIfNew_of_some hdeclared]
    by_cases hname : name = key
    · rw [← hname, hdeclared, Option.some_or]
    · rw [if_neg hname, Option.or_none]

theorem varType?_addTypes :
    varType? { rule with vars := addTypes rule.vars vs } name =
      (rule.varType? name).or ((vs.find? fun v => v.name = name).map Variable.type) := by
  induction vs generalizing rule with
  | nil => simp [addTypes]
  | cons v vs ih =>
    refine (@ih (rule.declared v.type v.name)).trans ?_
    rw [varType?_declared, Option.or_assoc]
    by_cases hname : v.name = name
    · simp [hname]
    · simp [hname]

/-- Declaring a variable gives it the type unless it has one, which is then the same up to white space. -/
theorem discard_declare_eq_ok :
    (discard (declare type name) : Edit Unit) rule = .ok () after ↔
      rule.CanDeclare type name ∧ after = rule.declared type name := by
  rw [Outcome.discard_eq_ok]
  simp only [declare_eq_ok, CanDeclare, declared]
  rcases hdeclared : rule.varType? name with _ | declared
  · simp [insertIfNew_of_none hdeclared]
  · simp [insertIfNew_of_some hdeclared]

/-- Variables of different names are declared in a row when each agrees with the variable declared before. -/
theorem declareAll_eq_ok (hdistinct : (vs.map Variable.name).Nodup) :
    declareAll vs rule = .ok () after ↔
      (∀ v ∈ vs, rule.CanDeclare v.type v.name) ∧ after = { rule with vars := addTypes rule.vars vs } := by
  induction vs generalizing rule with
  | nil =>
    show EStateM.Result.ok () rule = .ok () after ↔ _
    simp only [EStateM.Result.ok.injEq, true_and, List.not_mem_nil, false_implies, implies_true]
    exact eq_comm
  | cons v vs ih =>
    rw [List.map_cons, List.nodup_cons] at hdistinct
    -- what the first variable changes, the others do not look at
    have hothers : ∀ w ∈ vs, (rule.declared v.type v.name).varType? w.name = rule.varType? w.name := by
      intro w hw
      rw [varType?_declared, if_neg, Option.or_none]
      exact fun heq => hdistinct.1 (heq ▸ List.mem_map_of_mem hw)
    have hrow : declareAll (v :: vs) rule = .ok () after ↔
        rule.CanDeclare v.type v.name ∧ declareAll vs (rule.declared v.type v.name) = .ok () after := by
      show ((discard (declare v.type v.name) : Edit Unit) >>= fun _ => declareAll vs) rule = _ ↔ _
      rw [Outcome.bind_eq_ok]
      constructor
      · rintro ⟨_, _, hfirst, hrest⟩
        obtain ⟨hagree, rfl⟩ := discard_declare_eq_ok.mp hfirst
        exact ⟨hagree, hrest⟩
      · rintro ⟨hagree, hrest⟩
        exact ⟨(), _, discard_declare_eq_ok.mpr ⟨hagree, rfl⟩, hrest⟩
    rw [hrow, ih hdistinct.2, List.forall_mem_cons, and_assoc]
    refine and_congr_right fun _ => and_congr (forall₂_congr fun w hw => ?_) Iff.rfl
    rw [CanDeclare, hothers w hw, CanDeclare]

/-! ## Declarations of one rule -/

/-- No two variables of a rule have one name. -/
theorem nodup_names_allVars (rule : Rule) : (rule.allVars.map Variable.name).Nodup := by
  have hnames : rule.allVars.map Variable.name = rule.vars.keys := by
    rw [allVars, List.map_map, ← ExtTreeMap.map_fst_toList_eq_keys]
    rfl
  rw [hnames]
  exact ExtTreeMap.nodup_keys

theorem find?_allVars (rule : Rule) (name : String) :
    ((rule.allVars.find? fun v => v.name = name).map Variable.type) = rule.varType? name := by
  generalize hfound : List.find? _ rule.allVars = found
  cases found with
  | none =>
    refine (Option.eq_none_iff_forall_ne_some.mpr fun type htype => ?_).symm
    have hnot := List.find?_eq_none.mp hfound ⟨type, name⟩ (mem_allVars.mpr htype)
    simp at hnot
  | some v =>
    have hname : v.name = name := by simpa using List.find?_some hfound
    rw [Option.map_some, ← hname, mem_allVars.mp (List.mem_of_find?_eq_some hfound)]

/-- Two declarations agree: they have one name, the types of common variables are the same up to white
space, and so are the parameters when both have some. -/
structure Agrees (rule other : Rule) : Prop where
  name_eq : rule.name = other.name
  types : ∀ {name type type'}, rule.varType? name = some type → other.varType? name = some type' →
    sameType type type'
  inherited : rule.inherited = [] ∨ other.inherited = [] ∨ rule.inherited = other.inherited

/-- Two declarations of a rule as one. What both declare is that of the first. -/
def join (rule other : Rule) : Rule where
  name := rule.name
  vars := other.vars ∪ rule.vars
  inherited := if rule.inherited = [] then other.inherited else rule.inherited
  exported := rule.exported ∪ other.exported
  actions := other.actions ∪ rule.actions
  alternatives := rule.alternatives ++ other.alternatives

theorem varType?_join : (rule.join other).varType? name = (rule.varType? name).or (other.varType? name) :=
  ExtTreeMap.getElem?_union

theorem varType?_join_of_first (h : rule.varType? name = some type) :
    (rule.join other).varType? name = some type := by
  rw [varType?_join, h, Option.some_or]

/-- What the second declares has its type up to white space, also where the first declares it. -/
theorem Agrees.varType?_join (h : rule.Agrees other) {found : String}
    (hfound : other.varType? name = some found) :
    ∃ type, (rule.join other).varType? name = some type ∧ sameType type found := by
  rcases hown : rule.varType? name with _ | own
  · exact ⟨found, by rw [Rule.varType?_join, hown, Option.none_or, hfound], by simp⟩
  · exact ⟨own, varType?_join_of_first hown, h.types hown hfound⟩

theorem addTypes_allVars : addTypes rule.vars other.allVars = other.vars ∪ rule.vars := by
  refine ExtTreeMap.ext_getElem? fun name => ?_
  rw [ExtTreeMap.getElem?_union]
  have hadd := @varType?_addTypes rule other.allVars name
  rw [find?_allVars] at hadd
  exact hadd

/-! ## What merging does -/

/-- Parameters are taken over by a rule without any; otherwise they have to be those of the rule, or none. -/
theorem mergeInherited_eq_ok :
    mergeInherited other rule = .ok () after ↔
      (rule.inherited = [] ∨ other.inherited = [] ∨ rule.inherited = other.inherited) ∧
        after = { rule with inherited := if rule.inherited = [] then other.inherited else rule.inherited } := by
  have hrun : mergeInherited other rule =
      if rule.inherited = [] then .ok () { rule with inherited := other.inherited }
      else if other.inherited ≠ [] && other.inherited ≠ rule.inherited then
        .error (.inconsistent (.inheritedDiffer rule.name)) rule
      else .ok () rule := by
    show (if rule.inherited = [] then _ else _ : Edit Unit) rule = _
    split
    · rfl
    · split <;> rfl
  rw [hrun]
  by_cases hnone : rule.inherited = []
  · rw [if_pos hnone, if_pos hnone]
    simp only [EStateM.Result.ok.injEq, true_and, hnone, true_or]
    exact eq_comm
  rw [if_neg hnone, if_neg hnone]
  by_cases hagree : other.inherited = [] ∨ rule.inherited = other.inherited
  · have hsame : ¬(other.inherited ≠ [] && other.inherited ≠ rule.inherited) = true := by
      rcases hagree with heq | heq
      · simp [heq]
      · simp [heq]
    rw [if_neg hsame, and_iff_right (.inr hagree)]
    simp only [EStateM.Result.ok.injEq, true_and]
    exact eq_comm
  · have hdiffer : (other.inherited ≠ [] && other.inherited ≠ rule.inherited) = true := by
      obtain ⟨hsome, hother⟩ := not_or.mp hagree
      simp [hsome, Ne.symm hother]
    rw [if_pos hdiffer]
    simp [hnone, hagree]

/-- Rules of one name are merged by declaring the variables of the other, taking over its parameters and
joining the rest. -/
theorem merge_eq_ok :
    Rule.merge other rule = .ok () after ↔
      rule.name = other.name ∧ ∃ mid last, declareAll other.allVars rule = .ok () mid ∧
        mergeInherited other mid = .ok () last ∧
        after =
          { last with
            exported := last.exported ∪ other.exported
            actions := other.actions ∪ last.actions
            alternatives := last.alternatives ++ other.alternatives } := by
  unfold Rule.merge
  rw [Outcome.bind_eq_ok]
  constructor
  · rintro ⟨_, _, hget, h⟩
    cases hget
    by_cases hname : rule.name = other.name
    · simp only [hname, ne_eq, not_true_eq_false, if_false] at h
      obtain ⟨_, mid, hdeclare, h⟩ := Outcome.bind_eq_ok.mp h
      obtain ⟨_, last, hinherited, hmodify⟩ := Outcome.bind_eq_ok.mp h
      cases hmodify
      exact ⟨hname, mid, last, hdeclare, hinherited, rfl⟩
    · simp only [hname, ne_eq, not_false_eq_true, if_true] at h
      obtain ⟨_, _, hfail, _⟩ := Outcome.bind_eq_ok.mp h
      cases hfail
  · rintro ⟨hname, mid, last, hdeclare, hinherited, rfl⟩
    refine ⟨rule, rule, rfl, ?_⟩
    simp only [hname, ne_eq, not_true_eq_false, if_false]
    exact Outcome.bind_eq_ok.mpr ⟨(), mid, hdeclare, Outcome.bind_eq_ok.mpr ⟨(), last, hinherited, rfl⟩⟩

/-- **Declarations that agree can be merged, and only those. What is left is both as one.** -/
theorem merge_eq_ok_iff : merge other rule = .ok () after ↔ rule.Agrees other ∧ after = rule.join other := by
  have hrow {mid : Rule} : declareAll other.allVars rule = .ok () mid ↔
      (∀ {name type type'}, rule.varType? name = some type → other.varType? name = some type' →
        sameType type type') ∧ mid = { rule with vars := other.vars ∪ rule.vars } := by
    rw [declareAll_eq_ok other.nodup_names_allVars, addTypes_allVars]
    refine and_congr_left fun _ => ⟨fun h name type type' htype htype' => ?_, fun h v hv type htype => ?_⟩
    · exact h ⟨type', name⟩ (mem_allVars.mpr htype') type htype
    · exact h htype (mem_allVars.mp hv)
  rw [merge_eq_ok]
  constructor
  · rintro ⟨hname, mid, last, hdeclare, hinherited, rfl⟩
    obtain ⟨htypes, rfl⟩ := hrow.mp hdeclare
    obtain ⟨hagree, rfl⟩ := mergeInherited_eq_ok.mp hinherited
    exact ⟨⟨hname, htypes, hagree⟩, rfl⟩
  · rintro ⟨⟨hname, htypes, hagree⟩, rfl⟩
    exact ⟨hname, _, _, hrow.mpr ⟨htypes, rfl⟩, mergeInherited_eq_ok.mpr ⟨hagree, rfl⟩, rfl⟩

/-! ## Three declarations -/

theorem Agrees.symm (h : a.Agrees b) : b.Agrees a := by
  refine ⟨h.name_eq.symm, fun htype htype' => ?_, ?_⟩
  · rw [sameType_iff]
    exact (sameType_iff.mp (h.types htype' htype)).symm
  · rcases h.inherited with hnone | hnone | hsame
    · exact .inr (.inl hnone)
    · exact .inl hnone
    · exact .inr (.inr hsame.symm)

theorem join_assoc (a b c : Rule) : (a.join b).join c = a.join (b.join c) := by
  have hinherited : (if (if a.inherited = [] then b.inherited else a.inherited) = [] then c.inherited
      else if a.inherited = [] then b.inherited else a.inherited) =
        if a.inherited = [] then (if b.inherited = [] then c.inherited else b.inherited) else a.inherited := by
    by_cases hnone : a.inherited = []
    · rw [if_pos hnone, if_pos hnone]
    · rw [if_neg hnone, if_neg hnone, if_neg hnone]
  have hunion (s t u : ExtTreeMap String String) : s ∪ (t ∪ u) = (s ∪ t) ∪ u := by
    refine ExtTreeMap.ext_getElem? fun name => ?_
    simp only [ExtTreeMap.getElem?_union, Option.or_assoc]
  have hexported : (a.exported ∪ b.exported) ∪ c.exported = a.exported ∪ (b.exported ∪ c.exported) := by
    refine ExtTreeSet.ext_mem fun name => ?_
    simp only [ExtTreeSet.mem_union_iff, or_assoc]
  exact (Rule.mk.injEq ..).mpr ⟨rfl, hunion .., hinherited, hexported, hunion .., List.append_assoc ..⟩

/-- What agrees with two declarations as one agrees with each of them: the second has the types of the first
where both declare a variable, and the parameters of the first where both have some. -/
theorem join_agrees_iff (hab : a.Agrees b) : (a.join b).Agrees c ↔ a.Agrees c ∧ b.Agrees c := by
  constructor
  · intro h
    have htypes : ∀ {name type type'}, a.varType? name = some type → c.varType? name = some type' →
        sameType type type' :=
      fun htype htype' => h.types (varType?_join_of_first htype) htype'
    have hinherited := h.inherited
    simp only [join] at hinherited
    refine ⟨⟨h.name_eq, htypes, ?_⟩, hab.name_eq.symm.trans h.name_eq,
      fun {name type type'} htype htype' => ?_, ?_⟩
    · by_cases hnone : a.inherited = []
      · exact .inl hnone
      · rwa [if_neg hnone] at hinherited
    · obtain ⟨first, hfirst, hsame⟩ := hab.varType?_join htype
      have hb := sameType_iff.mp hsame
      have hc := sameType_iff.mp (h.types hfirst htype')
      exact sameType_iff.mpr (hb.symm.trans hc)
    · by_cases hnone : a.inherited = []
      · rwa [if_pos hnone] at hinherited
      · rw [if_neg hnone] at hinherited
        rcases hab.inherited with hnot | hb | hb
        · exact absurd hnot hnone
        · exact .inl hb
        · rwa [hb] at hinherited
  · rintro ⟨hac, hbc⟩
    refine ⟨hac.name_eq, fun {name type type'} htype htype' => ?_, ?_⟩
    · rw [varType?_join] at htype
      rcases hfirst : a.varType? name with _ | first
      · rw [hfirst, Option.none_or] at htype
        exact hbc.types htype htype'
      · rw [hfirst, Option.some_or] at htype
        exact hac.types (hfirst.trans htype) htype'
    · simp only [join]
      split
      · exact hbc.inherited
      · exact hac.inherited

theorem agrees_join_iff (hbc : b.Agrees c) : a.Agrees (b.join c) ↔ a.Agrees b ∧ a.Agrees c := by
  constructor
  · intro h
    obtain ⟨hb, hc⟩ := (join_agrees_iff hbc).mp h.symm
    exact ⟨hb.symm, hc.symm⟩
  · rintro ⟨hb, hc⟩
    exact ((join_agrees_iff hbc).mpr ⟨hb.symm, hc.symm⟩).symm

/-- **Merging is associative**: three declarations are merged in either order exactly when each two of them
agree, and both orders leave the same rule. -/
theorem merge_assoc (a b c after : Rule) :
    (∃ ab, merge b a = .ok () ab ∧ merge c ab = .ok () after) ↔
      ∃ bc, merge c b = .ok () bc ∧ merge bc a = .ok () after := by
  simp only [merge_eq_ok_iff]
  constructor
  · rintro ⟨_, ⟨hab, rfl⟩, habc, rfl⟩
    obtain ⟨hac, hbc⟩ := (join_agrees_iff hab).mp habc
    exact ⟨_, ⟨hbc, rfl⟩, (agrees_join_iff hbc).mpr ⟨hab, hac⟩, join_assoc a b c⟩
  · rintro ⟨_, ⟨hbc, rfl⟩, habc, rfl⟩
    obtain ⟨hab, hac⟩ := (agrees_join_iff hbc).mp habc
    exact ⟨_, ⟨hab, rfl⟩, (join_agrees_iff hab).mpr ⟨hac, hbc⟩, (join_assoc a b c).symm⟩

end Rule

end AttributeGrammar
