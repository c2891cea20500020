import AttributeGrammar.Proofs.Grammar.Merging

/-!
# Calls of the edits of a rule

Whatever an edit of a rule does, it does by declaring variables and then one change of the rest, which only
an edit that succeeds gets to.

* `Rule.Call`, `Rule.Call.run` — the edits with their arguments.
* `Rule.Widens` — what a call leaves that fails: the rule with further variables (`Rule.widens_of_error`).
* `Rule.Step` — what a call leaves that succeeds (`Rule.step_of_ok`), and when one does (`Rule.run_of_step`).
* `Rule.keeps_types` — no call takes a variable away or gives it another type.
* `Rule.Coherent` — the names in the parts of a rule are declared in it; `Rule.Coherent.run` — every call
  keeps that, however it ends.
-/

set_option autoImplicit false

namespace AttributeGrammar

open Std (ExtTreeMap ExtTreeSet)
open Outcome (stateBehind)

namespace Rule

variable {rule other mid after : Rule} {type name : String} {vs : List Variable} {item : Item}
    {e : GrammarError}

/-- An edit with its arguments. -/
inductive Call where
  | declare (type name : String)
  | declareInherited (type name : String)
  | declareExport (type name : String)
  | addActionCode (name code : String)
  | push (item : Item)
  | merge (other : Rule)

/-- Edits the rule. -/
def Call.run : Call → Edit Unit
  | .declare type name => discard (Rule.declare type name)
  | .declareInherited type name => Rule.declareInherited type name
  | .declareExport type name => discard (Rule.declareExport type name)
  | .addActionCode name code => Rule.addActionCode name code
  | .push item => Rule.push item
  | .merge other => Rule.merge other

/-! ## Appending an item -/

/-- The rule with an item at the end of its last alternative. -/
def appended (rule : Rule) (item : Item) : Rule :=
  { rule with alternatives := appendToLast item rule.alternatives }

theorem push_emptyName (var : String) (rule : Rule) :
    push (.assignRegex var emptyName) rule = .error (.inconsistent (.emptyAssigned var rule.name)) rule := by
  simp only [push, if_true]
  rfl

theorem push_eq_modify (h : item.textVar? = none) : push item = modify fun rule => rule.appended item := by
  cases item with
  | assignText | assignRegex => cases h
  | _ => rfl

theorem push_eq_declare {var : String} (h : item.textVar? = some var)
    (hassign : ∀ var, item ≠ .assignRegex var emptyName) :
    push item = discard (declare textType var) >>= fun _ => modify fun rule => rule.appended item := by
  cases item with
  | assignText =>
    cases h
    rfl
  | assignRegex _ regex =>
    cases h
    have hregex : regex ≠ emptyName := fun heq => hassign var (heq ▸ rfl)
    simp only [push, hregex, if_false]
    rfl
  | _ => cases h

/-! ## Calls that fail -/

/-- The rule `after` is `rule` with further variables. -/
structure Widens (rule after : Rule) : Prop where
  eq : after = { rule with vars := after.vars }
  varType? : ∀ {name type}, rule.varType? name = some type → after.varType? name = some type

theorem Widens.refl (rule : Rule) : rule.Widens rule := ⟨rfl, id⟩

theorem Widens.trans (h : rule.Widens mid) (h' : mid.Widens after) : rule.Widens after := by
  refine ⟨?_, fun htype => h'.varType? (h.varType? htype)⟩
  rw [h'.eq, h.eq]

/-- A failed declaration leaves the rule as it was. -/
theorem declare_eq_error (h : declare type name rule = .error e after) : after = rule := by
  unfold declare at h
  rcases Outcome.bind_eq_error.mp h with hget | ⟨_, _, hget, h⟩
  · cases hget
  cases hget
  rcases hdeclared : rule.varType? name with _ | declared
  · simp only [hdeclared] at h
    cases h
  · simp only [hdeclared] at h
    split at h
    · cases h
    · cases h
      rfl

theorem widens_declare (type name : String) (rule : Rule) :
    rule.Widens (stateBehind (discard (declare type name)) rule) := by
  rw [Outcome.stateBehind_discard, stateBehind]
  rcases hdeclare : declare type name rule with ⟨isNew, after⟩ | ⟨e, after⟩
  · obtain ⟨-, rfl⟩ := discard_declare_eq_ok.mp (Outcome.discard_eq_ok.mpr ⟨isNew, hdeclare⟩)
    exact ⟨rfl, fun htype => by rw [varType?_declared, htype, Option.some_or]⟩
  · rw [declare_eq_error hdeclare]
    exact .refl rule

theorem widens_declareAll (vs : List Variable) (rule : Rule) :
    rule.Widens (stateBehind (declareAll vs) rule) :=
  Outcome.keeps_stateBehind_forM rule.Widens (fun v _ _ h => h.trans (widens_declare v.type v.name _))
    (.refl rule)

/-- What fails leaves the rule with what it declared, if it is declaring variables that fails. -/
theorem widens_of_first {α : Type} {first : Edit Unit} {next : Unit → Edit α}
    (hfirst : rule.Widens (stateBehind first rule))
    (hnext : ∀ mid, rule.Widens mid → next () mid = .error e after → rule.Widens after)
    (h : (first >>= next) rule = .error e after) : rule.Widens after := by
  rcases Outcome.bind_eq_error.mp h with h | ⟨_, mid, hmid, h⟩
  · rwa [Outcome.stateBehind_of_error h] at hfirst
  · rw [Outcome.stateBehind_of_ok hmid] at hfirst
    exact hnext mid hfirst h

theorem mergeInherited_eq_error (h : mergeInherited other rule = .error e after) : after = rule := by
  rcases Outcome.bind_eq_error.mp h with hget | ⟨_, _, hget, h⟩
  · cases hget
  cases hget
  split at h
  · cases h
  · split at h
    · cases h
      rfl
    · cases h

/-- **A call that fails changes nothing but that it may have declared further variables.** -/
theorem widens_of_error {call : Call} (h : call.run rule = .error e after) : rule.Widens after := by
  cases call with
  | declare type name =>
    rw [← Outcome.stateBehind_of_error h]
    exact widens_declare type name rule
  | declareInherited type name =>
    refine widens_of_first (widens_declare type name rule) (fun mid hmid h => ?_) h
    rcases Outcome.bind_eq_error.mp h with hget | ⟨_, _, hget, h⟩
    · cases hget
    cases hget
    split at h
    · cases h
      exact hmid
    · cases h
  | declareExport type name =>
    refine widens_of_first (widens_declare type name rule) (fun mid hmid h => ?_)
      (Outcome.discard_eq_error.mp h)
    cases h
  | addActionCode name code => cases h
  | push item =>
    change push item rule = _ at h
    by_cases hempty : ∃ var, item = .assignRegex var emptyName
    · obtain ⟨var, rfl⟩ := hempty
      cases (push_emptyName var rule).symm.trans h
      exact .refl rule
    rcases hvar : item.textVar? with _ | var
    · rw [push_eq_modify hvar] at h
      cases h
    · rw [push_eq_declare hvar (not_exists.mp hempty)] at h
      exact widens_of_first (widens_declare textType var rule) (fun mid hmid h => by cases h) h
  | merge other =>
    simp only [Call.run, Rule.merge] at h
    rcases Outcome.bind_eq_error.mp h with hget | ⟨_, _, hget, h⟩
    · cases hget
    cases hget
    by_cases hname : rule.name = other.name
    · simp only [hname, ne_eq, not_true_eq_false, if_false] at h
      refine widens_of_first (widens_declareAll other.allVars rule) (fun mid hmid h => ?_) h
      rcases Outcome.bind_eq_error.mp h with h | ⟨_, _, _, h⟩
      · rwa [mergeInherited_eq_error h]
      · cases h
    · simp only [hname, ne_eq, not_false_eq_true, if_true] at h
      rcases Outcome.bind_eq_error.mp h with hfail | ⟨_, _, hfail, _⟩
      · cases hfail
        exact .refl rule
      · cases hfail

/-! ## Calls that succeed -/

/-- What a call that succeeds leaves of a rule. -/
inductive Step (rule : Rule) : Call → Rule → Prop where
  | declare {type name : String} : rule.CanDeclare type name →
      Step rule (.declare type name) (rule.declared type name)
  | declareInherited {type name : String} : rule.CanDeclare type name → name ∉ rule.inherited →
      Step rule (.declareInherited type name)
        { rule.declared type name with inherited := rule.inherited ++ [name] }
  | declareExport {type name : String} : rule.CanDeclare type name →
      Step rule (.declareExport type name)
        { rule.declared type name with exported := rule.exported.insert name }
  | addActionCode {name code : String} :
      Step rule (.addActionCode name code) { rule with actions := rule.actions.insertIfNew name code }
  | push {item : Item} : item.textVar? = none → Step rule (.push item) (rule.appended item)
  | pushText {item : Item} {var : String} : item.textVar? = some var →
      (∀ var, item ≠ .assignRegex var emptyName) →
      rule.CanDeclare textType var → Step rule (.push item) ((rule.declared textType var).appended item)
  | merge {other : Rule} : rule.Agrees other → Step rule (.merge other) (rule.join other)

/-- **What a call leaves when it succeeds.** -/
theorem step_of_ok (call : Call) (h : call.run rule = .ok () after) : rule.Step call after := by
  cases call with
  | declare type name =>
    obtain ⟨hcan, rfl⟩ := discard_declare_eq_ok.mp h
    exact .declare hcan
  | declareInherited type name =>
    obtain ⟨_, _, hdeclare, h⟩ := Outcome.bind_eq_ok.mp h
    obtain ⟨hcan, rfl⟩ := discard_declare_eq_ok.mp hdeclare
    obtain ⟨_, _, hget, h⟩ := Outcome.bind_eq_ok.mp h
    cases hget
    split at h
    · cases h
    · rename_i hnew
      cases h
      exact .declareInherited hcan hnew
  | declareExport type name =>
    obtain ⟨_, h⟩ := Outcome.discard_eq_ok.mp h
    obtain ⟨_, _, hdeclare, h⟩ := Outcome.bind_eq_ok.mp h
    obtain ⟨hcan, rfl⟩ := discard_declare_eq_ok.mp hdeclare
    cases h
    exact .declareExport hcan
  | addActionCode name code =>
    cases h
    exact .addActionCode
  | push item =>
    change push item rule = _ at h
    by_cases hempty : ∃ var, item = .assignRegex var emptyName
    · obtain ⟨var, rfl⟩ := hempty
      cases (push_emptyName var rule).symm.trans h
    rcases hvar : item.textVar? with _ | var
    · rw [push_eq_modify hvar] at h
      cases h
      exact .push hvar
    · rw [push_eq_declare hvar (not_exists.mp hempty)] at h
      obtain ⟨_, _, hdeclare, h⟩ := Outcome.bind_eq_ok.mp h
      obtain ⟨hcan, rfl⟩ := discard_declare_eq_ok.mp hdeclare
      cases h
      exact .pushText hvar (not_exists.mp hempty) hcan
  | merge other =>
    obtain ⟨hagrees, rfl⟩ := merge_eq_ok_iff.mp h
    exact .merge hagrees

/-- A call succeeds when nothing is in its way. -/
theorem run_of_step {call : Call} (h : rule.Step call after) : call.run rule = .ok () after := by
  cases h with
  | declare hcan => exact discard_declare_eq_ok.mpr ⟨hcan, rfl⟩
  | declareInherited hcan hnew =>
    exact Outcome.bind_eq_ok.mpr ⟨(), _, discard_declare_eq_ok.mpr ⟨hcan, rfl⟩,
      Outcome.bind_eq_ok.mpr ⟨_, _, rfl, by rw [if_neg (by exact hnew)]; rfl⟩⟩
  | declareExport hcan =>
    exact Outcome.discard_eq_ok.mpr
      ⟨_, Outcome.bind_eq_ok.mpr ⟨(), _, discard_declare_eq_ok.mpr ⟨hcan, rfl⟩, rfl⟩⟩
  | addActionCode => rfl
  | push hvar => exact congrFun (push_eq_modify hvar) rule
  | pushText hvar hassign hcan =>
    refine (congrFun (push_eq_declare hvar hassign) rule).trans ?_
    exact Outcome.bind_eq_ok.mpr ⟨(), _, discard_declare_eq_ok.mpr ⟨hcan, rfl⟩, rfl⟩
  | merge hagrees => exact merge_eq_ok_iff.mpr ⟨hagrees, rfl⟩

/-! ## Types are kept -/

/-- A step keeps the types of the variables. -/
theorem Step.varType? {call : Call} {key found : String} (h : rule.Step call after)
    (hkey : rule.varType? key = some found) : after.varType? key = some found := by
  have hdeclared (type name : String) : (rule.declared type name).varType? key = some found := by
    rw [varType?_declared, hkey, Option.some_or]
  cases h with
  | declare | declareInherited | declareExport | pushText => exact hdeclared _ _
  | addActionCode | push => exact hkey
  | merge => exact varType?_join_of_first hkey

/-- **No call takes a variable away or gives it another type**, however it ends. -/
theorem keeps_types (call : Call) {key found : String} (hkey : rule.varType? key = some found) :
    (stateBehind call.run rule).varType? key = some found := by
  rcases h : call.run rule with ⟨_, after⟩ | ⟨e, after⟩
  · rw [Outcome.stateBehind_of_ok h]
    exact (step_of_ok call h).varType? hkey
  · rw [Outcome.stateBehind_of_error h]
    exact (widens_of_error h).varType? hkey

/-! ## Coherent rules -/

/-- The names in the parts of a rule are declared in it: it has an alternative; its parameters have names of
their own and are declared, and so are its exports; a variable that takes the text of a token is declared as
a text, and none takes that of the empty string. -/
structure Coherent (rule : Rule) : Prop where
  alternatives : rule.alternatives ≠ []
  distinct : rule.inherited.Nodup
  inherited : ∀ name ∈ rule.inherited, rule.hasVar name
  exported : ∀ name ∈ rule.exported, rule.hasVar name
  texts : ∀ item ∈ rule.items, ∀ var ∈ item.textVar?, ∃ type, rule.varType? var = some type ∧
    sameType type textType
  assigns : ∀ item ∈ rule.items, ∀ var, item ≠ .assignRegex var emptyName

theorem coherent_new (name : String) : (new name).Coherent :=
  ⟨by simp [new], by simp [new], by simp [new], by simp [new], by simp [items, new], by simp [items, new]⟩

/-- A rule with further variables is coherent when it was. -/
theorem Coherent.widens (h : rule.Coherent) (hwidens : rule.Widens after) : after.Coherent := by
  have hvars : ∀ name, rule.hasVar name → after.hasVar name := by
    intro name hvar
    obtain ⟨type, htype⟩ := hasVar_iff.mp hvar
    exact hasVar_iff.mpr ⟨type, hwidens.varType? htype⟩
  have htexts : ∀ item ∈ rule.items, ∀ var ∈ item.textVar?,
      ∃ type, after.varType? var = some type ∧ sameType type textType := by
    intro item hitem var hvar
    obtain ⟨type, htype, hsame⟩ := h.texts item hitem var hvar
    exact ⟨type, hwidens.varType? htype, hsame⟩
  obtain ⟨heq, -⟩ := hwidens
  rw [heq]
  rw [heq] at hvars htexts
  exact ⟨h.alternatives, h.distinct, fun name hname => hvars name (h.inherited name hname),
    fun name hname => hvars name (h.exported name hname), htexts, h.assigns⟩

theorem widens_declared (type name : String) (rule : Rule) : rule.Widens (rule.declared type name) :=
  ⟨rfl, fun htype => by rw [varType?_declared, htype, Option.some_or]⟩

/-- A variable that can be declared has the type, up to white space, once it is. -/
theorem CanDeclare.varType? (h : rule.CanDeclare type name) :
    ∃ found, (rule.declared type name).varType? name = some found ∧ sameType found type := by
  rw [varType?_declared, if_pos rfl]
  rcases hfound : rule.varType? name with _ | found
  · exact ⟨type, rfl, by simp⟩
  · exact ⟨found, rfl, h found hfound⟩

theorem appendToLast_ne_nil {alternatives : List Alternative} (h : alternatives ≠ []) :
    appendToLast item alternatives ≠ [] := by
  fun_cases appendToLast item alternatives with
  | case1 => exact h
  | case2 | case3 => simp

theorem Coherent.appended (h : rule.Coherent)
    (htext : ∀ var ∈ item.textVar?, ∃ type, rule.varType? var = some type ∧ sameType type textType)
    (hassigns : ∀ var, item ≠ .assignRegex var emptyName) : (rule.appended item).Coherent := by
  refine ⟨?_, h.distinct, h.inherited, h.exported, fun i hi => ?_, fun i hi => ?_⟩
  · exact appendToLast_ne_nil h.alternatives
  · rcases mem_appendToLast hi with hi | rfl
    · exact h.texts i hi
    · exact htext
  · rcases mem_appendToLast hi with hi | rfl
    · exact h.assigns i hi
    · exact hassigns

theorem Coherent.join (h : rule.Coherent) (hother : other.Coherent) (hagrees : rule.Agrees other) :
    (rule.join other).Coherent := by
  have hvars : ∀ var, rule.hasVar var ∨ other.hasVar var → (rule.join other).hasVar var := by
    rintro var (hvar | hvar)
    · obtain ⟨type, htype⟩ := hasVar_iff.mp hvar
      exact hasVar_iff.mpr ⟨type, varType?_join_of_first htype⟩
    · obtain ⟨type, htype⟩ := hasVar_iff.mp hvar
      obtain ⟨found, hfound, -⟩ := hagrees.varType?_join htype
      exact hasVar_iff.mpr ⟨found, hfound⟩
  have hitems : (rule.join other).items = rule.items ++ other.items := List.flatMap_append
  refine ⟨?_, ?_, ?_, fun name hname => ?_, ?_, ?_⟩
  · exact List.append_ne_nil_of_left_ne_nil h.alternatives _
  · show (if rule.inherited = [] then other.inherited else rule.inherited).Nodup
    split
    · exact hother.distinct
    · exact h.distinct
  · show ∀ name ∈ (if rule.inherited = [] then other.inherited else rule.inherited), _
    split
    · exact fun name hname => hvars name (.inr (hother.inherited name hname))
    · exact fun name hname => hvars name (.inl (h.inherited name hname))
  · rcases ExtTreeSet.mem_union_iff.mp hname with hname | hname
    · exact hvars name (.inl (h.exported name hname))
    · exact hvars name (.inr (hother.exported name hname))
  · rw [hitems, List.forall_mem_append]
    refine ⟨fun item hitem var hvar => ?_, fun item hitem var hvar => ?_⟩
    · obtain ⟨type, htype, hsame⟩ := h.texts item hitem var hvar
      exact ⟨type, varType?_join_of_first htype, hsame⟩
    · obtain ⟨type, htype, hsame⟩ := hother.texts item hitem var hvar
      obtain ⟨found, hfound, hfirst⟩ := hagrees.varType?_join htype
      rw [sameType_iff] at hsame hfirst
      exact ⟨found, hfound, sameType_iff.mpr (hfirst.trans hsame)⟩
  · rw [hitems, List.forall_mem_append]
    exact ⟨h.assigns, hother.assigns⟩

/-- A step keeps a rule coherent; a rule that is merged into it has to be coherent, too. -/
theorem Coherent.step {call : Call} (h : rule.Coherent) (hother : ∀ other, call = .merge other → other.Coherent)
    (hstep : rule.Step call after) : after.Coherent := by
  have hdeclared (type name : String) : (rule.declared type name).Coherent :=
    h.widens (widens_declared type name rule)
  cases hstep with
  | declare => exact hdeclared _ _
  | @declareInherited type name hcan hnew =>
    obtain ⟨found, hfound, -⟩ := hcan.varType?
    obtain ⟨halternatives, hdistinct, hinherited, hexported, htexts, hassigns⟩ := hdeclared type name
    refine ⟨halternatives, ?_, ?_, hexported, htexts, hassigns⟩
    · exact List.nodup_append.mpr ⟨h.distinct, List.nodup_singleton _, fun a ha b hb => by
        rw [List.mem_singleton.mp hb]
        exact fun heq => hnew (heq ▸ ha)⟩
    · exact List.forall_mem_append.mpr ⟨hinherited,
        List.forall_mem_singleton.mpr (hasVar_iff.mpr ⟨found, hfound⟩)⟩
  | @declareExport type name hcan =>
    obtain ⟨found, hfound, -⟩ := hcan.varType?
    obtain ⟨halternatives, hdistinct, hinherited, hexported, htexts, hassigns⟩ := hdeclared type name
    refine ⟨halternatives, hdistinct, hinherited, fun other hname => ?_, htexts, hassigns⟩
    rcases ExtTreeSet.mem_insert.mp hname with heq | hname
    · rw [← Std.LawfulEqCmp.eq_of_compare heq]
      exact hasVar_iff.mpr ⟨found, hfound⟩
    · exact hexported other hname
  | addActionCode => exact ⟨h.alternatives, h.distinct, h.inherited, h.exported, h.texts, h.assigns⟩
  | push hnone =>
    refine h.appended (fun var hvar => ?_) fun var heq => ?_
    · rw [hnone] at hvar
      cases hvar
    · rw [heq] at hnone
      cases hnone
  | @pushText item var hvar hassigns hcan =>
    refine (hdeclared textType var).appended (fun other hother => ?_) hassigns
    cases hvar.symm.trans hother
    exact hcan.varType?
  | merge hagrees => exact h.join (hother _ rfl) hagrees

/-- **A call leaves a coherent rule coherent**, whether it succeeds or fails. -/
theorem Coherent.run (h : rule.Coherent) (call : Call)
    (hother : ∀ other, call = .merge other → other.Coherent) :
    (stateBehind call.run rule).Coherent := by
  rcases hrun : call.run rule with ⟨_, after⟩ | ⟨e, after⟩
  · rw [Outcome.stateBehind_of_ok hrun]
    exact h.step hother (step_of_ok call hrun)
  · rw [Outcome.stateBehind_of_error hrun]
    exact h.widens (widens_of_error hrun)

/-- A list of declared names loses none when it is given its types. -/
theorem map_withTypes {names : List String} (h : ∀ name ∈ names, rule.hasVar name) :
    (rule.withTypes names).map Variable.name = names := by
  induction names with
  | nil => rfl
  | cons name names ih =>
    obtain ⟨hname, hnames⟩ := List.forall_mem_cons.mp h
    obtain ⟨type, htype⟩ := hasVar_iff.mp hname
    have hrest := ih hnames
    rw [withTypes] at hrest ⊢
    simp [htype, hrest]

end Rule

end AttributeGrammar
