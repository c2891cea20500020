import AttributeGrammar.Description.Name
import AttributeGrammar.Grammar.Resolve
import AttributeGrammar.Proofs.Outcome

/-!
# Well-formed grammars

* `Rule.WellFormed`, `Grammar.WellFormed` — rules and regex terminals have names of their classes, and
  a variable that takes the text of a token is declared.
* `Rule.Extends` — what an edit that only declares leaves of a rule.
* `Rule.WellFormed.push`, `Rule.WellFormed.merge`, `Grammar.WellFormed.addRule` — edits keep rules and
  grammars well-formed.
-/

set_option autoImplicit false

namespace AttributeGrammar

open Description (isRuleName isRegexName)

/-- The variable that takes the text of a token. -/
def Item.textVar? : Item → Option String
  | .assignText var _ | .assignRegex var _ => some var
  | _ => none

namespace Rule

variable {rule other after : Rule} {type name : String}

/-- A rule has a name of its class and declares the variables that take the text of a token. -/
structure WellFormed (rule : Rule) : Prop where
  name : isRuleName rule.name
  declares : ∀ item ∈ rule.items, ∀ var ∈ item.textVar?, rule.hasVar var

/-- The rule `after` has the name and the alternatives of `rule`, and declares all that `rule` does. -/
structure Extends (rule after : Rule) : Prop where
  name_eq : after.name = rule.name
  alternatives_eq : after.alternatives = rule.alternatives
  hasVar : ∀ var, rule.hasVar var → after.hasVar var

theorem Extends.refl (rule : Rule) : rule.Extends rule := ⟨rfl, rfl, fun _ h => h⟩

theorem Extends.trans (h : rule.Extends other) (h' : other.Extends after) : rule.Extends after :=
  ⟨h'.name_eq.trans h.name_eq, h'.alternatives_eq.trans h.alternatives_eq,
    fun var hvar => h'.hasVar var (h.hasVar var hvar)⟩

theorem WellFormed.extends (h : rule.WellFormed) (hextends : rule.Extends after) : after.WellFormed := by
  refine ⟨hextends.name_eq ▸ h.name, ?_⟩
  intro item hitem var hvar
  rw [items, hextends.alternatives_eq] at hitem
  exact hextends.hasVar var (h.declares item hitem var hvar)

theorem wellFormed_new (h : isRuleName name) : (new name).WellFormed :=
  ⟨h, fun item hitem => by simp [items, new] at hitem⟩

/-! ## Edits of a rule -/

theorem extends_declare {isNew : Bool} (h : declare type name rule = .ok isNew after) :
    rule.Extends after ∧ after.hasVar name := by
  unfold declare at h
  obtain ⟨_, _, hget, h⟩ := Outcome.bind_eq_ok.mp h
  cases hget
  rcases hdeclared : rule.varType? name with _ | declared
  · simp only [hdeclared] at h
    cases h
    refine ⟨⟨rfl, rfl, fun var hvar => ?_⟩, ?_⟩
    · simp only [hasVar, Std.ExtTreeMap.contains_insert, Bool.or_eq_true]
      exact Or.inr hvar
    · simp [hasVar]
  · simp only [hdeclared] at h
    by_cases hsame : sameType declared type
    · rw [if_pos hsame] at h
      cases h
      refine ⟨Extends.refl _, ?_⟩
      rw [hasVar, Std.ExtTreeMap.contains_eq_isSome_getElem?]
      rw [varType?] at hdeclared
      rw [hdeclared]
      rfl
    · rw [if_neg hsame] at h
      cases h

theorem extends_declareInherited (h : declareInherited type name rule = .ok () after) :
    rule.Extends after := by
  obtain ⟨_, mid, hdiscard, h⟩ := Outcome.bind_eq_ok.mp h
  obtain ⟨_, hdeclare⟩ := Outcome.discard_eq_ok.mp hdiscard
  obtain ⟨_, _, hget, h⟩ := Outcome.bind_eq_ok.mp h
  cases hget
  split at h
  · cases h
  · cases h
    obtain ⟨hname, halternatives, hvars⟩ := (extends_declare hdeclare).1
    exact ⟨hname, halternatives, hvars⟩

theorem extends_declareExport {isNew : Bool} (h : declareExport type name rule = .ok isNew after) :
    rule.Extends after := by
  obtain ⟨_, mid, hdiscard, h⟩ := Outcome.bind_eq_ok.mp h
  obtain ⟨_, hdeclare⟩ := Outcome.discard_eq_ok.mp hdiscard
  obtain ⟨_, _, hget, h⟩ := Outcome.bind_eq_ok.mp h
  cases hget
  cases h
  obtain ⟨hname, halternatives, hvars⟩ := (extends_declare hdeclare).1
  exact ⟨hname, halternatives, hvars⟩

theorem extends_adopt {action : Action} (h : adopt action rule = .ok () after) : rule.Extends after := by
  obtain ⟨_, mid, hexports, h⟩ := Outcome.bind_eq_ok.mp h
  have hextends : rule.Extends mid := by
    refine Outcome.forM_relates Extends Extends.refl Extends.trans (fun v _ s t hstep => ?_) hexports
    obtain ⟨_, hdeclare⟩ := Outcome.discard_eq_ok.mp hstep
    exact extends_declareExport hdeclare
  cases h
  exact hextends.trans ⟨rfl, rfl, fun _ h => h⟩

theorem extends_adoptActions {grammar : Grammar} (h : adoptActions grammar rule = .ok () after) :
    rule.Extends after := by
  obtain ⟨_, _, hget, h⟩ := Outcome.bind_eq_ok.mp h
  cases hget
  refine Outcome.forM_relates Extends Extends.refl Extends.trans (fun name _ s t hstep => ?_) h
  rcases haction : grammar.action? name with _ | action
  · simp only [haction] at hstep
    cases hstep
  · simp only [haction] at hstep
    exact extends_adopt hstep

/-- Every item behind an append was there before or is the one appended. -/
theorem mem_appendToLast {item : Item} {alternatives : List Alternative} {i : Item}
    (h : i ∈ (appendToLast item alternatives).flatMap Alternative.items) :
    i ∈ alternatives.flatMap Alternative.items ∨ i = item := by
  fun_induction appendToLast item alternatives with
  | case1 => exact Or.inl h
  | case2 last => simpa using h
  | case3 alternative rest _ ih =>
    rw [List.flatMap_cons, List.mem_append] at h ⊢
    rcases h with h | h
    · exact Or.inl (Or.inl h)
    · rcases ih h with h | h
      · exact Or.inl (Or.inr h)
      · exact Or.inr h

/-- Appending an item keeps a rule well-formed once its variable is declared. -/
theorem WellFormed.append {item : Item} (hrule : rule.WellFormed)
    (hvar : ∀ var ∈ item.textVar?, rule.hasVar var) :
    WellFormed { rule with alternatives := appendToLast item rule.alternatives } := by
  refine ⟨hrule.name, fun i hi var hi' => ?_⟩
  rcases mem_appendToLast hi with hi | rfl
  · exact hrule.declares i hi var hi'
  · exact hvar var hi'

theorem WellFormed.push {item : Item} (hrule : rule.WellFormed) (h : push item rule = .ok () after) :
    after.WellFormed := by
  cases item with
  | assignText var literal =>
    obtain ⟨_, mid, hdiscard, h⟩ := Outcome.bind_eq_ok.mp h
    obtain ⟨_, hdeclare⟩ := Outcome.discard_eq_ok.mp hdiscard
    obtain ⟨hextends, hvar⟩ := extends_declare hdeclare
    cases h
    exact (hrule.extends hextends).append fun _ heq => Option.some.inj heq ▸ hvar
  | assignRegex var name =>
    by_cases hempty : name = emptyName
    · simp only [Rule.push, hempty, if_true] at h
      obtain ⟨_, _, hget, h⟩ := Outcome.bind_eq_ok.mp h
      cases hget
      cases h
    · simp only [Rule.push, hempty, if_false] at h
      obtain ⟨_, mid, hdiscard, h⟩ := Outcome.bind_eq_ok.mp h
      obtain ⟨_, hdeclare⟩ := Outcome.discard_eq_ok.mp hdiscard
      obtain ⟨hextends, hvar⟩ := extends_declare hdeclare
      cases h
      exact (hrule.extends hextends).append fun _ heq => Option.some.inj heq ▸ hvar
  | _ =>
    cases h
    exact hrule.append fun _ heq => by cases heq

theorem extends_mergeInherited (h : mergeInherited other rule = .ok () after) : rule.Extends after := by
  obtain ⟨_, _, hget, h⟩ := Outcome.bind_eq_ok.mp h
  cases hget
  by_cases hnone : rule.inherited = []
  · simp only [hnone, if_true] at h
    cases h
    exact ⟨rfl, rfl, fun _ h => h⟩
  · simp only [hnone, if_false] at h
    split at h
    · cases h
    · cases h
      exact Extends.refl _

/-- Declaring some variables declares all of them. -/
theorem extends_declareAll {vars : List Variable}
    (h : (vars.forM fun v => discard (declare v.type v.name)) rule = .ok () after) :
    rule.Extends after ∧ ∀ v ∈ vars, after.hasVar v.name := by
  induction vars generalizing rule with
  | nil =>
    cases h
    exact ⟨Extends.refl _, by simp⟩
  | cons v vars ih =>
    obtain ⟨_, mid, hfirst, hrest⟩ := Outcome.bind_eq_ok.mp h
    obtain ⟨_, hdeclare⟩ := Outcome.discard_eq_ok.mp hfirst
    obtain ⟨hextends, hvar⟩ := extends_declare hdeclare
    obtain ⟨hmore, hvars⟩ := ih hrest
    exact ⟨hextends.trans hmore, List.forall_mem_cons.mpr ⟨hmore.hasVar _ hvar, hvars⟩⟩

/-- A variable is declared exactly when it has a type. -/
theorem hasVar_iff : rule.hasVar name ↔ ∃ type, rule.varType? name = some type := by
  rw [hasVar, Std.ExtTreeMap.contains_eq_isSome_getElem?, Option.isSome_iff_exists, varType?]

theorem mem_allVars {v : Variable} : v ∈ rule.allVars ↔ rule.varType? v.name = some v.type := by
  rw [allVars, List.mem_map, varType?]
  constructor
  · rintro ⟨⟨name, type⟩, hmem, rfl⟩
    exact Std.ExtTreeMap.mem_toList_iff_getElem?_eq_some.mp hmem
  · exact fun htype => ⟨(v.name, v.type), Std.ExtTreeMap.mem_toList_iff_getElem?_eq_some.mpr htype, rfl⟩

theorem exists_mem_allVars (h : rule.hasVar name) : ∃ v ∈ rule.allVars, v.name = name := by
  obtain ⟨type, htype⟩ := hasVar_iff.mp h
  exact ⟨⟨type, name⟩, mem_allVars.mpr htype, rfl⟩

theorem WellFormed.merge (hrule : rule.WellFormed) (hother : other.WellFormed)
    (h : Rule.merge other rule = .ok () after) : after.WellFormed := by
  obtain ⟨_, _, hget, h⟩ := Outcome.bind_eq_ok.mp h
  cases hget
  by_cases hname : rule.name = other.name
  · simp only [hname, ne_eq, not_true_eq_false, if_false] at h
    obtain ⟨_, mid, hdeclare, h⟩ := Outcome.bind_eq_ok.mp h
    obtain ⟨_, last, hinherited, h⟩ := Outcome.bind_eq_ok.mp h
    obtain ⟨hextends, hvars⟩ := extends_declareAll hdeclare
    have hmerged := extends_mergeInherited hinherited
    have hwell := hrule.extends (hextends.trans hmerged)
    cases h
    refine ⟨hwell.name, fun item hitem var hvar => ?_⟩
    rw [items, List.flatMap_append, List.mem_append] at hitem
    rcases hitem with hitem | hitem
    · exact hwell.declares item hitem var hvar
    · obtain ⟨v, hv, rfl⟩ := exists_mem_allVars (hother.declares item hitem var hvar)
      exact hmerged.hasVar _ (hvars v hv)
  · simp only [hname, ne_eq, not_false_eq_true, if_true] at h
    obtain ⟨_, _, hfail, _⟩ := Outcome.bind_eq_ok.mp h
    cases hfail

end Rule

/-! ## Edits of a grammar -/

namespace Grammar

variable {grammar after : Grammar} {rule : Rule}

/-- The rules are well-formed, and the regex terminals have names of their class. -/
structure WellFormed (grammar : Grammar) : Prop where
  rules : ∀ rule ∈ grammar.rules, rule.WellFormed
  regexes : ∀ regex ∈ grammar.regexes, isRegexName regex.name

theorem wellFormed_empty : empty.WellFormed := ⟨by simp [empty], by simp [empty]⟩

theorem WellFormed.replaceRule (hgrammar : grammar.WellFormed) (hrule : rule.WellFormed) :
    (grammar.replaceRule rule).WellFormed := by
  refine ⟨fun other hother => ?_, hgrammar.regexes⟩
  obtain ⟨old, hold, rfl⟩ := List.mem_map.mp hother
  split
  · exact hrule
  · exact hgrammar.rules old hold

theorem WellFormed.editRule {α : Type} {edit : Rule.Edit α} {a : α} (hgrammar : grammar.WellFormed)
    (hedit : ∀ {changed}, edit rule = .ok a changed → changed.WellFormed)
    (h : Grammar.editRule rule edit grammar = .ok a after) : after.WellFormed := by
  unfold Grammar.editRule at h
  rcases hresult : edit rule with ⟨b, changed⟩ | ⟨e, changed⟩
  · rw [hresult] at h
    cases h
    exact hgrammar.replaceRule (hedit hresult)
  · rw [hresult] at h
    cases h

theorem WellFormed.addRule (hgrammar : grammar.WellFormed) (hrule : rule.WellFormed)
    (h : addRule rule grammar = .ok () after) : after.WellFormed := by
  obtain ⟨_, _, hget, h⟩ := Outcome.bind_eq_ok.mp h
  cases hget
  rcases hexisting : grammar.rule? rule.name with _ | existing
  · simp only [hexisting] at h
    cases h
    refine ⟨fun other hother => ?_, hgrammar.regexes⟩
    rcases List.mem_append.mp hother with hother | hother
    · exact hgrammar.rules other hother
    · rw [List.mem_singleton.mp hother]
      exact hrule
  · simp only [hexisting] at h
    exact hgrammar.editRule
      (fun hmerge => (hgrammar.rules existing (List.mem_of_find?_eq_some hexisting)).merge hrule hmerge) h

theorem WellFormed.addAction {action : Action} (hgrammar : grammar.WellFormed)
    (h : addAction action grammar = .ok () after) : after.WellFormed := by
  obtain ⟨_, _, hget, h⟩ := Outcome.bind_eq_ok.mp h
  cases hget
  split at h
  · cases h
  · cases h
    exact ⟨hgrammar.rules, hgrammar.regexes⟩

theorem WellFormed.addRegex {name : String} (hgrammar : grammar.WellFormed) (hname : isRegexName name)
    (pattern : String) : (grammar.addRegex name pattern).WellFormed := by
  refine ⟨hgrammar.rules, fun regex hregex => ?_⟩
  rcases List.mem_append.mp hregex with hregex | hregex
  · exact hgrammar.regexes regex hregex
  · rw [List.mem_singleton.mp hregex]
    exact hname

end Grammar

end AttributeGrammar
