import AttributeGrammar.Proofs.Description.Reading
import AttributeGrammar.Proofs.Grammar.Calls
import AttributeGrammar.Proofs.Grammar.Lookup

/-!
# Rules and grammars that edits build

Rules and grammars come about by edits only, some of which may fail and leave what they had changed.

* `Rule.Built`, `Grammar.Built` — what edits in any order build, those that fail included.
* `Rule.Built.coherent` — the names in the parts of a built rule are declared in it; `Rule.Declaring` is
  what the code that is generated for a rule needs of that.
* `Rule.Built.invariant` — so its parameters and exports are all listed, and calls that fail declare
  variables only.
* `Grammar.Built.rules`, `Grammar.Built.keyed` — the rules of a built grammar are built, also of a resolved one,
  and have names of their own.
* `Description.built_of_readResolved` — reading builds grammars.
-/

set_option autoImplicit false

namespace AttributeGrammar

open Outcome (stateBehind)

namespace Rule

variable {rule other after : Rule} {type name : String}

/-- The rule comes about by edits. Those that fail leave what they had changed. -/
inductive Built : Rule → Prop where
  | new (name : String) : Built (new name)
  | declare {rule : Rule} (type name : String) :
      Built rule → Built (stateBehind (declare type name) rule)
  | declareInherited {rule : Rule} (type name : String) :
      Built rule → Built (stateBehind (declareInherited type name) rule)
  | declareExport {rule : Rule} (type name : String) :
      Built rule → Built (stateBehind (declareExport type name) rule)
  | addActionCode {rule : Rule} (name code : String) :
      Built rule → Built (stateBehind (addActionCode name code) rule)
  | push {rule : Rule} (item : Item) : Built rule → Built (stateBehind (push item) rule)
  | merge {rule other : Rule} : Built rule → Built other → Built (stateBehind (merge other) rule)

/-! ## Declared names -/

/-- The rule declares the variables that take the texts of tokens, its parameters, of which no two have one
name, and its exports. -/
structure Declaring (rule : Rule) : Prop where
  texts : ∀ item ∈ rule.items, ∀ var ∈ item.textVar?, rule.hasVar var
  inherited : ∀ name ∈ rule.inherited, rule.hasVar name
  distinct : rule.inherited.Nodup
  exported : ∀ name ∈ rule.exported, rule.hasVar name

theorem Coherent.declaring (h : rule.Coherent) : rule.Declaring := by
  refine ⟨fun item hitem var hvar => ?_, h.inherited, h.distinct, h.exported⟩
  obtain ⟨type, htype, -⟩ := h.texts item hitem var hvar
  exact hasVar_iff.mpr ⟨type, htype⟩

/-- A rule stays built whatever call is made, if the rules merged into it are. -/
theorem Built.run (h : rule.Built) (call : Call) (hother : ∀ other, call = .merge other → other.Built) :
    (stateBehind call.run rule).Built := by
  cases call with
  | declare type name =>
    rw [Call.run, Outcome.stateBehind_discard]
    exact h.declare type name
  | declareInherited type name => exact h.declareInherited type name
  | declareExport type name =>
    rw [Call.run, Outcome.stateBehind_discard]
    exact h.declareExport type name
  | addActionCode name code => exact h.addActionCode name code
  | push item => exact h.push item
  | merge other => exact h.merge (hother other rfl)

theorem Built.coherent (h : rule.Built) : rule.Coherent := by
  induction h with
  | new name => exact coherent_new name
  | declare type name _ ih =>
    have hrun := ih.run (.declare type name) (by simp)
    rwa [Call.run, Outcome.stateBehind_discard] at hrun
  | declareInherited type name _ ih => exact ih.run (.declareInherited type name) (by simp)
  | declareExport type name _ ih =>
    have hrun := ih.run (.declareExport type name) (by simp)
    rwa [Call.run, Outcome.stateBehind_discard] at hrun
  | addActionCode name code _ ih => exact ih.run (.addActionCode name code) (by simp)
  | push item _ ih => exact ih.run (.push item) (by simp)
  | @merge rule other _ _ ih ihother =>
    exact ih.run (.merge other) fun merged heq => by
      cases heq
      exact ihother

/-- **A rule declares what it uses, whichever edits have built it and however they ended.** -/
theorem Built.declaring (h : rule.Built) : rule.Declaring := h.coherent.declaring

/-- **Whichever edits have built a rule and however they ended, it is coherent**, and none of its parameters
and exports gets lost when they are given their types. Whatever call comes next, no variable goes away or
gets another type, and if the call fails it has declared further variables at most. -/
theorem Built.invariant (h : rule.Built) :
    rule.Coherent ∧ rule.inheritedVars.map Variable.name = rule.inherited ∧
      rule.exportedVars.map Variable.name = rule.exported.toList ∧
      ∀ call : Call,
        (∀ name type, rule.varType? name = some type → (stateBehind call.run rule).varType? name = some type) ∧
        ∀ e after, call.run rule = .error e after → rule.Widens after := by
  have hcoherent := h.coherent
  refine ⟨hcoherent, map_withTypes hcoherent.inherited, map_withTypes fun name hname => ?_, fun call => ?_⟩
  · exact hcoherent.exported name (Std.ExtTreeSet.mem_toList.mp hname)
  · exact ⟨fun name type htype => keeps_types call htype, fun e after herror => widens_of_error herror⟩

/-- A rule with one parameter, which was declared again, once with another type and once with the same. A
merge has failed because of other parameters, and so has the assignment of the empty string. -/
def drafted : Rule :=
  let other := stateBehind (push (.assignText "v" "x")) (stateBehind (declareInherited "i32" "m") (new "r"))
  let first := stateBehind (declareInherited "i32" "n") (stateBehind (declareInherited "u8" "n")
    (stateBehind (declareInherited "i32" "n") (new "r")))
  stateBehind (push (.assignRegex "w" "EPS")) (stateBehind (merge other) first)

theorem invariant_drafted :
    drafted.Built ∧ drafted.Coherent ∧ drafted.inheritedVars.map Variable.name = ["n"] ∧
      drafted.allVars = [⟨"i32", "m"⟩, ⟨"i32", "n"⟩, ⟨"String", "v"⟩] := by
  have hbuilt : drafted.Built := by
    unfold drafted
    exact .push _ (.merge (.declareInherited _ _ (.declareInherited _ _ (.declareInherited _ _ (.new _))))
      (.push _ (.declareInherited _ _ (.new _))))
  obtain ⟨hcoherent, hinherited, -, -⟩ := hbuilt.invariant
  have hparameters : drafted.inherited = ["n"] := by decide +kernel
  have hvars : drafted.allVars = [⟨"i32", "m"⟩, ⟨"i32", "n"⟩, ⟨"String", "v"⟩] := by decide +kernel
  exact ⟨hbuilt, hcoherent, hinherited.trans hparameters, hvars⟩

/-! ## Edits that succeed -/

theorem Built.of_declareInherited (h : rule.Built)
    (hedit : Rule.declareInherited type name rule = .ok () after) :
    after.Built :=
  Outcome.stateBehind_of_ok hedit ▸ .declareInherited type name h

theorem Built.of_declareExport {isNew : Bool} (h : rule.Built)
    (hedit : Rule.declareExport type name rule = .ok isNew after) : after.Built :=
  Outcome.stateBehind_of_ok hedit ▸ .declareExport type name h

theorem Built.of_push {item : Item} (h : rule.Built) (hedit : Rule.push item rule = .ok () after) :
    after.Built :=
  Outcome.stateBehind_of_ok hedit ▸ .push item h

theorem Built.of_adoptActions {grammar : Grammar} (h : rule.Built)
    (hedit : adoptActions grammar rule = .ok () after) : after.Built := by
  obtain ⟨_, _, hget, hactions⟩ := Outcome.bind_eq_ok.mp hedit
  cases hget
  refine Outcome.forM_keeps Built (fun name _ s t hs hstep => ?_) h hactions
  rcases haction : grammar.action? name with _ | action
  · simp only [haction] at hstep
    cases hstep
  simp only [haction] at hstep
  obtain ⟨_, mid, hexports, hcode⟩ := Outcome.bind_eq_ok.mp hstep
  have hmid : mid.Built := Outcome.forM_keeps Built (fun v _ s t hs hexport => by
    obtain ⟨_, hdeclare⟩ := Outcome.discard_eq_ok.mp hexport
    exact hs.of_declareExport hdeclare) hs hexports
  exact Outcome.stateBehind_of_ok hcode ▸ .addActionCode action.name action.code hmid

end Rule

/-! ## Grammars -/

namespace Grammar

variable {grammar after : Grammar} {rule changed : Rule}

/-- The grammar comes about by edits with built rules. Those that fail leave what they had changed. -/
inductive Built : Grammar → Prop where
  | empty : Built .empty
  | setStart {grammar : Grammar} (start : String) : Built grammar → Built (grammar.setStart start)
  | addRegex {grammar : Grammar} (name pattern : String) :
      Built grammar → Built (grammar.addRegex name pattern)
  | addRule {grammar : Grammar} {rule : Rule} :
      Built grammar → rule.Built → Built (stateBehind (addRule rule) grammar)
  | addAction {grammar : Grammar} (action : Action) :
      Built grammar → Built (stateBehind (addAction action) grammar)
  | resolve {grammar after : Grammar} : Built grammar → grammar.resolve.1 = .ok after → Built after

theorem stateBehind_addRule (rule : Rule) (grammar : Grammar) :
    stateBehind (addRule rule) grammar =
      match grammar.rule? rule.name with
      | some existing => grammar.replaceRule (stateBehind (Rule.merge rule) existing)
      | none => { grammar with rules := grammar.rules ++ [rule] } := by
  rw [addRule, Outcome.stateBehind_get_bind]
  rcases grammar.rule? rule.name with _ | existing
  · rfl
  · simp only [stateBehind, editRule]
    rcases Rule.merge rule existing with ⟨_, changed⟩ | ⟨e, changed⟩ <;> rfl

theorem stateBehind_addAction (action : Action) (grammar : Grammar) :
    (stateBehind (addAction action) grammar).rules = grammar.rules := by
  rw [addAction, Outcome.stateBehind_get_bind]
  split <;> rfl

/-- **The rules of a built grammar are built by edits of their own**, also those of a resolved one. -/
theorem Built.rules (h : grammar.Built) : ∀ rule ∈ grammar.rules, rule.Built := by
  have hreplace : ∀ {grammar : Grammar} {changed : Rule}, (∀ rule ∈ grammar.rules, rule.Built) →
      changed.Built → ∀ rule ∈ (grammar.replaceRule changed).rules, rule.Built := by
    intro grammar changed hrules hchanged rule hrule
    obtain ⟨old, hold, rfl⟩ := List.mem_map.mp hrule
    split
    · exact hchanged
    · exact hrules old hold
  induction h with
  | empty => simp [Grammar.empty]
  | setStart _ _ ih | addRegex _ _ _ ih => exact ih
  | @addRule grammar rule _ hrule ih =>
    rw [stateBehind_addRule]
    split
    · rename_i existing hexisting
      exact hreplace ih ((ih existing (List.mem_of_find?_eq_some hexisting)).merge hrule)
    · intro other hother
      rcases List.mem_append.mp hother with hother | hother
      · exact ih other hother
      · rwa [List.mem_singleton.mp hother]
  | addAction action _ ih =>
    rw [stateBehind_addAction]
    exact ih
  | @resolve grammar after _ hresolve ih =>
    obtain ⟨-, merged, hmerged, hcarried⟩ := Resolution.relates_of_resolve
      (fun grammar after : Grammar => (∀ rule ∈ grammar.rules, rule.Built) → ∀ rule ∈ after.rules, rule.Built)
      (fun _ hrules => hrules) (fun hab hbc hrules => hbc (hab hrules))
      (fun {grammar after rule v isNew} hrule hedit hrules => by
        unfold editRule at hedit
        split at hedit
        · rename_i heq
          cases hedit
          exact hreplace hrules ((hrules rule hrule).of_declareExport heq)
        · cases hedit) hresolve
    obtain ⟨rules, rfl, hadopted⟩ := mergeActions_eq_ok.mp hmerged
    refine hcarried fun rule hrule => ?_
    obtain ⟨old, hold, hadopt⟩ := Outcome.exists_mem_left hadopted hrule
    exact (ih old hold).of_adoptActions hadopt

/-- **No two rules of a built grammar have one name.** -/
theorem Built.keyed (h : grammar.Built) : grammar.Keyed := by
  induction h with
  | empty => exact List.nodup_nil
  | setStart _ _ ih | addRegex _ _ _ ih => exact ih
  | @addRule grammar rule _ _ ih =>
    rw [stateBehind_addRule, Keyed]
    split
    · rw [names_replaceRule]
      exact ih
    · rename_i hnone
      rw [List.map_append]
      refine List.nodup_append.mpr ⟨ih, List.nodup_singleton _, fun name hname other hother => ?_⟩
      rw [List.map_singleton, List.mem_singleton] at hother
      rintro rfl
      rw [hother, ← isSome_rule?_iff, hnone] at hname
      cases hname
  | addAction action _ ih => rwa [Keyed, stateBehind_addAction]
  | resolve _ hresolve ih => rwa [Keyed, (extends_of_resolve hresolve).2.names_eq]

end Grammar

/-! ## Descriptions -/

namespace Description

variable {grammar : Grammar} {rule : Rule}

theorem built_of_toRule {decl : RuleDecl} (h : decl.toRule = .ok rule) : rule.Built := by
  unfold RuleDecl.toRule at h
  split at h
  · rename_i hbuild
    cases h
    obtain ⟨_, mid, hinherited, hitems⟩ := Outcome.bind_eq_ok.mp hbuild
    have hmid : mid.Built :=
      Outcome.forM_keeps Rule.Built (fun v _ s after hs hstep => hs.of_declareInherited hstep)
        (.new decl.name) hinherited
    exact Outcome.forM_keeps Rule.Built (fun item _ s after hs hstep => hs.of_push hstep) hmid hitems
  · cases h

/-- **Every grammar that is read is built.** -/
theorem built_of_read {text : String} (h : read text = .ok grammar) : grammar.Built :=
  keeps_read Grammar.Built
    (fun hgrammar hedit => Outcome.stateBehind_of_ok hedit ▸ hgrammar.addAction _)
    (fun hgrammar _ hmade hedit => Outcome.stateBehind_of_ok hedit ▸ hgrammar.addRule (built_of_toRule hmade))
    (fun hgrammar _ _ => hgrammar.addRegex _ _) .empty (fun start hgrammar => hgrammar.setStart start) h

theorem built_of_readResolved {text : String} (h : (readResolved text).1 = .ok grammar) : grammar.Built := by
  obtain ⟨source, hread, hresolve⟩ := readResolved_eq_ok.mp h
  exact (built_of_read hread).resolve hresolve

end Description

end AttributeGrammar
