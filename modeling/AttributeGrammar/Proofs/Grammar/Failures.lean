import AttributeGrammar.Description.Document
import AttributeGrammar.Proofs.Outcome

/-!
# How edits fail

Edits of rules and grammars fail with inconsistencies. They know nothing of the lines of a description.

* `GrammarError.Inconsistent` — the errors that edits fail with.
* `Rule.fails_push`, `Rule.fails_merge`, `Grammar.fails_addRule`, `Grammar.fails_addAction` — the edits.
* `Description.inconsistent_of_toRule`, `Description.inconsistent_of_applyEdit` — the edits that a line asks
  for.
-/

set_option autoImplicit false

namespace AttributeGrammar

open Outcome (Fails)

/-- The error is an inconsistency of a grammar. -/
def GrammarError.Inconsistent (e : GrammarError) : Prop := ∃ fault, e = .inconsistent fault

open GrammarError (Inconsistent)

namespace Rule

theorem fails_fail {α : Type} (fault : GrammarFault) : Fails Inconsistent (Edit.fail fault : Edit α) :=
  Fails.throw ⟨fault, rfl⟩

theorem fails_declare (type name : String) : Fails Inconsistent (declare type name) := by
  refine Fails.get.bind fun rule => ?_
  cases rule.varType? name with
  | none => exact (Fails.set _).bind fun _ => Fails.pure true
  | some declared =>
    dsimp only
    split
    · exact Fails.pure false
    · exact fails_fail _

theorem fails_declareInherited (type name : String) : Fails Inconsistent (declareInherited type name) := by
  refine (fails_declare type name).discard.bind fun _ => Fails.get.bind fun rule => ?_
  split
  · exact fails_fail _
  · exact Fails.set _

theorem fails_push (item : Item) : Fails Inconsistent (push item) := by
  have hlast : Fails Inconsistent (modify fun rule : Rule =>
      { rule with alternatives := appendToLast item rule.alternatives } : Edit PUnit) := Fails.modify _
  unfold push
  cases item with
  | assignText var literal => exact (fails_declare textType var).discard.bind fun _ => hlast
  | assignRegex var name =>
    have hempty : Fails Inconsistent (do Edit.fail (.emptyAssigned var (← get).name) : Edit PUnit) :=
      Fails.get.bind fun rule => fails_fail _
    dsimp only
    split
    · exact hempty.bind fun _ => (fails_declare textType var).discard.bind fun _ => hlast
    · exact (fails_declare textType var).discard.bind fun _ => hlast
  | text | regex | rule | assignRule | action => exact (Fails.pure PUnit.unit).bind fun _ => hlast

theorem fails_mergeInherited (other : Rule) : Fails Inconsistent (mergeInherited other) := by
  refine Fails.get.bind fun rule => ?_
  split
  · exact Fails.set _
  split
  · exact fails_fail _
  · exact Fails.pure _

theorem fails_merge (other : Rule) : Fails Inconsistent (merge other) := by
  have hrest : Fails Inconsistent (do
      other.allVars.forM fun v => discard (declare v.type v.name)
      mergeInherited other
      modify fun rule : Rule =>
        { rule with
          exported := rule.exported ∪ other.exported
          actions := other.actions ∪ rule.actions
          alternatives := rule.alternatives ++ other.alternatives } : Edit PUnit) := by
    refine (Fails.forM fun v _ => (fails_declare v.type v.name).discard).bind fun _ => ?_
    exact (fails_mergeInherited other).bind fun _ => Fails.modify _
  refine Fails.get.bind fun rule => ?_
  dsimp only
  split
  · exact (fails_fail _).bind fun _ => hrest
  · exact hrest

end Rule

namespace Grammar

theorem fails_editRule {α : Type} (rule : Rule) {edit : Rule.Edit α} (h : Fails Inconsistent edit) :
    Fails Inconsistent (editRule rule edit) := by
  intro grammar e after hfail
  unfold editRule at hfail
  split at hfail
  · cases hfail
  · rename_i e' changed hedit
    cases hfail
    exact h rule e changed hedit

theorem fails_addRule (rule : Rule) : Fails Inconsistent (addRule rule) := by
  refine Fails.get.bind fun grammar => ?_
  cases grammar.rule? rule.name with
  | none => exact Fails.set _
  | some existing => exact fails_editRule existing (Rule.fails_merge rule)

theorem fails_addAction (action : Action) : Fails Inconsistent (addAction action) := by
  refine Fails.get.bind fun grammar => ?_
  split
  · exact Fails.throw ⟨_, rfl⟩
  · exact Fails.set _

end Grammar

namespace Description

theorem inconsistent_of_toRule {decl : RuleDecl} {e : GrammarError} (h : decl.toRule = .error e) :
    Inconsistent e := by
  have hbuild : Fails Inconsistent decl.build :=
    (Fails.forM fun v _ => Rule.fails_declareInherited v.type v.name).bind fun _ =>
      Fails.forM fun item _ => Rule.fails_push item
  unfold RuleDecl.toRule at h
  split at h
  · cases h
  · rename_i e' rule hfail
    cases h
    exact hbuild _ _ _ hfail

theorem inconsistent_of_applyEdit {grammar : Grammar} {edit : Grammar.Edit Unit} {e : GrammarError}
    (hedit : Fails Inconsistent edit) (h : applyEdit grammar edit = .error e) : Inconsistent e := by
  unfold applyEdit at h
  split at h
  · cases h
  · rename_i e' after hfail
    cases h
    exact hedit _ _ _ hfail

end Description

end AttributeGrammar
