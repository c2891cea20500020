import AttributeGrammar.Proofs.Language.Progress
import AttributeGrammar.Proofs.Synthesis.Correspondence

/-!
# Recursion of an emitted parser and of its rules

* `Emission.calls_of_enters`, `Emission.enters_of_calls` — steps into children are calls of rules.
* `Grammar.Recurs` — calls of rules lead to a rule that they come back to on the same tokens.
* `Emission.diverges_iff` — so steps into children come back to a place exactly when calls come back.
-/

set_option autoImplicit false

namespace AttributeGrammar

open Relation (ReflTransGen TransGen)

/-- Calls of rules lead from a rule to one that they come back to on the same tokens. -/
def Grammar.Recurs (grammar : Grammar) (call : Rule × List Token) : Prop :=
  ∃ again, ReflTransGen grammar.Calls call again ∧ TransGen grammar.Calls again again

namespace Synthesis

variable {grammar : Grammar} {analysis : Analysis} {generated : Generated} {spec : TokenSpec}
  {symbols front back : List Symbol} {body before behind : List Statement} {name : String}
  {call : ChildCall} {place inner : Place} {caller callee : Rule × List Token}

/-! ## Calls in a body -/

/-- A call of a child belongs to a non-terminal, and what stands before it to the symbols before. -/
theorem Emits.split_call (h : Emits grammar spec symbols body)
    (hbody : body = before ++ .child call :: behind) :
    ∃ front name back child, symbols = front ++ .nonTerminal name :: back ∧
      Emits grammar spec front before ∧ grammar.rule? name = some child ∧ call.node = nodeName name := by
  induction h generalizing before with
  | nil => simp at hbody
  | empty _ ih =>
    obtain ⟨front, name, back, child, rfl, hfront, hchild, hname⟩ := ih hbody
    exact ⟨_ :: front, name, back, child, rfl, .empty hfront, hchild, hname⟩
  | act _ ih =>
    cases before with
    | nil => cases hbody
    | cons statement before =>
      obtain ⟨rfl, hrest⟩ := List.cons.inj hbody
      obtain ⟨front, name, back, child, rfl, hfront, hchild, hname⟩ := ih hrest
      exact ⟨front, name, back, child, rfl, .act hfront, hchild, hname⟩
  | text _ ih =>
    cases before with
    | nil => cases hbody
    | cons statement before =>
      obtain ⟨rfl, hrest⟩ := List.cons.inj hbody
      obtain ⟨front, name, back, child, rfl, hfront, hchild, hname⟩ := ih hrest
      exact ⟨_ :: front, name, back, child, rfl, .text hfront, hchild, hname⟩
  | regex hregex _ ih =>
    cases before with
    | nil => cases hbody
    | cons statement before =>
      obtain ⟨rfl, hrest⟩ := List.cons.inj hbody
      obtain ⟨front, name, back, child, rfl, hfront, hchild, hname⟩ := ih hrest
      exact ⟨_ :: front, name, back, child, rfl, .regex hregex hfront, hchild, hname⟩
  | rule hfirst hnode _ ih =>
    cases before with
    | nil =>
      cases hbody
      exact ⟨[], _, _, _, rfl, .nil, hfirst, hnode⟩
    | cons statement before =>
      obtain ⟨rfl, hrest⟩ := List.cons.inj hbody
      obtain ⟨front, name, back, child, rfl, hfront, hchild, hname⟩ := ih hrest
      exact ⟨_ :: front, name, back, child, rfl, .rule hfirst hnode hfront, hchild, hname⟩

/-- To a non-terminal belongs a call of a child, and to the symbols before it what stands before. -/
theorem Emits.split_nonTerminal (h : Emits grammar spec symbols body)
    (hsymbols : symbols = front ++ .nonTerminal name :: back) :
    ∃ before call behind, body = before ++ .child call :: behind ∧
      Emits grammar spec front before ∧ call.node = nodeName name := by
  induction h generalizing front with
  | nil => simp at hsymbols
  | act _ ih =>
    obtain ⟨before, call, behind, rfl, hbefore, hname⟩ := ih hsymbols
    exact ⟨_ :: before, call, behind, rfl, .act hbefore, hname⟩
  | empty _ ih =>
    cases front with
    | nil => cases hsymbols
    | cons symbol front =>
      obtain ⟨rfl, hrest⟩ := List.cons.inj hsymbols
      obtain ⟨before, call, behind, rfl, hbefore, hname⟩ := ih hrest
      exact ⟨before, call, behind, rfl, .empty hbefore, hname⟩
  | text _ ih =>
    cases front with
    | nil => cases hsymbols
    | cons symbol front =>
      obtain ⟨rfl, hrest⟩ := List.cons.inj hsymbols
      obtain ⟨before, call, behind, rfl, hbefore, hname⟩ := ih hrest
      exact ⟨_ :: before, call, behind, rfl, .text hbefore, hname⟩
  | regex hregex _ ih =>
    cases front with
    | nil => cases hsymbols
    | cons symbol front =>
      obtain ⟨rfl, hrest⟩ := List.cons.inj hsymbols
      obtain ⟨before, call, behind, rfl, hbefore, hname⟩ := ih hrest
      exact ⟨_ :: before, call, behind, rfl, .regex hregex hbefore, hname⟩
  | rule hchild hnode _ ih =>
    cases front with
    | nil =>
      cases hsymbols
      exact ⟨[], _, _, rfl, .nil, hnode⟩
    | cons symbol front =>
      obtain ⟨rfl, hrest⟩ := List.cons.inj hsymbols
      obtain ⟨before, call, behind, rfl, hbefore, hname⟩ := ih hrest
      exact ⟨_ :: before, call, behind, rfl, .rule hchild hnode hbefore, hname⟩

/-! ## One step -/

/-- A place is that of a rule on some tokens. -/
structure PlaceOf (grammar : Grammar) (analysis : Analysis) (generated : Generated) (place : Place)
    (call : Rule × List Token) : Prop where
  mem : call.1 ∈ grammar.rules
  node : nodeTypeOf ⟨grammar, analysis, generated.tokens⟩ call.1 = .ok place.1
  tokens : place.2 = call.2

namespace Emission

theorem placeOf_of_rule? (h : Emission grammar analysis generated) {rule : Rule} {node : NodeType}
    (hrule : grammar.rule? name = some rule) (hnode : generated.parser.node? (nodeName name) = some node)
    (tokens : List Token) : PlaceOf grammar analysis generated (node, tokens) (rule, tokens) :=
  ⟨(Grammar.mem_of_rule? hrule).1, h.node_eq hrule hnode, rfl⟩

/-- **A step into a child is a call of its rule.** -/
theorem calls_of_enters (h : Emission grammar analysis generated)
    (hplace : PlaceOf grammar analysis generated place caller)
    (hstep : generated.parser.Enters place inner) :
    ∃ callee, PlaceOf grammar analysis generated inner callee ∧ grammar.Calls caller callee := by
  obtain ⟨index, before, call, behind, trees, hchoice, hbody, hwalk, hinner⟩ := hstep
  rw [hplace.tokens] at hchoice hwalk
  obtain ⟨token, rest, alternative, htokens, halt, hpicks⟩ :=
    (h.choice?_eq_some_some_iff hplace.mem hplace.node).mp hchoice
  have hbodies := (nodeTypeOf_eq_ok hplace.node).bodies
  obtain ⟨_, hthere, hstatements⟩ := Outcome.exists_getElem?_left hbodies hbody
  cases halt.symm.trans hthere
  obtain ⟨front, name, back, child, hsymbols, hfront, hchild, hname⟩ :=
    (h.emits hstatements).split_call rfl
  exact ⟨(child, inner.2), h.placeOf_of_rule? hchild (hname ▸ hinner) inner.2, alternative,
    List.mem_of_getElem? halt, token, rest, front, name, back, trees, htokens, hpicks, hsymbols,
    h.reads_of_walk hwalk hfront, hchild⟩

/-- **A call of a rule is a step into its node type.** -/
theorem enters_of_calls (h : Emission grammar analysis generated)
    (hplace : PlaceOf grammar analysis generated place caller) (hcall : grammar.Calls caller callee) :
    ∃ inner, PlaceOf grammar analysis generated inner callee ∧ generated.parser.Enters place inner := by
  obtain ⟨alternative, halt, token, rest, front, name, back, trees, htokens, hpicks, hsymbols, hreads,
    hchild⟩ := hcall
  obtain ⟨index, body, hchoice, hbody, hstatements⟩ :=
    @exists_body _ _ _ _ _ h hplace.mem hplace.node _ rest _ halt hpicks
  obtain ⟨before, call, behind, rfl, hbefore, hname⟩ := hstatements.split_nonTerminal hsymbols
  obtain ⟨node, hnode, -⟩ := h.exists_node hchild
  refine ⟨(node, callee.2), h.placeOf_of_rule? hchild hnode callee.2, index, before, call, behind, trees,
    ?_, hbody, ?_, hname ▸ hnode⟩
  · rw [hplace.tokens, htokens]
    exact hchoice
  · rw [hplace.tokens]
    exact h.walk_of_reads hreads hbefore

/-- A place is that of one rule only. -/
theorem call_unique (h : Emission grammar analysis generated)
    (hcaller : PlaceOf grammar analysis generated place caller)
    (hcallee : PlaceOf grammar analysis generated place callee) : caller = callee := by
  have hname := (h.name_eq hcaller.mem hcaller.node).symm.trans (h.name_eq hcallee.mem hcallee.node)
  exact Prod.ext (h.eq_of_nodeName hcaller.mem hcallee.mem hname)
    (hcaller.tokens.symm.trans hcallee.tokens)

end Emission

/-- A rule has one place only. -/
theorem PlaceOf.place_unique (h : PlaceOf grammar analysis generated place caller)
    (h' : PlaceOf grammar analysis generated inner caller) : place = inner := by
  have hnode : place.1 = inner.1 := Except.ok.inj (h.node.symm.trans h'.node)
  exact Prod.ext hnode (h.tokens.trans h'.tokens.symm)

/-! ## Steps in a row -/

section Steps

variable {α β : Type} {step : α → α → Prop} {step' : β → β → Prop} {relates : α → β → Prop}

/-- If every step from related states has a counterpart, then so have all steps in a row. -/
theorem reflTransGen_of_steps
    (hstep : ∀ a a' b, relates a b → step a a' → ∃ b', relates a' b' ∧ step' b b') {a a' : α} {b : β}
    (hrelates : relates a b) (h : ReflTransGen step a a') :
    ∃ b', relates a' b' ∧ ReflTransGen step' b b' := by
  induction h with
  | refl => exact ⟨b, hrelates, .refl⟩
  | tail _ hlast ih =>
    obtain ⟨mid, hmid, hreach⟩ := ih
    obtain ⟨b', hb', hlast'⟩ := hstep _ _ _ hmid hlast
    exact ⟨b', hb', hreach.tail hlast'⟩

theorem transGen_of_steps
    (hstep : ∀ a a' b, relates a b → step a a' → ∃ b', relates a' b' ∧ step' b b') {a a' : α} {b : β}
    (hrelates : relates a b) (h : TransGen step a a') :
    ∃ b', relates a' b' ∧ TransGen step' b b' := by
  obtain ⟨mid, hreach, hlast⟩ := TransGen.tail'_iff.mp h
  obtain ⟨mid', hmid, hreach'⟩ := reflTransGen_of_steps hstep hrelates hreach
  obtain ⟨b', hb', hlast'⟩ := hstep _ _ _ hmid hlast
  exact ⟨b', hb', TransGen.tail' hreach' hlast'⟩

end Steps

/-- **Steps into children come back to a place exactly when calls of rules come back to a rule.** -/
theorem Emission.diverges_iff (h : Emission grammar analysis generated)
    (hplace : PlaceOf grammar analysis generated place caller) :
    generated.parser.Diverges place ↔ grammar.Recurs caller := by
  constructor
  · rintro ⟨again, hreach, hback⟩
    have hstep : ∀ place inner caller, PlaceOf grammar analysis generated place caller →
        generated.parser.Enters place inner →
        ∃ callee, PlaceOf grammar analysis generated inner callee ∧ grammar.Calls caller callee :=
      fun _ _ _ => h.calls_of_enters
    obtain ⟨call, hcall, hreach'⟩ := reflTransGen_of_steps hstep hplace hreach
    obtain ⟨call', hcall', hback'⟩ := transGen_of_steps hstep hcall hback
    obtain rfl := h.call_unique hcall hcall'
    exact ⟨call, hreach', hback'⟩
  · rintro ⟨again, hreach, hback⟩
    have hstep : ∀ caller callee place, PlaceOf grammar analysis generated place caller →
        grammar.Calls caller callee →
        ∃ inner, PlaceOf grammar analysis generated inner callee ∧ generated.parser.Enters place inner :=
      fun _ _ _ => h.enters_of_calls
    obtain ⟨inner, hinner, hreach'⟩ := reflTransGen_of_steps hstep hplace hreach
    obtain ⟨inner', hinner', hback'⟩ := transGen_of_steps hstep hinner hback
    obtain rfl := hinner.place_unique hinner'
    exact ⟨inner, hreach', hback'⟩

end Synthesis

end AttributeGrammar
