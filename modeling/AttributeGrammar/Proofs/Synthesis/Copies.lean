import AttributeGrammar.Proofs.Grammar.Building
import AttributeGrammar.Proofs.Grammar.Propagation
import AttributeGrammar.Proofs.Synthesis.Body

/-!
# The types of copied exports

Behind the construction of a child its exports are copied into the variables that the rule declares under
the derived names. Which exports a child has is decided by the resolved grammar; which types the variables
have, by what the rule declared itself or was given when exports were carried along assignments.

* `exists_copies` — every copy belongs to an assignment and to an export of the child.
* `Typed` — the rule declares the derived name with the type of an export.
* `typed_copies` — so it is with exports that the child had at first, or from which no assignments lead back.
* `not_copiesTyped` — an export that comes about only behind a cycle can be copied into a variable of
  another type.
-/

set_option autoImplicit false

namespace AttributeGrammar

open Relation (TransGen)

namespace Synthesis

variable {source : Source} {grammar : Grammar} {rule : Rule} {node : NodeType} {call : ChildCall}
  {copy : String × String} {var target : String} {v : Variable}

/-- The copy takes the export `v` of `target` to the variable that is named after `var`. -/
structure Copies (grammar : Grammar) (rule : Rule) (call : ChildCall) (copy : String × String)
    (var target : String)
    (v : Variable) : Prop where
  item : .assignRule var target ∈ rule.items
  node : ident (nodeName target) = .ok call.node
  exported : v ∈ grammar.exportsOf target
  field : ident (Resolution.derived var v).name = .ok copy.1
  origin : ident v.name = .ok copy.2

/-- The rule declares the variable that is named after `var` with the type of the export, up to white space. -/
def Typed (rule : Rule) (var : String) (v : Variable) : Prop :=
  ∃ type, rule.varType? (Resolution.derived var v).name = some type ∧ sameType type v.type

/-- Copies keep types in the bodies of a parser. -/
def CopiesTyped (grammar : Grammar) (generated : Generated) : Prop :=
  ∀ rule node, (rule, node) ∈ grammar.rules.zip generated.parser.nodes → ∀ body ∈ node.bodies,
    ∀ call, .child call ∈ body → ∀ copy ∈ call.copies, ∀ var target v,
      Copies grammar rule call copy var target v → Typed rule var v

/-- **Every copy belongs to an assignment and to an export of the child.** -/
theorem exists_copies (hnode : nodeTypeOf source rule = .ok node) {body : List Statement}
    (hbody : body ∈ node.bodies) (hcall : .child call ∈ body) (hcopy : copy ∈ call.copies) :
    ∃ var target v, Copies source.grammar rule call copy var target v := by
  obtain ⟨item, hitem, hof⟩ := exists_item hnode hbody hcall
  rcases call_of_statementOf hof with ⟨target, -, hmade⟩ | ⟨var, target, rfl, hmade⟩
  · obtain ⟨child, -, -, -, hcopies⟩ := callOf_eq_ok hmade
    obtain ⟨_, hnone, -⟩ := hcopies copy hcopy
    cases hnone
  · obtain ⟨child, hchild, hname, -, hcopies⟩ := callOf_eq_ok hmade
    obtain ⟨_, hsome, v, hv, -, hfield, horigin⟩ := hcopies copy hcopy
    cases hsome
    exact ⟨var, target, v, hitem, hname, by rwa [Grammar.exportsOf_eq hchild], hfield, horigin⟩

/-- A rule of a resolved grammar has the type of an export that it took over. -/
theorem typed_of_exports (hkeyed : grammar.Keyed) (hrule : rule ∈ grammar.rules)
    (h : grammar.Exports rule.name (Resolution.derived var v)) : Typed rule var v := by
  obtain ⟨w, hw, hname, hsame⟩ := h
  rw [Grammar.exportsOf_eq ((Grammar.rule?_eq_some_iff hkeyed).mpr ⟨hrule, rfl⟩)] at hw
  obtain ⟨-, htype⟩ := Rule.mem_exportedVars.mp hw
  exact ⟨w.type, hname ▸ htype, hsame⟩

/-- **Copies keep types, except where an export comes about behind a cycle only**: every copy belongs to an
assignment and to an export, and the rule declares the variable with the type of the export if the child had
this export of its own or of its actions, or if no assignments lead from the child back to the rule. -/
theorem typed_copies {text : String} {read grammar : Grammar} {generated : Generated} {main : Bool}
    (hread : Description.read text = .ok read) (hresolve : read.resolve.1 = .ok grammar)
    (hgenerate : generate grammar main = .ok generated) :
    ∃ merged, read.mergeActions = .ok merged ∧
      ∀ rule node, (rule, node) ∈ grammar.rules.zip generated.parser.nodes → ∀ body ∈ node.bodies,
        ∀ call, .child call ∈ body → ∀ copy ∈ call.copies,
          (∃ var target v, Copies grammar rule call copy var target v) ∧
          ∀ var target v, Copies grammar rule call copy var target v →
            v ∈ merged.exportsOf target ∨ ¬ TransGen read.AssignsFrom target rule.name → Typed rule var v := by
  have hbuilt := Description.built_of_read hread
  obtain ⟨-, merged, hmerged, hpropagates⟩ := Grammar.propagates_of_resolve hresolve
  obtain ⟨analysis, -, -, -, hparser⟩ := generate_eq_ok hgenerate
  obtain ⟨start, -, hmade⟩ := parserOf_eq_ok hparser
  refine ⟨merged, hmerged, fun rule node hpair body hbody call hcall copy hcopy => ⟨?_, ?_⟩⟩
  · exact exists_copies ((List.forall₂_iff_zip.mp hmade.nodes).2 hpair) hbody hcall hcopy
  · intro var target v hcopies hcarried
    have hrule := (List.of_mem_zip hpair).1
    obtain ⟨old, hold, hextends⟩ := (Grammar.extends_of_resolve hresolve).2.rules rule hrule
    have hitem := hcopies.item
    rw [Rule.items, hextends.alternatives_eq] at hitem
    rw [hextends.name_eq] at hcarried
    have hexports := hpropagates.exports_derived hbuilt.keyed hmerged hold hitem
      (hcarried.imp id fun hback => ⟨hcopies.exported, hback⟩)
    rw [← hextends.name_eq] at hexports
    exact typed_of_exports (hbuilt.resolve hresolve).keyed hrule hexports

/-! ## Behind a cycle -/

/-- A cycle of `t` and `r`, in which `t` takes over the export `y_w` of `u` only after `r` was left, and `r`
has a text under the name that it would carry. -/
def cyclicText : String :=
  "$w[i32 w] \x7b self.w = 1; \x7d\nt : 'a' (y = u) (z = r)\nt : EPS\nu : 'u' $w\n" ++
    "r : 'b' (x = t) (x_y_w = 'c')\nt"

/-- In the sample the copy of the export of `u`, which this has from its action, keeps the type. -/
theorem typed_copies_cyclic : ∃ read grammar generated merged, Description.read cyclicText = .ok read ∧
    read.resolve.1 = .ok grammar ∧ generate grammar true = .ok generated ∧ read.mergeActions = .ok merged ∧
    ⟨"i32", "w"⟩ ∈ merged.exportsOf "u" ∧ ∃ rule ∈ grammar.rules, rule.name = "t" ∧
      Typed rule "y" ⟨"i32", "w"⟩ := by
  have hcheck : passes cyclicText true fun grammar generated =>
      decide (∃ pair ∈ grammar.rules.zip generated.parser.nodes, pair.1.name = "t" ∧
        .assignRule "y" "u" ∈ pair.1.items ∧
        ∃ body ∈ pair.2.bodies, .child ⟨"UNode", [], [("y_w", "w")]⟩ ∈ body) &&
      decide (⟨"i32", "w"⟩ ∈ grammar.exportsOf "u") := by
    decide +kernel
  have hfirst : ((Description.read cyclicText).bind Grammar.mergeActions).toOption.any fun merged =>
      decide (⟨"i32", "w"⟩ ∈ merged.exportsOf "u") := by
    decide +kernel
  obtain ⟨grammar, generated, hresolved, hgenerate, hfound⟩ := exists_of_passes hcheck
  obtain ⟨read, hread, hresolve⟩ := Description.readResolved_eq_ok.mp hresolved
  rw [Bool.and_eq_true, decide_eq_true_iff, decide_eq_true_iff] at hfound
  obtain ⟨⟨⟨rule, node⟩, hpair, hname, hitem, body, hbody, hcall⟩, hexported⟩ := hfound
  have hidents : ident (nodeName "u") = .ok "UNode" ∧ ident "y_w" = .ok "y_w" ∧ ident "w" = .ok "w" := by
    decide +kernel
  obtain ⟨hnode, hfield, horigin⟩ := hidents
  obtain ⟨merged, hmerged, htyped⟩ := typed_copies hread hresolve hgenerate
  have hown : ⟨"i32", "w"⟩ ∈ merged.exportsOf "u" := by
    rw [hread] at hfirst
    change read.mergeActions.toOption.any _ = true at hfirst
    rw [hmerged] at hfirst
    exact of_decide_eq_true hfirst
  exact ⟨read, grammar, generated, merged, hread, hresolve, hgenerate, hmerged, hown, rule,
    (List.of_mem_zip hpair).1, hname,
      (htyped rule node hpair body hbody _ hcall ("y_w", "w") (by simp)).2 "y" "u" _
      ⟨hitem, hnode, hexported, hfield, horigin⟩ (Or.inl hown)⟩

/-- **The copy of an export that comes about behind a cycle need not keep the type**: `y_w` is an `i32`, and
`r` stores it in a `String`. -/
theorem not_copiesTyped : ∃ grammar generated, (Description.readResolved cyclicText).1 = .ok grammar ∧
    generate grammar true = .ok generated ∧ ¬ CopiesTyped grammar generated := by
  have hcheck : passes cyclicText true fun grammar generated =>
      decide (∃ pair ∈ grammar.rules.zip generated.parser.nodes, .assignRule "x" "t" ∈ pair.1.items ∧
        pair.1.varType? "x_y_w" = some "String" ∧
        ∃ body ∈ pair.2.bodies, .child ⟨"TNode", [], [("x_y_w", "y_w")]⟩ ∈ body) &&
      decide (⟨"i32", "y_w"⟩ ∈ grammar.exportsOf "t") := by
    decide +kernel
  obtain ⟨grammar, generated, hread, hgenerate, hfound⟩ := exists_of_passes hcheck
  rw [Bool.and_eq_true, decide_eq_true_iff, decide_eq_true_iff] at hfound
  obtain ⟨⟨⟨rule, node⟩, hpair, hitem, htype, body, hbody, hcall⟩, hexported⟩ := hfound
  have hidents : ident (nodeName "t") = .ok "TNode" ∧ ident "x_y_w" = .ok "x_y_w" ∧
      ident "y_w" = .ok "y_w" := by
    decide +kernel
  obtain ⟨hnode, hfield, horigin⟩ := hidents
  refine ⟨grammar, generated, hread, hgenerate, fun htyped => ?_⟩
  obtain ⟨type, hdeclared, hsame⟩ := htyped rule node hpair body hbody _ hcall ("x_y_w", "y_w") (by simp)
    "x" "t" ⟨"i32", "y_w"⟩ ⟨hitem, hnode, hexported, hfield, horigin⟩
  have hderived : (Resolution.derived "x" ⟨"i32", "y_w"⟩).name = "x_y_w" := by decide
  rw [hderived, htype] at hdeclared
  cases hdeclared
  revert hsame
  decide

end Synthesis

end AttributeGrammar
