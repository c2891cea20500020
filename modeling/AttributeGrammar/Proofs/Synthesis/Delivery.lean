import AttributeGrammar.Proofs.Description.Naming
import AttributeGrammar.Proofs.Synthesis.Copies

/-!
# What assignments deliver

The items of an alternative store into the fields of one node, under names that are joined with an underscore.

* `Statement.Writes`, `NodeState.Frames` — the fields of a statement, and what it leaves alone.
* `frames_run` — a run adds to the children, and leaves the fields alone that none of its statements writes.
* `Item.Stores`, `stores_of_writes` — the variables of an item, and the fields of its statement.
* `Delivers` — what an item of an assignment leaves in the fields of its node.
* `delivers` — what the child or the token of an item delivers is there in the end, unless a later item
  stores in the same variable; none does if no variable continues another one behind an underscore.
* `overwritten` — distinct variables alone do not keep later items off.
-/

set_option autoImplicit false

namespace AttributeGrammar

open Description (IsIdentifier)

/-- The item stores something in the variable of a name. -/
def Item.Stores (grammar : Grammar) (name : String) : Item → Prop
  | .assignText var _ | .assignRegex var _ => var = name
  | .assignRule var target => ∃ v ∈ grammar.exportsOf target, (Resolution.derived var v).name = name
  | .text _ | .regex _ | .rule _ | .action _ => False

namespace Synthesis

variable {V : Type} {meaning : Meaning V} {code : ParserCode}
    {parseChild : NodeType → Fields V → Run (NodeState V)}
  {state mid new last : NodeState V} {scanner place after : Scanner} {field : String} {statement : Statement}
  {body : List Statement} {kept : String → Prop}

/-! ## Statements that return -/

/-- The statement may change the field of a name. -/
def Statement.Writes (name : String) : Statement → Prop
  | .expectText _ into | .expectKind _ into => name ∈ into
  | .child call => ∃ copy ∈ call.copies, copy.1 = name
  | .act _ => True

namespace NodeState

/-- The children of a node are still there, and the fields of some names are as they were. -/
structure Frames (kept : String → Prop) (old new : NodeState V) : Prop where
  children : old.children <+: new.children
  fields : ∀ name, kept name → new.fields.lookup name = old.fields.lookup name

theorem Frames.refl (state : NodeState V) : Frames kept state state := ⟨List.prefix_refl _, fun _ _ => rfl⟩

theorem Frames.trans (h : Frames kept state mid) (h' : Frames kept mid new) : Frames kept state new :=
  ⟨h.children.trans h'.children, fun name hname => (h'.fields name hname).trans (h.fields name hname)⟩

theorem store_eq_ok {name : String} {value : V} (h : state.store name value scanner = .ok new after) :
    name ∈ state.fields.names ∧ new = { state with fields := state.fields.put name value } ∧
      after = scanner := by
  obtain ⟨_, _, hdiscard, hmade⟩ := Outcome.bind_eq_ok.mp h
  obtain ⟨old, hdeclared⟩ := Outcome.discard_eq_ok.mp hdiscard
  obtain ⟨hold, rfl⟩ := Run.declared_eq_ok.mp hdeclared
  cases hmade
  obtain ⟨front, rest, hfields, -⟩ := List.lookup_eq_some_iff.mp hold
  exact ⟨List.mem_map.mpr ⟨(name, old), by simp [hfields], rfl⟩, rfl, rfl⟩

/-- A token that was added is the last child, and only the field that takes its text has changed. -/
theorem addToken_of_ok {into : Option String} {token : Token}
    (h : state.addToken meaning into token scanner = .ok new after) :
    after = scanner ∧ new.children = state.children ++ [.leaf token.text] ∧
      (∀ name ∉ into, new.fields.lookup name = state.fields.lookup name) ∧
      ∀ name ∈ into, new.fields.lookup name = some (meaning.ofText token.text) := by
  cases into with
  | none =>
    cases h
    exact ⟨rfl, rfl, fun _ _ => rfl, fun _ hname => by cases hname⟩
  | some name =>
    obtain ⟨hname, rfl, rfl⟩ := store_eq_ok h
    refine ⟨rfl, rfl, fun other hother => ?_, fun other hother => ?_⟩
    · exact Fields.lookup_put_of_ne fun heq => hother (heq ▸ rfl)
    · cases hother
      exact Fields.lookup_put_self hname

/-- **Copies that were made**: the children are as they were, and what was copied was there. -/
theorem copied_of_ok {child : Fields V} {copies : List (String × String)}
    (h : copies.foldlM (copyFrom child) state scanner = .ok new after) :
    after = scanner ∧ new.children = state.children ∧ Fields.Copied child copies state.fields new.fields ∧
      ∀ copy ∈ copies, ∃ value, child.lookup copy.2 = some value := by
  induction copies generalizing state scanner with
  | nil =>
    cases h
    exact ⟨rfl, rfl, Fields.copied_nil, by simp⟩
  | cons copy copies ih =>
    obtain ⟨name, source⟩ := copy
    rw [List.foldlM_cons] at h
    obtain ⟨mid, place, hcopy, hrest⟩ := Outcome.bind_eq_ok.mp h
    obtain ⟨value, _, hdeclared, hstore⟩ := Outcome.bind_eq_ok.mp hcopy
    obtain ⟨hvalue, rfl⟩ := Run.declared_eq_ok.mp hdeclared
    obtain ⟨hname, rfl, rfl⟩ := store_eq_ok hstore
    obtain ⟨rfl, hchildren, hcopied, hvalues⟩ := ih hrest
    exact ⟨rfl, hchildren, hcopied.cons hname hvalue, List.forall_mem_cons.mpr ⟨⟨value, hvalue⟩, hvalues⟩⟩

end NodeState

open NodeState (Frames)

/-- A token that was read and added. -/
theorem token_of_ok {reading : Run Token} {into : Option String}
    (h : (reading >>= fun token => state.addToken meaning into token) scanner = .ok new after) :
    ∃ token, reading scanner = .ok token after ∧ new.children = state.children ++ [.leaf token.text] ∧
      (∀ name ∉ into, new.fields.lookup name = state.fields.lookup name) ∧
      ∀ name ∈ into, new.fields.lookup name = some (meaning.ofText token.text) := by
  obtain ⟨token, place, hread, hadd⟩ := Outcome.bind_eq_ok.mp h
  obtain ⟨rfl, hadded⟩ := NodeState.addToken_of_ok hadd
  exact ⟨token, hread, hadded⟩

/-- A child that was constructed: its node was parsed, its fields were copied, and it is the last child. -/
theorem child_of_ok {call : ChildCall}
    (h : runStatement meaning code parseChild state (.child call) scanner = .ok new after) :
    ∃ node arguments child, code.node? call.node = some node ∧
      parseChild node (node.newFields meaning arguments) scanner = .ok child after ∧
      new.children = state.children ++ [.node node.name child.fields child.children] ∧
      Fields.Copied child.fields call.copies state.fields new.fields ∧
      ∀ copy ∈ call.copies, ∃ value, child.fields.lookup copy.2 = some value := by
  obtain ⟨node, _, hdeclared, hcall⟩ := Outcome.bind_eq_ok.mp h
  obtain ⟨hnode, rfl⟩ := Run.declared_eq_ok.mp hdeclared
  obtain ⟨arguments, _, harguments, hparse⟩ := Outcome.bind_eq_ok.mp hcall
  obtain ⟨rfl, -⟩ := (Run.quiet_arguments state.fields call.arguments).of_ok harguments
  obtain ⟨child, _, hchild, hstore⟩ := Outcome.bind_eq_ok.mp hparse
  obtain ⟨copied, _, hcopies, hadd⟩ := Outcome.bind_eq_ok.mp hstore
  obtain ⟨rfl, hchildren, hcopied, hvalues⟩ := NodeState.copied_of_ok hcopies
  cases hadd
  exact ⟨node, arguments, child, hnode, hchild, congrArg (· ++ [_]) hchildren, hcopied, hvalues⟩

/-- **A statement adds to the children, and leaves the fields alone that it does not write.** -/
theorem frames_runStatement (hkept : ∀ name, kept name → ¬ statement.Writes name)
    (h : runStatement meaning code parseChild state statement scanner = .ok new after) :
    Frames kept state new := by
  cases statement with
  | expectText literal into | expectKind kind into =>
    obtain ⟨token, -, hchildren, hothers, -⟩ := token_of_ok h
    exact ⟨hchildren ▸ List.prefix_append _ _, fun name hname => hothers name (hkept name hname)⟩
  | child call =>
    obtain ⟨node, arguments, child, -, -, hchildren, hcopied, -⟩ := child_of_ok h
    exact ⟨hchildren ▸ List.prefix_append _ _, fun name hname =>
      hcopied.kept name fun copy hcopy heq => hkept name hname ⟨copy, hcopy, heq⟩⟩
  | act action =>
    rcases hact : meaning.act action state.fields with cause | fields
    · simp only [runStatement, hact] at h
      cases h
    · simp only [runStatement, hact] at h
      cases h
      exact ⟨List.prefix_refl _, fun name hname => absurd trivial (hkept name hname)⟩

/-- **A run adds to the children, and leaves the fields alone that none of its statements writes.** -/
theorem frames_run (hkept : ∀ name, kept name → ∀ statement ∈ body, ¬ statement.Writes name)
    (h : body.foldlM (runStatement meaning code parseChild) state scanner = .ok new after) :
    Frames kept state new := by
  induction body generalizing state scanner with
  | nil =>
    cases h
    exact .refl _
  | cons statement body ih =>
    rw [List.foldlM_cons] at h
    obtain ⟨mid, place, hfirst, hrest⟩ := Outcome.bind_eq_ok.mp h
    have hstep := frames_runStatement (fun name hname => hkept name hname statement List.mem_cons_self) hfirst
    exact hstep.trans
      (ih (fun name hname other hother => hkept name hname other (List.mem_cons_of_mem _ hother)) hrest)

/-! ## Statements of items -/

section Items

variable {grammar : Grammar} {analysis : Analysis} {generated : Generated} {source : Source} {rule : Rule}
    {item : Item}
  {var target : String} {made : Option Statement}

/-- Of identifiers the copies have the names. -/
theorem copiesOf_eq {child : Rule} {copies : List (String × String)} (hvar : IsIdentifier var)
    (hexports : ∀ v ∈ child.exportedVars, IsIdentifier v.name) (h : copiesOf rule child var = .ok copies) :
    copies = (child.exportedVars.filter fun v => rule.hasVar (Resolution.derived var v).name).map fun v =>
      ((Resolution.derived var v).name, v.name) := by
  have hfound : ∀ v ∈ child.exportedVars.filter fun v => rule.hasVar (Resolution.derived var v).name,
      IsIdentifier v.name := fun v hv => hexports v (List.mem_filter.mp hv).1
  refine Outcome.forall₂_eq_map_iff.mp
    (((List.forall₂_and_left _ _).mpr ⟨hfound, Outcome.mapM_eq_ok.mp h⟩).imp ?_)
  rintro v copy ⟨hv, hcopy⟩
  obtain ⟨name, hname, hcopy⟩ := Outcome.except_bind_eq_ok.mp hcopy
  obtain ⟨origin, horigin, hcopy⟩ := Outcome.except_bind_eq_ok.mp hcopy
  cases hcopy
  rw [eq_of_ident (Resolution.isIdentifier_derived hvar hv) hname, eq_of_ident hv horigin]

namespace Emission

/-- The child of an assignment, and the copies of its exports that the rule declares. -/
theorem call_of_assign (h : Emission grammar analysis generated) (hnamed : grammar.Named) {call : ChildCall}
    (hvar : IsIdentifier var)
    (hcall : callOf ⟨grammar, analysis, generated.tokens⟩ rule target (some var) = .ok call) :
    call.node = nodeName target ∧
      call.copies =
        ((grammar.exportsOf target).filter fun v => rule.hasVar (Resolution.derived var v).name).map fun v =>
        ((Resolution.derived var v).name, v.name) := by
  obtain ⟨_, -, hnode⟩ := h.call_eq hcall
  obtain ⟨child, hchild, hcall⟩ := Outcome.except_bind_eq_ok.mp hcall
  obtain ⟨name, -, hcall⟩ := Outcome.except_bind_eq_ok.mp hcall
  obtain ⟨arguments, -, hcall⟩ := Outcome.except_bind_eq_ok.mp hcall
  obtain ⟨copies, hcopies, hcall⟩ := Outcome.except_bind_eq_ok.mp hcall
  cases hcall
  have hexports := Grammar.exportsOf_eq (ruleOf_eq_ok.mp hchild)
  refine ⟨hnode, ?_⟩
  rw [hexports]
  exact copiesOf_eq hvar (fun v hv => hnamed.exports target v (hexports ▸ hv)) hcopies

/-- **The fields that the statement of an item writes are those in which the item stores.** -/
theorem stores_of_writes (h : Emission grammar analysis generated) (hnamed : grammar.Named)
    (hrule : rule ∈ grammar.rules) (hitem : item ∈ rule.items) (haction : ∀ name, item ≠ .action name)
    (hmade : statementOf ⟨grammar, analysis, generated.tokens⟩ rule item = .ok (some statement))
    (hwrites : statement.Writes field) : item.Stores grammar field := by
  have hvars := hnamed.vars rule hrule item hitem
  cases item with
  | text literal =>
    cases hmade
    cases hwrites
  | regex name =>
    by_cases hempty : name = emptyName
    · subst hempty
      cases hmade
    · simp only [statementOf, hempty, if_false] at hmade
      obtain ⟨kind, -, heq⟩ := Outcome.except_bind_eq_ok.mp hmade
      cases heq
      cases hwrites
  | rule target =>
    obtain ⟨call, hcall, heq⟩ := Outcome.except_bind_eq_ok.mp hmade
    cases heq
    obtain ⟨copy, hcopy, -⟩ := hwrites
    obtain ⟨_, -, -, -, hcopies⟩ := callOf_eq_ok hcall
    obtain ⟨_, hvar, -⟩ := hcopies copy hcopy
    cases hvar
  | assignRule var target =>
    obtain ⟨call, hcall, heq⟩ := Outcome.except_bind_eq_ok.mp hmade
    cases heq
    obtain ⟨copy, hcopy, rfl⟩ := hwrites
    rw [(h.call_of_assign hnamed (hvars var rfl) hcall).2] at hcopy
    obtain ⟨v, hv, rfl⟩ := List.mem_map.mp hcopy
    exact ⟨v, (List.mem_filter.mp hv).1, rfl⟩
  | assignText var literal =>
    obtain ⟨name, hname, heq⟩ := Outcome.except_bind_eq_ok.mp hmade
    cases heq
    cases hwrites
    exact (eq_of_ident (hvars var rfl) hname).symm
  | assignRegex var regex =>
    obtain ⟨name, hname, hkind⟩ := Outcome.except_bind_eq_ok.mp hmade
    obtain ⟨kind, -, heq⟩ := Outcome.except_bind_eq_ok.mp hkind
    cases heq
    cases hwrites
    exact (eq_of_ident (hvars var rfl) hname).symm
  | action name => exact absurd rfl (haction name)

end Emission

/-! ## Running to an item -/

/-- The body of items in a row is made of their statements. -/
theorem bodyOf_append {before behind : List Item}
    (h : bodyOf source rule ⟨before ++ item :: behind⟩ = .ok body) :
    ∃ front made back, bodyOf source rule ⟨before⟩ = .ok front ∧ statementOf source rule item = .ok made ∧
      bodyOf source rule ⟨behind⟩ = .ok back ∧ body = front ++ made.toList ++ back := by
  obtain ⟨all, hall, hbody⟩ := Outcome.except_bind_eq_ok.mp h
  rw [List.mapM_append, List.mapM_cons] at hall
  obtain ⟨front, hfront, hrest⟩ := Outcome.except_bind_eq_ok.mp hall
  obtain ⟨rest, hcons, hjoined⟩ := Outcome.except_bind_eq_ok.mp hrest
  obtain ⟨made, hmade, htail⟩ := Outcome.except_bind_eq_ok.mp hcons
  obtain ⟨back, hback, hpair⟩ := Outcome.except_bind_eq_ok.mp htail
  cases hpair
  cases hjoined
  cases hbody
  refine ⟨front.filterMap id, made, back.filterMap id,
    Outcome.except_bind_eq_ok.mpr ⟨front, hfront, rfl⟩, hmade,
    Outcome.except_bind_eq_ok.mpr ⟨back, hback, rfl⟩, ?_⟩
  cases made <;> simp

/-- A run of the statements of the items before an item ends in the state `mid`, with the scanner at `place`. -/
def ComesTo (source : Source) (rule : Rule) (meaning : Meaning V) (code : ParserCode) (depth : Nat)
    (before : List Item) (start : NodeState V) (scanner : Scanner) (mid : NodeState V)
    (place : Scanner) : Prop :=
  ∃ front, bodyOf source rule ⟨before⟩ = .ok front ∧
    front.foldlM (runStatement meaning code (parseNode meaning code depth)) start scanner = .ok mid place

/-- The text of a token that is read behind `mid` is the next child in `state` and, if it is kept, in the
field of the variable. -/
def DeliversText (meaning : Meaning V) (reading : Scan Token) (mid : NodeState V) (place : Scanner)
    (state : NodeState V) (kept : String → Prop) (var : String) : Prop :=
  ∃ token after, Run.scan reading place = .ok token after ∧
    mid.children ++ [.leaf token.text] <+: state.children ∧
    (kept var → state.fields.lookup var = some (meaning.ofText token.text))

/-- What an item of an assignment delivers to `state` that is run behind `mid` with the scanner at `place`:
of a rule, its exports in the child that is built for the item; of a text or a regex terminal, the text of
the token that is read for it. The fields are those of the names that are kept. -/
def Delivers (meaning : Meaning V) (code : ParserCode) (depth : Nat)
    (exports : String → List Variable) (mid : NodeState V) (place : Scanner) (state : NodeState V)
    (kept : String → Prop) : Item → Prop
  | .assignRule var target => ∃ node arguments child after, code.node? (nodeName target) = some node ∧
      parseNode meaning code depth node (node.newFields meaning arguments) place = .ok child after ∧
      mid.children ++ [.node node.name child.fields child.children] <+: state.children ∧
      ∀ v ∈ exports target, ∃ value, child.fields.lookup v.name = some value ∧
        (kept (Resolution.derived var v).name →
          state.fields.lookup (Resolution.derived var v).name = some value)
  | .assignText var literal => DeliversText meaning (Scanner.expectText literal) mid place state kept var
  | .assignRegex var name => DeliversText meaning (Scanner.expectKind (.regex name)) mid place state kept var
  | .text _ | .regex _ | .rule _ | .action _ => True

theorem DeliversText.behind {reading : Scan Token}
    (h : DeliversText meaning reading mid place new (fun _ => True) var) (hframes : Frames kept new last) :
    DeliversText meaning reading mid place last kept var := by
  obtain ⟨token, after, hread, hchildren, htext⟩ := h
  exact ⟨token, after, hread, hchildren.trans hframes.children, fun hvar =>
    (hframes.fields var hvar).trans (htext trivial)⟩

variable {depth : Nat} {exports : String → List Variable}

/-- What was delivered is still there, in the fields that were left alone. -/
theorem Delivers.behind (h : Delivers meaning code depth exports mid place new (fun _ => True) item)
    (hframes : Frames kept new last) : Delivers meaning code depth exports mid place last kept item := by
  cases item with
  | assignRule var target =>
    obtain ⟨node, arguments, child, after, hnode, hparse, hchildren, hvalues⟩ := h
    refine ⟨node, arguments, child, after, hnode, hparse, hchildren.trans hframes.children, fun v hv => ?_⟩
    obtain ⟨value, hvalue, hcopied⟩ := hvalues v hv
    exact ⟨value, hvalue, fun hname => (hframes.fields _ hname).trans (hcopied trivial)⟩
  | assignText var literal => exact DeliversText.behind h hframes
  | assignRegex var name => exact DeliversText.behind h hframes
  | text | regex | rule | action => trivial

theorem of_run_some
    (h : (some statement).toList.foldlM (runStatement meaning code parseChild) mid place = .ok new after) :
    runStatement meaning code parseChild mid statement place = .ok new after := by
  rw [Option.toList_some, List.foldlM_cons] at h
  obtain ⟨_, _, hstatement, hnil⟩ := Outcome.bind_eq_ok.mp h
  cases hnil
  exact hstatement

namespace Emission

/-- **The statement of an item delivers**, if the rule declares what carries the exports. -/
theorem delivers_runStatement (h : Emission grammar analysis generated) (hnamed : grammar.Named)
    (hrule : rule ∈ grammar.rules) (hitem : item ∈ rule.items)
    (hexports : ∀ var target, item = .assignRule var target → ∀ v ∈ exports target,
      v ∈ grammar.exportsOf target ∧ rule.hasVar (Resolution.derived var v).name)
    (hmade : statementOf ⟨grammar, analysis, generated.tokens⟩ rule item = .ok made)
    (hrun : made.toList.foldlM
      (runStatement meaning generated.parser (parseNode meaning generated.parser depth)) mid place =
      .ok new after) :
    Delivers meaning generated.parser depth exports mid place new (fun _ => True) item := by
  have hvars := hnamed.vars rule hrule item hitem
  cases item with
  | assignRule var target =>
    obtain ⟨call, hcall, heq⟩ := Outcome.except_bind_eq_ok.mp hmade
    cases heq
    obtain ⟨hname, hcopies⟩ := h.call_of_assign hnamed (hvars var rfl) hcall
    obtain ⟨node, arguments, child, hnode, hparse, hchildren, hcopied, hvalues⟩ :=
      child_of_ok (of_run_some hrun)
    refine ⟨node, arguments, child, after, hname ▸ hnode, hparse, hchildren ▸ List.prefix_refl _,
      fun v hv => ?_⟩
    obtain ⟨hexported, hdeclared⟩ := hexports var target rfl v hv
    have hcopy : ((Resolution.derived var v).name, v.name) ∈ call.copies := by
      rw [hcopies]
      exact List.mem_map.mpr ⟨v, List.mem_filter.mpr ⟨hexported, hdeclared⟩, rfl⟩
    obtain ⟨value, hvalue⟩ := hvalues _ hcopy
    refine ⟨value, hvalue, fun _ => ?_⟩
    rw [hcopied.copied _ v.name hcopy, hvalue]
    -- No other export of the child has this derived name.
    intro copy hother heq
    rw [hcopies] at hother
    obtain ⟨w, -, rfl⟩ := List.mem_map.mp hother
    exact Resolution.derived_inj heq
  | assignText var literal =>
    obtain ⟨name, hname, heq⟩ := Outcome.except_bind_eq_ok.mp hmade
    cases heq
    obtain rfl := eq_of_ident (hvars var rfl) hname
    obtain ⟨token, hread, hchildren, -, htext⟩ := token_of_ok (of_run_some hrun)
    exact ⟨token, after, hread, hchildren ▸ List.prefix_refl _, fun _ => htext name rfl⟩
  | assignRegex var regex =>
    obtain ⟨name, hname, hrest⟩ := Outcome.except_bind_eq_ok.mp hmade
    obtain ⟨kind, hkind, heq⟩ := Outcome.except_bind_eq_ok.mp hrest
    cases heq
    obtain rfl := eq_of_ident (hvars var rfl) hname
    obtain ⟨-, rfl, -⟩ := h.kind_eq hkind
    obtain ⟨token, hread, hchildren, -, htext⟩ := token_of_ok (of_run_some hrun)
    exact ⟨token, after, hread, hchildren ▸ List.prefix_refl _, fun _ => htext name rfl⟩
  | text | regex | rule | action => trivial

end Emission

/-! ## Names with an underscore -/

/-- A name is another one, or that continued behind an underscore. -/
def Continues (name longer : String) : Prop := longer = name ∨ name.toList ++ ['_'] <+: longer.toList

theorem continues_derived (var : String) (v : Variable) : Continues var (Resolution.derived var v).name := by
  refine Or.inr ⟨v.name.toList, ?_⟩
  rw [Resolution.toList_derived, List.append_assoc]
  rfl

theorem Continues.isPrefix {name longer : String} (h : Continues name longer) :
    name.toList <+: longer.toList := by
  rcases h with rfl | h
  · exact List.prefix_refl _
  · exact (List.prefix_append _ _).trans h

/-- Of two names that are continued by one, the shorter one is continued by the longer one. -/
theorem Continues.of_isPrefix {first second longer : String} (h : Continues first longer)
    (h' : Continues second longer) (hfits : first.toList <+: second.toList) : Continues first second := by
  rcases Nat.lt_or_ge first.toList.length second.toList.length with hshorter | hlonger
  · rcases h with rfl | h
    · exact absurd h'.isPrefix.length_le (Nat.not_le_of_lt hshorter)
    · exact Or.inr (List.prefix_of_prefix_length_le h h'.isPrefix (by rw [List.length_append]; exact hshorter))
  · exact Or.inl (String.toList_inj.mp (hfits.eq_of_length_le hlonger)).symm

theorem Continues.total {first second longer : String} (h : Continues first longer)
    (h' : Continues second longer) :
    Continues first second ∨ Continues second first :=
  (List.prefix_or_prefix_of_prefix h.isPrefix h'.isPrefix).imp (h.of_isPrefix h') (h'.of_isPrefix h)

/-- An item stores in its variable, or in one whose name continues that. -/
theorem continues_of_stores {name : String} (h : item.Stores grammar name) :
    ∃ var ∈ item.var?, Continues var name := by
  cases item with
  | assignRule var target =>
    obtain ⟨v, -, rfl⟩ := h
    exact ⟨var, rfl, continues_derived var v⟩
  | assignText var literal | assignRegex var regex => exact ⟨var, rfl, Or.inl (Eq.symm h)⟩
  | text | regex | rule | action => exact h.elim

/-! ## Bodies -/

namespace Emission

/-- A run of the body of an alternative comes to every item, which delivers; the fields that no later item
stores in keep what it delivers. -/
theorem delivers_run (h : Emission grammar analysis generated) (hnamed : grammar.Named)
    (hrule : rule ∈ grammar.rules)
    {alternative : Alternative} (halternative : alternative ∈ rule.alternatives)
    (haction : ∀ item ∈ alternative.items, ∀ name, item ≠ .action name)
    (hexports : ∀ var target, .assignRule var target ∈ alternative.items → ∀ v ∈ exports target,
      v ∈ grammar.exportsOf target ∧ rule.hasVar (Resolution.derived var v).name)
    (hbody : bodyOf ⟨grammar, analysis, generated.tokens⟩ rule alternative = .ok body)
    (hrun : body.foldlM
      (runStatement meaning generated.parser (parseNode meaning generated.parser depth)) state scanner =
      .ok last after)
    {before behind : List Item} (hitems : alternative.items = before ++ item :: behind) :
    ∃ mid place,
      ComesTo ⟨grammar, analysis, generated.tokens⟩ rule meaning generated.parser depth before
        state scanner mid place ∧
      Delivers meaning generated.parser depth exports mid place last
        (fun name => ∀ later ∈ behind, ¬ later.Stores grammar name) item := by
  have hmem : ∀ other ∈ alternative.items, other ∈ rule.items := fun other hother =>
    List.mem_flatMap.mpr ⟨alternative, halternative, hother⟩
  obtain ⟨items⟩ := alternative
  obtain rfl : items = before ++ item :: behind := hitems
  obtain ⟨front, made, back, hfront, hmade, hback, rfl⟩ := bodyOf_append hbody
  rw [List.foldlM_append, List.foldlM_append, bind_assoc] at hrun
  obtain ⟨mid, place, hbefore, hrest⟩ := Outcome.bind_eq_ok.mp hrun
  obtain ⟨new, _, hown, hbehind⟩ := Outcome.bind_eq_ok.mp hrest
  refine ⟨mid, place, ⟨front, hfront, hbefore⟩, ?_⟩
  have hitem : item ∈ before ++ item :: behind := List.mem_append_right _ List.mem_cons_self
  refine (h.delivers_runStatement hnamed hrule (hmem item hitem)
    (fun var target heq => hexports var target (heq ▸ hitem))
    hmade hown).behind (frames_run (fun name hname statement hstatement hwrites => ?_) hbehind)
  obtain ⟨others, hothers, hfilter⟩ := Outcome.except_bind_eq_ok.mp hback
  cases hfilter
  obtain ⟨_, hother, rfl⟩ := List.mem_filterMap.mp hstatement
  obtain ⟨later, hlater, hof⟩ := Outcome.exists_mem_left (Outcome.mapM_eq_ok.mp hothers) hother
  have hwithin : later ∈ before ++ item :: behind := List.mem_append_right _ (List.mem_cons_of_mem _ hlater)
  exact hname later hlater
    (h.stores_of_writes hnamed hrule (hmem later hwithin) (haction later hwithin) hof hwrites)

end Emission

/-- Behind an item no item stores in what it stores in, if no variable of the items continues another one. -/
theorem not_stores_of_pairwise {before behind : List Item} {name : String}
    (hvars : ((before ++ item :: behind).filterMap Item.var?).Pairwise fun a b => ¬ Continues a b ∧
      ¬ Continues b a)
    (hstores : item.Stores grammar name) : ∀ later ∈ behind, ¬ later.Stores grammar name := by
  intro later hlater hagain
  obtain ⟨var, hvar, hcontinues⟩ := continues_of_stores hstores
  obtain ⟨other, hother, hcontinues'⟩ := continues_of_stores hagain
  rw [List.filterMap_append, List.filterMap_cons_some hvar] at hvars
  obtain ⟨hnot, hnot'⟩ := (List.pairwise_cons.mp (List.pairwise_append.mp hvars).2.1).1 other
    (List.mem_filterMap.mpr ⟨later, hlater, hother⟩)
  exact (hcontinues.total hcontinues').elim hnot hnot'

/-- What is delivered to the variables that the item stores in is delivered to all of its variables. -/
theorem Delivers.mono {weaker : String → Prop}
    (h : Delivers meaning code depth exports mid place state kept item)
    (hexports : ∀ target, ∀ v ∈ exports target, v ∈ grammar.exportsOf target)
    (hkept : ∀ name, item.Stores grammar name → weaker name → kept name) :
    Delivers meaning code depth exports mid place state weaker item := by
  cases item with
  | assignRule var target =>
    obtain ⟨node, arguments, child, after, hnode, hparse, hchildren, hvalues⟩ := h
    refine ⟨node, arguments, child, after, hnode, hparse, hchildren, fun v hv => ?_⟩
    obtain ⟨value, hvalue, hcopied⟩ := hvalues v hv
    exact ⟨value, hvalue, fun hname => hcopied (hkept _ ⟨v, hexports target v hv, rfl⟩ hname)⟩
  | assignText var literal | assignRegex var regex =>
    obtain ⟨token, after, hread, hchildren, htext⟩ := h
    exact ⟨token, after, hread, hchildren, fun hvar => htext (hkept var rfl hvar)⟩
  | text | regex | rule | action => trivial

end Items

/-- **Assignments deliver**: in a parser that was generated from a description, when a run of the body of an
alternative that calls no action returns, every item has been come to, and the exports of the child that was
built for it, or the text of the token that was read for it, are in the fields of the node, except where a
later item stores in the same variable. None does if no variable of the items is another one or continues it
behind an underscore. -/
theorem delivers {text : String} {read grammar : Grammar} {generated : Generated} {main : Bool}
    (hread : Description.read text = .ok read) (hresolve : read.resolve.1 = .ok grammar)
    (hgenerate : generate grammar main = .ok generated) :
    ∃ merged analysis, read.mergeActions = .ok merged ∧ Analysis.ofGrammar grammar = .ok analysis ∧
      ∀ rule node, (rule, node) ∈ grammar.rules.zip generated.parser.nodes →
        ∀ alternative body, (alternative, body) ∈ rule.alternatives.zip node.bodies →
          (∀ item ∈ alternative.items, ∀ name, item ≠ .action name) →
          ∀ {V : Type} (meaning : Meaning V) depth start scanner state last,
            body.foldlM (runStatement meaning generated.parser
              (parseNode meaning generated.parser depth)) start scanner =
              .ok state last →
            ∀ before item behind, alternative.items = before ++ item :: behind →
              ∃ mid place,
                ComesTo ⟨grammar, analysis, generated.tokens⟩ rule meaning generated.parser depth before
                  start scanner mid place ∧
                Delivers meaning generated.parser depth merged.exportsOf mid place state
                  (fun name => ∀ later ∈ behind, ¬ later.Stores grammar name) item ∧
                ((alternative.items.filterMap Item.var?).Pairwise
                    (fun a b => ¬ Continues a b ∧ ¬ Continues b a) →
                  Delivers meaning generated.parser depth merged.exportsOf mid place state
                    (fun _ => True) item) := by
  have hbuilt := Description.built_of_read hread
  have hnamed := Description.named_of_resolve hread hresolve
  obtain ⟨-, merged, hmerged, hpropagates⟩ := Grammar.propagates_of_resolve hresolve
  obtain ⟨analysis, hanalysis, -⟩ := generate_eq_ok hgenerate
  have hemission := emission_of_ofGrammar
    (Description.wellFormed_of_readResolved
      (Description.readResolved_eq_ok.mpr ⟨read, hread, hresolve⟩)) hanalysis hgenerate
  have hkept : ∀ target, ∀ v ∈ merged.exportsOf target, v ∈ grammar.exportsOf target := fun target v hv =>
    hpropagates.mem_exportsOf hv
  refine ⟨merged, analysis, hmerged, hanalysis,
    fun rule node hpair alternative body hbodies haction V meaning depth start
    scanner state last hrun before item behind hitems => ?_⟩
  have hrule := (List.of_mem_zip hpair).1
  have halternative := (List.of_mem_zip hbodies).1
  have hnode := (List.forall₂_iff_zip.mp hemission.nodes).2 hpair
  have hbody := (List.forall₂_iff_zip.mp (nodeTypeOf_eq_ok hnode).bodies).2 hbodies
  obtain ⟨old, hold, hsame⟩ := (Grammar.extends_of_resolve hresolve).2.rules rule hrule
  have hexports : ∀ var target, .assignRule var target ∈ alternative.items → ∀ v ∈ merged.exportsOf target,
      v ∈ grammar.exportsOf target ∧ rule.hasVar (Resolution.derived var v).name := by
    intro var target hitem v hv
    have hassigns : .assignRule var target ∈ old.items := by
      rw [Rule.items, ← hsame.alternatives_eq]
      exact List.mem_flatMap.mpr ⟨alternative, halternative, hitem⟩
    have hcarried := hpropagates.exports_derived hbuilt.keyed hmerged hold hassigns (Or.inl hv)
    obtain ⟨type, htype, -⟩ := typed_of_exports (hbuilt.resolve hresolve).keyed hrule (hsame.name_eq ▸ hcarried)
    exact ⟨hkept target v hv, Rule.hasVar_iff.mpr ⟨type, htype⟩⟩
  obtain ⟨mid, place, hcomes, hdelivers⟩ :=
    hemission.delivers_run hnamed hrule halternative haction hexports hbody hrun hitems
  refine ⟨mid, place, hcomes, hdelivers, fun hvars => ?_⟩
  rw [hitems] at hvars
  exact hdelivers.mono hkept fun name hstores _ => not_stores_of_pairwise hvars hstores

/-! ## Two children -/

/-- A rule that binds `x` to a child with the export `y_v`, and a variable to a child with the export `v`. -/
def pairText (var : String) : String :=
  "$a[i32 y_v] \x7b self.y_v = 1; \x7d\n$b[i32 v] \x7b self.v = 2; \x7d\nt : 't' $a\nu : 'u' $b\n" ++
    "r : (x = t) (" ++ var ++ " = u)\nr"

/-- Actions store their names in the fields of their nodes. -/
def marking : Meaning String where
  initial _ := ""
  ofText := id
  act action fields := .ok (fields.map fun (name, _) => (name, action))

/-- Whether a body that binds `x` and a variable is run on `tu` and its node in the end passes a check. -/
def runsPair (var : String) (check : NodeState String → Bool) (grammar : Grammar)
    (generated : Generated) : Bool :=
  match generated.scanner "tu" with
  | .error _ => false
  | .ok scanner =>
    (grammar.rules.zip generated.parser.nodes).any fun (rule, node) =>
      (rule.alternatives.zip node.bodies).any fun (alternative, body) =>
        alternative.items = [.assignRule "x" "t", .assignRule var "u"] &&
          match body.foldlM (runStatement marking generated.parser (parseNode marking generated.parser 1))
            ⟨node.newFields marking [], []⟩ scanner with
          | .ok state _ => check state
          | .error _ _ => false

theorem exists_of_runsPair {var : String} {check : NodeState String → Bool} {grammar : Grammar}
    {generated : Generated} (h : runsPair var check grammar generated) :
    ∃ rule node alternative body start scanner state last,
      (rule, node) ∈ grammar.rules.zip generated.parser.nodes ∧
      (alternative, body) ∈ rule.alternatives.zip node.bodies ∧
      alternative.items = [.assignRule "x" "t", .assignRule var "u"] ∧ start.children = [] ∧
      body.foldlM (runStatement marking generated.parser (parseNode marking generated.parser 1)) start scanner =
        .ok state last ∧ check state := by
  unfold runsPair at h
  split at h
  · cases h
  rename_i scanner _
  obtain ⟨⟨rule, node⟩, hpair, h⟩ := List.any_eq_true.mp h
  obtain ⟨⟨alternative, body⟩, hbody, h⟩ := List.any_eq_true.mp h
  obtain ⟨hitems, hrun⟩ := Bool.and_eq_true_iff.mp h
  split at hrun
  · rename_i state last heq
    exact ⟨rule, node, alternative, body, _, scanner, state, last, hpair, hbody, of_decide_eq_true hitems,
      rfl, heq, hrun⟩
  · cases hrun

/-- Whether the rule `t` of a description exports `y_v` when the actions are merged. -/
def exportsPair (text : String) : Bool :=
  ((Description.read text).bind Grammar.mergeActions).toOption.any fun merged =>
    ⟨"i32", "y_v"⟩ ∈ merged.exportsOf "t"

theorem mem_of_exportsPair {text : String} {read merged : Grammar} (h : exportsPair text)
    (hread : Description.read text = .ok read) (hmerged : read.mergeActions = .ok merged) :
    ⟨"i32", "y_v"⟩ ∈ merged.exportsOf "t" := by
  rw [exportsPair, hread] at h
  change read.mergeActions.toOption.any _ = true at h
  rw [hmerged] at h
  exact of_decide_eq_true h

/-- With the variables `x` and `y` the child of the first item delivers its export. -/
theorem delivers_pair : ∃ read grammar generated merged rule node alternative body start scanner state last,
    Description.read (pairText "y") = .ok read ∧ read.resolve.1 = .ok grammar ∧
      generate grammar true = .ok generated ∧
      read.mergeActions = .ok merged ∧ ⟨"i32", "y_v"⟩ ∈ merged.exportsOf "t" ∧
      (rule, node) ∈ grammar.rules.zip generated.parser.nodes ∧
        (alternative, body) ∈ rule.alternatives.zip node.bodies ∧
      alternative.items = [.assignRule "x" "t", .assignRule "y" "u"] ∧
      body.foldlM (runStatement marking generated.parser (parseNode marking generated.parser 1)) start scanner =
        .ok state last ∧
      ∃ mid place, Delivers marking generated.parser 1 merged.exportsOf mid place state (fun _ => True)
        (.assignRule "x" "t") := by
  have hpasses : passes (pairText "y") true (runsPair "y" fun _ => true) := by decide +kernel
  have hexports : exportsPair (pairText "y") := by decide +kernel
  obtain ⟨grammar, generated, hresolved, hgenerate, hruns⟩ := exists_of_passes hpasses
  obtain ⟨read, hread, hresolve⟩ := Description.readResolved_eq_ok.mp hresolved
  obtain ⟨rule, node, alternative, body, start, scanner, state, last, hpair, hbody, hitems, -, hrun, -⟩ :=
    exists_of_runsPair hruns
  obtain ⟨merged, analysis, hmerged, -, hdelivers⟩ := delivers hread hresolve hgenerate
  have haction : ∀ item ∈ alternative.items, ∀ name, item ≠ .action name := by simp [hitems]
  have hvars : (alternative.items.filterMap Item.var?).Pairwise fun a b => ¬ Continues a b ∧
      ¬ Continues b a := by
    rw [hitems]
    unfold Continues
    decide
  obtain ⟨mid, place, -, -, hall⟩ :=
    hdelivers rule node hpair alternative body hbody haction marking 1 start scanner
    state last hrun [] _ _ hitems
  exact ⟨read, grammar, generated, merged, rule, node, alternative, body, start, scanner, state, last,
    hread, hresolve,
    hgenerate, hmerged, mem_of_exportsPair hexports hread hmerged, hpair, hbody, hitems, hrun, mid,
      place, hall hvars⟩

/-- What distinct variables alone would have to deliver. -/
def DistinctDeliver (grammar merged : Grammar) (analysis : Analysis) (generated : Generated) : Prop :=
  ∀ rule node, (rule, node) ∈ grammar.rules.zip generated.parser.nodes →
    ∀ alternative body, (alternative, body) ∈ rule.alternatives.zip node.bodies →
      (∀ item ∈ alternative.items, ∀ name, item ≠ .action name) →
        (alternative.items.filterMap Item.var?).Nodup →
      ∀ {V : Type} (meaning : Meaning V) depth start scanner state last,
        body.foldlM
          (runStatement meaning generated.parser (parseNode meaning generated.parser depth)) start scanner =
          .ok state last →
        ∀ before item behind, alternative.items = before ++ item :: behind →
          ∃ mid place,
            ComesTo ⟨grammar, analysis, generated.tokens⟩ rule meaning generated.parser depth before
              start scanner mid place ∧
            Delivers meaning generated.parser depth merged.exportsOf mid place state (fun _ => True) item

/-- **A later item can store in what was delivered, though its variable is another one**: `x` with the
export `y_v` and `x_y` with the export `v` both store in `x_y_v`. -/
theorem overwritten : ∃ read grammar generated merged analysis, Description.read (pairText "x_y") = .ok read ∧
    read.resolve.1 = .ok grammar ∧ generate grammar true = .ok generated ∧ read.mergeActions = .ok merged ∧
    Analysis.ofGrammar grammar = .ok analysis ∧ ¬ DistinctDeliver grammar merged analysis generated := by
  have hpasses : passes (pairText "x_y") true (runsPair "x_y" fun state =>
      state.fields.lookup "x_y_v" = some "b" && state.children.head?.any fun
        | .node _ fields _ => fields.lookup "y_v" = some "a"
        | .leaf _ => false) := by
    decide +kernel
  have hexports : exportsPair (pairText "x_y") := by decide +kernel
  obtain ⟨grammar, generated, hresolved, hgenerate, hruns⟩ := exists_of_passes hpasses
  obtain ⟨read, hread, hresolve⟩ := Description.readResolved_eq_ok.mp hresolved
  obtain ⟨-, merged, hmerged, -⟩ := Grammar.propagates_of_resolve hresolve
  obtain ⟨analysis, hanalysis, -⟩ := generate_eq_ok hgenerate
  refine ⟨read, grammar, generated, merged, analysis, hread, hresolve, hgenerate, hmerged, hanalysis,
    fun hdeliver => ?_⟩
  obtain ⟨rule, node, alternative, body, start, scanner, state, last, hpair, hbody, hitems, hstart,
    hrun, hends⟩ :=
    exists_of_runsPair hruns
  obtain ⟨mid, place, ⟨front, hfront, hbefore⟩, child, arguments, made, after, -, -, hchildren, hvalues⟩ :=
    hdeliver rule node hpair alternative body hbody (by simp [hitems])
      (by rw [hitems]; decide) marking 1 start scanner
      state last hrun [] _ _ hitems
  -- Nothing was run before the first item, so its child is the first one in the end.
  cases hfront
  cases hbefore
  obtain ⟨others, hothers⟩ := hchildren
  rw [hstart] at hothers
  obtain ⟨value, hvalue, hcopied⟩ := hvalues _ (mem_of_exportsPair hexports hread hmerged)
  obtain ⟨hlast, hfirst⟩ := Bool.and_eq_true_iff.mp hends
  have hfield : state.fields.lookup "x_y_v" = some value := hcopied trivial
  have hmarked : made.fields.lookup "y_v" = some "a" := by
    rw [← hothers] at hfirst
    exact of_decide_eq_true hfirst
  rw [of_decide_eq_true hlast] at hfield
  rw [hvalue, ← hfield] at hmarked
  revert hmarked
  decide

end Synthesis

end AttributeGrammar
