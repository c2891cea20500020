import AttributeGrammar.Proofs.Synthesis.Run

/-!
# Walks through an emitted parser

A walk is what a run does to the tokens and to the children of nodes, with the values of the fields
left out.

* `ParserCode.Walk`, `ParserCode.Visit` — the walks through the statements of a body, and through the
  dispatch method of a node type and the body that it selects.
* `visit_of_parseNode` — a run that returns has taken a walk.
* `visit_of_run` — so has a run of the whole parser, and then the end is left.
-/

set_option autoImplicit false

namespace AttributeGrammar.Synthesis

variable {V : Type}

/-- The statements of a body read some of the tokens ahead and add children to their node. The last
tokens are those left ahead. -/
inductive ParserCode.Walk (code : ParserCode) :
    List Statement → List Token → List (Tree V) → List Token → Prop where
  | nil {tokens : List Token} : Walk code [] tokens [] tokens
  | text {literal : String} {into : Option String} {rest : List Statement} {token : Token}
      {tokens left : List Token} {trees : List (Tree V)} :
      token.isText literal → Walk code rest tokens trees left →
      Walk code (.expectText literal into :: rest) (token :: tokens) (.leaf token.text :: trees) left
  | kind {name : String} {into : Option String} {rest : List Statement} {token : Token}
      {tokens left : List Token} {trees : List (Tree V)} :
      token.kind = .regex name → Walk code rest tokens trees left →
      Walk code (.expectKind name into :: rest) (token :: tokens) (.leaf token.text :: trees) left
  | act {action : String} {rest : List Statement} {tokens left : List Token}
      {trees : List (Tree V)} :
      Walk code rest tokens trees left → Walk code (.act action :: rest) tokens trees left
  | idle {call : ChildCall} {node : NodeType} {fields : Fields V} {rest : List Statement}
      {tokens left : List Token} {trees : List (Tree V)} :
      code.node? call.node = some node → node.choice? tokens = some none →
      Walk code rest tokens trees left →
      Walk code (.child call :: rest) tokens (.node node.name fields [] :: trees) left
  | enter {call : ChildCall} {node : NodeType} {index : Nat} {body : List Statement}
      {fields : Fields V} {rest : List Statement} {tokens mid left : List Token}
      {children trees : List (Tree V)} :
      code.node? call.node = some node → node.choice? tokens = some (some index) →
      node.bodies[index]? = some body → Walk code body tokens children mid →
      Walk code rest mid trees left →
      Walk code (.child call :: rest) tokens (.node node.name fields children :: trees) left

namespace ParserCode

variable {code : ParserCode} {node : NodeType} {call : ChildCall} {tokens mid left : List Token}
  {trees children : List (Tree V)} {body rest : List Statement}

/-- A dispatch method and the body that it selects, if it selects one, read some of the tokens ahead
and add children to their node. -/
def Visit (code : ParserCode) (node : NodeType) (tokens : List Token) (children : List (Tree V))
    (left : List Token) : Prop :=
  (node.choice? tokens = some none ∧ children = [] ∧ left = tokens) ∨
    ∃ index body, node.choice? tokens = some (some index) ∧ node.bodies[index]? = some body ∧
      code.Walk body tokens children left

theorem Walk.child (hnode : code.node? call.node = some node)
    (hvisit : code.Visit node tokens children mid) (hrest : code.Walk rest mid trees left)
    (fields : Fields V) :
    code.Walk (.child call :: rest) tokens (.node node.name fields children :: trees) left := by
  rcases hvisit with ⟨hchoice, rfl, rfl⟩ | ⟨index, body, hchoice, hbody, hwalk⟩
  · exact .idle hnode hchoice hrest
  · exact .enter hnode hchoice hbody hwalk hrest

theorem Walk.child_inv (h : code.Walk (.child call :: rest) tokens trees left) :
    ∃ node fields children mid more, code.node? call.node = some node ∧
      trees = .node node.name fields children :: more ∧ code.Visit node tokens children mid ∧
      code.Walk rest mid more left := by
  cases h with
  | idle hnode hchoice hrest =>
    exact ⟨_, _, [], _, _, hnode, rfl, Or.inl ⟨hchoice, rfl, rfl⟩, hrest⟩
  | enter hnode hchoice hbody hwalk hrest =>
    exact ⟨_, _, _, _, _, hnode, rfl, Or.inr ⟨_, _, hchoice, hbody, hwalk⟩, hrest⟩

/-- A walk leaves the last of the tokens ahead. -/
theorem Walk.isSuffix (h : code.Walk body tokens trees left) : left <:+ tokens := by
  induction h with
  | nil => exact List.suffix_refl _
  | text _ _ ih => exact ih.trans (List.suffix_cons ..)
  | kind _ _ ih => exact ih.trans (List.suffix_cons ..)
  | act _ ih => exact ih
  | idle _ _ _ ih => exact ih
  | enter _ _ _ _ _ ihbody ihrest => exact ihrest.trans ihbody

end ParserCode

/-! ## Runs that return -/

variable {meaning : Meaning V} {code : ParserCode} {scanner after : Scanner} {tokens : List Token}
  {parseChild : NodeType → Fields V → Run (NodeState V)}

/-- The first statement of any body takes the step: it adds `trees` and leaves `left` ahead. -/
def Statement.Walks (code : ParserCode) (statement : Statement) (tokens : List Token)
    (trees : List (Tree V)) (left : List Token) : Prop :=
  ∀ {rest : List Statement} {more : List (Tree V)} {last : List Token},
    code.Walk rest left more last → code.Walk (statement :: rest) tokens (trees ++ more) last

/-- Children that return have taken a walk. -/
def Faithful (code : ParserCode) (parseChild : NodeType → Fields V → Run (NodeState V)) : Prop :=
  ∀ {node : NodeType} {fields : Fields V} {scanner after : Scanner} {state : NodeState V}
    {tokens : List Token}, scanner.Ahead tokens → parseChild node fields scanner = .ok state after →
    ∃ left, after.Ahead left ∧ code.Visit node tokens state.children left

theorem walks_of_runStatement (hchild : Faithful code parseChild) {state new : NodeState V}
    {statement : Statement} (hahead : scanner.Ahead tokens)
    (h : runStatement meaning code parseChild state statement scanner = .ok new after) :
    ∃ trees left, after.Ahead left ∧ new.children = state.children ++ trees ∧
      statement.Walks code tokens trees left := by
  cases statement with
  | expectText literal into =>
    obtain ⟨token, rest, rfl, htext, hrest, hadded⟩ := (takes_text literal).of_ok hahead h
    exact ⟨_, rest, hrest, hadded, fun hwalk => .text htext hwalk⟩
  | expectKind kind into =>
    obtain ⟨token, rest, rfl, hkind, hrest, hadded⟩ := (takes_kind kind).of_ok hahead h
    exact ⟨_, rest, hrest, hadded, fun hwalk => .kind hkind hwalk⟩
  | child call =>
    obtain ⟨node, s₁, hnode, h⟩ := Outcome.bind_eq_ok.mp h
    obtain ⟨arguments, s₂, harguments, h⟩ := Outcome.bind_eq_ok.mp h
    obtain ⟨child, s₃, hparse, h⟩ := Outcome.bind_eq_ok.mp h
    obtain ⟨kept, s₄, hcopies, h⟩ := Outcome.bind_eq_ok.mp h
    cases h
    obtain ⟨hfound, rfl⟩ := Run.declared_eq_ok.mp hnode
    obtain ⟨rfl, -⟩ := (Run.quiet_arguments state.fields call.arguments).of_ok harguments
    obtain ⟨rfl, hkeeps⟩ := (NodeState.quiet_copies child.fields call.copies state).of_ok hcopies
    obtain ⟨left, hleft, hvisit⟩ := hchild hahead hparse
    refine ⟨[.node node.name child.fields child.children], left, hleft, ?_, fun hwalk => ?_⟩
    · rw [NodeState.addChild, hkeeps.1]
    · exact .child hfound hvisit hwalk child.fields
  | act action =>
    rcases hact : meaning.act action state.fields with cause | fields
    · simp only [runStatement, hact] at h
      cases h
    · simp only [runStatement, hact] at h
      cases h
      exact ⟨[], tokens, hahead, (List.append_nil _).symm, fun hwalk => .act hwalk⟩

theorem walk_of_statements (hchild : Faithful code parseChild) {body : List Statement}
    {state new : NodeState V} (hahead : scanner.Ahead tokens)
    (h : body.foldlM (runStatement meaning code parseChild) state scanner = .ok new after) :
    ∃ trees left, after.Ahead left ∧ new.children = state.children ++ trees ∧
      code.Walk body tokens trees left := by
  induction body generalizing state scanner tokens with
  | nil =>
    cases h
    exact ⟨[], tokens, hahead, (List.append_nil _).symm, .nil⟩
  | cons statement body ih =>
    rw [List.foldlM_cons] at h
    obtain ⟨mid, s, hfirst, hrest⟩ := Outcome.bind_eq_ok.mp h
    obtain ⟨trees, ahead, hmid, hadded, hwalks⟩ := walks_of_runStatement hchild hahead hfirst
    obtain ⟨more, left, hleft, hmore, hwalk⟩ := ih hmid hrest
    refine ⟨trees ++ more, left, hleft, ?_, hwalks hwalk⟩
    rw [hmore, hadded, List.append_assoc]

/-- **A node that is parsed has taken a walk through its code.** -/
theorem visit_of_parseNode (depth : Nat) : Faithful code (parseNode meaning code depth) := by
  induction depth with
  | zero =>
    intro node fields scanner after state tokens _ h
    cases h
  | succ depth ih =>
    intro node fields scanner after state tokens hahead h
    obtain ⟨selected, s, hselect, h⟩ := Outcome.bind_eq_ok.mp h
    rcases selectBody_spec node hahead with ⟨body, s', hchoice, heq, hs⟩ | ⟨⟨e, s', heq⟩, -⟩
    · rw [heq] at hselect
      cases hselect
      cases selected with
      | none =>
        cases h
        exact ⟨tokens, hs, Or.inl ⟨hchoice, rfl, rfl⟩⟩
      | some index =>
        obtain ⟨statements, s'', hbody, hrun⟩ := Outcome.bind_eq_ok.mp h
        obtain ⟨hfound, rfl⟩ := Run.declared_eq_ok.mp hbody
        obtain ⟨trees, left, hleft, hadded, hwalk⟩ := walk_of_statements ih hs hrun
        rw [List.nil_append] at hadded
        exact ⟨left, hleft, Or.inr ⟨index, statements, hchoice, hfound, hadded ▸ hwalk⟩⟩
    · rw [heq] at hselect
      cases hselect

/-- **A parser that returns a tree has taken a walk from the start to the end of the input.** -/
theorem visit_of_run {depth : Nat} {arguments : List V} {tree : Tree V}
    (hahead : scanner.Ahead tokens)
    (h : code.run meaning depth arguments scanner = .ok tree after) :
    ∃ node fields children stop rest, code.node? code.start = some node ∧
      tree = .node node.name fields children ∧ stop.isEnd ∧
      code.Visit node tokens children (stop :: rest) := by
  obtain ⟨node, s₁, hnode, h⟩ := Outcome.bind_eq_ok.mp h
  obtain ⟨state, s₂, hparse, h⟩ := Outcome.bind_eq_ok.mp h
  obtain ⟨_, s₃, hexpect, h⟩ := Outcome.bind_eq_ok.mp h
  cases h
  obtain ⟨hfound, rfl⟩ := Run.declared_eq_ok.mp hnode
  obtain ⟨left, hleft, hvisit⟩ := visit_of_parseNode depth hahead hparse
  rcases expectEnd_spec hleft with ⟨stop, rest, _, rfl, hstop, -⟩ | ⟨⟨e, _, heq⟩, -⟩
  · exact ⟨node, _, _, stop, rest, hfound, rfl, hstop, hvisit⟩
  · rw [heq] at hexpect
    cases hexpect

end AttributeGrammar.Synthesis
