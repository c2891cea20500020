import AttributeGrammar.Proofs.Synthesis.Depth
import AttributeGrammar.Proofs.Synthesis.Steps

/-!
# Runs that follow a walk

* `Meaning.Settles` — actions do not break off, and keep the declared fields.
* `Meaning.within_total` — a run ends as with actions that never break off, or an action breaks off.
* `parses_of_visit` — under these, a walk through a node type is what a run takes that is deep enough.
* `stuck_of_diverges` — a place from which steps into children come back is cut off at every depth.
-/

set_option autoImplicit false

namespace AttributeGrammar.Synthesis

variable {V W α : Type}

/-- Every action that a body calls ends without breaking off, and leaves its node the declared fields. -/
def Meaning.Settles (meaning : Meaning V) (code : ParserCode) : Prop :=
  ∀ node ∈ code.nodes, ∀ body ∈ node.bodies, ∀ action, .act action ∈ body →
    ∀ fields : Fields V, fields.names = node.fieldNames →
      ∃ new, meaning.act action fields = .ok new ∧ new.names = node.fieldNames

/-- Every action that a body calls leaves its node the declared fields when it ends. -/
def Meaning.Keeps (meaning : Meaning V) (code : ParserCode) : Prop :=
  ∀ node ∈ code.nodes, ∀ body ∈ node.bodies, ∀ action, .act action ∈ body →
    ∀ fields new : Fields V, fields.names = node.fieldNames → meaning.act action fields = .ok new →
      new.names = node.fieldNames

/-- No action that a body calls breaks off, whatever the fields of its node hold. -/
def Meaning.Calm (meaning : Meaning V) (code : ParserCode) : Prop :=
  ∀ node ∈ code.nodes, ∀ body ∈ node.bodies, ∀ action, .act action ∈ body →
    ∀ fields : Fields V, fields.names = node.fieldNames → ∃ new, meaning.act action fields = .ok new

theorem Meaning.settles_of_calm {meaning : Meaning V} {code : ParserCode} (hkeeps : meaning.Keeps code)
    (hcalm : meaning.Calm code) : meaning.Settles code := by
  intro node hnode body hbody action haction fields hnames
  obtain ⟨new, hnew⟩ := hcalm node hnode body hbody action haction fields hnames
  exact ⟨new, hnew, hkeeps node hnode body hbody action haction fields new hnames hnew⟩

/-- The meaning in which an action that breaks off does nothing instead. -/
def Meaning.total (meaning : Meaning V) : Meaning V :=
  { meaning with
    act := fun action fields =>
      match meaning.act action fields with
      | .ok new => .ok new
      | .error _ => .ok fields }

theorem Meaning.settles_total {meaning : Meaning V} {code : ParserCode} (hkeeps : meaning.Keeps code) :
    meaning.total.Settles code := by
  intro node hnode body hbody action haction fields hnames
  unfold Meaning.total
  rcases hact : meaning.act action fields with cause | new
  · exact ⟨fields, by simp only [hact], hnames⟩
  · exact ⟨new, by simp only [hact], hkeeps node hnode body hbody action haction fields new hnames hact⟩

/-- A run ends as with actions that never break off, or an action breaks off. -/
theorem Meaning.within_total (meaning : Meaning V) :
    meaning.Within (fun e => ∃ cause, e = .panic cause) meaning.total := by
  refine ⟨rfl, rfl, fun action fields => ?_⟩
  unfold Meaning.total
  rcases hact : meaning.act action fields with cause | new
  · exact Or.inr ⟨cause, ⟨cause, rfl⟩, rfl⟩
  · exact Or.inl (by simp only [hact])

/-- A statement refers to what is declared, and its action settles. -/
def Statement.Ready (meaning : Meaning V) (code : ParserCode) (names : List String)
    (statement : Statement) : Prop :=
  statement.Declared code names ∧ ∀ action, statement = .act action →
    ∀ fields : Fields V, fields.names = names →
      ∃ new, meaning.act action fields = .ok new ∧ new.names = names

theorem ready_of_settles {meaning : Meaning V} {code : ParserCode} (hclosed : code.Closed)
    (hsettles : meaning.Settles code) {node : NodeType} (hnode : node ∈ code.nodes)
    {body : List Statement} (hbody : body ∈ node.bodies) :
    ∀ statement ∈ body, statement.Ready meaning code node.fieldNames := by
  intro statement hstatement
  refine ⟨hclosed node hnode body hbody statement hstatement, ?_⟩
  rintro action rfl
  exact hsettles node hnode body hbody action hstatement

/-! ## Steps that return -/

/-- On the given tokens, the step returns with others left ahead, and keeps the names of the fields. -/
def Leads (names : List String) (step : NodeState V → Run (NodeState V)) (tokens left : List Token) :
    Prop :=
  ∀ state scanner, state.fields.names = names → scanner.Ahead tokens →
    ∃ new after, step state scanner = .ok new after ∧ new.fields.names = names ∧ after.Ahead left

/-- On the given tokens, parsing a node returns with others left ahead. -/
def Parses (meaning : Meaning V) (code : ParserCode) (depth : Nat) (node : NodeType)
    (tokens left : List Token) : Prop :=
  ∀ fields scanner, fields.names = node.fieldNames → scanner.Ahead tokens →
    ∃ state after, parseNode meaning code depth node fields scanner = .ok state after ∧
      state.fields.names = node.fieldNames ∧ after.Ahead left

variable {meaning : Meaning V} {code : ParserCode} {names : List String} {tokens mid left : List Token}
  {parseChild : NodeType → Fields V → Run (NodeState V)} {depth deep : Nat} {node : NodeType}

theorem leads_iff_gives {step : NodeState V → Run (NodeState V)} :
    Leads names step tokens left ↔
      Gives names (fun _ => True) step tokens left (.ok ()) fun _ _ => True := by
  constructor
  · intro h state scanner hnames _ hahead
    obtain ⟨new, after, hstep, hnew, hafter⟩ := h state scanner hnames hahead
    exact ⟨new, after, hstep, hnew, trivial, hafter⟩
  · intro h state scanner hnames hahead
    obtain ⟨new, after, hstep, hnew, -, hafter⟩ := h state scanner hnames trivial hahead
    exact ⟨new, after, hstep, hnew, hafter⟩

theorem parses_iff_gives :
    Parses meaning code depth node tokens left ↔
      Gives node.fieldNames (fun _ => True) (fun state => parseNode meaning code depth node state.fields)
        tokens left (.ok ()) fun _ _ => True :=
  ⟨fun h => leads_iff_gives.mp fun state => h state.fields,
    fun h fields => leads_iff_gives.mpr h ⟨fields, []⟩⟩

theorem Leads.comp {step next : NodeState V → Run (NodeState V)} (h : Leads names step tokens mid)
    (hnext : Leads names next mid left) : Leads names (fun state => step state >>= next) tokens left :=
  leads_iff_gives.mpr ((leads_iff_gives.mp h).then (leads_iff_gives.mp hnext))

/-- A computation that ends as another one does, or is cut off, gives only what the other one gives. -/
theorem Gives.deepen {before : Fields V → Prop} {result : Except Panic α} {describes : α → Fields V → Prop}
    {step whole : NodeState V → Run (NodeState V)}
    (hwithin : ∀ state, Run.Within (· = .tooDeep) (step state) (whole state))
    (h : Gives names before step tokens left result describes) :
    Gives names before whole tokens left result describes := by
  intro state scanner hnames hbefore hahead
  have hstep := h state scanner hnames hbefore hahead
  rcases hwithin state scanner with heq | ⟨_, after, rfl, heq⟩
  · rwa [← heq]
  · rw [heq] at hstep
    cases result with
    | ok a =>
      obtain ⟨_, _, hok, -⟩ := hstep
      cases hok
    | error cause =>
      obtain ⟨_, herror⟩ := hstep
      cases herror

theorem body_deeper (hle : depth ≤ deep) (body : List Statement) (state : NodeState V) :
    Run.Within (· = .tooDeep)
      (body.foldlM (runStatement meaning code (parseNode meaning code depth)) state)
      (body.foldlM (runStatement meaning code (parseNode meaning code deep)) state) :=
  Run.within_foldlM (runStatement_within meaning.within_refl (parseNode_deeper hle)) body state

theorem Leads.deepen {body : List Statement} (hle : depth ≤ deep)
    (h : Leads names (body.foldlM (runStatement meaning code (parseNode meaning code depth))) tokens left) :
    Leads names (body.foldlM (runStatement meaning code (parseNode meaning code deep))) tokens left :=
  leads_iff_gives.mpr ((leads_iff_gives.mp h).deepen (body_deeper hle body))

theorem Parses.deepen (hle : depth ≤ deep) (h : Parses meaning code depth node tokens left) :
    Parses meaning code deep node tokens left :=
  parses_iff_gives.mpr ((parses_iff_gives.mp h).deepen fun state => parseNode_deeper hle node state.fields)

theorem leads_text {literal : String} {into : Option String} {token : Token}
    (hinto : ∀ name ∈ into, name ∈ names) (htext : token.isText literal) :
    Leads names (fun state => runStatement meaning code parseChild state (.expectText literal into))
      (token :: tokens) tokens :=
  leads_iff_gives.mpr (gives_text hinto htext fun _ _ _ => trivial)

theorem leads_kind {kind : String} {into : Option String} {token : Token}
    (hinto : ∀ name ∈ into, name ∈ names) (hkind : token.kind = .regex kind) :
    Leads names (fun state => runStatement meaning code parseChild state (.expectKind kind into))
      (token :: tokens) tokens :=
  leads_iff_gives.mpr (gives_kind hinto hkind fun _ _ _ => trivial)

theorem leads_act {action : String} (hready : (Statement.act action).Ready meaning code names) :
    Leads names (fun state => runStatement meaning code parseChild state (.act action))
      tokens tokens := by
  refine leads_iff_gives.mpr (gives_act fun fields hnames _ => ?_)
  obtain ⟨new, hact, hnew⟩ := hready.2 action rfl fields hnames
  exact ⟨new, hact, hnew, trivial⟩

theorem leads_child {call : ChildCall} (hnode : code.node? call.node = some node)
    (hdeclared : (Statement.child call).Declared code names)
    (hparses : Parses meaning code depth node tokens left) :
    Leads names
      (fun state => runStatement meaning code (parseNode meaning code depth) state (.child call))
      tokens left :=
  leads_iff_gives.mpr (gives_child hnode hdeclared (parses_iff_gives.mp hparses) (fun _ _ _ _ => trivial)
    fun _ _ _ _ _ _ _ => trivial)

theorem parses_idle (hchoice : node.choice? tokens = some none) :
    Parses meaning code 1 node tokens tokens :=
  parses_iff_gives.mpr (gives_idle hchoice fun _ _ => trivial)

theorem parses_enter {index : Nat} {body : List Statement}
    (hchoice : node.choice? tokens = some (some index)) (hbody : node.bodies[index]? = some body)
    (h : Leads node.fieldNames (body.foldlM (runStatement meaning code (parseNode meaning code depth)))
      tokens left) :
    Parses meaning code (depth + 1) node tokens left :=
  parses_iff_gives.mpr (gives_enter hchoice hbody (leads_iff_gives.mp h))

/-- **A walk through ready statements is what a run takes that is deep enough.** -/
theorem leads_of_walk (hclosed : code.Closed) (hsettles : meaning.Settles code)
    {body : List Statement} {trees : List (Tree W)} (h : code.Walk body tokens trees left)
    (hready : ∀ statement ∈ body, statement.Ready meaning code names) :
    ∃ depth, Leads names (body.foldlM (runStatement meaning code (parseNode meaning code depth)))
      tokens left := by
  induction h generalizing names with
  | nil => exact ⟨0, fun state scanner hnames hahead => ⟨state, scanner, rfl, hnames, hahead⟩⟩
  | text htext _ ih =>
    obtain ⟨hfirst, hrest⟩ := List.forall_mem_cons.mp hready
    obtain ⟨depth, hdepth⟩ := ih hrest
    exact ⟨depth, (leads_text hfirst.1 htext).comp hdepth⟩
  | kind hkind _ ih =>
    obtain ⟨hfirst, hrest⟩ := List.forall_mem_cons.mp hready
    obtain ⟨depth, hdepth⟩ := ih hrest
    exact ⟨depth, (leads_kind hfirst.1 hkind).comp hdepth⟩
  | act _ ih =>
    obtain ⟨hfirst, hrest⟩ := List.forall_mem_cons.mp hready
    obtain ⟨depth, hdepth⟩ := ih hrest
    exact ⟨depth, (leads_act hfirst).comp hdepth⟩
  | idle hnode hchoice _ ih =>
    obtain ⟨hfirst, hrest⟩ := List.forall_mem_cons.mp hready
    obtain ⟨depth, hdepth⟩ := ih hrest
    refine ⟨max 1 depth, Leads.comp ?_ (hdepth.deepen (Nat.le_max_right ..))⟩
    exact leads_child hnode hfirst.1 ((parses_idle hchoice).deepen (Nat.le_max_left ..))
  | enter hnode hchoice hbody _ _ ihbody ih =>
    obtain ⟨hfirst, hrest⟩ := List.forall_mem_cons.mp hready
    obtain ⟨inner, hinner⟩ := ihbody (ready_of_settles hclosed hsettles
      (List.mem_of_find?_eq_some hnode) (List.mem_of_getElem? hbody))
    obtain ⟨depth, hdepth⟩ := ih hrest
    refine ⟨max (inner + 1) depth, Leads.comp ?_ (hdepth.deepen (Nat.le_max_right ..))⟩
    exact leads_child hnode hfirst.1
      ((parses_enter hchoice hbody hinner).deepen (Nat.le_max_left ..))

/-- **A walk through a node type is what a run takes that is deep enough.** -/
theorem parses_of_visit (hclosed : code.Closed) (hsettles : meaning.Settles code)
    (hnode : node ∈ code.nodes) {children : List (Tree W)}
    (h : code.Visit node tokens children left) :
    ∃ depth, Parses meaning code depth node tokens left := by
  rcases h with ⟨hchoice, -, rfl⟩ | ⟨index, body, hchoice, hbody, hwalk⟩
  · exact ⟨1, parses_idle hchoice⟩
  · obtain ⟨depth, hdepth⟩ := leads_of_walk hclosed hsettles hwalk
      (ready_of_settles hclosed hsettles hnode (List.mem_of_getElem? hbody))
    exact ⟨depth + 1, parses_enter hchoice hbody hdepth⟩

/-! ## Places that are cut off at every depth -/

/-- Parsing is cut off at a place. -/
def Stuck (meaning : Meaning V) (code : ParserCode) (depth : Nat) (place : Place) : Prop :=
  ∀ fields scanner, fields.names = place.1.fieldNames → scanner.Ahead place.2 →
    ∃ after, parseNode meaning code depth place.1 fields scanner = .error .tooDeep after

theorem stuck_step (hclosed : code.Closed) (hsettles : meaning.Settles code) {place inner : Place}
    (hplace : place.1 ∈ code.nodes) (hstep : code.Enters place inner)
    (h : Stuck meaning code depth inner) : Stuck meaning code (depth + 1) place := by
  intro fields scanner hnames hahead
  obtain ⟨index, before, call, behind, trees, hchoice, hbody, hwalk, hnode⟩ := hstep
  have hready := ready_of_settles hclosed hsettles hplace (List.mem_of_getElem? hbody)
  obtain ⟨enough, hleads⟩ := leads_of_walk hclosed hsettles hwalk
    fun statement hmem => hready statement (List.mem_append_left _ hmem)
  have hcall := hready (.child call) (List.mem_append_right _ List.mem_cons_self)
  rcases selectBody_spec place.1 hahead with ⟨_, mid, heq, hselect, hmid⟩ | ⟨-, heq⟩
  swap
  · cases hchoice.symm.trans heq
  cases hchoice.symm.trans heq
  suffices ∃ after, (before ++ Statement.child call :: behind).foldlM
      (runStatement meaning code (parseNode meaning code depth)) ⟨fields, []⟩ mid =
        .error .tooDeep after by
    obtain ⟨after, hrun⟩ := this
    refine ⟨after, Outcome.bind_eq_error.mpr (Or.inr ⟨some index, mid, hselect, ?_⟩)⟩
    exact Outcome.bind_eq_error.mpr (Or.inr ⟨_, mid, Run.declared_eq_ok.mpr ⟨hbody, rfl⟩, hrun⟩)
  -- Either the statements before the child are cut off already, or they return and the child is stuck.
  rw [List.foldlM_append]
  obtain ⟨new, after, hrun, hnew, hafter⟩ :=
    (hleads.deepen (Nat.le_max_right depth enough)) ⟨fields, []⟩ mid hnames hmid
  rcases body_deeper (Nat.le_max_left depth enough) before ⟨fields, []⟩ mid with
    heq | ⟨_, after', rfl, heq⟩
  · obtain ⟨child, hchild, harguments, -⟩ := hcall.1
    cases hnode.symm.trans hchild
    obtain ⟨arguments, hvalues, -⟩ :=
      (Run.quiet_arguments new.fields call.arguments).exists_ok (hnew ▸ harguments) after
    obtain ⟨last, hstuck⟩ := h (inner.1.newFields meaning arguments) after
      (inner.1.names_newFields meaning arguments) hafter
    refine ⟨last, Outcome.bind_eq_error.mpr (Or.inr ⟨new, after, heq.trans hrun, ?_⟩)⟩
    rw [List.foldlM_cons]
    refine Outcome.bind_eq_error.mpr (Or.inl ?_)
    refine Outcome.bind_eq_error.mpr (Or.inr ⟨_, after, Run.declared_eq_ok.mpr ⟨hnode, rfl⟩, ?_⟩)
    refine Outcome.bind_eq_error.mpr (Or.inr ⟨arguments, after, hvalues, ?_⟩)
    exact Outcome.bind_eq_error.mpr (Or.inl hstuck)
  · exact ⟨after', Outcome.bind_eq_error.mpr (Or.inl heq)⟩

/-- **A place from which steps into children come back is cut off at every depth.** -/
theorem stuck_of_diverges (hclosed : code.Closed) (hsettles : meaning.Settles code) (depth : Nat)
    {place : Place} (hplace : place.1 ∈ code.nodes) (h : code.Diverges place) :
    Stuck meaning code depth place := by
  induction depth generalizing place with
  | zero => exact fun fields scanner _ _ => ⟨scanner, rfl⟩
  | succ depth ih =>
    obtain ⟨inner, hstep, hinner⟩ := h.step
    exact stuck_step hclosed hsettles hplace hstep (ih hstep.mem hinner)

end AttributeGrammar.Synthesis
