import AttributeGrammar.Proofs.Synthesis.Run

/-!
# What the steps of a run do to the fields

* `Statement.Declared`, `ParserCode.Closed` — the statements of every body refer only to what is declared.
* `Fields.Copied` — the fields behind the copies from a child.
* `Gives` — a step comes to a result: it breaks off with a panic, or ends with fields that a value describes.
* `gives_text`, `gives_kind`, `gives_act`, `gives_child` — what the statements of a body give.
* `gives_enter` — what a node type gives is what the body gives that it selects.
-/

set_option autoImplicit false

namespace AttributeGrammar.Synthesis

variable {V α β γ : Type}

/-! ## Declarations -/

/-- What a statement refers to is declared, given the names of the fields of its node. -/
def Statement.Declared (code : ParserCode) (names : List String) : Statement → Prop
  | .expectText _ into | .expectKind _ into => ∀ name ∈ into, name ∈ names
  | .child call => ∃ child, code.node? call.node = some child ∧
      (∀ name ∈ call.arguments, name ∈ names) ∧
      ∀ copy ∈ call.copies, copy.1 ∈ names ∧ copy.2 ∈ child.fieldNames
  | .act _ => True

/-- The statements of every body refer only to what is declared. -/
def ParserCode.Closed (code : ParserCode) : Prop :=
  ∀ node ∈ code.nodes, ∀ body ∈ node.bodies, ∀ statement ∈ body,
    statement.Declared code node.fieldNames

/-! ## Fields -/

namespace Fields

variable {fields child old new : Fields V} {name other source : String} {value : V}
  {copies : List (String × String)}

theorem lookup_put_self (h : name ∈ fields.names) : (fields.put name value).lookup name = some value := by
  induction fields with
  | nil => cases h
  | cons field fields ih =>
    obtain ⟨first, held⟩ := field
    by_cases hfirst : first = name
    · subst hfirst
      simp [put]
    · rcases List.mem_cons.mp h with rfl | hrest
      · exact absurd rfl hfirst
      · have hne : (name == first) = false := by simpa using Ne.symm hfirst
        simpa [put, hfirst, List.lookup_cons, hne] using ih hrest

theorem lookup_put_of_ne (h : other ≠ name) :
    (fields.put name value).lookup other = fields.lookup other := by
  induction fields with
  | nil => rfl
  | cons field fields ih =>
    obtain ⟨first, held⟩ := field
    have hput : put ((first, held) :: fields) name value =
        (if first = name then (first, value) else (first, held)) :: put fields name value := rfl
    rw [hput]
    by_cases hfirst : first = name
    · subst hfirst
      have hne : (other == first) = false := by simpa using h
      simpa [List.lookup_cons, hne] using ih
    · simp only [hfirst, if_false, List.lookup_cons]
      split
      · rfl
      · exact ih

/-- The fields behind the copies from a child: a field into which only one field of the child is copied has
its value, and a field into which none is copied has kept its own. -/
structure Copied (child : Fields V) (copies : List (String × String)) (old new : Fields V) : Prop where
  kept : ∀ name, (∀ copy ∈ copies, copy.1 ≠ name) → new.lookup name = old.lookup name
  copied : ∀ name source, (name, source) ∈ copies →
    (∀ copy ∈ copies, copy.1 = name → copy.2 = source) → new.lookup name = child.lookup source

theorem copied_nil : Copied child [] old old :=
  ⟨fun _ _ => rfl, fun _ _ h => by cases h⟩

theorem Copied.cons (hname : name ∈ old.names) (hvalue : child.lookup source = some value)
    (h : Copied child copies (old.put name value) new) : Copied child ((name, source) :: copies) old new := by
  constructor
  · intro other hother
    obtain ⟨hne, hrest⟩ := List.forall_mem_cons.mp hother
    rw [h.kept other hrest, lookup_put_of_ne (Ne.symm hne)]
  · intro other from' hmem honly
    obtain ⟨hfirst, hrest⟩ := List.forall_mem_cons.mp honly
    by_cases hlater : (other, from') ∈ copies
    · exact h.copied other from' hlater hrest
    · rcases List.mem_cons.mp hmem with heq | hmem
      · cases heq
        -- No later copy has this target: it would have this source, too.
        have hnone : ∀ copy ∈ copies, copy.1 ≠ name := by
          rintro ⟨_, _⟩ hcopy rfl
          obtain rfl := hrest _ hcopy rfl
          exact hlater hcopy
        rw [h.kept name hnone, lookup_put_self hname, hvalue]
      · exact absurd hmem hlater

end Fields

/-- The one parameter of a node type has the value that is passed. -/
theorem NodeType.lookup_newFields {meaning : Meaning V} {node : NodeType} {name : String} {value : V}
    (hparameters : node.parameters.map Field.name = [name]) (hname : name ∈ node.fieldNames) :
    (node.newFields meaning [value]).lookup name = some value := by
  obtain ⟨parameter, rest, hcons, rfl, hrest⟩ := List.map_eq_cons_iff.mp hparameters
  rw [newFields, hcons, List.zip_cons_cons, List.zip_nil_right, List.foldl_cons, List.foldl_nil]
  refine Fields.lookup_put_self ?_
  simpa [Fields.names, fieldNames] using hname

namespace NodeState

variable {state : NodeState V}

theorem store_eq {name : String} {value : V} (h : name ∈ state.fields.names) (scanner : Scanner) :
    state.store name value scanner = .ok { state with fields := state.fields.put name value } scanner := by
  obtain ⟨old, hold⟩ := Option.isSome_iff_exists.mp (Fields.lookup_isSome h)
  unfold store
  rw [hold]
  rfl

/-- The fields after a token was stored. -/
theorem addToken_eq_ok {into : Option String} (h : ∀ name ∈ into, name ∈ state.fields.names)
    (meaning : Meaning V) (token : Token) (scanner : Scanner) :
    ∃ new, state.addToken meaning into token scanner = .ok new scanner ∧
      new.fields = into.elim state.fields fun name => state.fields.put name (meaning.ofText token.text) := by
  cases into with
  | none => exact ⟨_, rfl, rfl⟩
  | some name =>
    have hname : name ∈ (state.addChild (.leaf token.text)).fields.names := h name rfl
    exact ⟨_, store_eq hname scanner, rfl⟩

theorem copies_eq_ok {child : Fields V} {copies : List (String × String)}
    (h : ∀ copy ∈ copies, copy.1 ∈ state.fields.names ∧ copy.2 ∈ child.names) (scanner : Scanner) :
    ∃ new, copies.foldlM (copyFrom child) state scanner = .ok new scanner ∧
      new.fields.names = state.fields.names ∧ Fields.Copied child copies state.fields new.fields := by
  induction copies generalizing state with
  | nil => exact ⟨state, rfl, rfl, Fields.copied_nil⟩
  | cons copy copies ih =>
    obtain ⟨name, source⟩ := copy
    obtain ⟨⟨hname, hsource⟩, hrest⟩ := List.forall_mem_cons.mp h
    obtain ⟨value, hvalue⟩ := Option.isSome_iff_exists.mp (Fields.lookup_isSome hsource)
    have hstored : ∀ copy ∈ copies,
        copy.1 ∈ (NodeState.mk (state.fields.put name value) state.children).fields.names ∧
          copy.2 ∈ child.names := by simpa using hrest
    obtain ⟨new, hnew, hnames, hcopied⟩ := ih hstored
    refine ⟨new, ?_, by simpa using hnames, hcopied.cons hname hvalue⟩
    rw [List.foldlM_cons]
    refine Outcome.bind_eq_ok.mpr ⟨_, scanner, ?_, hnew⟩
    exact Outcome.bind_eq_ok.mpr ⟨value, scanner, Run.declared_eq_ok.mpr ⟨hvalue, rfl⟩, store_eq hname scanner⟩

end NodeState

/-- The values that are passed are those of the fields of the given names. -/
theorem Run.arguments_eq_ok {fields : Fields V} {names : List String}
    (h : ∀ name ∈ names, name ∈ fields.names) (scanner : Scanner) :
    ∃ values, (names.mapM fun name => Run.declared name (fields.lookup name)) scanner = .ok values scanner ∧
      List.Forall₂ (fun name value => fields.lookup name = some value) names values := by
  induction names with
  | nil => exact ⟨[], rfl, .nil⟩
  | cons name names ih =>
    obtain ⟨hname, hrest⟩ := List.forall_mem_cons.mp h
    obtain ⟨value, hvalue⟩ := Option.isSome_iff_exists.mp (Fields.lookup_isSome hname)
    obtain ⟨values, heq, hvalues⟩ := ih hrest
    refine ⟨value :: values, ?_, .cons hvalue hvalues⟩
    rw [List.mapM_cons]
    refine Outcome.bind_eq_ok.mpr ⟨value, scanner, Run.declared_eq_ok.mpr ⟨hvalue, rfl⟩, ?_⟩
    exact Outcome.bind_eq_ok.mpr ⟨values, scanner, heq, rfl⟩

/-! ## Steps -/

/-- The outcome of a step is as the result says: the step has broken off with its panic; or it has left
`left` ahead and fields of the given names, which the value of the result describes. -/
def Comes (names : List String) (left : List Token) (describes : α → Fields V → Prop) :
    (result : Except Panic α) → EStateM.Result RunError Scanner (NodeState V) → Prop
  | .ok a, outcome => ∃ new after, outcome = .ok new after ∧ new.fields.names = names ∧
      describes a new.fields ∧ after.Ahead left
  | .error cause, outcome => ∃ after, outcome = .error (.panic cause) after

/-- On the given tokens, and on fields of the given names that satisfy `before`, the step comes to the
result. -/
def Gives (names : List String) (before : Fields V → Prop) (step : NodeState V → Run (NodeState V))
    (tokens left : List Token) (result : Except Panic α) (describes : α → Fields V → Prop) : Prop :=
  ∀ state scanner, state.fields.names = names → before state.fields → scanner.Ahead tokens →
    Comes names left describes result (step state scanner)

variable {meaning : Meaning V} {code : ParserCode} {names : List String} {tokens mid left : List Token}
  {parseChild : NodeType → Fields V → Run (NodeState V)} {depth : Nat} {node : NodeType}
  {before : Fields V → Prop} {describes : α → Fields V → Prop} {result : Except Panic α}

/-- **Two steps in a row give what their results in a row are.** -/
theorem Gives.comp {step next : NodeState V → Run (NodeState V)} {last : α → Except Panic β}
    {describes' : β → Fields V → Prop} (h : Gives names before step tokens mid result describes)
    (hnext : ∀ a, Gives names (describes a) next mid left (last a) describes') :
    Gives names before (fun state => step state >>= next) tokens left (result >>= last) describes' := by
  intro state scanner hnames hbefore hahead
  have hfirst := h state scanner hnames hbefore hahead
  cases result with
  | error cause =>
    obtain ⟨after, hstep⟩ := hfirst
    exact ⟨after, Outcome.bind_eq_error.mpr (Or.inl hstep)⟩
  | ok a =>
    obtain ⟨state', scanner', hstep, hnames', hdescribes, hahead'⟩ := hfirst
    have hrest := hnext a state' scanner' hnames' hdescribes hahead'
    show Comes names left describes' (last a) ((step state >>= next) scanner)
    rwa [Outcome.bind_of_ok hstep]

/-- A step, and one that keeps its value. -/
theorem Gives.last {step next : NodeState V → Run (NodeState V)} {describes' : α → Fields V → Prop}
    (h : Gives names before step tokens mid result describes)
    (hnext : ∀ a, Gives names (describes a) next mid left (.ok a) describes') :
    Gives names before (fun state => step state >>= next) tokens left result describes' := by
  have hboth := h.comp hnext
  cases result <;> exact hboth

/-- A step that does not break off, and the next one. -/
theorem Gives.then {step next : NodeState V → Run (NodeState V)} {between : Fields V → Prop}
    (h : Gives names before step tokens mid (.ok ()) fun _ => between)
    (hnext : Gives names between next mid left result describes) :
    Gives names before (fun state => step state >>= next) tokens left result describes := by
  have hboth := h.comp fun _ => hnext
  exact hboth

/-- No step is left. -/
theorem gives_nil {a : α} (hafter : ∀ fields, before fields → describes a fields) :
    Gives names before (List.foldlM (runStatement meaning code parseChild) · []) tokens tokens (.ok a)
      describes :=
  fun state scanner hnames hbefore hahead =>
    ⟨state, scanner, rfl, hnames, hafter state.fields hbefore, hahead⟩

/-! ## Statements -/

theorem gives_token {token : Token} {into : Option String} {reading : Run Token}
    {accepts : Token → Prop} {a : α} (htakes : Takes reading accepts)
    (hinto : ∀ name ∈ into, name ∈ names) (haccepts : accepts token)
    (hafter : ∀ fields, fields.names = names → before fields →
      describes a (into.elim fields fun name => fields.put name (meaning.ofText token.text))) :
    Gives names before (fun state => reading >>= fun token => state.addToken meaning into token)
      (token :: tokens) tokens (.ok a) describes := by
  rintro state scanner rfl hbefore hahead
  rcases htakes _ _ hahead with ⟨_, _, after, heq, -, hread, hleft⟩ | ⟨-, hnot⟩
  · cases heq
    obtain ⟨new, hadd, hfields⟩ := NodeState.addToken_eq_ok hinto meaning token after
    refine ⟨new, after, Outcome.bind_eq_ok.mpr ⟨token, after, hread, hadd⟩, ?_, ?_, hleft⟩
    · rw [hfields]
      cases into <;> simp
    · rw [hfields]
      exact hafter state.fields rfl hbefore
  · exact absurd haccepts (hnot token rfl)

theorem gives_text {literal : String} {into : Option String} {token : Token} {a : α}
    (hinto : ∀ name ∈ into, name ∈ names) (htext : token.isText literal)
    (hafter : ∀ fields, fields.names = names → before fields →
      describes a (into.elim fields fun name => fields.put name (meaning.ofText token.text))) :
    Gives names before (runStatement meaning code parseChild · (.expectText literal into))
      (token :: tokens) tokens (.ok a) describes :=
  gives_token (takes_text literal) hinto htext hafter

theorem gives_kind {kind : String} {into : Option String} {token : Token} {a : α}
    (hinto : ∀ name ∈ into, name ∈ names) (hkind : token.kind = .regex kind)
    (hafter : ∀ fields, fields.names = names → before fields →
      describes a (into.elim fields fun name => fields.put name (meaning.ofText token.text))) :
    Gives names before (runStatement meaning code parseChild · (.expectKind kind into))
      (token :: tokens) tokens (.ok a) describes :=
  gives_token (takes_kind kind) hinto hkind hafter

/-- The code of an action comes to the result: it breaks off as the result does, or the value of the result
describes the fields that it makes. -/
def Makes (names : List String) (describes : α → Fields V → Prop) :
    (result : Except Panic α) → Except Panic (Fields V) → Prop
  | .ok a, outcome => ∃ new, outcome = .ok new ∧ new.names = names ∧ describes a new
  | .error cause, outcome => outcome = .error cause

theorem gives_act {action : String}
    (hact : ∀ fields, fields.names = names → before fields →
      Makes names describes result (meaning.act action fields)) :
    Gives names before (runStatement meaning code parseChild · (.act action)) tokens tokens result
      describes := by
  intro state scanner hnames hbefore hahead
  have hmakes := hact state.fields hnames hbefore
  cases result with
  | ok a =>
    obtain ⟨new, heq, hnew, hdescribes⟩ := hmakes
    exact ⟨⟨new, state.children⟩, scanner, by simp only [runStatement, heq]; rfl, hnew, hdescribes, hahead⟩
  | error cause =>
    have heq : meaning.act action state.fields = .error cause := hmakes
    exact ⟨scanner, by simp only [runStatement, heq]; rfl⟩

/-- **A child gives what its node type gives**, with the copies of its fields. -/
theorem gives_child {call : ChildCall} {within : Fields V → Prop} {parsed : α → Fields V → Prop}
    (hnode : code.node? call.node = some node) (hdeclared : (Statement.child call).Declared code names)
    (hchild : Gives node.fieldNames within (fun state => parseChild node state.fields) tokens left result
      parsed)
    (harguments : ∀ fields values, before fields →
      List.Forall₂ (fun name value => fields.lookup name = some value) call.arguments values →
      within (node.newFields meaning values))
    (hafter : ∀ a fields child new, before fields → parsed a child →
      Fields.Copied child call.copies fields new → describes a new) :
    Gives names before (runStatement meaning code parseChild · (.child call)) tokens left result
      describes := by
  rintro state scanner rfl hbefore hahead
  obtain ⟨_, hfound, hpassed, hcopies⟩ := hdeclared
  cases hnode.symm.trans hfound
  obtain ⟨values, hmapped, hvalues⟩ := Run.arguments_eq_ok hpassed scanner
  have hrun : runStatement meaning code parseChild state (.child call) scanner =
      (do
        let child ← parseChild node (node.newFields meaning values)
        let state ← call.copies.foldlM (NodeState.copyFrom child.fields) state
        return state.addChild (.node node.name child.fields child.children) : Run (NodeState V)) scanner :=
    (Outcome.bind_of_ok (Run.declared_eq_ok.mpr ⟨hnode, rfl⟩)).trans (Outcome.bind_of_ok hmapped)
  show Comes _ left describes result (runStatement meaning code parseChild state (.child call) scanner)
  rw [hrun]
  have hparse := hchild ⟨node.newFields meaning values, []⟩ scanner (node.names_newFields meaning values)
    (harguments state.fields values hbefore hvalues) hahead
  cases result with
  | ok a =>
    obtain ⟨parsedState, after, heq, hnames, hparsed, hleft⟩ := hparse
    obtain ⟨new, hcopied, hnew, hfields⟩ := NodeState.copies_eq_ok (hnames ▸ hcopies) after
    refine ⟨new.addChild (.node node.name parsedState.fields parsedState.children), after, ?_, hnew,
      hafter a _ _ _ hbefore hparsed hfields, hleft⟩
    refine Outcome.bind_eq_ok.mpr ⟨parsedState, after, heq, ?_⟩
    exact Outcome.bind_eq_ok.mpr ⟨new, after, hcopied, rfl⟩
  | error cause =>
    obtain ⟨after, heq⟩ := hparse
    exact ⟨after, Outcome.bind_eq_error.mpr (Or.inl heq)⟩

/-! ## Node types -/

/-- A node type that selects no body leaves everything as it is. -/
theorem gives_idle {a : α} (hchoice : node.choice? tokens = some none)
    (hafter : ∀ fields, before fields → describes a fields) :
    Gives names before (fun state => parseNode meaning code (depth + 1) node state.fields) tokens tokens
      (.ok a) describes := by
  intro state scanner hnames hbefore hahead
  rcases selectBody_spec node hahead with ⟨_, after, heq, hselect, hleft⟩ | ⟨-, heq⟩
  · cases hchoice.symm.trans heq
    exact ⟨⟨state.fields, []⟩, after, Outcome.bind_eq_ok.mpr ⟨none, after, hselect, rfl⟩, hnames,
      hafter _ hbefore, hleft⟩
  · cases hchoice.symm.trans heq

/-- **A node type gives what the body gives that it selects.** -/
theorem gives_enter {index : Nat} {body : List Statement}
    (hchoice : node.choice? tokens = some (some index)) (hbody : node.bodies[index]? = some body)
    (h : Gives names before
      (List.foldlM (runStatement meaning code (parseNode meaning code depth)) · body) tokens left result
      describes) :
    Gives names before (fun state => parseNode meaning code (depth + 1) node state.fields) tokens left
      result describes := by
  intro state scanner hnames hbefore hahead
  rcases selectBody_spec node hahead with ⟨_, mid, heq, hselect, hmid⟩ | ⟨-, heq⟩
  · cases hchoice.symm.trans heq
    have hrun : parseNode meaning code (depth + 1) node state.fields scanner =
        body.foldlM (runStatement meaning code (parseNode meaning code depth)) ⟨state.fields, []⟩ mid :=
      (Outcome.bind_of_ok hselect).trans (Outcome.bind_of_ok (Run.declared_eq_ok.mpr ⟨hbody, rfl⟩))
    show Comes names left describes result (parseNode meaning code (depth + 1) node state.fields scanner)
    rw [hrun]
    exact h ⟨state.fields, []⟩ mid hnames hbefore hmid
  · cases hchoice.symm.trans heq

end AttributeGrammar.Synthesis
