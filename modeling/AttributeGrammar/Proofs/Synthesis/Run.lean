import AttributeGrammar.Proofs.Outcome
import AttributeGrammar.Proofs.Scan.Stream
import AttributeGrammar.Synthesis.Run

/-!
# The steps of a run

* `Run.Quiet` — a computation that leaves the scanner alone and fails only at a missing declaration.
* `Takes`, `takes_text`, `takes_kind`, `expectEnd_spec` — what reading a token does, in terms of the tokens
  ahead.
* `NodeType.choice?`, `selectBody_spec` — the body that a dispatch method selects on the tokens ahead.
-/

set_option autoImplicit false

namespace AttributeGrammar.Synthesis

variable {α β V : Type}

namespace Run

variable {computation : Run α} {next : α → Run β} {scanner after : Scanner}

/-! ## Computations that leave the scanner alone -/

/-- The computation leaves the scanner alone. It ends with a value that satisfies `post`, or refers to
something undeclared, which does not happen under `declared`. -/
def Quiet (declared : Prop) (post : α → Prop) (computation : Run α) : Prop :=
  ∀ scanner, (∃ a, computation scanner = .ok a scanner ∧ post a) ∨
    (∃ name, computation scanner = .error (.undeclared name) scanner ∧ ¬ declared)

variable {declared later : Prop} {post : α → Prop} {post' : β → Prop}

theorem quiet_pure {a : α} (h : post a) : Quiet True post (pure a : Run α) :=
  fun _ => Or.inl ⟨a, rfl, h⟩

theorem Quiet.bind (h : Quiet declared post computation)
    (hnext : ∀ a, post a → Quiet later post' (next a)) :
    Quiet (declared ∧ later) post' (computation >>= next) := by
  intro scanner
  rcases h scanner with ⟨a, heq, ha⟩ | ⟨name, heq, hnot⟩
  · rcases hnext a ha scanner with ⟨b, heq', hb⟩ | ⟨name, heq', hnot⟩
    · exact Or.inl ⟨b, Outcome.bind_eq_ok.mpr ⟨a, scanner, heq, heq'⟩, hb⟩
    · exact Or.inr ⟨name, Outcome.bind_eq_error.mpr (Or.inr ⟨a, scanner, heq, heq'⟩), fun h => hnot h.2⟩
  · exact Or.inr ⟨name, Outcome.bind_eq_error.mpr (Or.inl heq), fun h => hnot h.1⟩

theorem Quiet.weaken {weaker : α → Prop} (h : Quiet declared post computation)
    (hdeclared : later → declared) (hpost : ∀ a, post a → weaker a) :
    Quiet later weaker computation := by
  intro scanner
  rcases h scanner with ⟨a, heq, ha⟩ | ⟨name, heq, hnot⟩
  · exact Or.inl ⟨a, heq, hpost a ha⟩
  · exact Or.inr ⟨name, heq, fun h => hnot (hdeclared h)⟩

theorem Quiet.discard (h : Quiet declared post computation) :
    Quiet declared (fun _ => True) (discard computation) := by
  intro scanner
  show (∃ a, EStateM.map _ computation scanner = _ ∧ _) ∨ ∃ name, EStateM.map _ computation scanner = _ ∧ _
  unfold EStateM.map
  rcases h scanner with ⟨a, heq, _⟩ | ⟨name, heq, hnot⟩
  · rw [heq]
    exact Or.inl ⟨_, rfl, trivial⟩
  · rw [heq]
    exact Or.inr ⟨name, rfl, hnot⟩

theorem Quiet.of_ok (h : Quiet declared post computation) {a : α}
    (heq : computation scanner = .ok a after) : after = scanner ∧ post a := by
  rcases h scanner with ⟨b, heq', hb⟩ | ⟨name, heq', _⟩
  · rw [heq] at heq'
    cases heq'
    exact ⟨rfl, hb⟩
  · rw [heq] at heq'
    cases heq'

theorem Quiet.of_error (h : Quiet declared post computation) {e : RunError}
    (heq : computation scanner = .error e after) : ∃ name, e = .undeclared name := by
  rcases h scanner with ⟨b, heq', _⟩ | ⟨name, heq', _⟩
  · rw [heq] at heq'
    cases heq'
  · rw [heq] at heq'
    cases heq'
    exact ⟨name, rfl⟩

theorem Quiet.exists_ok (h : Quiet declared post computation) (hdeclared : declared)
    (scanner : Scanner) : ∃ a, computation scanner = .ok a scanner ∧ post a := by
  rcases h scanner with hok | ⟨_, _, hnot⟩
  · exact hok
  · exact absurd hdeclared hnot

theorem declared_eq_ok {name : String} {value : Option α} {a : α} :
    Run.declared name value scanner = .ok a after ↔ value = some a ∧ after = scanner := by
  cases value with
  | none =>
    constructor
    · intro h
      cases h
    · rintro ⟨⟨⟩, _⟩
  | some b =>
    simp only [Run.declared, Option.some.injEq]
    constructor
    · rintro ⟨⟩
      exact ⟨rfl, rfl⟩
    · rintro ⟨rfl, rfl⟩
      rfl

theorem quiet_declared (name : String) (value : Option α) :
    Quiet (value.isSome) (fun _ => True) (Run.declared name value) := by
  cases value with
  | none => exact fun _ => Or.inr ⟨name, rfl, by simp⟩
  | some a => exact (quiet_pure trivial).weaken (fun _ => trivial) fun _ h => h

end Run

/-! ## Fields -/

/-- The names of the fields that have a value. -/
def Fields.names (fields : Fields V) : List String := fields.map Prod.fst

@[simp] theorem Fields.names_put (fields : Fields V) (name : String) (value : V) :
    (fields.put name value).names = fields.names := by
  simp only [Fields.names, Fields.put, List.map_map]
  refine List.map_congr_left fun field _ => ?_
  simp only [Function.comp_apply]
  split <;> rfl

theorem Fields.lookup_isSome {fields : Fields V} {name : String} (h : name ∈ fields.names) :
    (fields.lookup name).isSome := by
  obtain ⟨⟨_, value⟩, hmem, rfl⟩ := List.mem_map.mp h
  rw [List.lookup_isSome_iff]
  exact ⟨_, hmem, by simp⟩

/-- The names of the fields of a node type. -/
def NodeType.fieldNames (node : NodeType) : List String := node.fields.map Field.name

theorem NodeType.names_newFields (meaning : Meaning V) (node : NodeType) (arguments : List V) :
    (node.newFields meaning arguments).names = node.fieldNames := by
  unfold NodeType.newFields
  suffices hput : ∀ (given : List (Field × V)) (fields : Fields V),
      (given.foldl (fun fields value => fields.put value.1.name value.2) fields).names =
        fields.names by
    refine (hput _ _).trans ?_
    simp [Fields.names, NodeType.fieldNames]
  intro given
  induction given with
  | nil => exact fun _ => rfl
  | cons first given ih =>
    intro fields
    rw [List.foldl_cons, ih, Fields.names_put]

namespace NodeState

variable {state : NodeState V} {meaning : Meaning V}

/-- The state has the children and, in its fields, the names of another one. -/
def Keeps (state : NodeState V) (children : List (Tree V)) (names : List String) : Prop :=
  state.children = children ∧ state.fields.names = names

theorem quiet_store (state : NodeState V) (name : String) (value : V) :
    Run.Quiet (name ∈ state.fields.names) (fun new => new.Keeps state.children state.fields.names)
      (state.store name value) := by
  unfold store
  exact ((Run.quiet_declared name (state.fields.lookup name)).discard.bind fun _ _ =>
    Run.quiet_pure ⟨rfl, Fields.names_put ..⟩).weaken (fun h => ⟨Fields.lookup_isSome h, trivial⟩)
      fun _ h => h

theorem quiet_addToken (into : Option String) (token : Token) (state : NodeState V) :
    Run.Quiet (∀ name ∈ into, name ∈ state.fields.names)
      (fun new => new.Keeps (state.children ++ [.leaf token.text]) state.fields.names)
      (state.addToken meaning into token) := by
  unfold addToken
  cases into with
  | none => exact (Run.quiet_pure ⟨rfl, rfl⟩).weaken (fun _ => trivial) fun _ h => h
  | some name =>
    exact (quiet_store (state.addChild (.leaf token.text)) name _).weaken (fun h => h name rfl)
      fun _ h => h

theorem quiet_copies (child : Fields V) (copies : List (String × String)) (state : NodeState V) :
    Run.Quiet (∀ copy ∈ copies, copy.1 ∈ state.fields.names ∧ copy.2 ∈ child.names)
      (fun new => new.Keeps state.children state.fields.names)
      (copies.foldlM (copyFrom child) state) := by
  induction copies generalizing state with
  | nil => exact (Run.quiet_pure ⟨rfl, rfl⟩).weaken (fun _ => trivial) fun _ h => h
  | cons copy copies ih =>
    rw [List.foldlM_cons]
    have hcopy : Run.Quiet (copy.1 ∈ state.fields.names ∧ copy.2 ∈ child.names)
        (fun new => new.Keeps state.children state.fields.names) (copyFrom child state copy) :=
      ((Run.quiet_declared copy.2 (child.lookup copy.2)).bind fun value _ =>
        quiet_store state copy.1 value).weaken (fun h => ⟨Fields.lookup_isSome h.2, h.1⟩) fun _ h => h
    refine (hcopy.bind fun new hnew => ?_).weaken (List.forall_mem_cons.mp) fun _ h => h
    have hrest := ih new
    rw [hnew.1, hnew.2] at hrest
    exact hrest

end NodeState

theorem Run.quiet_arguments (fields : Fields V) (arguments : List String) :
    Run.Quiet (∀ name ∈ arguments, name ∈ fields.names) (fun _ => True)
      (arguments.mapM fun name => Run.declared name (fields.lookup name)) := by
  induction arguments with
  | nil => exact (Run.quiet_pure trivial).weaken (fun _ => trivial) fun _ h => h
  | cons name arguments ih =>
    rw [List.mapM_cons]
    refine ((Run.quiet_declared name (fields.lookup name)).bind fun _ _ =>
      ih.bind fun _ _ => Run.quiet_pure trivial).weaken ?_ fun _ h => h
    intro h
    obtain ⟨hname, harguments⟩ := List.forall_mem_cons.mp h
    exact ⟨Fields.lookup_isSome hname, harguments, trivial⟩

/-! ## Reading tokens -/

section Tokens

variable {scanner : Scanner} {tokens : List Token}

/-- On tokens ahead, the computation takes the first one if it satisfies a condition, and fails if not. -/
def Takes (reading : Run Token) (accepts : Token → Prop) : Prop :=
  ∀ (scanner : Scanner) (tokens : List Token), scanner.Ahead tokens →
    (∃ token rest after, tokens = token :: rest ∧ accepts token ∧
      reading scanner = .ok token after ∧ after.Ahead rest) ∨
    (∃ e after, reading scanner = .error (.scan e) after) ∧ ∀ token ∈ tokens.head?, ¬ accepts token

/-- Reads a token that satisfies a condition. -/
def expect (accepts : Token → Prop) [DecidablePred accepts] (fault : Token → ScanError) :
    Run Token :=
  Run.scan do
    let token ← Scanner.next
    if accepts token then return token else throw (fault token)

theorem takes_expect {accepts : Token → Prop} [DecidablePred accepts] (fault : Token → ScanError)
    (haccepts : ∀ token, accepts token → token.isEnd = false) : Takes (expect accepts fault) accepts := by
  intro scanner tokens h
  unfold expect Run.scan
  simp only [bind, EStateM.bind]
  cases tokens with
  | nil =>
    obtain ⟨e, after, hnext⟩ := Scanner.next_of_ahead_nil h
    rw [hnext]
    exact Or.inr ⟨⟨e, after, rfl⟩, by simp⟩
  | cons token rest =>
    obtain ⟨after, hnext, -, -, hrest⟩ := Scanner.next_of_ahead h
    rw [hnext]
    by_cases hok : accepts token
    · simp only [hok, if_true]
      exact Or.inl ⟨token, rest, after, rfl, hok, rfl, hrest (haccepts token hok)⟩
    · simp only [hok, if_false]
      exact Or.inr ⟨⟨_, _, rfl⟩, by simpa using hok⟩

theorem takes_text (literal : String) :
    Takes (Run.scan (Scanner.expectText literal)) fun token => token.isText literal := by
  refine takes_expect (fun token => .mismatch token.render literal) fun token htext => ?_
  rw [Token.isText, Bool.and_eq_true, decide_eq_true_iff] at htext
  simp [Token.isEnd, htext.1]

theorem takes_kind (name : String) :
    Takes (Run.scan (Scanner.expectKind (.regex name))) fun token => token.kind = .regex name := by
  refine takes_expect (fun token => .unexpectedKind token.render name) fun token hkind => ?_
  simp [Token.isEnd, hkind]

/-- Reading a token and adding it to the children, when it returns. -/
theorem Takes.of_ok {reading : Run Token} {accepts : Token → Prop} (htakes : Takes reading accepts)
    {meaning : Meaning V} {into : Option String} {state new : NodeState V} {after : Scanner}
    (hahead : scanner.Ahead tokens)
    (h : (reading >>= fun token => state.addToken meaning into token) scanner = .ok new after) :
    ∃ token rest, tokens = token :: rest ∧ accepts token ∧ after.Ahead rest ∧
      new.children = state.children ++ [.leaf token.text] := by
  obtain ⟨token, mid, hread, hadd⟩ := Outcome.bind_eq_ok.mp h
  rcases htakes _ _ hahead with ⟨_, rest, _, rfl, haccepts, heq, hrest⟩ | ⟨⟨e, _, heq⟩, -⟩
  · cases heq.symm.trans hread
    obtain ⟨rfl, hkeeps⟩ := (NodeState.quiet_addToken into token state).of_ok hadd
    exact ⟨token, rest, rfl, haccepts, hrest, hkeeps.1⟩
  · cases heq.symm.trans hread

/-- Reading a token and adding it to the children is not cut off. -/
theorem Takes.ne_tooDeep {reading : Run Token} {accepts : Token → Prop} (htakes : Takes reading accepts)
    {meaning : Meaning V} {into : Option String} {state : NodeState V} {after : Scanner}
    (hahead : scanner.Ahead tokens) :
    (reading >>= fun token => state.addToken meaning into token) scanner ≠ .error .tooDeep after := by
  intro h
  rcases Outcome.bind_eq_error.mp h with hread | ⟨token, mid, -, hadd⟩
  · rcases htakes _ _ hahead with ⟨_, _, _, -, -, heq, -⟩ | ⟨⟨_, _, heq⟩, -⟩
    · cases heq.symm.trans hread
    · cases heq.symm.trans hread
  · obtain ⟨name, hname⟩ := (NodeState.quiet_addToken into token state).of_error hadd
    cases hname

theorem expectEnd_spec (h : scanner.Ahead tokens) :
    (∃ token rest after, tokens = token :: rest ∧ token.isEnd ∧
      Run.scan Scanner.expectEnd scanner = .ok () after) ∨
    (∃ e after, Run.scan Scanner.expectEnd scanner = .error (.scan e) after) ∧
      ∀ token ∈ tokens.head?, ¬ token.isEnd := by
  unfold Run.scan Scanner.expectEnd
  simp only [bind, EStateM.bind]
  cases tokens with
  | nil =>
    obtain ⟨e, after, hnext⟩ := Scanner.next_of_ahead_nil h
    rw [hnext]
    exact Or.inr ⟨⟨e, after, rfl⟩, by simp⟩
  | cons token rest =>
    obtain ⟨after, hnext, -⟩ := Scanner.next_of_ahead h
    rw [hnext]
    by_cases hend : token.isEnd
    · simp only [hend, if_true]
      exact Or.inl ⟨token, rest, after, rfl, hend, rfl⟩
    · simp only [hend]
      exact Or.inr ⟨⟨_, _, rfl⟩, by simpa using hend⟩

/-- The body that the dispatch method of a node type selects on the tokens ahead: none of the bodies
when it looks at no token or no condition holds. Without a token to look at nothing is selected. -/
def NodeType.choice? (node : NodeType) (tokens : List Token) : Option (Option Nat) :=
  if node.dispatch.isEmpty then some none
  else tokens.head?.map fun token =>
    (node.dispatch.find? fun branch => branch.check.holds token).map Branch.body

/-- A dispatch method takes back the token that it looks at. -/
theorem selectBody_spec (node : NodeType) (h : scanner.Ahead tokens) :
    (∃ body after, node.choice? tokens = some body ∧
      selectBody node.dispatch scanner = .ok body after ∧ after.Ahead tokens) ∨
    (∃ e after, selectBody node.dispatch scanner = .error (.scan e) after) ∧
      node.choice? tokens = none := by
  unfold NodeType.choice? selectBody
  by_cases hempty : node.dispatch.isEmpty
  · simp only [hempty, if_true]
    exact Or.inl ⟨none, scanner, rfl, rfl, h⟩
  · simp only [hempty]
    cases tokens with
    | nil =>
      obtain ⟨e, after, hnext⟩ := Scanner.next_of_ahead_nil h
      refine Or.inr ⟨⟨e, after, Outcome.bind_eq_error.mpr (Or.inl ?_)⟩, rfl⟩
      simp only [Run.scan, hnext]
    | cons token rest =>
      obtain ⟨read, back, hnext, hundo, -, hback⟩ := Scanner.peek_of_ahead h
      refine Or.inl ⟨_, back, rfl,
        Outcome.bind_eq_ok.mpr ⟨token, read, ?_, Outcome.bind_eq_ok.mpr ⟨(), back, ?_, rfl⟩⟩,
        hback⟩
      · simp only [Run.scan, hnext]
      · simp only [Run.scan, hundo]

end Tokens

end AttributeGrammar.Synthesis
