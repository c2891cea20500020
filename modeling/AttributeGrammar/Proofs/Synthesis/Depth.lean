import AttributeGrammar.Proofs.Synthesis.Walk
import Mathlib.Data.List.Chain
import Mathlib.Data.List.Infix
import Mathlib.Data.List.Nodup
import Mathlib.Data.List.Perm.Subperm
import Mathlib.Data.List.ProdSigma
import Mathlib.Logic.Relation

/-!
# How deeply calls are nested

* `Run.Within` — a computation ends as another one does, or is broken off.
* `parseNode_within` — a greater depth, or actions that are broken off less often, do not change how a run
  ends that was not broken off.
* `ParserCode.Enters` — a node type that is dispatched on some tokens dispatches a child on others.
* `path_of_tooDeep` — a run that is cut off has followed a path of such steps as long as its depth.
* `ParserCode.Diverges`, `diverges_of_path` — a path longer than there are places comes back to a place.
-/

set_option autoImplicit false

namespace AttributeGrammar.Synthesis

variable {α β V W : Type}

/-! ## Runs that are broken off -/

namespace Run

variable {breaks : RunError → Prop}

/-- A computation ends as another one does, or is broken off. -/
def Within (breaks : RunError → Prop) (computation whole : Run α) : Prop :=
  ∀ scanner, computation scanner = whole scanner ∨
    ∃ e after, breaks e ∧ computation scanner = .error e after

theorem within_refl (computation : Run α) : Within breaks computation computation := fun _ => Or.inl rfl

theorem Within.bind {computation whole : Run α} {next next' : α → Run β}
    (h : Within breaks computation whole) (hnext : ∀ a, Within breaks (next a) (next' a)) :
    Within breaks (computation >>= next) (whole >>= next') := by
  intro scanner
  rcases h scanner with heq | ⟨e, after, hbreaks, heq⟩
  · show EStateM.bind computation next scanner = EStateM.bind whole next' scanner ∨
      ∃ e after, breaks e ∧ EStateM.bind computation next scanner = _
    unfold EStateM.bind
    rw [heq]
    cases whole scanner with
    | ok a mid => exact hnext a mid
    | error e mid => exact Or.inl rfl
  · exact Or.inr ⟨e, after, hbreaks, Outcome.bind_eq_error.mpr (Or.inl heq)⟩

theorem Within.of_ok {computation whole : Run α} (h : Within breaks computation whole)
    {scanner after : Scanner} {a : α} (hok : computation scanner = .ok a after) :
    whole scanner = .ok a after := by
  rcases h scanner with heq | ⟨_, _, _, heq⟩
  · rw [← heq, hok]
  · rw [heq] at hok
    cases hok

theorem within_foldlM {step step' : β → α → Run β} (h : ∀ b a, Within breaks (step b a) (step' b a))
    (as : List α) (b : β) : Within breaks (as.foldlM step b) (as.foldlM step' b) := by
  induction as generalizing b with
  | nil => exact within_refl _
  | cons a as ih =>
    rw [List.foldlM_cons, List.foldlM_cons]
    exact (h b a).bind ih

end Run

variable {meaning meaning' : Meaning V} {code : ParserCode} {scanner after : Scanner}
  {tokens : List Token} {breaks : RunError → Prop}
  {parseChild parseChild' : NodeType → Fields V → Run (NodeState V)}

/-- Two meanings give fields the same values at first and for tokens, and actions of the first one do what
those of the second one do, or are broken off. -/
structure Meaning.Within (breaks : RunError → Prop) (meaning whole : Meaning V) : Prop where
  initial : meaning.initial = whole.initial
  ofText : meaning.ofText = whole.ofText
  act : ∀ action fields, meaning.act action fields = whole.act action fields ∨
    ∃ cause, breaks (.panic cause) ∧ meaning.act action fields = .error cause

theorem Meaning.within_refl (meaning : Meaning V) : meaning.Within breaks meaning :=
  ⟨rfl, rfl, fun _ _ => Or.inl rfl⟩

theorem NodeType.newFields_eq (h : meaning.Within breaks meaning') (node : NodeType)
    (arguments : List V) : node.newFields meaning arguments = node.newFields meaning' arguments := by
  simp only [NodeType.newFields, h.initial]

theorem NodeState.addToken_eq (h : meaning.Within breaks meaning') (into : Option String)
    (token : Token) (state : NodeState V) :
    state.addToken meaning into token = state.addToken meaning' into token := by
  simp only [NodeState.addToken, h.ofText]

theorem runStatement_within (hmeaning : meaning.Within breaks meaning')
    (h : ∀ node fields, Run.Within breaks (parseChild node fields) (parseChild' node fields))
    (state : NodeState V) (statement : Statement) :
    Run.Within breaks (runStatement meaning code parseChild state statement)
      (runStatement meaning' code parseChild' state statement) := by
  cases statement with
  | child call =>
    refine (Run.within_refl _).bind fun node => (Run.within_refl _).bind fun arguments => ?_
    rw [node.newFields_eq hmeaning]
    exact (h node _).bind fun child => Run.within_refl _
  | expectText literal into =>
    refine (Run.within_refl _).bind fun token => ?_
    rw [state.addToken_eq hmeaning]
    exact Run.within_refl _
  | expectKind kind into =>
    refine (Run.within_refl _).bind fun token => ?_
    rw [state.addToken_eq hmeaning]
    exact Run.within_refl _
  | act action =>
    intro scanner
    rcases hmeaning.act action state.fields with heq | ⟨cause, hbreaks, heq⟩
    · refine Or.inl ?_
      simp only [runStatement, heq]
    · simp only [runStatement, heq]
      exact Or.inr ⟨.panic cause, scanner, hbreaks, rfl⟩

/-- **A greater depth, or a meaning that is broken off less often, does not change how a run ends that was
not broken off.** -/
theorem parseNode_within (hmeaning : meaning.Within breaks meaning') {shallow deep : Nat}
    (hle : shallow ≤ deep) (hdepth : shallow = deep ∨ breaks .tooDeep) (node : NodeType)
    (fields : Fields V) :
    Run.Within breaks (parseNode meaning code shallow node fields)
      (parseNode meaning' code deep node fields) := by
  induction shallow generalizing deep node fields with
  | zero =>
    rcases hdepth with rfl | hbreaks
    · exact fun scanner => Or.inl rfl
    · exact fun scanner => Or.inr ⟨.tooDeep, scanner, hbreaks, rfl⟩
  | succ shallow ih =>
    obtain ⟨deep, rfl⟩ : ∃ d, deep = d + 1 := ⟨deep - 1, by omega⟩
    refine (Run.within_refl _).bind fun selected => ?_
    cases selected with
    | none => exact Run.within_refl _
    | some index =>
      refine (Run.within_refl _).bind fun body => ?_
      refine Run.within_foldlM (runStatement_within hmeaning fun node fields => ?_) _ _
      exact ih (by omega) (hdepth.imp_left Nat.succ.inj) node fields

theorem run_within (hmeaning : meaning.Within breaks meaning') {shallow deep : Nat}
    (hle : shallow ≤ deep) (hdepth : shallow = deep ∨ breaks .tooDeep) (arguments : List V) :
    Run.Within breaks (code.run meaning shallow arguments) (code.run meaning' deep arguments) := by
  refine (Run.within_refl _).bind fun node => ?_
  rw [node.newFields_eq hmeaning]
  exact (parseNode_within hmeaning hle hdepth node _).bind fun _ => Run.within_refl _

/-- A greater depth does not change how a run ends that was not cut off. -/
theorem parseNode_deeper {shallow deep : Nat} (hle : shallow ≤ deep) (node : NodeType)
    (fields : Fields V) :
    Run.Within (· = .tooDeep) (parseNode meaning code shallow node fields)
      (parseNode meaning code deep node fields) :=
  @parseNode_within _ _ _ _ (· = .tooDeep) meaning.within_refl _ _ hle (Or.inr rfl) node fields

theorem run_deeper {shallow deep : Nat} (hle : shallow ≤ deep) (arguments : List V) :
    Run.Within (· = .tooDeep) (code.run meaning shallow arguments) (code.run meaning deep arguments) :=
  @run_within _ _ _ _ (· = .tooDeep) meaning.within_refl _ _ hle (Or.inr rfl) arguments

/-! ## Steps into children -/

/-- The values of fields do not matter to a walk. -/
theorem ParserCode.Walk.retype {body : List Statement} {left : List Token} {trees : List (Tree V)}
    (h : code.Walk body tokens trees left) : ∃ trees : List (Tree W), code.Walk body tokens trees left := by
  induction h with
  | nil => exact ⟨[], .nil⟩
  | text htext _ ih =>
    obtain ⟨trees, h⟩ := ih
    exact ⟨_, .text htext h⟩
  | kind hkind _ ih =>
    obtain ⟨trees, h⟩ := ih
    exact ⟨_, .kind hkind h⟩
  | act _ ih =>
    obtain ⟨trees, h⟩ := ih
    exact ⟨_, .act h⟩
  | @idle call node _ _ _ _ _ hnode hchoice _ ih =>
    obtain ⟨trees, h⟩ := ih
    exact ⟨.node node.name [] [] :: trees, .idle hnode hchoice h⟩
  | @enter call node _ _ _ _ _ _ _ _ _ hnode hchoice hbody _ _ ihbody ihrest =>
    obtain ⟨children, hwalk⟩ := ihbody
    obtain ⟨trees, h⟩ := ihrest
    exact ⟨.node node.name [] children :: trees, .enter hnode hchoice hbody hwalk h⟩

/-- A node type and the tokens on which it is dispatched. -/
abbrev Place := NodeType × List Token

/-- A node type that is dispatched on some tokens gets to a child, which it dispatches on those that are
ahead then. -/
def ParserCode.Enters (code : ParserCode) (place inner : Place) : Prop :=
  ∃ index before call behind, ∃ trees : List (Tree Unit),
    place.1.choice? place.2 = some (some index) ∧
    place.1.bodies[index]? = some (before ++ .child call :: behind) ∧
    code.Walk before place.2 trees inner.2 ∧ code.node? call.node = some inner.1

theorem ParserCode.Enters.isSuffix {place inner : Place} (h : code.Enters place inner) :
    inner.2 <:+ place.2 := by
  obtain ⟨_, _, _, _, _, _, _, hwalk, _⟩ := h
  exact hwalk.isSuffix

theorem ParserCode.Enters.mem {place inner : Place} (h : code.Enters place inner) :
    inner.1 ∈ code.nodes := by
  obtain ⟨_, _, _, _, _, _, _, _, hnode⟩ := h
  exact List.mem_of_find?_eq_some hnode

/-! ## Runs that are cut off -/

theorem child_of_tooDeep {state : NodeState V} {statement : Statement} (hahead : scanner.Ahead tokens)
    (h : runStatement meaning code parseChild state statement scanner = .error .tooDeep after) :
    ∃ call child fields, statement = .child call ∧ code.node? call.node = some child ∧
      parseChild child fields scanner = .error .tooDeep after := by
  cases statement with
  | expectText literal into => exact absurd h ((takes_text literal).ne_tooDeep hahead)
  | expectKind kind into => exact absurd h ((takes_kind kind).ne_tooDeep hahead)
  | child call =>
    rcases Outcome.bind_eq_error.mp h with hnode | ⟨node, s₁, hnode, h₁⟩
    · obtain ⟨name, hname⟩ := (Run.quiet_declared call.node (code.node? call.node)).of_error hnode
      cases hname
    obtain ⟨hfound, rfl⟩ := Run.declared_eq_ok.mp hnode
    rcases Outcome.bind_eq_error.mp h₁ with harguments | ⟨arguments, s₂, harguments, h₂⟩
    · obtain ⟨name, hname⟩ := (Run.quiet_arguments state.fields call.arguments).of_error harguments
      cases hname
    obtain ⟨rfl, -⟩ := (Run.quiet_arguments state.fields call.arguments).of_ok harguments
    rcases Outcome.bind_eq_error.mp h₂ with hparse | ⟨child, s₃, -, h₃⟩
    · exact ⟨call, node, _, rfl, hfound, hparse⟩
    rcases Outcome.bind_eq_error.mp h₃ with hcopies | ⟨_, s₄, -, hchild⟩
    · obtain ⟨name, hname⟩ := (NodeState.quiet_copies child.fields call.copies state).of_error hcopies
      cases hname
    · cases hchild
  | act action =>
    rcases hact : meaning.act action state.fields with cause | fields
    all_goals
      simp only [runStatement, hact] at h
      cases h

theorem enters_of_tooDeep (hchild : Faithful code parseChild) {body : List Statement}
    {state : NodeState V} (hahead : scanner.Ahead tokens)
    (h : body.foldlM (runStatement meaning code parseChild) state scanner = .error .tooDeep after) :
    ∃ before call behind child fields mid ahead, ∃ trees : List (Tree V),
      body = before ++ .child call :: behind ∧ code.node? call.node = some child ∧
      code.Walk before tokens trees ahead ∧ mid.Ahead ahead ∧
      parseChild child fields mid = .error .tooDeep after := by
  induction body generalizing state scanner tokens with
  | nil => cases h
  | cons statement body ih =>
    rw [List.foldlM_cons] at h
    rcases Outcome.bind_eq_error.mp h with hfirst | ⟨new, mid, hfirst, hrest⟩
    · obtain ⟨call, child, fields, rfl, hnode, hparse⟩ := child_of_tooDeep hahead hfirst
      exact ⟨[], call, body, child, fields, scanner, tokens, [], rfl, hnode, .nil, hahead, hparse⟩
    · obtain ⟨trees, left, hleft, -, hwalks⟩ := walks_of_runStatement hchild hahead hfirst
      obtain ⟨before, call, behind, child, fields, mid, ahead, more, rfl, hnode, hwalk, hmid, hparse⟩ :=
        ih hleft hrest
      exact ⟨statement :: before, call, behind, child, fields, mid, ahead, trees ++ more, rfl, hnode,
        hwalks hwalk, hmid, hparse⟩

/-- **A run that is cut off has followed a path of steps into children as long as its depth.** -/
theorem path_of_tooDeep {depth : Nat} {node : NodeType} {fields : Fields V}
    (hahead : scanner.Ahead tokens)
    (h : parseNode meaning code depth node fields scanner = .error .tooDeep after) :
    ∃ path : List Place, path.length = depth ∧ List.IsChain code.Enters ((node, tokens) :: path) := by
  induction depth generalizing node fields scanner tokens with
  | zero => exact ⟨[], rfl, List.IsChain.singleton _⟩
  | succ depth ih =>
    rcases selectBody_spec node hahead with ⟨selected, s, hchoice, heq, hs⟩ | ⟨⟨e, s, heq⟩, -⟩
    · rcases Outcome.bind_eq_error.mp h with hselect | ⟨selected, s, hselect, hrun⟩
      · rw [heq] at hselect
        cases hselect
      rw [heq] at hselect
      cases hselect
      cases selected with
      | none => cases hrun
      | some index =>
        rcases Outcome.bind_eq_error.mp hrun with hbody | ⟨body, s, hbody, hstatements⟩
        · obtain ⟨name, hname⟩ := (Run.quiet_declared _ node.bodies[index]?).of_error hbody
          cases hname
        obtain ⟨hfound, rfl⟩ := Run.declared_eq_ok.mp hbody
        obtain ⟨before, call, behind, child, fields, mid, ahead, trees, rfl, hnode, hwalk, hmid, hparse⟩ :=
          enters_of_tooDeep (visit_of_parseNode depth) hs hstatements
        obtain ⟨path, hlength, hpath⟩ := ih hmid hparse
        obtain ⟨bare, hbare⟩ := hwalk.retype (W := Unit)
        refine ⟨(child, ahead) :: path, by rw [List.length_cons, hlength], ?_⟩
        exact List.IsChain.cons_cons ⟨index, before, call, behind, bare, hchoice, hfound, hbare, hnode⟩ hpath
    · rcases Outcome.bind_eq_error.mp h with hselect | ⟨_, _, hselect, _⟩
      all_goals
        rw [heq] at hselect
        cases hselect

namespace ParserCode

open Relation (ReflTransGen TransGen)

/-- Steps into children lead from a place to one that they come back to. -/
def Diverges (code : ParserCode) (place : Place) : Prop :=
  ∃ again, ReflTransGen code.Enters place again ∧ TransGen code.Enters again again

/-- A place from which steps come back has a step to another such place. -/
theorem Diverges.step {place : Place} (h : code.Diverges place) :
    ∃ inner, code.Enters place inner ∧ code.Diverges inner := by
  obtain ⟨again, hreach, hback⟩ := h
  rcases hreach.cases_head with rfl | ⟨inner, hstep, hreach⟩
  · obtain ⟨inner, hstep, hreach⟩ := TransGen.head'_iff.mp hback
    exact ⟨inner, hstep, place, hreach, hback⟩
  · exact ⟨inner, hstep, again, hreach, hback⟩

/-- The places that steps into children can lead to. -/
def places (code : ParserCode) (tokens : List Token) : List Place :=
  code.nodes ×ˢ tokens.tails

theorem mem_places {place : Place} :
    place ∈ code.places tokens ↔ place.1 ∈ code.nodes ∧ place.2 <:+ tokens := by
  obtain ⟨node, ahead⟩ := place
  rw [places, List.mem_product, List.mem_tails]

theorem length_places (code : ParserCode) (tokens : List Token) :
    (code.places tokens).length = code.nodes.length * (tokens.length + 1) := by
  rw [places, List.length_product, List.length_tails]

theorem path_subset_places {place : Place} {path : List Place} (hmem : place.1 ∈ code.nodes)
    (hsuffix : place.2 <:+ tokens) (hpath : List.IsChain code.Enters (place :: path)) :
    place :: path ⊆ code.places tokens := by
  induction path generalizing place with
  | nil => exact List.cons_subset.mpr ⟨mem_places.mpr ⟨hmem, hsuffix⟩, List.nil_subset _⟩
  | cons inner path ih =>
    obtain ⟨hstep, hpath⟩ := List.isChain_cons_cons.mp hpath
    exact List.cons_subset.mpr ⟨mem_places.mpr ⟨hmem, hsuffix⟩,
      ih hstep.mem (hstep.isSuffix.trans hsuffix) hpath⟩

/-- **A path with more steps than there are places comes back to a place.** -/
theorem diverges_of_path {place : Place} {path : List Place} (hmem : place.1 ∈ code.nodes)
    (hpath : List.IsChain code.Enters (place :: path))
    (hlong : code.nodes.length * (place.2.length + 1) ≤ path.length) : code.Diverges place := by
  have htrans : (place :: path).Pairwise (TransGen code.Enters) :=
    List.isChain_iff_pairwise.mp (hpath.imp fun _ _ h => TransGen.single h)
  by_cases hnodup : (place :: path).Nodup
  · have hle := (List.subperm_of_subset hnodup
      (path_subset_places hmem (List.suffix_refl _) hpath)).length_le
    rw [length_places, List.length_cons] at hle
    omega
  · obtain ⟨again, htwice⟩ : ∃ again, [again, again].Sublist (place :: path) := by
      by_contra hnone
      exact hnodup (List.nodup_iff_sublist.mpr fun again h => hnone ⟨again, h⟩)
    have hback := List.pairwise_pair.mp (htrans.sublist htwice)
    refine ⟨again, ?_, hback⟩
    rcases List.mem_cons.mp (htwice.subset List.mem_cons_self) with rfl | hagain
    · exact ReflTransGen.refl
    · exact ((List.pairwise_cons.mp htrans).1 again hagain).to_reflTransGen

end ParserCode

end AttributeGrammar.Synthesis
