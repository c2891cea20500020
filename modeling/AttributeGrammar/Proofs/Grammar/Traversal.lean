import AttributeGrammar.Proofs.Grammar.Exporting
import AttributeGrammar.Proofs.Grammar.Lookup
import Mathlib.Data.List.Perm.Subperm
import Mathlib.Logic.Relation

/-!
# The traversal that carries exports along assignments

* `Grammar.AssignsFrom` — a rule assigns from another one.
* `Resolution.reexportAll_eq_ok`, `Resolution.exists_reexportAll` — taking over some exports.
* `Rule.TakesOver` — a rule has the exports that its assignments carry over, given what it sees of the rules
  that it assigns from.
* `Resolution.sound_exportsOf` — the invariant of the traversal: a rule that is not finished is as at first,
  and a finished one has taken over what its assignments carry.
* `Resolution.exists_exportsOf` — without cycles the traversal succeeds as soon as there is something to leave.
-/

set_option autoImplicit false

namespace AttributeGrammar

open Relation (TransGen ReflTransGen)

namespace Grammar

variable {grammar merged after last : Grammar} {rule changed : Rule} {name target : String}

/-- The exports of the rule of a name. -/
def exportsOf (grammar : Grammar) (name : String) : List Variable :=
  (grammar.rule? name).elim [] Rule.exportedVars

theorem exportsOf_eq (h : grammar.rule? name = some rule) : grammar.exportsOf name = rule.exportedVars := by
  rw [exportsOf, h]
  rfl

/-- The rule of the name `name` has an assignment from `target`. -/
def AssignsFrom (grammar : Grammar) (name target : String) : Prop :=
  ∃ rule, grammar.rule? name = some rule ∧ ∃ var, (var, target) ∈ rule.assigns

/-! ## Replacing a rule -/

/-- The grammar `after` is `grammar` up to what its rules have. -/
structure Framed (grammar after : Grammar) : Prop where
  start_eq : after.start = grammar.start
  regexes_eq : after.regexes = grammar.regexes
  actions_eq : after.actions = grammar.actions
  names_eq : after.rules.map Rule.name = grammar.rules.map Rule.name

theorem Framed.refl (grammar : Grammar) : grammar.Framed grammar := ⟨rfl, rfl, rfl, rfl⟩

theorem Framed.trans (h : grammar.Framed after) (h' : after.Framed last) : grammar.Framed last :=
  ⟨h'.start_eq.trans h.start_eq, h'.regexes_eq.trans h.regexes_eq, h'.actions_eq.trans h.actions_eq,
    h'.names_eq.trans h.names_eq⟩

theorem Framed.isSome_rule? (h : grammar.Framed after) :
    (after.rule? name).isSome = (grammar.rule? name).isSome := by
  rw [Bool.eq_iff_iff, isSome_rule?_iff, isSome_rule?_iff, h.names_eq]

theorem Framed.rule?_eq_none (h : grammar.Framed after) (hname : grammar.rule? name = none) :
    after.rule? name = none := by
  rw [← Option.not_isSome_iff_eq_none, h.isSome_rule?, hname]
  exact Bool.false_ne_true

/-- The grammar `after` is `grammar` with a rule in the place of that of its name. -/
structure Updates (grammar : Grammar) (rule : Rule) (after : Grammar) : Prop extends
    grammar.Framed after where
  rule?_eq : ∀ name, after.rule? name = if name = rule.name then some rule else grammar.rule? name

theorem Updates.rule?_self (h : grammar.Updates rule after) : after.rule? rule.name = some rule := by
  rw [h.rule?_eq, if_pos rfl]

theorem Updates.rule?_of_ne (h : grammar.Updates rule after) (hne : name ≠ rule.name) :
    after.rule? name = grammar.rule? name := by
  rw [h.rule?_eq, if_neg hne]

theorem updates_self (h : grammar.rule? name = some rule) : grammar.Updates rule grammar := by
  refine ⟨.refl _, fun other => ?_⟩
  split
  · rename_i heq
    rw [heq, (mem_of_rule? h).2, h]
  · rfl

theorem updates_replaceRule (h : grammar.rule? name = some rule) (hname : changed.name = rule.name) :
    grammar.Updates changed (grammar.replaceRule changed) := by
  refine ⟨⟨rfl, rfl, rfl, names_replaceRule⟩, fun other => ?_⟩
  rw [rule?_replaceRule]
  split
  · rename_i heq
    rw [heq, hname, (mem_of_rule? h).2, h]
    rfl
  · rfl

theorem Updates.trans (h : grammar.Updates rule after) (h' : after.Updates changed last)
    (hname : changed.name = rule.name) : grammar.Updates changed last := by
  refine ⟨h.toFramed.trans h'.toFramed, fun other => ?_⟩
  rw [h'.rule?_eq, h.rule?_eq, hname]
  split <;> rfl

end Grammar

namespace Resolution

variable {merged last : Grammar} {state mid after : Resolution} {rule changed : Rule}
  {name target : String} {stack : List String} {exports : List Variable} {depth : Nat}

/-! ## Taking over exports -/

theorem source_eq_ok_iff :
    source name state = .ok rule after ↔ state.grammar.rule? name = some rule ∧ after = state := by
  constructor
  · intro h
    obtain ⟨_, _, hget, h⟩ := Outcome.bind_eq_ok.mp h
    cases hget
    rcases hrule : state.grammar.rule? name with _ | found
    · simp only [hrule] at h
      cases h
    · simp only [hrule] at h
      cases h
      exact ⟨rfl, rfl⟩
  · rintro ⟨hrule, rfl⟩
    refine Outcome.bind_eq_ok.mpr ⟨after, after, rfl, ?_⟩
    simp only [hrule]
    rfl

/-- Taking over some exports replaces the rule by one that declares them, and leaves the rest. -/
theorem reexport_eq_ok {v : Variable} (h : reexport name v state = .ok () after) :
    ∃ rule changed, state.grammar.rule? name = some rule ∧
      Rule.exportAll [v] rule = .ok () changed ∧ changed.name = rule.name ∧
      state.grammar.Updates changed after.grammar ∧ after.done = state.done := by
  obtain ⟨rule, state, hsource, hrest⟩ := Outcome.bind_eq_ok.mp h
  obtain ⟨hrule, rfl⟩ := source_eq_ok_iff.mp hsource
  obtain ⟨isNew, mid, hedit, hlast⟩ := Outcome.bind_eq_ok.mp hrest
  obtain ⟨changed, hdeclare, rfl⟩ : ∃ changed, Rule.declareExport v.type v.name rule = .ok isNew changed ∧
      mid = { state with grammar := state.grammar.replaceRule changed } := by
    unfold Resolution.editRule Grammar.editRule at hedit
    rcases hdeclare : Rule.declareExport v.type v.name rule with ⟨b, changed⟩ | ⟨e, changed⟩
    · simp only [hdeclare] at hedit
      cases hedit
      exact ⟨changed, rfl, rfl⟩
    · simp only [hdeclare] at hedit
      cases hedit
  have hname := (Rule.gains_declareExport hdeclare).name_eq
  refine ⟨rule, changed, hrule,
    Outcome.bind_eq_ok.mpr ⟨(), changed, Outcome.discard_eq_ok.mpr ⟨_, hdeclare⟩, rfl⟩,
    hname, ?_⟩
  cases isNew with
  | false =>
    cases hlast
    exact ⟨Grammar.updates_replaceRule hrule hname, rfl⟩
  | true =>
    cases hlast
    exact ⟨Grammar.updates_replaceRule hrule hname, rfl⟩

theorem exists_reexport {v : Variable} (hrule : state.grammar.rule? name = some rule)
    (h : Rule.exportAll [v] rule = .ok () changed) : ∃ after, reexport name v state = .ok () after ∧
      state.grammar.Updates changed after.grammar ∧ after.done = state.done := by
  obtain ⟨_, mid, hdiscard, hnil⟩ := Outcome.bind_eq_ok.mp h
  cases hnil
  obtain ⟨isNew, hdeclare⟩ := Outcome.discard_eq_ok.mp hdiscard
  have hupdates := Grammar.updates_replaceRule hrule (Rule.gains_declareExport hdeclare).name_eq
  have hedit : editRule rule (Rule.declareExport v.type v.name) state =
      .ok isNew { state with grammar := state.grammar.replaceRule changed } := by
    unfold Resolution.editRule Grammar.editRule
    simp only [hdeclare]
  have hsource := source_eq_ok_iff.mpr ⟨hrule, rfl⟩
  cases isNew with
  | false => exact ⟨_, Outcome.bind_eq_ok.mpr ⟨_, _, hsource, Outcome.bind_eq_ok.mpr ⟨_, _, hedit, rfl⟩⟩,
      hupdates, rfl⟩
  | true => exact ⟨_, Outcome.bind_eq_ok.mpr ⟨_, _, hsource, Outcome.bind_eq_ok.mpr ⟨_, _, hedit, rfl⟩⟩,
      hupdates, rfl⟩

theorem exportAll_cons {v : Variable} {vs : List Variable} :
    Rule.exportAll (v :: vs) rule = .ok () changed ↔ ∃ mid, Rule.exportAll [v] rule = .ok () mid ∧
      Rule.exportAll vs mid = .ok () changed := by
  constructor
  · intro h
    obtain ⟨_, mid, hfirst, hrest⟩ := Outcome.bind_eq_ok.mp h
    exact ⟨mid, Outcome.bind_eq_ok.mpr ⟨_, mid, hfirst, rfl⟩, hrest⟩
  · rintro ⟨mid, hfirst, hrest⟩
    obtain ⟨_, _, hdiscard, hnil⟩ := Outcome.bind_eq_ok.mp hfirst
    cases hnil
    exact Outcome.bind_eq_ok.mpr ⟨_, mid, hdiscard, hrest⟩

/-- As `reexport_eq_ok`, for exports in a row. -/
theorem reexportAll_eq_ok {vs : List Variable} (hrule : state.grammar.rule? name = some rule)
    (h : vs.forM (reexport name) state = .ok () after) :
    ∃ changed, Rule.exportAll vs rule = .ok () changed ∧ changed.name = rule.name ∧
      state.grammar.Updates changed after.grammar ∧ after.done = state.done := by
  induction vs generalizing state rule with
  | nil =>
    cases h
    exact ⟨rule, rfl, rfl, Grammar.updates_self hrule, rfl⟩
  | cons v vs ih =>
    obtain ⟨_, mid, hfirst, hrest⟩ := Outcome.bind_eq_ok.mp h
    obtain ⟨found, changed, hfound, hedit, hname, hupdates, hdone⟩ := reexport_eq_ok hfirst
    cases hrule.symm.trans hfound
    have hmid : mid.grammar.rule? name = some changed := by
      rw [← (Grammar.mem_of_rule? hrule).2, ← hname, hupdates.rule?_self]
    obtain ⟨final, hmore, hnames, hall, hsame⟩ := ih hmid hrest
    exact ⟨final, exportAll_cons.mpr ⟨changed, hedit, hmore⟩, hnames.trans hname,
      hupdates.trans hall hnames, hsame.trans hdone⟩

theorem exists_reexportAll {vs : List Variable} (hrule : state.grammar.rule? name = some rule)
    (h : Rule.exportAll vs rule = .ok () changed) : ∃ after, vs.forM (reexport name) state = .ok () after ∧
      state.grammar.Updates changed after.grammar ∧ after.done = state.done := by
  induction vs generalizing state rule with
  | nil =>
    cases h
    exact ⟨state, rfl, Grammar.updates_self hrule, rfl⟩
  | cons v vs ih =>
    obtain ⟨mid, hfirst, hrest⟩ := exportAll_cons.mp h
    obtain ⟨s, hs, hupdates, hdone⟩ := exists_reexport hrule hfirst
    have hname := (Rule.gains_exportAll hfirst).name_eq
    have hmid : s.grammar.rule? name = some mid := by
      rw [← (Grammar.mem_of_rule? hrule).2, ← hname, hupdates.rule?_self]
    obtain ⟨after, hafter, hall, hsame⟩ := ih hmid hrest
    exact ⟨after, Outcome.bind_eq_ok.mpr ⟨(), s, hs, hafter⟩,
      hupdates.trans hall (Rule.gains_exportAll hrest).name_eq, hsame.trans hdone⟩

end Resolution

/-! ## What a rule takes over -/

namespace Rule

variable {old rule : Rule} {sees sees' : String → List Variable → Prop} {var target : String} {v : Variable}

/-- The rule `rule` is `old` with the exports that its assignments carry over, given which exports it sees of a
rule that it assigns from. -/
def TakesOver (sees : String → List Variable → Prop) (old rule : Rule) : Prop :=
  ∃ carried, List.Forall₂ (fun assign vs => ∃ exports, sees assign.2 exports ∧
      vs = exports.map (Resolution.derived assign.1)) old.assigns carried ∧
    exportAll carried.flatten old = .ok () rule

theorem TakesOver.imp (h : old.TakesOver sees rule)
    (hsees : ∀ {var target exports}, (var, target) ∈ old.assigns → sees target exports →
      sees' target exports) : old.TakesOver sees' rule := by
  obtain ⟨carried, hcarried, hedit⟩ := h
  refine ⟨carried, ?_, hedit⟩
  refine ((List.forall₂_and_left _ _).mpr ⟨fun assign hassign => hassign, hcarried⟩).imp ?_
  rintro ⟨var, target⟩ vs ⟨hassign, exports, hexports, hvs⟩
  exact ⟨exports, hsees hassign hexports, hvs⟩

/-- With one view of every rule, the exports that are carried over are determined. -/
theorem takesOver_eq_iff {view : String → List Variable} :
    old.TakesOver (fun target exports => exports = view target) rule ↔
      exportAll (old.assigns.map fun assign => (view assign.2).map (Resolution.derived assign.1)).flatten old =
        .ok () rule := by
  simp only [TakesOver, exists_eq_left, Outcome.forall₂_eq_map_iff]

theorem TakesOver.gains (h : old.TakesOver sees rule) : ∃ vs, old.Gains vs rule := by
  obtain ⟨carried, -, hedit⟩ := h
  exact ⟨_, gains_exportAll hedit⟩

/-- What is seen through an assignment becomes an export. -/
theorem TakesOver.exports (h : old.TakesOver sees rule) (hassign : (var, target) ∈ old.assigns) :
    ∃ exports, sees target exports ∧ ∀ v ∈ exports, rule.Exports (Resolution.derived var v) := by
  obtain ⟨carried, hcarried, hedit⟩ := h
  obtain ⟨vs, hvs, exports, hexports, rfl⟩ := Outcome.exists_mem_right hcarried hassign
  refine ⟨exports, hexports, fun v hv => (gains_exportAll hedit).exports _ ?_⟩
  exact List.mem_flatten.mpr ⟨_, hvs, List.mem_map_of_mem hv⟩

/-- Every export was there before or is seen through an assignment. -/
theorem TakesOver.origin (h : old.TakesOver sees rule) (hv : v ∈ rule.exportedVars) :
    v ∈ old.exportedVars ∨ ∃ var target exports, (var, target) ∈ old.assigns ∧ sees target exports ∧
      ∃ w ∈ exports, v.name = (Resolution.derived var w).name ∧ sameType v.type w.type := by
  obtain ⟨carried, hcarried, hedit⟩ := h
  rcases (gains_exportAll hedit).mem_or_mem hv with hold | ⟨u, hu, hname, hsame⟩
  · exact Or.inl hold
  · obtain ⟨vs, hvs, hu⟩ := List.mem_flatten.mp hu
    obtain ⟨⟨var, target⟩, hassign, exports, hexports, rfl⟩ := Outcome.exists_mem_left hcarried hvs
    obtain ⟨w, hw, rfl⟩ := List.mem_map.mp hu
    exact Or.inr ⟨var, target, exports, hassign, hexports, w, hw, hname.symm, hsame⟩

end Rule

/-! ## The traversal -/

namespace Resolution

variable {merged last : Grammar} {state mid after : Resolution} {old rule changed : Rule}
  {name target : String} {stack : List String} {exports : List Variable} {depth : Nat}

/-- What is finished stays finished. -/
def Grows (state after : Resolution) : Prop :=
  ∀ name exports, state.done.lookup name = some exports → after.done.lookup name = some exports

theorem Grows.refl (state : Resolution) : state.Grows state := fun _ _ h => h

theorem Grows.trans (h : state.Grows mid) (h' : mid.Grows after) : state.Grows after :=
  fun name exports hdone => h' name exports (h name exports hdone)

/-- The exports that a rule sees of another one: those of a finished rule, or those that the other one has at
first, if it leads back to the rule. -/
def Sees (merged : Grammar) (state : Resolution) (name target : String) (exports : List Variable) : Prop :=
  state.done.lookup target = some exports ∨
    TransGen merged.AssignsFrom target name ∧ exports = merged.exportsOf target

theorem Grows.sees (h : state.Grows after) (hsees : Sees merged state name target exports) :
    Sees merged after name target exports := hsees.imp (h _ _) id

/-- A rule that is not finished is as at first, and a finished one has taken over what its assignments carry. -/
structure Sound (merged : Grammar) (state : Resolution) : Prop where
  framed : merged.Framed state.grammar
  fresh : ∀ {name}, state.done.lookup name = none → state.grammar.rule? name = merged.rule? name
  finished : ∀ {name exports}, state.done.lookup name = some exports → ∃ old rule,
    merged.rule? name = some old ∧ state.grammar.rule? name = some rule ∧ rule.exportedVars = exports ∧
    old.TakesOver (Sees merged state name) rule

theorem sound_start (merged : Grammar) : Sound merged ⟨merged, [], []⟩ :=
  ⟨.refl merged, fun _ => rfl, fun h => by simp at h⟩

/-- The rules that are being resolved: distinct rules of the grammar, not finished, which lead to the rule of a
name. -/
structure Stacked (merged : Grammar) (stack : List String) (name : String) : Prop where
  nodup : stack.Nodup
  declared : ∀ other ∈ stack, other ∈ merged.rules.map Rule.name
  leads : ∀ other ∈ stack, TransGen merged.AssignsFrom other name

theorem stacked_nil (merged : Grammar) (name : String) : Stacked merged [] name :=
  ⟨.nil, by simp, by simp⟩

theorem Stacked.length_le (h : Stacked merged stack name) : stack.length ≤ merged.rules.length := by
  have hsub : stack.Subperm (merged.rules.map Rule.name) := h.nodup.subperm h.declared
  simpa using hsub.length_le

/-- A rule that is not being resolved already joins the stack when its assignments are looked at. -/
theorem Stacked.push (h : Stacked merged stack name) (hnew : name ∉ stack)
    (hrule : merged.rule? name = some rule) {var : String} (hassign : (var, target) ∈ rule.assigns) :
    Stacked merged (name :: stack) target := by
  have hedge : merged.AssignsFrom name target := ⟨rule, hrule, var, hassign⟩
  refine ⟨List.nodup_cons.mpr ⟨hnew, h.nodup⟩, List.forall_mem_cons.mpr ⟨?_, h.declared⟩,
    List.forall_mem_cons.mpr ⟨.single hedge, fun other hother => (h.leads other hother).tail hedge⟩⟩
  exact Grammar.isSome_rule?_iff.mp (by rw [hrule]; rfl)

/-- The state that finishing a rule leaves. -/
def finish (name : String) (exports : List Variable) (state : Resolution) : Resolution :=
  { state with done := (name, exports) :: state.done }

theorem lookup_finish {other : String} : (finish name exports state).done.lookup other =
    if other = name then some exports else state.done.lookup other := by
  show List.lookup other ((name, exports) :: state.done) = _
  rw [List.lookup_cons]
  by_cases h : other = name
  · simp [h]
  · simp only [beq_false_of_ne h, if_neg h]

theorem grows_finish (hdone : after.done = state.done) (hnew : state.done.lookup name = none) :
    state.Grows (finish name exports after) := by
  intro other found hother
  rw [lookup_finish, if_neg, hdone, hother]
  rintro rfl
  rw [hnew] at hother
  cases hother

/-- Finishing a rule that has taken over what its assignments carry. -/
theorem Sound.finish (h : Sound merged state) (hnew : state.done.lookup name = none)
    (hold : merged.rule? name = some old) (htakes : old.TakesOver (Sees merged state name) rule)
    (hupdates : state.grammar.Updates rule after.grammar) (hdone : after.done = state.done) :
    Sound merged (Resolution.finish name rule.exportedVars after) := by
  have hname : rule.name = name := by
    obtain ⟨vs, hgains⟩ := htakes.gains
    rw [hgains.name_eq, (Grammar.mem_of_rule? hold).2]
  have hgrows : state.Grows (Resolution.finish name rule.exportedVars after) := grows_finish hdone hnew
  refine ⟨h.framed.trans hupdates.toFramed, fun {other} hother => ?_, fun {other found} hother => ?_⟩
  · rw [lookup_finish] at hother
    split at hother
    · cases hother
    · rename_i hne
      rw [hdone] at hother
      show after.grammar.rule? other = _
      rw [hupdates.rule?_of_ne (hname ▸ hne), h.fresh hother]
  · rw [lookup_finish] at hother
    split at hother
    · rename_i heq
      cases hother
      subst heq
      exact ⟨old, rule, hold, hname ▸ hupdates.rule?_self, rfl, htakes.imp fun _ hsees => hgrows.sees hsees⟩
    · rename_i hne
      rw [hdone] at hother
      obtain ⟨old', rule', hold', hrule', hexports, htakes'⟩ := h.finished hother
      refine ⟨old', rule', hold', ?_, hexports, htakes'.imp fun _ hsees => hgrows.sees hsees⟩
      show after.grammar.rule? other = _
      rw [hupdates.rule?_of_ne (hname ▸ hne), hrule']

/-- **What the traversal does from a rule**: it keeps the invariant, finishes no rule that is being
resolved, and gives what the rule exports in the end, or, if the rule is being resolved, what it exports at
first. -/
theorem sound_exportsOf (hsound : Sound merged state)
    (hdepth : merged.rules.length + 1 ≤ depth + stack.length) (hstack : Stacked merged stack name)
    (hfresh : ∀ other ∈ stack, state.done.lookup other = none)
    (h : exportsOf depth stack name state = .ok exports after) :
    (Sound merged after ∧ ∀ other ∈ stack, after.done.lookup other = none) ∧ state.Grows after ∧
      (after.done.lookup name = some exports ∨ name ∈ stack ∧ exports = merged.exportsOf name) := by
  induction depth generalizing stack name state exports after with
  | zero =>
    have := hstack.length_le
    omega
  | succ depth ih =>
    obtain ⟨_, _, hget, h⟩ := Outcome.bind_eq_ok.mp h
    cases hget
    rcases hdone : state.done.lookup name with _ | found
    swap
    · simp only [hdone] at h
      cases h
      exact ⟨⟨hsound, hfresh⟩, .refl _, Or.inl hdone⟩
    simp only [hdone] at h
    obtain ⟨rule, state, hsource, hrule⟩ := Outcome.bind_eq_ok.mp h
    obtain ⟨hfound, rfl⟩ := source_eq_ok_iff.mp hsource
    have hold : merged.rule? name = some rule := hsound.fresh hdone ▸ hfound
    by_cases hmem : name ∈ stack
    · simp only [hmem, if_true] at hrule
      cases hrule
      exact ⟨⟨hsound, hfresh⟩, .refl _, Or.inr ⟨hmem, (Grammar.exportsOf_eq hold).symm⟩⟩
    simp only [hmem, if_false] at hrule
    obtain ⟨carried, s, hcarried, hbehind⟩ := Outcome.bind_eq_ok.mp hrule
    obtain ⟨_, t, hreexport, hlast⟩ := Outcome.bind_eq_ok.mp hbehind
    -- Every assignment is looked at with the rule on the stack, and the state stays as it has to be there.
    have hrow := Outcome.mapM_establishes
      (fun s => Sound merged s ∧ ∀ other ∈ name :: stack, s.done.lookup other = none)
      Grows Grows.refl Grows.trans
      (fun assign vs s => ∃ exports, Sees merged s name assign.2 exports ∧ vs = exports.map (derived assign.1))
      (fun hgrows ⟨exports, hsees, hvs⟩ => ⟨exports, hgrows.sees hsees, hvs⟩)
      (fun assign hassign s s' vs hs hstep => by
        obtain ⟨exports, _, hexports, hpure⟩ := Outcome.bind_eq_ok.mp hstep
        cases hpure
        have hpush := hstack.push hmem hold hassign
        obtain ⟨hkeeps, hgrows, hsees⟩ :=
          ih hs.1 (by rw [List.length_cons]; omega) hpush hs.2 hexports
        refine ⟨hkeeps, hgrows, exports, hsees.imp id ?_, rfl⟩
        rintro ⟨htarget, hfirst⟩
        refine ⟨?_, hfirst⟩
        rcases List.mem_cons.mp htarget with heq | htarget
        · exact heq ▸ hpush.leads name List.mem_cons_self
        · exact hstack.leads _ htarget)
      ⟨hsound, List.forall_mem_cons.mpr ⟨hdone, hfresh⟩⟩ hcarried
    obtain ⟨⟨hs, hsfresh⟩, hgrows, hsees⟩ := hrow
    obtain ⟨hsname, hsfresh⟩ := List.forall_mem_cons.mp hsfresh
    have hagain : s.grammar.rule? name = some rule := by rw [hs.fresh hsname, hold]
    obtain ⟨changed, hedit, hname, hupdates, hsame⟩ := reexportAll_eq_ok hagain hreexport
    obtain ⟨found, t, hlookup, hdone⟩ := Outcome.bind_eq_ok.mp hlast
    obtain ⟨hchanged, rfl⟩ := source_eq_ok_iff.mp hlookup
    rw [← (Grammar.mem_of_rule? hold).2, ← hname, hupdates.rule?_self] at hchanged
    cases hchanged
    cases hdone
    have hfinish := hs.finish hsname hold ⟨carried, hsees, hedit⟩ hupdates hsame
    refine ⟨⟨hfinish, fun other hother => ?_⟩, hgrows.trans ?_, Or.inl ?_⟩
    · refine lookup_finish.trans ?_
      rw [if_neg (ne_of_mem_of_not_mem hother hmem), hsame, hsfresh other hother]
    · exact grows_finish hsame hsname
    · exact lookup_finish.trans (if_pos rfl)

/-! ## Grammars without cycles -/

/-- Every rule of `last` is that of `merged` with the exports that its assignments carry over, where it sees the
exports that a rule has in the end. -/
def Settles (merged last : Grammar) : Prop :=
  ∀ name old, merged.rule? name = some old → ∃ rule, last.rule? name = some rule ∧
    old.TakesOver (fun target exports => exports = last.exportsOf target) rule

/-- A rule that is not finished is as in `merged`, and a finished one as in `last`. -/
structure Agrees (merged last : Grammar) (state : Resolution) : Prop where
  framed : merged.Framed state.grammar
  fresh : ∀ {name}, state.done.lookup name = none → state.grammar.rule? name = merged.rule? name
  finished : ∀ {name exports}, state.done.lookup name = some exports →
    state.grammar.rule? name = last.rule? name ∧ exports = last.exportsOf name

theorem agrees_start (merged last : Grammar) : Agrees merged last ⟨merged, [], []⟩ :=
  ⟨.refl merged, fun _ => rfl, fun h => by simp at h⟩

theorem Agrees.finish (h : Agrees merged last state) (hlast : last.rule? name = some rule)
    (hname : rule.name = name) (hupdates : state.grammar.Updates rule after.grammar)
    (hdone : after.done = state.done) :
    Agrees merged last (Resolution.finish name rule.exportedVars after) := by
  refine ⟨h.framed.trans hupdates.toFramed, fun {other} hother => ?_, fun {other found} hother => ?_⟩
  · rw [lookup_finish] at hother
    split at hother
    · cases hother
    · rename_i hne
      rw [hdone] at hother
      show after.grammar.rule? other = _
      rw [hupdates.rule?_of_ne (hname ▸ hne), h.fresh hother]
  · rw [lookup_finish] at hother
    show after.grammar.rule? other = _ ∧ _
    split at hother
    · rename_i heq
      cases hother
      rw [heq, hlast, ← hname, hupdates.rule?_self, hname, Grammar.exportsOf_eq hlast]
      exact ⟨rfl, rfl⟩
    · rename_i hne
      rw [hdone] at hother
      rw [hupdates.rule?_of_ne (hname ▸ hne)]
      exact h.finished hother

/-- **Without cycles the traversal succeeds as soon as there are rules that it could leave**, and leaves
those. -/
theorem exists_exportsOf (hsettles : Settles merged last)
    (hclosed : ∀ {name target}, merged.AssignsFrom name target → (merged.rule? target).isSome)
    (hacyclic : ∀ name, ¬ TransGen merged.AssignsFrom name name) (hagrees : Agrees merged last state)
    (hdepth : depth + stack.length = merged.rules.length + 1) (hstack : Stacked merged stack name)
    (hfresh : ∀ other ∈ stack, state.done.lookup other = none) (hname : (merged.rule? name).isSome) :
    ∃ after, exportsOf depth stack name state = .ok (last.exportsOf name) after ∧
      (Agrees merged last after ∧ ∀ other ∈ stack, after.done.lookup other = none) ∧
      (after.done.lookup name).isSome ∧ state.Grows after := by
  induction depth generalizing stack name state with
  | zero =>
    have := hstack.length_le
    omega
  | succ depth ih =>
    rcases hdone : state.done.lookup name with _ | found
    swap
    · obtain ⟨-, rfl⟩ := hagrees.finished hdone
      refine ⟨state, Outcome.bind_eq_ok.mpr ⟨state, state, rfl, ?_⟩, ⟨hagrees, hfresh⟩, by rw [hdone]; rfl,
        .refl _⟩
      simp only [hdone]
      rfl
    obtain ⟨old, hold⟩ := Option.isSome_iff_exists.mp hname
    have hmem : name ∉ stack := fun hmem => hacyclic name (hstack.leads name hmem)
    obtain ⟨rule, hrule, htakes⟩ := hsettles name old hold
    have hedit := Rule.takesOver_eq_iff.mp htakes
    -- Every assignment gives what its rule exports in the end, as no assignment leads back to the stack.
    have hrow : ∃ s, (old.assigns.mapM fun (var, target) => do
          return (← exportsOf depth (name :: stack) target).map (derived var)) state =
        .ok (old.assigns.map fun assign => (last.exportsOf assign.2).map (derived assign.1)) s ∧
        (Agrees merged last s ∧ ∀ other ∈ name :: stack, s.done.lookup other = none) ∧ state.Grows s := by
      refine Outcome.exists_mapM
        (fun s => (Agrees merged last s ∧ ∀ other ∈ name :: stack, s.done.lookup other = none) ∧ state.Grows s)
        (fun assign hassign s hs => ?_) ⟨⟨hagrees, List.forall_mem_cons.mpr ⟨hdone, hfresh⟩⟩, .refl _⟩
      have hpush := hstack.push hmem hold hassign
      obtain ⟨s', hstep, hkeeps, -, hgrows⟩ := ih hs.1.1 (by rw [List.length_cons]; omega) hpush hs.1.2
        (hclosed ⟨old, hold, assign.1, hassign⟩)
      exact ⟨s', Outcome.bind_eq_ok.mpr ⟨_, s', hstep, rfl⟩, hkeeps, hs.2.trans hgrows⟩
    obtain ⟨s, hrow, ⟨hs, hsfresh⟩, hgrows⟩ := hrow
    obtain ⟨hsname, hsfresh⟩ := List.forall_mem_cons.mp hsfresh
    have hsold : s.grammar.rule? name = some old := by rw [hs.fresh hsname, hold]
    obtain ⟨t, hreexport, hupdates, hsame⟩ := exists_reexportAll hsold hedit
    obtain ⟨vs, hgains⟩ := htakes.gains
    have hrulename : rule.name = name := by rw [hgains.name_eq, (Grammar.mem_of_rule? hold).2]
    have hagain : t.grammar.rule? name = some rule := by rw [← hrulename, hupdates.rule?_self]
    refine ⟨finish name rule.exportedVars t, ?_, ⟨hs.finish hrule hrulename hupdates hsame,
      fun other hother => ?_⟩, ?_, hgrows.trans (grows_finish hsame hsname)⟩
    · refine Outcome.bind_eq_ok.mpr ⟨state, state, rfl, ?_⟩
      simp only [hdone]
      refine Outcome.bind_eq_ok.mpr ⟨old, state, source_eq_ok_iff.mpr ⟨hagrees.fresh hdone ▸ hold, rfl⟩, ?_⟩
      simp only [hmem, if_false]
      refine Outcome.bind_eq_ok.mpr ⟨_, s, hrow, Outcome.bind_eq_ok.mpr ⟨(), t, hreexport, ?_⟩⟩
      refine Outcome.bind_eq_ok.mpr ⟨rule, t, source_eq_ok_iff.mpr ⟨hagain, rfl⟩, ?_⟩
      rw [Grammar.exportsOf_eq hrule]
      rfl
    · rw [lookup_finish, if_neg (ne_of_mem_of_not_mem hother hmem), hsame, hsfresh other hother]
    · rw [lookup_finish, if_pos rfl]
      rfl

end Resolution

end AttributeGrammar
