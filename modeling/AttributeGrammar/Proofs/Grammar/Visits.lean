import AttributeGrammar.Proofs.Grammar.Calls
import AttributeGrammar.Proofs.Grammar.Propagation

/-!
# What the traversal that carries exports visits

* `Resolution.Visit`, `Resolution.recordedExportsOf` — the traversal with a record of its calls;
  `Resolution.forgets_exportsOf` — it is the traversal where the record is left out.
* `Resolution.exportsOf_succ` — a depth above the number of rules has no part in what the traversal does.
* `Resolution.Traced` — what holds of the calls: none is deeper than the number of rules and one more, and
  no rule's assignments are looked at twice.
* `Resolution.ends_recordedExportsOf` — the invariant of the recorded traversal, also where it fails.
* `Grammar.traced_propagate` — so it is of all calls, and what was recorded of a finished rule are its
  exports still.
-/

set_option autoImplicit false

namespace AttributeGrammar

open Outcome (Ends stateBehind)

namespace Resolution

variable {merged : Grammar} {state mid after : Resolution} {name : String} {stack : List String}
  {exports : List Variable} {depth : Nat} {α β : Type}

/-! ## Calls on record -/

/-- What comes of a call for a rule: its exports are recorded, or it is being resolved and has some so far,
or what it assigns from is looked at, unless there is no such rule or no depth left. -/
inductive Answer where
  | finished (exports : List Variable)
  | stacked (exports : List Variable)
  | expanded
  | unknown
  | exhausted
deriving DecidableEq, Repr

/-- A call for a rule, at a level of the recursion that starts from one. -/
structure Visit where
  level : Nat
  name : String
  answer : Answer
deriving DecidableEq, Repr

/-- What comes of a call that has some depth left. -/
def answerOf (stack : List String) (name : String) (state : Resolution) : Answer :=
  match state.done.lookup name with
  | some exports => .finished exports
  | none =>
    match state.grammar.rule? name with
    | none => .unknown
    | some rule => if name ∈ stack then .stacked rule.exportedVars else .expanded

/-- The state of the traversal and its calls so far. -/
structure Recorded where
  state : Resolution
  visits : List Visit

/-- A step of the resolution with a record of the calls. -/
abbrev RecordedStep := EStateM GrammarError Recorded

/-- A step that makes no call. -/
def quiet (step : Step α) : RecordedStep α := fun recorded =>
  match step recorded.state with
  | .ok a state => .ok a { recorded with state }
  | .error e state => .error e { recorded with state }

/-- Puts a call on record. -/
def record (visit : Resolution → Visit) : RecordedStep Unit :=
  modify fun recorded => { recorded with visits := recorded.visits ++ [visit recorded.state] }

/-- Gives a rule what its assignments carry, and finishes it. -/
def finishing (name : String) (carried : List (List Variable)) : Step (List Variable) := do
  carried.flatten.forM (reexport name)
  let exports := (← source name).exportedVars
  modify fun state => { state with done := (name, exports) :: state.done }
  return exports

/-- As `exportsOf`, with every call on record. -/
def recordedExportsOf : (depth : Nat) → (stack : List String) → (name : String) → RecordedStep (List Variable)
  | 0, stack, name => do
    record fun _ => ⟨stack.length + 1, name, .exhausted⟩
    return []
  | depth + 1, stack, name => do
    record fun state => ⟨stack.length + 1, name, answerOf stack name state⟩
    match (← quiet get).done.lookup name with
    | some exports => return exports
    | none =>
      let rule ← quiet (source name)
      if name ∈ stack then return rule.exportedVars
      let carried ← rule.assigns.mapM fun (var, target) => do
        return (← recordedExportsOf depth (name :: stack) target).map (derived var)
      quiet (finishing name carried)

/-! ### The record left out -/

/-- What is left of a result without its record. -/
def forget : EStateM.Result GrammarError Recorded α → EStateM.Result GrammarError Resolution α
  | .ok a recorded => .ok a recorded.state
  | .error e recorded => .error e recorded.state

/-- The recorded computation is the other one where the record is left out. -/
def Forgets (recorded : RecordedStep α) (step : Step α) : Prop := ∀ r, forget (recorded r) = step r.state

theorem forgets_pure (a : α) : Forgets (pure a) (pure a) := fun _ => rfl

theorem forgets_quiet (step : Step α) : Forgets (quiet step) step := by
  intro r
  unfold quiet
  split <;> rename_i heq <;> exact heq.symm

theorem Forgets.bind {recorded : RecordedStep α} {step : Step α} {next : α → RecordedStep β}
    {after : α → Step β}
    (h : Forgets recorded step) (hnext : ∀ a, Forgets (next a) (after a)) :
    Forgets (recorded >>= next) (step >>= after) := by
  intro r
  have hfirst := h r
  show forget (EStateM.bind recorded next r) = EStateM.bind step after r.state
  unfold EStateM.bind
  rw [← hfirst]
  rcases recorded r with ⟨a, mid⟩ | ⟨e, mid⟩
  · exact hnext a mid
  · rfl

theorem Forgets.record {visit : Resolution → Visit} {recorded : RecordedStep α} {step : Step α}
    (h : Forgets recorded step) : Forgets (do record visit; recorded) step := fun _ => h _

theorem Forgets.discard {recorded : RecordedStep α} {step : Step α} (h : Forgets recorded step) :
    Forgets (Functor.discard recorded) (Functor.discard step) := by
  intro r
  have hfirst := h r
  show forget (EStateM.map _ recorded r) = EStateM.map _ step r.state
  unfold EStateM.map
  rw [← hfirst]
  rcases recorded r with ⟨a, mid⟩ | ⟨e, mid⟩ <;> rfl

theorem Forgets.mapM {recorded : α → RecordedStep β} {step : α → Step β}
    (h : ∀ a, Forgets (recorded a) (step a))
    (as : List α) : Forgets (as.mapM recorded) (as.mapM step) := by
  induction as with
  | nil => exact forgets_pure []
  | cons a as ih =>
    rw [List.mapM_cons, List.mapM_cons]
    exact (h a).bind fun b => ih.bind fun bs => forgets_pure (b :: bs)

theorem Forgets.forM {recorded : α → RecordedStep PUnit} {step : α → Step PUnit}
    (h : ∀ a, Forgets (recorded a) (step a)) (as : List α) : Forgets (as.forM recorded) (as.forM step) := by
  induction as with
  | nil => exact forgets_pure PUnit.unit
  | cons a as ih => exact (h a).bind fun _ => ih

/-- **The recorded traversal is the traversal where the record is left out.** -/
theorem forgets_exportsOf (depth : Nat) (stack : List String) (name : String) :
    Forgets (recordedExportsOf depth stack name) (exportsOf depth stack name) := by
  induction depth generalizing stack name with
  | zero => exact (forgets_pure []).record
  | succ depth ih =>
    unfold recordedExportsOf exportsOf
    refine Forgets.record ((forgets_quiet get).bind fun state => ?_)
    rcases state.done.lookup name with _ | exports
    swap
    · exact forgets_pure exports
    refine (forgets_quiet (source name)).bind fun rule => ?_
    by_cases hmem : name ∈ stack
    · simp only [hmem, if_true]
      exact forgets_pure _
    simp only [hmem, if_false]
    refine Forgets.bind (Forgets.mapM (fun assign => ?_) rule.assigns) fun carried => ?_
    · exact (ih (name :: stack) assign.2).bind fun exports => forgets_pure _
    · exact forgets_quiet (finishing name carried)

/-! ## Depth -/

/-- **A depth above the number of rules has no part in what the traversal does.** -/
theorem exportsOf_succ (hsound : Sound merged state) (hdepth : merged.rules.length + 1 ≤ depth + stack.length)
    (hstack : Stacked merged stack name) (hfresh : ∀ other ∈ stack, state.done.lookup other = none) :
    exportsOf (depth + 1) stack name state = exportsOf depth stack name state := by
  induction depth generalizing stack name state with
  | zero =>
    have := hstack.length_le
    omega
  | succ depth ih =>
    rw [exportsOf]
    conv => rhs; rw [exportsOf]
    refine Outcome.bind_congr rfl fun _ _ hget => ?_
    cases hget
    rcases hdone : state.done.lookup name with _ | found
    swap
    · rfl
    refine Outcome.bind_congr rfl fun rule _ hsource => ?_
    obtain ⟨hrule, rfl⟩ := source_eq_ok_iff.mp hsource
    by_cases hmem : name ∈ stack
    · simp only [hmem, if_true]
    simp only [hmem, if_false]
    -- Only the calls for what the rule assigns from have the depth in them.
    refine Outcome.bind_congr ?_ fun _ _ _ => rfl
    have hdeeper : merged.rules.length + 1 ≤ depth + (name :: stack).length := by
      rw [List.length_cons]
      omega
    refine Outcome.mapM_congr (fun s => Sound merged s ∧ ∀ other ∈ name :: stack, s.done.lookup other = none)
      (fun assign hassign s hs => ?_) (fun assign hassign s after vs hs hstep => ?_)
      ⟨hsound, List.forall_mem_cons.mpr ⟨hdone, hfresh⟩⟩
    · have hpush := hstack.push hmem (hsound.fresh hdone ▸ hrule) hassign
      exact Outcome.bind_congr (ih hs.1 hdeeper hpush hs.2) fun _ _ _ => rfl
    · have hpush := hstack.push hmem (hsound.fresh hdone ▸ hrule) hassign
      obtain ⟨exports, _, hexports, hpure⟩ := Outcome.bind_eq_ok.mp hstep
      cases hpure
      exact (sound_exportsOf hs.1 (by omega) hpush hs.2 hexports).1

/-- As `exportsOf_succ`, for a rule from which nothing is being resolved. -/
theorem exportsOf_spare (hsound : Sound merged state) (name : String) (spare : Nat) :
    exportsOf (merged.rules.length + 1 + spare) [] name state =
      exportsOf (merged.rules.length + 1) [] name state := by
  induction spare with
  | zero => rfl
  | succ spare ih =>
    rw [← Nat.add_assoc, exportsOf_succ hsound (by simp) (stacked_nil merged name) (by simp), ih]

/-! ## States behind failures -/

/-- Only the rule of a name may have changed, and nothing was finished. -/
def Aside (name : String) (state after : Resolution) : Prop :=
  after.done = state.done ∧ ∀ other, other ≠ name → after.grammar.rule? other = state.grammar.rule? other

theorem ends_source (name : String) (state : Resolution) :
    Ends (source name) state (fun rule after => after = state ∧ state.grammar.rule? name = some rule)
      (fun after => after = state) := by
  refine Ends.bind Ends.get fun _ _ _ heq => ?_
  obtain ⟨rfl, rfl⟩ := heq
  rcases hrule : Grammar.rule? _ name with _ | rule
  · exact rfl
  · exact ⟨rfl, rfl⟩

theorem name_behind_declareExport (type other : String) (rule : Rule) :
    (stateBehind (Rule.declareExport type other) rule).name = rule.name := by
  rcases hexport : Rule.declareExport type other rule with ⟨isNew, changed⟩ | ⟨e, changed⟩
  · rw [Outcome.stateBehind_of_ok hexport, (Rule.gains_declareExport hexport).name_eq]
  · rw [Outcome.stateBehind_of_error hexport]
    rcases Outcome.bind_eq_error.mp hexport with h | ⟨_, _, -, h⟩
    · rw [Rule.declare_eq_error (Outcome.discard_eq_error.mp h)]
    · cases h

theorem Aside.replaceRule {rule : Rule} (h : Aside name state mid) (hname : rule.name = name) :
    Aside name state { mid with grammar := mid.grammar.replaceRule rule } := by
  refine ⟨h.1, fun other hne => ?_⟩
  show (mid.grammar.replaceRule rule).rule? other = _
  rw [Grammar.rule?_replaceRule, hname, if_neg hne, h.2 other hne]

theorem ends_reexport {v : Variable} (h : Aside name state mid) :
    Ends (reexport name v) mid (fun _ => Aside name state) (Aside name state) := by
  refine Ends.bind ((ends_source name mid).imp (fun _ _ _ => id) fun t ht => ht ▸ h) fun rule t _ hfound => ?_
  obtain ⟨rfl, hrule⟩ := hfound
  have hname := (name_behind_declareExport v.type v.name rule).trans (Grammar.mem_of_rule? hrule).2
  have hedit : Ends (editRule rule (Rule.declareExport v.type v.name)) t (fun _ => Aside name state)
      (Aside name state) := by
    unfold Ends editRule Grammar.editRule
    rcases hexport : Rule.declareExport v.type v.name rule with ⟨isNew, changed⟩ | ⟨e, changed⟩
    · rw [Outcome.stateBehind_of_ok hexport] at hname
      exact h.replaceRule hname
    · rw [Outcome.stateBehind_of_error hexport] at hname
      exact h.replaceRule hname
  refine hedit.bind fun isNew t _ ht => ?_
  cases isNew with
  | false => exact ht
  | true => exact ht

/-- What finishing a rule leaves, also where it fails. -/
theorem ends_finishing (name : String) (carried : List (List Variable)) (state : Resolution) :
    Ends (finishing name carried) state (fun exports after => after.done = (name, exports) :: state.done)
      (Aside name state) := by
  have hrow : Ends (carried.flatten.forM (reexport name)) state (fun _ => Aside name state)
      (Aside name state) :=
    Ends.forM (Aside name state) (fun _ _ {_} hs => ends_reexport hs) ⟨rfl, fun _ _ => rfl⟩
  refine hrow.bind fun _ t _ ht => ?_
  refine Ends.bind ((ends_source name t).imp (fun _ _ _ => id) fun u hu => hu ▸ ht) fun rule u _ hfound => ?_
  obtain ⟨rfl, -⟩ := hfound
  show (name, rule.exportedVars) :: u.done = _
  rw [ht.1]

/-! ## The calls of the traversal -/

/-- The rules whose assignments were looked at, with repetition. -/
def expanded (visits : List Visit) : List String :=
  (visits.filter fun visit => visit.answer = .expanded).map Visit.name

/-- What holds of the calls: none is deeper than the number of rules and one more, and none lacks the depth; no
rule's assignments are looked at twice; and a rule that is being resolved has the exports it has at first. -/
structure Traced (merged : Grammar) (visits : List Visit) : Prop where
  level : ∀ visit ∈ visits, visit.level ≤ merged.rules.length + 1
  answer : ∀ visit ∈ visits, visit.answer ≠ .exhausted
  expanded : (expanded visits).Nodup
  stacked : ∀ visit ∈ visits, ∀ exports, visit.answer = .stacked exports → exports = merged.exportsOf visit.name

/-- What was recorded of a finished rule are its exports still. -/
def Kept (state : Resolution) : Prop :=
  ∀ name exports, state.done.lookup name = some exports → state.grammar.exportsOf name = exports

theorem Sound.kept (h : Sound merged state) : Kept state := by
  intro name exports hdone
  obtain ⟨_, rule, -, hrule, hexports, -⟩ := h.finished hdone
  rw [Grammar.exportsOf_eq hrule, hexports]

theorem Kept.aside (h : Kept state) (hnew : state.done.lookup name = none) (haside : Aside name state after) :
    Kept after := by
  intro other exports hdone
  rw [haside.1] at hdone
  have hne : other ≠ name := by
    rintro rfl
    rw [hnew] at hdone
    cases hdone
  rw [Grammar.exportsOf, haside.2 other hne]
  exact h other exports hdone

/-- What the recorded traversal keeps while the rules on the stack are being resolved: a rule whose
assignments were looked at is one of those, or finished. -/
structure Keeps (merged : Grammar) (stack : List String) (recorded : Recorded) : Prop where
  sound : Sound merged recorded.state
  fresh : ∀ other ∈ stack, recorded.state.done.lookup other = none
  traced : Traced merged recorded.visits
  settled : ∀ other ∈ expanded recorded.visits,
    other ∈ stack ∨ (recorded.state.done.lookup other).isSome

variable {recorded : Recorded} {visits : List Visit} {visit : Visit}

theorem expanded_concat : expanded (visits ++ [visit]) =
    expanded visits ++ if visit.answer = .expanded then [visit.name] else [] := by
  unfold expanded
  rw [List.filter_append, List.map_append]
  congr 1
  split <;> simp_all

theorem Traced.concat (h : Traced merged visits) (hlevel : visit.level ≤ merged.rules.length + 1)
    (hanswer : visit.answer ≠ .exhausted)
    (hexpanded : visit.answer = .expanded → visit.name ∉ Resolution.expanded visits)
    (hstacked : ∀ exports, visit.answer = .stacked exports → exports = merged.exportsOf visit.name) :
    Traced merged (visits ++ [visit]) := by
  refine ⟨?_, ?_, ?_, ?_⟩
  · exact List.forall_mem_append.mpr ⟨h.level, by simpa using hlevel⟩
  · exact List.forall_mem_append.mpr ⟨h.answer, by simpa using hanswer⟩
  · rw [expanded_concat]
    split
    · rename_i heq
      exact List.nodup_append.mpr ⟨h.expanded, by simp, by
        rintro a ha b hb rfl
        exact hexpanded heq (List.mem_singleton.mp hb ▸ ha)⟩
    · rw [List.append_nil]
      exact h.expanded
  · exact List.forall_mem_append.mpr ⟨h.stacked, by simpa using hstacked⟩

theorem ends_record (visit : Resolution → Visit) (recorded : Recorded) {bad : Recorded → Prop} :
    Ends (record visit) recorded
      (fun _ after => after = { recorded with visits := recorded.visits ++ [visit recorded.state] }) bad :=
  rfl

theorem ends_quiet_get (recorded : Recorded) {bad : Recorded → Prop} :
    Ends (quiet get) recorded (fun found after => found = recorded.state ∧ after = recorded) bad :=
  ⟨rfl, rfl⟩

theorem ends_quiet {step : Step α} {good : α → Resolution → Prop} {bad : Resolution → Prop}
    (h : Ends step recorded.state good bad) :
    Ends (quiet step) recorded (fun a after => good a after.state ∧ after.visits = recorded.visits)
      (fun after => bad after.state ∧ after.visits = recorded.visits) := by
  unfold Ends quiet
  unfold Ends at h
  rcases hstep : step recorded.state with ⟨a, state⟩ | ⟨e, state⟩
  · rw [hstep] at h
    exact ⟨h, rfl⟩
  · rw [hstep] at h
    exact ⟨h, rfl⟩

theorem ends_quiet_source (name : String) (recorded : Recorded) :
    Ends (quiet (source name)) recorded
      (fun rule after => after = recorded ∧ recorded.state.grammar.rule? name = some rule)
      (fun after => after = recorded) := by
  have hsame : ∀ after : Recorded, after.state = recorded.state → after.visits = recorded.visits →
      after = recorded := by
    rintro ⟨_, _⟩ rfl rfl
    rfl
  exact (ends_quiet (ends_source name recorded.state)).imp
    (fun _ after _ hafter => ⟨hsame after hafter.1.1 hafter.2, hafter.1.2⟩)
    (fun after hafter => hsame after hafter.1 hafter.2)

theorem answerOf_ne_exhausted : answerOf stack name state ≠ .exhausted := by
  unfold answerOf
  repeat' split
  all_goals simp

theorem of_answerOf_eq_expanded (h : answerOf stack name state = .expanded) :
    state.done.lookup name = none ∧ name ∉ stack := by
  unfold answerOf at h
  split at h
  · cases h
  · rename_i hdone
    split at h
    · cases h
    · split at h
      · cases h
      · rename_i hmem
        exact ⟨hdone, hmem⟩

theorem of_answerOf_eq_stacked (h : answerOf stack name state = .stacked exports) :
    state.done.lookup name = none ∧ name ∈ stack ∧
      ∃ rule, state.grammar.rule? name = some rule ∧ exports = rule.exportedVars := by
  unfold answerOf at h
  split at h
  · cases h
  · rename_i hdone
    split at h
    · cases h
    · rename_i rule hrule
      split at h
      · rename_i hmem
        cases h
        exact ⟨hdone, hmem, rule, hrule, rfl⟩
      · cases h

theorem Keeps.traced_answerOf (h : Keeps merged stack recorded) (hstack : Stacked merged stack name) :
    Traced merged (recorded.visits ++ [⟨stack.length + 1, name, answerOf stack name recorded.state⟩]) := by
  refine h.traced.concat (Nat.succ_le_succ hstack.length_le) answerOf_ne_exhausted (fun hexpanded hmem => ?_)
    fun exports hstacked => ?_
  · obtain ⟨hnew, hoff⟩ := of_answerOf_eq_expanded hexpanded
    rcases h.settled name hmem with hon | hdone
    · exact hoff hon
    · rw [hnew] at hdone
      cases hdone
  · obtain ⟨hnew, -, rule, hrule, rfl⟩ := of_answerOf_eq_stacked hstacked
    rw [h.sound.fresh hnew] at hrule
    exact (Grammar.exportsOf_eq hrule).symm

theorem Keeps.push (h : Keeps merged stack recorded) (hnew : recorded.state.done.lookup name = none) :
    Keeps merged (name :: stack) recorded :=
  ⟨h.sound, List.forall_mem_cons.mpr ⟨hnew, h.fresh⟩, h.traced,
    fun other hother => (h.settled other hother).imp_left (List.mem_cons_of_mem _)⟩

theorem Keeps.concat (h : Keeps merged stack recorded) (htraced : Traced merged (recorded.visits ++ [visit]))
    (hexpanded : visit.answer = .expanded → visit.name ∈ stack) :
    Keeps merged stack { recorded with visits := recorded.visits ++ [visit] } := by
  refine ⟨h.sound, h.fresh, htraced, fun other hother => ?_⟩
  simp only [expanded_concat] at hother
  rcases List.mem_append.mp hother with hold | hlast
  · exact h.settled other hold
  · split at hlast
    · rename_i heq
      exact Or.inl (List.mem_singleton.mp hlast ▸ hexpanded heq)
    · cases hlast

/-- When the rule on top of the stack is finished, it need not be there any more. -/
theorem Keeps.settled_finish (h : Keeps merged (name :: stack) recorded) :
    ∀ other ∈ expanded recorded.visits,
      other ∈ stack ∨ (((name, exports) :: recorded.state.done).lookup other).isSome := by
  intro other hother
  rw [List.lookup_cons]
  rcases h.settled other hother with hon | hdone
  · rcases List.mem_cons.mp hon with rfl | hon
    · exact Or.inr (by simp)
    · exact Or.inl hon
  · refine Or.inr ?_
    split
    · rfl
    · exact hdone

/-- **What the traversal keeps from call to call**, and what is left of it where it fails. -/
theorem ends_recordedExportsOf (h : Keeps merged stack recorded)
    (hdepth : merged.rules.length + 1 ≤ depth + stack.length) (hstack : Stacked merged stack name) :
    Ends (recordedExportsOf depth stack name) recorded (fun _ => Keeps merged stack)
      (fun after => Traced merged after.visits ∧ Kept after.state) := by
  induction depth generalizing stack name recorded with
  | zero =>
    have := hstack.length_le
    omega
  | succ depth ih =>
    -- That the rules are as they have to be is known of the traversal without the record.
    suffices hends : Ends (recordedExportsOf (depth + 1) stack name) recorded
        (fun _ after => Traced merged after.visits ∧ ∀ other ∈ expanded after.visits,
          other ∈ stack ∨ (after.state.done.lookup other).isSome)
        (fun after => Traced merged after.visits ∧ Kept after.state) by
      refine hends.imp (fun exports after hok hlast => ?_) fun _ => id
      have hplain := forgets_exportsOf (depth + 1) stack name recorded
      rw [hok] at hplain
      obtain ⟨⟨hsound, hfresh⟩, -, -⟩ := sound_exportsOf h.sound hdepth hstack h.fresh hplain.symm
      exact ⟨hsound, hfresh, hlast.1, hlast.2⟩
    have htraced := h.traced_answerOf hstack
    unfold recordedExportsOf
    refine Ends.bind (ends_record _ recorded) fun _ s _ hs => ?_
    subst hs
    refine Ends.bind (ends_quiet_get _) fun found s _ hs => ?_
    obtain ⟨rfl, rfl⟩ := hs
    rcases hdone : recorded.state.done.lookup name with _ | exports
    swap
    · have hkeeps := h.concat htraced (by simp [answerOf, hdone])
      exact ⟨hkeeps.traced, hkeeps.settled⟩
    refine Ends.bind ((ends_quiet_source name _).imp (fun _ _ _ => id) fun t ht => ?_) fun rule t _ ht => ?_
    · subst ht
      exact ⟨htraced, h.sound.kept⟩
    obtain ⟨rfl, hrule⟩ := ht
    by_cases hmem : name ∈ stack
    · simp only [hmem, if_true]
      have hkeeps := h.concat htraced fun _ => hmem
      exact ⟨hkeeps.traced, hkeeps.settled⟩
    simp only [hmem, if_false]
    have hkeeps := (h.push hdone).concat htraced fun _ => List.mem_cons_self
    have hold : merged.rule? name = some rule := h.sound.fresh hdone ▸ hrule
    refine Ends.bind (Ends.mapM (Keeps merged (name :: stack)) (fun assign hassign s hs => ?_) hkeeps)
      fun carried t _ ht => ?_
    · have hdeeper : merged.rules.length + 1 ≤ depth + (name :: stack).length := by
        rw [List.length_cons]
        omega
      exact Ends.bind (ih hs hdeeper (hstack.push hmem hold hassign)) fun _ _ _ hlast => hlast
    refine (ends_quiet (ends_finishing name carried t.state)).imp (fun exports u _ hu => ?_) fun u hu => ?_
    · obtain ⟨hfinished, hsame⟩ := hu
      rw [hsame, hfinished]
      exact ⟨ht.traced, ht.settled_finish⟩
    · obtain ⟨haside, hsame⟩ := hu
      rw [hsame]
      exact ⟨ht.traced, ht.sound.kept.aside (ht.fresh name List.mem_cons_self) haside⟩

end Resolution

namespace Grammar

open Resolution

/-- As `propagate`, with every call on record and a depth of its own. -/
def recordedPropagate (depth : Nat) : RecordedStep Unit := do
  let names := (← quiet get).grammar.rules.map Rule.name
  names.forM fun name => discard (recordedExportsOf depth [] name)

/-- Every call that carrying over makes keeps the invariant. -/
theorem ends_recordedPropagate (merged : Grammar) (spare : Nat) :
    Ends (recordedPropagate (merged.rules.length + 1 + spare)) ⟨⟨merged, [], []⟩, []⟩ (fun _ => Keeps merged [])
      (fun after => Traced merged after.visits ∧ Kept after.state) := by
  have hstart : Keeps merged [] ⟨⟨merged, [], []⟩, []⟩ :=
    ⟨sound_start merged, by simp, ⟨by simp, by simp, .nil, by simp⟩, by simp [expanded]⟩
  refine Ends.forM (Keeps merged []) (fun name _ s hs => ?_) hstart
  exact (ends_recordedExportsOf hs (by simp) (stacked_nil merged name)).discard

/-- Carrying over is what is left of it without the record, whatever depth it has to spare. -/
theorem forget_recordedPropagate (merged : Grammar) (spare : Nat) :
    forget (recordedPropagate (merged.rules.length + 1 + spare) ⟨⟨merged, [], []⟩, []⟩) =
      propagate ⟨merged, [], []⟩ := by
  have hforgets : Forgets ((merged.rules.map Rule.name).forM fun name =>
        discard (recordedExportsOf (merged.rules.length + 1 + spare) [] name))
      ((merged.rules.map Rule.name).forM fun name =>
        discard (Resolution.exportsOf (merged.rules.length + 1 + spare) [] name)) :=
    Forgets.forM (fun name => (forgets_exportsOf _ [] name).discard) _
  refine (hforgets ⟨⟨merged, [], []⟩, []⟩).trans ?_
  refine Eq.trans ?_ (Outcome.bind_of_ok rfl).symm
  rw [List.length_map]
  refine Outcome.forM_congr (Sound merged) (fun name _ s hs => ?_) (fun name _ s after hs hstep => ?_)
    (sound_start merged)
  · show EStateM.map _ _ s = EStateM.map _ _ s
    unfold EStateM.map
    rw [exportsOf_spare hs]
  · obtain ⟨exports, hexports⟩ := Outcome.discard_eq_ok.mp hstep
    exact (sound_exportsOf hs (by simp) (stacked_nil merged name) (by simp) hexports).1.1

/-- **Carrying over ends with few calls, and looks at no rule's assignments twice**: on record with any
depth to spare it is what it is, no call is deeper than the number of rules and one more, a rule met while
it is being resolved has the exports that it has at first, and the exports that were recorded of a rule are
those that it has when carrying over ends or fails. -/
theorem traced_propagate (merged : Grammar) (spare : Nat) :
    let start : Recorded := ⟨⟨merged, [], []⟩, []⟩
    let run := recordedPropagate (merged.rules.length + 1 + spare)
    forget (run start) = propagate ⟨merged, [], []⟩ ∧ Traced merged (stateBehind run start).visits ∧
      Kept (stateBehind propagate ⟨merged, [], []⟩) := by
  intro start run
  have hforget : forget (run start) = propagate ⟨merged, [], []⟩ := forget_recordedPropagate merged spare
  have hends := (ends_recordedPropagate merged spare).imp
    (fun _ after _ hkeeps => And.intro hkeeps.traced hkeeps.sound.kept) fun _ => id
  have hlast : Traced merged (stateBehind run start).visits ∧ Kept (stateBehind run start).state :=
    Ends.behind (fun after : Recorded => Traced merged after.visits ∧ Kept after.state) hends
  have hbehind : stateBehind propagate ⟨merged, [], []⟩ = (stateBehind run start).state := by
    unfold stateBehind
    rw [← hforget]
    rcases run start with ⟨_, after⟩ | ⟨_, after⟩ <;> rfl
  exact ⟨hforget, hlast.1, hbehind ▸ hlast.2⟩

/-- In the sample `list` is met while it is being resolved, at a level that no call exceeds. -/
example : (stateBehind (recordedPropagate 3) ⟨⟨tails, [], []⟩, []⟩).visits =
    [⟨1, "outer", .expanded⟩, ⟨2, "list", .expanded⟩, ⟨3, "list", .stacked []⟩, ⟨1, "list", .finished []⟩] := by
  decide +kernel

end Grammar

end AttributeGrammar
