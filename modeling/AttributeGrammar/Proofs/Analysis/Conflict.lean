import AttributeGrammar.Analysis.Table
import AttributeGrammar.Proofs.Analysis.Follow

/-!
# The search for conflicts

The search keeps the answers it has given. Its outcome is that of a search without such a store, and
an analysis that comes out of it describes a grammar whose alternatives one token tells apart.

* `Flat.Clash` — one token does not tell two alternatives of a rule apart.
* `Analysis.Faithful` — the tables and all stored answers are those of a flat grammar.
* `Analysis.Faithful.mem_firstSet_iff`, `Analysis.Faithful.empty_mem_firstSet_iff`,
  `Analysis.Faithful.mem_getFollow_iff` — what its answers say of the grammar.
* `Analysis.findConflict_eq` — the search finds what `Flat.conflict?` finds, and stays faithful.
* `Flat.Clear`, `Flat.Deterministic` — no two alternatives of a rule, or of any rule, clash.
* `Flat.conflict?_eq_none_iff`, `Flat.first_of_conflict?` — the search finds nothing if no two alternatives
  clash, and the first rule that has such a pair otherwise.
* `Analysis.deterministic_of_ofGrammar` — the grammar of every analysis is deterministic.
-/

set_option autoImplicit false

namespace AttributeGrammar

variable {flat : Flat} {analysis : Analysis} {name : String} {a b symbols : List Symbol} {t : Terminal}

namespace Flat

/-- A token can select both of two alternatives: both can be empty, or it begins the second one and
either begins the first one too or stands behind the rule while the first one can be empty. -/
def Clash (flat : Flat) (name : String) (a b : List Symbol) : Prop :=
  (flat.Vanishes a ∧ flat.Vanishes b) ∨
    ∃ t, flat.Begins t b ∧ (flat.Begins t a ∨ (flat.Vanishes a ∧ flat.Follows t name))

/-- Whether the computed sets show a clash. -/
def clashes (flat : Flat) (name : String) (a b : List Symbol) : Bool :=
  Analysis.clashes ((flat.followTable flat.firstTable).setOf name) (firstOf flat.firstTable a)
    (firstOf flat.firstTable b)

theorem clashes_iff : flat.clashes name a b ↔ flat.Clash name a b := by
  unfold clashes Analysis.clashes Analysis.meets
  simp only [Bool.or_eq_true, Bool.and_eq_true, TerminalSet.any_iff, Std.ExtTreeSet.contains_iff_mem,
    empty_mem_firstOf_iff, mem_followTable_iff]
  constructor
  · rintro (⟨t, ha, hb⟩ | ⟨ha, t, hfollows, hb⟩)
    · by_cases hne : t = .empty
      · subst hne
        exact Or.inl ⟨empty_mem_firstOf_iff.mp ha, empty_mem_firstOf_iff.mp hb⟩
      · exact Or.inr ⟨t, (mem_firstOf_iff hne).mp hb, Or.inl ((mem_firstOf_iff hne).mp ha)⟩
    · exact Or.inr ⟨t, (mem_firstOf_iff hfollows.ne_empty).mp hb, Or.inr ⟨ha, hfollows⟩⟩
  · rintro (⟨ha, hb⟩ | ⟨t, hb, ha | ⟨ha, hfollows⟩⟩)
    · exact Or.inl ⟨.empty, empty_mem_firstOf_iff.mpr ha, empty_mem_firstOf_iff.mpr hb⟩
    · exact Or.inl ⟨t, (mem_firstOf_iff ha.ne_empty).mpr ha, (mem_firstOf_iff hb.ne_empty).mpr hb⟩
    · exact Or.inr ⟨ha, t, hfollows, (mem_firstOf_iff hb.ne_empty).mpr hb⟩

/-- The first alternative other than number `index` that clashes with it. -/
def rival? (flat : Flat) (name : String) (alternatives : List (List Symbol)) (index : Nat)
    (alternative : List Symbol) : Option Conflict :=
  alternatives.zipIdx.findSome? fun (other, otherIndex) =>
    if otherIndex = index then none
    else if flat.clashes name alternative other then some ⟨name, alternative, other⟩ else none

/-- The first pair of alternatives of a rule that clashes. -/
def conflict? (flat : Flat) : Option Conflict :=
  flat.rules.findSome? fun (name, alternatives) =>
    alternatives.zipIdx.findSome? fun (alternative, index) =>
      flat.rival? name alternatives index alternative

/-- No two alternatives of this rule clash. -/
def Clear (flat : Flat) (rule : String × List (List Symbol)) : Prop :=
  ∀ (i j : Nat) (a b : List Symbol), rule.2[i]? = some a → rule.2[j]? = some b → i ≠ j →
    ¬ flat.Clash rule.1 a b

/-- No two alternatives of any rule clash. -/
def Deterministic (flat : Flat) : Prop := ∀ rule ∈ flat.rules, flat.Clear rule

/-! ## What the search finds -/

variable {rule : String × List (List Symbol)} {conflict : Conflict}

/-- The first pair of alternatives of this rule that clashes. -/
def conflictIn? (flat : Flat) (rule : String × List (List Symbol)) : Option Conflict :=
  rule.2.zipIdx.findSome? fun (alternative, index) => flat.rival? rule.1 rule.2 index alternative

theorem conflict?_eq (flat : Flat) : flat.conflict? = flat.rules.findSome? flat.conflictIn? := rfl

theorem rival?_eq_none_iff {alternatives : List (List Symbol)} {index : Nat} :
    flat.rival? name alternatives index a = none ↔
      ∀ (j : Nat) (b : List Symbol), alternatives[j]? = some b → index ≠ j → ¬ flat.Clash name a b := by
  unfold rival?
  rw [List.findSome?_eq_none_iff]
  constructor
  · intro h j b hb hne hclash
    have hother := h (b, j) (List.mem_zipIdx_iff_getElem?.mpr hb)
    simp [Ne.symm hne, clashes_iff.mpr hclash] at hother
  · rintro h ⟨b, j⟩ hmem
    by_cases heq : j = index
    · simp [heq]
    · have hclash := h j b (List.mem_zipIdx_iff_getElem?.mp hmem) (Ne.symm heq)
      rw [← clashes_iff, Bool.not_eq_true] at hclash
      simp [hclash]

theorem conflictIn?_eq_none_iff : flat.conflictIn? rule = none ↔ flat.Clear rule := by
  unfold conflictIn?
  rw [List.findSome?_eq_none_iff]
  constructor
  · intro h i j a b ha hb hne
    exact rival?_eq_none_iff.mp (h (a, i) (List.mem_zipIdx_iff_getElem?.mpr ha)) j b hb hne
  · rintro h ⟨a, i⟩ hmem
    have ha := List.mem_zipIdx_iff_getElem?.mp hmem
    exact rival?_eq_none_iff.mpr fun j b hb hne => h i j a b ha hb hne

theorem rule_of_conflictIn? (h : flat.conflictIn? rule = some conflict) : conflict.rule = rule.1 := by
  obtain ⟨⟨a, i⟩, -, hrival⟩ := List.exists_of_findSome?_eq_some h
  obtain ⟨⟨b, j⟩, -, hother⟩ := List.exists_of_findSome?_eq_some hrival
  simp only at hother
  split at hother
  · cases hother
  · split at hother
    · cases hother
      rfl
    · cases hother

/-- **The search finds nothing exactly when no two alternatives of a rule clash.** -/
theorem conflict?_eq_none_iff : flat.conflict? = none ↔ flat.Deterministic := by
  rw [conflict?_eq, List.findSome?_eq_none_iff]
  exact forall₂_congr fun _ _ => conflictIn?_eq_none_iff

/-- **What the search finds is in the first rule with alternatives that clash.** -/
theorem first_of_conflict? (h : flat.conflict? = some conflict) :
    ∃ before rule after, flat.rules = before ++ rule :: after ∧ conflict.rule = rule.1 ∧
      ¬ flat.Clear rule ∧ ∀ other ∈ before, flat.Clear other := by
  obtain ⟨before, rule, after, heq, hfound, hbefore⟩ := List.findSome?_eq_some_iff.mp h
  refine ⟨before, rule, after, heq, rule_of_conflictIn? hfound, fun hclear => ?_, fun other hother => ?_⟩
  · cases hfound.symm.trans (conflictIn?_eq_none_iff.mpr hclear)
  · exact conflictIn?_eq_none_iff.mp (hbefore other hother)

end Flat

/-! ## Answers that are kept -/

namespace Analysis

/-- The tables are those of a flat grammar, and every answer kept is what they give. -/
structure Faithful (flat : Flat) (analysis : Analysis) : Prop where
  flat_eq : analysis.flat = flat
  terminals_eq : analysis.terminals = flat.terminals
  first_eq : analysis.first = flat.firstTable
  follow_eq : analysis.follow = flat.followTable flat.firstTable
  answers : ∀ answer ∈ analysis.answers, answer.2 = firstOf flat.firstTable answer.1

theorem faithful_ofFlat (flat : Flat) : (ofFlat flat).Faithful flat :=
  ⟨rfl, rfl, rfl, rfl, fun _ h => by cases h⟩

theorem getFirst_eq (h : analysis.Faithful flat) (symbols : List Symbol) :
    (getFirst symbols analysis).1 = firstOf flat.firstTable symbols ∧
      (getFirst symbols analysis).2.Faithful flat := by
  unfold getFirst
  split
  · rename_i set hlookup
    obtain ⟨front, rest, heq, -⟩ := List.lookup_eq_some_iff.mp hlookup
    have hmem : (symbols, set) ∈ analysis.answers := by simp [heq]
    exact ⟨h.answers _ hmem, h⟩
  · refine ⟨by rw [h.first_eq], ⟨h.flat_eq, h.terminals_eq, h.first_eq, h.follow_eq, ?_⟩⟩
    intro answer hmem
    rcases List.mem_cons.mp hmem with rfl | hmem
    · rw [h.first_eq]
    · exact h.answers answer hmem

/-! ## What answers say -/

theorem Faithful.mem_firstSet_iff (h : analysis.Faithful flat) (hne : t ≠ .empty) :
    t ∈ analysis.firstSet symbols ↔ flat.Begins t symbols := by
  rw [firstSet, h.first_eq]
  exact Flat.mem_firstOf_iff hne

theorem Faithful.empty_mem_firstSet_iff (h : analysis.Faithful flat) :
    .empty ∈ analysis.firstSet symbols ↔ flat.Vanishes symbols := by
  rw [firstSet, h.first_eq]
  exact Flat.empty_mem_firstOf_iff

/-- An answer that was kept is the one from the tables. -/
theorem Faithful.getFirst_eq_firstSet (h : analysis.Faithful flat) (symbols : List Symbol) :
    (getFirst symbols analysis).1 = analysis.firstSet symbols := by
  rw [(getFirst_eq h symbols).1, firstSet, h.first_eq]

theorem Faithful.mem_getFollow_iff (h : analysis.Faithful flat) :
    t ∈ analysis.getFollow name ↔ flat.Follows t name := by
  rw [getFollow, h.follow_eq]
  exact Flat.mem_followTable_iff

/-! ## The search with a store -/

/-- A search with a state finds what a search without one finds, if every test of it does. -/
theorem findSomeM?_eq {α β : Type} {P : Analysis → Prop} {test : α → StateM Analysis (Option β)}
    {answer : α → Option β} (step : ∀ x s, P s → (test x s).1 = answer x ∧ P (test x s).2) :
    ∀ (entries : List α) (s : Analysis), P s →
      (entries.findSomeM? test s).1 = entries.findSome? answer ∧ P (entries.findSomeM? test s).2
  | [], s, h => ⟨rfl, h⟩
  | x :: entries, s, h => by
    obtain ⟨hresult, hnext⟩ := step x s h
    rcases htest : test x s with ⟨_ | found, next⟩
    · have hcons : (x :: entries).findSomeM? test s = entries.findSomeM? test next := by
        simp only [List.findSomeM?_cons, bind, StateT.bind, htest]
      rw [htest] at hresult hnext
      rw [hcons, List.findSome?_cons, ← hresult]
      exact findSomeM?_eq step entries next hnext
    · have hcons : (x :: entries).findSomeM? test s = (some found, next) := by
        simp only [List.findSomeM?_cons, bind, StateT.bind, htest]
        rfl
      rw [htest] at hresult hnext
      rw [hcons, List.findSome?_cons, ← hresult]
      exact ⟨rfl, hnext⟩

theorem findRival_eq (h : analysis.Faithful flat) (name : String) (alternatives : List (List Symbol))
    (index : Nat) (alternative : List Symbol) :
    (findRival name alternatives index alternative analysis).1 =
        flat.rival? name alternatives index alternative ∧
      (findRival name alternatives index alternative analysis).2.Faithful flat := by
  obtain ⟨hfirst, hnext⟩ := getFirst_eq h alternative
  rcases hget : getFirst alternative analysis with ⟨first, next⟩
  rw [hget] at hfirst hnext
  simp only at hfirst hnext
  have hfollow : analysis.getFollow name = (flat.followTable flat.firstTable).setOf name := by
    rw [getFollow, h.follow_eq]
  simp only [findRival, bind, StateT.bind, get, getThe, MonadStateOf.get, StateT.get, pure, hget]
  refine findSomeM?_eq (P := fun s => s.Faithful flat) ?_ alternatives.zipIdx _ hnext
  rintro ⟨other, otherIndex⟩ s hs
  obtain ⟨hother, hafter⟩ := getFirst_eq hs other
  by_cases hindex : otherIndex = index
  · simp only [hindex, if_true]
    exact ⟨rfl, hs⟩
  · simp only [hindex, if_false]
    rcases hget : getFirst other s with ⟨second, after⟩
    rw [hget] at hother hafter
    simp only at hother hafter
    simp only [StateT.bind, bind, hget, hfollow, hfirst, hother, Flat.clashes]
    split
    · rename_i hclash
      simp only [hclash, reduceIte]
      exact ⟨rfl, hafter⟩
    · rename_i hclash
      simp only [hclash]
      exact ⟨rfl, hafter⟩

/-- **The search with a store finds what the search without one finds.** -/
theorem findConflict_eq (h : analysis.Faithful flat) :
    (findConflict analysis).1 = flat.conflict? ∧ (findConflict analysis).2.Faithful flat := by
  rw [← h.flat_eq, Flat.conflict?]
  refine findSomeM?_eq (P := fun s => s.Faithful analysis.flat) ?_ analysis.flat.rules _ (h.flat_eq ▸ h)
  rintro ⟨name, alternatives⟩ s hs
  refine findSomeM?_eq (P := fun s => s.Faithful analysis.flat) ?_ alternatives.zipIdx _ hs
  rintro ⟨alternative, index⟩ s hs
  exact findRival_eq hs name alternatives index alternative

theorem faithful_of_ofGrammar {grammar : Grammar} (h : ofGrammar grammar = .ok analysis) :
    analysis.Faithful (.ofGrammar grammar) := by
  obtain ⟨-, hfaithful⟩ := findConflict_eq (faithful_ofFlat (.ofGrammar grammar))
  unfold ofGrammar at h
  split at h
  · cases h
  · rename_i heq
    cases h
    rw [heq] at hfaithful
    exact hfaithful

theorem ofGrammar_eq_error_iff {grammar : Grammar} {conflict : Conflict} :
    ofGrammar grammar = .error conflict ↔ (Flat.ofGrammar grammar).conflict? = some conflict := by
  obtain ⟨hfound, -⟩ := findConflict_eq (faithful_ofFlat (.ofGrammar grammar))
  rw [← hfound]
  unfold ofGrammar
  split <;> rename_i heq <;> simp [heq]

theorem exists_ofGrammar_iff {grammar : Grammar} :
    (∃ analysis, ofGrammar grammar = .ok analysis) ↔ (Flat.ofGrammar grammar).conflict? = none := by
  obtain ⟨hfound, -⟩ := findConflict_eq (faithful_ofFlat (.ofGrammar grammar))
  rw [← hfound]
  unfold ofGrammar
  split <;> rename_i heq <;> simp [heq]

/-- **The grammar of an analysis is deterministic.** -/
theorem deterministic_of_ofGrammar {grammar : Grammar} (h : ofGrammar grammar = .ok analysis) :
    (Flat.ofGrammar grammar).Deterministic :=
  Flat.conflict?_eq_none_iff.mp (exists_ofGrammar_iff.mp ⟨analysis, h⟩)

end Analysis

end AttributeGrammar
