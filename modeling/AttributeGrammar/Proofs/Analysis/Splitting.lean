import AttributeGrammar.Proofs.Analysis.Exactness

/-!
# FIRST sets of sequences in two parts

* `TerminalSet.before` — what can begin a sequence, from what can begin its two parts.
* `firstOf_append` — the FIRST set of two sequences in a row is made of theirs in this way.
* `Analysis.getFirst_append` — so it is with the answers of an analysis, whatever was asked before each of them.
-/

set_option autoImplicit false

namespace AttributeGrammar

variable {table : SetTable} {a b c : TerminalSet} {t : Terminal}

/-- What can begin a sequence whose first part has the set `a`, and the rest the set `b`. -/
def TerminalSet.before (a b : TerminalSet) : TerminalSet :=
  if a.contains .empty then a.erase .empty ∪ b else a

namespace TerminalSet

theorem before_of_mem (h : .empty ∈ a) : a.before b = a.erase .empty ∪ b := by
  rw [before, if_pos (Std.ExtTreeSet.contains_iff_mem.mpr h)]

theorem before_of_notMem (h : .empty ∉ a) : a.before b = a := by
  rw [before, if_neg fun hcontains => h (Std.ExtTreeSet.contains_iff_mem.mp hcontains)]

theorem mem_before_iff :
    t ∈ a.before b ↔ (t ≠ .empty ∧ t ∈ a) ∨ (.empty ∈ a ∧ t ∈ b) := by
  by_cases h : .empty ∈ a
  · rw [before_of_mem h, Std.ExtTreeSet.mem_union_iff, mem_erase_iff]
    simp only [h, true_and]
  · rw [before_of_notMem h]
    simp only [h, false_and, or_false]
    exact ⟨fun ht => ⟨fun heq => h (heq ▸ ht), ht⟩, And.right⟩

/-- A sequence that is empty leaves all to the rest. -/
theorem empty_before : ({.empty} : TerminalSet).before b = b := by
  refine Std.ExtTreeSet.ext_mem fun t => ?_
  rw [mem_before_iff, mem_singleton_iff, mem_singleton_iff]
  simp

theorem before_assoc : (a.before b).before c = a.before (b.before c) := by
  refine Std.ExtTreeSet.ext_mem fun t => ?_
  simp only [mem_before_iff]
  tauto

end TerminalSet

theorem firstOf_cons (symbol : Symbol) (rest : List Symbol) :
    firstOf table (symbol :: rest) = (firstOfSymbol table symbol).before (firstOf table rest) := rfl

/-- **The FIRST set of two sequences in a row is made of their FIRST sets.** -/
theorem firstOf_append (front back : List Symbol) :
    firstOf table (front ++ back) = (firstOf table front).before (firstOf table back) := by
  induction front with
  | nil => exact TerminalSet.empty_before.symm
  | cons symbol front ih =>
    rw [List.cons_append, firstOf_cons, firstOf_cons, ih, TerminalSet.before_assoc]

namespace Analysis

variable {grammar : Grammar} {analysis later whole first second : Analysis}

/-- Every answer is what the tables give, whatever was asked before. -/
theorem getFirst_of_serves (h : ofGrammar grammar = .ok analysis) (hserves : analysis.Serves later)
    (symbols : List Symbol) : (getFirst symbols later).1 = firstOf analysis.first symbols := by
  have hfaithful := faithful_of_ofGrammar h
  rw [(getFirst_eq (hserves.faithful hfaithful) symbols).1, hfaithful.first_eq]

/-- **The answer for two sequences in a row is made of the answers for them**, and every answer is what the
tables of the analysis give, whatever was asked before and in which order. -/
theorem getFirst_append (h : ofGrammar grammar = .ok analysis) (hwhole : analysis.Serves whole)
    (hfirst : analysis.Serves first) (hsecond : analysis.Serves second) (front back : List Symbol) :
    (.empty ∈ (getFirst front first).1 → (getFirst (front ++ back) whole).1 =
      (getFirst front first).1.erase .empty ∪ (getFirst back second).1) ∧
    (.empty ∉ (getFirst front first).1 →
      (getFirst (front ++ back) whole).1 = (getFirst front first).1) ∧
    ∀ later, analysis.Serves later → ∀ symbols,
      (getFirst symbols later).1 = firstOf analysis.first symbols := by
  rw [getFirst_of_serves h hwhole, getFirst_of_serves h hfirst, getFirst_of_serves h hsecond,
    firstOf_append]
  exact ⟨TerminalSet.before_of_mem, TerminalSet.before_of_notMem,
    fun _ hserves symbols => getFirst_of_serves h hserves symbols⟩

/-- In the sample the rule may be empty. The whole is asked for first, then its front, and the rest behind a
further search for conflicts. -/
theorem getFirst_append_nested : ∃ analysis asked checked, ofGrammar .nested = .ok analysis ∧
    analysis.Serves analysis ∧ analysis.Serves asked ∧ analysis.Serves checked ∧
    .empty ∈ (getFirst [.nonTerminal "s"] asked).1 ∧
    (getFirst [.nonTerminal "s", .terminal (.text "c")] analysis).1 =
      (getFirst [.nonTerminal "s"] asked).1.erase .empty ∪ (getFirst [.terminal (.text "c")] checked).1 := by
  obtain ⟨analysis, h⟩ := exists_nested
  have hasked : analysis.Serves (getFirst [.nonTerminal "s", .terminal (.text "c")] analysis).2 :=
    .asked _ .made
  have hempty : Grammar.nested.flat.Vanishes [.nonTerminal "s"] :=
    Flat.vanishes_nonTerminal_iff.mpr ⟨_, List.mem_singleton_self _, _,
      List.mem_cons_of_mem _ (List.mem_singleton_self _), .empty (.endOfInput .nil)⟩
  have hmem : .empty ∈ (getFirst [.nonTerminal "s"]
      (getFirst [.nonTerminal "s", .terminal (.text "c")] analysis).2).1 := by
    rw [getFirst_of_serves h hasked, (faithful_of_ofGrammar h).first_eq]
    exact Flat.empty_mem_firstOf_iff.mpr hempty
  obtain ⟨happend, -, -⟩ := getFirst_append h .made hasked hasked.checked
    [.nonTerminal "s"] [.terminal (.text "c")]
  exact ⟨analysis, _, _, h, .made, hasked, hasked.checked, hmem, happend hmem⟩

end Analysis

end AttributeGrammar
