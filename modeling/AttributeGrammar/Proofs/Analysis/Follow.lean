import AttributeGrammar.Analysis.Follow
import AttributeGrammar.Proofs.Analysis.First

/-!
# FOLLOW sets hold exactly the terminals that can stand behind a non-terminal

* `Flat.Follows` — a terminal can stand behind a non-terminal: the end of the input behind the start
  symbol; what begins the rest of an alternative behind an occurrence in it; and, where that rest can
  be empty, what stands behind the rule of the alternative.
* `Flat.mem_followTable_iff` — the computed sets are described exactly by this relation.
-/

set_option autoImplicit false

namespace AttributeGrammar.Flat

variable {flat : Flat} {t : Terminal} {name rule : String} {alternative front rest : List Symbol}
  {alternatives : List (List Symbol)} {follow : SetTable}

/-- The terminal `t` can stand behind a non-terminal. -/
inductive Follows (flat : Flat) (t : Terminal) : String → Prop where
  | start : t = .endOfInput → Follows flat t flat.start
  | inside {occurrence : Occurrence} :
      occurrence ∈ flat.occurrences → flat.Begins t occurrence.tail → Follows flat t occurrence.name
  | behind {occurrence : Occurrence} :
      occurrence ∈ flat.occurrences → flat.Vanishes occurrence.tail →
      Follows flat t occurrence.rule → Follows flat t occurrence.name

/-! ## Occurrences -/

theorem mem_occurrencesIn_iff {occurrence : Occurrence} :
    occurrence ∈ occurrencesIn rule alternative ↔ occurrence.rule = rule ∧
      ∃ front, alternative = front ++ .nonTerminal occurrence.name :: occurrence.tail := by
  induction alternative with
  | nil => simp [occurrencesIn]
  | cons symbol rest ih =>
    cases symbol with
    | terminal s =>
      rw [occurrencesIn, ih]
      refine and_congr_right fun _ => ⟨?_, ?_⟩
      · rintro ⟨front, rfl⟩
        exact ⟨.terminal s :: front, rfl⟩
      · rintro ⟨_ | ⟨first, front⟩, heq⟩
        · cases heq
        · exact ⟨front, (List.cons.inj heq).2⟩
    | nonTerminal other =>
      rw [occurrencesIn, List.mem_cons, ih]
      constructor
      · rintro (rfl | ⟨hrule, front, rfl⟩)
        · exact ⟨rfl, [], rfl⟩
        · exact ⟨hrule, .nonTerminal other :: front, rfl⟩
      · rintro ⟨rfl, _ | ⟨first, front⟩, heq⟩
        · cases heq
          exact Or.inl rfl
        · exact Or.inr ⟨rfl, front, (List.cons.inj heq).2⟩

theorem mem_occurrences_iff {occurrence : Occurrence} :
    occurrence ∈ flat.occurrences ↔ ∃ alternatives, (occurrence.rule, alternatives) ∈ flat.rules ∧
      ∃ front, front ++ .nonTerminal occurrence.name :: occurrence.tail ∈ alternatives := by
  unfold occurrences
  constructor
  · intro h
    obtain ⟨⟨rule, alternatives⟩, hrule, h⟩ := List.mem_flatMap.mp h
    obtain ⟨alternative, halt, h⟩ := List.mem_flatMap.mp h
    obtain ⟨rfl, front, rfl⟩ := mem_occurrencesIn_iff.mp h
    exact ⟨alternatives, hrule, front, halt⟩
  · rintro ⟨alternatives, hrule, front, halt⟩
    exact List.mem_flatMap.mpr ⟨_, hrule,
      List.mem_flatMap.mpr ⟨_, halt, mem_occurrencesIn_iff.mpr ⟨rfl, front, rfl⟩⟩⟩

theorem symbols_of_mem_occurrences {occurrence : Occurrence} (h : occurrence ∈ flat.occurrences) :
    ∀ symbol ∈ .nonTerminal occurrence.name :: occurrence.tail, symbol ∈ flat.symbols := by
  obtain ⟨alternatives, hrule, front, halt⟩ := mem_occurrences_iff.mp h
  intro symbol hsymbol
  exact List.mem_flatMap.mpr ⟨_, hrule,
    List.mem_flatten.mpr ⟨_, halt, List.mem_append_right _ hsymbol⟩⟩

/-- Behind an occurrence stands what begins the rest of its alternative. -/
theorem Follows.of_begins (hrule : (rule, alternatives) ∈ flat.rules)
    (halt : front ++ .nonTerminal name :: rest ∈ alternatives) (h : flat.Begins t rest) :
    flat.Follows t name :=
  @Follows.inside flat t ⟨rule, name, rest⟩ (mem_occurrences_iff.mpr ⟨_, hrule, _, halt⟩) h

/-- Behind an occurrence with a vanishing rest stands what stands behind its rule. -/
theorem Follows.of_vanishes (hrule : (rule, alternatives) ∈ flat.rules)
    (halt : front ++ .nonTerminal name :: rest ∈ alternatives) (h : flat.Vanishes rest)
    (hfollows : flat.Follows t rule) : flat.Follows t name :=
  @Follows.behind flat t ⟨rule, name, rest⟩ (mem_occurrences_iff.mpr ⟨_, hrule, _, halt⟩) h hfollows

theorem Follows.mem_terminals (h : flat.Follows t name) : t ∈ flat.terminals := by
  induction h with
  | start heq => exact mem_terminals_iff.mpr (Or.inl heq)
  | inside hmem hbegins =>
    rcases hbegins.mem with htail | hsymbol
    · have hsymbol := symbols_of_mem_occurrences hmem _ (List.mem_cons_of_mem _ htail)
      exact mem_terminals_iff.mpr (Or.inr ⟨hbegins.ne_empty, hsymbol⟩)
    · exact mem_terminals_iff.mpr (Or.inr ⟨hbegins.ne_empty, hsymbol⟩)
  | behind _ _ _ ih => exact ih

theorem Follows.ne_empty (h : flat.Follows t name) : t ≠ .empty := by
  rcases mem_terminals_iff.mp h.mem_terminals with rfl | ⟨hne, _⟩
  · simp
  · exact hne

/-! ## The computed sets -/

theorem mem_followAdded {occurrence : Occurrence} :
    t ∈ followAdded flat.firstTable follow occurrence ↔
      flat.Begins t occurrence.tail ∨
        (flat.Vanishes occurrence.tail ∧ t ∈ follow.setOf occurrence.rule) := by
  simp only [followAdded]
  split
  · rename_i hempty
    have hvanishes := empty_mem_firstOf_iff.mp (Std.ExtTreeSet.contains_iff_mem.mp hempty)
    rw [Std.ExtTreeSet.mem_union_iff, TerminalSet.mem_erase_iff]
    simp only [hvanishes, true_and]
    refine or_congr ⟨fun h => (mem_firstOf_iff h.1).mp h.2, fun h => ?_⟩ Iff.rfl
    exact ⟨h.ne_empty, (mem_firstOf_iff h.ne_empty).mpr h⟩
  · rename_i hempty
    have hvanishes : ¬ flat.Vanishes occurrence.tail := fun h =>
      hempty (Std.ExtTreeSet.contains_iff_mem.mpr (empty_mem_firstOf_iff.mpr h))
    simp only [hvanishes, false_and, or_false]
    by_cases hne : t = .empty
    · subst hne
      exact ⟨fun h => absurd (empty_mem_firstOf_iff.mp h) hvanishes, fun h => absurd rfl h.ne_empty⟩
    · exact mem_firstOf_iff hne

/-- Every member of a set can stand behind the non-terminal. -/
def FollowSound (flat : Flat) (follow : SetTable) : Prop :=
  ∀ name, ∀ t ∈ follow.setOf name, flat.Follows t name

theorem FollowSound.grow (h : flat.FollowSound follow) {occurrence : Occurrence}
    (hmem : occurrence ∈ flat.occurrences) :
    flat.FollowSound (follow.grow occurrence.name (followAdded flat.firstTable follow occurrence)).1 := by
  intro name t ht
  rcases SetTable.mem_grow.mp ht with hold | ⟨rfl, hnew⟩
  · exact h name t hold
  · rcases mem_followAdded.mp hnew with hbegins | ⟨hvanishes, hrule⟩
    · exact .inside hmem hbegins
    · exact .behind hmem hvanishes (h _ t hrule)

theorem FollowSound.pass (h : flat.FollowSound follow) :
    flat.FollowSound (flat.followPass flat.firstTable follow).1 :=
  SetTable.growAll_induction (fun _ _ hmem hsound => hsound.grow hmem) h

/-- The table before the first pass. -/
theorem mem_followStart :
    t ∈ SetTable.setOf ((∅ : SetTable).insert flat.start {.endOfInput}) name ↔
      flat.start = name ∧ t = .endOfInput := by
  rw [SetTable.setOf_insert]
  split
  · rename_i heq
    rw [TerminalSet.mem_singleton_iff]
    simp only [heq, true_and]
  · rename_i hne
    simp [hne]

theorem followSound_start :
    flat.FollowSound ((∅ : SetTable).insert flat.start {.endOfInput}) := by
  intro name t ht
  obtain ⟨rfl, heq⟩ := mem_followStart.mp ht
  exact .start heq

theorem followTable_sound (flat : Flat) : flat.FollowSound (flat.followTable flat.firstTable) :=
  SetTable.iterate_induction (fun _ h => h.pass) _ followSound_start

/-- A further pass reports no change. -/
theorem followPass_unchanged (flat : Flat) :
    (flat.followPass flat.firstTable (flat.followTable flat.firstTable)).2 = false := by
  refine SetTable.iterate_unchanged (P := flat.FollowSound) flat.names.toList
    (flat.names.size * flat.terminals.size) (fun _ h => h.pass)
    (fun _ h => (SetTable.growAll_unchanged h).1) ?_ ?_ _ followSound_start ?_
  · intro table h
    obtain ⟨occurrence, hmem, t, hnot, hin⟩ := SetTable.growAll_changed h
    refine SetTable.volume_lt SetTable.growAll_below ?_ hnot hin
    have hname := symbols_of_mem_occurrences hmem _ List.mem_cons_self
    rw [Std.ExtTreeSet.mem_toList]
    unfold names
    rw [Std.ExtTreeSet.mem_ofList, List.contains_iff_mem]
    exact List.mem_append_right _ (List.mem_filterMap.mpr ⟨_, hname, rfl⟩)
  · intro table h
    have := SetTable.volume_le flat.names.toList fun name _ =>
      TerminalSet.size_le_of_subset fun t ht => (h name t ht).mem_terminals
    rwa [Std.ExtTreeSet.length_toList] at this
  · unfold followBound
    omega

theorem start_below_followTable (flat : Flat) :
    .endOfInput ∈ SetTable.setOf (flat.followTable flat.firstTable) flat.start := by
  refine SetTable.iterate_induction (P := fun table => .endOfInput ∈ table.setOf flat.start)
    (fun table h => SetTable.growAll_below _ _ h) _ ?_
  exact mem_followStart.mpr ⟨rfl, rfl⟩

/-- **A computed set holds exactly the terminals that can stand behind its non-terminal.** -/
theorem mem_followTable_iff :
    t ∈ (flat.followTable flat.firstTable).setOf name ↔ flat.Follows t name := by
  constructor
  · exact flat.followTable_sound name t
  · intro h
    have hclosed := (SetTable.growAll_unchanged flat.followPass_unchanged).2
    induction h with
    | start heq =>
      rw [heq]
      exact flat.start_below_followTable
    | inside hmem hbegins => exact hclosed _ hmem t (mem_followAdded.mpr (Or.inl hbegins))
    | behind hmem hvanishes _ ih =>
      exact hclosed _ hmem t (mem_followAdded.mpr (Or.inr ⟨hvanishes, ih⟩))

end AttributeGrammar.Flat
