import AttributeGrammar.Analysis.First
import AttributeGrammar.Proofs.Analysis.Tables

/-!
# FIRST sets hold exactly the terminals that can begin a sequence

The end of the input behaves as in the tables: it begins a sequence, and it may also be left out.

* `Flat.Vanishes` — a sequence of symbols derives nothing.
* `Flat.Begins` — a sequence of symbols derives something that begins with a terminal.
* `Flat.firstTable_closed` — the passes over the rules end with a table that no rule can enlarge.
* `Flat.empty_mem_firstOf_iff`, `Flat.mem_firstOf_iff` — the computed FIRST set of every sequence
  is described exactly by the two relations.
-/

set_option autoImplicit false

namespace AttributeGrammar

namespace Flat

variable {flat : Flat} {t : Terminal} {symbols front rest : List Symbol}

/-- The symbols derive nothing; the end of the input may be left out. -/
inductive Vanishes (flat : Flat) : List Symbol → Prop where
  | nil : Vanishes flat []
  | empty {rest : List Symbol} : Vanishes flat rest → Vanishes flat (.terminal .empty :: rest)
  | endOfInput {rest : List Symbol} :
      Vanishes flat rest → Vanishes flat (.terminal .endOfInput :: rest)
  | nonTerminal {rule : String × List (List Symbol)} {alternative rest : List Symbol} :
      rule ∈ flat.rules → alternative ∈ rule.2 → Vanishes flat alternative →
      Vanishes flat rest → Vanishes flat (.nonTerminal rule.1 :: rest)

/-- The symbols derive something that begins with `t`. -/
inductive Begins (flat : Flat) (t : Terminal) : List Symbol → Prop where
  | terminal {rest : List Symbol} : t ≠ .empty → Begins flat t (.terminal t :: rest)
  | nonTerminal {rule : String × List (List Symbol)} {alternative rest : List Symbol} :
      rule ∈ flat.rules → alternative ∈ rule.2 → Begins flat t alternative →
      Begins flat t (.nonTerminal rule.1 :: rest)
  | skip {symbol : Symbol} {rest : List Symbol} :
      Vanishes flat [symbol] → Begins flat t rest → Begins flat t (symbol :: rest)

/-! ## The two relations -/

theorem vanishes_cons_iff {symbol : Symbol} :
    flat.Vanishes (symbol :: rest) ↔ flat.Vanishes [symbol] ∧ flat.Vanishes rest := by
  constructor
  · intro h
    cases h with
    | empty h => exact ⟨.empty .nil, h⟩
    | endOfInput h => exact ⟨.endOfInput .nil, h⟩
    | nonTerminal hrule halt hbody h => exact ⟨.nonTerminal hrule halt hbody .nil, h⟩
  · rintro ⟨hone, hrest⟩
    cases hone with
    | empty => exact .empty hrest
    | endOfInput => exact .endOfInput hrest
    | nonTerminal hrule halt hbody => exact .nonTerminal hrule halt hbody hrest

theorem vanishes_append_iff :
    flat.Vanishes (front ++ rest) ↔ flat.Vanishes front ∧ flat.Vanishes rest := by
  induction front with
  | nil => simp [Vanishes.nil]
  | cons symbol front ih =>
    rw [List.cons_append, vanishes_cons_iff, ih, @vanishes_cons_iff flat front, and_assoc]

/-- A non-terminal vanishes by one of its alternatives. -/
theorem vanishes_nonTerminal_iff {name : String} :
    flat.Vanishes [.nonTerminal name] ↔
      ∃ alternatives, (name, alternatives) ∈ flat.rules ∧
        ∃ alternative ∈ alternatives, flat.Vanishes alternative := by
  constructor
  · rintro (_ | _ | _ | ⟨hrule, halt, hbody, _⟩)
    exact ⟨_, hrule, _, halt, hbody⟩
  · rintro ⟨alternatives, hrule, alternative, halt, hbody⟩
    exact .nonTerminal hrule halt hbody .nil

/-- A terminal that vanishes is the marker or the end of the input. -/
theorem eq_of_vanishes_terminal (h : flat.Vanishes [.terminal t]) : t = .empty ∨ t = .endOfInput := by
  cases h with
  | empty => exact Or.inl rfl
  | endOfInput => exact Or.inr rfl

theorem Begins.ne_empty (h : flat.Begins t symbols) : t ≠ .empty := by
  induction h with
  | terminal hne => exact hne
  | nonTerminal _ _ _ ih => exact ih
  | skip _ _ ih => exact ih

theorem begins_nil : ¬ flat.Begins t [] := by
  intro h
  cases h

theorem begins_cons_iff {symbol : Symbol} :
    flat.Begins t (symbol :: rest) ↔
      flat.Begins t [symbol] ∨ (flat.Vanishes [symbol] ∧ flat.Begins t rest) := by
  constructor
  · intro h
    cases h with
    | terminal hne => exact Or.inl (.terminal hne)
    | nonTerminal hrule halt hbody => exact Or.inl (.nonTerminal hrule halt hbody)
    | skip hvanishes hrest => exact Or.inr ⟨hvanishes, hrest⟩
  · rintro (h | ⟨hvanishes, hrest⟩)
    · cases h with
      | terminal hne => exact .terminal hne
      | nonTerminal hrule halt hbody => exact .nonTerminal hrule halt hbody
      | skip _ hnil => exact absurd hnil begins_nil
    · exact .skip hvanishes hrest

theorem begins_append_iff :
    flat.Begins t (front ++ rest) ↔
      flat.Begins t front ∨ (flat.Vanishes front ∧ flat.Begins t rest) := by
  induction front with
  | nil => simp [begins_nil, Vanishes.nil]
  | cons symbol front ih =>
    rw [List.cons_append, begins_cons_iff, ih, @begins_cons_iff flat t front,
      @vanishes_cons_iff flat front]
    tauto

/-- A non-terminal begins as one of its alternatives does. -/
theorem begins_nonTerminal_iff {name : String} :
    flat.Begins t [.nonTerminal name] ↔
      ∃ alternatives, (name, alternatives) ∈ flat.rules ∧
        ∃ alternative ∈ alternatives, flat.Begins t alternative := by
  constructor
  · rintro (_ | ⟨hrule, halt, hbody⟩ | ⟨_, hnil⟩)
    · exact ⟨_, hrule, _, halt, hbody⟩
    · exact absurd hnil begins_nil
  · rintro ⟨alternatives, hrule, alternative, halt, hbody⟩
    exact .nonTerminal hrule halt hbody

theorem begins_terminal_iff {s : Terminal} :
    flat.Begins t [.terminal s] ↔ t = s ∧ t ≠ .empty := by
  constructor
  · intro h
    cases h with
    | terminal hne => exact ⟨rfl, hne⟩
    | skip _ hnil => exact absurd hnil begins_nil
  · rintro ⟨rfl, hne⟩
    exact .terminal hne

/-- A terminal that begins something derived occurs in the grammar or in the sequence itself. -/
theorem Begins.mem (h : flat.Begins t symbols) :
    .terminal t ∈ symbols ∨ .terminal t ∈ flat.symbols := by
  induction h with
  | terminal => exact Or.inl List.mem_cons_self
  | @nonTerminal rule alternative _ hrule halt _ ih =>
    right
    rcases ih with hmem | hmem
    · exact List.mem_flatMap.mpr ⟨rule, hrule, List.mem_flatten.mpr ⟨alternative, halt, hmem⟩⟩
    · exact hmem
  | skip _ _ ih =>
    rcases ih with hmem | hmem
    · exact Or.inl (List.mem_cons_of_mem _ hmem)
    · exact Or.inr hmem

theorem mem_terminals_iff :
    t ∈ flat.terminals ↔ t = .endOfInput ∨ (t ≠ .empty ∧ .terminal t ∈ flat.symbols) := by
  unfold terminals
  rw [Std.ExtTreeSet.mem_ofList, List.contains_iff_mem, List.mem_cons, List.mem_filterMap]
  refine or_congr Iff.rfl ⟨?_, ?_⟩
  · rintro ⟨symbol, hmem, hproper⟩
    cases symbol with
    | nonTerminal name => cases hproper
    | terminal s => cases s <;> cases hproper <;> exact ⟨by simp, hmem⟩
  · rintro ⟨hne, hmem⟩
    refine ⟨_, hmem, ?_⟩
    cases t with
    | empty => exact absurd rfl hne
    | _ => rfl

/-! ## Membership in computed sets -/

variable {table : SetTable}

theorem mem_firstOf_nil : t ∈ firstOf table [] ↔ t = .empty := TerminalSet.mem_singleton_iff

theorem mem_firstOf_cons {symbol : Symbol} :
    t ∈ firstOf table (symbol :: rest) ↔
      (t ≠ .empty ∧ t ∈ firstOfSymbol table symbol) ∨
        (.empty ∈ firstOfSymbol table symbol ∧ t ∈ firstOf table rest) := by
  conv => lhs; unfold firstOf
  simp only [Std.ExtTreeSet.contains_iff_mem]
  split
  · rename_i hempty
    rw [Std.ExtTreeSet.mem_union_iff, TerminalSet.mem_erase_iff]
    simp only [hempty, true_and]
  · rename_i hempty
    constructor
    · intro h
      exact Or.inl ⟨fun heq => hempty (heq ▸ h), h⟩
    · rintro (⟨_, h⟩ | ⟨h, _⟩)
      · exact h
      · exact absurd h hempty

theorem mem_firstOfSymbol_terminal {s : Terminal} :
    t ∈ firstOfSymbol table (.terminal s) ↔ t = s ∨ (s = .endOfInput ∧ t = .empty) := by
  cases s with
  | endOfInput =>
    simp only [firstOfSymbol, Insert.insert, TerminalSet.mem_insert_iff, TerminalSet.mem_singleton_iff]
    simp
  | _ =>
    simp only [firstOfSymbol, TerminalSet.mem_singleton_iff]
    simp

theorem mem_firstOfAny {alternatives : List (List Symbol)} :
    t ∈ firstOfAny table alternatives ↔ ∃ alternative ∈ alternatives, t ∈ firstOf table alternative := by
  suffices ∀ (alternatives : List (List Symbol)) (set : TerminalSet),
      t ∈ alternatives.foldl (fun set symbols => set ∪ firstOf table symbols) set ↔
        t ∈ set ∨ ∃ alternative ∈ alternatives, t ∈ firstOf table alternative by
    unfold firstOfAny
    rw [this]
    simp
  intro alternatives
  induction alternatives with
  | nil => simp
  | cons alternative alternatives ih =>
    intro set
    rw [List.foldl_cons, ih, Std.ExtTreeSet.mem_union_iff]
    simp [or_assoc]

/-! ## Soundness -/

/-- Every member of a set is justified by a derivation. -/
structure FirstSound (flat : Flat) (table : SetTable) : Prop where
  empty : ∀ name, .empty ∈ table.setOf name → flat.Vanishes [.nonTerminal name]
  begins : ∀ name t, t ≠ .empty → t ∈ table.setOf name → flat.Begins t [.nonTerminal name]

theorem FirstSound.vanishes_of_symbol (h : flat.FirstSound table) {symbol : Symbol}
    (hmem : .empty ∈ firstOfSymbol table symbol) : flat.Vanishes [symbol] := by
  cases symbol with
  | nonTerminal name => exact h.empty name hmem
  | terminal s =>
    rcases mem_firstOfSymbol_terminal.mp hmem with rfl | ⟨rfl, _⟩
    · exact .empty .nil
    · exact .endOfInput .nil

theorem FirstSound.begins_of_symbol (h : flat.FirstSound table) {symbol : Symbol} (hne : t ≠ .empty)
    (hmem : t ∈ firstOfSymbol table symbol) : flat.Begins t [symbol] := by
  cases symbol with
  | nonTerminal name => exact h.begins name t hne hmem
  | terminal s =>
    rcases mem_firstOfSymbol_terminal.mp hmem with rfl | ⟨_, rfl⟩
    · exact .terminal hne
    · exact absurd rfl hne

theorem FirstSound.vanishes (h : flat.FirstSound table) :
    ∀ {symbols : List Symbol}, .empty ∈ firstOf table symbols → flat.Vanishes symbols
  | [], _ => .nil
  | symbol :: rest, hmem => by
    rcases mem_firstOf_cons.mp hmem with ⟨hne, _⟩ | ⟨hfirst, hrest⟩
    · exact absurd rfl hne
    · exact vanishes_cons_iff.mpr ⟨h.vanishes_of_symbol hfirst, h.vanishes hrest⟩

theorem FirstSound.begins_of_mem (h : flat.FirstSound table) (hne : t ≠ .empty) :
    ∀ {symbols : List Symbol}, t ∈ firstOf table symbols → flat.Begins t symbols
  | [], hmem => absurd (mem_firstOf_nil.mp hmem) hne
  | symbol :: rest, hmem => by
    rcases mem_firstOf_cons.mp hmem with ⟨_, hfirst⟩ | ⟨hfirst, hrest⟩
    · exact begins_cons_iff.mpr (Or.inl (h.begins_of_symbol hne hfirst))
    · exact .skip (h.vanishes_of_symbol hfirst) (h.begins_of_mem hne hrest)

theorem firstSound_empty : flat.FirstSound ∅ :=
  ⟨fun _ h => by simp at h, fun _ _ _ h => by simp at h⟩

/-- Growing the set of one rule by what its alternatives begin with keeps the table sound. -/
theorem FirstSound.grow (h : flat.FirstSound table) {rule : String × List (List Symbol)}
    (hrule : rule ∈ flat.rules) :
    flat.FirstSound (table.grow rule.1 (firstOfAny table rule.2)).1 := by
  constructor
  · intro name hmem
    rcases SetTable.mem_grow.mp hmem with hold | ⟨rfl, hnew⟩
    · exact h.empty name hold
    · obtain ⟨alternative, halt, hfirst⟩ := mem_firstOfAny.mp hnew
      exact .nonTerminal hrule halt (h.vanishes hfirst) .nil
  · intro name t hne hmem
    rcases SetTable.mem_grow.mp hmem with hold | ⟨rfl, hnew⟩
    · exact h.begins name t hne hold
    · obtain ⟨alternative, halt, hfirst⟩ := mem_firstOfAny.mp hnew
      exact .nonTerminal hrule halt (h.begins_of_mem hne hfirst)

theorem FirstSound.pass (h : flat.FirstSound table) : flat.FirstSound (flat.firstPass table).1 :=
  SetTable.growAll_induction (fun _ _ hrule hsound => hsound.grow hrule) h

theorem firstTable_sound (flat : Flat) : flat.FirstSound flat.firstTable :=
  SetTable.iterate_induction (fun _ h => h.pass) _ firstSound_empty

/-! ## The passes end -/

theorem FirstSound.size_le (h : flat.FirstSound table) (name : String) :
    (table.setOf name).size ≤ flat.terminals.size + 1 := by
  have hsub : ∀ t ∈ table.setOf name, t ∈ flat.terminals.insert .empty := by
    intro t hmem
    rw [TerminalSet.mem_insert_iff]
    by_cases hne : t = .empty
    · exact Or.inl hne
    · right
      rcases (h.begins name t hne hmem).mem with hself | hsymbol
      · simp at hself
      · exact mem_terminals_iff.mpr (Or.inr ⟨hne, hsymbol⟩)
  exact (TerminalSet.size_le_of_subset hsub).trans Std.ExtTreeSet.size_insert_le

/-- No rule can enlarge its set. -/
def FirstClosed (flat : Flat) (table : SetTable) : Prop :=
  ∀ rule ∈ flat.rules, ∀ alternative ∈ rule.2, ∀ t ∈ firstOf table alternative, t ∈ table.setOf rule.1

/-- A further pass reports no change. -/
theorem firstPass_unchanged (flat : Flat) : (flat.firstPass flat.firstTable).2 = false := by
  refine SetTable.iterate_unchanged (P := flat.FirstSound) (flat.rules.map Prod.fst)
    (flat.rules.length * (flat.terminals.size + 1)) (fun _ h => h.pass)
    (fun _ h => (SetTable.growAll_unchanged h).1) ?_ ?_ _ firstSound_empty ?_
  · intro table h
    obtain ⟨rule, hrule, t, hnot, hin⟩ := SetTable.growAll_changed h
    exact SetTable.volume_lt SetTable.growAll_below (List.mem_map_of_mem hrule) hnot hin
  · intro table h
    have := SetTable.volume_le (flat.rules.map Prod.fst) fun name _ => h.size_le name
    rwa [List.length_map] at this
  · unfold firstBound
    omega

theorem firstTable_closed (flat : Flat) : flat.FirstClosed flat.firstTable := by
  intro rule hrule alternative halt t ht
  have hpass := (SetTable.growAll_unchanged flat.firstPass_unchanged).2 rule hrule
  exact hpass t (mem_firstOfAny.mpr ⟨alternative, halt, ht⟩)

/-! ## Completeness -/

theorem FirstClosed.empty_mem (h : flat.FirstClosed table) (hv : flat.Vanishes symbols) :
    .empty ∈ firstOf table symbols := by
  induction hv with
  | nil => exact mem_firstOf_nil.mpr rfl
  | empty _ ih =>
    exact mem_firstOf_cons.mpr (Or.inr ⟨mem_firstOfSymbol_terminal.mpr (Or.inl rfl), ih⟩)
  | endOfInput _ ih =>
    exact mem_firstOf_cons.mpr (Or.inr ⟨mem_firstOfSymbol_terminal.mpr (Or.inr ⟨rfl, rfl⟩), ih⟩)
  | nonTerminal hrule halt _ _ ihbody ihrest =>
    exact mem_firstOf_cons.mpr (Or.inr ⟨h _ hrule _ halt _ ihbody, ihrest⟩)

theorem FirstClosed.mem (h : flat.FirstClosed table) (hb : flat.Begins t symbols) :
    t ∈ firstOf table symbols := by
  induction hb with
  | terminal hne =>
    exact mem_firstOf_cons.mpr (Or.inl ⟨hne, mem_firstOfSymbol_terminal.mpr (Or.inl rfl)⟩)
  | nonTerminal hrule halt hbody ih =>
    exact mem_firstOf_cons.mpr (Or.inl ⟨hbody.ne_empty, h _ hrule _ halt _ ih⟩)
  | @skip symbol rest hv hrest ih =>
    rcases mem_firstOf_cons.mp (h.empty_mem hv) with ⟨hne, _⟩ | ⟨hempty, _⟩
    · exact absurd rfl hne
    · exact mem_firstOf_cons.mpr (Or.inr ⟨hempty, ih⟩)

/-- **The marker is in a computed set exactly when the sequence can derive nothing.** -/
theorem empty_mem_firstOf_iff : .empty ∈ firstOf flat.firstTable symbols ↔ flat.Vanishes symbols :=
  ⟨flat.firstTable_sound.vanishes, flat.firstTable_closed.empty_mem⟩

/-- **Any other terminal is in a computed set exactly when the sequence can begin with it.** -/
theorem mem_firstOf_iff (hne : t ≠ .empty) :
    t ∈ firstOf flat.firstTable symbols ↔ flat.Begins t symbols :=
  ⟨flat.firstTable_sound.begins_of_mem hne, flat.firstTable_closed.mem⟩

end Flat

end AttributeGrammar
