import AttributeGrammar.Proofs.Analysis.Conflict
import AttributeGrammar.Proofs.Language.Rewriting

/-!
# FIRST and FOLLOW sets hold exactly what derivations show

The two relations that describe the computed sets are those of derivations in which the end of the input
stands behind every alternative of the start rule.

* `Grammar.vanishes_iff_derives`, `Grammar.begins_iff_derives`, `Grammar.follows_iff_trails` — what vanishes,
  begins and follows, by derivations.
* `Analysis.Serves` — an analysis after any questions.
* `Analysis.getFirst_exact` — a FIRST set holds the terminals that begin what a sequence derives, and the
  marker if the sequence derives nothing.
* `Analysis.getFollow_exact` — a FOLLOW set holds the terminals that stand behind a name in what rules derive.
-/

set_option autoImplicit false

namespace AttributeGrammar

namespace Grammar

variable {grammar : Grammar} {a b symbols front back tail body : List Symbol} {symbol : Symbol}
  {t : Terminal} {name origin : String}

/-! ## The relations on sequences -/

theorem vanishes_eraseEmpty {flat : Flat} :
    flat.Vanishes (eraseTerminal .empty symbols) ↔ flat.Vanishes symbols := by
  induction symbols with
  | nil => rfl
  | cons symbol rest ih =>
    by_cases hempty : symbol = .terminal .empty
    · subst hempty
      rw [eraseTerminal_cons_self, ih, Flat.vanishes_cons_iff]
      exact (and_iff_right (.empty .nil)).symm
    · rw [eraseTerminal, List.filter_cons_of_pos (by simpa using hempty), ← eraseTerminal,
        Flat.vanishes_cons_iff, ih, ← Flat.vanishes_cons_iff]

theorem begins_eraseEmpty {flat : Flat} :
    flat.Begins t (eraseTerminal .empty symbols) ↔ flat.Begins t symbols := by
  induction symbols with
  | nil => rfl
  | cons symbol rest ih =>
    rw [Flat.begins_cons_iff]
    by_cases hempty : symbol = .terminal .empty
    · subst hempty
      rw [eraseTerminal_cons_self, ih]
      have hnot : ¬ flat.Begins t [.terminal .empty] := fun h =>
        (Flat.begins_terminal_iff.mp h).2 (Flat.begins_terminal_iff.mp h).1
      have hvanishes : flat.Vanishes [.terminal .empty] := .empty .nil
      simp only [hnot, hvanishes, false_or, true_and]
    · rw [eraseTerminal, List.filter_cons_of_pos (by simpa using hempty), ← eraseTerminal,
        Flat.begins_cons_iff, ih]

/-- What is replaced by something that vanishes vanishes. -/
theorem vanishes_of_produces (h : grammar.ended symbol body) (hbody : grammar.flat.Vanishes body) :
    grammar.flat.Vanishes [symbol] := by
  rcases h with ⟨rule, hrule, alternative, halt, rfl, rfl⟩ | ⟨rfl, rfl⟩
  · exact .nonTerminal (rule_mem_flat hrule) (List.mem_map_of_mem halt) (vanishes_eraseEmpty.mp hbody) .nil
  · exact .endOfInput .nil

/-- What is replaced by something that begins with a terminal begins with it. -/
theorem begins_of_produces (h : grammar.ended symbol body) (hbody : grammar.flat.Begins t body) :
    grammar.flat.Begins t [symbol] := by
  rcases h with ⟨rule, hrule, alternative, halt, rfl, rfl⟩ | ⟨rfl, rfl⟩
  · exact .nonTerminal (rule_mem_flat hrule) (List.mem_map_of_mem halt) (begins_eraseEmpty.mp hbody)
  · exact absurd hbody Flat.begins_nil

theorem vanishes_of_rewrites (h : grammar.ended.Rewrites a b) (hb : grammar.flat.Vanishes b) :
    grammar.flat.Vanishes a := by
  cases h with
  | replace front back hproduces =>
    rw [Flat.vanishes_append_iff, Flat.vanishes_append_iff] at hb
    obtain ⟨⟨hfront, hbody⟩, hback⟩ := hb
    rw [Flat.vanishes_append_iff, Flat.vanishes_cons_iff]
    exact ⟨hfront, vanishes_of_produces hproduces hbody, hback⟩

theorem begins_of_rewrites (h : grammar.ended.Rewrites a b) (hb : grammar.flat.Begins t b) :
    grammar.flat.Begins t a := by
  cases h with
  | replace front back hproduces =>
    rw [Flat.begins_append_iff, Flat.begins_append_iff, Flat.vanishes_append_iff] at hb
    rw [Flat.begins_append_iff, Flat.begins_cons_iff]
    rcases hb with (hfront | ⟨hfront, hbody⟩) | ⟨⟨hfront, hbody⟩, hback⟩
    · exact Or.inl hfront
    · exact Or.inr ⟨hfront, Or.inl (begins_of_produces hproduces hbody)⟩
    · exact Or.inr ⟨hfront, Or.inr ⟨vanishes_of_produces hproduces hbody, hback⟩⟩

theorem derives_of_vanishes (h : grammar.flat.Vanishes symbols) :
    grammar.ended.Derives (eraseTerminal .empty symbols) [] := by
  induction h with
  | nil => exact .refl _
  | empty _ ih => simpa using ih
  | endOfInput _ ih =>
    rw [eraseTerminal_cons_of_ne (by simp)]
    exact ended_endOfInput.append ih
  | nonTerminal hrule halt _ _ ihbody ihrest =>
    rw [eraseTerminal_cons_nonTerminal]
    exact ((ended_of_mem_flat hrule halt).trans ihbody).append ihrest

theorem derives_of_begins (h : grammar.flat.Begins t symbols) :
    ∃ rest, grammar.ended.Derives (eraseTerminal .empty symbols) (.terminal t :: rest) := by
  induction h with
  | @terminal rest hne =>
    rw [eraseTerminal_cons_of_ne hne]
    exact ⟨_, .refl _⟩
  | @nonTerminal _ _ rest hrule halt _ ih =>
    obtain ⟨more, hbody⟩ := ih
    have hname := (ended_of_mem_flat hrule halt).trans hbody
    rw [eraseTerminal_cons_nonTerminal]
    exact ⟨_, hname.append (.refl (eraseTerminal .empty rest))⟩
  | @skip symbol rest hvanishes _ ih =>
    obtain ⟨more, hrest⟩ := ih
    have hsymbol := derives_of_vanishes hvanishes
    rw [← List.singleton_append, eraseTerminal_append]
    exact ⟨more, hsymbol.append hrest⟩

/-- **A sequence vanishes exactly when it derives nothing.** -/
theorem vanishes_iff_derives :
    grammar.flat.Vanishes symbols ↔ grammar.ended.Derives (eraseTerminal .empty symbols) [] := by
  refine ⟨derives_of_vanishes, fun h => vanishes_eraseEmpty.mp ?_⟩
  exact h.reflects (P := grammar.flat.Vanishes) (fun _ _ => vanishes_of_rewrites) .nil

/-- **A sequence begins with a terminal exactly when it derives something that does.** -/
theorem begins_iff_derives (hne : t ≠ .empty) : grammar.flat.Begins t symbols ↔
    ∃ rest, grammar.ended.Derives (eraseTerminal .empty symbols) (.terminal t :: rest) := by
  refine ⟨derives_of_begins, fun ⟨rest, h⟩ => begins_eraseEmpty.mp ?_⟩
  exact h.reflects (P := grammar.flat.Begins t) (fun _ _ => begins_of_rewrites) (.terminal hne)

/-! ## What stands behind a name -/

/-- What stands behind the names in a sequence that comes from a rule is known to the analysis: what begins
the rest, and, where the rest vanishes, what stands behind the rule. -/
def Charts (grammar : Grammar) (origin : String) (symbols : List Symbol) : Prop :=
  ∀ front name back, symbols = front ++ .nonTerminal name :: back →
    (∀ t, grammar.flat.Begins t back → grammar.flat.Follows t name) ∧
      (grammar.flat.Vanishes back → ∀ t, grammar.flat.Follows t origin → grammar.flat.Follows t name)

theorem charts_origin : grammar.Charts origin [.nonTerminal origin] := by
  intro front name back heq
  rcases front with _ | ⟨symbol, front⟩
  · cases heq
    exact ⟨fun _ h => absurd h Flat.begins_nil, fun _ _ h => h⟩
  · simp at heq

/-- A symbol that stands in two sequences in a row stands in one of them. -/
theorem append_eq_split (h : a ++ b = front ++ symbol :: back) :
    (∃ rest, a = front ++ symbol :: rest ∧ back = rest ++ b) ∨
      ∃ rest, front = a ++ rest ∧ b = rest ++ symbol :: back := by
  rcases List.append_eq_append_iff.mp h with ⟨rest, rfl, rfl⟩ | ⟨rest, rfl, heq⟩
  · exact Or.inr ⟨rest, rfl, rfl⟩
  · cases rest with
    | nil => exact Or.inr ⟨[], by simp, heq.symm⟩
    | cons first rest =>
      obtain ⟨rfl, rfl⟩ := List.cons.inj heq
      exact Or.inl ⟨rest, rfl, rfl⟩

/-- A symbol that is left when a terminal is erased stood before what is left of its rest. -/
theorem exists_of_eraseTerminal_eq {s : Terminal}
    (h : eraseTerminal s symbols = front ++ symbol :: back) :
    ∃ before after, symbols = before ++ symbol :: after ∧ eraseTerminal s after = back := by
  obtain ⟨outer, inner, rfl, -, hinner⟩ := List.filter_eq_append_iff.mp h
  obtain ⟨before, after, rfl, -, -, hafter⟩ := List.filter_eq_cons_iff.mp hinner
  exact ⟨outer ++ before, after, by simp, hafter⟩

/-- A name in the body of a rule is charted if the rule is. -/
theorem Charts.produces {before after : List Symbol} (ha : grammar.Charts origin (before ++ symbol :: after))
    (hproduces : grammar.ended symbol (front ++ .nonTerminal name :: back)) :
    (∀ t, grammar.flat.Begins t (back ++ after) → grammar.flat.Follows t name) ∧
      (grammar.flat.Vanishes (back ++ after) → ∀ t, grammar.flat.Follows t origin →
        grammar.flat.Follows t name) := by
  rcases hproduces with ⟨rule, hrule, alternative, halt, rfl, hbody⟩ | ⟨-, hbody⟩
  · obtain ⟨hbegins, hvanishes⟩ := ha before rule.name after rfl
    obtain ⟨outer, tail, hflat, rfl⟩ := exists_of_eraseTerminal_eq hbody.symm
    have hmem : outer ++ .nonTerminal name :: tail ∈
        rule.alternatives.map (Flat.alternative grammar.start rule.name) := by
      rw [← hflat]
      exact List.mem_map_of_mem halt
    rw [Flat.vanishes_append_iff, vanishes_eraseEmpty]
    refine ⟨fun t ht => ?_, fun ⟨htail, hafter⟩ t ht => ?_⟩
    · rw [Flat.begins_append_iff, begins_eraseEmpty, vanishes_eraseEmpty] at ht
      rcases ht with htail | ⟨htail, hafter⟩
      · exact .of_begins (rule_mem_flat hrule) hmem htail
      · exact .of_vanishes (rule_mem_flat hrule) hmem htail (hbegins t hafter)
    · exact .of_vanishes (rule_mem_flat hrule) hmem htail (hvanishes hafter t ht)
  · simp at hbody

/-- A replacement keeps what is known. -/
theorem Charts.rewrites (h : grammar.ended.Rewrites a b) (ha : grammar.Charts origin a) :
    grammar.Charts origin b := by
  cases h with
  | @replace symbol _ before after hproduces =>
    intro front name back heq
    rcases append_eq_split heq with ⟨rest, hfront, rfl⟩ | ⟨rest, rfl, rfl⟩
    · rcases append_eq_split hfront with ⟨inner, rfl, rfl⟩ | ⟨inner, rfl, rfl⟩
      · -- In front of the replaced symbol: the rest begins and vanishes as it did before.
        obtain ⟨hbegins, hvanishes⟩ := ha front name (inner ++ symbol :: after) (by simp)
        have hstep := Productions.Rewrites.replace inner after hproduces
        exact ⟨fun t ht => hbegins t (begins_of_rewrites hstep ht),
          fun hv => hvanishes (vanishes_of_rewrites hstep hv)⟩
      · exact ha.produces hproduces
    · exact ha (before ++ symbol :: rest) name back (by simp)

theorem charts_of_derives (h : grammar.ended.Derives [.nonTerminal origin] symbols) :
    grammar.Charts origin symbols :=
  h.preserves (fun _ _ => Charts.rewrites) charts_origin

/-- No derivation brings the marker for the empty string. -/
theorem empty_notMem_of_derives (h : grammar.ended.Derives a b) (ha : .terminal .empty ∉ a) :
    .terminal .empty ∉ b := by
  refine h.preserves (P := fun form => .terminal .empty ∉ form) (fun a b hstep hform => ?_) ha
  cases hstep with
  | @replace _ body front back hproduces =>
    have hbody : .terminal .empty ∉ body := by
      rcases hproduces with ⟨_, _, _, _, -, rfl⟩ | ⟨-, rfl⟩
      · exact fun hmem => (mem_eraseTerminal.mp hmem).2 rfl
      · exact List.not_mem_nil
    simp only [List.mem_append, List.mem_cons, not_or] at hform ⊢
    exact ⟨⟨hform.1, hbody⟩, hform.2.2⟩

/-- In something that a rule derives the terminal stands right behind the name; or it is the end of the
input, and the start rule derives something that ends with the name. -/
def Trails (grammar : Grammar) (t : Terminal) (name : String) : Prop :=
  (∃ rule ∈ grammar.rules, ∃ front back, grammar.ended.Derives [.nonTerminal rule.name]
      (front ++ .nonTerminal name :: .terminal t :: back)) ∨
  (t = .endOfInput ∧ ∃ front, grammar.ended.Derives [.nonTerminal grammar.start]
      (front ++ [.nonTerminal name]))

/-- The rule of an occurrence derives it. -/
theorem derives_of_occurrence {occurrence : Flat.Occurrence} (h : occurrence ∈ grammar.flat.occurrences) :
    ∃ rule ∈ grammar.rules, rule.name = occurrence.rule ∧ ∃ front,
      grammar.ended.Derives [.nonTerminal occurrence.rule]
        (front ++ .nonTerminal occurrence.name :: eraseTerminal .empty occurrence.tail) := by
  obtain ⟨alternatives, hrule, front, halt⟩ := Flat.mem_occurrences_iff.mp h
  obtain ⟨rule, hmem, hname, -⟩ := mem_flat_rules.mp hrule
  refine ⟨rule, hmem, hname, eraseTerminal .empty front, ?_⟩
  simpa using ended_of_mem_flat hrule halt

theorem trails_of_follows (h : grammar.flat.Follows t name) : grammar.Trails t name := by
  induction h with
  | start heq => exact Or.inr ⟨heq, [], .refl _⟩
  | inside hmem hbegins =>
    obtain ⟨rule, hrule, hname, front, hderives⟩ := derives_of_occurrence hmem
    obtain ⟨rest, htail⟩ := derives_of_begins hbegins
    refine Or.inl ⟨rule, hrule, front, rest, ?_⟩
    rw [hname]
    exact hderives.behind htail
  | @behind occurrence hmem hvanishes _ ih =>
    obtain ⟨_, _, -, front, hderives⟩ := derives_of_occurrence hmem
    have hrule : grammar.ended.Derives [.nonTerminal occurrence.rule]
        (front ++ [.nonTerminal occurrence.name]) := hderives.behind (derives_of_vanishes hvanishes)
    rcases ih with ⟨rule, hmem, before, back, houter⟩ | ⟨heq, before, houter⟩
    · refine Or.inl ⟨rule, hmem, before ++ front, back, ?_⟩
      simpa using houter.inside hrule
    · refine Or.inr ⟨heq, before ++ front, ?_⟩
      simpa using houter.inside hrule

/-- What stands behind a name in what a rule derives follows it. -/
theorem follows_of_beside (h : grammar.ended.Derives [.nonTerminal origin]
    (front ++ .nonTerminal name :: .terminal t :: back)) : grammar.flat.Follows t name := by
  have hne : t ≠ .empty := fun heq => empty_notMem_of_derives h (by simp) (by simp [heq])
  exact (charts_of_derives h front name _ rfl).1 t (.terminal hne)

/-- The end of the input follows a name that stands last in what the start rule derives. -/
theorem follows_of_last (h : grammar.ended.Derives [.nonTerminal grammar.start]
    (front ++ [.nonTerminal name])) : grammar.flat.Follows .endOfInput name :=
  (charts_of_derives h front name [] rfl).2 .nil .endOfInput (.start rfl)

/-- **A terminal follows a name exactly when it stands behind it in what rules derive.** -/
theorem follows_iff_trails : grammar.flat.Follows t name ↔ grammar.Trails t name := by
  refine ⟨trails_of_follows, ?_⟩
  rintro (⟨_, _, _, _, h⟩ | ⟨rfl, _, h⟩)
  · exact follows_of_beside h
  · exact follows_of_last h

/-- A sample, whose words are some "a" before as many "b". -/
def nested : Grammar where
  start := "s"
  rules := [{ Rule.new "s" with
    alternatives := [⟨[.text "a", .rule "s", .text "b"]⟩, ⟨[.regex emptyName]⟩] }]
  regexes := []
  actions := []

end Grammar

/-! ## The answers of an analysis -/

namespace Analysis

variable {grammar : Grammar} {analysis later : Analysis} {flat : Flat}

/-- The analysis `later` is left by questions to `analysis`. -/
inductive Serves (analysis : Analysis) : Analysis → Prop where
  | made : Serves analysis analysis
  | asked {later : Analysis} (symbols : List Symbol) :
      Serves analysis later → Serves analysis (getFirst symbols later).2
  | checked {later : Analysis} : Serves analysis later → Serves analysis (findConflict later).2

/-- Questions leave the tables as they are, and only answers from them are kept. -/
theorem Serves.faithful (h : analysis.Serves later) (hfaithful : analysis.Faithful flat) :
    later.Faithful flat := by
  induction h with
  | made => exact hfaithful
  | asked symbols _ ih => exact (getFirst_eq ih symbols).2
  | checked _ ih => exact (findConflict_eq ih).2

theorem exists_nested : ∃ analysis, ofGrammar .nested = .ok analysis := by
  have hok : (ofGrammar .nested).isOk := by decide +kernel
  cases h : ofGrammar .nested with
  | ok analysis => exact ⟨analysis, rfl⟩
  | error conflict => simp [h, Except.isOk, Except.toBool] at hok

/-- **The FIRST set of a sequence holds the terminals that begin what it derives, and the marker for the
empty string exactly when it derives nothing**, whatever was asked before. -/
theorem getFirst_exact (h : ofGrammar grammar = .ok analysis) (hserves : analysis.Serves later)
    (symbols : List Symbol) :
    (∀ t, t ≠ .empty → (t ∈ (getFirst symbols later).1 ↔
      ∃ rest, grammar.ended.Derives (eraseTerminal .empty symbols) (.terminal t :: rest))) ∧
    (.empty ∈ (getFirst symbols later).1 ↔
      grammar.ended.Derives (eraseTerminal .empty symbols) []) := by
  have hfaithful := hserves.faithful (faithful_of_ofGrammar h)
  rw [(getFirst_eq hfaithful symbols).1]
  refine ⟨fun t hne => ?_, ?_⟩
  · rw [Flat.mem_firstOf_iff hne, Grammar.begins_iff_derives hne]
  · rw [Flat.empty_mem_firstOf_iff, Grammar.vanishes_iff_derives]

/-- A first question to the analysis of the sample, and a second one. -/
theorem getFirst_exact_nested : ∃ analysis, ofGrammar .nested = .ok analysis ∧
    analysis.Serves (getFirst [.nonTerminal "s"] analysis).2 ∧
    (∀ t, t ≠ .empty → (t ∈ (getFirst [.nonTerminal "s", .terminal (.text "c")]
        (getFirst [.nonTerminal "s"] analysis).2).1 ↔
      ∃ rest, Grammar.nested.ended.Derives
        (eraseTerminal .empty [.nonTerminal "s", .terminal (.text "c")]) (.terminal t :: rest))) ∧
    (.empty ∈ (getFirst [.nonTerminal "s", .terminal (.text "c")]
        (getFirst [.nonTerminal "s"] analysis).2).1 ↔
      Grammar.nested.ended.Derives
        (eraseTerminal .empty [.nonTerminal "s", .terminal (.text "c")]) []) := by
  obtain ⟨analysis, h⟩ := exists_nested
  have hserves : analysis.Serves (getFirst [.nonTerminal "s"] analysis).2 := .asked _ .made
  exact ⟨analysis, h, hserves, getFirst_exact h hserves _⟩

/-- **The FOLLOW set of a name holds the terminals that stand behind it in what rules derive**, and never
the marker for the empty string. -/
theorem getFollow_exact (h : ofGrammar grammar = .ok analysis) (hserves : analysis.Serves later)
    (name : String) :
    (∀ t, t ∈ later.getFollow name ↔ grammar.Trails t name) ∧ .empty ∉ later.getFollow name := by
  have hfollow : ∀ t, t ∈ later.getFollow name ↔ grammar.flat.Follows t name := by
    intro t
    rw [getFollow, (hserves.faithful (faithful_of_ofGrammar h)).follow_eq, Flat.mem_followTable_iff]
  refine ⟨fun t => (hfollow t).trans Grammar.follows_iff_trails, fun hmem => ?_⟩
  exact ((hfollow .empty).mp hmem).ne_empty rfl

/-- The rule of the sample. -/
theorem getFollow_exact_nested : ∃ analysis, ofGrammar .nested = .ok analysis ∧ analysis.Serves analysis ∧
    (∀ t, t ∈ analysis.getFollow "s" ↔ Grammar.nested.Trails t "s") ∧
    .empty ∉ analysis.getFollow "s" := by
  obtain ⟨analysis, h⟩ := exists_nested
  exact ⟨analysis, h, .made, getFollow_exact h .made "s"⟩

end Analysis

end AttributeGrammar
