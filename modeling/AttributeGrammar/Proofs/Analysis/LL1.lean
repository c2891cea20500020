import AttributeGrammar.Proofs.Analysis.Exactness
import AttributeGrammar.Proofs.Grammar.Resolved
import Mathlib.Data.Set.Basic

/-!
# The grammars that pass the analysis are the LL(1) grammars

FIRST and FOLLOW sets are defined here by derivations of the grammar as it is written. The analysis works
on another grammar, in which the end of the input stands behind the alternatives of the start rule and may be
left out. If every rule is of use this makes no difference.

* `Grammar.firstSet`, `Grammar.followSet`, `Grammar.Nullable` — the sets, by derivations.
* `Grammar.Separates`, `Grammar.IsLL1` — one terminal ahead tells the alternatives of a rule, or of every
  rule, apart.
* `Grammar.Reduced` — every rule is reachable and derives a word.
* `Grammar.Leaks` — how the end of the input comes to begin an alternative: this derives a sequence that
  starts with the start symbol, which may be empty.
* `Grammar.exists_overlap_of_leaks` — such an alternative begins, as it is written, with something that stands
  behind its rule, unless it derives nothing itself.
* `Analysis.ofGrammar_iff_isLL1` — the analysis accepts the LL(1) grammars, and names the first rule that
  stands in the way otherwise.
-/

set_option autoImplicit false

namespace AttributeGrammar

namespace Grammar

variable {grammar : Grammar} {rule : Rule} {a b alternative : Alternative} {t : Terminal}
  {name : String} {symbols form front back rest : List Symbol}

/-! ## The condition -/

/-- The symbols derive nothing. -/
def Nullable (grammar : Grammar) (symbols : List Symbol) : Prop :=
  grammar.written.Derives (eraseTerminal .empty symbols) []

/-- The terminals that begin what the symbols derive. -/
def firstSet (grammar : Grammar) (symbols : List Symbol) : Set Terminal :=
  {t | ∃ rest, grammar.written.Derives (eraseTerminal .empty symbols) (.terminal t :: rest)}

/-- The terminals that stand right behind a name in what the start rule derives, and the end of the input if
the name can stand last. -/
def followSet (grammar : Grammar) (name : String) : Set Terminal :=
  {t | (∃ front back, grammar.written.Derives [.nonTerminal grammar.start]
      (front ++ .nonTerminal name :: .terminal t :: back)) ∨
    (t = .endOfInput ∧ ∃ front, grammar.written.Derives [.nonTerminal grammar.start]
      (front ++ [.nonTerminal name]))}

/-- One terminal ahead tells the alternatives of a rule apart: no two of them can begin with the same one or
can both be empty, and where one can be empty the other does not begin with what stands behind the rule. -/
def Separates (grammar : Grammar) (rule : Rule) : Prop :=
  ∀ (i j : Nat) (a b : Alternative), rule.alternatives[i]? = some a → rule.alternatives[j]? = some b → i ≠ j →
    grammar.firstSet a.symbols ∩ grammar.firstSet b.symbols = ∅ ∧
    ¬ (grammar.Nullable a.symbols ∧ grammar.Nullable b.symbols) ∧
    (grammar.Nullable a.symbols → grammar.followSet rule.name ∩ grammar.firstSet b.symbols = ∅)

/-- One terminal ahead tells the alternatives of every rule apart. -/
def IsLL1 (grammar : Grammar) : Prop := ∀ rule ∈ grammar.rules, grammar.Separates rule

/-- The start rule derives something in which the name stands. -/
def Reachable (grammar : Grammar) (name : String) : Prop :=
  ∃ front back, grammar.written.Derives [.nonTerminal grammar.start] (front ++ .nonTerminal name :: back)

/-- The name derives a word. -/
def Productive (grammar : Grammar) (name : String) : Prop :=
  ∃ word : List Terminal, grammar.written.Derives [.nonTerminal name] (word.map .terminal)

/-- Every rule is reachable from the start rule and derives a word. -/
structure Reduced (grammar : Grammar) : Prop where
  reachable : ∀ rule ∈ grammar.rules, grammar.Reachable rule.name
  productive : ∀ rule ∈ grammar.rules, grammar.Productive rule.name

/-- Two alternatives in this order show that a terminal ahead does not tell them apart. -/
def Overlap (grammar : Grammar) (name : String) (a b : Alternative) : Prop :=
  (∃ t ∈ grammar.firstSet a.symbols, t ∈ grammar.firstSet b.symbols) ∨
  (grammar.Nullable a.symbols ∧ grammar.Nullable b.symbols) ∨
  (grammar.Nullable a.symbols ∧ ∃ t ∈ grammar.followSet name, t ∈ grammar.firstSet b.symbols)

theorem separates_iff : grammar.Separates rule ↔ ∀ (i j : Nat) (a b : Alternative),
    rule.alternatives[i]? = some a → rule.alternatives[j]? = some b → i ≠ j →
      ¬ grammar.Overlap rule.name a b := by
  have hiff : ∀ a b : Alternative, ¬ grammar.Overlap rule.name a b ↔
      grammar.firstSet a.symbols ∩ grammar.firstSet b.symbols = ∅ ∧
      ¬ (grammar.Nullable a.symbols ∧ grammar.Nullable b.symbols) ∧
      (grammar.Nullable a.symbols →
        grammar.followSet rule.name ∩ grammar.firstSet b.symbols = ∅) := by
    intro a b
    simp only [Overlap, not_or, not_and, not_exists, Set.eq_empty_iff_forall_notMem, Set.mem_inter_iff]
  simp only [Separates, hiff]

/-! ## Forms that derive words -/

/-- Every rule that the symbols refer to is declared. -/
def Declared (grammar : Grammar) (symbols : List Symbol) : Prop :=
  ∀ name, .nonTerminal name ∈ symbols → grammar.Declares name

theorem Closed.declared (hclosed : grammar.Closed) (hrule : rule ∈ grammar.rules)
    (halt : alternative ∈ rule.alternatives) : grammar.Declared (eraseTerminal .empty alternative.symbols) :=
  fun name hname => hclosed.references rule hrule alternative halt name (mem_eraseTerminal.mp hname).1

theorem Declared.derives (hclosed : grammar.Closed) (h : grammar.written.Derives form symbols)
    (hform : grammar.Declared form) : grammar.Declared symbols := by
  refine h.preserves (P := grammar.Declared) (fun form symbols hstep hform => ?_) hform
  cases hstep with
  | replace front back hproduces =>
    obtain ⟨rule, hrule, alternative, halt, rfl, rfl⟩ := hproduces
    intro name hname
    rcases List.mem_append.mp hname with hname | hname
    · rcases List.mem_append.mp hname with hname | hname
      · exact hform name (List.mem_append_left _ hname)
      · exact hclosed.declared hrule halt name hname
    · exact hform name (List.mem_append_right _ (List.mem_cons_of_mem _ hname))

/-- Declared symbols derive a word. -/
theorem Reduced.exists_word (hreduced : grammar.Reduced) (h : grammar.Declared symbols) :
    ∃ word : List Terminal, grammar.written.Derives symbols (word.map .terminal) := by
  induction symbols with
  | nil => exact ⟨[], .refl _⟩
  | cons symbol rest ih =>
    obtain ⟨word, hrest⟩ := ih fun name hname => h name (List.mem_cons_of_mem _ hname)
    cases symbol with
    | terminal t => exact ⟨t :: word, (Productions.Derives.refl [.terminal t]).append hrest⟩
    | nonTerminal name =>
      obtain ⟨rule, hrule, rfl⟩ := List.mem_map.mp (h name List.mem_cons_self)
      obtain ⟨front, hfront⟩ := hreduced.productive rule hrule
      refine ⟨front ++ word, ?_⟩
      rw [List.map_append]
      exact hfront.append hrest

/-- Declared symbols that do not derive nothing derive something that begins with a terminal. -/
theorem Reduced.exists_first (hreduced : grammar.Reduced) (h : grammar.Declared symbols)
    (hnull : ¬ grammar.written.Derives symbols []) :
    ∃ t rest, grammar.written.Derives symbols (.terminal t :: rest) := by
  obtain ⟨word, hword⟩ := hreduced.exists_word h
  cases word with
  | nil => exact absurd hword hnull
  | cons t word => exact ⟨t, _, hword⟩

/-- If some alternative does not derive nothing, neither does the start rule always. -/
theorem Reduced.exists_first_start (hclosed : grammar.Closed) (hreduced : grammar.Reduced)
    (hrule : rule ∈ grammar.rules) (halt : alternative ∈ rule.alternatives)
    (hnull : ¬ grammar.Nullable alternative.symbols) :
    ∃ t rest, grammar.written.Derives [.nonTerminal grammar.start] (.terminal t :: rest) := by
  obtain ⟨front, back, hreach⟩ := hreduced.reachable rule hrule
  have hform : grammar.written.Derives [.nonTerminal grammar.start]
      (front ++ eraseTerminal .empty alternative.symbols ++ back) :=
    hreach.inside (written_alternative hrule halt)
  have hdeclared : grammar.Declared [.nonTerminal grammar.start] := by
    intro name hname
    cases List.mem_singleton.mp hname
    exact hclosed.start
  have hparts := hdeclared.derives hclosed hform
  obtain ⟨before, hbefore⟩ := hreduced.exists_word fun name hname =>
    hparts name (List.mem_append_left _ (List.mem_append_left _ hname))
  obtain ⟨t, rest, hfirst⟩ := hreduced.exists_first (hclosed.declared hrule halt) hnull
  have hword := hform.trans ((hbefore.append hfirst).append (.refl back))
  cases before with
  | nil => exact ⟨t, _, hword⟩
  | cons s before => exact ⟨s, _, hword⟩

/-! ## Sets as written and sets of the analysis -/

theorem ne_empty_of_derives {origin : List Symbol} (h : grammar.written.Derives origin form)
    (horigin : .terminal .empty ∉ origin) (hmem : .terminal t ∈ form) : t ≠ .empty := fun heq =>
  empty_notMem_of_derives (ended_derives_of_written h) horigin (heq ▸ hmem)

theorem empty_notMem_eraseEmpty : .terminal .empty ∉ eraseTerminal .empty symbols :=
  fun h => (mem_eraseTerminal.mp h).2 rfl

theorem begins_of_mem_firstSet (h : t ∈ grammar.firstSet symbols) : grammar.flat.Begins t symbols := by
  obtain ⟨rest, hrest⟩ := h
  exact (begins_iff_derives (ne_empty_of_derives hrest empty_notMem_eraseEmpty List.mem_cons_self)).mpr
    ⟨rest, ended_derives_of_written hrest⟩

theorem mem_firstSet_of_begins (hend : t ≠ .endOfInput)
    (h : grammar.flat.Begins t alternative.symbols) : t ∈ grammar.firstSet alternative.symbols := by
  obtain ⟨rest, hrest⟩ := derives_of_begins h
  have hwritten := written_derives_of_ended hrest
  rw [eraseEnd_eq_self (endOfInput_notMem_symbols alternative), eraseTerminal_cons_of_ne hend] at hwritten
  exact ⟨_, hwritten⟩

/-- What vanishes derives nothing once the end of the input is left out. -/
theorem written_derives_of_vanishes (h : grammar.flat.Vanishes symbols) :
    grammar.written.Derives (eraseTerminal .endOfInput (eraseTerminal .empty symbols)) [] :=
  written_derives_of_ended (derives_of_vanishes h)

theorem vanishes_iff_nullable :
    grammar.flat.Vanishes alternative.symbols ↔ grammar.Nullable alternative.symbols := by
  refine ⟨fun h => ?_, fun h => vanishes_iff_derives.mpr (ended_derives_of_written h)⟩
  have hwritten := written_derives_of_vanishes h
  rwa [eraseEnd_eq_self (endOfInput_notMem_symbols alternative)] at hwritten

theorem vanishes_alternative_iff_nullable {start : String} :
    grammar.flat.Vanishes (Flat.alternative start name alternative) ↔ grammar.Nullable alternative.symbols :=
  vanishes_alternative.trans vanishes_iff_nullable

theorem follows_of_mem_followSet (h : t ∈ grammar.followSet name) : grammar.flat.Follows t name := by
  rcases h with ⟨_, _, h⟩ | ⟨rfl, _, h⟩
  · exact follows_of_beside (ended_derives_of_written h)
  · exact follows_of_last (ended_derives_of_written h)

theorem mem_followSet_of_follows (hreduced : grammar.Reduced) (hend : t ≠ .endOfInput)
    (h : grammar.flat.Follows t name) : t ∈ grammar.followSet name := by
  rcases trails_of_follows h with ⟨rule, hrule, front, back, hinner⟩ | ⟨heq, -⟩
  · obtain ⟨before, after, hreach⟩ := hreduced.reachable rule hrule
    have hwritten := written_derives_of_ended hinner
    rw [eraseTerminal_append, eraseTerminal_cons_nonTerminal, eraseTerminal_cons_nonTerminal,
      eraseTerminal_cons_of_ne hend] at hwritten
    have houter := hreach.inside hwritten
    exact Or.inl ⟨before ++ eraseTerminal .endOfInput front, eraseTerminal .endOfInput back ++ after,
      by simpa using houter⟩
  · exact absurd heq hend

/-! ## How the end of the input enters a set -/

/-- The sequence derives one that starts with the start symbol, and this may be empty. -/
def Leaks (grammar : Grammar) (symbols : List Symbol) : Prop :=
  (∃ rest, grammar.written.Derives symbols (.nonTerminal grammar.start :: rest)) ∧
    grammar.written.Derives [.nonTerminal grammar.start] []

/-- Only behind an alternative of the start rule stands the end of the input. -/
theorem eq_of_flat_alternative {start : String}
    (h : Flat.alternative start name alternative = front ++ .terminal .endOfInput :: back) :
    name = start ∧ front = alternative.symbols ∧ back = [] := by
  have hnot : ∀ rest, alternative.symbols ≠ front ++ .terminal .endOfInput :: rest := fun rest heq =>
    endOfInput_notMem_symbols alternative (by simp [heq])
  unfold Flat.alternative at h
  split at h
  · rename_i hname
    rcases append_eq_split h with ⟨rest, heq, -⟩ | ⟨rest, hfront, heq⟩
    · exact absurd heq (hnot rest)
    · cases rest with
      | nil =>
        cases heq
        exact ⟨hname, by simpa using hfront, rfl⟩
      | cons symbol rest => simp at heq
  · exact absurd h (hnot back)

/-- A sequence that the end of the input begins has it behind what vanishes, or leaks. -/
theorem leaks_of_begins (h : grammar.flat.Begins .endOfInput symbols) :
    (∃ front back, symbols = front ++ .terminal .endOfInput :: back ∧ grammar.flat.Vanishes front) ∨
      grammar.Leaks (eraseTerminal .endOfInput (eraseTerminal .empty symbols)) := by
  induction h with
  | @terminal rest => exact Or.inl ⟨[], rest, rfl, .nil⟩
  | @nonTerminal flatRule body rest hrule halt _ ih =>
    right
    simp only [eraseTerminal_cons_nonTerminal]
    have hbody := written_derives_of_ended (ended_of_mem_flat hrule halt)
    rw [eraseTerminal_cons_nonTerminal, eraseTerminal_nil] at hbody
    rcases ih with ⟨front, back, heq, hvanishes⟩ | ⟨⟨more, hmore⟩, hnull⟩
    · obtain ⟨name, alternatives⟩ := flatRule
      obtain ⟨rule, hmem, rfl, rfl⟩ := mem_flat_rules.mp hrule
      obtain ⟨alternative, halternative, rfl⟩ := List.mem_map.mp halt
      obtain ⟨hstart, rfl, rfl⟩ := eq_of_flat_alternative heq
      have hnull := vanishes_iff_nullable.mp hvanishes
      rw [hstart]
      exact ⟨⟨_, .refl _⟩, hstart ▸ (written_alternative hmem halternative).trans hnull⟩
    · exact ⟨⟨_, (hbody.trans hmore).append (.refl _)⟩, hnull⟩
  | @skip symbol rest hvanishes _ ih =>
    rcases ih with ⟨front, back, rfl, hfront⟩ | ⟨⟨more, hmore⟩, hnull⟩
    · exact Or.inl ⟨symbol :: front, back, rfl, Flat.vanishes_cons_iff.mpr ⟨hvanishes, hfront⟩⟩
    · have hsymbol := written_derives_of_vanishes hvanishes
      rw [← List.singleton_append, eraseTerminal_append, eraseTerminal_append]
      exact Or.inr ⟨⟨more, hsymbol.append hmore⟩, hnull⟩

/-- The end of the input begins an alternative only if this leaks, or is one of the start rule that derives
nothing. -/
theorem leaks_of_begins_alternative
    (h : grammar.flat.Begins .endOfInput (Flat.alternative grammar.start name alternative)) :
    (name = grammar.start ∧ grammar.Nullable alternative.symbols) ∨
      grammar.Leaks (eraseTerminal .empty alternative.symbols) := by
  rcases leaks_of_begins h with ⟨front, back, heq, hvanishes⟩ | hleaks
  · obtain ⟨hname, rfl, -⟩ := eq_of_flat_alternative heq
    exact Or.inl ⟨hname, vanishes_iff_nullable.mp hvanishes⟩
  · rw [eraseEnd_alternative] at hleaks
    exact Or.inr hleaks

/-- The name can stand last in what the start rule derives. -/
def Ends (grammar : Grammar) (name : String) : Prop :=
  ∃ front, grammar.written.Derives [.nonTerminal grammar.start] (front ++ [.nonTerminal name])

/-- The start rule derives something in which the start symbol stands right behind the name. -/
def Precedes (grammar : Grammar) (name : String) : Prop :=
  ∃ front back, grammar.written.Derives [.nonTerminal grammar.start]
    (front ++ .nonTerminal name :: .nonTerminal grammar.start :: back)

/-- The rule of an occurrence derives it as written. -/
theorem written_of_occurrence {occurrence : Flat.Occurrence} (h : occurrence ∈ grammar.flat.occurrences) :
    ∃ rule ∈ grammar.rules, rule.name = occurrence.rule ∧ ∃ front,
      grammar.written.Derives [.nonTerminal occurrence.rule] (front ++ .nonTerminal occurrence.name ::
        eraseTerminal .endOfInput (eraseTerminal .empty occurrence.tail)) := by
  obtain ⟨rule, hrule, hname, front, hderives⟩ := derives_of_occurrence h
  have hwritten := written_derives_of_ended hderives
  rw [eraseTerminal_append, eraseTerminal_cons_nonTerminal, eraseTerminal_cons_nonTerminal] at hwritten
  exact ⟨rule, hrule, hname, _, hwritten⟩

/-- An occurrence with the end of the input in its tail is in an alternative of the start rule. -/
theorem eq_of_occurrence {occurrence : Flat.Occurrence} (h : occurrence ∈ grammar.flat.occurrences)
    (htail : occurrence.tail = front ++ .terminal .endOfInput :: back) :
    occurrence.rule = grammar.start ∧ back = [] := by
  obtain ⟨alternatives, hrule, before, halt⟩ := Flat.mem_occurrences_iff.mp h
  obtain ⟨rule, -, hname, rfl⟩ := mem_flat_rules.mp hrule
  obtain ⟨alternative, -, heq⟩ := List.mem_map.mp halt
  rw [htail, ← List.cons_append, ← List.append_assoc] at heq
  obtain ⟨hstart, -, hback⟩ := eq_of_flat_alternative heq
  exact ⟨hname ▸ hstart, hback⟩

/-- The end of the input follows a name that can stand last or right before the start symbol. -/
theorem ends_of_follows (hreduced : grammar.Reduced) (h : grammar.flat.Follows .endOfInput name) :
    grammar.Ends name ∨ grammar.Precedes name := by
  induction h with
  | start => exact Or.inl ⟨[], .refl _⟩
  | @inside occurrence hmem hbegins =>
    obtain ⟨rule, hrule, hname, front, hwritten⟩ := written_of_occurrence hmem
    rcases leaks_of_begins hbegins with ⟨before, back, htail, hvanishes⟩ | ⟨⟨rest, hrest⟩, -⟩
    · left
      obtain ⟨hstart, rfl⟩ := eq_of_occurrence hmem htail
      have hlast := written_derives_of_vanishes hvanishes
      rw [hstart, htail, eraseTerminal_append, eraseTerminal_append] at hwritten
      exact ⟨front, by simpa [eraseTerminal] using hwritten.behind (hlast.append (.refl _))⟩
    · right
      obtain ⟨before, after, hreach⟩ := hreduced.reachable rule hrule
      rw [hname] at hreach
      have houter := hreach.inside (hwritten.behind hrest)
      exact ⟨before ++ front, rest ++ after, by simpa using houter⟩
  | @behind occurrence hmem hvanishes _ ih =>
    obtain ⟨_, -, -, front, hwritten⟩ := written_of_occurrence hmem
    have hinner := hwritten.behind (written_derives_of_vanishes hvanishes)
    rcases ih with ⟨before, houter⟩ | ⟨before, back, houter⟩
    · left
      exact ⟨before ++ front, by simpa using houter.inside hinner⟩
    · right
      exact ⟨before ++ front, back, by simpa using houter.inside hinner⟩

/-! ## Alternatives that leak -/

/-- An alternative that leaks and does not derive nothing begins with something that stands behind its rule,
if the end of the input follows this rule. -/
theorem exists_overlap_of_leaks (hclosed : grammar.Closed) (hreduced : grammar.Reduced)
    (hrule : rule ∈ grammar.rules) (hb : b ∈ rule.alternatives) (hnull : ¬ grammar.Nullable b.symbols)
    (hleaks : grammar.Leaks (eraseTerminal .empty b.symbols))
    (hfollows : grammar.Ends rule.name ∨ grammar.Precedes rule.name) :
    ∃ t ∈ grammar.followSet rule.name, t ∈ grammar.firstSet b.symbols := by
  obtain ⟨⟨rest, hbody⟩, hstart⟩ := hleaks
  rcases hfollows with ⟨front, hlast⟩ | ⟨front, back, hbefore⟩
  · -- What comes behind the start symbol in the alternative comes behind the rule, which the start symbol
    -- derives last.
    have hskip : grammar.written.Derives (eraseTerminal .empty b.symbols) rest :=
      hbody.trans (hstart.append (.refl rest))
    have hrest : ¬ grammar.written.Derives rest [] := fun h => hnull (hskip.trans h)
    obtain ⟨t, more, hfirst⟩ := hreduced.exists_first ((hclosed.declared hrule hb).derives hclosed hskip) hrest
    refine ⟨t, Or.inl ⟨front ++ front, more, ?_⟩, more, hskip.trans hfirst⟩
    have hinner := (written_alternative hrule hb).trans (hbody.trans (hlast.append hfirst))
    simpa using hlast.inside hinner
  · obtain ⟨t, more, hfirst⟩ := hreduced.exists_first_start hclosed hrule hb hnull
    refine ⟨t, Or.inl ⟨front, more ++ back, ?_⟩, more ++ rest, hbody.trans (hfirst.append (.refl rest))⟩
    simpa using hbefore.behind (hfirst.append (.refl back))

/-- Alternatives that overlap clash. -/
theorem clash_of_overlap (h : grammar.Overlap name a b) :
    grammar.flat.Clash name (Flat.alternative grammar.start name a)
      (Flat.alternative grammar.start name b) := by
  have hbegins : ∀ (x : Alternative), ∀ t ∈ grammar.firstSet x.symbols,
      grammar.flat.Begins t (Flat.alternative grammar.start name x) := fun x t ht =>
    begins_alternative_of_symbols (begins_of_mem_firstSet ht)
  rcases h with ⟨t, ha, hb⟩ | ⟨ha, hb⟩ | ⟨ha, t, hfollows, hb⟩
  · exact Or.inr ⟨t, hbegins b t hb, Or.inl (hbegins a t ha)⟩
  · exact Or.inl ⟨vanishes_alternative_iff_nullable.mpr ha, vanishes_alternative_iff_nullable.mpr hb⟩
  · have hbehind := follows_of_mem_followSet hfollows
    exact Or.inr ⟨t, hbegins b t hb, Or.inr ⟨vanishes_alternative_iff_nullable.mpr ha, hbehind⟩⟩

/-- Alternatives of which both leak overlap. -/
theorem overlap_of_leaks (hclosed : grammar.Closed) (hreduced : grammar.Reduced)
    (hrule : rule ∈ grammar.rules) (ha : a ∈ rule.alternatives) (hb : b ∈ rule.alternatives)
    (hleaka : grammar.Leaks (eraseTerminal .empty a.symbols))
    (hleakb : grammar.Leaks (eraseTerminal .empty b.symbols)) : grammar.Overlap rule.name a b := by
  by_cases hboth : grammar.Nullable a.symbols ∧ grammar.Nullable b.symbols
  · exact Or.inr (Or.inl hboth)
  · have hfirst : ∃ t rest, grammar.written.Derives [.nonTerminal grammar.start] (.terminal t :: rest) := by
      by_cases hnulla : grammar.Nullable a.symbols
      · exact hreduced.exists_first_start hclosed hrule hb fun hnullb => hboth ⟨hnulla, hnullb⟩
      · exact hreduced.exists_first_start hclosed hrule ha hnulla
    obtain ⟨t, rest, hstart⟩ := hfirst
    obtain ⟨⟨resta, hbodya⟩, -⟩ := hleaka
    obtain ⟨⟨restb, hbodyb⟩, -⟩ := hleakb
    exact Or.inl ⟨t, ⟨_, hbodya.trans (hstart.append (.refl resta))⟩,
      ⟨_, hbodyb.trans (hstart.append (.refl restb))⟩⟩

/-- An alternative that derives nothing overlaps with one that leaks. -/
theorem overlap_of_nullable (hclosed : grammar.Closed) (hreduced : grammar.Reduced)
    (hrule : rule ∈ grammar.rules) (hb : b ∈ rule.alternatives) (hnull : grammar.Nullable a.symbols)
    (hleaks : grammar.Leaks (eraseTerminal .empty b.symbols))
    (hfollows : grammar.Ends rule.name ∨ grammar.Precedes rule.name) : grammar.Overlap rule.name a b := by
  by_cases hnullb : grammar.Nullable b.symbols
  · exact Or.inr (Or.inl ⟨hnull, hnullb⟩)
  · exact Or.inr (Or.inr ⟨hnull, exists_overlap_of_leaks hclosed hreduced hrule hb hnullb hleaks hfollows⟩)

theorem ends_start (h : name = grammar.start) : grammar.Ends name ∨ grammar.Precedes name :=
  Or.inl ⟨[], h ▸ .refl _⟩

/-- **Alternatives that clash overlap in one order or the other.** -/
theorem overlap_of_clash (hclosed : grammar.Closed) (hreduced : grammar.Reduced)
    (hrule : rule ∈ grammar.rules) (ha : a ∈ rule.alternatives) (hb : b ∈ rule.alternatives)
    (h : grammar.flat.Clash rule.name (Flat.alternative grammar.start rule.name a)
      (Flat.alternative grammar.start rule.name b)) :
    grammar.Overlap rule.name a b ∨ grammar.Overlap rule.name b a := by
  rcases h with ⟨hvanisha, hvanishb⟩ | ⟨t, hbeginsb, hpicks⟩
  · have hnulla := vanishes_alternative_iff_nullable.mp hvanisha
    exact Or.inl (Or.inr (Or.inl ⟨hnulla, vanishes_alternative_iff_nullable.mp hvanishb⟩))
  by_cases hend : t = .endOfInput
  · subst hend
    -- The end of the input begins an alternative of the start rule that derives nothing, or one that leaks.
    rcases hpicks with hbeginsa | ⟨hvanisha, hfollows⟩
    · rcases leaks_of_begins_alternative hbeginsa with ⟨hname, hnulla⟩ | hleaka <;>
        rcases leaks_of_begins_alternative hbeginsb with ⟨_, hnullb⟩ | hleakb
      · exact Or.inl (Or.inr (Or.inl ⟨hnulla, hnullb⟩))
      · exact Or.inl (overlap_of_nullable hclosed hreduced hrule hb hnulla hleakb (ends_start hname))
      · exact Or.inr (overlap_of_nullable hclosed hreduced hrule ha hnullb hleaka (ends_start ‹_›))
      · exact Or.inl (overlap_of_leaks hclosed hreduced hrule ha hb hleaka hleakb)
    · have hnulla := vanishes_alternative_iff_nullable.mp hvanisha
      rcases leaks_of_begins_alternative hbeginsb with ⟨_, hnullb⟩ | hleakb
      · exact Or.inl (Or.inr (Or.inl ⟨hnulla, hnullb⟩))
      · exact Or.inl (overlap_of_nullable hclosed hreduced hrule hb hnulla hleakb
          (ends_of_follows hreduced hfollows))
  · have hfirst : ∀ x : Alternative,
        grammar.flat.Begins t (Flat.alternative grammar.start rule.name x) → t ∈ grammar.firstSet x.symbols :=
      fun _ hx => mem_firstSet_of_begins hend ((begins_alternative hend).mp hx)
    rcases hpicks with hbeginsa | ⟨hvanisha, hfollows⟩
    · exact Or.inl (Or.inl ⟨t, hfirst a hbeginsa, hfirst b hbeginsb⟩)
    · have hnulla := vanishes_alternative_iff_nullable.mp hvanisha
      have hbehind := mem_followSet_of_follows hreduced hend hfollows
      exact Or.inl (Or.inr (Or.inr ⟨hnulla, t, hbehind, hfirst b hbeginsb⟩))

/-- **The analysis finds no clash in a rule exactly when one terminal ahead tells its alternatives apart.** -/
theorem clear_iff_separates (hclosed : grammar.Closed) (hreduced : grammar.Reduced)
    (hrule : rule ∈ grammar.rules) :
    grammar.flat.Clear (rule.name, rule.alternatives.map (Flat.alternative grammar.start rule.name)) ↔
      grammar.Separates rule := by
  rw [separates_iff]
  constructor
  · intro h i j a b ha hb hne hoverlap
    refine h i j _ _ ?_ ?_ hne (clash_of_overlap hoverlap)
    · rw [List.getElem?_map, ha, Option.map_some]
    · rw [List.getElem?_map, hb, Option.map_some]
  · intro h i j a b ha hb hne hclash
    rw [List.getElem?_map] at ha hb
    obtain ⟨first, hfirst, rfl⟩ := Option.map_eq_some_iff.mp ha
    obtain ⟨second, hsecond, rfl⟩ := Option.map_eq_some_iff.mp hb
    rcases overlap_of_clash hclosed hreduced hrule (List.mem_of_getElem? hfirst)
      (List.mem_of_getElem? hsecond) hclash with hoverlap | hoverlap
    · exact h i j first second hfirst hsecond hne hoverlap
    · exact h j i second first hsecond hfirst (Ne.symm hne) hoverlap

end Grammar

/-! ## The verdict of the analysis -/

namespace Analysis

variable {raw grammar : Grammar}

open Grammar

/-- **A resolved grammar in which every rule is of use is accepted exactly when it is LL(1)**; otherwise the
first rule is named whose alternatives one terminal ahead does not tell apart. -/
theorem ofGrammar_iff_isLL1 (hresolve : raw.resolve.1 = .ok grammar) (hreduced : grammar.Reduced) :
    ((∃ analysis, ofGrammar grammar = .ok analysis) ↔ grammar.IsLL1) ∧
    ∀ conflict, ofGrammar grammar = .error conflict →
      ∃ before rule after, grammar.rules = before ++ rule :: after ∧ conflict.rule = rule.name ∧
        ¬ grammar.Separates rule ∧ ∀ other ∈ before, grammar.Separates other := by
  have hclosed := closed_of_resolve hresolve
  refine ⟨?_, fun conflict hconflict => ?_⟩
  · rw [exists_ofGrammar_iff, Flat.conflict?_eq_none_iff]
    constructor
    · intro h rule hrule
      exact (clear_iff_separates hclosed hreduced hrule).mp (h _ (rule_mem_flat hrule))
    · rintro h ⟨name, alternatives⟩ hflat
      obtain ⟨rule, hrule, rfl, rfl⟩ := mem_flat_rules.mp hflat
      exact (clear_iff_separates hclosed hreduced hrule).mpr (h rule hrule)
  · obtain ⟨before, flatRule, after, heq, hname, hclash, hclear⟩ :=
      Flat.first_of_conflict? (ofGrammar_eq_error_iff.mp hconflict)
    obtain ⟨front, rest, hrules, rfl, hrest⟩ := List.map_eq_append_iff.mp heq
    obtain ⟨rule, back, rfl, rfl, -⟩ := List.map_eq_cons_iff.mp hrest
    have hrule : rule ∈ grammar.rules := by simp [hrules]
    refine ⟨front, rule, back, hrules, hname, fun hseparates => ?_, fun other hother => ?_⟩
    · exact hclash ((clear_iff_separates hclosed hreduced hrule).mpr hseparates)
    · have hmem : other ∈ grammar.rules := by simp [hrules, hother]
      exact (clear_iff_separates hclosed hreduced hmem).mp (hclear _ (List.mem_map_of_mem hother))

theorem reduced_nested : Grammar.nested.Reduced := by
  refine ⟨fun rule hrule => ?_, fun rule hrule => ⟨[], ?_⟩⟩ <;> cases List.mem_singleton.mp hrule
  · exact ⟨[], [], .refl _⟩
  · have halt : (⟨[.regex emptyName]⟩ : Alternative) ∈
        [⟨[.text "a", .rule "s", .text "b"]⟩, ⟨[.regex emptyName]⟩] := by simp
    exact written_alternative hrule halt

/-- The sample resolves to itself. -/
theorem ofGrammar_iff_isLL1_nested :
    Grammar.nested.resolve.1 = .ok .nested ∧ Grammar.nested.Reduced ∧
    ((∃ analysis, ofGrammar .nested = .ok analysis) ↔ Grammar.nested.IsLL1) ∧
    ∀ conflict, ofGrammar .nested = .error conflict →
      ∃ before rule after, Grammar.nested.rules = before ++ rule :: after ∧ conflict.rule = rule.name ∧
        ¬ Grammar.nested.Separates rule ∧ ∀ other ∈ before, Grammar.nested.Separates other := by
  have hresolve : Grammar.nested.resolve.1 = .ok .nested := by decide +kernel
  exact ⟨hresolve, reduced_nested, ofGrammar_iff_isLL1 hresolve reduced_nested⟩

end Analysis

end AttributeGrammar
