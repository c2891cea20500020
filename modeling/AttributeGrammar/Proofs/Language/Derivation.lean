import AttributeGrammar.Proofs.Analysis.Follow
import AttributeGrammar.Proofs.Grammar.Lookup
import AttributeGrammar.Proofs.Scan.Stream
import AttributeGrammar.Synthesis.Run

/-!
# Derivations

* `Grammar.Derives` — a sequence of symbols derives a word of terminals.
* `Grammar.Grows` — trees are derivation trees of tokens, one tree for each symbol that is not the
  marker for the empty string.
* `Grammar.Derives.vanishes`, `Grammar.Derives.begins` — derivations and the relations of the analysis.
* `Grammar.derives_nil_iff` — what derives the empty word is what vanishes.
-/

set_option autoImplicit false

namespace AttributeGrammar

open Synthesis (Fields nodeName)

namespace Grammar

variable {grammar : Grammar} {V : Type} {symbols : List Symbol} {word : List Terminal}
  {t : Terminal} {rule : Rule} {alternative : Alternative}

/-- The symbols derive the word. -/
inductive Derives (grammar : Grammar) : List Symbol → List Terminal → Prop where
  | nil : Derives grammar [] []
  | empty {rest : List Symbol} {word : List Terminal} :
      Derives grammar rest word → Derives grammar (.terminal .empty :: rest) word
  | terminal {t : Terminal} {rest : List Symbol} {word : List Terminal} :
      t ≠ .empty → Derives grammar rest word → Derives grammar (.terminal t :: rest) (t :: word)
  | nonTerminal {name : String} {rule : Rule} {alternative : Alternative} {rest : List Symbol}
      {front back : List Terminal} :
      grammar.rule? name = some rule → alternative ∈ rule.alternatives →
      Derives grammar alternative.symbols front → Derives grammar rest back →
      Derives grammar (.nonTerminal name :: rest) (front ++ back)

/-- The trees are derivation trees of the tokens: a token for each terminal, and for each non-terminal
a node whose children are the trees of one alternative. -/
inductive Grows (grammar : Grammar) : List Symbol → List (Synthesis.Tree V) → List Token → Prop where
  | nil : Grows grammar [] [] []
  | empty {rest : List Symbol} {trees : List (Synthesis.Tree V)} {tokens : List Token} :
      Grows grammar rest trees tokens → Grows grammar (.terminal .empty :: rest) trees tokens
  | terminal {token : Token} {rest : List Symbol} {trees : List (Synthesis.Tree V)} {tokens : List Token} :
      Grows grammar rest trees tokens →
      Grows grammar (.terminal token.terminal :: rest) (.leaf token.text :: trees) (token :: tokens)
  | nonTerminal {name : String} {rule : Rule} {alternative : Alternative} {fields : Fields V}
      {rest : List Symbol} {children trees : List (Synthesis.Tree V)} {front back : List Token} :
      grammar.rule? name = some rule → alternative ∈ rule.alternatives →
      Grows grammar alternative.symbols children front → Grows grammar rest trees back →
      Grows grammar (.nonTerminal name :: rest) (.node (nodeName name) fields children :: trees)
        (front ++ back)

/-- A non-terminal derives what its alternatives derive. -/
theorem derives_nonTerminal_iff {name : String} :
    grammar.Derives [.nonTerminal name] word ↔ ∃ rule, grammar.rule? name = some rule ∧
      ∃ alternative ∈ rule.alternatives, grammar.Derives alternative.symbols word := by
  constructor
  · generalize hsymbols : [Symbol.nonTerminal name] = symbols
    intro h
    cases h with
    | nil => cases hsymbols
    | empty => cases hsymbols
    | terminal => cases hsymbols
    | nonTerminal hrule halt hbody hrest =>
      cases hsymbols
      cases hrest
      rw [List.append_nil]
      exact ⟨_, hrule, _, halt, hbody⟩
  · rintro ⟨rule, hrule, alternative, halt, hbody⟩
    simpa using Derives.nonTerminal hrule halt hbody .nil

/-- A non-terminal and symbols behind it derive what they derive in a row. -/
theorem Derives.cons {name : String} {front back : List Terminal}
    (h : grammar.Derives [.nonTerminal name] front) (hrest : grammar.Derives symbols back) :
    grammar.Derives (.nonTerminal name :: symbols) (front ++ back) := by
  obtain ⟨rule, hrule, alternative, halt, hbody⟩ := derives_nonTerminal_iff.mp h
  exact .nonTerminal hrule halt hbody hrest

/-- The tokens of derivation trees are derived. -/
theorem Grows.derives {trees : List (Synthesis.Tree V)} {tokens : List Token}
    (h : grammar.Grows symbols trees tokens) :
    grammar.Derives symbols (tokens.map Token.terminal) := by
  induction h with
  | nil => exact .nil
  | empty _ ih => exact .empty ih
  | terminal _ ih => exact .terminal (Token.terminal_ne_empty _) ih
  | nonTerminal hrule halt _ _ ihbody ihrest =>
    rw [List.map_append]
    exact .nonTerminal hrule halt ihbody ihrest

theorem Grows.tokens_eq_nil {trees : List (Synthesis.Tree V)} {tokens : List Token}
    (h : grammar.Grows symbols trees tokens) (hnil : trees = []) : tokens = [] := by
  induction h with
  | nil => rfl
  | empty _ ih => exact ih hnil
  | terminal => cases hnil
  | nonTerminal => cases hnil

/-! ## The flat form -/

/-- The grammar as the analysis sees it. -/
abbrev flat (grammar : Grammar) : Flat := Flat.ofGrammar grammar

theorem mem_flat_rules {name : String} {alternatives : List (List Symbol)} :
    (name, alternatives) ∈ grammar.flat.rules ↔ ∃ rule ∈ grammar.rules, rule.name = name ∧
      rule.alternatives.map (Flat.alternative grammar.start rule.name) = alternatives := by
  simp [flat, Flat.ofGrammar]

theorem rule_mem_flat (h : rule ∈ grammar.rules) :
    (rule.name, rule.alternatives.map (Flat.alternative grammar.start rule.name)) ∈
      grammar.flat.rules :=
  mem_flat_rules.mpr ⟨rule, h, rfl, rfl⟩

/-- A flat alternative is that of the rule, with or without the end of the input. -/
theorem flat_alternative_eq (start name : String) (alternative : Alternative) :
    Flat.alternative start name alternative = alternative.symbols ∨
      Flat.alternative start name alternative = alternative.symbols ++ [.terminal .endOfInput] := by
  unfold Flat.alternative
  split
  · exact Or.inr rfl
  · exact Or.inl rfl

/-- The terminals of the flat form are those of the alternatives, and the end of the input. -/
theorem mem_flat_symbols_iff (hend : t ≠ .endOfInput) :
    .terminal t ∈ grammar.flat.symbols ↔
      ∃ rule ∈ grammar.rules, ∃ alternative ∈ rule.alternatives, .terminal t ∈ alternative.symbols := by
  have hsymbols (name : String) (alternative : Alternative) :
      .terminal t ∈ Flat.alternative grammar.start name alternative ↔ .terminal t ∈ alternative.symbols := by
    rcases flat_alternative_eq grammar.start name alternative with heq | heq
    · rw [heq]
    · rw [heq]
      simp [hend]
  constructor
  · intro h
    obtain ⟨⟨name, alternatives⟩, hflat, hsymbol⟩ := List.mem_flatMap.mp h
    obtain ⟨rule, hrule, rfl, rfl⟩ := mem_flat_rules.mp hflat
    obtain ⟨_, halt, hsymbol⟩ := List.mem_flatten.mp hsymbol
    obtain ⟨alternative, halternative, rfl⟩ := List.mem_map.mp halt
    exact ⟨rule, hrule, alternative, halternative, (hsymbols _ _).mp hsymbol⟩
  · rintro ⟨rule, hrule, alternative, halternative, hsymbol⟩
    exact List.mem_flatMap.mpr ⟨_, rule_mem_flat hrule,
      List.mem_flatten.mpr ⟨_, List.mem_map_of_mem halternative, (hsymbols _ _).mpr hsymbol⟩⟩

theorem vanishes_alternative {flat : Flat} {start name : String} :
    flat.Vanishes (Flat.alternative start name alternative) ↔ flat.Vanishes alternative.symbols := by
  rcases flat_alternative_eq start name alternative with heq | heq
  · rw [heq]
  · rw [heq, Flat.vanishes_append_iff]
    exact and_iff_left (.endOfInput .nil)

theorem begins_alternative_of_symbols {flat : Flat} {start name : String}
    (h : flat.Begins t alternative.symbols) :
    flat.Begins t (Flat.alternative start name alternative) := by
  rcases flat_alternative_eq start name alternative with heq | heq
  · rwa [heq]
  · rw [heq]
    exact Flat.begins_append_iff.mpr (Or.inl h)

/-- Other terminals than the end begin a flat alternative as they begin that of the rule. -/
theorem begins_alternative {flat : Flat} {start name : String} (hend : t ≠ .endOfInput) :
    flat.Begins t (Flat.alternative start name alternative) ↔ flat.Begins t alternative.symbols := by
  refine ⟨fun h => ?_, begins_alternative_of_symbols⟩
  rcases flat_alternative_eq start name alternative with heq | heq
  · rwa [heq] at h
  · rw [heq, Flat.begins_append_iff] at h
    rcases h with h | ⟨-, h⟩
    · exact h
    · rcases h with _ | _ | ⟨-, h⟩
      · exact absurd rfl hend
      · exact absurd h Flat.begins_nil

/-- The items of an alternative ask for no end of the input. -/
theorem endOfInput_notMem_symbols (alternative : Alternative) :
    Symbol.terminal .endOfInput ∉ alternative.symbols := by
  intro h
  obtain ⟨item, -, hitem⟩ := List.mem_filterMap.mp h
  cases item with
  | regex name | assignRegex _ name =>
    simp only [Item.symbol?, Symbol.ofRegexName] at hitem
    split at hitem <;> cases hitem
  | _ => cases hitem

/-! ## Derivations and the analysis -/

/-- What derives the empty word vanishes. -/
theorem Derives.vanishes (h : grammar.Derives symbols word) (hnil : word = []) :
    grammar.flat.Vanishes symbols := by
  induction h with
  | nil => exact .nil
  | empty _ ih => exact .empty (ih hnil)
  | terminal => cases hnil
  | nonTerminal hrule halt _ _ ihbody ihrest =>
    obtain ⟨hfront, hback⟩ := List.append_eq_nil_iff.mp hnil
    obtain ⟨hmem, rfl⟩ := mem_of_rule? hrule
    exact .nonTerminal (rule_mem_flat hmem) (List.mem_map_of_mem halt)
      (vanishes_alternative.mpr (ihbody hfront)) (ihrest hback)

/-- The first terminal of a derived word begins the symbols. -/
theorem Derives.begins (h : grammar.Derives symbols word) {rest : List Terminal}
    (hcons : word = t :: rest) : grammar.flat.Begins t symbols := by
  induction h generalizing rest with
  | nil => cases hcons
  | empty _ ih => exact .skip (.empty .nil) (ih hcons)
  | terminal hne =>
    cases hcons
    exact .terminal hne
  | @nonTerminal name rule alternative _ front back hrule halt hbody hrest ihbody ihrest =>
    obtain ⟨hmem, rfl⟩ := mem_of_rule? hrule
    cases front with
    | nil =>
      refine .skip ?_ (ihrest hcons)
      exact .nonTerminal (rule_mem_flat hmem) (List.mem_map_of_mem halt)
        (vanishes_alternative.mpr (hbody.vanishes rfl)) .nil
    | cons first front =>
      cases hcons
      exact .nonTerminal (rule_mem_flat hmem) (List.mem_map_of_mem halt)
        (begins_alternative_of_symbols (ihbody rfl))

/-- Every rule is the one that is found under its name. -/
def Distinct (grammar : Grammar) : Prop :=
  ∀ rule ∈ grammar.rules, grammar.rule? rule.name = some rule

theorem derives_nil_of_vanishes (hdistinct : grammar.Distinct) (h : grammar.flat.Vanishes symbols) :
    grammar.Derives (symbols.filter (· ≠ .terminal .endOfInput)) [] := by
  induction h with
  | nil => exact .nil
  | empty _ ih => exact .empty ih
  | endOfInput _ ih => exact ih
  | @nonTerminal flatRule symbols _ hrule halt _ _ ihbody ihrest =>
    obtain ⟨name, alternatives⟩ := flatRule
    obtain ⟨rule, hmem, rfl, rfl⟩ := mem_flat_rules.mp hrule
    obtain ⟨alternative, halternative, rfl⟩ := List.mem_map.mp halt
    have hfilter : (Flat.alternative grammar.start rule.name alternative).filter
        (· ≠ .terminal .endOfInput) = alternative.symbols := by
      have hsymbols : alternative.symbols.filter (· ≠ .terminal .endOfInput) = alternative.symbols :=
        List.filter_eq_self.mpr fun symbol hsymbol => decide_eq_true fun heq =>
          endOfInput_notMem_symbols alternative (heq ▸ hsymbol)
      rcases flat_alternative_eq grammar.start rule.name alternative with heq | heq
      · rw [heq, hsymbols]
      · rw [heq, List.filter_append, hsymbols]
        simp
    rw [hfilter] at ihbody
    exact .nonTerminal (hdistinct rule hmem) halternative ihbody ihrest

/-- A non-terminal derives the empty word exactly when it vanishes. -/
theorem derives_nil_iff (hdistinct : grammar.Distinct) {name : String} :
    grammar.Derives [.nonTerminal name] [] ↔ grammar.flat.Vanishes [.nonTerminal name] :=
  ⟨fun h => h.vanishes rfl, fun h => derives_nil_of_vanishes hdistinct h⟩

end Grammar

end AttributeGrammar
