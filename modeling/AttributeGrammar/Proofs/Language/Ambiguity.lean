import AttributeGrammar.Proofs.Analysis.Exactness
import AttributeGrammar.Proofs.Language.Prediction

/-!
# Words have one derivation tree

A derivation tree tells for every node which alternative of which rule was used. Two trees of the same word
are compared from left to right: what comes behind the part of the word that a symbol derives is known to
follow the symbol, so the same terminal picks the alternative in both trees.

* `DerivationTree`, `Grammar.Spells` — derivation trees, and the words that they spell.
* `Grammar.derives_iff_exists_spells` — a word is derived exactly when trees spell it.
* `Grammar.spells_unique` — trees that read on the same terminals are the same and spell the same word.
* `Analysis.eq_of_spells` — no word has two trees if the analysis accepts the grammar.
-/

set_option autoImplicit false

namespace AttributeGrammar

/-- A tree of terminals and of rules, each with the number of the alternative that is used. -/
inductive DerivationTree where
  | leaf (terminal : Terminal)
  | node (rule : String) (index : Nat) (children : List DerivationTree)

namespace Grammar

variable {grammar : Grammar} {symbols : List Symbol} {trees others : List DerivationTree}
  {word other front back more more' : List Terminal} {next next' : Terminal}

/-- The trees, one for each symbol that is not the marker for the empty string, derive the word from the
symbols. -/
inductive Spells (grammar : Grammar) : List Symbol → List DerivationTree → List Terminal → Prop where
  | nil : Spells grammar [] [] []
  | empty {symbols : List Symbol} {trees : List DerivationTree} {word : List Terminal} :
      Spells grammar symbols trees word → Spells grammar (.terminal .empty :: symbols) trees word
  | terminal {t : Terminal} {symbols : List Symbol} {trees : List DerivationTree} {word : List Terminal} :
      t ≠ .empty → Spells grammar symbols trees word →
      Spells grammar (.terminal t :: symbols) (.leaf t :: trees) (t :: word)
  | nonTerminal {name : String} {rule : Rule} {index : Nat} {alternative : Alternative}
      {symbols : List Symbol} {children trees : List DerivationTree} {front back : List Terminal} :
      grammar.rule? name = some rule → rule.alternatives[index]? = some alternative →
      Spells grammar alternative.symbols children front → Spells grammar symbols trees back →
      Spells grammar (.nonTerminal name :: symbols) (.node name index children :: trees) (front ++ back)

theorem Spells.derives (h : grammar.Spells symbols trees word) : grammar.Derives symbols word := by
  induction h with
  | nil => exact .nil
  | empty _ ih => exact .empty ih
  | terminal hne _ ih => exact .terminal hne ih
  | nonTerminal hrule halt _ _ ihbody ihrest =>
    exact .nonTerminal hrule (List.mem_of_getElem? halt) ihbody ihrest

theorem exists_spells_of_derives (h : grammar.Derives symbols word) :
    ∃ trees, grammar.Spells symbols trees word := by
  induction h with
  | nil => exact ⟨[], .nil⟩
  | empty _ ih =>
    obtain ⟨trees, htrees⟩ := ih
    exact ⟨trees, .empty htrees⟩
  | @terminal t _ _ hne _ ih =>
    obtain ⟨trees, htrees⟩ := ih
    exact ⟨.leaf t :: trees, .terminal hne htrees⟩
  | @nonTerminal name _ _ _ _ _ hrule halt _ _ ihbody ihrest =>
    obtain ⟨children, hchildren⟩ := ihbody
    obtain ⟨trees, htrees⟩ := ihrest
    obtain ⟨index, hindex⟩ := List.mem_iff_getElem?.mp halt
    exact ⟨.node name index children :: trees, .nonTerminal hrule hindex hchildren htrees⟩

/-- **A word is derived exactly when trees spell it.** -/
theorem derives_iff_exists_spells :
    grammar.Derives symbols word ↔ ∃ trees, grammar.Spells symbols trees word :=
  ⟨exists_spells_of_derives, fun ⟨_, h⟩ => h.derives⟩

/-- A tree of a rule, read with what comes behind it: the terminal ahead picks its alternative, and what
follows the rule comes behind its children. -/
theorem exists_pick_of_spells {name : String} {rule : Rule} {index : Nat} {alternative : Alternative}
    {children : List DerivationTree} (more : List Terminal) (hrule : grammar.rule? name = some rule)
    (halt : rule.alternatives[index]? = some alternative)
    (hbody : grammar.Spells alternative.symbols children front) (hrest : grammar.Spells symbols trees back)
    (hexpects : grammar.Expects next (.nonTerminal name :: symbols)) :
    ∃ behind rest ahead tail, back ++ next :: more = behind :: rest ∧
      grammar.Expects behind alternative.symbols ∧
      front ++ behind :: rest = ahead :: tail ∧ grammar.Picks rule alternative ahead := by
  obtain ⟨hmem, rfl⟩ := mem_of_rule? hrule
  have hback : grammar.Derives symbols (back.map id) := by simpa using hrest.derives
  have hfront : grammar.Derives alternative.symbols (front.map id) := by simpa using hbody.derives
  obtain ⟨behind, rest, hbehind, hfollows⟩ := follows_of_derives more hback hexpects
  obtain ⟨ahead, tail, hahead, hpicks⟩ := picks_of_derives rest hfront hfollows
  exact ⟨behind, rest, ahead, tail, hbehind,
    expects_alternative hmem (List.mem_of_getElem? halt) hfollows, hahead, hpicks⟩

/-- **Trees of the same symbols that read on the same terminals are the same and spell the same word**,
whatever comes behind it as expected. -/
theorem spells_unique (hdeterministic : grammar.flat.Deterministic)
    (h : grammar.Spells symbols trees word) (hother : grammar.Spells symbols others other)
    (heq : word ++ next :: more = other ++ next' :: more')
    (hexpects : grammar.Expects next symbols) (hexpects' : grammar.Expects next' symbols) :
    trees = others ∧ word = other := by
  induction h generalizing others other next more next' more' with
  | nil =>
    cases hother
    exact ⟨rfl, rfl⟩
  | empty _ ih =>
    cases hother with
    | empty hother => exact ih hother heq hexpects.tail hexpects'.tail
    | terminal hne => exact absurd rfl hne
  | terminal hne _ ih =>
    cases hother with
    | empty => exact absurd rfl hne
    | terminal _ hother =>
      obtain ⟨rfl, rfl⟩ := ih hother (List.cons.inj heq).2 hexpects.tail hexpects'.tail
      exact ⟨rfl, rfl⟩
  | @nonTerminal _ _ _ _ _ _ _ front _ hrule halt hbody hrest ihbody ihrest =>
    cases hother with
    | @nonTerminal _ _ _ _ _ _ _ front' _ hrule' halt' hbody' hrest' =>
      cases hrule.symm.trans hrule'
      rw [List.append_assoc, List.append_assoc] at heq
      obtain ⟨behind, rest, ahead, tail, hbehind, hinner, hahead, hpicks⟩ :=
        exists_pick_of_spells more hrule halt hbody hrest hexpects
      obtain ⟨behind', rest', ahead', tail', hbehind', hinner', hahead', hpicks'⟩ :=
        exists_pick_of_spells more' hrule halt' hbody' hrest' hexpects'
      have hreads : front ++ behind :: rest = front' ++ behind' :: rest' := by
        rw [← hbehind, ← hbehind', heq]
      -- The terminal ahead is the same in both trees, and so is the alternative that it picks.
      obtain ⟨rfl, -⟩ := List.cons.inj (hahead.symm.trans (hreads.trans hahead'))
      cases picks_unique hdeterministic (mem_of_rule? hrule).1 halt halt' hpicks hpicks'
      cases halt.symm.trans halt'
      obtain ⟨rfl, rfl⟩ := ihbody hbody' hreads hinner hinner'
      obtain ⟨rfl, rfl⟩ := ihrest hrest' (List.append_cancel_left heq) hexpects.tail hexpects'.tail
      exact ⟨rfl, rfl⟩

end Grammar

/-! ## Grammars that the analysis accepts -/

namespace Analysis

variable {grammar : Grammar} {analysis : Analysis} {word : List Terminal} {a b : DerivationTree}

/-- **No word has two derivation trees from the start rule**, if the analysis accepts the grammar. -/
theorem eq_of_spells (h : ofGrammar grammar = .ok analysis)
    (ha : grammar.Spells [.nonTerminal grammar.start] [a] word)
    (hb : grammar.Spells [.nonTerminal grammar.start] [b] word) : a = b := by
  have hsame : word ++ [.endOfInput] = word ++ [.endOfInput] := rfl
  obtain ⟨heq, -⟩ := Grammar.spells_unique (deterministic_of_ofGrammar h) ha hb hsame
    Grammar.expects_start Grammar.expects_start
  exact (List.cons.inj heq).1

/-- The tree of "ab" in the sample: the first alternative, and the second one inside. -/
theorem spells_nested : Grammar.nested.Spells [.nonTerminal "s"]
    [.node "s" 0 [.leaf (.text "a"), .node "s" 1 [], .leaf (.text "b")]] [.text "a", .text "b"] := by
  obtain ⟨rule, hrule, hpair, hnothing⟩ : ∃ rule, Grammar.nested.rule? "s" = some rule ∧
      rule.alternatives[0]? = some ⟨[.text "a", .rule "s", .text "b"]⟩ ∧
      rule.alternatives[1]? = some ⟨[.regex emptyName]⟩ := ⟨_, rfl, rfl, rfl⟩
  have hclose : Grammar.nested.Spells [.terminal (.text "b")] [.leaf (.text "b")] [.text "b"] :=
    .terminal (by decide) .nil
  have hinner := Grammar.Spells.nonTerminal hrule hnothing (.empty .nil) hclose
  have hopen : Terminal.text "a" ≠ .empty := by decide
  exact .nonTerminal hrule hpair (.terminal hopen hinner) .nil

/-- The sample, whose word "ab" has a tree. -/
theorem eq_of_spells_nested : ∃ analysis, ofGrammar .nested = .ok analysis ∧
    ∃ tree, Grammar.nested.Spells [.nonTerminal "s"] [tree] [.text "a", .text "b"] ∧
      ∀ other, Grammar.nested.Spells [.nonTerminal "s"] [other] [.text "a", .text "b"] → other = tree := by
  obtain ⟨analysis, h⟩ := exists_nested
  exact ⟨analysis, h, _, spells_nested, fun other hother => eq_of_spells h hother spells_nested⟩

end Analysis

end AttributeGrammar
