import AttributeGrammar.Proofs.Analysis.Conflict
import AttributeGrammar.Proofs.Language.Derivation

/-!
# Predictive reading

A rule is read by an alternative that one terminal of lookahead picks, or not at all when no alternative
is picked. This is what an emitted parser does, with its code left out.

* `Grammar.Picks`, `Grammar.Declines` — the terminal ahead picks an alternative, or none.
* `Grammar.Predictive` — rules have different names and no two alternatives clash.
* `Grammar.vanishes_unique`, `Grammar.picks_unique` — no two alternatives vanish, and one terminal picks one.
* `Grammar.Reads` — predictive reading of a sequence of symbols.
* `Grammar.reads_of_derives` — tokens that are derived can be read.
* `Grammar.grows_of_reads` — and however they are read, the trees are derivation trees.
-/

set_option autoImplicit false

namespace AttributeGrammar.Grammar

open Synthesis (Fields nodeName)

variable {grammar : Grammar} {V W : Type} {rule : Rule} {a b alternative : Alternative} {s t : Terminal}

/-! ## Picking an alternative -/

/-- The terminal picks the alternative: it begins the alternative, or stands behind the rule and the
alternative vanishes. -/
def Picks (grammar : Grammar) (rule : Rule) (alternative : Alternative) (t : Terminal) : Prop :=
  grammar.flat.Begins t alternative.symbols ∨
    (grammar.flat.Vanishes alternative.symbols ∧ grammar.flat.Follows t rule.name)

/-- The token ahead picks no alternative of the rule. Nothing is needed ahead if no terminal does. -/
def Declines (grammar : Grammar) (rule : Rule) (tokens : List Token) : Prop :=
  (∀ alternative ∈ rule.alternatives, ∀ t, ¬ grammar.Picks rule alternative t) ∨
    ∃ token rest, tokens = token :: rest ∧
      ∀ alternative ∈ rule.alternatives, ¬ grammar.Picks rule alternative token.terminal

theorem Declines.not_picks {token : Token} {rest : List Token}
    (h : grammar.Declines rule (token :: rest)) (halt : alternative ∈ rule.alternatives) :
    ¬ grammar.Picks rule alternative token.terminal := by
  rcases h with h | ⟨_, _, heq, h⟩
  · exact h alternative halt token.terminal
  · cases heq
    exact h alternative halt

/-- Rules have different names, and no two alternatives of a rule clash. -/
structure Predictive (grammar : Grammar) : Prop where
  distinct : grammar.Distinct
  deterministic : grammar.flat.Deterministic

theorem not_clash (h : grammar.flat.Deterministic) (hrule : rule ∈ grammar.rules) {i j : Nat}
    (ha : rule.alternatives[i]? = some a) (hb : rule.alternatives[j]? = some b) (hne : i ≠ j) :
    ¬ grammar.flat.Clash rule.name (Flat.alternative grammar.start rule.name a)
      (Flat.alternative grammar.start rule.name b) := by
  refine h _ (rule_mem_flat hrule) i j _ _ ?_ ?_ hne
  · rw [List.getElem?_map, ha, Option.map_some]
  · rw [List.getElem?_map, hb, Option.map_some]

/-- No two alternatives vanish. -/
theorem vanishes_unique (h : grammar.flat.Deterministic) (hrule : rule ∈ grammar.rules) {i j : Nat}
    (ha : rule.alternatives[i]? = some a) (hb : rule.alternatives[j]? = some b)
    (hvanisha : grammar.flat.Vanishes a.symbols) (hvanishb : grammar.flat.Vanishes b.symbols) : i = j := by
  by_contra hne
  exact not_clash h hrule ha hb hne
    (Or.inl ⟨vanishes_alternative.mpr hvanisha, vanishes_alternative.mpr hvanishb⟩)

/-- **One terminal picks one alternative.** -/
theorem picks_unique (h : grammar.flat.Deterministic) (hrule : rule ∈ grammar.rules) {i j : Nat}
    (ha : rule.alternatives[i]? = some a) (hb : rule.alternatives[j]? = some b)
    (hpicka : grammar.Picks rule a t) (hpickb : grammar.Picks rule b t) : i = j := by
  by_contra hne
  rcases hpicka with hbegina | ⟨hvanisha, hfollows⟩
  · rcases hpickb with hbeginb | ⟨hvanishb, hfollows⟩
    · exact not_clash h hrule ha hb hne (Or.inr ⟨t, begins_alternative_of_symbols hbeginb,
        Or.inl (begins_alternative_of_symbols hbegina)⟩)
    · exact not_clash h hrule hb ha (Ne.symm hne) (Or.inr ⟨t, begins_alternative_of_symbols hbegina,
        Or.inr ⟨vanishes_alternative.mpr hvanishb, hfollows⟩⟩)
  · rcases hpickb with hbeginb | ⟨hvanishb, -⟩
    · exact not_clash h hrule ha hb hne (Or.inr ⟨t, begins_alternative_of_symbols hbeginb,
        Or.inr ⟨vanishes_alternative.mpr hvanisha, hfollows⟩⟩)
    · exact hne (vanishes_unique h hrule ha hb hvanisha hvanishb)

theorem Predictive.eq_of_picks (h : grammar.Predictive) (hrule : rule ∈ grammar.rules)
    (ha : a ∈ rule.alternatives) (hb : b ∈ rule.alternatives)
    (hpicka : grammar.Picks rule a t) (hpickb : grammar.Picks rule b t) : a = b := by
  obtain ⟨i, hi⟩ := List.mem_iff_getElem?.mp ha
  obtain ⟨j, hj⟩ := List.mem_iff_getElem?.mp hb
  cases picks_unique h.deterministic hrule hi hj hpicka hpickb
  exact Option.some.inj (hi.symm.trans hj)

/-! ## Reading -/

/-- The symbols read some of the tokens ahead and leave the last ones. A rule that declines is passed
over and gets a node without children. -/
inductive Reads (grammar : Grammar) :
    List Symbol → List Token → List (Synthesis.Tree V) → List Token → Prop where
  | nil {tokens : List Token} : Reads grammar [] tokens [] tokens
  | empty {rest : List Symbol} {tokens left : List Token} {trees : List (Synthesis.Tree V)} :
      Reads grammar rest tokens trees left →
      Reads grammar (.terminal .empty :: rest) tokens trees left
  | terminal {t : Terminal} {token : Token} {rest : List Symbol} {tokens left : List Token}
      {trees : List (Synthesis.Tree V)} :
      token.terminal = t → Reads grammar rest tokens trees left →
      Reads grammar (.terminal t :: rest) (token :: tokens) (.leaf token.text :: trees) left
  | decline {name : String} {rule : Rule} {fields : Fields V} {rest : List Symbol}
      {tokens left : List Token} {trees : List (Synthesis.Tree V)} :
      grammar.rule? name = some rule → grammar.Declines rule tokens →
      Reads grammar rest tokens trees left →
      Reads grammar (.nonTerminal name :: rest) tokens (.node (nodeName name) fields [] :: trees) left
  | pick {name : String} {rule : Rule} {alternative : Alternative} {fields : Fields V}
      {token : Token} {rest : List Symbol} {tokens mid left : List Token}
      {children trees : List (Synthesis.Tree V)} :
      grammar.rule? name = some rule → alternative ∈ rule.alternatives →
      grammar.Picks rule alternative token.terminal →
      Reads grammar alternative.symbols (token :: tokens) children mid →
      Reads grammar rest mid trees left →
      Reads grammar (.nonTerminal name :: rest) (token :: tokens)
        (.node (nodeName name) fields children :: trees) left

variable {symbols : List Symbol} {tokens left : List Token} {trees : List (Synthesis.Tree V)}

/-- Reading leaves the last of the tokens ahead. -/
theorem Reads.isSuffix (h : grammar.Reads symbols tokens trees left) : left <:+ tokens := by
  induction h with
  | nil => exact List.suffix_refl _
  | empty _ ih => exact ih
  | terminal _ _ ih => exact ih.trans (List.suffix_cons ..)
  | decline _ _ _ ih => exact ih
  | pick _ _ _ _ _ ihbody ihrest => exact ihrest.trans ihbody

/-- The values of fields do not matter to reading. -/
theorem Reads.retype (h : grammar.Reads symbols tokens trees left) :
    ∃ trees : List (Synthesis.Tree W), grammar.Reads symbols tokens trees left := by
  induction h with
  | nil => exact ⟨[], .nil⟩
  | empty _ ih =>
    obtain ⟨trees, h⟩ := ih
    exact ⟨trees, .empty h⟩
  | terminal heq _ ih =>
    obtain ⟨trees, h⟩ := ih
    exact ⟨_, .terminal heq h⟩
  | @decline name _ _ _ _ _ _ hrule hdeclines _ ih =>
    obtain ⟨trees, h⟩ := ih
    exact ⟨.node (nodeName name) [] [] :: trees, .decline hrule hdeclines h⟩
  | @pick name _ _ _ _ _ _ _ _ _ _ hrule halt hpicks _ _ ihbody ihrest =>
    obtain ⟨children, hbody⟩ := ihbody
    obtain ⟨trees, h⟩ := ihrest
    exact ⟨.node (nodeName name) [] children :: trees, .pick hrule halt hpicks hbody h⟩

/-! ## Derived tokens -/

/-- What can stand behind the non-terminals of the symbols, when `t` stands behind them all, is known to
the analysis. -/
def Expects (grammar : Grammar) (t : Terminal) (symbols : List Symbol) : Prop :=
  ∀ front name back, symbols = front ++ .nonTerminal name :: back →
    (∀ s, grammar.flat.Begins s back → grammar.flat.Follows s name) ∧
      (grammar.flat.Vanishes back → grammar.flat.Follows t name)

theorem Expects.tail {symbol : Symbol} (h : grammar.Expects t (symbol :: symbols)) :
    grammar.Expects t symbols := by
  rintro front name back rfl
  exact h (symbol :: front) name back rfl

/-- A non-terminal in an alternative stands so in its flat form, before a rest that begins and vanishes
like its own. -/
theorem mem_flat_alternative {front back : List Symbol} {name : String}
    (halt : alternative ∈ rule.alternatives)
    (heq : alternative.symbols = front ++ .nonTerminal name :: back) :
    ∃ rest, front ++ .nonTerminal name :: rest ∈
        rule.alternatives.map (Flat.alternative grammar.start rule.name) ∧
      (∀ s, grammar.flat.Begins s back → grammar.flat.Begins s rest) ∧
      (grammar.flat.Vanishes back → grammar.flat.Vanishes rest) := by
  have hmem : Flat.alternative grammar.start rule.name alternative ∈
      rule.alternatives.map (Flat.alternative grammar.start rule.name) := List.mem_map_of_mem halt
  rcases flat_alternative_eq grammar.start rule.name alternative with hflat | hflat
  · rw [hflat, heq] at hmem
    exact ⟨back, hmem, fun _ h => h, fun h => h⟩
  · rw [hflat, heq, List.append_assoc, List.cons_append] at hmem
    exact ⟨_, hmem, fun s hs => Flat.begins_append_iff.mpr (Or.inl hs),
      fun hv => Flat.vanishes_append_iff.mpr ⟨hv, .endOfInput .nil⟩⟩

theorem expects_alternative (hrule : rule ∈ grammar.rules) (halt : alternative ∈ rule.alternatives)
    (hfollows : grammar.flat.Follows t rule.name) : grammar.Expects t alternative.symbols := by
  intro front name back heq
  obtain ⟨rest, hmem, hbegins, hvanishes⟩ := mem_flat_alternative halt heq
  exact ⟨fun s hs => Flat.Follows.of_begins (rule_mem_flat hrule) hmem (hbegins s hs),
    fun hv => Flat.Follows.of_vanishes (rule_mem_flat hrule) hmem (hvanishes hv) hfollows⟩

theorem expects_start : grammar.Expects .endOfInput [.nonTerminal grammar.start] := by
  intro front name back heq
  rcases front with _ | ⟨symbol, front⟩
  · cases heq
    exact ⟨fun s hs => absurd hs Flat.begins_nil, fun _ => .start rfl⟩
  · simp at heq

section

variable {α : Type} {terminal : α → Terminal} {next : α}

/-- What comes behind the first symbol follows it. -/
theorem follows_of_derives {name : String} {rest : List Symbol} {back : List α} (more : List α)
    (hrest : grammar.Derives rest (back.map terminal))
    (hexpects : grammar.Expects (terminal next) (.nonTerminal name :: rest)) :
    ∃ token tail, back ++ next :: more = token :: tail ∧ grammar.flat.Follows (terminal token) name := by
  obtain ⟨hbegins, hvanishes⟩ := hexpects [] name rest rfl
  cases back with
  | nil => exact ⟨next, more, rfl, hvanishes (hrest.vanishes rfl)⟩
  | cons token back => exact ⟨token, back ++ next :: more, rfl, hbegins _ (hrest.begins rfl)⟩

/-- The first of what is derived, followed as expected, picks its alternative. -/
theorem picks_of_derives {front : List α} (more : List α)
    (hbody : grammar.Derives alternative.symbols (front.map terminal))
    (hfollows : grammar.flat.Follows (terminal next) rule.name) :
    ∃ token tail, front ++ next :: more = token :: tail ∧
      grammar.Picks rule alternative (terminal token) := by
  cases front with
  | nil => exact ⟨next, more, rfl, Or.inr ⟨hbody.vanishes rfl, hfollows⟩⟩
  | cons token front => exact ⟨token, front ++ next :: more, rfl, Or.inl (hbody.begins rfl)⟩

end

/-- **Derived tokens can be read.** -/
theorem reads_of_derives (V : Type) {word : List Terminal} (h : grammar.Derives symbols word)
    {front more : List Token} {next : Token} (hword : word = front.map Token.terminal)
    (hexpects : grammar.Expects next.terminal symbols) :
    ∃ trees : List (Synthesis.Tree V),
      grammar.Reads symbols (front ++ next :: more) trees (next :: more) := by
  induction h generalizing front next more with
  | nil =>
    cases List.map_eq_nil_iff.mp hword.symm
    exact ⟨[], .nil⟩
  | empty _ ih =>
    obtain ⟨trees, htrees⟩ := ih hword hexpects.tail
    exact ⟨trees, .empty htrees⟩
  | terminal _ _ ih =>
    obtain ⟨token, front, rfl, heq, hrest⟩ := List.map_eq_cons_iff.mp hword.symm
    obtain ⟨trees, htrees⟩ := ih hrest.symm hexpects.tail
    exact ⟨_, .terminal heq htrees⟩
  | @nonTerminal name rule alternative _ _ _ hrule halt hbody hrest ihbody ihrest =>
    obtain ⟨inner, back, rfl, rfl, rfl⟩ := List.map_eq_append_iff.mp hword.symm
    obtain ⟨hmem, rfl⟩ := mem_of_rule? hrule
    obtain ⟨behind, others, hbehind, hfollows⟩ := follows_of_derives more hrest hexpects
    obtain ⟨token, tail, htoken, hpicks⟩ := picks_of_derives others hbody hfollows
    obtain ⟨children, hchildren⟩ :=
      @ihbody inner others behind rfl (expects_alternative hmem halt hfollows)
    obtain ⟨trees, htrees⟩ := @ihrest back more next rfl hexpects.tail
    rw [List.append_assoc, hbehind, htoken]
    rw [htoken] at hchildren
    rw [hbehind] at htrees
    exact ⟨.node (nodeName rule.name) [] children :: trees, .pick hrule halt hpicks hchildren htrees⟩

/-- **However derived tokens are read, they are read to their end and the trees are derivation
trees.** -/
theorem grows_of_reads (hpredictive : grammar.Predictive) {word : List Terminal}
    (h : grammar.Derives symbols word) {front more : List Token} {next : Token}
    (hword : word = front.map Token.terminal) (hexpects : grammar.Expects next.terminal symbols)
    (hreads : grammar.Reads symbols (front ++ next :: more) trees left) :
    left = next :: more ∧ grammar.Grows symbols trees front := by
  induction h generalizing front next more trees left with
  | nil =>
    cases List.map_eq_nil_iff.mp hword.symm
    cases hreads
    exact ⟨rfl, .nil⟩
  | empty _ ih =>
    generalize hahead : front ++ next :: more = ahead at hreads
    cases hreads with
    | empty hreads =>
      subst hahead
      obtain ⟨rfl, hgrows⟩ := ih hword hexpects.tail hreads
      exact ⟨rfl, .empty hgrows⟩
    | terminal heq => exact absurd heq (Token.terminal_ne_empty _)
  | terminal hne _ ih =>
    obtain ⟨token, front, rfl, rfl, hrest⟩ := List.map_eq_cons_iff.mp hword.symm
    generalize hsymbol : token.terminal = t at hne hreads
    cases hreads with
    | empty => exact absurd rfl hne
    | terminal _ hreads =>
      subst hsymbol
      obtain ⟨rfl, hgrows⟩ := ih hrest.symm hexpects.tail hreads
      exact ⟨rfl, .terminal hgrows⟩
  | @nonTerminal name rule alternative _ _ _ hrule halt hbody hrest ihbody ihrest =>
    obtain ⟨inner, back, rfl, rfl, rfl⟩ := List.map_eq_append_iff.mp hword.symm
    obtain ⟨hmem, rfl⟩ := mem_of_rule? hrule
    obtain ⟨behind, others, hbehind, hfollows⟩ := follows_of_derives more hrest hexpects
    obtain ⟨token, tail, htoken, hpicks⟩ := picks_of_derives others hbody hfollows
    rw [List.append_assoc, hbehind, htoken] at hreads
    cases hreads with
    | decline hrule' hdeclines =>
      cases hrule.symm.trans hrule'
      exact absurd hpicks (hdeclines.not_picks halt)
    | pick hrule' halt' hpicks' hchildren htrees =>
      cases hrule.symm.trans hrule'
      cases hpredictive.eq_of_picks hmem halt halt' hpicks hpicks'
      rw [← htoken] at hchildren
      obtain ⟨rfl, hinner⟩ := ihbody rfl (expects_alternative hmem halt hfollows) hchildren
      rw [← hbehind] at htrees
      obtain ⟨rfl, hback⟩ := ihrest rfl hexpects.tail htrees
      exact ⟨rfl, .nonTerminal hrule halt hinner hback⟩

end AttributeGrammar.Grammar
