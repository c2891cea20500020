import AttributeGrammar.Proofs.Language.Derivation
import Mathlib.Logic.Relation

/-!
# Derivations step by step

A derivation replaces one symbol of a sequence after another. The marker for the empty string stands for
nothing, so it is erased from every sequence before a derivation starts.

* `Productions.Rewrites`, `Productions.Derives` — one replacement, and any number of them.
* `Grammar.written` — a rule is replaced by one of its alternatives.
* `Grammar.ended` — the end of the input stands behind the alternatives of the start rule, and may be left
  out wherever it stands.
* `Grammar.written_derives_of_ended`, `Grammar.ended_derives_of_written` — the two derive the same but for
  the end of the input.
-/

set_option autoImplicit false

namespace AttributeGrammar

open Relation (ReflTransGen)

/-- What a symbol may be replaced by. -/
def Productions : Type := Symbol → List Symbol → Prop

namespace Productions

variable {productions : Productions} {a b c d front back body : List Symbol} {symbol : Symbol}

/-- One symbol is replaced. -/
inductive Rewrites (productions : Productions) : List Symbol → List Symbol → Prop where
  | replace {symbol : Symbol} {body : List Symbol} (front back : List Symbol) :
      productions symbol body → Rewrites productions (front ++ symbol :: back) (front ++ body ++ back)

/-- Symbols are replaced, one after another. -/
def Derives (productions : Productions) : List Symbol → List Symbol → Prop :=
  ReflTransGen productions.Rewrites

theorem Derives.refl (a : List Symbol) : productions.Derives a a := ReflTransGen.refl

theorem Derives.trans (h : productions.Derives a b) (h' : productions.Derives b c) :
    productions.Derives a c :=
  ReflTransGen.trans h h'

theorem Rewrites.derives (h : productions.Rewrites a b) : productions.Derives a b := ReflTransGen.single h

theorem derives_of_produces (h : productions symbol body) : productions.Derives [symbol] body := by
  simpa using (Rewrites.replace [] [] h).derives

theorem Rewrites.context (h : productions.Rewrites a b) (front back : List Symbol) :
    productions.Rewrites (front ++ a ++ back) (front ++ b ++ back) := by
  cases h with
  | replace inner outer hproduces =>
    simpa using Rewrites.replace (front ++ inner) (outer ++ back) hproduces

theorem Derives.context (h : productions.Derives a b) (front back : List Symbol) :
    productions.Derives (front ++ a ++ back) (front ++ b ++ back) := by
  induction h with
  | refl => exact .refl _
  | tail _ hstep ih => exact ih.trans (hstep.context front back).derives

theorem Derives.append (hfront : productions.Derives a b) (hback : productions.Derives c d) :
    productions.Derives (a ++ c) (b ++ d) := by
  have hleft := hfront.context [] c
  have hright := hback.context b []
  simp only [List.nil_append, List.append_nil] at hleft hright
  exact hleft.trans hright

/-- A derivation goes on at one of the symbols that it has derived. -/
theorem Derives.inside (h : productions.Derives a (front ++ symbol :: back))
    (hsymbol : productions.Derives [symbol] body) : productions.Derives a (front ++ body ++ back) := by
  have hcontext := hsymbol.context front back
  rw [List.append_assoc, List.singleton_append] at hcontext
  exact h.trans hcontext

/-- A derivation goes on behind one of the symbols that it has derived. -/
theorem Derives.behind (h : productions.Derives a (front ++ symbol :: back))
    (hback : productions.Derives back b) : productions.Derives a (front ++ symbol :: b) :=
  h.trans ((Derives.refl front).append ((Derives.refl [symbol]).append hback))

/-- What every replacement preserves, a derivation preserves. -/
theorem Derives.preserves {P : List Symbol → Prop} (step : ∀ a b, productions.Rewrites a b → P a → P b)
    (h : productions.Derives a b) (ha : P a) : P b := by
  induction h with
  | refl => exact ha
  | tail _ hstep ih => exact step _ _ hstep ih

/-- What every replacement leads back to, a derivation leads back to. -/
theorem Derives.reflects {P : List Symbol → Prop} (step : ∀ a b, productions.Rewrites a b → P b → P a)
    (h : productions.Derives a b) (hb : P b) : P a := by
  induction h using ReflTransGen.head_induction_on with
  | refl => exact hb
  | head hstep _ ih => exact step _ _ hstep ih

end Productions

/-! ## Erasing a terminal -/

/-- The symbols without the occurrences of a terminal. -/
def eraseTerminal (t : Terminal) (symbols : List Symbol) : List Symbol :=
  symbols.filter (· ≠ .terminal t)

section

variable {s t : Terminal} {symbols front back : List Symbol} {symbol : Symbol} {name : String}

@[simp] theorem eraseTerminal_nil : eraseTerminal t [] = [] := rfl

@[simp] theorem eraseTerminal_append :
    eraseTerminal t (front ++ back) = eraseTerminal t front ++ eraseTerminal t back :=
  List.filter_append ..

@[simp] theorem eraseTerminal_cons_self :
    eraseTerminal t (.terminal t :: symbols) = eraseTerminal t symbols := by
  simp [eraseTerminal]

@[simp] theorem eraseTerminal_cons_nonTerminal :
    eraseTerminal t (.nonTerminal name :: symbols) = .nonTerminal name :: eraseTerminal t symbols := by
  simp [eraseTerminal]

theorem eraseTerminal_cons_of_ne (h : s ≠ t) :
    eraseTerminal t (.terminal s :: symbols) = .terminal s :: eraseTerminal t symbols := by
  simp [eraseTerminal, h]

theorem mem_eraseTerminal : symbol ∈ eraseTerminal t symbols ↔ symbol ∈ symbols ∧ symbol ≠ .terminal t := by
  simp [eraseTerminal]

theorem eraseTerminal_eq_self (h : .terminal t ∉ symbols) : eraseTerminal t symbols = symbols := by
  refine List.filter_eq_self.mpr fun symbol hsymbol => decide_eq_true fun heq => h ?_
  exact heq ▸ hsymbol

theorem eraseTerminal_comm :
    eraseTerminal s (eraseTerminal t symbols) = eraseTerminal t (eraseTerminal s symbols) := by
  simp [eraseTerminal, List.filter_filter, Bool.and_comm]

end

/-! ## The productions of a grammar -/

namespace Grammar

open Productions (Rewrites)

variable {grammar : Grammar} {a b symbols : List Symbol} {rule : Rule} {alternative : Alternative}

/-- The grammar as it is written: a rule is replaced by one of its alternatives. -/
def written (grammar : Grammar) : Productions := fun symbol body =>
  ∃ rule ∈ grammar.rules, ∃ alternative ∈ rule.alternatives,
    symbol = .nonTerminal rule.name ∧ body = eraseTerminal .empty alternative.symbols

/-- The grammar with the end of the input behind every alternative of the start rule; the end of the input
may be left out. -/
def ended (grammar : Grammar) : Productions := fun symbol body =>
  (∃ rule ∈ grammar.rules, ∃ alternative ∈ rule.alternatives, symbol = .nonTerminal rule.name ∧
    body = eraseTerminal .empty (if rule.name = grammar.start
      then alternative.symbols ++ [.terminal .endOfInput] else alternative.symbols)) ∨
  (symbol = .terminal .endOfInput ∧ body = [])

theorem written_alternative (hrule : rule ∈ grammar.rules) (halt : alternative ∈ rule.alternatives) :
    grammar.written.Derives [.nonTerminal rule.name] (eraseTerminal .empty alternative.symbols) :=
  Productions.derives_of_produces ⟨rule, hrule, alternative, halt, rfl, rfl⟩

theorem ended_alternative (hrule : rule ∈ grammar.rules) (halt : alternative ∈ rule.alternatives) :
    grammar.ended.Derives [.nonTerminal rule.name]
      (eraseTerminal .empty (Flat.alternative grammar.start rule.name alternative)) :=
  Productions.derives_of_produces (Or.inl ⟨rule, hrule, alternative, halt, rfl, rfl⟩)

/-- A rule of the flat form is replaced by one of its alternatives. -/
theorem ended_of_mem_flat {flatRule : String × List (List Symbol)} (hrule : flatRule ∈ grammar.flat.rules)
    (halt : symbols ∈ flatRule.2) :
    grammar.ended.Derives [.nonTerminal flatRule.1] (eraseTerminal .empty symbols) := by
  obtain ⟨name, alternatives⟩ := flatRule
  obtain ⟨rule, hmem, rfl, rfl⟩ := mem_flat_rules.mp hrule
  obtain ⟨alternative, halternative, rfl⟩ := List.mem_map.mp halt
  exact ended_alternative hmem halternative

theorem ended_endOfInput : grammar.ended.Derives [.terminal .endOfInput] [] :=
  Productions.derives_of_produces (Or.inr ⟨rfl, rfl⟩)

theorem eraseEnd_eq_self (h : .terminal .endOfInput ∉ symbols) :
    eraseTerminal .endOfInput (eraseTerminal .empty symbols) = eraseTerminal .empty symbols := by
  rw [eraseTerminal_comm, eraseTerminal_eq_self h]

theorem eraseEnd_alternative (start name : String) (alternative : Alternative) :
    eraseTerminal .endOfInput (eraseTerminal .empty (Flat.alternative start name alternative)) =
      eraseTerminal .empty alternative.symbols := by
  have hsymbols := eraseEnd_eq_self (endOfInput_notMem_symbols alternative)
  rcases flat_alternative_eq start name alternative with heq | heq
  · rw [heq, hsymbols]
  · rw [heq, eraseTerminal_append, eraseTerminal_append, hsymbols]
    simp [eraseTerminal]

theorem written_derives_of_ended_rewrites (h : grammar.ended.Rewrites a b) :
    grammar.written.Derives (eraseTerminal .endOfInput a) (eraseTerminal .endOfInput b) := by
  cases h with
  | replace front back hproduces =>
    simp only [eraseTerminal_append]
    rcases hproduces with ⟨rule, hrule, alternative, halt, rfl, rfl⟩ | ⟨rfl, rfl⟩
    · have hbody := written_alternative hrule halt
      rw [← eraseEnd_alternative grammar.start rule.name] at hbody
      simpa [Flat.alternative] using
        hbody.context (eraseTerminal .endOfInput front) (eraseTerminal .endOfInput back)
    · simpa using Productions.Derives.refl _

/-- **What is derived with the end of the input is derived as written without it.** -/
theorem written_derives_of_ended (h : grammar.ended.Derives a b) :
    grammar.written.Derives (eraseTerminal .endOfInput a) (eraseTerminal .endOfInput b) := by
  induction h with
  | refl => exact .refl _
  | tail _ hstep ih => exact ih.trans (written_derives_of_ended_rewrites hstep)

/-- The end of the input behind an alternative of the start rule may be left out. -/
theorem ended_written_alternative (hrule : rule ∈ grammar.rules) (halt : alternative ∈ rule.alternatives) :
    grammar.ended.Derives [.nonTerminal rule.name] (eraseTerminal .empty alternative.symbols) := by
  have hbody := ended_alternative hrule halt
  rcases flat_alternative_eq grammar.start rule.name alternative with heq | heq
  · rwa [heq] at hbody
  · have hend : grammar.ended.Derives (eraseTerminal .empty [.terminal .endOfInput]) [] := ended_endOfInput
    rw [heq, eraseTerminal_append] at hbody
    simpa using hbody.trans ((Productions.Derives.refl _).append hend)

/-- **What is derived as written is derived with the end of the input**, which is left out everywhere. -/
theorem ended_derives_of_written (h : grammar.written.Derives a b) : grammar.ended.Derives a b := by
  induction h with
  | refl => exact .refl _
  | tail _ hstep ih =>
    refine ih.trans ?_
    cases hstep with
    | replace front back hproduces =>
      obtain ⟨rule, hrule, alternative, halt, rfl, rfl⟩ := hproduces
      simpa using (ended_written_alternative hrule halt).context front back

end Grammar

end AttributeGrammar
