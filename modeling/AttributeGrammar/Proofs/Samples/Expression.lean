import AttributeGrammar.Proofs.Language.Derivation
import AttributeGrammar.Samples.Calculator
import Mathlib.Data.Nat.Digits.Defs

/-!
# Expressions of the calculator

* `Lexeme` — a sign or a run of digits.
* `Expr`, `Term`, `Factor` — syntax trees. Sums and products grow to the right, so that their operators
  associate to the left; what is multiplied are factors and what is added are products.
* `Expr.value` — the value of an expression, or the message of the first operation that leaves 32 bits.
* `Expr.text` — the text of an expression, without blanks.
* `Rules` — the rules of the calculator; `derives_iff_exists` — they derive the words of the syntax trees.
-/

set_option autoImplicit false

namespace AttributeGrammar.Samples.Calculator

/-! ## Lexemes -/

inductive Sign where
  | left
  | right
  | plus
  | minus
  | star
  | slash
deriving DecidableEq

def Sign.char : Sign → Char
  | .left => '('
  | .right => ')'
  | .plus => '+'
  | .minus => '-'
  | .star => '*'
  | .slash => '/'

theorem Sign.char_injective : Function.Injective Sign.char := by
  intro a b h
  cases a <;> cases b <;> first | rfl | simp [char] at h

/-- One or more decimal digits. -/
structure Digits where
  chars : List Char
  nonempty : chars ≠ []
  all_digits : ∀ c ∈ chars, Text.isAsciiDigit c

inductive Lexeme where
  | sign (sign : Sign)
  | number (digits : Digits)

namespace Lexeme

def chars : Lexeme → List Char
  | sign s => [s.char]
  | number digits => digits.chars

/-- The terminal that a lexeme stands for. -/
def terminal : Lexeme → Terminal
  | sign s => .text (String.ofList [s.char])
  | number _ => .regex "NUM"

@[simp] theorem terminal_ne_empty (lexeme : Lexeme) : lexeme.terminal ≠ .empty := by
  cases lexeme <;> simp [terminal]

theorem terminal_eq_sign {lexeme : Lexeme} {s : Sign} :
    lexeme.terminal = (sign s).terminal ↔ lexeme = sign s := by
  constructor
  · intro h
    cases lexeme with
    | number digits => cases h
    | sign other =>
      have hchar : other.char = s.char := by simpa [terminal] using h
      rw [Sign.char_injective hchar]
  · rintro rfl
    rfl

theorem terminal_eq_number {lexeme : Lexeme} :
    lexeme.terminal = .regex "NUM" ↔ ∃ digits, lexeme = number digits := by
  cases lexeme <;> simp [terminal]

end Lexeme

/-! ## Syntax trees -/

/-- The operators between terms. -/
inductive Additive where
  | plus
  | minus

/-- The operators between factors. -/
inductive Multiplicative where
  | times
  | divide

def Additive.sign : Additive → Sign
  | plus => .plus
  | minus => .minus

def Multiplicative.sign : Multiplicative → Sign
  | times => .star
  | divide => .slash

mutual

/-- A sum; the last operator comes last. -/
inductive Expr where
  | term (t : Term)
  | add (e : Expr) (operator : Additive) (t : Term)

/-- A product; the last operator comes last. -/
inductive Term where
  | factor (f : Factor)
  | mul (t : Term) (operator : Multiplicative) (f : Factor)

inductive Factor where
  | number (digits : Digits)
  | group (e : Expr)
  | negate (f : Factor)

end

mutual

def Expr.lexemes : Expr → List Lexeme
  | .term t => t.lexemes
  | .add e operator t => e.lexemes ++ .sign operator.sign :: t.lexemes

def Term.lexemes : Term → List Lexeme
  | .factor f => f.lexemes
  | .mul t operator f => t.lexemes ++ .sign operator.sign :: f.lexemes

def Factor.lexemes : Factor → List Lexeme
  | .number digits => [.number digits]
  | .group e => .sign .left :: (e.lexemes ++ [.sign .right])
  | .negate f => .sign .minus :: f.lexemes

end

/-- The text of some lexemes, without blanks between them. -/
def textOf (lexemes : List Lexeme) : String := String.ofList (lexemes.flatMap Lexeme.chars)

def Expr.text (e : Expr) : String := textOf e.lexemes

/-! ## Values -/

/-- A result of 32 bits, or the message that an operation has left them. -/
def within (operation : String) (n : Int) : Except String Int :=
  if -2 ^ 31 ≤ n ∧ n < 2 ^ 31 then .ok n else .error s!"attempt to {operation} with overflow"

/-- The quotient rounded toward zero; 0 if there is none or it does not fit into 32 bits. -/
def quotient (a b : Int) : Int :=
  if b = 0 ∨ 2 ^ 31 ≤ a.tdiv b then 0 else a.tdiv b

def Additive.apply : Additive → Int → Int → Except String Int
  | plus, a, b => within "add" (a + b)
  | minus, a, b => within "subtract" (a - b)

def Multiplicative.apply : Multiplicative → Int → Int → Except String Int
  | times, a, b => within "multiply" (a * b)
  | divide, a, b => .ok (quotient a b)

/-- The number that the digits stand for, the last of them for the ones. -/
def Digits.number (digits : Digits) : Nat :=
  Nat.ofDigits 10 (digits.chars.reverse.map fun c => c.toNat - '0'.toNat)

/-- The number that the digits stand for; 0 if it does not fit into 32 bits. -/
def Digits.value (digits : Digits) : Int :=
  if digits.number < 2 ^ 31 then digits.number else 0

mutual

/-- The value of an expression; the operands come before their operator, from left to right. -/
def Expr.value : Expr → Except String Int
  | .term t => t.value
  | .add e operator t => do
    let a ← e.value
    let b ← t.value
    operator.apply a b

def Term.value : Term → Except String Int
  | .factor f => f.value
  | .mul t operator f => do
    let a ← t.value
    let b ← f.value
    operator.apply a b

def Factor.value : Factor → Except String Int
  | .number digits => .ok digits.value
  | .group e => e.value
  | .negate f => do
    let a ← f.value
    within "negate" (-a)

end

/-! ## Derivations -/

/-- The symbol of a sign. -/
def Sign.symbol (s : Sign) : Symbol := .terminal (Lexeme.sign s).terminal

/-- The rules of the calculator and the symbols of their alternatives. -/
def rules : List (String × List (List Symbol)) :=
  [("expr", [[.nonTerminal "term", .nonTerminal "expr_tail"]]),
   ("expr_tail",
    [[Sign.plus.symbol, .nonTerminal "term", .nonTerminal "expr_tail"],
     [Sign.minus.symbol, .nonTerminal "term", .nonTerminal "expr_tail"],
     [.terminal .empty]]),
   ("term", [[.nonTerminal "factor", .nonTerminal "term_tail"]]),
   ("term_tail",
    [[Sign.star.symbol, .nonTerminal "factor", .nonTerminal "term_tail"],
     [Sign.slash.symbol, .nonTerminal "factor", .nonTerminal "term_tail"],
     [.terminal .empty]]),
   ("factor",
    [[.terminal (.regex "NUM")],
     [Sign.left.symbol, .nonTerminal "expr", Sign.right.symbol],
     [Sign.minus.symbol, .nonTerminal "factor"]])]

/-- The alternatives with the names of their rules. -/
def productions : List (String × List Symbol) :=
  rules.flatMap fun rule => rule.2.map fun symbols => (rule.1, symbols)

/-- A grammar with the rules of the calculator. -/
structure Rules (grammar : Grammar) : Prop where
  start : grammar.start = "expr"
  rules : grammar.rules.map (fun rule => (rule.name, rule.alternatives.map Alternative.symbols)) = rules

/-- What the words are that a rule derives. Those of a tail make sums or products longer. -/
structure Means (name : String) (word : List Lexeme) : Prop where
  expr : name = "expr" → ∃ e : Expr, e.lexemes = word
  exprTail : name = "expr_tail" → ∀ e : Expr, ∃ longer : Expr, longer.lexemes = e.lexemes ++ word
  term : name = "term" → ∃ t : Term, t.lexemes = word
  termTail : name = "term_tail" → ∀ t : Term, ∃ longer : Term, longer.lexemes = t.lexemes ++ word
  factor : name = "factor" → ∃ f : Factor, f.lexemes = word

/-- A word is made of words of the symbols. -/
def Composes : List Symbol → List Lexeme → Prop
  | [], word => word = []
  | .terminal .empty :: rest, word => Composes rest word
  | .terminal t :: rest, word =>
    ∃ lexeme back, lexeme.terminal = t ∧ word = lexeme :: back ∧ Composes rest back
  | .nonTerminal name :: rest, word =>
    ∃ front back, word = front ++ back ∧ Means name front ∧ Composes rest back

section Composes

variable {symbols : List Symbol} {word : List Lexeme} {name : String}

theorem composes_sign {s : Sign} :
    Composes (s.symbol :: symbols) word ↔ ∃ back, word = .sign s :: back ∧ Composes symbols back := by
  constructor
  · rintro ⟨lexeme, back, hterminal, rfl, hback⟩
    obtain rfl := Lexeme.terminal_eq_sign.mp hterminal
    exact ⟨back, rfl, hback⟩
  · rintro ⟨back, rfl, hback⟩
    exact ⟨.sign s, back, rfl, rfl, hback⟩

theorem composes_nonTerminal :
    Composes [.nonTerminal name] word ↔ Means name word := by
  constructor
  · rintro ⟨front, back, rfl, hfront, rfl⟩
    rwa [List.append_nil]
  · exact fun h => ⟨word, [], (List.append_nil word).symm, h, rfl⟩

theorem means_expr (h : Composes [.nonTerminal "term", .nonTerminal "expr_tail"] word) :
    Means "expr" word := by
  obtain ⟨front, back, rfl, hfront, hback⟩ := h
  obtain ⟨t, rfl⟩ := hfront.term rfl
  obtain ⟨e, he⟩ := (composes_nonTerminal.mp hback).exprTail rfl (.term t)
  exact ⟨fun _ => ⟨e, he⟩, by simp, by simp, by simp, by simp⟩

theorem means_exprTail (operator : Additive)
    (h : Composes [operator.sign.symbol, .nonTerminal "term", .nonTerminal "expr_tail"] word) :
    Means "expr_tail" word := by
  obtain ⟨_, rfl, front, back, rfl, hfront, hback⟩ := composes_sign.mp h
  obtain ⟨t, rfl⟩ := hfront.term rfl
  refine ⟨by simp, fun _ e => ?_, by simp, by simp, by simp⟩
  obtain ⟨longer, hlonger⟩ := (composes_nonTerminal.mp hback).exprTail rfl (.add e operator t)
  exact ⟨longer, by simpa [Expr.lexemes] using hlonger⟩

theorem means_exprTail_nil : Means "expr_tail" [] :=
  ⟨by simp, fun _ e => ⟨e, (List.append_nil _).symm⟩, by simp, by simp, by simp⟩

theorem means_term (h : Composes [.nonTerminal "factor", .nonTerminal "term_tail"] word) :
    Means "term" word := by
  obtain ⟨front, back, rfl, hfront, hback⟩ := h
  obtain ⟨f, rfl⟩ := hfront.factor rfl
  obtain ⟨t, ht⟩ := (composes_nonTerminal.mp hback).termTail rfl (.factor f)
  exact ⟨by simp, by simp, fun _ => ⟨t, ht⟩, by simp, by simp⟩

theorem means_termTail (operator : Multiplicative)
    (h : Composes [operator.sign.symbol, .nonTerminal "factor", .nonTerminal "term_tail"] word) :
    Means "term_tail" word := by
  obtain ⟨_, rfl, front, back, rfl, hfront, hback⟩ := composes_sign.mp h
  obtain ⟨f, rfl⟩ := hfront.factor rfl
  refine ⟨by simp, by simp, by simp, fun _ t => ?_, by simp⟩
  obtain ⟨longer, hlonger⟩ := (composes_nonTerminal.mp hback).termTail rfl (.mul t operator f)
  exact ⟨longer, by simpa [Term.lexemes] using hlonger⟩

theorem means_termTail_nil : Means "term_tail" [] :=
  ⟨by simp, by simp, by simp, fun _ t => ⟨t, (List.append_nil _).symm⟩, by simp⟩

theorem means_factor (f : Factor) : Means "factor" f.lexemes :=
  ⟨by simp, by simp, by simp, by simp, fun _ => ⟨f, rfl⟩⟩

/-- **The words of an alternative are what its rule means.** -/
theorem means_of_composes (hmem : (name, symbols) ∈ productions) (h : Composes symbols word) :
    Means name word := by
  simp only [productions, rules, List.flatMap_cons, List.flatMap_nil, List.map_cons, List.map_nil,
    List.cons_append, List.nil_append, List.mem_cons, Prod.mk.injEq, List.not_mem_nil, or_false] at hmem
  rcases hmem with ⟨rfl, rfl⟩ | ⟨rfl, rfl⟩ | ⟨rfl, rfl⟩ | ⟨rfl, rfl⟩ | ⟨rfl, rfl⟩ | ⟨rfl, rfl⟩ |
    ⟨rfl, rfl⟩ | ⟨rfl, rfl⟩ | ⟨rfl, rfl⟩ | ⟨rfl, rfl⟩ | ⟨rfl, rfl⟩
  · exact means_expr h
  · exact means_exprTail .plus h
  · exact means_exprTail .minus h
  · obtain rfl : word = [] := h
    exact means_exprTail_nil
  · exact means_term h
  · exact means_termTail .times h
  · exact means_termTail .divide h
  · obtain rfl : word = [] := h
    exact means_termTail_nil
  · obtain ⟨lexeme, back, hterminal, rfl, rfl⟩ := h
    obtain ⟨digits, rfl⟩ := Lexeme.terminal_eq_number.mp hterminal
    exact means_factor (.number digits)
  · obtain ⟨_, rfl, front, back, rfl, hfront, hback⟩ := composes_sign.mp h
    obtain ⟨e, rfl⟩ := hfront.expr rfl
    obtain ⟨_, rfl, rfl⟩ := composes_sign.mp hback
    exact means_factor (.group e)
  · obtain ⟨back, rfl, hback⟩ := composes_sign.mp h
    obtain ⟨f, rfl⟩ := (composes_nonTerminal.mp hback).factor rfl
    exact means_factor (.negate f)

end Composes

namespace Rules

variable {grammar : Grammar} {symbols : List Symbol} {word : List Lexeme} {name : String}

theorem keyed (h : Rules grammar) : grammar.Keyed := by
  have hnames : grammar.rules.map Rule.name = Calculator.rules.map Prod.fst := by
    rw [← h.rules, List.map_map]
    rfl
  rw [Grammar.Keyed, hnames]
  decide

theorem mem_productions_iff (h : Rules grammar) :
    (name, symbols) ∈ productions ↔ ∃ rule, grammar.rule? name = some rule ∧
      ∃ alternative ∈ rule.alternatives, alternative.symbols = symbols := by
  rw [productions, ← h.rules, List.flatMap_map]
  simp only [List.mem_flatMap, List.map_map, List.mem_map, Function.comp_apply, Prod.mk.injEq,
    Grammar.rule?_eq_some_iff h.keyed]
  constructor
  · rintro ⟨rule, hrule, alternative, halternative, rfl, rfl⟩
    exact ⟨rule, ⟨hrule, rfl⟩, alternative, halternative, rfl⟩
  · rintro ⟨rule, ⟨hrule, rfl⟩, alternative, halternative, rfl⟩
    exact ⟨rule, hrule, alternative, halternative, rfl, rfl⟩

/-- A word of terminals that are derived is made of words of the symbols. -/
theorem composes_of_derives (h : Rules grammar) {terminals : List Terminal}
    (hderives : grammar.Derives symbols terminals) (hword : word.map Lexeme.terminal = terminals) :
    Composes symbols word := by
  induction hderives generalizing word with
  | nil => exact List.map_eq_nil_iff.mp hword
  | empty _ ih => exact ih hword
  | @terminal t rest _ hne _ ih =>
    obtain ⟨lexeme, back, rfl, hlexeme, hback⟩ := List.map_eq_cons_iff.mp hword
    have hcomposes : ∃ lexeme' back', lexeme'.terminal = t ∧ lexeme :: back = lexeme' :: back' ∧
        Composes rest back' := ⟨lexeme, back, hlexeme, rfl, ih hback⟩
    cases t with
    | empty => exact absurd rfl hne
    | _ => exact hcomposes
  | nonTerminal hrule halternative _ _ ihbody ihrest =>
    obtain ⟨front, back, rfl, hfront, hback⟩ := List.map_eq_append_iff.mp hword
    have hmem := h.mem_productions_iff.mpr ⟨_, hrule, _, halternative, rfl⟩
    exact ⟨front, back, rfl, means_of_composes hmem (ihbody hfront), ihrest hback⟩

/-- What an alternative derives, its rule derives. -/
theorem derives_of_mem (h : Rules grammar) {terminals : List Terminal}
    (hmem : (name, symbols) ∈ productions) (hderives : grammar.Derives symbols terminals) :
    grammar.Derives [.nonTerminal name] terminals := by
  obtain ⟨rule, hrule, alternative, halternative, rfl⟩ := h.mem_productions_iff.mp hmem
  exact Grammar.derives_nonTerminal_iff.mpr ⟨rule, hrule, alternative, halternative, hderives⟩

theorem derives_sign (s : Sign) {terminals : List Terminal} (h : grammar.Derives symbols terminals) :
    grammar.Derives (s.symbol :: symbols) ((Lexeme.sign s).terminal :: terminals) :=
  .terminal (Lexeme.terminal_ne_empty _) h

theorem derives_exprTail (h : Rules grammar) (operator : Additive) {front back : List Terminal}
    (hfront : grammar.Derives [.nonTerminal "term"] front)
    (hback : grammar.Derives [.nonTerminal "expr_tail"] back) :
    grammar.Derives [.nonTerminal "expr_tail"]
      ((Lexeme.sign operator.sign).terminal :: (front ++ back)) := by
  refine h.derives_of_mem ?_ (derives_sign operator.sign (hfront.cons hback))
  cases operator <;> simp [productions, Calculator.rules, Additive.sign]

theorem derives_exprTail_nil (h : Rules grammar) : grammar.Derives [.nonTerminal "expr_tail"] [] :=
  h.derives_of_mem (by simp [productions, Calculator.rules]) (.empty .nil)

theorem derives_termTail (h : Rules grammar) (operator : Multiplicative) {front back : List Terminal}
    (hfront : grammar.Derives [.nonTerminal "factor"] front)
    (hback : grammar.Derives [.nonTerminal "term_tail"] back) :
    grammar.Derives [.nonTerminal "term_tail"]
      ((Lexeme.sign operator.sign).terminal :: (front ++ back)) := by
  refine h.derives_of_mem ?_ (derives_sign operator.sign (hfront.cons hback))
  cases operator <;> simp [productions, Calculator.rules, Multiplicative.sign]

theorem derives_termTail_nil (h : Rules grammar) : grammar.Derives [.nonTerminal "term_tail"] [] :=
  h.derives_of_mem (by simp [productions, Calculator.rules]) (.empty .nil)

/-! The induction takes along what is derived for the rest of a sum or product. -/

mutual

theorem derives_expr (h : Rules grammar) : ∀ (e : Expr) {back : List Terminal},
    grammar.Derives [.nonTerminal "expr_tail"] back →
    grammar.Derives [.nonTerminal "expr"] (e.lexemes.map Lexeme.terminal ++ back)
  | .term t, back, hback => by
    have hterm := h.derives_term t h.derives_termTail_nil
    rw [List.append_nil] at hterm
    exact h.derives_of_mem (by simp [productions, Calculator.rules]) (hterm.cons hback)
  | .add e operator t, back, hback => by
    have hterm := h.derives_term t h.derives_termTail_nil
    rw [List.append_nil] at hterm
    have hsum := h.derives_expr e (h.derives_exprTail operator hterm hback)
    simpa [Expr.lexemes] using hsum

theorem derives_term (h : Rules grammar) : ∀ (t : Term) {back : List Terminal},
    grammar.Derives [.nonTerminal "term_tail"] back →
    grammar.Derives [.nonTerminal "term"] (t.lexemes.map Lexeme.terminal ++ back)
  | .factor f, back, hback =>
    h.derives_of_mem (by simp [productions, Calculator.rules]) ((h.derives_factor f).cons hback)
  | .mul t operator f, back, hback => by
    have hproduct := h.derives_term t (h.derives_termTail operator (h.derives_factor f) hback)
    simpa [Term.lexemes] using hproduct

theorem derives_factor (h : Rules grammar) : ∀ f : Factor,
    grammar.Derives [.nonTerminal "factor"] (f.lexemes.map Lexeme.terminal)
  | .number digits => by
    have hnumber : grammar.Derives [.terminal (.regex "NUM")] [(Lexeme.number digits).terminal] :=
      .terminal (by simp) .nil
    exact h.derives_of_mem (by simp [productions, Calculator.rules]) hnumber
  | .group e => by
    have hinner := h.derives_expr e h.derives_exprTail_nil
    have hgroup := derives_sign .left (hinner.cons (derives_sign .right .nil))
    simpa [Factor.lexemes] using
      h.derives_of_mem (by simp [productions, Calculator.rules]) hgroup
  | .negate f => by
    have hnegate := derives_sign .minus (h.derives_factor f)
    exact h.derives_of_mem (by simp [productions, Calculator.rules]) hnegate

end

/-- **The start rule derives the words of the expressions.** -/
theorem derives_iff_exists (h : Rules grammar) :
    grammar.Derives [.nonTerminal grammar.start] (word.map Lexeme.terminal) ↔
      ∃ e : Expr, e.lexemes = word := by
  rw [h.start]
  constructor
  · intro hderives
    exact (composes_nonTerminal.mp (h.composes_of_derives hderives rfl)).expr rfl
  · rintro ⟨e, rfl⟩
    simpa using h.derives_expr e h.derives_exprTail_nil

end Rules

end AttributeGrammar.Samples.Calculator
