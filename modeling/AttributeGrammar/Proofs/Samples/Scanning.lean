import AttributeGrammar.Proofs.Samples.Expression
import AttributeGrammar.Proofs.Scan.Longest
import Mathlib.Data.List.Chain
import Mathlib.Data.List.Forall2

/-!
# Scanning expressions

* `digitsPattern`, `matchEnd?_digits` — the pattern of numbers matches a run of digits up to its end.
* `scanTables` — what the scanner of the calculator looks for.
* `Apart` — lexemes that can be told apart when nothing is between them.
* `delivers_word` — the text of such lexemes is scanned to one token for each, and the end.
* `Expr.apart` — the lexemes of an expression can be told apart.
-/

set_option autoImplicit false

namespace AttributeGrammar.Samples.Calculator

/-! ## Runs of digits -/

/-- The program of an anchored run of digits. -/
def digitsPattern : Pattern.Compiled :=
  ⟨#[.assert .textStart, .set ⟨[(0x30, 0x39)]⟩, .split 1 3, .accept], true⟩

theorem compileToken?_digits : Pattern.compileToken? "[0-9]+" = some digitsPattern := by
  decide +kernel

section Search

variable {before after : Option Char} {c : Char} {text : List Char}

theorem contains_digits (c : Char) :
    (⟨[(0x30, 0x39)]⟩ : CodeSet).contains c.toNat = Text.isAsciiDigit c := by
  simp [CodeSet.contains, Text.isAsciiDigit, Char.le_def, UInt32.le_iff_toNat_le]

theorem threads_start : Search.threads digitsPattern.program none after [0] = [1] := by
  rfl

theorem threads_again : Search.threads digitsPattern.program before after [2] = [1, 3] := by
  rfl

theorem advance_digit :
    Search.advance digitsPattern.program c [1] = if Text.isAsciiDigit c then [2] else [] := by
  have hway : digitsPattern.program[1]? = some (.set ⟨[(0x30, 0x39)]⟩) := rfl
  simp only [Search.advance, List.filterMap_cons, List.filterMap_nil, hway, contains_digits]
  split <;> simp_all

/-- Behind a digit the search goes on to the end of the run. -/
theorem run_again {position : Nat} {best : Option Nat} :
    Search.run digitsPattern.program true before [2] position best text =
      some (position + (text.takeWhile Text.isAsciiDigit).length) := by
  have hways : Search.untilAccept digitsPattern.program [1, 3] = ([1], true) := rfl
  induction text generalizing before position best with
  | nil =>
    rw [Search.run]
    simp [threads_again, hways]
  | cons c rest ih =>
    rw [Search.run]
    simp only [Bool.true_or, if_true, threads_again, hways, advance_digit]
    by_cases hdigit : Text.isAsciiDigit c
    · simp [hdigit, ih]
      omega
    · simp [hdigit]

/-- **The pattern of numbers matches the digits at the front of a text.** -/
theorem matchEnd?_digits (text : List Char) :
    digitsPattern.matchEnd? text =
      if text.takeWhile Text.isAsciiDigit = [] then none
      else some (text.takeWhile Text.isAsciiDigit).length := by
  have hways : Search.untilAccept digitsPattern.program [1] = ([1], false) := rfl
  have hanchored : digitsPattern.anchored = true := rfl
  unfold Pattern.Compiled.matchEnd?
  rw [hanchored]
  cases text with
  | nil =>
    rw [Search.run]
    simp [threads_start, hways]
  | cons c rest =>
    rw [Search.run]
    simp only [Bool.true_or, if_true, threads_start, hways, advance_digit]
    by_cases hdigit : Text.isAsciiDigit c
    · simp [hdigit, run_again]
      omega
    · simp [hdigit]

end Search

/-! ## Tokens -/

/-- What the scanner of the calculator looks for. -/
def scanTables : Tables :=
  ⟨[Sign.left, .right, .star, .plus, .minus, .slash].map fun s => [s.char], [(.regex "NUM", digitsPattern)]⟩

/-- A token stands for a lexeme and has its text. -/
def Spells (token : Token) (lexeme : Lexeme) : Prop :=
  token.terminal = lexeme.terminal ∧ token.text = String.ofList lexeme.chars

/-- Lexemes that can be told apart when nothing is between them. -/
def Lexeme.Apart : Lexeme → Lexeme → Prop
  | .number _, .number _ => False
  | _, _ => True

theorem longestRegex_eq (text : List Char) :
    scanTables.longestRegex text =
      if text.takeWhile Text.isAsciiDigit = [] then (.endOfInput, 0)
      else (.regex "NUM", (text.takeWhile Text.isAsciiDigit).length) := by
  simp only [Tables.longestRegex, scanTables, List.foldl_cons, List.foldl_nil, matchEnd?_digits]
  by_cases h : text.takeWhile Text.isAsciiDigit = []
  · simp only [h, if_true]
  · simp only [h, if_false, List.length_pos_iff.mpr h, if_true]

theorem longest?_sign (s : Sign) (rest : List Char) :
    scanTables.longest? (s.char :: rest) = some (.text, 1) := by
  have hregex : scanTables.longestRegex (s.char :: rest) = (.endOfInput, 0) := by
    rw [longestRegex_eq]
    cases s <;> simp [Sign.char, Text.isAsciiDigit]
  have hliteral : scanTables.longestLiteral (s.char :: rest) = 1 := by
    refine (scanTables.isGreatest_longestLiteral _).unique
      ⟨.inr ⟨[s.char], ?_, List.prefix_append [_] rest, rfl⟩, ?_⟩
    · cases s <;> simp [scanTables, Sign.char]
    · rintro length (rfl | ⟨literal, hliteral, -, rfl⟩)
      · omega
      · obtain ⟨other, -, rfl⟩ := List.mem_map.mp hliteral
        exact Nat.le_refl 1
  simp [Tables.longest?, hregex, hliteral]

theorem takeWhile_digits (digits : Digits) {rest : List Char}
    (hrest : ∀ c ∈ rest.head?, ¬ Text.isAsciiDigit c) :
    (digits.chars ++ rest).takeWhile Text.isAsciiDigit = digits.chars := by
  rw [List.takeWhile_append_of_pos digits.all_digits]
  cases rest with
  | nil => simp
  | cons c rest =>
    have hc := hrest c rfl
    simp [hc]

theorem longest?_number (digits : Digits) {rest : List Char}
    (hrest : ∀ c ∈ rest.head?, ¬ Text.isAsciiDigit c) :
    scanTables.longest? (digits.chars ++ rest) = some (.regex "NUM", digits.chars.length) := by
  have hregex : scanTables.longestRegex (digits.chars ++ rest) = (.regex "NUM", digits.chars.length) := by
    rw [longestRegex_eq, takeWhile_digits digits hrest, if_neg digits.nonempty]
  have hliteral : scanTables.longestLiteral (digits.chars ++ rest) = 0 := by
    obtain ⟨c, chars, hchars⟩ := List.exists_cons_of_ne_nil digits.nonempty
    have hdigit : Text.isAsciiDigit c := digits.all_digits c (hchars ▸ List.mem_cons_self)
    refine (scanTables.isGreatest_longestLiteral _).unique ⟨.inl rfl, ?_⟩
    rintro length (rfl | ⟨literal, hliteral, hfits, -⟩)
    · exact Nat.le_refl 0
    · obtain ⟨s, -, rfl⟩ := List.mem_map.mp hliteral
      rw [hchars] at hfits
      obtain rfl : s.char = c := (List.cons_prefix_cons.mp hfits).1
      cases s <;> simp [Sign.char, Text.isAsciiDigit] at hdigit
  have hpos : 0 < digits.chars.length := List.length_pos_iff.mpr digits.nonempty
  simp [Tables.longest?, hregex, hliteral, hpos]

theorem Lexeme.chars_ne_nil (lexeme : Lexeme) : lexeme.chars ≠ [] := by
  cases lexeme with
  | sign s => simp [chars]
  | number digits => exact digits.nonempty

/-- The text of lexemes that do not start with a number does not start with a digit. -/
theorem not_digit_of_mem_head? {word : List Lexeme} (hword : ∀ digits back, word ≠ .number digits :: back) :
    ∀ c ∈ (word.flatMap Lexeme.chars).head?, ¬ Text.isAsciiDigit c := by
  intro c hc
  cases word with
  | nil => cases hc
  | cons lexeme back =>
    cases lexeme with
    | number digits => exact absurd rfl (hword digits back)
    | sign s =>
      obtain rfl : s.char = c := by simpa [Lexeme.chars] using hc
      cases s <;> simp [Sign.char, Text.isAsciiDigit]

/-- The longest token at the front of lexemes that can be told apart is the first of them. -/
theorem longest?_lexeme {lexeme : Lexeme} {word : List Lexeme} (h : (lexeme :: word).IsChain Lexeme.Apart)
    (offset : Nat) :
    ∃ kind, scanTables.longest? (lexeme.chars ++ word.flatMap Lexeme.chars) =
        some (kind, lexeme.chars.length) ∧
      Token.terminal ⟨kind, String.ofList lexeme.chars, offset⟩ = lexeme.terminal := by
  cases lexeme with
  | sign s => exact ⟨.text, longest?_sign s _, rfl⟩
  | number digits =>
    refine ⟨.regex "NUM", longest?_number digits (not_digit_of_mem_head? ?_), rfl⟩
    rintro others back rfl
    exact (List.isChain_cons_cons.mp h).1

/-- **The text of lexemes that can be told apart is scanned to one token for each**, and then the end. -/
theorem delivers_word {word : List Lexeme} (h : word.IsChain Lexeme.Apart) (offset : Nat) :
    ∃ tokens stop, scanTables.Delivers ⟨offset, word.flatMap Lexeme.chars⟩ (tokens ++ [stop]) ∧
      List.Forall₂ Spells tokens word ∧ stop.isEnd := by
  induction word generalizing offset with
  | nil => exact ⟨[], _, .stop offset, .nil, rfl⟩
  | cons lexeme word ih =>
    obtain ⟨kind, hlongest, hterminal⟩ := longest?_lexeme h offset
    obtain ⟨tokens, stop, hdelivers, hspells, hstop⟩ := ih h.tail (offset + Text.utf8Length lexeme.chars)
    refine ⟨⟨kind, String.ofList lexeme.chars, offset⟩ :: tokens, stop, ?_,
      .cons ⟨hterminal, rfl⟩ hspells, hstop⟩
    have hfirst : scanTables.Delivers ⟨offset, lexeme.chars ++ word.flatMap Lexeme.chars⟩
        (⟨kind, String.ofList ((lexeme.chars ++ word.flatMap Lexeme.chars).take lexeme.chars.length),
          offset⟩ :: (tokens ++ [stop])) := by
      refine .token (by simp [lexeme.chars_ne_nil]) hlongest ?_
      simpa [Cursor.advance] using hdelivers
    simpa using hfirst

/-! ## Expressions -/

/-- Lexemes before and behind a sign can be told apart. -/
theorem isChain_sign {front back : List Lexeme} (s : Sign) (hfront : front.IsChain Lexeme.Apart)
    (hback : back.IsChain Lexeme.Apart) : (front ++ .sign s :: back).IsChain Lexeme.Apart := by
  refine List.isChain_append.mpr ⟨hfront, ?_, ?_⟩
  · exact List.isChain_cons.mpr ⟨fun _ _ => trivial, hback⟩
  · intro a _ b hb
    obtain rfl : .sign s = b := by simpa using hb
    cases a <;> trivial

mutual

theorem Expr.apart : ∀ e : Expr, e.lexemes.IsChain Lexeme.Apart
  | .term t => t.apart
  | .add e operator t => isChain_sign operator.sign e.apart t.apart

theorem Term.apart : ∀ t : Term, t.lexemes.IsChain Lexeme.Apart
  | .factor f => f.apart
  | .mul t operator f => isChain_sign operator.sign t.apart f.apart

theorem Factor.apart : ∀ f : Factor, f.lexemes.IsChain Lexeme.Apart
  | .number _ => List.isChain_singleton _
  | .group e => isChain_sign .left .nil (isChain_sign .right e.apart .nil)
  | .negate f => isChain_sign .minus .nil f.apart

end

end AttributeGrammar.Samples.Calculator
