import Mathlib.Data.List.TakeDrop
import AttributeGrammar.Pattern.Parse

/-!
# Patterns between parentheses

A reader of a piece of a pattern does not look further than the piece: with a closing parenthesis behind the
pattern it reads the same. So a pattern that is well-formed is also read as the inside of a group.

* `Closes` — a text, and the same text with or without a closing parenthesis behind it.
* `Stable` — a successful reader reads the same before the parenthesis, one lemma for each reader.
* `closes_classLoop?` — classes, also inside of each other.
* `closes_patternLoop?` — a pattern that is read is one piece of what is around, if a parenthesis closes it.
-/

set_option autoImplicit false

namespace AttributeGrammar.Pattern

/-- A text, and the same text or the text with a closing parenthesis behind it. -/
inductive Closes : (text wrapped : List Char) → Prop where
  | both : Closes [] []
  | close : Closes [] [')']
  | cons {text wrapped : List Char} (c : Char) : Closes text wrapped → Closes (c :: text) (c :: wrapped)

variable {text wrapped rest : List Char} {flags : Flags}

theorem closes_append (text : List Char) : Closes text (text ++ [')']) := by
  induction text with
  | nil => exact .close
  | cons c text ih => exact .cons c ih

namespace Closes

theorem exists_cons {c : Char} (h : Closes (c :: text) wrapped) :
    ∃ more, wrapped = c :: more ∧ Closes text more := by
  cases h with
  | cons _ h => exact ⟨_, rfl, h⟩

theorem exists_cons_cons {c d : Char} (h : Closes (c :: d :: text) wrapped) :
    ∃ more, wrapped = c :: d :: more ∧ Closes text more := by
  obtain ⟨_, rfl, hrest⟩ := h.exists_cons
  obtain ⟨more, rfl, hmore⟩ := hrest.exists_cons
  exact ⟨more, rfl, hmore⟩

theorem length_le (h : Closes text wrapped) : text.length ≤ wrapped.length := by
  induction h with
  | both => exact Nat.le_refl _
  | close => exact Nat.zero_le _
  | cons c _ ih => exact Nat.succ_le_succ ih

theorem exists_cons_left {c : Char} (h : Closes text (c :: wrapped)) (hc : c ≠ ')') :
    ∃ more, text = c :: more ∧ Closes more wrapped := by
  cases h with
  | close => exact absurd rfl hc
  | cons _ h => exact ⟨_, rfl, h⟩

/-- A text that does not start with a character does so neither before a parenthesis. -/
theorem ne_cons {c : Char} (h : Closes text wrapped) (hc : c ≠ ')') (hnot : ∀ more, text = c :: more → False) :
    ∀ more, wrapped = c :: more → False := by
  rintro more rfl
  obtain ⟨rest, rfl, -⟩ := h.exists_cons_left hc
  exact hnot rest rfl

theorem ne_cons_cons {c d : Char} (h : Closes text wrapped) (hc : c ≠ ')') (hd : d ≠ ')')
    (hnot : ∀ more, text = c :: d :: more → False) : ∀ more, wrapped = c :: d :: more → False := by
  rintro more rfl
  obtain ⟨behind, rfl, hbehind⟩ := h.exists_cons_left hc
  obtain ⟨rest, rfl, -⟩ := hbehind.exists_cons_left hd
  exact hnot rest rfl

theorem eq_nil (h : Closes text []) : text = [] := by
  cases h
  rfl

theorem dropWhile (h : Closes text wrapped) (holds : Char → Bool) :
    Closes (text.dropWhile holds) (wrapped.dropWhile holds) := by
  induction h with
  | both => exact .both
  | close =>
    by_cases hclose : holds ')'
    · simpa [hclose] using Closes.both
    · simpa [hclose] using Closes.close
  | cons c h ih =>
    by_cases hc : holds c
    · simpa [hc] using ih
    · simpa [hc] using h.cons c

/-- Where something is left of the text, the same stands in front of it. -/
theorem takeWhile_eq (h : Closes text wrapped) {holds : Char → Bool} (hrest : text.dropWhile holds ≠ []) :
    wrapped.takeWhile holds = text.takeWhile holds := by
  induction h with
  | both | close => exact absurd rfl hrest
  | cons c h ih =>
    by_cases hc : holds c
    · simp only [List.dropWhile_cons, hc, if_true] at hrest
      simp only [List.takeWhile_cons, hc, if_true, ih hrest]
    · simp [hc]

theorem dropBlanks (h : Closes text wrapped) (inComment : Bool) :
    Closes (dropBlanks inComment text) (dropBlanks inComment wrapped) := by
  induction h generalizing inComment with
  | both => exact .both
  | close =>
    cases inComment with
    | true => exact .both
    | false => exact .close
  | cons c h ih =>
    unfold Pattern.dropBlanks
    split
    · exact ih _
    · split
      · exact ih _
      · split
        · exact ih _
        · exact h.cons c

theorem skipBlanks (h : Closes text wrapped) (flags : Flags) :
    Closes (skipBlanks flags text) (skipBlanks flags wrapped) := by
  unfold Pattern.skipBlanks
  split
  · exact h.dropBlanks false
  · exact h

theorem length_dropBlanks_le (inComment : Bool) (text : List Char) :
    (Pattern.dropBlanks inComment text).length ≤ text.length := by
  induction text generalizing inComment with
  | nil => exact Nat.le_refl _
  | cons c text ih =>
    unfold Pattern.dropBlanks
    split
    · exact Nat.le_succ_of_le (ih _)
    · split
      · exact Nat.le_succ_of_le (ih _)
      · split
        · exact Nat.le_succ_of_le (ih _)
        · exact Nat.le_refl _

theorem length_skipBlanks_le (flags : Flags) (text : List Char) :
    (Pattern.skipBlanks flags text).length ≤ text.length := by
  unfold Pattern.skipBlanks
  split
  · exact length_dropBlanks_le _ _
  · exact Nat.le_refl _

/-! ## Numbers of rounds -/

/-- Enough fuel given, the same digits are read. -/
theorem digits (h : Closes text wrapped) (flags : Flags) {fuel more : Nat} (hfuel : text.length < fuel)
    (hmore : wrapped.length < more) :
    (digits flags more wrapped).1 = (digits flags fuel text).1 ∧
      Closes (digits flags fuel text).2 (digits flags more wrapped).2 := by
  induction fuel generalizing text wrapped more with
  | zero => omega
  | succ fuel ih =>
    obtain ⟨more, rfl⟩ : ∃ less, more = less + 1 := ⟨more - 1, by omega⟩
    cases h with
    | both => exact ⟨rfl, .both⟩
    | close => exact ⟨rfl, .close⟩
    | cons c h =>
      have hrest := h.skipBlanks flags
      have hlength := length_skipBlanks_le flags
      simp only [List.length_cons] at hfuel hmore
      obtain ⟨hfront, hcloses⟩ := ih hrest (Nat.lt_of_le_of_lt (hlength _) (Nat.lt_of_succ_lt_succ hfuel))
        (Nat.lt_of_le_of_lt (hlength _) (Nat.lt_of_succ_lt_succ hmore))
      unfold Pattern.digits
      split
      · exact ⟨congrArg (c :: ·) hfront, hcloses⟩
      · exact ⟨rfl, h.cons c⟩

end Closes

/-- A reader that succeeds on a text reads the same when a closing parenthesis stands behind it. -/
def Stable {α : Type} (read : List Char → Option (α × List Char)) : Prop :=
  ∀ ⦃text wrapped⦄, Closes text wrapped → ∀ ⦃a rest⦄, read text = some (a, rest) →
    ∃ more, read wrapped = some (a, more) ∧ Closes rest more

theorem stable_decimal? (flags : Flags) : Stable (decimal? flags) := by
  intro text wrapped h value rest hread
  have hdigits : ∀ text : List Char, (text.dropWhile Text.isBlank).length < text.length + 1 := fun text =>
    Nat.lt_succ_of_le (List.dropWhile_suffix _).length_le
  obtain ⟨hfront, hrest⟩ := (h.dropWhile Text.isBlank).digits flags (hdigits text) (hdigits wrapped)
  unfold decimal? at hread ⊢
  dsimp only at hread ⊢
  rw [hfront]
  split at hread
  · cases hread
  · rename_i hnumber
    cases hread
    rw [if_neg hnumber]
    refine ⟨_, rfl, ?_⟩
    split
    · exact hrest.dropBlanks false
    · exact hrest.dropWhile Text.isBlank

theorem closes_bounds? (h : Closes text wrapped) {least : Nat} {most : Option Nat}
    (hread : bounds? flags text = some (least, most, rest)) :
    ∃ more, bounds? flags wrapped = some (least, most, more) ∧ Closes rest more := by
  obtain ⟨⟨number, mid⟩, hnumber, hread⟩ := Option.bind_eq_some_iff.mp hread
  obtain ⟨behind, hfirst, hbehind⟩ := stable_decimal? flags (h.skipBlanks flags) hnumber
  simp only [bounds?, hfirst, Option.bind_eq_bind, Option.bind_some]
  dsimp only at hread
  split at hread
  · cases hread
    obtain ⟨more, rfl, hmore⟩ := hbehind.exists_cons
    exact ⟨more, rfl, hmore⟩
  · obtain ⟨more, rfl, hmore⟩ := hbehind.exists_cons
    have hskip := hmore.skipBlanks flags
    split at hread
    · rename_i heq
      cases hread
      rw [heq] at hskip
      obtain ⟨more, hcons, hmore⟩ := hskip.exists_cons
      simp only [hcons]
      exact ⟨more, rfl, hmore⟩
    · rename_i hnot
      obtain ⟨⟨bound, mid⟩, hbound, hread⟩ := Option.bind_eq_some_iff.mp hread
      obtain ⟨last, hlast, hcloses⟩ := stable_decimal? flags hskip hbound
      have hother := hskip.ne_cons (by decide) hnot
      simp only [hlast, Option.bind_some]
      split at hread
      · rename_i heq
        cases heq
        obtain ⟨more, rfl, hmore⟩ := hcloses.exists_cons
        split at hread
        · cases hread
        · rename_i hle
          cases hread
          simp only [hle, if_false]
          exact ⟨more, rfl, hmore⟩
      · cases hread
  · cases hread

theorem greediness_eq (h : Closes text wrapped) :
    (greediness wrapped).1 = (greediness text).1 ∧ Closes (greediness text).2 (greediness wrapped).2 := by
  cases h with
  | both => exact ⟨rfl, .both⟩
  | close => exact ⟨rfl, .close⟩
  | cons c h =>
    by_cases hc : c = '?'
    · subst hc
      exact ⟨rfl, h⟩
    · have hgreedy : ∀ text, greediness (c :: text) = (true, c :: text) := by
        intro text
        unfold greediness
        split
        · rename_i heq
          cases heq
          exact absurd rfl hc
        · rfl
      rw [hgreedy, hgreedy]
      exact ⟨rfl, h.cons c⟩

theorem closes_rounds? (h : Closes text wrapped) {least : Nat} {most : Option Nat}
    (hread : rounds? flags text = some (least, most, rest)) :
    ∃ more, rounds? flags wrapped = some (least, most, more) ∧ Closes rest more := by
  unfold rounds? at hread
  split at hread
  -- An operator of one character.
  any_goals
    cases hread
    obtain ⟨more, rfl, hmore⟩ := h.exists_cons
    exact ⟨more, rfl, hmore⟩
  · obtain ⟨⟨_, _, mid⟩, hbounds, heq⟩ := Option.map_eq_some_iff.mp hread
    cases heq
    obtain ⟨more, rfl, hmore⟩ := h.exists_cons
    obtain ⟨last, hlast, hcloses⟩ := closes_bounds? hmore hbounds
    refine ⟨_, ?_, hcloses.skipBlanks flags⟩
    simp only [rounds?, hlast, Option.map_some]
  · cases hread

theorem closes_repetition? (h : Closes text wrapped) {least : Nat} {most : Option Nat} {greedy : Bool}
    (hread : repetition? flags text = some (least, most, greedy, rest)) :
    ∃ more, repetition? flags wrapped = some (least, most, greedy, more) ∧ Closes rest more := by
  obtain ⟨⟨_, _, mid⟩, hrounds, hread⟩ := Option.bind_eq_some_iff.mp hread
  obtain ⟨last, hlast, hcloses⟩ := closes_rounds? h hrounds
  obtain ⟨hgreedy, hmore⟩ := greediness_eq hcloses
  dsimp only at hread
  cases hread
  refine ⟨(greediness last).2, ?_, hmore⟩
  simp only [repetition?, hlast, Option.bind_eq_bind, Option.bind_some]
  exact congrArg (fun greedy => some (_, _, greedy, _)) hgreedy

/-! ## Groups -/

theorem closes_parse? (h : Closes text wrapped) {seen : List Char} {after : Flags} {last : FlagsEnd}
    (hread : flags.parse? seen text = some (after, last, rest)) :
    ∃ more, flags.parse? seen wrapped = some (after, last, more) ∧ Closes rest more := by
  induction h generalizing flags seen with
  | both | close => cases hread
  | cons c h ih =>
    unfold Flags.parse? at hread ⊢
    split at hread
    · rename_i hend
      rw [if_pos hend]
      split at hread
      · cases hread
      · rename_i hsign
        cases hread
        rw [if_neg hsign]
        exact ⟨_, rfl, h⟩
    · rename_i hend
      rw [if_neg hend]
      split at hread
      · cases hread
      · rename_i hseen
        rw [if_neg hseen]
        split at hread
        · rename_i hsign
          rw [if_pos hsign]
          exact ih hread
        · rename_i hsign
          rw [if_neg hsign]
          split at hread
          · exact ih hread
          · cases hread

theorem Closes.span (h : Closes text wrapped) {holds : Char → Bool} {front : List Char} {c : Char}
    (hspan : text.span holds = (front, c :: rest)) :
    ∃ more, wrapped.span holds = (front, c :: more) ∧ Closes rest more := by
  have hdrop := h.dropWhile holds
  rw [List.span_eq_takeWhile_dropWhile, Prod.mk.injEq] at hspan
  obtain ⟨rfl, hrest⟩ := hspan
  have htake : wrapped.takeWhile holds = text.takeWhile holds := h.takeWhile_eq (by simp [hrest])
  rw [hrest] at hdrop
  obtain ⟨more, hcons, hmore⟩ := hdrop.exists_cons
  exact ⟨more, by rw [List.span_eq_takeWhile_dropWhile, htake, hcons], hmore⟩

theorem stable_groupName? (flags : Flags) : Stable (groupName? flags) := by
  intro text wrapped h opening rest hread
  unfold groupName? at hread ⊢
  split at hread
  · rename_i name c behind heq
    obtain ⟨more, hspan, hmore⟩ := h.span heq
    rw [hspan]
    dsimp only
    split at hread
    · rename_i hname
      cases hread
      rw [if_pos hname]
      exact ⟨more, rfl, hmore⟩
    · cases hread
  · cases hread

theorem stable_opening? (flags : Flags) : Stable (opening? flags) := by
  intro text wrapped h opening rest hread
  have hskip := h.skipBlanks flags
  unfold opening? at hread ⊢
  generalize skipBlanks flags text = text at hread hskip
  generalize skipBlanks flags wrapped = wrapped at hskip ⊢
  split at hread
  · cases hread
  · cases hread
  · cases hread
  · cases hread
  · obtain ⟨_, rfl, hname⟩ := hskip.exists_cons_cons
    obtain ⟨_, rfl, hmore⟩ := hname.exists_cons
    exact stable_groupName? flags hmore hread
  · rename_i hequals hbang
    obtain ⟨more, rfl, hmore⟩ := hskip.exists_cons_cons
    have hequals := hmore.ne_cons (c := '=') (by decide) (by simpa using hequals)
    have hbang := hmore.ne_cons (c := '!') (by decide) (by simpa using hbang)
    simp only
    exact stable_groupName? flags hmore hread
  · rename_i behind hequals hbang _ _ hnamed hname
    obtain ⟨more, rfl, hmore⟩ := hskip.exists_cons
    have hequals := hmore.ne_cons (by decide) hequals
    have hbang := hmore.ne_cons (by decide) hbang
    have hname := hmore.ne_cons (by decide) hname
    have hnamed := hmore.ne_cons_cons (by decide) (by decide) hnamed
    have hlook : ∀ rest, more = '<' :: '=' :: rest → False := fun rest => hname ('=' :: rest)
    have hback : ∀ rest, more = '<' :: '!' :: rest → False := fun rest => hname ('!' :: rest)
    simp only
    split at hread
    · rename_i heq
      cases hread
      obtain ⟨last, hlast, hcloses⟩ := closes_parse? hmore heq
      rw [hlast]
      exact ⟨last, rfl, hcloses⟩
    · rename_i heq
      cases hread
      obtain ⟨last, hlast, hcloses⟩ := closes_parse? hmore heq
      rw [hlast]
      exact ⟨last, rfl, hcloses⟩
    · cases hread
  · rename_i hnot
    have hnot := hskip.ne_cons (by decide) hnot
    cases hread
    split
    all_goals first
      | exact (hnot _ rfl).elim
      | exact ⟨_, rfl, hskip⟩

/-! ## Escapes -/

theorem closes_fixedHex? (h : Closes text wrapped) {count value code : Nat}
    (hread : fixedHex? flags count value text = some (code, rest)) :
    ∃ more, fixedHex? flags count value wrapped = some (code, more) ∧ Closes rest more := by
  induction count generalizing text wrapped value with
  | zero =>
    cases hread
    exact ⟨wrapped, rfl, h⟩
  | succ count ih =>
    cases h with
    | both | close => cases hread
    | cons c h =>
      unfold fixedHex? at hread ⊢
      split at hread
      · exact ih (h.skipBlanks flags) hread
      · cases hread

/-- Any fuel that suffices for the text suffices, and one more for the text with a parenthesis. -/
theorem closes_untilBrace? (h : Closes text wrapped) {fuel enough : Nat} (hfuel : fuel ≤ enough)
    {front : List Char}
    (hread : untilBrace? flags fuel text = some (front, rest)) :
    ∃ more, untilBrace? flags enough wrapped = some (front, more) ∧ Closes rest more := by
  induction fuel generalizing text wrapped enough front with
  | zero => cases hread
  | succ fuel ih =>
    obtain ⟨enough, rfl⟩ : ∃ less, enough = less + 1 := ⟨enough - 1, by omega⟩
    have hskip := h.skipBlanks flags
    unfold untilBrace? at hread ⊢
    generalize skipBlanks flags text = text at hread hskip
    generalize skipBlanks flags wrapped = wrapped at hskip ⊢
    split at hread
    · cases hread
    · cases hread
      obtain ⟨more, rfl, hmore⟩ := hskip.exists_cons
      exact ⟨more, rfl, hmore⟩
    · rename_i c behind hbrace
      obtain ⟨⟨front, last⟩, hfront, heq⟩ := Option.map_eq_some_iff.mp hread
      cases heq
      obtain ⟨more, rfl, hmore⟩ := hskip.exists_cons
      obtain ⟨last, hlast, hcloses⟩ := ih hmore (Nat.le_of_succ_le_succ hfuel) hfront
      simp only [hlast]
      exact ⟨last, rfl, hcloses⟩

theorem stable_hexEscape? (flags : Flags) (digits : Nat) : Stable (hexEscape? flags digits) := by
  intro text wrapped h primitive rest hread
  have hskip := h.skipBlanks flags
  unfold hexEscape? at hread ⊢
  generalize skipBlanks flags text = text at hread hskip
  generalize skipBlanks flags wrapped = wrapped at hskip ⊢
  split at hread
  · cases hread
  · obtain ⟨more, rfl, hmore⟩ := hskip.exists_cons
    obtain ⟨⟨front, behind⟩, hfront, hread⟩ := Option.bind_eq_some_iff.mp hread
    obtain ⟨values, hvalues, hread⟩ := Option.bind_eq_some_iff.mp hread
    obtain ⟨last, hlast, hcloses⟩ := closes_untilBrace? hmore (Nat.succ_le_succ hmore.length_le) hfront
    simp only [hlast, hvalues, Option.bind_eq_bind, Option.bind_some]
    dsimp only at hread
    split at hread
    · cases hread
    · rename_i hvalues
      obtain ⟨c, hc, hread⟩ := Option.bind_eq_some_iff.mp hread
      cases hread
      rw [if_neg hvalues, hc]
      exact ⟨_, rfl, hcloses.skipBlanks flags⟩
  · rename_i hempty hbrace
    obtain ⟨⟨code, behind⟩, hcode, hread⟩ := Option.bind_eq_some_iff.mp hread
    obtain ⟨c, hc, hread⟩ := Option.bind_eq_some_iff.mp hread
    cases hread
    obtain ⟨last, hlast, hcloses⟩ := closes_fixedHex? hskip hcode
    have hother := hskip.ne_cons (by decide) hbrace
    cases hskip with
    | both | close => exact (hempty rfl).elim
    | cons d hskip =>
      simp only [hlast, hc, Option.bind_eq_bind, Option.bind_some]
      exact ⟨last, rfl, hcloses⟩

theorem stable_propertyEscape? (flags : Flags) (negated : Bool) : Stable (propertyEscape? flags negated) := by
  intro text wrapped h primitive rest hread
  have hskip := h.skipBlanks flags
  unfold propertyEscape? at hread ⊢
  generalize skipBlanks flags text = text at hread hskip
  generalize skipBlanks flags wrapped = wrapped at hskip ⊢
  split at hread
  · cases hread
  · obtain ⟨more, rfl, hmore⟩ := hskip.exists_cons
    obtain ⟨⟨front, behind⟩, hfront, hread⟩ := Option.bind_eq_some_iff.mp hread
    obtain ⟨set, hset, hread⟩ := Option.bind_eq_some_iff.mp hread
    cases hread
    obtain ⟨last, hlast, hcloses⟩ := closes_untilBrace? hmore (Nat.succ_le_succ hmore.length_le) hfront
    simp only [hlast, hset, Option.bind_eq_bind, Option.bind_some]
    exact ⟨last, rfl, hcloses⟩
  · rename_i c behind hbrace
    obtain ⟨more, rfl, hmore⟩ := hskip.exists_cons
    simp only
    dsimp only at hread
    split at hread
    · cases hread
    · rename_i hletter
      obtain ⟨set, hset, hread⟩ := Option.bind_eq_some_iff.mp hread
      cases hread
      rw [if_neg hletter]
      simp only [hset, Option.bind_eq_bind, Option.bind_some]
      exact ⟨_, rfl, hmore.skipBlanks flags⟩

theorem stable_boundaryEscape? (flags : Flags) : Stable (boundaryEscape? flags) := by
  intro text wrapped h primitive rest hread
  unfold boundaryEscape? at hread ⊢
  dsimp only at hread ⊢
  split at hread
  · obtain ⟨more, rfl, hmore⟩ := h.exists_cons
    have hskip := hmore.skipBlanks flags
    simp only
    split at hread
    · cases hread
    · rename_i c behind heq
      rw [heq] at hskip
      obtain ⟨more, hcons, hmore⟩ := hskip.exists_cons
      simp only [hcons]
      split at hread
      · rename_i hpart
        cases hread
        rw [if_pos hpart]
        exact ⟨_, rfl, h⟩
      · rename_i hpart
        rw [if_neg hpart]
        split at hread
        · cases hread
        · rename_i front last hfront
          obtain ⟨a, ha, heq⟩ := Option.map_eq_some_iff.mp hread
          cases heq
          have hfuel := Nat.add_le_add_right hmore.length_le 2
          obtain ⟨last, hlast, hcloses⟩ := closes_untilBrace? (hmore.cons c) hfuel hfront
          simp only [hlast, ha]
          exact ⟨last, rfl, hcloses⟩
  · rename_i hbrace
    cases hread
    have hother := h.ne_cons (by decide) hbrace
    simp only
    exact ⟨wrapped, rfl, h⟩

theorem stable_escape? (flags : Flags) : Stable (escape? flags) := by
  intro text wrapped h primitive rest hread
  cases h with
  | both | close => cases hread
  | cons c h =>
    unfold escape? at hread ⊢
    dsimp only at hread ⊢
    split at hread
    -- Most letters stand for themselves, with nothing to read behind them.
    any_goals
      cases hread
      exact ⟨_, rfl, h⟩
    · exact stable_hexEscape? flags 2 h hread
    · exact stable_hexEscape? flags 4 h hread
    · exact stable_hexEscape? flags 8 h hread
    · exact stable_propertyEscape? flags false h hread
    · exact stable_propertyEscape? flags true h hread
    · exact stable_boundaryEscape? flags h hread
    · split at hread
      · rename_i hescapable
        cases hread
        rw [if_pos hescapable]
        exact ⟨_, rfl, h⟩
      · rename_i hescapable
        obtain ⟨set, hset, heq⟩ := Option.map_eq_some_iff.mp hread
        cases heq
        rw [if_neg hescapable, hset]
        exact ⟨_, rfl, h⟩

theorem stable_primitive? (flags : Flags) : Stable (primitive? flags) := by
  intro text wrapped h primitive rest hread
  cases h with
  | both | close => cases hread
  | cons c h =>
    unfold primitive? at hread ⊢
    dsimp only at hread ⊢
    split at hread
    · contradiction
    · rename_i heq
      cases heq
      exact stable_escape? flags h hread
    · rename_i heq
      cases heq
      cases hread
      exact ⟨_, rfl, h⟩
    · rename_i heq
      cases heq
      cases hread
      exact ⟨_, rfl, h⟩
    · rename_i heq
      cases heq
      cases hread
      exact ⟨_, rfl, h⟩
    · rename_i hback hdot hcaret hdollar heq
      cases heq
      cases hread
      simp only
      exact ⟨_, rfl, h⟩

/-! ## Classes -/

theorem stable_classAtom? (flags : Flags) : Stable (classAtom? flags) := by
  intro text wrapped h primitive rest hread
  cases h with
  | both | close => cases hread
  | cons c h =>
    unfold classAtom? at hread ⊢
    split at hread
    · contradiction
    · rename_i heq
      cases heq
      exact stable_escape? flags h hread
    · rename_i hback heq
      cases heq
      cases hread
      simp only
      exact ⟨_, rfl, h⟩

theorem head?_eq_iff (h : Closes text wrapped) {c : Char} (hc : c ≠ ')') :
    wrapped.head? = some c ↔ text.head? = some c := by
  cases h with
  | both => rfl
  | close => simpa using Ne.symm hc
  | cons d h => rfl

/-- The parenthesis behind a text is neither a hyphen nor a bracket. -/
theorem peekBehind_eq_iff (flags : Flags) (h : Closes text wrapped) {c : Char} (hc : c ≠ ')') :
    peekBehind flags wrapped = some c ↔ peekBehind flags text = some c := by
  have hdrop := h.dropWhile Text.isBlank
  unfold peekBehind
  split
  · exact head?_eq_iff h hc
  · generalize text.dropWhile Text.isBlank = text at hdrop ⊢
    generalize wrapped.dropWhile Text.isBlank = wrapped at hdrop ⊢
    split
    · rename_i behind
      obtain ⟨more, rfl, hmore⟩ := hdrop.exists_cons_left (by decide)
      exact head?_eq_iff (hmore.dropWhile Text.isBlank) hc
    · rename_i hhash
      split
      · obtain ⟨more, rfl, -⟩ := hdrop.exists_cons
        exact (hhash more rfl).elim
      · exact head?_eq_iff hdrop hc

theorem stable_classRange? (flags : Flags) : Stable (classRange? flags) := by
  intro text wrapped h part rest hread
  obtain ⟨⟨first, mid⟩, hfirst, hread⟩ := Option.bind_eq_some_iff.mp hread
  obtain ⟨behind, hbehind, hcloses⟩ := stable_classAtom? flags h hfirst
  have hskip := hcloses.skipBlanks flags
  simp only [classRange?, hbehind, Option.bind_eq_bind, Option.bind_some]
  dsimp only at hread
  split at hread
  · cases hread
  · rename_i c last heq
    rw [heq] at hskip
    obtain ⟨more, hcons, hmore⟩ := hskip.exists_cons
    have hbracket := peekBehind_eq_iff flags hmore (c := ']') (by decide)
    have hhyphen := peekBehind_eq_iff flags hmore (c := '-') (by decide)
    simp only [hcons, hbracket, hhyphen]
    split at hread
    · rename_i hsingle
      obtain ⟨single, hsingle', hread⟩ := Option.bind_eq_some_iff.mp hread
      cases hread
      rw [if_pos hsingle, hsingle']
      exact ⟨_, rfl, hmore.cons c⟩
    · rename_i hrange
      obtain ⟨⟨second, behind⟩, hsecond, hread⟩ := Option.bind_eq_some_iff.mp hread
      obtain ⟨last, hlast, hcloses⟩ := stable_classAtom? flags (hmore.skipBlanks flags) hsecond
      rw [if_neg hrange, hlast]
      dsimp only at hread ⊢
      split at hread
      · split at hread
        · cases hread
        · rename_i hends
          cases hread
          simp only [Option.bind_some, hends]
          exact ⟨last, rfl, hcloses⟩
      · cases hread

/-- Both readers fail, or both read the same. -/
def Agree {α : Type} : Option (α × List Char) → Option (α × List Char) → Prop :=
  Option.Rel fun read other => read.1 = other.1 ∧ Closes read.2 other.2

theorem agree_asciiName? (h : Closes text wrapped) (flags : Flags) (negated : Bool) :
    Agree (asciiName? flags negated text) (asciiName? flags negated wrapped) := by
  have hdrop := h.dropWhile (· ≠ ':')
  unfold asciiName?
  rw [List.span_eq_takeWhile_dropWhile, List.span_eq_takeWhile_dropWhile]
  split
  · rename_i name rest heq
    obtain ⟨rfl, hrest⟩ := Prod.mk.inj heq
    have htake : wrapped.takeWhile (· ≠ ':') = text.takeWhile (· ≠ ':') :=
      h.takeWhile_eq (by rw [hrest]; exact List.cons_ne_nil _ _)
    rw [hrest] at hdrop
    obtain ⟨_, hcolon, hbracket⟩ := hdrop.exists_cons
    obtain ⟨more, rfl, hmore⟩ := hbracket.exists_cons
    rw [htake, hcolon]
    simp only
    generalize asciiClass? (String.ofList (text.takeWhile (· ≠ ':'))) = found
    cases found with
    | none => exact .none
    | some set => exact .some ⟨rfl, hmore⟩
  · rename_i hnot
    split
    · rename_i name rest heq
      obtain ⟨rfl, hrest⟩ := Prod.mk.inj heq
      rw [hrest] at hdrop
      obtain ⟨_, hcolon, hbracket⟩ := hdrop.exists_cons_left (by decide)
      obtain ⟨more, rfl, -⟩ := hbracket.exists_cons_left (by decide)
      exact (hnot _ _ (Prod.ext rfl hcolon)).elim
    · exact .none

theorem caret_eq (h : Closes text wrapped) :
    (caret wrapped).1 = (caret text).1 ∧ Closes (caret text).2 (caret wrapped).2 := by
  unfold caret
  split
  · obtain ⟨more, rfl, hmore⟩ := h.exists_cons_left (by decide)
    exact ⟨rfl, hmore⟩
  · rename_i hnot
    split
    · obtain ⟨more, rfl, -⟩ := h.exists_cons
      exact (hnot _ rfl).elim
    · exact ⟨rfl, h⟩

/-- Whether the name of an ASCII class is read does not depend on a parenthesis behind the text. -/
theorem agree_namedBracket? (h : Closes text wrapped) (flags : Flags) :
    Agree (namedBracket? flags text) (namedBracket? flags wrapped) := by
  unfold namedBracket?
  split
  · obtain ⟨more, rfl, hmore⟩ := h.exists_cons
    obtain ⟨hnegated, hcaret⟩ := caret_eq hmore
    simp only [hnegated]
    exact agree_asciiName? hcaret flags _
  · rename_i hnot
    split
    · obtain ⟨more, rfl, -⟩ := h.exists_cons_left (by decide)
      exact (hnot _ rfl).elim
    · exact .none

/-- Enough fuel given, the same hyphens are counted. -/
theorem hyphensBefore_eq (h : Closes text wrapped) (flags : Flags) (count : Nat) {fuel enough : Nat}
    (hfuel : text.length ≤ fuel) (henough : wrapped.length ≤ enough) :
    (hyphensBefore flags enough count wrapped).1 = (hyphensBefore flags fuel count text).1 ∧
      Closes (hyphensBefore flags fuel count text).2 (hyphensBefore flags enough count wrapped).2 := by
  have hstop : ∀ (fuel count : Nat) (text : List Char), (∀ rest, text = '-' :: rest → False) →
      hyphensBefore flags fuel count text = (count, text) := by
    intro fuel count text hnot
    unfold hyphensBefore
    split
    · exact (hnot _ rfl).elim
    · rfl
  induction fuel generalizing text wrapped enough count with
  | zero =>
    obtain rfl := List.length_eq_zero_iff.mp (Nat.le_zero.mp hfuel)
    have hnone : ∀ rest, [] = '-' :: rest → False := by simp
    rw [hstop _ _ _ hnone, hstop _ _ _ (h.ne_cons (by decide) hnone)]
    exact ⟨rfl, h⟩
  | succ fuel ih =>
    by_cases hhyphen : ∃ rest, text = '-' :: rest
    · obtain ⟨rest, rfl⟩ := hhyphen
      obtain ⟨more, rfl, hmore⟩ := h.exists_cons
      obtain ⟨enough, rfl⟩ : ∃ less, enough = less + 1 := ⟨enough - 1, by simp at henough; omega⟩
      have hlength := Closes.length_skipBlanks_le flags
      exact ih (hmore.skipBlanks flags) _ (Nat.le_trans (hlength rest) (Nat.le_of_succ_le_succ hfuel))
        (Nat.le_trans (hlength more) (Nat.le_of_succ_le_succ henough))
    · have hnot : ∀ rest, text = '-' :: rest → False := fun rest heq => hhyphen ⟨rest, heq⟩
      rw [hstop _ _ _ hnot, hstop _ _ _ (h.ne_cons (by decide) hnot)]
      exact ⟨rfl, h⟩

theorem stable_openBracket? (flags : Flags) : Stable (openBracket? flags) := by
  intro text wrapped h opened rest hread
  obtain ⟨hnegated, hcaret⟩ := caret_eq (h.skipBlanks flags)
  unfold openBracket? at hread ⊢
  generalize caret (skipBlanks flags text) = front at hread hnegated hcaret
  generalize caret (skipBlanks flags wrapped) = behind at hnegated hcaret ⊢
  obtain ⟨negated, text⟩ := front
  obtain ⟨same, wrapped⟩ := behind
  obtain rfl : negated = same := hnegated.symm
  have hskip : Closes (if negated then skipBlanks flags text else text)
      (if negated then skipBlanks flags wrapped else wrapped) := by
    split
    · exact hcaret.skipBlanks flags
    · exact hcaret
  dsimp only at hread ⊢
  generalize (if negated then skipBlanks flags text else text) = text at hread hskip
  generalize (if negated then skipBlanks flags wrapped else wrapped) = wrapped at hskip ⊢
  obtain ⟨hcount, hbehind⟩ := hyphensBefore_eq hskip flags 0 (Nat.le_refl _) (Nat.le_refl _)
  rw [hcount]
  generalize hyphensBefore flags text.length 0 text = front at hread hbehind ⊢
  generalize (hyphensBefore flags wrapped.length 0 wrapped).2 = last at hbehind ⊢
  split at hread
  · cases hread
  · rename_i behind heq
    rw [heq] at hbehind
    obtain ⟨more, rfl, hmore⟩ := hbehind.exists_cons
    simp only
    split at hread
    · rename_i hzero
      cases hread
      rw [if_pos hzero]
      exact ⟨_, rfl, hmore.skipBlanks flags⟩
    · rename_i hzero
      cases hread
      rw [if_neg hzero]
      exact ⟨_, rfl, heq ▸ hmore.cons _⟩
  · rename_i hempty hbracket
    cases hread
    split
    · exact (hempty hbehind.eq_nil).elim
    · obtain ⟨more, hcons, -⟩ := hbehind.exists_cons_left (by decide)
      exact (hbracket _ hcons).elim
    · exact ⟨_, rfl, hbehind⟩

/-- Enough fuel given, the same class is read, inside of the same classes. -/
theorem closes_classLoop? (h : Closes text wrapped) {fuel enough : Nat} (hfuel : fuel ≤ enough)
    {opened : OpenClass}
    {around : List OpenClass} {part : ClassPart}
    (hread : classLoop? flags fuel opened around text = some (part, rest)) :
    ∃ more, classLoop? flags enough opened around wrapped = some (part, more) ∧ Closes rest more := by
  induction fuel generalizing text wrapped enough opened around with
  | zero => cases hread
  | succ fuel ih =>
    obtain ⟨enough, rfl⟩ : ∃ less, enough = less + 1 := ⟨enough - 1, by omega⟩
    have hle : fuel ≤ enough := Nat.le_of_succ_le_succ hfuel
    have hskip := h.skipBlanks flags
    unfold classLoop? at hread ⊢
    generalize skipBlanks flags text = text at hread hskip
    generalize skipBlanks flags wrapped = wrapped at hskip ⊢
    split at hread
    · cases hread
    · obtain ⟨more, rfl, hmore⟩ := hskip.exists_cons
      simp only
      have hagree := agree_namedBracket? hmore flags
      split at hread
      · rename_i set behind hnamed
        rw [hnamed] at hagree
        generalize namedBracket? flags more = found at hagree ⊢
        cases hagree with
        | @some _ other hsame =>
          obtain ⟨_, last⟩ := other
          obtain ⟨rfl, hlast⟩ := hsame
          obtain ⟨found, hfound, hread⟩ := Option.bind_eq_some_iff.mp hread
          obtain rfl : set = some found := hfound
          exact ih hlast hle hread
      · rename_i hnamed
        rw [hnamed] at hagree
        generalize namedBracket? flags more = found at hagree ⊢
        cases hagree
        obtain ⟨⟨inner, behind⟩, hopen, hread⟩ := Option.bind_eq_some_iff.mp hread
        obtain ⟨last, hlast, hcloses⟩ := stable_openBracket? flags hmore hopen
        simp only [hlast, Option.bind_eq_bind, Option.bind_some]
        exact ih hcloses hle hread
    · obtain ⟨more, rfl, hmore⟩ := hskip.exists_cons
      obtain ⟨closed, hclosed, hread⟩ := Option.bind_eq_some_iff.mp hread
      simp only [hclosed, Option.bind_eq_bind, Option.bind_some]
      split at hread
      · cases hread
        exact ⟨more, rfl, hmore⟩
      · exact ih hmore hle hread
    · obtain ⟨more, rfl, hmore⟩ := hskip.exists_cons_cons
      exact ih hmore hle hread
    · obtain ⟨more, rfl, hmore⟩ := hskip.exists_cons_cons
      exact ih hmore hle hread
    · obtain ⟨more, rfl, hmore⟩ := hskip.exists_cons_cons
      exact ih hmore hle hread
    · rename_i hempty hopening hclosing hinter hdiff hsymm
      obtain ⟨⟨single, behind⟩, hrange, hread⟩ := Option.bind_eq_some_iff.mp hread
      obtain ⟨last, hlast, hcloses⟩ := stable_classRange? flags hskip hrange
      have hopening := hskip.ne_cons (by decide) hopening
      have hclosing := hskip.ne_cons (by decide) hclosing
      have hinter := hskip.ne_cons_cons (by decide) (by decide) hinter
      have hdiff := hskip.ne_cons_cons (by decide) (by decide) hdiff
      have hsymm := hskip.ne_cons_cons (by decide) (by decide) hsymm
      have hnil : wrapped = [] → False := by
        rintro rfl
        exact hempty hskip.eq_nil
      simp only [hlast, Option.bind_eq_bind, Option.bind_some]
      exact ih hcloses hle hread

theorem stable_bracket? (flags : Flags) : Stable (bracket? flags) := by
  intro text wrapped h part rest hread
  obtain ⟨⟨opened, behind⟩, hopened, hread⟩ := Option.bind_eq_some_iff.mp hread
  obtain ⟨last, hlast, hcloses⟩ := stable_openBracket? flags h hopened
  obtain ⟨more, hmore, hrest⟩ := closes_classLoop? hcloses (Nat.succ_le_succ h.length_le) hread
  refine ⟨more, ?_, hrest⟩
  simp only [bracket?, hlast, Option.bind_eq_bind, Option.bind_some]
  exact hmore

/-! ## Patterns -/

/-- A repetition leaves the group that it stands in as it is. -/
theorem captures_repeatLast? {level repeated : Level} {least : Nat} {most : Option Nat} {greedy : Bool}
    (h : level.repeatLast? least most greedy = some repeated) : repeated.captures = level.captures := by
  unfold Level.repeatLast? at h
  split at h
  · cases h
  · split at h
    · cases h
    · cases h
      rfl

/-- **A pattern that is read is read inside of a group, too**, if the group is closed behind it: then it is
one more piece of what is around. -/
theorem closes_patternLoop? (h : Closes text wrapped) {fuel enough : Nat} (hfuel : fuel < enough)
    {names : List (List Char)} {level outer : Level} {around : List Level} {piece made : Piece}
    (hread : patternLoop? fuel names level around text = some piece)
    (hmade : patternLoop? enough names level (around ++ [outer]) wrapped = some made) {captures : Bool}
    (houtermost : (around.map Level.captures).getLastD level.captures = captures) :
    made = (outer.addPiece (piece.grouped captures)).whole := by
  induction fuel generalizing text wrapped enough names level around with
  | zero => cases hread
  | succ fuel ih =>
    obtain ⟨enough, rfl⟩ : ∃ less, enough = less + 1 := ⟨enough - 1, by omega⟩
    have hlt : fuel < enough := Nat.lt_of_succ_lt_succ hfuel
    have hskip := h.skipBlanks level.flags
    unfold patternLoop? at hread hmade
    generalize skipBlanks level.flags text = text at hread hskip
    generalize skipBlanks level.flags wrapped = wrapped at hmade hskip
    split at hread
    · split at hread
      · rename_i haround
        cases hread
        subst haround
        obtain ⟨enough, rfl⟩ : ∃ less, enough = less + 1 := ⟨enough - 1, by omega⟩
        cases hskip with
        | both => cases hmade
        | close =>
          have hnil : skipBlanks outer.flags [] = [] := by
            unfold skipBlanks
            split <;> rfl
          simp only [List.nil_append, patternLoop?, Level.addPiece, hnil, if_true] at hmade
          cases hmade
          cases houtermost
          rfl
      · cases hread
    · obtain ⟨more, rfl, hmore⟩ := hskip.exists_cons
      obtain ⟨⟨opening, behind⟩, hopening, hread⟩ := Option.bind_eq_some_iff.mp hread
      obtain ⟨last, hlast, hcloses⟩ := stable_opening? level.flags hmore hopening
      simp only [hlast, Option.bind_eq_bind, Option.bind_some] at hmade
      dsimp only at hread
      split at hread
      · rename_i heq
        cases heq
        exact ih hcloses hlt hread hmade houtermost
      · rename_i heq
        cases heq
        exact ih hcloses hlt hread hmade (List.getLastD_cons.trans houtermost)
      · rename_i heq
        cases heq
        dsimp only at hmade
        split at hread
        · cases hread
        · rename_i hname
          rw [if_neg hname] at hmade
          exact ih hcloses hlt hread hmade (List.getLastD_cons.trans houtermost)
    · obtain ⟨more, rfl, hmore⟩ := hskip.exists_cons
      split at hread
      · cases hread
      · exact ih hmore hlt hread hmade (List.getLastD_cons.symm.trans houtermost)
    · obtain ⟨more, rfl, hmore⟩ := hskip.exists_cons
      exact ih hmore hlt hread hmade houtermost
    · obtain ⟨more, rfl, hmore⟩ := hskip.exists_cons
      obtain ⟨⟨part, behind⟩, hpart, hread⟩ := Option.bind_eq_some_iff.mp hread
      obtain ⟨last, hlast, hcloses⟩ := stable_bracket? level.flags hmore hpart
      simp only [hlast, Option.bind_eq_bind, Option.bind_some] at hmade
      exact ih hcloses hlt hread hmade houtermost
    · rename_i c behind hopen hclose hbar hbracket
      obtain ⟨more, rfl, hmore⟩ := hskip.exists_cons
      simp only at hmade
      split at hread
      · rename_i hoperator
        rw [if_pos hoperator] at hmade
        obtain ⟨⟨least, most, greedy, last⟩, hrepetition, hread⟩ := Option.bind_eq_some_iff.mp hread
        obtain ⟨repeated, hrepeated, hread⟩ := Option.bind_eq_some_iff.mp hread
        obtain ⟨last, hlast, hcloses⟩ := closes_repetition? hskip hrepetition
        simp only [hlast, hrepeated, Option.bind_eq_bind, Option.bind_some] at hmade
        rw [← captures_repeatLast? hrepeated] at houtermost
        exact ih hcloses hlt hread hmade houtermost
      · rename_i hoperand
        rw [if_neg hoperand] at hmade
        obtain ⟨⟨primitive, last⟩, hprimitive, hread⟩ := Option.bind_eq_some_iff.mp hread
        obtain ⟨regex, hregex, hread⟩ := Option.bind_eq_some_iff.mp hread
        obtain ⟨last, hlast, hcloses⟩ := stable_primitive? level.flags hskip hprimitive
        simp only [hlast, hregex, Option.bind_eq_bind, Option.bind_some] at hmade
        exact ih hcloses hlt hread hmade houtermost

end AttributeGrammar.Pattern
