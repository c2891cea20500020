import Mathlib.Data.List.Induction
import Mathlib.Order.Bounds.Image
import AttributeGrammar.Proofs.Outcome
import AttributeGrammar.Proofs.Scan.Calls

/-!
# The longest match

Scanning compares lengths of fronts of one text. In characters or in bytes the comparison is the same.

* `Text.bytePrefix?_eq_some_iff`, `Text.utf8Length_lt_iff` — the front of so many bytes, and the order of
  fronts.
* `Tables.isGreatest_longestLiteral` — trying the numbers of bytes downward finds the longest literal.
* `Tables.isGreatest_longestRegex`, `Tables.firstRegex_longestRegex` — the fold over the regex terminals
  finds the longest match, and the first regex terminal that has it.
* `Search.run_le`, `Tables.longest?_le` — no match ends behind the text that is searched.
* `Scanner.next_follows_longest` — reading delivers what the lengths of the registered literals and of the
  matches of the registered patterns say.
-/

set_option autoImplicit false

namespace AttributeGrammar

open Text

/-! ## Fronts of a text -/

namespace Text

variable {text front other : List Char}

theorem utf8Length_eq_zero_iff : utf8Length text = 0 ↔ text = [] := by
  cases text with
  | nil => simp [utf8Length]
  | cons c rest =>
    have hpos := c.utf8Size_pos
    simp only [utf8Length, reduceCtorEq, iff_false]
    omega

theorem utf8Length_le_of_prefix (h : front <+: text) : utf8Length front ≤ utf8Length text := by
  obtain ⟨rest, rfl⟩ := h
  rw [utf8Length_append]
  omega

theorem utf8Length_lt_of_prefix (h : front <+: text) (hlength : front.length < text.length) :
    utf8Length front < utf8Length text := by
  obtain ⟨rest, rfl⟩ := h
  have hrest : rest ≠ [] := by
    rintro rfl
    simp at hlength
  have hpos : utf8Length rest ≠ 0 := fun hzero => hrest (utf8Length_eq_zero_iff.mp hzero)
  rw [utf8Length_append]
  omega

/-- **Of two fronts of a text the one with more characters has more bytes.** -/
theorem utf8Length_lt_iff (hfront : front <+: text) (hother : other <+: text) :
    utf8Length front < utf8Length other ↔ front.length < other.length := by
  constructor
  · intro hbytes
    by_contra hlength
    have hle := utf8Length_le_of_prefix
      (List.prefix_of_prefix_length_le hother hfront (Nat.not_lt.mp hlength))
    omega
  · intro hlength
    exact utf8Length_lt_of_prefix (List.prefix_of_prefix_length_le hfront hother hlength.le) hlength

theorem length_le_of_utf8Length_le (hfront : front <+: text) (hother : other <+: text)
    (h : utf8Length front ≤ utf8Length other) : front.length ≤ other.length := by
  by_contra hlength
  have hlt := (utf8Length_lt_iff hother hfront).mpr (Nat.not_le.mp hlength)
  omega

theorem bytePrefix?_eq_some_iff {bytes : Nat} :
    bytePrefix? bytes text = some front ↔ front <+: text ∧ utf8Length front = bytes := by
  induction text generalizing bytes front with
  | nil =>
    cases bytes with
    | zero =>
      simp only [bytePrefix?, Option.some.injEq, List.prefix_nil, utf8Length_eq_zero_iff, and_self]
      exact eq_comm
    | succ bytes =>
      simp only [bytePrefix?, reduceCtorEq, List.prefix_nil, false_iff, not_and]
      rintro rfl
      simp [utf8Length]
  | cons c rest ih =>
    cases bytes with
    | zero =>
      simp only [bytePrefix?, Option.some.injEq, utf8Length_eq_zero_iff]
      constructor
      · rintro rfl
        exact ⟨List.nil_prefix, rfl⟩
      · exact fun h => h.2.symm
    | succ bytes =>
      simp only [bytePrefix?, Option.ite_none_right_eq_some, Option.map_eq_some_iff, ih]
      constructor
      · rintro ⟨hle, inner, ⟨hfits, hbytes⟩, rfl⟩
        refine ⟨List.prefix_cons_inj c |>.mpr hfits, ?_⟩
        rw [utf8Length, hbytes]
        omega
      · rintro ⟨hfits, hbytes⟩
        rcases List.prefix_cons_iff.mp hfits with rfl | ⟨inner, rfl, hinner⟩
        · simp [utf8Length] at hbytes
        · rw [utf8Length] at hbytes
          exact ⟨by omega, inner, ⟨hinner, by omega⟩, rfl⟩

/-- The bytes of the first characters grow with their number. -/
theorem monotone_utf8Length_take (text : List Char) :
    Monotone fun count => utf8Length (text.take count) := fun _ _ hle =>
  utf8Length_le_of_prefix (List.take_prefix_take_left hle)

end Text

/-! ## The end of a match -/

/-- A search ends within the text, or where a match ended before. -/
theorem Search.run_le {program : Array Instruction} {anchored : Bool} {before : Option Char}
    {work : List Nat} {position stop : Nat} {best : Option Nat} {text : List Char}
    (h : run program anchored before work position best text = some stop) :
    stop ≤ position + text.length ∨ best = some stop := by
  induction text generalizing before work position best with
  | nil =>
    unfold run at h
    dsimp only at h
    generalize (if anchored || best.isSome then work else work ++ [0]) = work at h
    split at h
    · cases h
      exact .inl (Nat.le_refl _)
    · exact .inr h
  | cons c rest ih =>
    unfold run at h
    dsimp only at h
    generalize (if anchored || best.isSome then work else work ++ [0]) = work at h
    generalize untilAccept program _ = ways at h
    generalize hfound : (if ways.2 then some position else best) = found at h
    have hbest (hstop : found = some stop) : stop ≤ position + (c :: rest).length ∨ best = some stop := by
      subst hfound
      split at hstop
      · cases hstop
        exact .inl (Nat.le_add_right _ _)
      · exact .inr hstop
    split at h
    · exact hbest h
    · rcases ih h with hle | hstop
      · refine .inl ?_
        simp only [List.length_cons]
        omega
      · exact hbest hstop

theorem Pattern.Compiled.matchEnd?_le {compiled : Pattern.Compiled} {text : List Char} {stop : Nat}
    (h : compiled.matchEnd? text = some stop) : stop ≤ text.length := by
  rcases Search.run_le h with hle | hnone
  · simpa using hle
  · cases hnone

namespace Tables

variable {tables : Tables} {text : List Char} {kind : Kind} {length : Nat}

/-! ## The longest literal -/

/-- The lengths of the literals at the front of a text, and zero. -/
def literalLengths (tables : Tables) (text : List Char) : Set Nat :=
  {length | length = 0 ∨ ∃ literal ∈ tables.literals, literal <+: text ∧ literal.length = length}

theorem literalWithin_succ (tables : Tables) (text : List Char) (bytes : Nat) :
    tables.literalWithin text (bytes + 1) =
      match bytePrefix? (bytes + 1) text with
      | some front => if front ∈ tables.literals then front.length else tables.literalWithin text bytes
      | none => tables.literalWithin text bytes := rfl

/-- Trying the numbers of bytes downward finds the longest literal among those of at most so many bytes. -/
theorem isGreatest_literalWithin (tables : Tables) (text : List Char) (bytes : Nat) :
    IsGreatest {length | length = 0 ∨ ∃ literal ∈ tables.literals, literal <+: text ∧
      utf8Length literal ≤ bytes ∧ literal.length = length} (tables.literalWithin text bytes) := by
  induction bytes with
  | zero =>
    refine ⟨.inl rfl, ?_⟩
    rintro length (rfl | ⟨literal, -, -, hbytes, rfl⟩)
    · exact Nat.le_refl _
    · rw [utf8Length_eq_zero_iff.mp (Nat.le_zero.mp hbytes)]
      exact Nat.zero_le _
  | succ bytes ih =>
    -- A literal of `bytes + 1` bytes is the front of that length; without it nothing new is to be looked for.
    have hskip : (∀ literal ∈ tables.literals, literal <+: text → utf8Length literal ≠ bytes + 1) →
        IsGreatest {length | length = 0 ∨ ∃ literal ∈ tables.literals, literal <+: text ∧
          utf8Length literal ≤ bytes + 1 ∧ literal.length = length} (tables.literalWithin text bytes) := by
      intro hnone
      refine ⟨ih.1.imp_right ?_, ?_⟩
      · rintro ⟨literal, hmem, hfits, hbytes, hlength⟩
        exact ⟨literal, hmem, hfits, by omega, hlength⟩
      · rintro length (rfl | ⟨literal, hmem, hfits, hbytes, rfl⟩)
        · exact Nat.zero_le _
        · have hne := hnone literal hmem hfits
          exact ih.2 (.inr ⟨literal, hmem, hfits, by omega, rfl⟩)
    rw [literalWithin_succ]
    split
    · rename_i front hfront
      obtain ⟨hfits, hbytes⟩ := bytePrefix?_eq_some_iff.mp hfront
      split
      · rename_i hmem
        refine ⟨.inr ⟨front, hmem, hfits, hbytes.le, rfl⟩, ?_⟩
        rintro length (rfl | ⟨literal, -, hother, hle, rfl⟩)
        · exact Nat.zero_le _
        · exact length_le_of_utf8Length_le hother hfits (hbytes ▸ hle)
      · rename_i hmem
        refine hskip fun literal hliteral hother heq => hmem ?_
        cases hfront.symm.trans (bytePrefix?_eq_some_iff.mpr ⟨hother, heq⟩)
        exact hliteral
    · rename_i hnone
      refine hskip fun literal hliteral hother heq => ?_
      cases hnone.symm.trans (bytePrefix?_eq_some_iff.mpr ⟨hother, heq⟩)

theorem utf8Length_le_literalBound {literal : List Char} (h : literal ∈ tables.literals) :
    utf8Length literal ≤ tables.literalBound := by
  have hmax : ∀ (sizes : List Nat) (start : Nat), start ≤ sizes.foldl max start ∧
      ∀ size ∈ sizes, size ≤ sizes.foldl max start := by
    intro sizes
    induction sizes with
    | nil => simp
    | cons first sizes ih =>
      intro start
      obtain ⟨hstart, hsizes⟩ := ih (max start first)
      rw [List.foldl_cons]
      refine ⟨by omega, fun size hsize => ?_⟩
      rcases List.mem_cons.mp hsize with rfl | hsize
      · omega
      · exact hsizes size hsize
  exact (hmax _ 0).2 _ (List.mem_map_of_mem h)

/-- **The search downward finds the longest literal at the front.** -/
theorem isGreatest_longestLiteral (tables : Tables) (text : List Char) :
    IsGreatest (tables.literalLengths text) (tables.longestLiteral text) := by
  have hwithin := tables.isGreatest_literalWithin text (min tables.literalBound (utf8Length text))
  refine ⟨hwithin.1.imp_right ?_, ?_⟩
  · rintro ⟨literal, hmem, hfits, -, hlength⟩
    exact ⟨literal, hmem, hfits, hlength⟩
  · rintro length (rfl | ⟨literal, hmem, hfits, hlength⟩)
    · exact Nat.zero_le _
    · exact hwithin.2 (.inr ⟨literal, hmem, hfits,
        Nat.le_min.mpr ⟨utf8Length_le_literalBound hmem, utf8Length_le_of_prefix hfits⟩, hlength⟩)

/-! ## The longest match of a regex terminal -/

/-- The lengths of the matches of the regex terminals, and zero. -/
def regexLengths (tables : Tables) (text : List Char) : Set Nat :=
  {length | length = 0 ∨ ∃ regex ∈ tables.regexes, regex.2.matchEnd? text = some length}

/-- The first regex terminal with a match of the length has the kind. -/
def FirstRegex (tables : Tables) (text : List Char) (kind : Kind) (length : Nat) : Prop :=
  ∃ (index : Nat) (regex : Kind × Pattern.Compiled), tables.regexes[index]? = some regex ∧ regex.1 = kind ∧
    regex.2.matchEnd? text = some length ∧
    ∀ earlier < index, ∀ other : Kind × Pattern.Compiled, tables.regexes[earlier]? = some other →
      other.2.matchEnd? text ≠ some length

theorem longestRegex_concat (literals : List (List Char)) (regexes : List (Kind × Pattern.Compiled))
    (last : Kind × Pattern.Compiled) (text : List Char) :
    longestRegex ⟨literals, regexes ++ [last]⟩ text =
      match last.2.matchEnd? text with
      | some length =>
        if (longestRegex ⟨literals, regexes⟩ text).2 < length then (last.1, length)
        else longestRegex ⟨literals, regexes⟩ text
      | none => longestRegex ⟨literals, regexes⟩ text := by
  simp only [longestRegex, List.foldl_append, List.foldl_cons, List.foldl_nil]
  rfl

/-- What the fold over the regex terminals finds. The induction is on the regex terminals from the last one,
as the fold looks at that last. -/
theorem longestRegex_spec (tables : Tables) (text : List Char) :
    IsGreatest (tables.regexLengths text) (tables.longestRegex text).2 ∧
      (0 < (tables.longestRegex text).2 →
        tables.FirstRegex text (tables.longestRegex text).1 (tables.longestRegex text).2) := by
  obtain ⟨literals, regexes⟩ := tables
  induction regexes using List.reverseRecOn with
  | nil =>
    refine ⟨⟨.inl rfl, ?_⟩, fun hpos => absurd hpos (Nat.lt_irrefl 0)⟩
    rintro length (rfl | ⟨regex, hregex, -⟩)
    · exact Nat.le_refl _
    · cases hregex
  | append_singleton regexes last ih =>
    obtain ⟨⟨hmem, hgreatest⟩, hfirst⟩ := ih
    have hstep := longestRegex_concat literals regexes last text
    generalize longestRegex ⟨literals, regexes⟩ text = best at hmem hgreatest hfirst hstep
    have hlengths : ∀ {length}, length ∈ regexLengths ⟨literals, regexes ++ [last]⟩ text ↔
        length ∈ regexLengths ⟨literals, regexes⟩ text ∨ last.2.matchEnd? text = some length := by
      intro length
      simp only [regexLengths, Set.mem_ofPred_eq, List.mem_append, List.mem_singleton, or_assoc]
      refine or_congr_right ⟨?_, ?_⟩
      · rintro ⟨regex, hregex | rfl, hend⟩
        · exact .inl ⟨regex, hregex, hend⟩
        · exact .inr hend
      · rintro (⟨regex, hregex, hend⟩ | hend)
        · exact ⟨regex, .inl hregex, hend⟩
        · exact ⟨last, .inr rfl, hend⟩
    -- Where the last one does not win, the first one with the greatest length is as before.
    have hkeep : (∀ length, last.2.matchEnd? text = some length → length ≤ best.2) →
        IsGreatest (regexLengths ⟨literals, regexes ++ [last]⟩ text) best.2 ∧
          (0 < best.2 → FirstRegex ⟨literals, regexes ++ [last]⟩ text best.1 best.2) := by
      intro hle
      refine ⟨⟨hlengths.mpr (.inl hmem), fun length hlength => ?_⟩, fun hpos => ?_⟩
      · rcases hlengths.mp hlength with hold | hend
        · exact hgreatest hold
        · exact hle length hend
      · obtain ⟨index, regex, hindex, hkind, hend, hearlier⟩ := hfirst hpos
        have hlt := (List.getElem?_eq_some_iff.mp hindex).1
        refine ⟨index, regex, (List.getElem?_append_left hlt).trans hindex, hkind, hend,
          fun earlier hbefore other hother => hearlier earlier hbefore other ?_⟩
        rwa [List.getElem?_append_left (hbefore.trans hlt)] at hother
    rcases hend : last.2.matchEnd? text with _ | length
    · simp only [hend] at hstep
      rw [hstep]
      exact hkeep (by simp [hend])
    · simp only [hend] at hstep
      split at hstep
      · rename_i hlt
        rw [hstep]
        refine ⟨⟨hlengths.mpr (.inr hend), fun other hother => ?_⟩, fun _ => ?_⟩
        · rcases hlengths.mp hother with hold | hsame
          · exact (hgreatest hold).trans hlt.le
          · exact (Option.some.inj (hsame.symm.trans hend)).le
        · refine ⟨regexes.length, last, by simp, rfl, hend, fun earlier hbefore other hother hsame => ?_⟩
          rw [List.getElem?_append_left hbefore] at hother
          have hle := hgreatest (.inr ⟨other, List.mem_of_getElem? hother, hsame⟩)
          exact Nat.not_lt.mpr hle hlt
      · rename_i hle
        rw [hstep]
        refine hkeep fun other hother => ?_
        cases hend.symm.trans hother
        exact Nat.not_lt.mp hle

/-- **The fold over the regex terminals finds the longest match.** -/
theorem isGreatest_longestRegex (tables : Tables) (text : List Char) :
    IsGreatest (tables.regexLengths text) (tables.longestRegex text).2 :=
  (tables.longestRegex_spec text).1

/-- **It finds the first regex terminal with such a match.** -/
theorem firstRegex_longestRegex (h : 0 < (tables.longestRegex text).2) :
    tables.FirstRegex text (tables.longestRegex text).1 (tables.longestRegex text).2 :=
  (tables.longestRegex_spec text).2 h

/-! ## The length of a token -/

theorem longestLiteral_le (tables : Tables) (text : List Char) :
    tables.longestLiteral text ≤ text.length := by
  rcases (tables.isGreatest_longestLiteral text).1 with hzero | ⟨literal, -, hfits, hlength⟩
  · omega
  · rw [← hlength]
    exact hfits.length_le

theorem longestRegex_le (tables : Tables) (text : List Char) :
    (tables.longestRegex text).2 ≤ text.length := by
  rcases (tables.isGreatest_longestRegex text).1 with hzero | ⟨regex, -, hend⟩
  · omega
  · exact Pattern.Compiled.matchEnd?_le hend

/-- **A token ends within the text.** -/
theorem longest?_le (h : tables.longest? text = some (kind, length)) : length ≤ text.length := by
  have hregex := tables.longestRegex_le text
  have hliteral := tables.longestLiteral_le text
  simp only [longest?] at h
  split at h
  · cases h
    exact hregex
  · split at h
    · cases h
      exact hliteral
    · cases h

end Tables

/-! ## Registered literals and patterns -/

/-- The bytes of the literals at the front of a text, and zero. -/
def literalBytes (literals : List String) (text : List Char) : Set Nat :=
  {bytes | bytes = 0 ∨ ∃ literal ∈ literals, literal.toList <+: text ∧ literal.utf8ByteSize = bytes}

/-- Searching a text with the pattern of a token gives a match that ends behind so many bytes. -/
def Pattern.MatchEnds (pattern : String) (text : List Char) (bytes : Nat) : Prop :=
  ∃ compiled stop, Pattern.compileToken? pattern = some compiled ∧ compiled.matchEnd? text = some stop ∧
    utf8Length (text.take stop) = bytes

/-- The bytes in front of the ends of the matches of the patterns, and zero. -/
def matchBytes (regexes : List (Kind × String)) (text : List Char) : Set Nat :=
  {bytes | bytes = 0 ∨ ∃ regex ∈ regexes, Pattern.MatchEnds regex.2 text bytes}

/-- The tables look for the literals and the patterns. -/
structure Tables.Registers (tables : Tables) (literals : List String)
    (regexes : List (Kind × String)) : Prop where
  literals_eq : tables.literals = (literals.map String.toList).filter (· ≠ [])
  regexes : List.Forall₂ (fun regex made => regex.1 = made.1 ∧ Pattern.compileToken? regex.2 = some made.2)
    regexes tables.regexes

namespace Tables.Registers

variable {tables : Tables} {literals : List String} {regexes : List (Kind × String)} {text : List Char}

theorem image_literalLengths (h : tables.Registers literals regexes) (text : List Char) :
    (fun count => utf8Length (text.take count)) '' tables.literalLengths text = literalBytes literals text := by
  ext bytes
  constructor
  · rintro ⟨count, rfl | ⟨literal, hmem, hfits, rfl⟩, rfl⟩
    · exact .inl rfl
    · rw [h.literals_eq, List.mem_filter, List.mem_map] at hmem
      obtain ⟨⟨literal, hliteral, rfl⟩, -⟩ := hmem
      refine .inr ⟨literal, hliteral, hfits, ?_⟩
      dsimp only
      rw [← List.prefix_iff_eq_take.mp hfits, utf8Length_eq, String.ofList_toList]
  · rintro (rfl | ⟨literal, hliteral, hfits, rfl⟩)
    · exact ⟨0, .inl rfl, rfl⟩
    · refine ⟨literal.toList.length, ?_, ?_⟩
      · by_cases hempty : literal.toList = []
        · exact .inl (by simp [hempty])
        · refine .inr ⟨literal.toList, ?_, hfits, rfl⟩
          rw [h.literals_eq, List.mem_filter]
          exact ⟨List.mem_map_of_mem hliteral, by simpa using hempty⟩
      · dsimp only
        rw [← List.prefix_iff_eq_take.mp hfits, utf8Length_eq, String.ofList_toList]

theorem image_regexLengths (h : tables.Registers literals regexes) (text : List Char) :
    (fun count => utf8Length (text.take count)) '' tables.regexLengths text = matchBytes regexes text := by
  ext bytes
  constructor
  · rintro ⟨count, rfl | ⟨made, hmem, hend⟩, rfl⟩
    · exact .inl rfl
    · obtain ⟨regex, hregex, -, hcompiled⟩ := Outcome.exists_mem_left h.regexes hmem
      exact .inr ⟨regex, hregex, made.2, count, hcompiled, hend, rfl⟩
  · rintro (rfl | ⟨regex, hregex, compiled, count, hcompiled, hend, rfl⟩)
    · exact ⟨0, .inl rfl, rfl⟩
    · obtain ⟨made, hmade, -, hmadeCompiled⟩ := Outcome.exists_mem_right h.regexes hregex
      cases hcompiled.symm.trans hmadeCompiled
      exact ⟨count, .inr ⟨made, hmade, hend⟩, rfl⟩

/-- **The longest literal has the most bytes.** -/
theorem isGreatest_literalBytes (h : tables.Registers literals regexes) (text : List Char) :
    IsGreatest (literalBytes literals text) (utf8Length (text.take (tables.longestLiteral text))) := by
  rw [← h.image_literalLengths text]
  exact (monotone_utf8Length_take text).map_isGreatest (tables.isGreatest_longestLiteral text)

/-- **The longest match ends behind the most bytes.** -/
theorem isGreatest_matchBytes (h : tables.Registers literals regexes) (text : List Char) :
    IsGreatest (matchBytes regexes text) (utf8Length (text.take (tables.longestRegex text).2)) := by
  rw [← h.image_regexLengths text]
  exact (monotone_utf8Length_take text).map_isGreatest (tables.isGreatest_longestRegex text)

/-- A match ends behind the bytes of the longest one exactly if it is as long. -/
theorem matchEnds_iff {regex : Kind × String} {made : Kind × Pattern.Compiled} {count : Nat}
    (hcompiled : Pattern.compileToken? regex.2 = some made.2) (hcount : count ≤ text.length) :
    Pattern.MatchEnds regex.2 text (utf8Length (text.take count)) ↔ made.2.matchEnd? text = some count := by
  constructor
  · rintro ⟨compiled, stop, hother, hend, hbytes⟩
    cases hother.symm.trans hcompiled
    have hstop := Pattern.Compiled.matchEnd?_le hend
    have hle := length_le_of_utf8Length_le (List.take_prefix stop text) (List.take_prefix count text) hbytes.le
    have hge := length_le_of_utf8Length_le (List.take_prefix count text) (List.take_prefix stop text) hbytes.ge
    simp only [List.length_take] at hle hge
    rw [hend, Option.some.injEq]
    omega
  · exact fun hend => ⟨made.2, count, hcompiled, hend, rfl⟩

/-- The longest match belongs to the first pattern that has it. -/
theorem exists_first (h : tables.Registers literals regexes) (hpos : 0 < (tables.longestRegex text).2) :
    ∃ (index : Nat) (pattern : String), regexes[index]? = some ((tables.longestRegex text).1, pattern) ∧
      Pattern.MatchEnds pattern text (utf8Length (text.take (tables.longestRegex text).2)) ∧
      ∀ earlier < index, ∀ other : Kind × String, regexes[earlier]? = some other →
        ¬ Pattern.MatchEnds other.2 text (utf8Length (text.take (tables.longestRegex text).2)) := by
  have hle := tables.longestRegex_le text
  obtain ⟨index, made, hindex, hkind, hend, hearlier⟩ := firstRegex_longestRegex hpos
  obtain ⟨⟨kind, pattern⟩, hregex, hsame, hcompiled⟩ := Outcome.exists_getElem?_left h.regexes hindex
  refine ⟨index, pattern, ?_, (matchEnds_iff hcompiled hle).mpr hend,
    fun earlier hbefore other hother hends => ?_⟩
  · rw [hregex, ← hkind, ← hsame]
  · obtain ⟨otherMade, hotherMade, -, hotherCompiled⟩ := Outcome.exists_getElem?_right h.regexes hother
    exact hearlier earlier hbefore otherMade hotherMade ((matchEnds_iff hotherCompiled hle).mp hends)

/-- **What is found depends on the set of the literals alone.** -/
theorem longest?_eq {other : Tables} {others : List String} (h : tables.Registers literals regexes)
    (hother : other.Registers others regexes) (hsame : ∀ literal, literal ∈ others ↔ literal ∈ literals) :
    other.longest? = tables.longest? := by
  funext text
  have hregexes : other.regexes = tables.regexes := by
    refine List.ext_getElem? fun index => ?_
    rcases hregex : regexes[index]? with _ | regex
    · have hle := List.getElem?_eq_none_iff.mp hregex
      rw [List.getElem?_eq_none (hother.regexes.length_eq ▸ hle),
        List.getElem?_eq_none (h.regexes.length_eq ▸ hle)]
    · obtain ⟨made, hmade, hkind, hcompiled⟩ := Outcome.exists_getElem?_right h.regexes hregex
      obtain ⟨made', hmade', hkind', hcompiled'⟩ := Outcome.exists_getElem?_right hother.regexes hregex
      rw [hmade, hmade', Option.some.injEq]
      exact Prod.ext (hkind'.symm.trans hkind) (Option.some.inj (hcompiled'.symm.trans hcompiled))
  have hlengths : other.literalLengths text = tables.literalLengths text := by
    simp only [literalLengths, h.literals_eq, hother.literals_eq, List.mem_filter, List.mem_map, hsame]
  have hliteral : other.longestLiteral text = tables.longestLiteral text :=
    (other.isGreatest_longestLiteral text).unique (hlengths ▸ tables.isGreatest_longestLiteral text)
  have hregex : other.longestRegex text = tables.longestRegex text := by
    simp only [longestRegex, hregexes]
  simp only [longest?, hregex, hliteral]

end Tables.Registers

namespace Scanner

variable {literals : List String} {regexes : List (Kind × String)} {input : String}
    {made scanner other : Scanner}

theorem registers_of_new (h : new input literals regexes = .ok scanner) :
    scanner.tables.Registers literals regexes := by
  obtain ⟨compiled, hcompiled, h⟩ := Outcome.except_bind_eq_ok.mp h
  cases h
  refine ⟨rfl, (Outcome.mapM_eq_ok.mp hcompiled).imp fun regex made hmade => ?_⟩
  dsimp only at hmade
  split at hmade
  · rename_i found hfound
    cases hmade
    exact ⟨rfl, hfound⟩
  · cases hmade

/-- A new scanner is at the start of its input. -/
theorem start_of_new (h : new input literals regexes = .ok scanner) :
    scanner.cursor = ⟨0, input.toList⟩ ∧ scanner.previous = ⟨0, input.toList⟩ := by
  obtain ⟨compiled, -, h⟩ := Outcome.except_bind_eq_ok.mp h
  cases h
  exact ⟨rfl, rfl⟩

/-- Whether a scanner is made does not depend on the literals. -/
theorem exists_new (h : new input literals regexes = .ok scanner) (others : List String) :
    ∃ other, new input others regexes = .ok other := by
  obtain ⟨compiled, hcompiled, -⟩ := Outcome.except_bind_eq_ok.mp h
  exact ⟨_, Outcome.except_bind_eq_ok.mpr ⟨compiled, hcompiled, rfl⟩⟩

theorem run_tables (scanner : Scanner) (calls : List Call) : (scanner.run calls).2.tables = scanner.tables := by
  induction calls generalizing scanner with
  | nil => rfl
  | cons call calls ih =>
    refine (ih _).trans ?_
    cases call with
    | query query => exact (scanner.ask_scanner query).1
    | undo => rfl

/-- Two scanners that find the same from the same places answer all calls alike. -/
theorem Alike.run (h : scanner.Alike other) (hprevious : scanner.previous = other.previous)
    (calls : List Call) :
    (scanner.run calls).1 = (other.run calls).1 := by
  induction calls generalizing scanner other with
  | nil => rfl
  | cons call calls ih =>
    obtain ⟨hanswer, hafter, hplaces⟩ : (scanner.call call).1 = (other.call call).1 ∧
        (scanner.call call).2.Alike (other.call call).2 ∧
        (scanner.call call).2.previous = (other.call call).2.previous := by
      cases call with
      | query query =>
        obtain ⟨hanswer, hafter⟩ := h.ask query
        exact ⟨hanswer, hafter,
          (scanner.ask_scanner query).2.trans (h.2.trans (other.ask_scanner query).2.symm)⟩
      | undo => exact ⟨rfl, ⟨h.1, hprevious⟩, hprevious⟩
    have hfirst : ((scanner.call call).1, (scanner.call call).2.position) =
        ((other.call call).1, (other.call call).2.position) :=
      Prod.ext hanswer (congrArg Cursor.offset hafter.2)
    have hall := congr (congrArg List.cons hfirst) (ih hafter hplaces)
    exact hall

/-- Reading delivers the first bytes ahead, which are a text, as a token of a kind, and moves just past them. -/
structure TakesFront (scanner : Scanner) (kind : Kind) (text : String) (bytes : Nat) : Prop where
  front : text.toList <+: scanner.cursor.rest
  size : text.utf8ByteSize = bytes
  next : ∃ after, next scanner = .ok ⟨kind, text, scanner.position⟩ after ∧
    after.cursor = ⟨scanner.position + bytes, scanner.cursor.rest.drop text.toList.length⟩

theorem takesFront_of_longest? {kind : Kind} {length : Nat} (hrest : scanner.cursor.rest ≠ [])
    (h : scanner.tables.longest? scanner.cursor.rest = some (kind, length)) :
    scanner.TakesFront kind (String.ofList (scanner.cursor.rest.take length))
      (utf8Length (scanner.cursor.rest.take length)) := by
  have hlength := Tables.longest?_le h
  refine ⟨?_, (utf8Length_eq _).symm, _, next_token hrest h, ?_⟩
  · rw [String.toList_ofList]
    exact List.take_prefix length _
  · rw [String.toList_ofList, List.length_take, Nat.min_eq_left hlength]
    rfl

/-- **Reading follows the longest match.** Wherever the cursor is before the end of the input, let `L` be
the bytes of the longest registered literal at the front of what is ahead, and `M` the bytes in front of the
greatest end of a match of a registered pattern, both zero if there is none. If `M` is greater, the token is
of the first kind in the order of registration whose match ends there; otherwise it is the literal; and if
both are zero, reading fails and stays. Literals in another order, or registered more than once, change no
answer to any calls. -/
theorem next_follows_longest (hnew : new input literals regexes = .ok made) :
    (∀ scanner : Scanner, scanner.tables = made.tables → scanner.cursor.rest ≠ [] →
      ∃ L M, IsGreatest (literalBytes literals scanner.cursor.rest) L ∧
        IsGreatest (matchBytes regexes scanner.cursor.rest) M ∧
        (L < M → ∃ (index : Nat) (kind : Kind) (pattern : String), regexes[index]? = some (kind, pattern) ∧
          Pattern.MatchEnds pattern scanner.cursor.rest M ∧
          (∀ earlier < index, ∀ other : Kind × String, regexes[earlier]? = some other →
            ¬ Pattern.MatchEnds other.2 scanner.cursor.rest M) ∧
          ∃ text, scanner.TakesFront kind text M) ∧
        (M ≤ L → 0 < L → ∃ literal ∈ literals, scanner.TakesFront .text literal L) ∧
        (M = 0 → L = 0 → ∃ after, after.cursor = scanner.cursor ∧
          next scanner = .error (.unexpectedToken scanner.position
            (String.ofList (scanner.cursor.rest.take nearLength))) after)) ∧
    ∀ others : List String, (∀ literal, literal ∈ others ↔ literal ∈ literals) →
      ∃ other, new input others regexes = .ok other ∧
        ∀ calls, (other.run calls).1 = (made.run calls).1 := by
  have hregisters := registers_of_new hnew
  refine ⟨fun scanner htables hrest => ?_, fun others hsame => ?_⟩
  · rw [← htables] at hregisters
    generalize htext : scanner.cursor.rest = text at *
    have hliteral := scanner.tables.longestLiteral_le text
    have hregex := scanner.tables.longestRegex_le text
    have hlt : utf8Length (text.take (scanner.tables.longestLiteral text)) <
        utf8Length (text.take (scanner.tables.longestRegex text).2) ↔
          scanner.tables.longestLiteral text < (scanner.tables.longestRegex text).2 := by
      rw [utf8Length_lt_iff (List.take_prefix _ text) (List.take_prefix _ text), List.length_take,
        List.length_take,
        Nat.min_eq_left hliteral, Nat.min_eq_left hregex]
    have hzero : ∀ {count : Nat}, count ≤ text.length → utf8Length (text.take count) = 0 → count = 0 := by
      intro count hcount hbytes
      have hnil := congrArg List.length (utf8Length_eq_zero_iff.mp hbytes)
      rwa [List.length_take, Nat.min_eq_left hcount] at hnil
    refine ⟨_, _, hregisters.isGreatest_literalBytes text, hregisters.isGreatest_matchBytes text,
      fun hgreater => ?_, fun hle hpos => ?_, fun hM hL => ?_⟩
    · obtain ⟨index, pattern, hindex, hends, hfirst⟩ :=
        hregisters.exists_first (Nat.zero_lt_of_lt (hlt.mp hgreater))
      have hlongest : scanner.tables.longest? text = some (scanner.tables.longestRegex text) := by
        simp only [Tables.longest?, hlt.mp hgreater, if_true]
      subst htext
      exact ⟨index, _, pattern, hindex, hends, hfirst, _, takesFront_of_longest? hrest hlongest⟩
    · have hlongest : scanner.tables.longest? text = some (.text, scanner.tables.longestLiteral text) := by
        have hnot := mt hlt.mpr (Nat.not_lt.mpr hle)
        have hlength : 0 < scanner.tables.longestLiteral text := by
          refine Nat.pos_of_ne_zero fun hnone => ?_
          rw [hnone] at hpos
          simp [utf8Length] at hpos
        simp only [Tables.longest?, hnot, hlength, if_false, if_true]
      subst htext
      have htakes := takesFront_of_longest? hrest hlongest
      rcases (scanner.tables.isGreatest_longestLiteral scanner.cursor.rest).1 with hnone |
        ⟨literal, hmem, hfits, hlength⟩
      · rw [hnone] at hpos
        simp [utf8Length] at hpos
      · rw [← hlength, ← List.prefix_iff_eq_take.mp hfits] at htakes ⊢
        rw [hregisters.literals_eq, List.mem_filter, List.mem_map] at hmem
        obtain ⟨⟨literal, hliteral, rfl⟩, -⟩ := hmem
        rw [String.ofList_toList] at htakes
        exact ⟨literal, hliteral, htakes⟩
    · have hnone : scanner.tables.longest? text = none := by
        simp only [Tables.longest?, hzero hliteral hL, hzero hregex hM, Nat.lt_irrefl, if_false]
      subst htext
      exact ⟨{ scanner with previous := scanner.cursor }, rfl, next_none hrest hnone⟩
  · obtain ⟨other, hother⟩ := exists_new hnew others
    obtain ⟨hcursor, hprevious⟩ := start_of_new hother
    have hfinds := hregisters.longest?_eq (registers_of_new hother) hsame
    exact ⟨other, hother, Alike.run ⟨hfinds, hcursor.trans (start_of_new hnew).1.symm⟩
      (hprevious.trans (start_of_new hnew).2.symm)⟩

/-- A literal that is registered twice wins over two patterns with matches of its length, which would win
over the shorter literal. -/
theorem next_follows_longest_tie :
    let regexes := [(Kind.regex "ID", "[a-z]+"), (Kind.regex "WORD", "(a|b)+")]
    ∃ made, new "ab→" ["ab", "→", "", "a", "ab"] regexes = .ok made ∧ made.TakesFront .text "ab" 2 ∧
      ∃ other, new "ab→" ["", "a", "→", "ab"] regexes = .ok other ∧
        ∀ calls, (other.run calls).1 = (made.run calls).1 := by
  intro regexes
  have hsome : (new "ab→" ["ab", "→", "", "a", "ab"] regexes).toOption.isSome := by decide +kernel
  obtain ⟨made, hnew⟩ : ∃ made, new "ab→" ["ab", "→", "", "a", "ab"] regexes = .ok made := by
    rcases hmade : new "ab→" ["ab", "→", "", "a", "ab"] regexes with e | made
    · rw [hmade] at hsome
      cases hsome
    · exact ⟨made, rfl⟩
  have hrest : made.cursor.rest = ['a', 'b', '→'] := congrArg Cursor.rest (start_of_new hnew).1
  obtain ⟨hreads, hothers⟩ := next_follows_longest hnew
  obtain ⟨L, M, hL, hM, -, htie, -⟩ := hreads made rfl (by simp [hrest])
  rw [hrest] at hL hM
  have hbound : M ≤ 2 := by
    have hends : ∀ pattern ∈ ["[a-z]+", "(a|b)+"],
        ((Pattern.compileToken? pattern).bind (·.matchEnd? ['a', 'b', '→'])) = some 2 := by decide +kernel
    rcases hM.1 with hzero | ⟨regex, hregex, compiled, stop, hcompiled, hend, hbytes⟩
    · omega
    · have hpattern := hends regex.2 (List.mem_map_of_mem hregex)
      rw [hcompiled, Option.bind_some, hend] at hpattern
      cases hpattern
      rw [← hbytes]
      decide
  have hgreatest : L = 2 := by
    have hall : ∀ literal ∈ ["ab", "→", "", "a", "ab"], literal.toList <+: ['a', 'b', '→'] →
        literal.utf8ByteSize ≤ 2 := by decide
    refine hL.unique ⟨.inr ⟨"ab", by decide, by decide, by decide⟩, ?_⟩
    rintro bytes (rfl | ⟨literal, hliteral, hfits, rfl⟩)
    · omega
    · exact hall literal hliteral hfits
  subst hgreatest
  obtain ⟨literal, hliteral, htakes⟩ := htie hbound (by omega)
  have hab : ∀ literal ∈ ["ab", "→", "", "a", "ab"], literal.toList <+: ['a', 'b', '→'] →
      literal.utf8ByteSize = 2 → literal = "ab" := by decide
  have hsame : ∀ literal, literal ∈ ["", "a", "→", "ab"] ↔ literal ∈ ["ab", "→", "", "a", "ab"] := by
    intro literal
    simp only [List.mem_cons, List.not_mem_nil, or_false]
    tauto
  obtain rfl := hab literal hliteral (hrest ▸ htakes.front) htakes.size
  exact ⟨made, hnew, htakes, hothers _ hsame⟩

end Scanner

end AttributeGrammar
