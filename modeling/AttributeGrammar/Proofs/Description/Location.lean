import AttributeGrammar.Proofs.Description.Blocks
import AttributeGrammar.Proofs.Grammar.Failures

/-!
# Where descriptions fail

A description is refused at the first line that cannot be read, or, if every line can, at its end.

* `DescriptionFault.AtEnd` — the faults that only the end of a description has.
* `Progress.ofLine_of_line` — a line fails with its own number; `of_readLines_eq_error` finds it among others.
* `Progress.of_line_eq_action`, `of_readLines_eq_action` — the line on which an action that is still open
  started.
* `located_of_read` — **the line that is reported is the one at fault**.
-/

set_option autoImplicit false

namespace AttributeGrammar

/-- The description ended too early. -/
def DescriptionFault.AtEnd (fault : DescriptionFault) : Prop :=
  fault = .missingStart ∨ fault = .unbalancedAction

namespace Description

open Text

variable {α : Type} {grammar : Grammar} {progress after : Progress} {pending : OpenAction}
    {first no count : Nat}
  {fault : DescriptionFault} {e : GrammarError} {line text : List Char} {ls more : List (List Char)}

/-! ## Lines that cannot be read -/

/-- The error is of the line, or of none. -/
def OfLine (no : Nat) (e : GrammarError) : Prop := ∀ n fault, e = .description n fault → n = no ∧ ¬fault.AtEnd

theorem ofLine_of_inconsistent (h : e.Inconsistent) : OfLine no e := by
  rintro n fault rfl
  obtain ⟨_, h⟩ := h
  cases h

theorem ofLine_description (h : ¬fault.AtEnd) : OfLine no (.description no fault) := by
  intro n fault' heq
  cases heq
  exact ⟨rfl, h⟩

theorem ofLine_of_readWith {reader : Reader α} (h : readWith no reader text = .error e) : OfLine no e := by
  have hfault (near : String) (kind : ReadKind) : ¬(DescriptionFault.unreadable near kind).AtEnd := by
    rintro (heq | heq) <;> cases heq
  unfold readWith at h
  split at h
  · cases h
  · cases h
    exact ofLine_description (hfault _ _)
  · cases h
    exact ofLine_description (hfault _ _)

namespace Progress

theorem ofLine_of_codeLine (h : codeLine grammar pending no text = .error e) : OfLine no e := by
  unfold codeLine at h
  split at h
  · cases h
  · split at h
    · cases h
      exact ofLine_description (by rintro (heq | heq) <;> cases heq)
    · rcases Outcome.except_bind_eq_error.mp h with h | ⟨_, -, h⟩
      · exact ofLine_of_inconsistent (inconsistent_of_applyEdit (Grammar.fails_addAction _) h)
      · cases h

theorem ofLine_of_declarationLine (h : declarationLine grammar no text = .error e) : OfLine no e := by
  unfold declarationLine at h
  split at h
  · cases h
  split at h
  · rcases Outcome.except_bind_eq_error.mp h with h | ⟨⟨⟨name, exported⟩, rest⟩, -, h⟩
    · exact ofLine_of_readWith h
    · by_cases htwice : (grammar.action? name).isSome
      · simp only [htwice, if_true] at h
        cases h
        exact ofLine_description (by rintro (heq | heq) <;> cases heq)
      · simp only [htwice] at h
        exact ofLine_of_codeLine h
  split at h
  · rcases Outcome.except_bind_eq_error.mp h with h | ⟨_, -, h⟩
    · exact ofLine_of_readWith h
    · cases h
  split at h
  · rcases Outcome.except_bind_eq_error.mp h with h | ⟨_, -, h⟩
    · exact ofLine_of_readWith h
    rcases Outcome.except_bind_eq_error.mp h with h | ⟨_, -, h⟩
    · exact ofLine_of_inconsistent (inconsistent_of_toRule h)
    rcases Outcome.except_bind_eq_error.mp h with h | ⟨_, -, h⟩
    · exact ofLine_of_inconsistent (inconsistent_of_applyEdit (Grammar.fails_addRule _) h)
    · cases h
  split at h
  · rcases Outcome.except_bind_eq_error.mp h with h | ⟨_, -, h⟩
    · exact ofLine_of_readWith h
    · cases h
  · cases h
    exact ofLine_description (by rintro (heq | heq) <;> cases heq)

/-- **A line fails with its own number,** or with an inconsistency. -/
theorem ofLine_of_line (h : progress.line (no, text) = .error e) : OfLine no e := by
  obtain ⟨grammar, _ | pending | start⟩ := progress
  · exact ofLine_of_declarationLine h
  · exact ofLine_of_codeLine h
  · simp only [line] at h
    split at h
    · cases h
    · cases h
      exact ofLine_description (by rintro (heq | heq) <;> cases heq)

end Progress

/-- Lines in a row fail where the first of them does that cannot be read. -/
theorem of_readLines_eq_error (h : readLines first ls progress = .error (.description count fault)) :
    ¬fault.AtEnd ∧ first < count ∧ count ≤ first + ls.length ∧
      readLines first (ls.take (count - first)) progress = .error (.description count fault) ∧
      ∃ after, readLines first (ls.take (count - first - 1)) progress = .ok after := by
  induction ls generalizing first progress with
  | nil => cases h
  | cons line ls ih =>
    rw [readLines_cons] at h
    rcases Outcome.except_bind_eq_error.mp h with hline | ⟨mid, hmid, hrest⟩
    · obtain ⟨rfl, hfault⟩ := Progress.ofLine_of_line hline _ _ rfl
      refine ⟨hfault, Nat.lt_succ_self _, by simp only [List.length_cons]; omega, ?_, progress, ?_⟩
      · rw [Nat.add_sub_cancel_left, List.take_succ_cons, readLines_cons, hline]
        rfl
      · rw [Nat.add_sub_cancel_left]
        rfl
    · obtain ⟨hfault, hfirst, hlast, herror, after, hafter⟩ := ih hrest
      obtain ⟨rest, rfl⟩ : ∃ rest, count = first + 1 + (rest + 1) := ⟨count - first - 2, by omega⟩
      refine ⟨hfault, by omega, by simp only [List.length_cons]; omega, ?_, after, ?_⟩
      · rw [show first + 1 + (rest + 1) - first = rest + 1 + 1 by omega, List.take_succ_cons,
          readLines_cons, hmid]
        rw [Nat.add_sub_cancel_left] at herror
        exact herror
      · rw [show first + 1 + (rest + 1) - first - 1 = rest + 1 by omega, List.take_succ_cons,
          readLines_cons, hmid]
        rw [Nat.add_sub_cancel_left] at hafter
        exact hafter

/-! ## Actions that stay open -/

theorem StaysOpen.depthAfter_pos {depth : Nat} (h : StaysOpen depth text) : 0 < depthAfter depth text := by
  rw [← List.append_nil text] at h
  exact (staysOpen_append.mp h).2.pos

namespace Progress

theorem of_codeLine_eq_action {grammar' : Grammar} {left : OpenAction} (hpos : 0 < pending.depth)
    (h : codeLine grammar pending no text = .ok ⟨grammar', .action left⟩) :
    left.header = pending.header ∧ StaysOpen pending.depth text ∧
      left.depth = depthAfter pending.depth text := by
  unfold codeLine at h
  split at h
  · rename_i depth code hfollow
    cases h
    obtain ⟨hopen, hdepth⟩ := of_followBraces_unclosed hpos hfollow
    exact ⟨rfl, hopen, hdepth⟩
  · split at h
    · cases h
    · obtain ⟨_, -, h⟩ := Outcome.except_bind_eq_ok.mp h
      cases h

/-- An action that is open behind a line has its header there, or was open before. -/
theorem of_line_eq_action {grammar' : Grammar} {left : OpenAction}
    (hpos : ∀ pending, progress.mode = .action pending → 0 < pending.depth)
    (h : progress.line (no, line) = .ok ⟨grammar', .action left⟩) :
    (∃ named rest, progress.mode = .declarations ∧ actionHeader line = .done named rest ∧ left.header = no ∧
      StaysOpen 1 rest ∧ left.depth = depthAfter 1 rest) ∨
    ∃ pending, progress.mode = .action pending ∧ left.header = pending.header ∧ StaysOpen pending.depth line ∧
      left.depth = depthAfter pending.depth line := by
  obtain ⟨grammar, _ | pending | start⟩ := progress
  · cases reads_declarationLine h with
    | @action name exported rest _ hheader hcode =>
      obtain ⟨hno, hopen, hdepth⟩ := of_codeLine_eq_action Nat.zero_lt_one hcode
      exact .inl ⟨_, rest, rfl, hheader, hno, hopen, hdepth⟩
  · exact .inr ⟨pending, rfl, of_codeLine_eq_action (hpos pending rfl) h⟩
  · simp only [Progress.line] at h
    split at h <;> cases h

end Progress

/-- An action that is open behind some lines was open before them, or has its header on one of them, where
it was read between declarations. -/
theorem of_readLines_eq_action {left : OpenAction}
    (hpos : ∀ pending, progress.mode = .action pending → 0 < pending.depth)
    (h : readLines first ls progress = .ok ⟨grammar, .action left⟩) :
    (∃ pending, progress.mode = .action pending ∧ left.header = pending.header ∧
      StaysOpen pending.depth ls.flatten) ∨
    ∃ front line more before named rest, ls = front ++ line :: more ∧
      readLines first front progress = .ok ⟨before, .declarations⟩ ∧ left.header = first + front.length + 1 ∧
      actionHeader line = .done named rest ∧ StaysOpen 1 (rest ++ more.flatten) := by
  induction ls generalizing first progress with
  | nil =>
    cases h
    exact .inl ⟨left, rfl, rfl, hpos left rfl⟩
  | cons line ls ih =>
    obtain ⟨mid, hline, hrest⟩ := Outcome.except_bind_eq_ok.mp h
    have hmidPos : ∀ pending, mid.mode = .action pending → 0 < pending.depth := by
      obtain ⟨grammar', mode⟩ := mid
      rintro pending rfl
      rcases Progress.of_line_eq_action hpos hline with
        ⟨_, _, -, -, -, hopen, hdepth⟩ | ⟨_, -, -, hopen, hdepth⟩
      · rw [hdepth]
        exact hopen.depthAfter_pos
      · rw [hdepth]
        exact hopen.depthAfter_pos
    rcases ih hmidPos hrest with ⟨pending, hmode, hno, hmore⟩ |
      ⟨front, last, more, before, named, rest, rfl, hfront, hno, hheader, hopen⟩
    · obtain ⟨grammar', mode⟩ := mid
      cases hmode
      rcases Progress.of_line_eq_action hpos hline with
        ⟨named, rest, hdeclarations, hheader, hsame, hopen, hdepth⟩ |
        ⟨earlier, hearlier, hsame, hopen, hdepth⟩
      · obtain ⟨before, mode⟩ := progress
        cases hdeclarations
        rw [hdepth] at hmore
        exact .inr ⟨[], line, ls, before, named, rest, rfl, rfl, hno.trans hsame, hheader,
          staysOpen_append.mpr ⟨hopen, hmore⟩⟩
      · rw [hdepth] at hmore
        exact .inl ⟨earlier, hearlier, hno.trans hsame, staysOpen_append.mpr ⟨hopen, hmore⟩⟩
    · refine .inr ⟨line :: front, last, more, before, named, rest, rfl, ?_, ?_, hheader, hopen⟩
      · rw [readLines_cons, hline]
        exact hfront
      · rw [hno, List.length_cons]
        omega

/-! ## Descriptions -/

theorem read_firstLines (count : Nat) (text : String) :
    read (String.ofList (firstLines count text.toList)) =
      readLines 0 ((lines text.toList).take count) ⟨.empty, .declarations⟩ >>=
        Progress.finish ((lines text.toList).take count).length := by
  rw [read_eq, String.toList_ofList, lines_firstLines]

/-- A header on a line, and braces that stay open from there on, in the text itself. -/
theorem exists_header {front : List (List Char)} {named : String × List Variable} {rest : List Char}
    (hlines : lines text = front ++ line :: more) (hheader : actionHeader line = .done named rest)
    (hopen : StaysOpen 1 (rest ++ more.flatten)) :
    ∃ header behind, text = firstLines front.length text ++ (header ++ behind) ∧
      actionHeader header = .done named [] ∧ StaysOpen 1 behind := by
  obtain ⟨after, htext, hafter⟩ := exists_behind front.length text
  rw [hlines, List.drop_left] at hafter
  obtain ⟨header, rfl, -, -, hread⟩ := closed_actionHeader _ _ _ hheader
  obtain ⟨other, rfl⟩ := prefix_of_lines hafter
  have hnone := hread []
  rw [List.append_nil] at hnone
  have hbraces :=
    filter_flatten_lines (show isBrace '\n' = false by decide) (by decide) (header ++ rest ++ other)
  rw [hafter, List.flatten_cons, List.filter_append, List.filter_append (header ++ rest),
    List.append_cancel_left_eq] at hbraces
  refine ⟨header, rest ++ other, by rw [← List.append_assoc header, ← htext], hnone, ?_⟩
  -- Lines are cut where no brace is.
  rw [← staysOpen_filter, List.filter_append, ← hbraces, ← List.filter_append, staysOpen_filter]
  exact hopen

/-- **The line that is reported is the one at fault.** A line that cannot be read is one of the
description's, and is what is reported for the lines up to it, while those before it are all right but for
their end. An action whose braces are not closed is reported where its header is, which stands between
declarations, and nothing behind the header closes its brace. -/
theorem located_of_read {text : String} {no : Nat} {fault : DescriptionFault}
    (h : read text = .error (.description no fault)) :
    (¬fault.AtEnd →
      (1 ≤ no ∧ no ≤ (lines text.toList).length) ∧
      read (String.ofList (firstLines no text.toList)) = .error (.description no fault) ∧
      ((∃ grammar, read (String.ofList (firstLines (no - 1) text.toList)) = .ok grammar) ∨
        ∃ last early, read (String.ofList (firstLines (no - 1) text.toList)) =
          .error (.description last early) ∧
          early.AtEnd)) ∧
    (fault = .unbalancedAction →
      (1 ≤ no ∧ no ≤ (lines text.toList).length) ∧
      read (String.ofList (firstLines (no - 1) text.toList)) = .error (.description (no - 1) .missingStart) ∧
      ∃ header behind named, text.toList = firstLines (no - 1) text.toList ++ (header ++ behind) ∧
        actionHeader header = .done named [] ∧
        ∀ front, front <+: behind → front.count '\x7d' ≤ front.count '\x7b') := by
  rw [read_eq] at h
  rcases Outcome.except_bind_eq_error.mp h with hlines | ⟨⟨grammar, mode⟩, hlines, hfinish⟩
  · obtain ⟨hfault, hfirst, hlast, herror, after, hafter⟩ := of_readLines_eq_error hlines
    refine ⟨fun _ => ⟨⟨hfirst, by omega⟩, ?_, ?_⟩, fun heq => absurd (.inr heq) hfault⟩
    · rw [read_firstLines]
      rw [Nat.sub_zero] at herror
      rw [herror]
      rfl
    · rw [read_firstLines]
      rw [Nat.sub_zero] at hafter
      rw [hafter]
      obtain ⟨grammar, _ | pending | start⟩ := after
      · exact .inr ⟨_, _, rfl, .inl rfl⟩
      · exact .inr ⟨_, _, rfl, .inr rfl⟩
      · exact .inl ⟨_, rfl⟩
  · cases mode with
    | declarations =>
      cases hfinish
      exact ⟨fun hfault => absurd (.inl rfl) hfault, fun heq => by cases heq⟩
    | action pending =>
      cases hfinish
      refine ⟨fun hfault => absurd (.inr rfl) hfault, fun _ => ?_⟩
      rcases of_readLines_eq_action (fun _ hmode => by cases hmode) hlines with ⟨_, hmode, -⟩ |
        ⟨front, line, more, before, named, rest, hsplit, hfront, hno, hheader, hopen⟩
      · cases hmode
      have hbefore : pending.header - 1 = front.length := by omega
      obtain ⟨header, behind, htext, hread, hbraces⟩ := exists_header hsplit hheader hopen
      refine ⟨⟨by omega, by simp only [hsplit, List.length_append, List.length_cons]; omega⟩, ?_, header,
        behind, named,
        by rwa [hbefore], hread, fun front hprefix =>
          Nat.le_of_lt_succ (staysOpen_iff.mp hbraces front hprefix)⟩
      rw [read_firstLines, hbefore, hsplit, List.take_left, hfront]
      rfl
    | started start => cases hfinish

/-- Text behind the last brace of a block is reported on its line, and a block that ends too early on its
first one. -/
theorem located_of_read_blocks :
    (read "r : 'a'\n$f[] \x7b\n\x7d x\nr\n" = .error (.description 3 (.afterAction "x")) ∧
      read (String.ofList (firstLines 3 "r : 'a'\n$f[] \x7b\n\x7d x\nr\n".toList)) =
        .error (.description 3 (.afterAction "x"))) ∧
    read "r : 'a'\n $f[] \x7b \x7b\n\x7d\nr\n" = .error (.description 2 .unbalancedAction) ∧
      ∃ header behind named, "r : 'a'\n $f[] \x7b \x7b\n\x7d\nr\n".toList =
          firstLines 1 "r : 'a'\n $f[] \x7b \x7b\n\x7d\nr\n".toList ++ (header ++ behind) ∧
        actionHeader header = .done named [] ∧
        ∀ front, front <+: behind → front.count '\x7d' ≤ front.count '\x7b' := by
  have htrailing : read "r : 'a'\n$f[] \x7b\n\x7d x\nr\n" = .error (.description 3 (.afterAction "x")) := by
    decide +kernel
  have hopen : read "r : 'a'\n $f[] \x7b \x7b\n\x7d\nr\n" = .error (.description 2 .unbalancedAction) := by
    decide +kernel
  have hline := ((located_of_read htrailing).1 (by rintro (heq | heq) <;> cases heq)).2.1
  exact ⟨⟨htrailing, hline⟩, hopen, ((located_of_read hopen).2 rfl).2.2⟩

end Description

end AttributeGrammar
