import AttributeGrammar.Text.Identifier
import AttributeGrammar.Text.Lines

/-!
# Lines of a text

* `WithinLine` — texts that end no line, whatever follows them.
* `lines_append`, `lines_append_newline`, `exists_lines` — the first line of a text.
* `mem_trim`, `exists_trim_cons` — what is left of a line without the blanks at its ends.
-/

set_option autoImplicit false

namespace AttributeGrammar.Text

/-! ## The first line of a text -/

variable {front text rest line : List Char} {more : List (List Char)} {c : Char}

/-- The text has no line end, nor one that a newline behind it would complete. -/
def WithinLine (text : List Char) : Prop := '\n' ∉ text ∧ text.getLast? ≠ some '\r'

theorem withinLine_nil : WithinLine [] := ⟨by simp, by simp⟩

theorem withinLine_of_forall (h : ∀ c ∈ text, c ≠ '\n' ∧ c ≠ '\r') : WithinLine text :=
  ⟨fun hmem => (h _ hmem).1 rfl, fun hlast => (h _ (List.mem_of_getLast? hlast)).2 rfl⟩

theorem WithinLine.append (hfront : WithinLine front) (htext : WithinLine text) :
    WithinLine (front ++ text) := by
  refine ⟨fun hmem => (List.mem_append.mp hmem).elim hfront.1 htext.1, ?_⟩
  rw [List.getLast?_append]
  cases hlast : text.getLast? with
  | none => simpa using hfront.2
  | some c => exact fun heq => htext.2 (hlast.trans heq)

theorem withinLine_singleton (hc : c ≠ '\n' ∧ c ≠ '\r') : WithinLine [c] :=
  withinLine_of_forall (by simpa using hc)

theorem WithinLine.cons (hc : c ≠ '\n' ∧ c ≠ '\r') (htext : WithinLine text) :
    WithinLine (c :: text) :=
  (withinLine_singleton hc).append htext

/-- A character that ends no line starts the first one. -/
theorem lines_cons (hc : c ≠ '\n') (hreturn : c = '\r' → text.head? ≠ some '\n')
    (h : lines text = line :: more) : lines (c :: text) = (c :: line) :: more := by
  rw [lines.eq_4 c text hc, h]
  rintro rest hcarriage rfl
  exact hreturn hcarriage rfl

/-- Text within a line stays before the first line of what follows. -/
theorem lines_append (hfront : WithinLine front) (h : lines rest = line :: more) :
    lines (front ++ rest) = (front ++ line) :: more := by
  induction front with
  | nil => exact h
  | cons c front ih =>
    obtain ⟨hnewline, hlast⟩ := hfront
    rw [List.mem_cons, not_or] at hnewline
    cases front with
    | nil =>
      exact lines_cons (Ne.symm hnewline.1) (fun heq => absurd (congrArg some heq) hlast) h
    | cons d front =>
      rw [List.getLast?_cons_cons] at hlast
      refine lines_cons (Ne.symm hnewline.1) (fun _ heq => ?_) (ih ⟨hnewline.2, hlast⟩)
      exact hnewline.2 (List.mem_cons.mpr (.inl (Option.some.inj heq).symm))

/-- Text within a line is the first one, if a newline follows. -/
theorem lines_append_newline (hfront : WithinLine front) (rest : List Char) :
    lines (front ++ '\n' :: rest) = front :: lines rest := by
  have hline := lines_append hfront (lines.eq_2 rest)
  rwa [List.append_nil] at hline

/-- The first line of a text that a newline ends. -/
theorem exists_lines (text rest : List Char) :
    ∃ line more, lines (text ++ '\n' :: rest) = line :: more ∧ line <+: text ∧ '\n' ∉ line := by
  induction text with
  | nil => exact ⟨[], lines rest, lines.eq_2 rest, List.prefix_rfl, by simp⟩
  | cons c text ih =>
    by_cases hc : c = '\n'
    · subst hc
      exact ⟨[], _, lines.eq_2 _, List.nil_prefix, by simp⟩
    by_cases hreturn : c = '\r' ∧ (text ++ '\n' :: rest).head? = some '\n'
    · obtain ⟨rfl, hhead⟩ := hreturn
      obtain ⟨more, hmore⟩ := List.head?_eq_some_iff.mp hhead
      rw [List.cons_append, hmore]
      exact ⟨[], _, lines.eq_3 _, List.nil_prefix, by simp⟩
    obtain ⟨line, more, hlines, hbegins, hnewline⟩ := ih
    refine ⟨c :: line, more, lines_cons hc (fun hcarriage hhead => hreturn ⟨hcarriage, hhead⟩) hlines,
      List.cons_prefix_cons.mpr ⟨rfl, hbegins⟩, ?_⟩
    rw [List.mem_cons, not_or]
    exact ⟨Ne.symm hc, hnewline⟩

/-! ## Trimmed lines -/

theorem mem_dropWhile_isBlank (h : c ∈ text) (hc : isBlank c = false) : c ∈ text.dropWhile isBlank := by
  rw [← @List.takeWhile_append_dropWhile _ isBlank text, List.mem_append] at h
  refine h.resolve_left fun htake => ?_
  rw [List.all_eq_true.mp List.all_takeWhile c htake] at hc
  cases hc

theorem mem_trim (h : c ∈ text) (hc : isBlank c = false) : c ∈ trim text :=
  List.mem_reverse.mpr (mem_dropWhile_isBlank (List.mem_reverse.mpr (mem_dropWhile_isBlank h hc)) hc)

/-- A text that starts with no blank keeps its start. -/
theorem exists_trim_cons (text : List Char) (hc : isBlank c = false) :
    ∃ more, trim (c :: text) = c :: more ∧ c :: more <+: c :: text := by
  have hstart : trimStart (c :: text) = c :: text := by simp [trimStart, hc]
  have hbegins : trim (c :: text) <+: c :: text := by
    rw [trim, hstart, trimEnd, ← List.reverse_suffix, List.reverse_reverse]
    exact List.dropWhile_suffix _
  cases htrim : trim (c :: text) with
  | nil => exact absurd (mem_trim (.head _) hc) (by rw [htrim]; simp)
  | cons d more =>
    rw [htrim] at hbegins
    obtain ⟨rfl, -⟩ := List.cons_prefix_cons.mp hbegins
    exact ⟨more, rfl, hbegins⟩

theorem isBlank_of_isAsciiLetter {c : Char} (h : isAsciiLetter c) : isBlank c = false := by
  have hbounds : 65 ≤ c.toNat ∧ c.toNat ≤ 122 := by
    simp only [isAsciiLetter, isAsciiLower, isAsciiUpper, Bool.or_eq_true, Bool.and_eq_true, decide_eq_true_eq,
      Char.le_def, UInt32.le_iff_toNat_le] at h
    have hval : c.toNat = c.val.toNat := rfl
    rw [hval]
    rcases h with ⟨hlow, hhigh⟩ | ⟨hlow, hhigh⟩
    · exact ⟨Nat.le_trans (by decide) hlow, Nat.le_trans hhigh (by decide)⟩
    · exact ⟨Nat.le_trans (by decide) hlow, Nat.le_trans hhigh (by decide)⟩
  simp only [isBlank, Bool.or_eq_false_iff, Bool.and_eq_false_iff, decide_eq_false_iff_not]
  omega

end AttributeGrammar.Text
