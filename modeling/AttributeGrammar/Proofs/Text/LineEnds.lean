import AttributeGrammar.Proofs.Text.Lines

/-!
# Texts and the ends of their lines

* `firstLines` — the first lines of a text with their ends; `lines_firstLines` and `exists_behind` say which
  lines these are and which ones are left.
* `unixEnds` — a text in which a newline alone ends every line.
* `IsLine` — a text that is one whole line, with its end.
* `filter_flatten_lines` — the ends of the lines are all that is lost between a text and its lines.
-/

set_option autoImplicit false

namespace AttributeGrammar.Text

variable {text rest line : List Char} {more : List (List Char)} {c : Char}

/-- A character that ends no line, in front of a text. -/
theorem lines_cons_eq (hc : c ≠ '\n') (hreturn : c = '\r' → text.head? ≠ some '\n') :
    lines (c :: text) = match lines text with
      | [] => [[c]]
      | line :: more => (c :: line) :: more := by
  have hreturned : ∀ rest, c = '\r' → text = '\n' :: rest → False := by
    rintro rest hcarriage rfl
    exact hreturn hcarriage rfl
  have hline := lines.eq_4 c text hc hreturned
  refine hline.trans ?_
  cases lines text <;> rfl

/-- A text is empty, starts with the end of a line, or with a character of one. -/
theorem lines_induction {holds : List Char → Prop} (nil : holds [])
    (newline : ∀ rest, holds rest → holds ('\n' :: rest))
    (returned : ∀ rest, holds rest → holds ('\r' :: '\n' :: rest))
    (cons : ∀ c rest, c ≠ '\n' → (c = '\r' → rest.head? ≠ some '\n') → holds rest → holds (c :: rest))
    (text : List Char) : holds text := by
  induction hlength : text.length using Nat.strongRecOn generalizing text with
  | _ length ih =>
    subst hlength
    cases text with
    | nil => exact nil
    | cons c rest =>
      by_cases hc : c = '\n'
      · subst hc
        exact newline rest (ih _ (Nat.lt_succ_self _) rest rfl)
      by_cases hreturn : c = '\r' ∧ rest.head? = some '\n'
      · obtain ⟨rfl, hhead⟩ := hreturn
        obtain ⟨behind, rfl⟩ := List.head?_eq_some_iff.mp hhead
        exact returned behind (ih _ (by simp only [List.length_cons]; omega) behind rfl)
      · exact cons c rest hc (fun hcarriage hhead => hreturn ⟨hcarriage, hhead⟩)
          (ih _ (Nat.lt_succ_self _) rest rfl)

theorem lines_ne_nil (h : text ≠ []) : lines text ≠ [] := by
  induction text using lines_induction with
  | nil => exact absurd rfl h
  | newline rest _ => simp [lines]
  | returned rest _ => simp [lines]
  | cons c rest hc hreturn _ =>
    rw [lines_cons_eq hc hreturn]
    split <;> simp

/-! ## The first lines -/

/-- The first lines of a text with their ends. -/
def firstLines : Nat → List Char → List Char
  | 0, _ => []
  | _ + 1, [] => []
  | count + 1, c :: rest =>
    c :: if c = '\n' then firstLines count rest else firstLines (count + 1) rest
termination_by structural _ text => text

example : firstLines 2 ['a', '\r', '\n', '\n', 'b'] = ['a', '\r', '\n', '\n'] := by decide

theorem firstLines_cons (hc : c ≠ '\n') (count : Nat) (rest : List Char) :
    firstLines (count + 1) (c :: rest) = c :: firstLines (count + 1) rest := by
  rw [firstLines, if_neg hc]

theorem head?_firstLines (count : Nat) (text : List Char) :
    (firstLines (count + 1) text).head? = text.head? := by
  cases text <;> rfl

/-- **The first lines of a text have just the lines that come first.** -/
theorem lines_firstLines (count : Nat) (text : List Char) :
    lines (firstLines count text) = (lines text).take count := by
  induction text using lines_induction generalizing count with
  | nil => cases count <;> rfl
  | newline rest ih =>
    cases count with
    | zero => rfl
    | succ count => simp only [firstLines, if_true, lines, List.take_succ_cons, ih]
  | returned rest ih =>
    cases count with
    | zero => rfl
    | succ count =>
      rw [firstLines_cons (by decide)]
      simp only [firstLines, if_true, lines, List.take_succ_cons, ih]
  | cons c rest hc hreturn ih =>
    cases count with
    | zero => rfl
    | succ count =>
      have hreturn' : c = '\r' → (firstLines (count + 1) rest).head? ≠ some '\n' := by
        rwa [head?_firstLines]
      rw [firstLines_cons hc, lines_cons_eq hc hreturn', lines_cons_eq hc hreturn, ih]
      cases lines rest with
      | nil => simp
      | cons line more => simp only [List.take_succ_cons]

/-- The text behind the first lines has the other ones. -/
theorem exists_behind (count : Nat) (text : List Char) :
    ∃ behind, text = firstLines count text ++ behind ∧ lines behind = (lines text).drop count := by
  induction text using lines_induction generalizing count with
  | nil => exact ⟨[], by cases count <;> rfl, by simp [lines]⟩
  | newline rest ih =>
    cases count with
    | zero => exact ⟨_, rfl, rfl⟩
    | succ count =>
      obtain ⟨behind, htext, hlines⟩ := ih count
      refine ⟨behind, ?_, by simpa only [lines, List.drop_succ_cons] using hlines⟩
      simp only [firstLines, if_true, List.cons_append, ← htext]
  | returned rest ih =>
    cases count with
    | zero => exact ⟨_, rfl, rfl⟩
    | succ count =>
      obtain ⟨behind, htext, hlines⟩ := ih count
      refine ⟨behind, ?_, by simpa only [lines, List.drop_succ_cons] using hlines⟩
      rw [firstLines_cons (by decide)]
      simp only [firstLines, if_true, List.cons_append, ← htext]
  | cons c rest hc hreturn ih =>
    cases count with
    | zero => exact ⟨_, rfl, rfl⟩
    | succ count =>
      obtain ⟨behind, htext, hlines⟩ := ih (count + 1)
      refine ⟨behind, ?_, ?_⟩
      · rw [firstLines_cons hc, List.cons_append, ← htext]
      · rw [lines_cons_eq hc hreturn, hlines]
        cases lines rest with
        | nil => simp
        | cons line more => simp only [List.drop_succ_cons]

/-! ## Ends of lines -/

/-- The text with a newline alone at the end of every line. -/
def unixEnds : List Char → List Char
  | [] => []
  | '\r' :: '\n' :: rest => '\n' :: unixEnds rest
  | c :: rest => c :: unixEnds rest

theorem unixEnds_cons (hreturn : c = '\r' → text.head? ≠ some '\n') :
    unixEnds (c :: text) = c :: unixEnds text := by
  rw [unixEnds.eq_3]
  rintro rest hcarriage rfl
  exact hreturn hcarriage rfl

/-- Nothing changes where no carriage return is directly before a newline. -/
theorem unixEnds_eq_self (h : ¬['\r', '\n'] <:+: text) : unixEnds text = text := by
  induction text with
  | nil => rfl
  | cons c text ih =>
    have hreturn : c = '\r' → text.head? ≠ some '\n' := by
      rintro rfl hhead
      obtain ⟨rest, rfl⟩ := List.head?_eq_some_iff.mp hhead
      exact h ⟨[], rest, rfl⟩
    rw [unixEnds_cons hreturn, ih fun hinfix => h (List.infix_cons hinfix)]

/-- The text is one whole line, with its end. -/
def IsLine (text line : List Char) : Prop := ∀ rest, lines (text ++ rest) = line :: lines rest

theorem isLine_newline (h : WithinLine line) : IsLine (line ++ ['\n']) line := by
  intro rest
  rw [List.append_assoc]
  exact lines_append_newline h rest

/-- The first line of a text comes first in it. -/
theorem prefix_of_lines (h : lines text = line :: more) : line <+: text := by
  induction text using lines_induction generalizing line more with
  | nil => cases h
  | newline rest _ =>
    cases h
    exact List.nil_prefix
  | returned rest _ =>
    cases h
    exact List.nil_prefix
  | cons c rest hc hreturn ih =>
    rw [lines_cons_eq hc hreturn] at h
    split at h
    · cases h
      exact List.cons_prefix_cons.mpr ⟨rfl, List.nil_prefix⟩
    · rename_i hrest
      cases h
      exact List.cons_prefix_cons.mpr ⟨rfl, ih hrest⟩

/-- The ends of the lines are all that is lost between a text and its lines. -/
theorem filter_flatten_lines {keeps : Char → Bool} (hnewline : keeps '\n' = false)
    (hreturned : keeps '\r' = false)
    (text : List Char) : (lines text).flatten.filter keeps = text.filter keeps := by
  induction text using lines_induction with
  | nil => rfl
  | newline rest ih =>
      simp only [lines, List.flatten_cons, List.nil_append, ih, List.filter_cons, hnewline]; rfl
  | returned rest ih =>
    simp only [lines, List.flatten_cons, List.nil_append, ih, List.filter_cons, hnewline, hreturned]
    rfl
  | cons c rest hc hreturn ih =>
    rw [lines_cons_eq hc hreturn, List.filter_cons, ← ih]
    cases lines rest with
    | nil => simp [List.filter_cons]
    | cons line more => simp [List.filter_cons]

end AttributeGrammar.Text
