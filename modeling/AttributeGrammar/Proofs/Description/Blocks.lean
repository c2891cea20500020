import AttributeGrammar.Proofs.Description.Headers
import AttributeGrammar.Proofs.Description.Reading
import AttributeGrammar.Proofs.Text.LineEnds

/-!
# Blocks of action code

The code of an action runs to the brace that closes its header's, over any number of lines.

* `StaysOpen`, `depthAfter` — braces that are not all closed anywhere in a text, and how many of them are open
  behind it; `staysOpen_iff` counts the braces in front of every place.
* `Balanced` — texts that close what they open, and no other brace.
* `of_followBraces_unclosed` — what following the braces along a line comes to.
* `readLines_code` — code that leaves braces open is read over all its lines.
* `readLines_block` — **a block is read up to the line of its last brace**, and the reading goes on behind
  this line.
-/

set_option autoImplicit false

namespace AttributeGrammar.Description

open Text

variable {text rest front line : List Char} {depth : Nat} {c : Char}

/-! ## Braces -/

def isBrace (c : Char) : Bool := c = '\x7b' || c = '\x7d'

/-- How many braces are open behind a character. -/
def depthBehind (depth : Nat) (c : Char) : Nat :=
  if c = '\x7b' then depth + 1 else if c = '\x7d' then depth - 1 else depth

/-- How many braces are open behind a text. -/
def depthAfter (depth : Nat) (text : List Char) : Nat := text.foldl depthBehind depth

/-- With `depth` braces open before the text, some brace is open everywhere in it. -/
def StaysOpen (depth : Nat) : List Char → Prop
  | [] => 0 < depth
  | c :: rest => 0 < depth ∧ StaysOpen (depthBehind depth c) rest

theorem StaysOpen.pos (h : StaysOpen depth text) : 0 < depth := by
  cases text with
  | nil => exact h
  | cons c rest => exact h.1

theorem staysOpen_append :
    StaysOpen depth (front ++ text) ↔ StaysOpen depth front ∧ StaysOpen (depthAfter depth front) text := by
  induction front generalizing depth with
  | nil => exact ⟨fun h => ⟨h.pos, h⟩, fun h => h.2⟩
  | cons c front ih =>
    rw [List.cons_append, StaysOpen, ih, StaysOpen, and_assoc]
    rfl

theorem depthBehind_eq (c : Char) (h : 0 < depth) :
    depthBehind depth c + [c].count '\x7d' = depth + [c].count '\x7b' := by
  unfold depthBehind
  by_cases hopen : c = '\x7b'
  · subst hopen
    simp
  by_cases hclose : c = '\x7d'
  · subst hclose
    simp
    omega
  · simp [hopen, hclose]

/-- The braces that are open behind a text are those before it, and those that it opens but does not close. -/
theorem StaysOpen.depthAfter_eq (h : StaysOpen depth text) :
    depthAfter depth text + text.count '\x7d' = depth + text.count '\x7b' := by
  induction text generalizing depth with
  | nil => rfl
  | cons c rest ih =>
    have hfirst := depthBehind_eq c h.1
    have hrest := ih h.2
    rw [← List.singleton_append, List.count_append, List.count_append]
    change depthAfter (depthBehind depth c) rest + _ = _
    omega

/-- **A brace stays open if and only if nowhere as many are closed as are opened.** -/
theorem staysOpen_iff :
    StaysOpen depth text ↔ ∀ front, front <+: text → front.count '\x7d' < front.count '\x7b' + depth := by
  constructor
  · rintro h front ⟨rest, rfl⟩
    obtain ⟨hfront, hrest⟩ := staysOpen_append.mp h
    have hdepth := hfront.depthAfter_eq
    have hpos := hrest.pos
    omega
  · intro h
    induction text generalizing depth with
    | nil =>
      have hcount := h [] List.prefix_rfl
      rwa [List.count_nil, List.count_nil, Nat.zero_add] at hcount
    | cons c rest ih =>
      have hpos : 0 < depth := by simpa using h [] List.nil_prefix
      refine ⟨hpos, ih fun front hfront => ?_⟩
      have hcount := h (c :: front) (List.cons_prefix_cons.mpr ⟨rfl, hfront⟩)
      have hfirst := depthBehind_eq c hpos
      rw [← List.singleton_append, List.count_append, List.count_append] at hcount
      omega

/-- Only braces matter. -/
theorem staysOpen_filter : StaysOpen depth (text.filter isBrace) ↔ StaysOpen depth text := by
  induction text generalizing depth with
  | nil => exact Iff.rfl
  | cons c rest ih =>
    by_cases hbrace : isBrace c
    · rw [List.filter_cons_of_pos hbrace, StaysOpen, ih, StaysOpen]
    · have hsame : depthBehind depth c = depth := by
        rw [isBrace, Bool.or_eq_true, decide_eq_true_eq, decide_eq_true_eq, not_or] at hbrace
        rw [depthBehind, if_neg hbrace.1, if_neg hbrace.2]
      rw [List.filter_cons_of_neg hbrace, ih, StaysOpen, hsame]
      exact ⟨fun h => ⟨h.pos, h⟩, fun h => h.2⟩

/-- Every brace that the text closes it has opened, and it closes all of them. -/
structure Balanced (text : List Char) : Prop where
  opened : ∀ front, front <+: text → front.count '\x7d' ≤ front.count '\x7b'
  closed : text.count '\x7d' = text.count '\x7b'

/-- Behind the brace of a header, a balanced text leaves this brace open and no other one. -/
theorem balanced_iff : Balanced text ↔ StaysOpen 1 text ∧ depthAfter 1 text = 1 := by
  constructor
  · intro h
    have hopen : StaysOpen 1 text := staysOpen_iff.mpr fun front hfront =>
      Nat.lt_succ_of_le (h.opened front hfront)
    have hdepth := hopen.depthAfter_eq
    have hclosed := h.closed
    exact ⟨hopen, by omega⟩
  · rintro ⟨hopen, hone⟩
    have hdepth := hopen.depthAfter_eq
    exact ⟨fun front hfront => Nat.le_of_lt_succ (staysOpen_iff.mp hopen front hfront), by omega⟩

instance decidableStaysOpen : (depth : Nat) → (text : List Char) → Decidable (StaysOpen depth text)
  | depth, [] => inferInstanceAs (Decidable (0 < depth))
  | depth, c :: rest =>
    have := decidableStaysOpen (depthBehind depth c) rest
    inferInstanceAs (Decidable (0 < depth ∧ StaysOpen (depthBehind depth c) rest))

instance : Decidable (Balanced text) := decidable_of_iff _ balanced_iff.symm

/-! ## Braces along a line -/

theorem followBraces_cons (h : 0 < depthBehind depth c) (code rest : List Char) :
    followBraces depth code (c :: rest) = followBraces (depthBehind depth c) (code ++ [c]) rest :=
  if_neg (Nat.ne_of_gt h)

/-- Where braces are left open behind a line, they were open all along it. -/
theorem of_followBraces_unclosed {code after : List Char} {left : Nat} (hpos : 0 < depth)
    (h : followBraces depth code line = .unclosed left after) :
    StaysOpen depth line ∧ left = depthAfter depth line := by
  induction line generalizing depth code with
  | nil =>
    cases h
    exact ⟨hpos, rfl⟩
  | cons c line ih =>
    by_cases hzero : depthBehind depth c = 0
    · have hclosed : followBraces depth code (c :: line) = .closed code line := if_pos hzero
      rw [hclosed] at h
      cases h
    · have hbehind := Nat.pos_of_ne_zero hzero
      rw [followBraces_cons hbehind] at h
      obtain ⟨hopen, hleft⟩ := ih hbehind h
      exact ⟨⟨hpos, hopen⟩, hleft⟩

/-! ## Code on lines -/

variable {grammar : Grammar} {pending : OpenAction} {first no : Nat} {header body last trailing : List Char}
  {name : String} {exported : List Variable}

/-- The action with more of its code read. -/
def OpenAction.reads (pending : OpenAction) (text : List Char) : OpenAction :=
  { pending with depth := depthAfter pending.depth text, code := pending.code ++ unixEnds text }

namespace Progress

theorem codeLine_cons (h : 0 < depthBehind pending.depth c) (line : List Char) :
    codeLine grammar pending no (c :: line) =
      codeLine grammar
        { pending with depth := depthBehind pending.depth c, code := pending.code ++ [c] } no line := by
  unfold codeLine
  rw [followBraces_cons h]

/-- The last brace of a block adds its action, if nothing else is on the line. -/
theorem codeLine_last (hdepth : pending.depth = 1) (trailing : List Char) :
    codeLine grammar pending no ('\x7d' :: trailing) =
      if trim trailing ≠ [] then .error (.description no (.afterAction (String.ofList (trim trailing))))
      else do
        let grammar ← applyEdit grammar
          (Grammar.addAction ⟨pending.name, pending.exported, String.ofList (trim pending.code)⟩)
        return ⟨grammar, .declarations⟩ := by
  have hclosed : followBraces pending.depth pending.code ('\x7d' :: trailing) =
      .closed pending.code trailing := by
    rw [hdepth]
    rfl
  unfold codeLine
  rw [hclosed]

end Progress

theorem readLines_code_nil (more : List (List Char)) :
    readLines first ([] :: more) ⟨grammar, .action pending⟩ =
      readLines (first + 1) more ⟨grammar, .action { pending with code := pending.code ++ ['\n'] }⟩ := rfl

/-- A character of code is read off the line that it is on. -/
theorem readLines_code_cons (hc : c ≠ '\n') (hreturn : c = '\r' → text.head? ≠ some '\n') (hne : text ≠ [])
    (h : 0 < depthBehind pending.depth c) :
    readLines first (lines (c :: text)) ⟨grammar, .action pending⟩ =
      readLines first (lines text)
        ⟨grammar, .action
          { pending with depth := depthBehind pending.depth c, code := pending.code ++ [c] }⟩ := by
  obtain ⟨line, more, hlines⟩ := List.exists_cons_of_ne_nil (lines_ne_nil hne)
  rw [lines_cons hc hreturn hlines, hlines, readLines_cons, readLines_cons]
  show Progress.codeLine grammar pending (first + 1) (c :: line) >>= _ = _
  rw [Progress.codeLine_cons h]
  rfl

/-- **Code that leaves braces open is read over all its lines,** with a newline at the end of each. -/
theorem readLines_code (hbody : StaysOpen pending.depth body) (rest : List Char) :
    readLines first (lines (body ++ '\x7d' :: rest)) ⟨grammar, .action pending⟩ =
      readLines (first + body.count '\n') (lines ('\x7d' :: rest)) ⟨grammar, .action (pending.reads body)⟩ := by
  induction body using lines_induction generalizing pending first with
  | nil => rw [OpenAction.reads, unixEnds, List.append_nil]; rfl
  | newline body ih =>
    have hmore := @ih { pending with code := pending.code ++ ['\n'] } (first + 1) hbody.2
    rw [List.cons_append, lines, readLines_code_nil, hmore, List.count_cons_self, Nat.add_assoc, Nat.add_comm 1]
    simp only [OpenAction.reads, List.append_assoc]
    rfl
  | returned body ih =>
    have hmore := @ih { pending with code := pending.code ++ ['\n'] } (first + 1) hbody.2.2
    rw [List.cons_append, List.cons_append, lines, readLines_code_nil, hmore, List.count_cons_of_ne (by decide),
      List.count_cons_self, Nat.add_assoc, Nat.add_comm 1]
    simp only [OpenAction.reads, unixEnds, List.append_assoc]
    rfl
  | cons c body hc hreturn ih =>
    have hreturn' : c = '\r' → (body ++ '\x7d' :: rest).head? ≠ some '\n' := by
      intro hcarriage
      have hhead := hreturn hcarriage
      cases body with
      | nil => simp
      | cons d body => exact hhead
    rw [List.cons_append, readLines_code_cons hc hreturn' (by simp) hbody.2.pos, ih hbody.2,
      List.count_cons_of_ne hc]
    simp only [OpenAction.reads, unixEnds_cons hreturn, List.append_assoc]
    rfl

/-! ## Blocks -/

theorem withinLine_of_actionHeader (hheader : actionHeader header = .done (name, exported) []) :
    WithinLine header := by
  obtain ⟨front, rfl, -, hline, -⟩ := closed_actionHeader _ _ _ hheader
  rwa [List.append_nil]

namespace Progress

theorem declarationLine_header (hheader : actionHeader header = .done (name, exported) []) (line : List Char) :
    declarationLine grammar no (header ++ line) =
      if (grammar.action? name).isSome then .error (.description no (.duplicateAction name))
      else codeLine grammar ⟨no, name, exported, 1, []⟩ no line := by
  obtain ⟨front, rfl, -, -, hread⟩ := closed_actionHeader _ _ _ hheader
  rw [List.append_nil]
  obtain ⟨more, htrim⟩ := trim_of_actionHeader (hread line)
  rw [declarationLine, htrim]
  dsimp only
  rw [if_pos rfl, actionLine, readWith_eq_ok.mpr (hread line)]
  by_cases htwice : (grammar.action? name).isSome
  · rw [if_pos htwice]
    simp only [bind, Except.bind, htwice, if_true]
    rfl
  · rw [if_neg htwice]
    simp only [bind, Except.bind, htwice]
    rfl

end Progress

/-- **A block is read up to the line of its last brace,** unless its action has been declared before. -/
theorem readLines_block (hheader : actionHeader header = .done (name, exported) []) (hbody : Balanced body)
    (hlast : IsLine last trailing) (rest : List Char) :
    readLines first (lines (header ++ (body ++ '\x7d' :: (last ++ rest)))) ⟨grammar, .declarations⟩ =
      if (grammar.action? name).isSome then .error (.description (first + 1) (.duplicateAction name))
      else Progress.codeLine grammar ⟨first + 1, name, exported, 1, unixEnds body⟩ (first + body.count '\n' + 1)
        ('\x7d' :: trailing) >>= readLines (first + body.count '\n' + 1) (lines rest) := by
  obtain ⟨hopen, hone⟩ := balanced_iff.mp hbody
  obtain ⟨line, more, hlines⟩ : ∃ line more, lines (body ++ '\x7d' :: (last ++ rest)) = line :: more :=
    List.exists_cons_of_ne_nil (lines_ne_nil (by simp))
  have hclosing : lines ('\x7d' :: (last ++ rest)) = ('\x7d' :: trailing) :: lines rest :=
    lines_cons (by decide) (fun heq => by cases heq) (hlast rest)
  rw [lines_append (withinLine_of_actionHeader hheader) hlines, readLines_cons]
  show Progress.declarationLine grammar (first + 1) (header ++ line) >>= _ = _
  rw [Progress.declarationLine_header hheader]
  by_cases htwice : (grammar.action? name).isSome
  · rw [if_pos htwice, if_pos htwice]
    rfl
  · have hcode := @readLines_code grammar ⟨first + 1, name, exported, 1, []⟩ first body hopen (last ++ rest)
    rw [hlines, hclosing, readLines_cons, readLines_cons] at hcode
    rw [if_neg htwice, if_neg htwice]
    refine hcode.trans ?_
    rw [OpenAction.reads, hone]
    rfl

end AttributeGrammar.Description
