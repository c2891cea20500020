import AttributeGrammar.Proofs.Description.Continuation

/-!
# Declarations of different kinds

Regex terminals, rules and actions may be declared in any order, as long as the order inside each kind is kept.

* `Kind`, `Piece` — a piece of a description: blank lines, lines that declare a regex terminal or a rule,
  and blocks of actions, well-formed or not. `regexLine_of_isAsciiUpper` and `ruleLine_of_isAsciiLower` tell
  them by their first letter.
* `Piece.declare?` — what a piece adds to a grammar: each kind reads and changes one part of it.
* `declareAll?`, `foldlM_written` — what pieces add in a row, kind by kind.
* `read_interleaved` — **two descriptions with the same declarations of every kind come to the same**.
-/

set_option autoImplicit false

namespace AttributeGrammar.Description

open Text

variable {grammar : Grammar} {text line rest : List Char}

/-! ## Pieces of a description -/

/-- The line declares a regex terminal, or cannot be read. -/
def RegexLine (line : List Char) : Prop :=
  (∃ regex, lineMeaning line = .regex regex) ∨ lineMeaning line = .unreadable

/-- The line declares a rule, or cannot be read. -/
def RuleLine (line : List Char) : Prop :=
  (∃ rule, lineMeaning line = .rule rule) ∨ lineMeaning line = .unreadable

/-- The text is the block of an action: its header, balanced code, and the line of its last brace, or whatever
follows a line on which a dollar sign starts no header. -/
inductive ActionBlock : List Char → Prop where
  | closed {header body last trailing : List Char} {name : String} {exported : List Variable} :
      actionHeader header = .done (name, exported) [] → Balanced body → IsLine last trailing →
      ActionBlock (header ++ (body ++ '\x7d' :: last))
  | malformed {first line more : List Char} (rest : List Char) :
      IsLine first line → trim line = '$' :: more → lineMeaning line = .unreadable → ActionBlock (first ++ rest)

inductive Kind where
  | blank
  | regex
  | rule
  | action
deriving DecidableEq

/-- The text is a piece of the kind. -/
def Kind.Holds : Kind → List Char → Prop
  | .blank, text => ∃ line, IsLine text line ∧ trim line = []
  | .regex, text => ∃ line, IsLine text line ∧ RegexLine line
  | .rule, text => ∃ line, IsLine text line ∧ RuleLine line
  | .action, text => ActionBlock text

/-- A piece of a description. -/
structure Piece where
  kind : Kind
  text : List Char
  holds : kind.Holds text

/-- The pieces one behind the other. -/
def written (pieces : List Piece) : List Char := pieces.flatMap Piece.text

/-- The texts of the pieces of a kind. -/
def ofKind (kind : Kind) (pieces : List Piece) : List (List Char) :=
  (pieces.filter fun piece => piece.kind = kind).map Piece.text

/-! ## Pieces by their first letters -/

theorem lineMeaning_of_trim (h : trim line = []) : lineMeaning line = .blank := by
  unfold lineMeaning
  rw [h]

theorem meaningOf_cases {α : Type} (reader : Reader α) (meaning : α → List Char → LineMeaning)
    (line : List Char) :
    meaningOf reader meaning line = .unreadable ∨
      ∃ a rest, reader line = .done a rest ∧ meaningOf reader meaning line = meaning a rest := by
  unfold meaningOf
  cases reader line with
  | done a rest => exact .inr ⟨a, rest, rfl, rfl⟩
  | reject kind place => exact .inl rfl
  | abort kind place => exact .inl rfl

/-- A start symbol alone starts with a small letter. -/
theorem isAsciiLower_of_startDecl {start : String} (h : startDecl line = .done start rest) :
    ∃ c more, trim line = c :: more ∧ isAsciiLower c := by
  obtain ⟨hrule, -, gap, gap', hgap, -, rfl⟩ := startDecl_eq_done.mp h
  unfold isRuleName isCased at hrule
  split at hrule
  · rename_i c name hstart
    rw [Bool.and_eq_true] at hrule
    have hletter : isBlank c = false := isBlank_of_isAsciiLetter (by simp [isAsciiLetter, hrule.1])
    obtain ⟨more, htrim, -⟩ := exists_trim_cons (name ++ gap') hletter
    exact ⟨c, more, by rw [hstart, trim_append_blanks hgap]; exact htrim, hrule.1⟩
  · cases hrule

/-- A line that starts with a capital letter declares a regex terminal, if it can be read. -/
theorem regexLine_of_isAsciiUpper {c : Char} {more : List Char} (htrim : trim line = c :: more)
    (hc : isAsciiUpper c) : RegexLine line := by
  have hlower : ¬isAsciiLower c := not_isAsciiLower_of_isAsciiUpper hc
  have hdollar : c ≠ '$' := by
    rintro rfl
    cases hc
  unfold RegexLine lineMeaning
  rw [htrim]
  dsimp only
  rw [if_neg hdollar, if_neg hlower, if_pos hc]
  by_cases hcolon : ':' ∉ c :: more
  · rw [if_pos hcolon]
    refine .inr ((meaningOf_cases startDecl _ line).resolve_right ?_)
    rintro ⟨start, rest, hstart, -⟩
    obtain ⟨d, others, hother, hd⟩ := isAsciiLower_of_startDecl hstart
    rw [htrim] at hother
    cases hother
    exact hlower hd
  rw [if_neg hcolon]
  rcases meaningOf_cases regexDecl (fun regex _ => .regex regex) line with h | ⟨regex, rest, -, h⟩
  · exact .inr h
  · exact .inl ⟨regex, h⟩

/-- A line that starts with a small letter declares a rule, if it can be read and is not the start symbol
alone. -/
theorem ruleLine_of_isAsciiLower {c : Char} {more : List Char} (htrim : trim line = c :: more)
    (hc : isAsciiLower c) (hstart : ∀ start rest, startDecl line ≠ .done start rest) : RuleLine line := by
  have hdollar : c ≠ '$' := by
    rintro rfl
    cases hc
  unfold RuleLine lineMeaning
  rw [htrim]
  dsimp only
  rw [if_neg hdollar, if_pos hc]
  by_cases hcolon : ':' ∉ c :: more
  · rw [if_pos hcolon]
    refine .inr ((meaningOf_cases startDecl _ line).resolve_right ?_)
    rintro ⟨start, rest, hread, -⟩
    exact hstart start rest hread
  rw [if_neg hcolon]
  rcases meaningOf_cases ruleDecl (fun decl _ => ruleMeaning decl) line with h | ⟨decl, rest, -, h⟩
  · exact .inr h
  · rw [h, ruleMeaning]
    cases decl.toRule with
    | ok rule => exact .inl ⟨rule, rfl⟩
    | error e => exact .inr rfl

/-! ## What a piece declares -/

/-- The grammar behind some declarations. -/
def declare? (text : List Char) (grammar : Grammar) : Option Grammar :=
  ((lines text).foldlM Progress.next? ⟨grammar, .declarations⟩).map Progress.grammar

/-- The regex terminals behind some declarations. -/
def regexes? (regexes : List RegexTerminal) (text : List Char) : Option (List RegexTerminal) :=
  (declare? text ⟨"", [], regexes, []⟩).map Grammar.regexes

def rules? (rules : List Rule) (text : List Char) : Option (List Rule) :=
  (declare? text ⟨"", rules, [], []⟩).map Grammar.rules

def actions? (actions : List Action) (text : List Char) : Option (List Action) :=
  (declare? text ⟨"", [], [], actions⟩).map Grammar.actions

theorem foldlM_isLine (h : IsLine text line) (grammar : Grammar) (rest : List Char) :
    (lines (text ++ rest)).foldlM Progress.next? ⟨grammar, .declarations⟩ =
      (Progress.follow? grammar (lineMeaning line)).bind fun progress =>
        (lines rest).foldlM Progress.next? progress := by
  rw [h rest]
  rfl

theorem declare?_isLine (h : IsLine text line) (grammar : Grammar) :
    declare? text grammar = (Progress.follow? grammar (lineMeaning line)).map Progress.grammar := by
  have hline := foldlM_isLine h grammar []
  rw [List.append_nil] at hline
  rw [declare?, hline]
  cases Progress.follow? grammar (lineMeaning line) <;> rfl

theorem foldlM_block {header body last trailing : List Char} {name : String} {exported : List Variable}
    (hheader : actionHeader header = .done (name, exported) []) (hbody : Balanced body)
    (hlast : IsLine last trailing) (grammar : Grammar) (rest : List Char) :
    (lines (header ++ (body ++ '\x7d' :: (last ++ rest)))).foldlM Progress.next? ⟨grammar, .declarations⟩ =
      if trim trailing = [] ∧ grammar.action? name = none then
        (lines rest).foldlM Progress.next? ⟨{ grammar with actions :=
          grammar.actions ++ [⟨name, exported, String.ofList (trim (unixEnds body))⟩] }, .declarations⟩
      else none := by
  have hblock := Progress.toOption_readLines 0 (lines (header ++ (body ++ '\x7d' :: (last ++ rest))))
    ⟨grammar, .declarations⟩
  rw [readLines_block hheader hbody hlast rest, Progress.codeLine_last rfl] at hblock
  refine hblock.symm.trans ?_
  by_cases hnew : grammar.action? name = none
  · by_cases htrailing : trim trailing = []
    · have hadd := toOption_addAction grammar ⟨name, exported, String.ofList (trim (unixEnds body))⟩
      rw [if_pos hnew, ← Outcome.eq_ok_iff] at hadd
      rw [if_neg (by simp [hnew]), if_neg (not_not_intro htrailing), if_pos ⟨htrailing, hnew⟩, hadd]
      exact Progress.toOption_readLines _ _ _
    · rw [if_neg (by simp [hnew]), if_pos htrailing, if_neg fun h => htrailing h.1]
      rfl
  · rw [if_pos (Option.isSome_iff_ne_none.mpr hnew), if_neg fun h => hnew h.2]
    rfl

theorem declare?_block {header body last trailing : List Char} {name : String} {exported : List Variable}
    (hheader : actionHeader header = .done (name, exported) []) (hbody : Balanced body)
    (hlast : IsLine last trailing) (grammar : Grammar) :
    declare? (header ++ (body ++ '\x7d' :: last)) grammar =
      if trim trailing = [] ∧ grammar.action? name = none then
        some { grammar with
          actions := grammar.actions ++ [⟨name, exported, String.ofList (trim (unixEnds body))⟩] }
      else none := by
  have hblock := foldlM_block hheader hbody hlast grammar []
  rw [List.append_nil] at hblock
  rw [declare?, hblock]
  split <;> rfl

namespace Piece

/-- The grammar behind a piece: each kind reads and changes its own part. -/
def declare? (piece : Piece) (grammar : Grammar) : Option Grammar :=
  match piece.kind with
  | .blank => some grammar
  | .regex => (regexes? grammar.regexes piece.text).map fun regexes => { grammar with regexes }
  | .rule => (rules? grammar.rules piece.text).map fun rules => { grammar with rules }
  | .action => (actions? grammar.actions piece.text).map fun actions => { grammar with actions }

/-- **A piece is read on its own,** and the reading goes on behind it. -/
theorem foldlM_append (piece : Piece) (grammar : Grammar) (rest : List Char) :
    (lines (piece.text ++ rest)).foldlM Progress.next? ⟨grammar, .declarations⟩ =
      (piece.declare? grammar).bind fun declared =>
        (lines rest).foldlM Progress.next? ⟨declared, .declarations⟩ := by
  obtain ⟨_ | _ | _ | _, text, holds⟩ := piece
  · obtain ⟨line, hline, hblank⟩ := holds
    rw [foldlM_isLine hline, lineMeaning_of_trim hblank]
    rfl
  · obtain ⟨line, hline, ⟨regex, hmeaning⟩ | hmeaning⟩ := holds
    · simp only [declare?, regexes?, declare?_isLine hline]
      rw [foldlM_isLine hline, hmeaning]
      rfl
    · simp only [declare?, regexes?, declare?_isLine hline]
      rw [foldlM_isLine hline, hmeaning]
      rfl
  · obtain ⟨line, hline, ⟨rule, hmeaning⟩ | hmeaning⟩ := holds
    · simp only [declare?, rules?, declare?_isLine hline]
      rw [foldlM_isLine hline, hmeaning]
      simp only [Progress.follow?]
      cases mergeRule? grammar.rules rule <;> rfl
    · simp only [declare?, rules?, declare?_isLine hline]
      rw [foldlM_isLine hline, hmeaning]
      rfl
  · cases holds with
    | @closed header body last trailing name exported hheader hbody hlast =>
      have hsame : (⟨"", [], [], grammar.actions⟩ : Grammar).action? name = grammar.action? name := rfl
      simp only [declare?, actions?, declare?_block hheader hbody hlast, hsame, List.append_assoc,
        List.cons_append]
      rw [foldlM_block hheader hbody hlast]
      split <;> rfl
    | @malformed first line more behind hline _ hmeaning =>
      simp only [declare?, actions?, Description.declare?]
      rw [List.append_assoc, foldlM_isLine hline, foldlM_isLine hline, hmeaning]
      rfl

end Piece

/-! ## Pieces in a row -/

/-- The grammar behind some pieces, kind by kind. -/
def declareAll? (pieces : List Piece) (grammar : Grammar) : Option Grammar := do
  let regexes ← (ofKind .regex pieces).foldlM regexes? grammar.regexes
  let rules ← (ofKind .rule pieces).foldlM rules? grammar.rules
  let actions ← (ofKind .action pieces).foldlM actions? grammar.actions
  return { grammar with regexes, rules, actions }

theorem declareAll?_cons (piece : Piece) (pieces : List Piece) (grammar : Grammar) :
    declareAll? (piece :: pieces) grammar = (piece.declare? grammar).bind (declareAll? pieces) := by
  obtain ⟨_ | _ | _ | _, text, holds⟩ := piece
  · rfl
  · show ((regexes? grammar.regexes text).bind _).bind _ = ((regexes? grammar.regexes text).map _).bind _
    cases regexes? grammar.regexes text <;> rfl
  · show Option.bind _ (fun regexes => ((rules? grammar.rules text).bind _).bind _) =
      ((rules? grammar.rules text).map _).bind _
    cases rules? grammar.rules text with
    | none => simp
    | some rules => rfl
  · show Option.bind _ (fun regexes => Option.bind _ fun rules =>
      ((actions? grammar.actions text).bind _).bind _) =
      ((actions? grammar.actions text).map _).bind _
    cases actions? grammar.actions text with
    | none => simp
    | some actions => rfl

theorem foldlM_written (pieces : List Piece) (grammar : Grammar) (rest : List Char) :
    (lines (written pieces ++ rest)).foldlM Progress.next? ⟨grammar, .declarations⟩ =
      (declareAll? pieces grammar).bind fun declared =>
        (lines rest).foldlM Progress.next? ⟨declared, .declarations⟩ := by
  induction pieces generalizing grammar with
  | nil => rfl
  | cons piece pieces ih =>
    have hwritten : written (piece :: pieces) ++ rest = piece.text ++ (written pieces ++ rest) := by
      rw [written, List.flatMap_cons, List.append_assoc, ← written]
    rw [hwritten, piece.foldlM_append, declareAll?_cons, Option.bind_assoc]
    simp only [ih]

/-- **The kinds of declarations are independent of each other.** Of two descriptions whose declarations of
every kind are the same, in the same order, with any blank lines between them and the same text behind them,
both are read or none is, and to the same grammar. -/
theorem read_interleaved {first second : List Piece}
    (h : ∀ kind, kind ≠ .blank → ofKind kind first = ofKind kind second) (last : List Char)
    (grammar : Grammar) :
    read (String.ofList (written first ++ last)) = .ok grammar ↔
      read (String.ofList (written second ++ last)) = .ok grammar := by
  have hsame : declareAll? first = declareAll? second := by
    funext grammar
    rw [declareAll?, declareAll?, h .regex (by decide), h .rule (by decide), h .action (by decide)]
  rw [Outcome.eq_ok_iff, Outcome.eq_ok_iff, toOption_read, toOption_read, String.toList_ofList,
    String.toList_ofList,
    describe?, describe?, foldlM_written, foldlM_written, hsame]

/-- A block, a blank line, a rule and a regex terminal, in the one order and in the other. -/
theorem read_interleaved_reversed :
    ∃ grammar, read "D : '0'\nr : D $f\n$f[] \x7b\nr\n\x7d\nr" = .ok grammar ∧
      read "$f[] \x7b\nr\n\x7d\n \t\nr : D $f\nD : '0'\nr" = .ok grammar := by
  have hblank : Kind.blank.Holds " \t\n".toList :=
    ⟨_, @isLine_newline " \t".toList ⟨by decide, by decide⟩, by decide⟩
  have hregex : Kind.regex.Holds "D : '0'\n".toList :=
    ⟨_, @isLine_newline "D : '0'".toList ⟨by decide, by decide⟩, regexLine_of_isAsciiUpper rfl (by decide)⟩
  have hstart : startDecl "r : D $f".toList = .reject .endOfText ": D $f".toList := by decide +kernel
  have hrule : Kind.rule.Holds "r : D $f\n".toList :=
    ⟨_, @isLine_newline "r : D $f".toList ⟨by decide, by decide⟩,
      ruleLine_of_isAsciiLower rfl (by decide) fun start rest h => by rw [hstart] at h; cases h⟩
  have haction : Kind.action.Holds "$f[] \x7b\nr\n\x7d\n".toList :=
    @ActionBlock.closed "$f[] \x7b".toList "\nr\n".toList ['\n'] [] "f" [] (by decide +kernel) (by decide)
      (isLine_newline withinLine_nil)
  obtain ⟨grammar, hread⟩ : ∃ grammar, read "D : '0'\nr : D $f\n$f[] \x7b\nr\n\x7d\nr" = .ok grammar :=
    ⟨⟨"r", [{ Rule.new "r" with alternatives := [⟨[.regex "D", .action "f"]⟩] }], [⟨"D", "0"⟩],
      [⟨"f", [], "r"⟩]⟩,
      by decide +kernel⟩
  refine ⟨grammar, hread, ?_⟩
  refine (@read_interleaved [⟨_, _, hregex⟩, ⟨_, _, hrule⟩, ⟨_, _, haction⟩]
    [⟨_, _, haction⟩, ⟨_, _, hblank⟩, ⟨_, _, hrule⟩, ⟨_, _, hregex⟩]
      (fun kind hkind => ?_) "r".toList grammar).mp hread
  cases kind with
  | blank => exact absurd rfl hkind
  | regex | rule | action => rfl

end AttributeGrammar.Description
