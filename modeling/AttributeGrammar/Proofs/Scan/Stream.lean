import AttributeGrammar.Grammar.Symbol
import AttributeGrammar.Scan.Scanner

/-!
# The tokens that a scanner has ahead of it

* `Token.terminal` — the terminal that a token stands for.
* `Tables.Delivers` — the tokens that repeated reading delivers from a place: all of them up to the
  end of the input, the end included, or up to the place where nothing matches.
* `Scanner.Ahead` — the tokens that a scanner has ahead of it.
* `Scanner.next_of_ahead`, `Scanner.peek_of_ahead` — reading takes the first of them; reading and
  taking back leaves them all ahead.
* `Scanner.readAll_of_ahead` — reading all tokens gives just these.
* `Tables.Delivers.text_eq` — tokens up to the end of the input make up the text.
-/

set_option autoImplicit false

namespace AttributeGrammar

open Text

/-! ## Bytes and characters -/

theorem utf8ByteSize_ofList_cons (c : Char) (chars : List Char) :
    (String.ofList (c :: chars)).utf8ByteSize = c.utf8Size + (String.ofList chars).utf8ByteSize := by
  have hsplit : String.ofList (c :: chars) = String.ofList [c] ++ String.ofList chars := by
    rw [← String.ofList_append, List.singleton_append]
  have hc : (String.ofList [c]).utf8ByteSize = c.utf8Size := String.utf8ByteSize_singleton
  rw [hsplit, String.utf8ByteSize_append, hc]

theorem utf8Length_eq (chars : List Char) :
    utf8Length chars = (String.ofList chars).utf8ByteSize := by
  induction chars with
  | nil => rfl
  | cons c chars ih => rw [utf8Length, ih, utf8ByteSize_ofList_cons]

/-- A text has no more characters than bytes. -/
theorem length_le_utf8ByteSize (text : String) : text.toList.length ≤ text.utf8ByteSize := by
  suffices ∀ chars : List Char, chars.length ≤ (String.ofList chars).utf8ByteSize by
    have hchars := this text.toList
    rwa [String.ofList_toList] at hchars
  intro chars
  induction chars with
  | nil => simp
  | cons c chars ih =>
    have hpos := c.utf8Size_pos
    rw [utf8ByteSize_ofList_cons, List.length_cons]
    omega

/-! ## The terminal of a token -/

/-- The terminal that a token stands for. -/
def Token.terminal (token : Token) : Terminal :=
  match token.kind with
  | .text => .text token.text
  | .endOfInput => .endOfInput
  | .regex name => .regex name

theorem Token.terminal_eq_text {token : Token} {literal : String} :
    token.terminal = .text literal ↔ token.isText literal := by
  obtain ⟨kind, text, position⟩ := token
  cases kind <;> simp [Token.terminal, Token.isText]

theorem Token.terminal_eq_regex {token : Token} {name : String} :
    token.terminal = .regex name ↔ token.kind = .regex name := by
  obtain ⟨kind, text, position⟩ := token
  cases kind <;> simp [Token.terminal]

theorem Token.terminal_eq_endOfInput {token : Token} :
    token.terminal = .endOfInput ↔ token.isEnd := by
  obtain ⟨kind, text, position⟩ := token
  cases kind <;> simp [Token.terminal, Token.isEnd]

theorem Token.terminal_ne_empty (token : Token) : token.terminal ≠ .empty := by
  obtain ⟨kind, text, position⟩ := token
  cases kind <;> simp [Token.terminal]

namespace Tables

variable {tables : Tables} {cursor : Cursor} {token : Token} {tokens : List Token}

/-! ## The longest match -/

theorem longest?_pos {text : List Char} {kind : Kind} {length : Nat}
    (h : tables.longest? text = some (kind, length)) : 0 < length := by
  simp only [longest?] at h
  split at h
  · cases h
    omega
  · split at h
    · cases h
      assumption
    · cases h

theorem longestRegex_kind (tables : Tables) (text : List Char) :
    tables.longestRegex text = (.endOfInput, 0) ∨
      ∃ regex ∈ tables.regexes, (tables.longestRegex text).1 = regex.1 := by
  unfold longestRegex
  refine List.foldlRecOn (motive := fun found : Kind × Nat =>
    found = (.endOfInput, 0) ∨ ∃ regex ∈ tables.regexes, found.1 = regex.1)
    tables.regexes _ (Or.inl rfl) fun best hbest regex hregex => ?_
  dsimp only
  split
  · split
    · exact Or.inr ⟨regex, hregex, rfl⟩
    · exact hbest
  · exact hbest

/-- No regex terminal has the kind of the end of the input. -/
def Proper (tables : Tables) : Prop := ∀ regex ∈ tables.regexes, regex.1 ≠ .endOfInput

theorem Proper.longest?_kind (hproper : tables.Proper) {text : List Char} {kind : Kind} {length : Nat}
    (h : tables.longest? text = some (kind, length)) : kind ≠ .endOfInput := by
  simp only [longest?] at h
  split at h
  · rename_i hlt
    cases h
    rcases tables.longestRegex_kind text with heq | ⟨regex, hmem, heq⟩
    · rw [heq] at hlt
      omega
    · rw [heq]
      exact hproper regex hmem
  · split at h
    · cases h
      simp
    · cases h

/-! ## The tokens from a place on -/

/-- The tokens that repeated reading delivers from a place. -/
inductive Delivers (tables : Tables) : Cursor → List Token → Prop where
  | stop (offset : Nat) : Delivers tables ⟨offset, []⟩ [⟨.endOfInput, "", offset⟩]
  | fail {cursor : Cursor} :
      cursor.rest ≠ [] → tables.longest? cursor.rest = none → Delivers tables cursor []
  | token {cursor : Cursor} {kind : Kind} {length : Nat} {tokens : List Token} :
      cursor.rest ≠ [] → tables.longest? cursor.rest = some (kind, length) →
      Delivers tables (cursor.advance length) tokens →
      Delivers tables cursor
        (⟨kind, String.ofList (cursor.rest.take length), cursor.offset⟩ :: tokens)

theorem advance_rest_length_lt {length : Nat} (hrest : cursor.rest ≠ []) (hpos : 0 < length) :
    (cursor.advance length).rest.length < cursor.rest.length := by
  have := List.length_pos_iff.mpr hrest
  simp only [Cursor.advance, List.length_drop]
  omega

theorem exists_delivers (tables : Tables) (cursor : Cursor) :
    ∃ tokens, tables.Delivers cursor tokens := by
  induction hsize : cursor.rest.length using Nat.strongRecOn generalizing cursor with
  | _ size ih =>
    by_cases hrest : cursor.rest = []
    · obtain ⟨offset, rest⟩ := cursor
      cases hrest
      exact ⟨_, .stop offset⟩
    · rcases hlongest : tables.longest? cursor.rest with _ | ⟨kind, length⟩
      · exact ⟨_, .fail hrest hlongest⟩
      · have hlt := advance_rest_length_lt hrest (longest?_pos hlongest)
        obtain ⟨tokens, htokens⟩ := ih _ (hsize ▸ hlt) (cursor.advance length) rfl
        exact ⟨_, .token hrest hlongest htokens⟩

theorem Delivers.length_le (h : tables.Delivers cursor tokens) :
    tokens.length ≤ cursor.rest.length + 1 := by
  induction h with
  | stop => simp
  | fail => simp
  | token hrest hlongest _ ih =>
    have := advance_rest_length_lt hrest (longest?_pos hlongest)
    simp only [List.length_cons]
    omega

/-- Behind the end of the input there is nothing. -/
theorem Delivers.eq_nil_of_isEnd (hproper : tables.Proper) (h : tables.Delivers cursor tokens)
    {front more : List Token} (heq : tokens = front ++ token :: more) (hend : token.isEnd) :
    more = [] := by
  induction h generalizing front with
  | stop =>
    cases front with
    | nil =>
      cases heq
      rfl
    | cons first front => simp at heq
  | fail => simp at heq
  | token hrest hlongest _ ih =>
    cases front with
    | nil =>
      obtain ⟨rfl, -⟩ := List.cons.inj heq
      simp [Token.isEnd, hproper.longest?_kind hlongest] at hend
    | cons first front => exact ih (List.cons.inj heq).2

/-- **Tokens up to the end of the input make up the text.** -/
theorem Delivers.text_eq (hproper : tables.Proper) (h : tables.Delivers cursor tokens)
    {front : List Token} {stop : Token} (heq : tokens = front ++ [stop]) (hstop : stop.isEnd) :
    String.join (front.map Token.text) = String.ofList cursor.rest := by
  induction h generalizing front with
  | stop =>
    cases front with
    | nil => rfl
    | cons first front => simp at heq
  | fail => simp at heq
  | @token cursor kind length tokens hrest hlongest htokens ih =>
    cases front with
    | nil =>
      obtain ⟨rfl, -⟩ := List.cons.inj heq
      simp [Token.isEnd, hproper.longest?_kind hlongest] at hstop
    | cons first front =>
      obtain ⟨rfl, htail⟩ := List.cons.inj heq
      have hjoin := ih htail
      simp only [List.map_cons, String.join_cons, hjoin, Cursor.advance]
      rw [← String.ofList_append, List.take_append_drop]

end Tables

namespace Scanner

variable {scanner : Scanner} {tables : Tables} {token : Token} {tokens : List Token}

/-- The tokens that a scanner has ahead of it. -/
def Ahead (scanner : Scanner) (tokens : List Token) : Prop :=
  scanner.tables.Delivers scanner.cursor tokens

/-! ### One token -/

theorem next_stop (h : scanner.cursor.rest = []) :
    next scanner = deliver ⟨.endOfInput, "", scanner.cursor.offset⟩ scanner.cursor
      { scanner with previous := scanner.cursor } := by
  change (if scanner.cursor.rest.isEmpty then _ else _ : Scan Token) _ = _
  rw [if_pos (List.isEmpty_iff.mpr h)]

theorem next_none (hrest : scanner.cursor.rest ≠ [])
    (hlongest : scanner.tables.longest? scanner.cursor.rest = none) :
    next scanner = .error
      (.unexpectedToken scanner.cursor.offset (String.ofList (scanner.cursor.rest.take nearLength)))
      { scanner with previous := scanner.cursor } := by
  change (if scanner.cursor.rest.isEmpty then _ else _ : Scan Token) _ = _
  rw [if_neg (by simpa using hrest), hlongest]
  rfl

theorem next_fail (hrest : scanner.cursor.rest ≠ [])
    (hlongest : scanner.tables.longest? scanner.cursor.rest = none) :
    ∃ e, next scanner = .error e { scanner with previous := scanner.cursor } :=
  ⟨_, next_none hrest hlongest⟩

theorem next_token {kind : Kind} {length : Nat} (hrest : scanner.cursor.rest ≠ [])
    (hlongest : scanner.tables.longest? scanner.cursor.rest = some (kind, length)) :
    next scanner = deliver
      ⟨kind, String.ofList (scanner.cursor.rest.take length), scanner.cursor.offset⟩
      (scanner.cursor.advance length) { scanner with previous := scanner.cursor } := by
  change (if scanner.cursor.rest.isEmpty then _ else _ : Scan Token) _ = _
  rw [if_neg (by simpa using hrest), hlongest]

/-- Reading fails where nothing matches. -/
theorem next_of_ahead_nil (h : scanner.Ahead []) : ∃ e after, next scanner = .error e after := by
  unfold Ahead at h
  generalize hcursor : scanner.cursor = cursor at h
  cases h with
  | fail hrest hlongest =>
    subst hcursor
    obtain ⟨e, hnext⟩ := next_fail hrest hlongest
    exact ⟨e, _, hnext⟩

/-- **Reading delivers the first token ahead.** The other ones are ahead then, unless it is the end. -/
theorem next_of_ahead (h : scanner.Ahead (token :: tokens)) :
    ∃ after, next scanner = .ok token after ∧ after.tables = scanner.tables ∧
      after.previous = scanner.cursor ∧ (token.isEnd = false → after.Ahead tokens) := by
  unfold Ahead at h
  generalize hcursor : scanner.cursor = cursor at h
  cases h with
  | stop offset =>
    have hnext := next_stop (congrArg Cursor.rest hcursor)
    rw [hcursor] at hnext
    refine ⟨_, hnext, rfl, rfl, ?_⟩
    simp [Token.isEnd]
  | token hrest hlongest htokens =>
    subst hcursor
    exact ⟨_, next_token hrest hlongest, rfl, rfl, fun _ => htokens⟩

/-- Reading and taking back leaves everything ahead. -/
theorem peek_of_ahead (h : scanner.Ahead (token :: tokens)) :
    ∃ read back, next scanner = .ok token read ∧ undo read = .ok () back ∧
      back.tables = scanner.tables ∧ back.Ahead (token :: tokens) := by
  obtain ⟨read, hnext, htables, hprevious, -⟩ := next_of_ahead h
  refine ⟨read, { read with cursor := read.previous }, hnext, rfl, htables, ?_⟩
  show read.tables.Delivers read.previous (token :: tokens)
  rw [htables, hprevious]
  exact h

/-! ### All tokens -/

theorem read_of_delivers {cursor : Cursor} (h : tables.Delivers cursor tokens)
    (hproper : tables.Proper) :
    ∀ {scanner : Scanner} {count : Nat}, scanner.tables = tables → scanner.cursor = cursor →
      cursor.rest.length < count →
      ∃ error after, scanner.read count = (tokens, error, after) ∧
        (error = none ↔ ∃ front stop, tokens = front ++ [stop] ∧ stop.isEnd) := by
  induction h with
  | stop offset =>
    rintro scanner (_ | count) rfl hcursor hcount
    · omega
    · have hnext := next_stop (congrArg Cursor.rest hcursor)
      rw [hcursor] at hnext
      refine ⟨none, _, by simp only [read, hnext]; rfl, ?_⟩
      simp only [true_iff]
      exact ⟨[], _, rfl, rfl⟩
  | fail hrest hlongest =>
    rintro scanner (_ | count) rfl rfl hcount
    · omega
    · obtain ⟨e, hnext⟩ := next_fail hrest hlongest
      refine ⟨some e, _, by simp only [read, hnext]; rfl, ?_⟩
      simp
  | @token cursor kind length tokens hrest hlongest htokens ih =>
    rintro scanner (_ | count) rfl rfl hcount
    · omega
    · have hlt := Tables.advance_rest_length_lt hrest (Tables.longest?_pos hlongest)
      have hnext := next_token hrest hlongest
      generalize htoken : (⟨kind, _, _⟩ : Token) = token at hnext
      have hend : token.isEnd = false := by
        simp [← htoken, Token.isEnd, hproper.longest?_kind hlongest]
      obtain ⟨error, after, hread, herror⟩ :=
        @ih { scanner with
          previous := scanner.cursor
          cursor := scanner.cursor.advance length
          delivered := token :: scanner.delivered } count rfl rfl (by omega)
      refine ⟨error, after, ?_, herror.trans ⟨?_, ?_⟩⟩
      · simp only [read, hnext, deliver, hend, hread]
        rfl
      · rintro ⟨front, stop, rfl, hstop⟩
        exact ⟨token :: front, stop, rfl, hstop⟩
      · rintro ⟨_ | ⟨first, front⟩, stop, heq, hstop⟩
        · cases heq
          rw [hend] at hstop
          cases hstop
        · exact ⟨front, stop, (List.cons.inj heq).2, hstop⟩

/-- **Reading all tokens gives those ahead.** No error is reported exactly when the last is the end. -/
theorem readAll_of_ahead (h : scanner.Ahead tokens) (hproper : scanner.tables.Proper) :
    ∃ error after, scanner.readAll = (tokens, error, after) ∧
      (error = none ↔ ∃ front stop, tokens = front ++ [stop] ∧ stop.isEnd) :=
  read_of_delivers h hproper rfl rfl (Nat.lt_succ_self _)

end Scanner

end AttributeGrammar
