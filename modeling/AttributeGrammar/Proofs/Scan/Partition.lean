import AttributeGrammar.Proofs.Scan.Longest

/-!
# A scanner cuts its input into tokens

* `Cursor.Within` — a place between two characters of an input, with all of the input behind it.
* `Scanner.Inside` — a scanner whose two places are within an input; `Inside.call` and `Inside.run`
  keep it through all calls.
* `Token.CutFrom`, `Token.Chain` — tokens as pieces of an input, one directly behind the other.
* `Scanner.Reads` — tokens read in a row before the end of the input.
* `Scanner.exists_reads` — repeated reading comes to the end of the input or to an error.
* `Scanner.run_partitions` — whatever is asked of a new scanner, it stays inside its input and cuts it
  into pieces.
-/

set_option autoImplicit false

namespace AttributeGrammar

open Text

/-! ## Places in an input -/

/-- The place lies between two characters of an input, and the text behind it is all of the rest. -/
def Cursor.Within (cursor : Cursor) (input : String) : Prop :=
  ∃ before : String, input = before ++ String.ofList cursor.rest ∧ before.utf8ByteSize = cursor.offset

theorem Cursor.Within.offset_le {cursor : Cursor} {input : String} (h : cursor.Within input) :
    cursor.offset ≤ input.utf8ByteSize := by
  obtain ⟨before, rfl, hoffset⟩ := h
  rw [String.utf8ByteSize_append]
  omega

theorem Cursor.Within.offset_eq {cursor : Cursor} {input : String} (h : cursor.Within input)
    (hrest : cursor.rest = []) : cursor.offset = input.utf8ByteSize := by
  obtain ⟨before, rfl, hoffset⟩ := h
  simp [hrest, hoffset]

theorem ofList_take_append_drop (text : List Char) (count : Nat) :
    String.ofList text = String.ofList (text.take count) ++ String.ofList (text.drop count) := by
  rw [← String.ofList_append, List.take_append_drop]

theorem Cursor.Within.advance {cursor : Cursor} {input : String} (h : cursor.Within input)
    (count : Nat) : (cursor.advance count).Within input := by
  obtain ⟨before, hinput, hoffset⟩ := h
  refine ⟨before ++ String.ofList (cursor.rest.take count), ?_, ?_⟩
  · rw [hinput, ofList_take_append_drop cursor.rest count, String.append_assoc]
    rfl
  · rw [String.utf8ByteSize_append, hoffset, ← utf8Length_eq]
    rfl

/-- The token is the piece of an input between two places, and not empty. -/
structure Token.CutFrom (token : Token) (input : String) (start stop : Nat) : Prop where
  position_eq : token.position = start
  text_ne : token.text ≠ ""
  slice : ∃ before after : String, input = before ++ token.text ++ after ∧
    before.utf8ByteSize = start ∧ (before ++ token.text).utf8ByteSize = stop

theorem Token.CutFrom.lt {token : Token} {input : String} {start stop : Nat}
    (h : token.CutFrom input start stop) : start < stop := by
  obtain ⟨before, after, -, rfl, rfl⟩ := h.slice
  have hsize : token.text.utf8ByteSize ≠ 0 := fun hzero =>
    h.text_ne (String.utf8ByteSize_eq_zero_iff.mp hzero)
  rw [String.utf8ByteSize_append]
  omega

/-- Tokens that are pieces of an input, each directly behind the one before. -/
inductive Token.Chain (input : String) : Nat → List Token → Nat → Prop where
  | nil (place : Nat) : Chain input place [] place
  | cons {token : Token} {tokens : List Token} {start middle stop : Nat} :
      token.CutFrom input start middle → Chain input middle tokens stop →
      Chain input start (token :: tokens) stop

theorem Token.Chain.length_le {input : String} {tokens : List Token} {start stop : Nat}
    (h : Token.Chain input start tokens stop) : start + tokens.length ≤ stop := by
  induction h with
  | nil => exact Nat.le_refl _
  | cons hcut _ ih =>
    have := hcut.lt
    simp only [List.length_cons]
    omega

namespace Scanner

variable {scanner after last : Scanner} {input : String} {token : Token} {tokens : List Token}

/-! ## The places of a scanner -/

/-- The two places of a scanner are within an input, the remembered one not behind the other. -/
structure Inside (scanner : Scanner) (input : String) : Prop where
  cursor : scanner.cursor.Within input
  previous : scanner.previous.Within input
  previous_le : scanner.previous.offset ≤ scanner.cursor.offset

theorem Inside.ask (h : scanner.Inside input) (query : Query) : (scanner.ask query).2.Inside input := by
  rw [ask_eq]
  rcases scanner.next_cases with ⟨-, hnext⟩ | ⟨-, -, e, hnext⟩ | ⟨kind, length, -, -, hnext⟩
  · rw [hnext]
    exact ⟨h.cursor, h.cursor, Nat.le_refl _⟩
  · rw [hnext]
    exact ⟨h.cursor, h.cursor, Nat.le_refl _⟩
  · rw [hnext]
    exact ⟨h.cursor.advance length, h.cursor, Nat.le_add_right _ _⟩

theorem Inside.call (h : scanner.Inside input) (call : Call) : (scanner.call call).2.Inside input := by
  cases call with
  | query query => exact h.ask query
  | undo => exact ⟨h.previous, h.previous, Nat.le_refl _⟩

/-- **No calls lead out of the input.** -/
theorem Inside.run (h : scanner.Inside input) (calls : List Call) :
    (scanner.run calls).2.Inside input := by
  induction calls generalizing scanner with
  | nil => exact h
  | cons call calls ih => exact ih (h.call call)

theorem inside_of_new {literals : List String} {regexes : List (Kind × String)}
    (h : new input literals regexes = .ok scanner) : scanner.Inside input := by
  obtain ⟨hcursor, hprevious⟩ := start_of_new h
  have hstart : (Cursor.mk 0 input.toList).Within input := ⟨"", by simp, rfl⟩
  exact ⟨hcursor ▸ hstart, hprevious ▸ hstart, by rw [hcursor, hprevious]⟩

/-! ## Reading -/

/-- **A token that is read is a piece of the input,** and the cursor is moved exactly past it. -/
theorem Inside.cutFrom (h : scanner.Inside input) (hrest : scanner.cursor.rest ≠ [])
    (hnext : next scanner = .ok token after) :
    token.CutFrom input scanner.position after.position := by
  rcases scanner.next_cases with ⟨hnil, -⟩ | ⟨-, -, e, herror⟩ | ⟨kind, length, -, hlongest, hok⟩
  · exact absurd hnil hrest
  · cases hnext.symm.trans herror
  · cases hnext.symm.trans hok
    have hpos := Tables.longest?_pos hlongest
    obtain ⟨before, hinput, hoffset⟩ := h.cursor
    refine ⟨rfl, ?_, before, String.ofList (scanner.cursor.rest.drop length), ?_, hoffset, ?_⟩
    · have hcount : scanner.cursor.rest.take length ≠ [] := by
        simp only [ne_eq, List.take_eq_nil_iff, not_or]
        exact ⟨by omega, hrest⟩
      simpa [← String.toList_inj] using hcount
    · rw [hinput, ofList_take_append_drop scanner.cursor.rest length, String.append_assoc]
    · rw [String.utf8ByteSize_append, hoffset, ← utf8Length_eq]
      rfl

/-- Tokens read in a row, none of them at the end of the input. -/
inductive Reads : Scanner → List Token → Scanner → Prop where
  | nil (scanner : Scanner) : Reads scanner [] scanner
  | cons {scanner middle last : Scanner} {token : Token} {tokens : List Token} :
      scanner.cursor.rest ≠ [] → next scanner = .ok token middle → Reads middle tokens last →
      Reads scanner (token :: tokens) last

theorem Inside.next (h : scanner.Inside input) (hnext : next scanner = .ok token after) :
    after.Inside input := by
  have hask := h.ask .next
  rwa [ask_eq, hnext] at hask

theorem Inside.reads (h : scanner.Inside input) (hreads : scanner.Reads tokens last) :
    last.Inside input ∧ Token.Chain input scanner.position tokens last.position := by
  induction hreads with
  | nil => exact ⟨h, .nil _⟩
  | cons hrest hnext _ ih =>
    obtain ⟨hlast, hchain⟩ := ih (h.next hnext)
    exact ⟨hlast, .cons (h.cutFrom hrest hnext) hchain⟩

theorem Reads.rest_eq (h : scanner.Reads tokens last) :
    String.ofList scanner.cursor.rest =
        String.join (tokens.map Token.text) ++ String.ofList last.cursor.rest ∧
      last.position = scanner.position + (String.join (tokens.map Token.text)).utf8ByteSize := by
  induction h with
  | nil => simp
  | @cons scanner middle last token tokens hrest hnext _ ih =>
    obtain ⟨hjoin, hposition⟩ := ih
    rcases scanner.next_cases with ⟨hnil, -⟩ | ⟨-, -, e, herror⟩ | ⟨kind, length, -, -, hok⟩
    · exact absurd hnil hrest
    · cases hnext.symm.trans herror
    · cases hnext.symm.trans hok
      constructor
      · rw [ofList_take_append_drop scanner.cursor.rest length, List.map_cons, String.join_cons,
          String.append_assoc, ← hjoin]
        rfl
      · rw [hposition, List.map_cons, String.join_cons, String.utf8ByteSize_append, ← utf8Length_eq,
          ← Nat.add_assoc]
        rfl

/-- The texts that are read make up the input between the two places. -/
theorem Inside.join_eq (h : scanner.Inside input) (hreads : scanner.Reads tokens last) :
    ∃ before after : String, input = before ++ String.join (tokens.map Token.text) ++ after ∧
      before.utf8ByteSize = scanner.position ∧
      (before ++ String.join (tokens.map Token.text)).utf8ByteSize = last.position := by
  obtain ⟨before, hinput, hoffset⟩ := h.cursor
  obtain ⟨hjoin, hposition⟩ := hreads.rest_eq
  refine ⟨before, String.ofList last.cursor.rest, ?_, hoffset, ?_⟩
  · rw [hinput, hjoin, String.append_assoc]
  · rw [String.utf8ByteSize_append, hposition, hoffset]
    rfl

/-- Reading comes to an end: nothing is left, or nothing matches. -/
theorem exists_reads (scanner : Scanner) :
    ∃ tokens last, scanner.Reads tokens last ∧
      (last.cursor.rest = [] ∨ ∃ e after, next last = .error e after) := by
  induction hsize : scanner.cursor.rest.length using Nat.strongRecOn generalizing scanner with
  | _ size ih =>
    rcases scanner.next_cases with ⟨hnil, -⟩ | ⟨-, -, e, herror⟩ | ⟨kind, length, hrest, hlongest, hok⟩
    · exact ⟨[], scanner, .nil _, .inl hnil⟩
    · exact ⟨[], scanner, .nil _, .inr ⟨e, _, herror⟩⟩
    · have hlt := Tables.advance_rest_length_lt hrest (Tables.longest?_pos hlongest)
      obtain ⟨token, after, hnext, hafter⟩ : ∃ token after, next scanner = .ok token after ∧
          after.cursor.rest.length < scanner.cursor.rest.length := ⟨_, _, hok, hlt⟩
      obtain ⟨tokens, last, hreads, hend⟩ := ih _ (hsize ▸ hafter) after rfl
      exact ⟨token :: tokens, last, .cons hrest hnext hreads, hend⟩

/-- **A scanner partitions its input.** Whatever is asked of a new scanner, in any order:

* its two places stay within the input, between two characters, and what matches ends within it;
* a token that is read before the end of the input is the piece of the input at the cursor, not empty,
  and moves the cursor exactly past it;
* a query that wants more of a token moves as reading does, content or not, and returns no other token;
* reading on comes to the end of the input or to an error, with at most one token for each byte that
  is left; the tokens follow directly on each other and make up what is passed. -/
theorem run_partitions {literals : List String} {regexes : List (Kind × String)}
    (hnew : new input literals regexes = .ok scanner) (calls : List Call) :
    let reached := (scanner.run calls).2
    reached.Inside input ∧
    (∀ kind length, reached.tables.longest? reached.cursor.rest = some (kind, length) →
      length ≤ reached.cursor.rest.length) ∧
    (∀ token after, reached.cursor.rest ≠ [] → next reached = .ok token after →
      token.CutFrom input reached.position after.position) ∧
    (∀ query, (reached.ask query).2 = (reached.ask .next).2 ∧
      ∀ token, (reached.ask query).1 = .ok (some token) →
        (reached.ask .next).1 = .ok (some token)) ∧
    ∃ tokens last, reached.Reads tokens last ∧
      tokens.length ≤ input.utf8ByteSize - reached.position ∧
      ((∃ after, next last = .ok ⟨.endOfInput, "", input.utf8ByteSize⟩ after) ∨
        ∃ e after, next last = .error e after) ∧
      Token.Chain input reached.position tokens last.position ∧
      ∃ before after : String, input = before ++ String.join (tokens.map Token.text) ++ after ∧
        before.utf8ByteSize = reached.position ∧
        (before ++ String.join (tokens.map Token.text)).utf8ByteSize = last.position := by
  intro reached
  have hinside : reached.Inside input := (inside_of_new hnew).run calls
  obtain ⟨tokens, last, hreads, hend⟩ := reached.exists_reads
  obtain ⟨hlast, hchain⟩ := hinside.reads hreads
  refine ⟨hinside, fun kind length => Tables.longest?_le,
    fun token after hrest hnext => hinside.cutFrom hrest hnext,
    fun query => ⟨reached.ask_scanner_eq query, fun token => reached.ask_next_of_ask⟩,
    tokens, last, hreads, ?_, ?_, hchain, hinside.join_eq hreads⟩
  · have hlength := hchain.length_le
    have hbound := hlast.cursor.offset_le
    simp only [position] at *
    omega
  · rcases hend with hnil | herror
    · rw [← hlast.cursor.offset_eq hnil]
      exact .inl ⟨_, next_stop hnil⟩
    · exact .inr herror

/-- A word with a letter of two bytes is taken back, and then refused. -/
theorem run_partitions_word :
    ∃ scanner, new "éx1" ["1"] [(.regex "WORD", "(é|x)+")] = .ok scanner ∧
      let reached := (scanner.run [.query .next, .undo, .query (.expectText "1"), .undo, .undo]).2
      reached.Inside "éx1" ∧
        ∃ tokens last, reached.Reads tokens last ∧
          tokens.length ≤ "éx1".utf8ByteSize - reached.position := by
  obtain ⟨scanner, hnew⟩ : ∃ scanner, new "éx1" ["1"] [(.regex "WORD", "(é|x)+")] = .ok scanner :=
    ⟨_, rfl⟩
  obtain ⟨hinside, -, -, -, tokens, last, hreads, hlength, -⟩ := run_partitions hnew
    [.query .next, .undo, .query (.expectText "1"), .undo, .undo]
  exact ⟨scanner, hnew, hinside, tokens, last, hreads, hlength⟩

end Scanner

end AttributeGrammar
