import AttributeGrammar.Proofs.Scan.Stream

/-!
# Calls of a scanner

* `Query`, `Call` — what is asked of a scanner: a query reads a token, a call is a query or takes the
  last token back.
* `Scanner.ask`, `Scanner.call`, `Scanner.run` — the answer to a query, to a call and to calls in a
  row, with the scanner behind it.
* `Scanner.next_cases` — all that reading can do.
* `Scanner.ask_eq` — a query reads one token and judges it; it moves as reading moves, whether it is
  content with the token or not.
* `Scanner.Alike.ask` — answers depend on the place in the input alone.
* `Scanner.alike_undo_ask` — one `undo` takes back what a query moved.
* `Step` — queries with looks ahead between them, as calls.
* `Scanner.peeks_invisible` — looking ahead changes no answer and no position, and a query that is
  taken back and asked again is answered again.
-/

set_option autoImplicit false

namespace AttributeGrammar

/-- What reads a token. -/
inductive Query where
  | next
  | expectText (text : String)
  | expectKind (kind : Kind)
  | expectEnd
deriving DecidableEq, Repr

/-- What is asked of a scanner. -/
inductive Call where
  | query (query : Query)
  | undo
deriving DecidableEq, Repr

/-- The answer to a call: an error, a token, or none where the call returns nothing. -/
abbrev Answer := Except ScanError (Option Token)

def Query.scan : Query → Scan (Option Token)
  | .next => some <$> Scanner.next
  | .expectText text => some <$> Scanner.expectText text
  | .expectKind kind => some <$> Scanner.expectKind kind
  | .expectEnd => do
    Scanner.expectEnd
    return none

/-- What a query makes of the token that it reads. -/
def Query.judge (token : Token) : Query → Answer
  | .next => .ok (some token)
  | .expectText text =>
    if token.isText text then .ok (some token) else .error (.mismatch token.render text)
  | .expectKind kind =>
    if token.kind = kind then .ok (some token) else .error (.unexpectedKind token.render kind.name)
  | .expectEnd => if token.isEnd then .ok none else .error (.trailingInput token.position)

def Call.scan : Call → Scan (Option Token)
  | .query asked => asked.scan
  | .undo => do
    Scanner.undo
    return none

namespace Scanner

variable {scanner other : Scanner} {query : Query}

/-- What a computation answers, and the scanner that it leaves. -/
def outcome (computation : Scan (Option Token)) (scanner : Scanner) : Answer × Scanner :=
  match computation scanner with
  | .ok answer after => (.ok answer, after)
  | .error e after => (.error e, after)

def ask (scanner : Scanner) (query : Query) : Answer × Scanner := outcome query.scan scanner

def call (scanner : Scanner) (call : Call) : Answer × Scanner := outcome call.scan scanner

/-- The answers to calls in a row, each with the position behind it, and the scanner in the end. -/
def run (scanner : Scanner) : List Call → List (Answer × Nat) × Scanner
  | [] => ([], scanner)
  | call :: calls =>
    let (answer, after) := scanner.call call
    let (answers, last) := after.run calls
    ((answer, after.position) :: answers, last)

/-! ## One call -/

@[simp] theorem call_query (scanner : Scanner) (query : Query) :
    scanner.call (.query query) = scanner.ask query := rfl

@[simp] theorem call_undo (scanner : Scanner) :
    scanner.call .undo = (.ok none, { scanner with cursor := scanner.previous }) := rfl

/-- **All that reading can do:** it stays at the end of the input, it stays where nothing matches, or
it moves past the longest match. -/
theorem next_cases (scanner : Scanner) :
    (scanner.cursor.rest = [] ∧
      next scanner = deliver ⟨.endOfInput, "", scanner.cursor.offset⟩ scanner.cursor
        { scanner with previous := scanner.cursor }) ∨
    (scanner.cursor.rest ≠ [] ∧ scanner.tables.longest? scanner.cursor.rest = none ∧
      ∃ e, next scanner = .error e { scanner with previous := scanner.cursor }) ∨
    ∃ kind length, scanner.cursor.rest ≠ [] ∧
      scanner.tables.longest? scanner.cursor.rest = some (kind, length) ∧
      next scanner = deliver
        ⟨kind, String.ofList (scanner.cursor.rest.take length), scanner.cursor.offset⟩
        (scanner.cursor.advance length) { scanner with previous := scanner.cursor } := by
  by_cases hrest : scanner.cursor.rest = []
  · exact .inl ⟨hrest, next_stop hrest⟩
  · rcases hlongest : scanner.tables.longest? scanner.cursor.rest with _ | ⟨kind, length⟩
    · exact .inr (.inl ⟨hrest, rfl, next_fail hrest hlongest⟩)
    · exact .inr (.inr ⟨kind, length, hrest, rfl, next_token hrest hlongest⟩)

theorem outcome_bind {α : Type} (first : Scan α) (rest : α → Scan (Option Token)) :
    outcome (first >>= rest) scanner =
      match first scanner with
      | .ok a after => outcome (rest a) after
      | .error e after => (.error e, after) := by
  cases h : first scanner <;> simp [outcome, bind, EStateM.bind, h]

/-- A query is reading, and then a judgement that leaves the scanner alone. -/
theorem exists_scan_eq (query : Query) :
    ∃ judge : Token → Scan (Option Token), query.scan = next >>= judge ∧
      ∀ token after, outcome (judge token) after = (query.judge token, after) := by
  cases query with
  | next => exact ⟨_, (bind_pure_comp some next).symm, fun token after => rfl⟩
  | expectText text =>
    refine ⟨_, map_bind some next _, fun token after => ?_⟩
    by_cases h : token.isText text <;> simp only [h, Query.judge] <;> rfl
  | expectKind kind =>
    refine ⟨_, map_bind some next _, fun token after => ?_⟩
    by_cases h : token.kind = kind <;> simp only [h, Query.judge] <;> rfl
  | expectEnd =>
    refine ⟨_, bind_assoc next _ _, fun token after => ?_⟩
    by_cases h : token.isEnd <;> simp only [h, Query.judge] <;> rfl

/-- **A query reads one token and judges it.** It leaves the scanner that reading leaves. -/
theorem ask_eq (scanner : Scanner) (query : Query) :
    scanner.ask query =
      match next scanner with
      | .ok token after => (query.judge token, after)
      | .error e after => (.error e, after) := by
  obtain ⟨judge, hscan, hjudge⟩ := exists_scan_eq query
  rw [ask, hscan, outcome_bind]
  cases next scanner with
  | ok token after => exact hjudge token after
  | error e after => rfl

theorem ask_scanner_eq (scanner : Scanner) (query : Query) :
    (scanner.ask query).2 = (scanner.ask .next).2 := by
  rw [ask_eq, ask_eq]
  cases next scanner <;> rfl

/-- A query returns no other token than reading. -/
theorem ask_next_of_ask {token : Token} (h : (scanner.ask query).1 = .ok (some token)) :
    (scanner.ask .next).1 = .ok (some token) := by
  rw [ask_eq] at h ⊢
  cases hnext : next scanner with
  | error e after => rw [hnext] at h; cases h
  | ok found after =>
    rw [hnext] at h
    cases query with
    | next => exact h
    | expectEnd => cases hend : found.isEnd <;> simp [Query.judge, hend] at h
    | _ =>
      simp only [Query.judge] at h
      split at h
      · exact h
      · cases h

/-! ## Looking ahead -/

/-- Two scanners find the same in every text, and are at the same place. -/
def Alike (scanner other : Scanner) : Prop :=
  scanner.tables.longest? = other.tables.longest? ∧ scanner.cursor = other.cursor

theorem Alike.refl (scanner : Scanner) : scanner.Alike scanner := ⟨rfl, rfl⟩

theorem Alike.trans {third : Scanner} (h : scanner.Alike other) (hthird : other.Alike third) :
    scanner.Alike third :=
  ⟨h.1.trans hthird.1, h.2.trans hthird.2⟩

/-- **Answers depend on the place in the input alone,** not on what was read or taken back before. -/
theorem Alike.ask (h : scanner.Alike other) (query : Query) :
    (scanner.ask query).1 = (other.ask query).1 ∧
      (scanner.ask query).2.Alike (other.ask query).2 := by
  obtain ⟨tables, cursor, previous, delivered⟩ := scanner
  obtain ⟨tables', _, previous', delivered'⟩ := other
  obtain ⟨htables, rfl⟩ := h
  rw [ask_eq, ask_eq]
  by_cases hrest : cursor.rest = []
  · rw [next_stop hrest, next_stop hrest]
    exact ⟨rfl, htables, rfl⟩
  · have hsame : tables.longest? cursor.rest = tables'.longest? cursor.rest := congrFun htables _
    rcases hlongest : tables.longest? cursor.rest with _ | ⟨kind, length⟩
    · rw [next_none hrest hlongest, next_none hrest (hsame.symm.trans hlongest)]
      exact ⟨rfl, htables, rfl⟩
    · rw [next_token hrest hlongest, next_token hrest (hsame.symm.trans hlongest)]
      exact ⟨rfl, htables, rfl⟩

/-- Reading remembers the place before it. -/
theorem ask_scanner (scanner : Scanner) (query : Query) :
    (scanner.ask query).2.tables = scanner.tables ∧
      (scanner.ask query).2.previous = scanner.cursor := by
  rw [ask_eq]
  rcases scanner.next_cases with ⟨-, hnext⟩ | ⟨-, -, e, hnext⟩ | ⟨kind, length, -, -, hnext⟩ <;>
    rw [hnext] <;> exact ⟨rfl, rfl⟩

/-- **One `undo` takes back what a query moved,** whatever it answered. -/
theorem alike_undo_ask (scanner : Scanner) (query : Query) :
    ((scanner.ask query).2.call .undo).2.Alike scanner := by
  obtain ⟨htables, hprevious⟩ := scanner.ask_scanner query
  exact ⟨congrArg Tables.longest? htables, hprevious⟩

end Scanner

/-- A query, or a look ahead: a token that is read and taken back. -/
inductive Step where
  | query (query : Query)
  | peek
deriving DecidableEq, Repr

namespace Step

/-- The calls of a step. -/
def calls : Step → List Call
  | .query asked => [.query asked]
  | .peek => [.query .next, .undo]

/-- The queries alone. -/
def query? : Step → Option Call
  | .query asked => some (.query asked)
  | .peek => none

/-- What is answered to the queries, among the answers to all calls. -/
def answers {α : Type} : List Step → List α → List α
  | .query _ :: steps, answer :: all => answer :: answers steps all
  | .peek :: steps, _ :: _ :: all => answers steps all
  | _, _ => []

end Step

namespace Scanner

variable {scanner other : Scanner}

theorem Alike.run_peeks (h : scanner.Alike other) (steps : List Step) :
    Step.answers steps (scanner.run (steps.flatMap Step.calls)).1 =
        (other.run (steps.filterMap Step.query?)).1 ∧
      (scanner.run (steps.flatMap Step.calls)).2.Alike
        (other.run (steps.filterMap Step.query?)).2 := by
  induction steps generalizing scanner other with
  | nil => exact ⟨rfl, h⟩
  | cons step steps ih =>
    cases step with
    | query asked =>
      obtain ⟨hanswer, hafter⟩ := h.ask asked
      obtain ⟨hanswers, hlast⟩ := ih hafter
      have hfirst : ((scanner.ask asked).1, (scanner.ask asked).2.position) =
          ((other.ask asked).1, (other.ask asked).2.position) :=
        Prod.ext hanswer (congrArg Cursor.offset hafter.2)
      have hall := congr (congrArg List.cons hfirst) hanswers
      exact ⟨hall, hlast⟩
    | peek => exact ih ((scanner.alike_undo_ask .next).trans h)

/-- **Looking ahead is invisible.** Queries with any number of tokens read and taken back between them
are answered as without, and the position behind each is the same. One `undo` behind a query restores
the position before it, and the query asked again is answered again. -/
theorem peeks_invisible (scanner : Scanner) :
    (∀ steps : List Step,
      Step.answers steps (scanner.run (steps.flatMap Step.calls)).1 =
          (scanner.run (steps.filterMap Step.query?)).1 ∧
        (scanner.run (steps.flatMap Step.calls)).2.position =
          (scanner.run (steps.filterMap Step.query?)).2.position) ∧
    ∀ query : Query,
      let asked := scanner.call (.query query)
      let back := (asked.2.call .undo).2
      back.cursor = scanner.cursor ∧ (back.call (.query query)).1 = asked.1 ∧
        (back.call (.query query)).2.cursor = asked.2.cursor := by
  refine ⟨fun steps => ?_, fun query => ?_⟩
  · obtain ⟨hanswers, hlast⟩ := (Alike.refl scanner).run_peeks steps
    exact ⟨hanswers, congrArg Cursor.offset hlast.2⟩
  · have hback := scanner.alike_undo_ask query
    obtain ⟨hanswer, hafter⟩ := hback.ask query
    exact ⟨hback.2, hanswer, hafter.2⟩

end Scanner

end AttributeGrammar
