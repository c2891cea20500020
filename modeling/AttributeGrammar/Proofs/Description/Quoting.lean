import AttributeGrammar.Description.Quoted

/-!
# Quoted text, written and read

* `EscapedAs`, `Escaped` — the ways to write a text between quotes with escapes.
* `Body` — the ways in which the text up to a closing quote is read; `quoted_eq_done` ties them to the
  reader.
* `Escaped.body` — what is written with escapes is read back.
* `Verbatim` — the texts that are read back when they are written as they are; `Body.verbatim` says
  that no others are, whatever follows the quote, and `verbatim_literal_iff` and `verbatim_pattern_iff` which
  texts they are.
-/

set_option autoImplicit false

namespace AttributeGrammar.Description

variable {keepUnknown : Bool} {text value rest : List Char}

/-! ## Writing with escapes -/

/-- The letter that stands for a character behind a backslash. -/
inductive EscapedAs : Char → Char → Prop where
  | newline : EscapedAs '\n' 'n'
  | carriageReturn : EscapedAs '\r' 'r'
  | tab : EscapedAs '\t' 't'
  | quote : EscapedAs '\'' '\''
  | doubleQuote : EscapedAs '"' '"'
  | backslash : EscapedAs '\\' '\\'

/-- A text and a way to write it between quotes: the quote and the backslash are escaped, and what else
has an escape may be. -/
inductive Escaped : List Char → List Char → Prop where
  | nil : Escaped [] []
  | plain {c : Char} {value text : List Char} :
      c ≠ '\'' → c ≠ '\\' → Escaped value text → Escaped (c :: value) (c :: text)
  | escape {c letter : Char} {value text : List Char} :
      EscapedAs c letter → Escaped value text → Escaped (c :: value) ('\\' :: letter :: text)

theorem EscapedAs.unescape? {c letter : Char} (h : EscapedAs c letter) : unescape? letter = some c := by
  cases h <;> rfl

theorem unescape?_eq_backslash {c : Char} (h : unescape? c = some '\\') : c = '\\' := by
  unfold Description.unescape? at h
  split at h <;> simp_all

/-! ## Reading up to the closing quote -/

/-- A text is read up to its closing quote: what it stands for, and what is left behind the quote. -/
inductive Body (keepUnknown : Bool) : List Char → List Char → List Char → Prop where
  | stop (rest : List Char) : Body keepUnknown ('\'' :: rest) [] rest
  | plain {c : Char} {text value rest : List Char} :
      c ≠ '\'' → c ≠ '\\' → Body keepUnknown text value rest →
      Body keepUnknown (c :: text) (c :: value) rest
  | escape {c d : Char} {text value rest : List Char} :
      unescape? c = some d → Body keepUnknown text value rest →
      Body keepUnknown ('\\' :: c :: text) (d :: value) rest
  | kept {c : Char} {text value rest : List Char} :
      keepUnknown = true → unescape? c = none → Body keepUnknown text value rest →
      Body keepUnknown ('\\' :: c :: text) ('\\' :: c :: value) rest

theorem prepend_eq_done {front : List Char} {reading : Reading (List Char)} :
    quotedBody.prepend front reading = .done value rest ↔
      ∃ body, reading = .done body rest ∧ value = front ++ body := by
  cases reading with
  | done body left =>
    simp only [quotedBody.prepend, Reading.done.injEq]
    constructor
    · rintro ⟨rfl, rfl⟩
      exact ⟨body, ⟨rfl, rfl⟩, rfl⟩
    · rintro ⟨_, ⟨rfl, rfl⟩, rfl⟩
      exact ⟨rfl, rfl⟩
  | reject kind place => simp [quotedBody.prepend]
  | abort kind place => simp [quotedBody.prepend]

theorem quotedBody_of_body {input : List Char} (h : Body keepUnknown text value rest) :
    quotedBody keepUnknown input text = .done value rest := by
  induction h with
  | stop rest => rfl
  | plain hquote hbackslash _ ih =>
    rw [quotedBody.eq_5 _ _ _ _ hquote (fun h => absurd h hbackslash) (fun _ _ h => absurd h hbackslash), ih]
    rfl
  | escape hescape _ ih =>
    rw [quotedBody.eq_4, hescape, ih]
    rfl
  | kept hkeep hunknown _ ih =>
    rw [quotedBody.eq_4, hunknown, ih, hkeep]
    rfl

theorem body_of_quotedBody {input : List Char}
    (h : quotedBody keepUnknown input text = .done value rest) : Body keepUnknown text value rest := by
  induction text using quotedBody.induct keepUnknown generalizing value with
  | case1 => cases h
  | case2 left =>
    cases h
    exact .stop rest
  | case3 => cases h
  | case4 c text d hescape ih =>
    rw [quotedBody.eq_4, hescape] at h
    obtain ⟨body, hbody, rfl⟩ := prepend_eq_done.mp h
    exact .escape hescape (ih hbody)
  | case5 c text hunknown hkeep ih =>
    rw [quotedBody.eq_4, hunknown] at h
    dsimp only at h
    rw [if_pos hkeep] at h
    obtain ⟨body, hbody, rfl⟩ := prepend_eq_done.mp h
    exact .kept hkeep hunknown (ih hbody)
  | case6 c text hunknown hkeep =>
    rw [quotedBody.eq_4, hunknown] at h
    dsimp only at h
    rw [if_neg hkeep] at h
    cases h
  | case7 c text hquote hlast hmore ih =>
    rw [quotedBody.eq_5 _ _ _ _ hquote hlast hmore] at h
    obtain ⟨body, hbody, rfl⟩ := prepend_eq_done.mp h
    refine .plain hquote (fun hbackslash => ?_) (ih hbody)
    cases text with
    | nil => exact hlast hbackslash rfl
    | cons d text => exact hmore d text hbackslash rfl

/-- **Quoted text is read as its body is,** and must not be empty. -/
theorem quoted_eq_done {read : String} :
    quoted keepUnknown text = .done read rest ↔
      ∃ body, text = '\'' :: body ∧ Body keepUnknown body read.toList rest ∧ read ≠ "" := by
  constructor
  · intro h
    unfold quoted at h
    split at h
    · rename_i body
      cases hbody : quotedBody keepUnknown ('\'' :: body) body with
      | done value left =>
        rw [hbody] at h
        cases value with
        | nil => cases h
        | cons c value =>
          cases h
          rw [String.toList_ofList]
          exact ⟨body, rfl, body_of_quotedBody hbody, by simp⟩
      | reject kind place => rw [hbody] at h; cases h
      | abort kind place => rw [hbody] at h; cases h
    · cases h
  · rintro ⟨body, rfl, hbody, hne⟩
    simp only [quoted, quotedBody_of_body hbody]
    cases hread : read.toList with
    | nil => exact absurd (String.toList_eq_nil_iff.mp hread) hne
    | cons c value =>
      show Reading.done (String.ofList (c :: value)) rest = _
      rw [← hread, String.ofList_toList]

theorem Body.length_lt (h : Body keepUnknown text value rest) : rest.length < text.length := by
  induction h with
  | stop => simp
  | _ => simp only [List.length_cons]; omega

/-- What is written with escapes is read back. -/
theorem Escaped.body (h : Escaped value text) (rest : List Char) :
    Body keepUnknown (text ++ '\'' :: rest) value rest := by
  induction h with
  | nil => exact .stop rest
  | plain hquote hbackslash _ ih => exact .plain hquote hbackslash ih
  | escape hescaped _ ih => exact .escape hescaped.unescape? ih

/-! ## Writing without escapes -/

/-- A text that may be written between quotes as it is. -/
inductive Verbatim (keepUnknown : Bool) : List Char → Prop where
  | nil : Verbatim keepUnknown []
  | plain {c : Char} {text : List Char} :
      c ≠ '\'' → c ≠ '\\' → Verbatim keepUnknown text → Verbatim keepUnknown (c :: text)
  | kept {c : Char} {text : List Char} :
      keepUnknown = true → unescape? c = none → Verbatim keepUnknown text →
      Verbatim keepUnknown ('\\' :: c :: text)

/-- The characters behind backslashes, each backslash paired with what follows it, from left to right. -/
def escapedChars : List Char → List Char
  | '\\' :: c :: rest => c :: escapedChars rest
  | _ :: rest => escapedChars rest
  | [] => []

theorem unescape?_eq_none {c : Char} : unescape? c = none ↔ c ∉ ['n', 'r', 't', '\'', '"', '\\'] := by
  unfold unescape?
  split <;> simp_all

/-- A literal may be written as it is if it has no quote and no backslash. -/
theorem verbatim_literal_iff : Verbatim false text ↔ '\'' ∉ text ∧ '\\' ∉ text := by
  constructor
  · intro h
    induction h with
    | nil => simp
    | plain hquote hbackslash _ ih => simp [Ne.symm hquote, Ne.symm hbackslash, ih]
    | kept hkeep _ _ _ => cases hkeep
  · rintro ⟨hquote, hbackslash⟩
    induction text with
    | nil => exact .nil
    | cons c text ih =>
      rw [List.mem_cons, not_or] at hquote hbackslash
      exact .plain (Ne.symm hquote.1) (Ne.symm hbackslash.1) (ih hquote.2 hbackslash.2)

/-- A pattern may be written as it is if it has no quote, and no backslash at its end or before a character
that would make an escape with it. -/
theorem verbatim_pattern_iff :
    Verbatim true text ↔
      '\'' ∉ text ∧ text.getLast? ≠ some '\\' ∧ ∀ c ∈ escapedChars text, unescape? c = none := by
  constructor
  · intro h
    induction h with
    | nil => simp [escapedChars]
    | @plain c text hquote hbackslash _ ih =>
      obtain ⟨hquotes, hlast, hescaped⟩ := ih
      refine ⟨by simp [Ne.symm hquote, hquotes], ?_, ?_⟩
      · rw [List.getLast?_cons]
        cases htext : text.getLast? with
        | none => simpa using hbackslash
        | some d => simpa [htext] using hlast
      · rwa [escapedChars.eq_2 _ _ fun _ _ heq => absurd heq hbackslash]
    | @kept c text _ hunknown _ ih =>
      obtain ⟨hquotes, hlast, hescaped⟩ := ih
      have hc := unescape?_eq_none.mp hunknown
      simp only [List.mem_cons, List.not_mem_nil, or_false, not_or] at hc
      refine ⟨by simp [hquotes, Ne.symm hc.2.2.2.1], ?_, ?_⟩
      · rw [List.getLast?_cons_cons, List.getLast?_cons]
        cases htext : text.getLast? with
        | none => simpa using hc.2.2.2.2.2
        | some d => simpa [htext] using hlast
      · rw [escapedChars]
        exact List.forall_mem_cons.mpr ⟨hunknown, hescaped⟩
  · rintro ⟨hquotes, hlast, hescaped⟩
    induction text using escapedChars.induct with
    | case1 c text ih =>
      rw [escapedChars] at hescaped
      obtain ⟨hunknown, hescaped⟩ := List.forall_mem_cons.mp hescaped
      simp only [List.mem_cons, not_or] at hquotes
      refine .kept rfl hunknown (ih hquotes.2.2 (fun htext => hlast ?_) hescaped)
      rw [List.getLast?_cons_cons, List.getLast?_cons, htext]
      rfl
    | case2 c text hpaired ih =>
      rw [escapedChars.eq_2 _ _ hpaired] at hescaped
      rw [List.mem_cons, not_or] at hquotes
      have hbackslash : c ≠ '\\' := by
        rintro rfl
        cases text with
        | nil => exact hlast rfl
        | cons d text => exact hpaired d text rfl rfl
      refine .plain (Ne.symm hquotes.1) hbackslash (ih hquotes.2 (fun htext => hlast ?_) hescaped)
      rw [List.getLast?_cons, htext]
      rfl
    | case3 => exact .nil

/-- What may be written as it is needs no escapes. -/
theorem Verbatim.escaped (h : Verbatim false text) : Escaped text text := by
  induction h with
  | nil => exact .nil
  | plain hquote hbackslash _ ih => exact .plain hquote hbackslash ih
  | kept hkeep _ _ _ => cases hkeep

theorem Verbatim.body (h : Verbatim keepUnknown value) (rest : List Char) :
    Body keepUnknown (value ++ '\'' :: rest) value rest := by
  induction h with
  | nil => exact .stop rest
  | plain hquote hbackslash _ ih => exact .plain hquote hbackslash ih
  | kept hkeep hunknown _ ih => exact .kept hkeep hunknown ih

/-- A reading that lags behind by some backslashes never catches up: each of them takes two of those that
are written. -/
theorem Body.not_lagging {written more : List Char} {lag : Nat} (h : Body keepUnknown text value rest)
    (htext : text <+: written ++ '\'' :: more) :
    value ≠ List.replicate (lag + 1) '\\' ++ written := by
  induction h generalizing written lag with
  | stop => simp [List.replicate_succ]
  | plain _ hbackslash _ _ =>
    rw [List.replicate_succ, List.cons_append]
    exact fun heq => hbackslash (List.cons.inj heq).1
  | @escape c d text value rest hescape _ ih =>
    rw [List.replicate_succ, List.cons_append]
    intro heq
    obtain ⟨rfl, htail⟩ := List.cons.inj heq
    obtain rfl := unescape?_eq_backslash hescape
    match written, htext with
    | [], htext => simp at htext
    | [w], htext => simp at htext
    | w :: x :: written, htext =>
      simp only [List.cons_append, List.cons_prefix_cons] at htext
      obtain ⟨rfl, rfl, htext⟩ := htext
      refine @ih written (lag + 1) htext ?_
      rw [htail, List.replicate_succ', List.replicate_succ']
      simp
  | @kept c text value rest _ hunknown _ _ =>
    rw [List.replicate_succ, List.cons_append]
    intro heq
    have htail := (List.cons.inj heq).2
    have hc : c ≠ '\\' := by
      rintro rfl
      simp [unescape?] at hunknown
    cases lag with
    | succ lag =>
      rw [List.replicate_succ, List.cons_append] at htail
      exact hc (List.cons.inj htail).1
    | zero =>
      obtain rfl : c :: value = written := by simpa using htail
      rw [List.cons_append, List.cons_prefix_cons] at htext
      exact hc htext.1.symm

/-- **Only a verbatim text is read back from itself.** Where the reading takes a quote or a backslash
otherwise than it was meant, nothing that follows makes up for it. -/
theorem Body.verbatim {more : List Char} (h : Body keepUnknown text value rest)
    (htext : text <+: value ++ '\'' :: more) :
    Verbatim keepUnknown value ∧ text = value ++ '\'' :: rest := by
  induction h with
  | stop rest => exact ⟨.nil, rfl⟩
  | plain hquote hbackslash _ ih =>
    rw [List.cons_append, List.cons_prefix_cons] at htext
    obtain ⟨hvalue, rfl⟩ := ih htext.2
    exact ⟨.plain hquote hbackslash hvalue, rfl⟩
  | @escape c d text value rest hescape hbody _ =>
    exfalso
    rw [List.cons_append, List.cons_prefix_cons] at htext
    obtain ⟨rfl, htext⟩ := htext
    obtain rfl := unescape?_eq_backslash hescape
    cases value with
    | nil => simp at htext
    | cons w value =>
      rw [List.cons_append, List.cons_prefix_cons] at htext
      obtain ⟨rfl, htext⟩ := htext
      exact @Body.not_lagging _ _ _ _ value more 0 hbody htext rfl
  | kept hkeep hunknown _ ih =>
    simp only [List.cons_append, List.cons_prefix_cons, true_and] at htext
    obtain ⟨hvalue, rfl⟩ := ih htext
    exact ⟨.kept hkeep hunknown hvalue, rfl⟩

end AttributeGrammar.Description
