import AttributeGrammar.Description.Declaration
import AttributeGrammar.Proofs.Description.Quoting
import Mathlib.Tactic.Tauto

/-!
# What the readers of a line accept

* `Blanks`, `Stops` — the text between the parts of a line, and where a name ends.
* `Reader.spaces_eq_done`, `Reader.char_eq_done`, `identifier_eq_done`, `name_eq_done` — what the small
  readers accept, and what they leave.
* `IsIdentifier`, `Name.Valid` — the names that a line can hold.
* `ItemText` — an element of an alternative at the front of a text; `item_eq_done` says that these are
  just the elements that are read.
-/

set_option autoImplicit false

namespace AttributeGrammar.Description

open Reader

variable {α β : Type} {text rest : List Char}

/-- Spaces and tabs, possibly none. -/
def Blanks (gap : List Char) : Prop := ∀ c ∈ gap, isSpace c

theorem blanks_nil : Blanks [] := by simp [Blanks]

theorem blanks_space : Blanks [' '] := by simp [Blanks, isSpace]

/-- No character of a class comes first. -/
def StartsOutside (accepts : Char → Bool) (text : List Char) : Prop := ∀ c ∈ text.head?, accepts c = false

/-- A name ends before the text. -/
abbrev Stops (text : List Char) : Prop := StartsOutside isNamePart text

/-- A text is cut behind its first characters of a class. -/
theorem cut_iff {accepts : Char → Bool} {front : List Char} :
    text.takeWhile accepts = front ∧ text.dropWhile accepts = rest ↔
      text = front ++ rest ∧ (∀ c ∈ front, accepts c) ∧ StartsOutside accepts rest := by
  constructor
  · rintro ⟨rfl, rfl⟩
    refine ⟨List.takeWhile_append_dropWhile.symm, List.all_eq_true.mp List.all_takeWhile, fun c hc => ?_⟩
    have hhead := List.head?_dropWhile_not accepts text
    rw [Option.mem_def.mp hc] at hhead
    exact hhead
  · rintro ⟨rfl, hfront, hrest⟩
    rw [List.takeWhile_append_of_pos hfront, List.dropWhile_append_of_pos hfront]
    cases rest with
    | nil => simp
    | cons c rest =>
      have hc : accepts c = false := hrest c rfl
      simp [hc]

/-! ## Readers -/

namespace Reader

variable {p q : Reader α}

theorem bind_eq_done {f : α → Reader β} {b : β} :
    (p >>= f) text = .done b rest ↔ ∃ a mid, p text = .done a mid ∧ f a mid = .done b rest := by
  show Reader.bind p f text = _ ↔ _
  unfold Reader.bind
  cases p text with
  | done a mid =>
    constructor
    · exact fun h => ⟨a, mid, rfl, h⟩
    · rintro ⟨_, _, heq, h⟩
      cases heq
      exact h
  | reject kind place => simp
  | abort kind place => simp

theorem accept_eq_done {f : α → Option β} {b : β} :
    accept p f text = .done b rest ↔ ∃ a, p text = .done a rest ∧ f a = some b := by
  unfold accept
  cases p text with
  | done a mid => cases hf : f a <;> grind
  | reject kind place => simp
  | abort kind place => simp

theorem whole_eq_done {a : α} : whole p text = .done a rest ↔ p text = .done a [] ∧ rest = [] := by
  unfold whole
  rcases p text with ⟨b, _ | ⟨c, left⟩⟩ | ⟨kind, place⟩ | ⟨kind, place⟩
  · simp [eq_comm]
  all_goals simp

theorem whole_congr {text' : List Char} (h : p text = q text') : whole p text = whole q text' := by
  unfold whole
  rw [h]

theorem bind_of_done {f : α → Reader β} {a : α} (h : p text = .done a rest) : (p >>= f) text = f a rest := by
  show Reader.bind p f text = _
  rw [Reader.bind, h]

theorem map_eq_done {f : α → β} {b : β} :
    (f <$> p) text = .done b rest ↔ ∃ a, p text = .done a rest ∧ f a = b := by
  show (p >>= fun a => pure (f a)) text = _ ↔ _
  rw [bind_eq_done]
  constructor
  · rintro ⟨a, mid, hp, hpure⟩
    cases hpure
    exact ⟨a, hp, rfl⟩
  · rintro ⟨a, hp, rfl⟩
    exact ⟨a, rest, hp, rfl⟩

theorem discard_of_done {a : α} (h : p text = .done a rest) : discard p text = .done () rest := by
  show Reader.bind p _ text = _
  rw [Reader.bind, h]
  rfl

/-- The reader lets another one try. -/
def Rejects (p : Reader α) (text : List Char) : Prop := ∃ kind place, p text = .reject kind place

theorem Rejects.bind {f : α → Reader β} (h : Rejects p text) : Rejects (p >>= f) text := by
  obtain ⟨kind, place, h⟩ := h
  refine ⟨kind, place, ?_⟩
  show Reader.bind p f text = _
  rw [Reader.bind, h]

theorem Rejects.map {f : α → β} (h : Rejects p text) : Rejects (f <$> p) text :=
  Rejects.bind h

theorem orElse_of_rejects (h : Rejects p text) : p.orElse q text = q text := by
  obtain ⟨kind, place, h⟩ := h
  rw [Reader.orElse, h]

theorem orElse_of_done {a : α} (h : p text = .done a rest) : p.orElse q text = .done a rest := by
  rw [Reader.orElse, h]

theorem of_orElse_eq_done {a : α} (h : p.orElse q text = .done a rest) :
    p text = .done a rest ∨ q text = .done a rest := by
  unfold Reader.orElse at h
  split at h
  · exact .inr h
  · exact .inl h

theorem optional_of_done {a : α} (h : p text = .done a rest) : p.optional text = .done (some a) rest := by
  rw [Reader.optional, h]

theorem optional_of_rejects (h : Rejects p text) : p.optional text = .done none text := by
  obtain ⟨kind, place, h⟩ := h
  rw [Reader.optional, h]

theorem of_optional_eq_done {a : α} (h : p.optional text = .done (some a) rest) : p text = .done a rest := by
  unfold Reader.optional at h
  split at h <;> grind

theorem char_eq_done {c : Char} : char c text = .done () rest ↔ text = c :: rest := by
  unfold char
  cases text with
  | nil => simp
  | cons d text =>
    by_cases h : d = c
    · simp [h]
    · simp [h]

theorem rejects_char {c : Char} (h : text.head? ≠ some c) : Rejects (char c) text := by
  unfold char
  cases text with
  | nil => exact ⟨_, _, rfl⟩
  | cons d text =>
    have hd : d ≠ c := fun heq => h (congrArg some heq)
    exact ⟨_, _, if_neg hd⟩

/-- **Spaces are read up to what is none.** -/
theorem spaces_eq_done :
    spaces text = .done () rest ↔ ∃ gap, Blanks gap ∧ text = gap ++ rest ∧ StartsOutside isSpace rest := by
  simp only [spaces, Reading.done.injEq, true_and]
  constructor
  · intro h
    obtain ⟨htext, hgap, hrest⟩ := cut_iff.mp ⟨rfl, h⟩
    exact ⟨_, hgap, htext, hrest⟩
  · rintro ⟨gap, hgap, htext, hrest⟩
    exact (cut_iff.mpr ⟨htext, hgap, hrest⟩).2

theorem spaces_append {gap : List Char} (hgap : Blanks gap) (hrest : StartsOutside isSpace rest) :
    spaces (gap ++ rest) = .done () rest :=
  spaces_eq_done.mpr ⟨gap, hgap, rfl, hrest⟩

theorem spaces1_append {gap : List Char} (hgap : Blanks gap) (hne : gap ≠ [])
    (hrest : StartsOutside isSpace rest) : spaces1 (gap ++ rest) = .done () rest := by
  cases gap with
  | nil => exact absurd rfl hne
  | cons c gap =>
    have hspaces := spaces_append (fun d hd => hgap d (.tail c hd)) hrest
    simp only [List.cons_append, spaces1, hgap c (.head gap), if_true]
    exact hspaces

theorem takeWhile1_eq_done {accepts : Char → Bool} {kind : ReadKind} {taken : String} :
    takeWhile1 accepts kind text = .done taken rest ↔
      taken ≠ "" ∧ text = taken.toList ++ rest ∧ (∀ c ∈ taken.toList, accepts c) ∧
        StartsOutside accepts rest := by
  rw [← @cut_iff _ _ accepts]
  unfold takeWhile1
  split
  · rename_i hnil
    simp only [hnil, reduceCtorEq, false_iff, not_and]
    exact fun hne heq => absurd (String.toList_eq_nil_iff.mp heq.symm) hne
  · rename_i hne
    simp only [Reading.done.injEq]
    constructor
    · rintro ⟨rfl, rfl⟩
      simpa using hne
    · rintro ⟨-, htaken, rfl⟩
      rw [htaken, String.ofList_toList]
      exact ⟨rfl, rfl⟩

end Reader

/-! ## Names -/

/-- A name of letters, digits and underscores that starts with no digit. -/
def IsIdentifier (name : String) : Prop :=
  ∃ c rest, name.toList = c :: rest ∧ isNameStart c ∧ ∀ d ∈ rest, isNamePart d

theorem isNamePart_of_isNameStart {c : Char} (h : isNameStart c) : isNamePart c := by
  simp only [isNameStart, isNamePart, Bool.or_eq_true, decide_eq_true_eq] at h ⊢
  tauto

theorem IsIdentifier.isNamePart {name : String} (h : IsIdentifier name) :
    ∀ c ∈ name.toList, Description.isNamePart c := by
  obtain ⟨c, rest, hname, hc, hrest⟩ := h
  rw [hname]
  intro d hd
  rcases List.mem_cons.mp hd with rfl | hd
  · exact isNamePart_of_isNameStart hc
  · exact hrest d hd

theorem isIdentifier_of_isCased {inCase : Char → Bool} {name : String}
    (hcase : ∀ c, inCase c → Text.isAsciiLetter c) (h : isCased inCase name) : IsIdentifier name := by
  unfold isCased at h
  split at h
  · rename_i c rest hname
    simp only [Bool.and_eq_true, List.all_eq_true, Bool.or_eq_true, decide_eq_true_eq] at h
    refine ⟨c, rest, hname, ?_, fun d hd => ?_⟩
    · simp [isNameStart, hcase c h.1]
    · simp only [Description.isNamePart, Bool.or_eq_true, decide_eq_true_eq]
      rcases h.2 d hd with (hd | hd) | hd
      · exact .inl (.inl (hcase d hd))
      · exact .inl (.inr hd)
      · exact .inr hd
  · cases h

theorem exists_cons_of_isCased {inCase : Char → Bool} {name : String} (h : isCased inCase name) :
    ∃ c more, name.toList = c :: more ∧ inCase c := by
  unfold isCased at h
  split at h
  · rename_i c more hname
    simp only [Bool.and_eq_true] at h
    exact ⟨c, more, hname, h.1⟩
  · cases h

theorem isIdentifier_of_isRuleName {name : String} (h : isRuleName name) : IsIdentifier name :=
  isIdentifier_of_isCased (fun c hc => by simp [Text.isAsciiLetter, hc]) h

theorem isIdentifier_of_isRegexName {name : String} (h : isRegexName name) : IsIdentifier name :=
  isIdentifier_of_isCased (fun c hc => by simp [Text.isAsciiLetter, hc]) h

/-- **An identifier is read to its end.** -/
theorem identifier_eq_done {name : String} :
    identifier text = .done name rest ↔ IsIdentifier name ∧ text = name.toList ++ rest ∧ Stops rest := by
  unfold identifier
  constructor
  · intro h
    split at h
    · rename_i c text
      split at h
      · rename_i hc
        cases h
        obtain ⟨htext, hfront, hrest⟩ := (@cut_iff _ _ isNamePart _).mp ⟨rfl, rfl⟩
        refine ⟨⟨c, _, String.toList_ofList, hc, hfront⟩, ?_, hrest⟩
        rw [String.toList_ofList, List.cons_append, ← htext]
      · cases h
    · cases h
  · rintro ⟨⟨c, front, hname, hc, hfront⟩, rfl, hrest⟩
    obtain ⟨htake, hdrop⟩ := cut_iff.mpr ⟨rfl, hfront, hrest⟩
    rw [hname, List.cons_append]
    dsimp only
    rw [if_pos hc, htake, hdrop, ← hname, String.ofList_toList]

theorem identifier_append {name : String} (hname : IsIdentifier name) (hrest : Stops rest) :
    identifier (name.toList ++ rest) = .done name rest :=
  identifier_eq_done.mpr ⟨hname, rfl, hrest⟩

theorem not_isAsciiLower_of_isAsciiUpper {c : Char} (h : Text.isAsciiUpper c) : ¬Text.isAsciiLower c := by
  intro hlower
  simp only [Text.isAsciiUpper, Text.isAsciiLower, Bool.and_eq_true, decide_eq_true_eq, Char.le_def,
    UInt32.le_iff_toNat_le] at h hlower
  have hle := Nat.le_trans hlower.1 h.2
  exact absurd hle (by decide)

namespace Name

/-- The characters of a name. -/
def chars : Name → List Char
  | .rule name | .regex name => name.toList

/-- The name is of its class. -/
def Valid : Name → Prop
  | .rule name => isRuleName name
  | .regex name => isRegexName name

theorem Valid.exists_chars {name : Name} (h : name.Valid) :
    ∃ word, IsIdentifier word ∧ name.chars = word.toList := by
  cases name with
  | rule word => exact ⟨word, isIdentifier_of_isRuleName h, rfl⟩
  | regex word => exact ⟨word, isIdentifier_of_isRegexName h, rfl⟩

/-- No name is of both classes. -/
theorem not_isRuleName_of_isRegexName {word : String} (h : isRegexName word) : ¬isRuleName word := by
  unfold isRuleName isRegexName isCased at *
  split at h
  · simp only [Bool.and_eq_true] at h ⊢
    exact fun hrule => not_isAsciiLower_of_isAsciiUpper h.1 hrule.1
  · cases h

theorem classify_eq_some {word : String} {name : Name} :
    classify word = some name ↔ name.chars = word.toList ∧ name.Valid := by
  unfold classify
  cases name with
  | rule other =>
    simp only [chars, Valid, String.toList_inj]
    constructor
    · intro h
      split at h
      · rename_i hword
        cases h
        exact ⟨rfl, hword⟩
      · split at h <;> cases h
    · rintro ⟨rfl, hrule⟩
      exact if_pos hrule
  | regex other =>
    simp only [chars, Valid, String.toList_inj]
    constructor
    · intro h
      split at h
      · cases h
      · split at h
        · rename_i hword
          cases h
          exact ⟨rfl, hword⟩
        · cases h
    · rintro ⟨rfl, hregex⟩
      rw [if_neg (not_isRuleName_of_isRegexName hregex), if_pos hregex]

end Name

/-- **A name is read to its end,** if it is of a class. -/
theorem name_eq_done {read : Name} :
    name text = .done read rest ↔ read.Valid ∧ text = read.chars ++ rest ∧ Stops rest := by
  unfold name
  simp only [accept_eq_done, Name.classify_eq_some, identifier_eq_done]
  constructor
  · rintro ⟨word, ⟨-, rfl, hrest⟩, hchars, hvalid⟩
    exact ⟨hvalid, by rw [hchars], hrest⟩
  · rintro ⟨hvalid, rfl, hrest⟩
    obtain ⟨word, hword, hchars⟩ := hvalid.exists_chars
    exact ⟨word, ⟨hword, by rw [hchars], hrest⟩, hchars, hvalid⟩

theorem ruleName_eq_done {read : String} :
    ruleName text = .done read rest ↔ isRuleName read ∧ text = read.toList ++ rest ∧ Stops rest := by
  unfold ruleName
  rw [accept_eq_done]
  constructor
  · rintro ⟨found, hname, hfound⟩
    cases found with
    | rule word =>
      cases hfound
      exact name_eq_done.mp hname
    | regex word => cases hfound
  · exact fun h => ⟨.rule read, name_eq_done.mpr h, rfl⟩

theorem regexName_eq_done {read : String} :
    regexName text = .done read rest ↔ isRegexName read ∧ text = read.toList ++ rest ∧ Stops rest := by
  unfold regexName
  rw [accept_eq_done]
  constructor
  · rintro ⟨found, hname, hfound⟩
    cases found with
    | rule word => cases hfound
    | regex word =>
      cases hfound
      exact name_eq_done.mp hname
  · exact fun h => ⟨.regex read, name_eq_done.mpr h, rfl⟩

/-! ## Elements of an alternative -/

/-- What an assignment takes, at the front of a text. -/
inductive SourceText (var : String) : Item → List Char → List Char → Prop where
  | literal {literal : String} {body rest : List Char} :
      Body false body literal.toList rest → literal ≠ "" →
      SourceText var (.assignText var literal) ('\'' :: body) rest
  | name {name : Name} {rest : List Char} :
      name.Valid → Stops rest → SourceText var (name.toAssignment var) (name.chars ++ rest) rest

/-- An element of an alternative, at the front of a text. -/
inductive ItemText : Item → List Char → List Char → Prop where
  | literal {literal : String} {body rest : List Char} :
      Body false body literal.toList rest → literal ≠ "" →
      ItemText (.text literal) ('\'' :: body) rest
  | name {name : Name} {rest : List Char} :
      name.Valid → Stops rest → ItemText name.toItem (name.chars ++ rest) rest
  | action {name : String} {rest : List Char} :
      IsIdentifier name → Stops rest → ItemText (.action name) ('$' :: (name.toList ++ rest)) rest
  | assignment {var : String} {item : Item} {gap gap' gap'' last source rest : List Char} :
      IsIdentifier var → Blanks gap → Blanks gap' → Blanks gap'' → Blanks last →
      SourceText var item source (last ++ ')' :: rest) →
      ItemText item ('(' :: (gap ++ (var.toList ++ (gap' ++ '=' :: (gap'' ++ source))))) rest

theorem Blanks.startsOutside {accepts : Char → Bool} {gap : List Char} {c : Char} (hgap : Blanks gap)
    (hspace : ∀ d, isSpace d → accepts d = false) (hc : accepts c = false) :
    StartsOutside accepts (gap ++ c :: text) := by
  cases gap with
  | nil =>
    intro d hd
    cases hd
    exact hc
  | cons d gap =>
    intro e he
    cases he
    exact hspace d (hgap d (.head gap))

theorem not_isNamePart_of_isSpace {c : Char} (h : isSpace c) : isNamePart c = false := by
  simp only [isSpace, Bool.or_eq_true, decide_eq_true_eq] at h
  rcases h with rfl | rfl <;> decide

theorem not_isTypePart_of_isSpace {c : Char} (h : isSpace c) : isTypePart c = false := by
  simp only [isSpace, Bool.or_eq_true, decide_eq_true_eq] at h
  rcases h with rfl | rfl <;> rfl

theorem not_isSpace_of_isNamePart {c : Char} (h : isNamePart c) : isSpace c = false := by
  cases hspace : isSpace c with
  | false => rfl
  | true => rw [not_isNamePart_of_isSpace hspace] at h; cases h

theorem IsIdentifier.startsOutside {name : String} (h : IsIdentifier name) :
    StartsOutside isSpace (name.toList ++ text) := by
  obtain ⟨c, rest, hname, hc, -⟩ := h
  rw [hname]
  intro d hd
  cases hd
  exact not_isSpace_of_isNamePart (isNamePart_of_isNameStart hc)

theorem SourceText.startsOutside {var : String} {item : Item} (h : SourceText var item text rest) :
    StartsOutside isSpace text := by
  cases h with
  | literal _ _ =>
    intro c hc
    cases hc
    rfl
  | name hname _ =>
    obtain ⟨word, hword, hchars⟩ := hname.exists_chars
    rw [hchars]
    exact hword.startsOutside

/-- A name does not start as the other elements do. -/
theorem Name.Valid.head?_ne {name : Name} (h : name.Valid) {c : Char} (hc : isNamePart c = false) :
    (name.chars ++ text).head? ≠ some c := by
  obtain ⟨word, ⟨d, rest, hword, hd, -⟩, hchars⟩ := h.exists_chars
  rw [hchars, hword]
  intro heq
  cases heq
  rw [isNamePart_of_isNameStart hd] at hc
  cases hc

theorem rejects_literal (h : text.head? ≠ some '\'') : Rejects literal text := by
  show ∃ kind place, quoted false text = .reject kind place
  unfold quoted
  split
  · simp at h
  · exact ⟨_, _, rfl⟩

theorem source_eq_done {var : String} {item : Item} :
    Reader.orElse (Item.assignText var <$> literal) (Name.toAssignment var <$> name) text = .done item rest ↔
      SourceText var item text rest := by
  constructor
  · intro h
    rcases of_orElse_eq_done h with h | h
    · obtain ⟨read, hread, rfl⟩ := map_eq_done.mp h
      obtain ⟨body, rfl, hbody, hne⟩ := quoted_eq_done.mp hread
      exact .literal hbody hne
    · obtain ⟨read, hread, rfl⟩ := map_eq_done.mp h
      obtain ⟨hvalid, rfl, hrest⟩ := name_eq_done.mp hread
      exact .name hvalid hrest
  · intro h
    cases h with
    | literal hbody hne =>
      exact orElse_of_done (map_eq_done.mpr ⟨_, quoted_eq_done.mpr ⟨_, rfl, hbody, hne⟩, rfl⟩)
    | name hvalid hrest =>
      rw [orElse_of_rejects (rejects_literal (hvalid.head?_ne rfl)).map]
      exact map_eq_done.mpr ⟨_, name_eq_done.mpr ⟨hvalid, rfl, hrest⟩, rfl⟩

theorem assignment_eq_done {item : Item} :
    assignment text = .done item rest ↔ ∃ var gap gap' gap'' last source,
      text = '(' :: (gap ++ (var.toList ++ (gap' ++ '=' :: (gap'' ++ source)))) ∧ IsIdentifier var ∧
        Blanks gap ∧ Blanks gap' ∧ Blanks gap'' ∧ Blanks last ∧
        SourceText var item source (last ++ ')' :: rest) := by
  constructor
  · intro h
    obtain ⟨_, _, hopen, h⟩ := bind_eq_done.mp h
    obtain ⟨_, _, hfirst, h⟩ := bind_eq_done.mp h
    obtain ⟨var, _, hname, h⟩ := bind_eq_done.mp h
    obtain ⟨_, _, hsecond, h⟩ := bind_eq_done.mp h
    obtain ⟨_, _, hequals, h⟩ := bind_eq_done.mp h
    obtain ⟨_, _, hthird, h⟩ := bind_eq_done.mp h
    obtain ⟨read, _, hsource, h⟩ := bind_eq_done.mp h
    obtain ⟨_, _, hfourth, h⟩ := bind_eq_done.mp h
    obtain ⟨_, _, hclose, h⟩ := bind_eq_done.mp h
    cases h
    obtain rfl := char_eq_done.mp hopen
    obtain ⟨gap, hgap, rfl, -⟩ := spaces_eq_done.mp hfirst
    obtain ⟨hvar, rfl, -⟩ := identifier_eq_done.mp hname
    obtain ⟨gap', hgap', rfl, -⟩ := spaces_eq_done.mp hsecond
    obtain rfl := char_eq_done.mp hequals
    obtain ⟨gap'', hgap'', rfl, -⟩ := spaces_eq_done.mp hthird
    obtain ⟨last, hlast, rfl, -⟩ := spaces_eq_done.mp hfourth
    obtain rfl := char_eq_done.mp hclose
    exact ⟨var, gap, gap', gap'', last, _, rfl, hvar, hgap, hgap', hgap'', hlast, source_eq_done.mp hsource⟩
  · rintro ⟨var, gap, gap', gap'', last, source, rfl, hvar, hgap, hgap', hgap'', hlast, hsource⟩
    have hequals : Stops (gap' ++ '=' :: (gap'' ++ source)) :=
      hgap'.startsOutside (fun _ => not_isNamePart_of_isSpace) rfl
    refine (bind_of_done (char_eq_done.mpr rfl)).trans ?_
    refine (bind_of_done (spaces_append hgap hvar.startsOutside)).trans ?_
    refine (bind_of_done (identifier_append hvar hequals)).trans ?_
    refine (bind_of_done (spaces_append hgap' fun c hc => by cases hc; rfl)).trans ?_
    refine (bind_of_done (char_eq_done.mpr rfl)).trans ?_
    refine (bind_of_done (spaces_append hgap'' hsource.startsOutside)).trans ?_
    refine (bind_of_done (source_eq_done.mpr hsource)).trans ?_
    refine (bind_of_done (spaces_append hlast fun c hc => by cases hc; rfl)).trans ?_
    exact bind_of_done (char_eq_done.mpr rfl)

theorem actionCall_eq_done {item : Item} :
    actionCall text = .done item rest ↔
      ∃ name, item = .action name ∧ IsIdentifier name ∧ text = '$' :: (name.toList ++ rest) ∧ Stops rest := by
  constructor
  · intro h
    obtain ⟨_, _, hdollar, h⟩ := bind_eq_done.mp h
    obtain ⟨name, hread, rfl⟩ := map_eq_done.mp h
    obtain rfl := char_eq_done.mp hdollar
    obtain ⟨hname, rfl, hrest⟩ := identifier_eq_done.mp hread
    exact ⟨name, rfl, hname, rfl, hrest⟩
  · rintro ⟨name, rfl, hname, rfl, hrest⟩
    refine (bind_of_done (char_eq_done.mpr rfl)).trans ?_
    exact map_eq_done.mpr ⟨name, identifier_append hname hrest, rfl⟩

theorem rejects_assignment (h : text.head? ≠ some '(') : Rejects assignment text :=
  (rejects_char h).bind

theorem rejects_actionCall (h : text.head? ≠ some '$') : Rejects actionCall text :=
  (rejects_char h).bind

/-- **The elements that are read** are those of the description's syntax. -/
theorem item_eq_done {read : Item} : item text = .done read rest ↔ ItemText read text rest := by
  unfold item
  constructor
  · intro h
    rcases of_orElse_eq_done h with h | h
    · obtain ⟨var, gap, gap', gap'', last, source, rfl, hvar, hgap, hgap', hgap'', hlast, hsource⟩ :=
        assignment_eq_done.mp h
      exact .assignment hvar hgap hgap' hgap'' hlast hsource
    rcases of_orElse_eq_done h with h | h
    · obtain ⟨name, rfl, hname, rfl, hrest⟩ := actionCall_eq_done.mp h
      exact .action hname hrest
    rcases of_orElse_eq_done h with h | h
    · obtain ⟨literal, hliteral, rfl⟩ := map_eq_done.mp h
      obtain ⟨body, rfl, hbody, hne⟩ := quoted_eq_done.mp hliteral
      exact .literal hbody hne
    · obtain ⟨name, hname, rfl⟩ := map_eq_done.mp h
      obtain ⟨hvalid, rfl, hrest⟩ := name_eq_done.mp hname
      exact .name hvalid hrest
  · intro h
    cases h with
    | assignment hvar hgap hgap' hgap'' hlast hsource =>
      exact orElse_of_done
        (assignment_eq_done.mpr ⟨_, _, _, _, _, _, rfl, hvar, hgap, hgap', hgap'', hlast, hsource⟩)
    | action hname hrest =>
      rw [orElse_of_rejects (rejects_assignment (by simp))]
      exact orElse_of_done (actionCall_eq_done.mpr ⟨_, rfl, hname, rfl, hrest⟩)
    | literal hbody hne =>
      rw [orElse_of_rejects (rejects_assignment (by simp)), orElse_of_rejects (rejects_actionCall (by simp))]
      exact orElse_of_done (map_eq_done.mpr ⟨_, quoted_eq_done.mpr ⟨_, rfl, hbody, hne⟩, rfl⟩)
    | name hvalid hrest =>
      rw [orElse_of_rejects (rejects_assignment (hvalid.head?_ne rfl)),
        orElse_of_rejects (rejects_actionCall (hvalid.head?_ne rfl)),
        orElse_of_rejects (rejects_literal (hvalid.head?_ne rfl)).map]
      exact map_eq_done.mpr ⟨_, name_eq_done.mpr ⟨hvalid, rfl, hrest⟩, rfl⟩

/-- No element starts with a blank. -/
theorem ItemText.startsOutside {read : Item} (h : ItemText read text rest) :
    StartsOutside isSpace text := by
  cases h with
  | name hname _ =>
    obtain ⟨word, hword, hchars⟩ := hname.exists_chars
    rw [hchars]
    exact hword.startsOutside
  | _ =>
    intro c hc
    cases hc
    rfl

theorem Name.Valid.length_pos {name : Name} (h : name.Valid) : 0 < name.chars.length := by
  obtain ⟨word, ⟨c, rest, hword, -⟩, hchars⟩ := h.exists_chars
  rw [hchars, hword]
  exact Nat.succ_pos _

theorem SourceText.length_lt {var : String} {item : Item} (h : SourceText var item text rest) :
    rest.length < text.length := by
  cases h with
  | literal hbody _ => exact Nat.lt_succ_of_lt hbody.length_lt
  | name hname _ =>
    have := hname.length_pos
    simp only [List.length_append]
    omega

/-- Every element takes something off the text. -/
theorem ItemText.length_lt {read : Item} (h : ItemText read text rest) : rest.length < text.length := by
  cases h with
  | literal hbody _ => exact Nat.lt_succ_of_lt hbody.length_lt
  | name hname _ =>
    have := hname.length_pos
    simp only [List.length_append]
    omega
  | action _ _ =>
    simp only [List.length_cons, List.length_append]
    omega
  | assignment _ _ _ _ _ hsource =>
    have := hsource.length_lt
    simp only [List.length_cons, List.length_append] at this ⊢
    omega

end AttributeGrammar.Description
