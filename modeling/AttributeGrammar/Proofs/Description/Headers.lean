import AttributeGrammar.Description.Document
import AttributeGrammar.Proofs.Description.Display

/-!
# How far the header of an action is read

* `Reader.Local` — readers that look at one character behind what they take.
* `Reader.Closed` — readers that do not even look at that one.
* `closed_variableList`, `closed_actionHeader` — a list of variables and a header of an action end where their
  last bracket or brace is.
* `trim_of_actionHeader` — a line that starts with a header has a dollar sign in front.
-/

set_option autoImplicit false

namespace AttributeGrammar.Description

open Text

variable {α β : Type} {text rest : List Char}

namespace Reader

variable {p : Reader α}

/-- The reader takes text within a line, and takes the same text wherever the same character is behind it. -/
def Local (p : Reader α) : Prop :=
  ∀ text a rest, p text = .done a rest →
    ∃ front, text = front ++ rest ∧ WithinLine front ∧
      ∀ next, next.head? = rest.head? → p (front ++ next) = .done a next

/-- The reader takes some text within a line, and takes it whatever is behind it. -/
def Closed (p : Reader α) : Prop :=
  ∀ text a rest, p text = .done a rest →
    ∃ front, text = front ++ rest ∧ front ≠ [] ∧ WithinLine front ∧ ∀ next, p (front ++ next) = .done a next

theorem Closed.local (h : Closed p) : Local p := by
  intro text a rest hread
  obtain ⟨front, htext, -, hline, hnext⟩ := h text a rest hread
  exact ⟨front, htext, hline, fun next _ => hnext next⟩

theorem local_pure (a : α) : Local (pure a : Reader α) := by
  intro text b rest hread
  cases hread
  exact ⟨[], rfl, withinLine_nil, fun next _ => rfl⟩

theorem Local.bind {f : α → Reader β} (hp : Local p) (hf : ∀ a, Local (f a)) : Local (p >>= f) := by
  intro text b rest hread
  obtain ⟨a, mid, hfirst, hsecond⟩ := bind_eq_done.mp hread
  obtain ⟨front, rfl, hfront, hnext⟩ := hp text a mid hfirst
  obtain ⟨back, rfl, hback, hbehind⟩ := hf a mid b rest hsecond
  refine ⟨front ++ back, by rw [List.append_assoc], hfront.append hback, fun next hhead => ?_⟩
  have hmid : (back ++ next).head? = (back ++ rest).head? := by
    rw [List.head?_append, List.head?_append, hhead]
  rw [List.append_assoc]
  exact (bind_of_done (hnext _ hmid)).trans (hbehind next hhead)

/-- What comes first need not be closed, for the text behind it starts with what is taken next. -/
theorem Local.bind_closed {f : α → Reader β} (hp : Local p) (hf : ∀ a, Closed (f a)) : Closed (p >>= f) := by
  intro text b rest hread
  obtain ⟨a, mid, hfirst, hsecond⟩ := bind_eq_done.mp hread
  obtain ⟨front, rfl, hfront, hnext⟩ := hp text a mid hfirst
  obtain ⟨back, rfl, hne, hback, hbehind⟩ := hf a mid b rest hsecond
  refine ⟨front ++ back, by rw [List.append_assoc], by simp [hne], hfront.append hback, fun next => ?_⟩
  have hmid : (back ++ next).head? = (back ++ rest).head? := by
    rw [List.head?_append_of_ne_nil _ hne, List.head?_append_of_ne_nil _ hne]
  rw [List.append_assoc]
  exact (bind_of_done (hnext _ hmid)).trans (hbehind next)

theorem Closed.bind_pure {b : β} (h : Closed p) : Closed (p >>= fun _ => pure b) := by
  intro text _ rest hread
  obtain ⟨a, mid, hfirst, hsecond⟩ := bind_eq_done.mp hread
  cases hsecond
  obtain ⟨front, htext, hne, hline, hnext⟩ := h text a rest hfirst
  exact ⟨front, htext, hne, hline, fun next => bind_of_done (hnext next)⟩

/-! ## Small readers -/

theorem startsOutside_congr {accepts : Char → Bool} {next : List Char} (hhead : next.head? = rest.head?)
    (h : StartsOutside accepts rest) : StartsOutside accepts next := by
  rwa [StartsOutside, hhead]

theorem closed_char {c : Char} (hc : c ≠ '\n' ∧ c ≠ '\r') : Closed (char c) := by
  intro text _ rest hread
  obtain rfl := char_eq_done.mp hread
  exact ⟨[c], rfl, List.cons_ne_nil c [], withinLine_singleton hc, fun next => char_eq_done.mpr rfl⟩

theorem local_spaces : Local spaces := by
  intro text _ rest hread
  obtain ⟨gap, hgap, rfl, hrest⟩ := spaces_eq_done.mp hread
  exact ⟨gap, rfl, withinLine_of_blanks hgap,
    fun next hhead => spaces_append hgap (startsOutside_congr hhead hrest)⟩

theorem spaces1_eq_done :
    spaces1 text = .done () rest ↔
      ∃ gap, Blanks gap ∧ gap ≠ [] ∧ text = gap ++ rest ∧ StartsOutside isSpace rest := by
  constructor
  · intro h
    cases text with
    | nil => cases h
    | cons c text =>
      simp only [spaces1] at h
      split at h
      · rename_i hc
        obtain ⟨gap, hgap, rfl, hrest⟩ := spaces_eq_done.mp h
        exact ⟨c :: gap, List.forall_mem_cons.mpr ⟨hc, hgap⟩, List.cons_ne_nil c gap, rfl, hrest⟩
      · cases h
  · rintro ⟨gap, hgap, hne, rfl, hrest⟩
    exact spaces1_append hgap hne hrest

theorem local_spaces1 : Local spaces1 := by
  intro text _ rest hread
  obtain ⟨gap, hgap, hne, rfl, hrest⟩ := spaces1_eq_done.mp hread
  exact ⟨gap, rfl, withinLine_of_blanks hgap,
    fun next hhead => spaces1_append hgap hne (startsOutside_congr hhead hrest)⟩

theorem local_takeWhile1 {accepts : Char → Bool} {kind : ReadKind} (hnewline : accepts '\n' = false)
    (hreturned : accepts '\r' = false) : Local (takeWhile1 accepts kind) := by
  intro text taken rest hread
  obtain ⟨hne, rfl, htaken, hrest⟩ := takeWhile1_eq_done.mp hread
  refine ⟨taken.toList, rfl, withinLine_of_forall fun c hc => ⟨?_, ?_⟩, fun next hhead => ?_⟩
  · rintro rfl
    rw [htaken _ hc] at hnewline
    cases hnewline
  · rintro rfl
    rw [htaken _ hc] at hreturned
    cases hreturned
  · exact takeWhile1_eq_done.mpr ⟨hne, rfl, htaken, startsOutside_congr hhead hrest⟩

theorem local_identifier : Local identifier := by
  intro text name rest hread
  obtain ⟨hname, rfl, hrest⟩ := identifier_eq_done.mp hread
  exact ⟨name.toList, rfl, withinLine_of_isNamePart hname.isNamePart,
    fun next hhead => identifier_append hname (startsOutside_congr hhead hrest)⟩

theorem local_optional_char {c : Char} (hc : c ≠ '\n' ∧ c ≠ '\r') : Local (optional (char c)) := by
  intro text found rest hread
  cases found with
  | some value =>
    obtain ⟨front, htext, -, hline, hnext⟩ := closed_char hc _ _ _ (of_optional_eq_done hread)
    exact ⟨front, htext, hline, fun next _ => optional_of_done (hnext next)⟩
  | none =>
    by_cases hhead : text.head? = some c
    · obtain ⟨more, rfl⟩ := List.head?_eq_some_iff.mp hhead
      rw [optional_of_done (char_eq_done.mpr rfl)] at hread
      cases hread
    · rw [optional_of_rejects (rejects_char hhead)] at hread
      cases hread
      exact ⟨[], rfl, withinLine_nil,
        fun next hnext => optional_of_rejects (rejects_char (by rwa [List.nil_append, hnext]))⟩

end Reader

open Reader

/-! ## Lists of variables -/

theorem local_variableEntry : Local variableEntry := by
  refine local_spaces.bind fun _ => ?_
  refine (local_takeWhile1 (by decide) (by decide)).bind fun type => ?_
  refine local_spaces1.bind fun _ => ?_
  refine local_identifier.bind fun name => ?_
  refine local_spaces.bind fun _ => ?_
  have hcomma : Local (discard (optional (char ','))) :=
    (local_optional_char (by decide)).bind fun _ => local_pure ()
  exact hcomma.bind fun _ => local_pure _

/-- What is read with the first of several values is not empty. -/
theorem length_lt_of_many {p : Reader α} {a : α} {as : List α} {mid : List Char}
    (h : many p text = .done (a :: as) rest) (hfirst : p text = .done a mid) : mid.length < text.length := by
  by_contra hlt
  rw [many, hfirst] at h
  dsimp only at h
  rw [if_neg hlt] at h
  cases h

/-- Entries that are read up to a bracket are read whatever is behind it. -/
theorem of_many_variableEntry {entries : List Variable} {last : List Char}
    (h : many variableEntry text = .done entries last) (hlast : spaces last = .done () (']' :: rest)) :
    ∃ front, text = front ++ ']' :: rest ∧ WithinLine front ∧
      ∀ next, ∃ gap, Blanks gap ∧ many variableEntry (front ++ ']' :: next) =
        .done entries (gap ++ ']' :: next) := by
  induction entries generalizing text with
  | nil =>
    have htext : text = last := by
      rw [many] at h
      split at h
      · split at h
        · split at h <;> cases h
        · cases h
      · cases h
        rfl
      · cases h
    obtain ⟨gap, hgap, rfl, -⟩ := spaces_eq_done.mp hlast
    exact ⟨gap, htext, withinLine_of_blanks hgap,
      fun next => ⟨gap, hgap, many_of_rejects (rejects_variableEntry hgap)⟩⟩
  | cons v entries ih =>
    obtain ⟨mid, hfirst, hmore⟩ := of_many_eq_done_cons h
    obtain ⟨back, rfl, hback, hnext⟩ := ih hmore
    obtain ⟨front, rfl, hfront, hbehind⟩ := local_variableEntry _ _ _ hfirst
    refine ⟨front ++ back, by rw [List.append_assoc], hfront.append hback, fun next => ?_⟩
    obtain ⟨gap, hgap, hread⟩ := hnext next
    have hhead : (back ++ ']' :: next).head? = (back ++ ']' :: rest).head? := by
      rw [List.head?_append, List.head?_append]
      rfl
    have hentry := hbehind _ hhead
    have hshorter := length_lt_of_many h hfirst
    refine ⟨gap, hgap, ?_⟩
    rw [List.append_assoc]
    refine many_of_done hentry ?_ hread
    simp only [List.length_append] at hshorter ⊢
    omega

theorem closed_variableList : Closed variableList := by
  intro text entries rest hread
  obtain ⟨_, _, hopen, h⟩ := bind_eq_done.mp hread
  obtain ⟨read, last, hentries, h⟩ := bind_eq_done.mp h
  obtain ⟨_, _, hspaces, h⟩ := bind_eq_done.mp h
  obtain ⟨_, _, hclose, h⟩ := bind_eq_done.mp h
  cases h
  obtain rfl := char_eq_done.mp hopen
  obtain rfl := char_eq_done.mp hclose
  obtain ⟨front, rfl, hfront, hnext⟩ := of_many_variableEntry hentries hspaces
  have hbracket : WithinLine [']'] := withinLine_singleton (by decide)
  refine ⟨'[' :: (front ++ [']']), by simp, List.cons_ne_nil _ _, (hfront.append hbracket).cons (by decide), ?_⟩
  intro next
  obtain ⟨gap, hgap, hmany⟩ := hnext next
  rw [List.cons_append, List.append_assoc]
  refine (bind_of_done (char_eq_done.mpr rfl)).trans ?_
  refine (bind_of_done hmany).trans ?_
  refine (bind_of_done (spaces_append hgap fun c hc => by cases hc; rfl)).trans ?_
  exact bind_of_done (char_eq_done.mpr rfl)

/-! ## Headers -/

/-- **The header of an action ends with its brace.** -/
theorem closed_actionHeader : Closed actionHeader := by
  refine local_spaces.bind_closed fun _ => ?_
  refine (closed_char (by decide)).local.bind_closed fun _ => ?_
  refine local_identifier.bind_closed fun name => ?_
  refine local_spaces.bind_closed fun _ => ?_
  refine closed_variableList.local.bind_closed fun exported => ?_
  refine local_spaces.bind_closed fun _ => ?_
  exact (closed_char (by decide)).bind_pure

theorem trim_append_blanks {gap : List Char} (hgap : Blanks gap) (text : List Char) :
    trim (gap ++ text) = trim text := by
  have hblank : ∀ c ∈ gap, isBlank c := by
    intro c hc
    have hspace := hgap c hc
    simp only [isSpace, Bool.or_eq_true, decide_eq_true_eq] at hspace
    rcases hspace with rfl | rfl <;> decide
  rw [trim, trim, trimStart, trimStart, List.dropWhile_append_of_pos hblank]

/-- A line with a header in front starts with a dollar sign. -/
theorem trim_of_actionHeader {named : String × List Variable} (h : actionHeader text = .done named rest) :
    ∃ more, trim text = '$' :: more := by
  obtain ⟨_, _, hspaces, h⟩ := bind_eq_done.mp h
  obtain ⟨_, _, hdollar, -⟩ := bind_eq_done.mp h
  obtain ⟨gap, hgap, rfl, -⟩ := spaces_eq_done.mp hspaces
  obtain rfl := char_eq_done.mp hdollar
  obtain ⟨more, htrim, -⟩ := exists_trim_cons _ (show isBlank '$' = false by decide)
  exact ⟨more, (trim_append_blanks hgap _).trans htrim⟩

end AttributeGrammar.Description
