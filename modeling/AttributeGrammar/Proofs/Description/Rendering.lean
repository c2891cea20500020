import AttributeGrammar.Proofs.Description.Syntax

/-!
# Lines are read as they are written

* `Item.Valid`, `Variable.Valid`, `RuleDecl.Valid` — the declarations that a line can hold.
* `ItemRendering`, `ItemsRendering`, `ParametersRendering`, `RuleDecl.Rendering`, `RegexRendering` — the
  ways to write them: any spaces and tabs around and between the parts, any escapes between quotes.
* `ItemText.of_rendering`, `many_variableEntry`, `many_spacedItem` — the parts are read back.
* `ruleDecl_header` — the head of a rule line is read, whatever follows its colon.
* `valid_of_ruleDecl` — only declarations that a line can hold are read.
* `read_rendering` — whole lines are read back.
-/

set_option autoImplicit false

namespace AttributeGrammar

open Description

/-! ## Declarations that a line can hold -/

/-- The names are of their classes, and the literals are not empty. -/
def Item.Valid : Item → Prop
  | .text literal => literal ≠ ""
  | .regex name => isRegexName name
  | .rule name => isRuleName name
  | .assignRule var target => IsIdentifier var ∧ isRuleName target
  | .assignText var literal => IsIdentifier var ∧ literal ≠ ""
  | .assignRegex var name => IsIdentifier var ∧ isRegexName name
  | .action name => IsIdentifier name

/-- The type is a word of a variable list, and the name is an identifier. -/
structure Variable.Valid (v : Variable) : Prop where
  type_ne : v.type ≠ ""
  type : ∀ c ∈ v.type.toList, isTypePart c
  name : IsIdentifier v.name

theorem Variable.Valid.head {v : Variable} (h : v.Valid) (text : List Char) :
    ∃ c rest, v.type.toList ++ text = c :: rest ∧ isTypePart c := by
  cases htype : v.type.toList with
  | nil => exact absurd (String.toList_eq_nil_iff.mp htype) h.type_ne
  | cons c rest => exact ⟨c, rest ++ text, rfl, h.type c (by rw [htype]; exact .head _)⟩

/-- A type starts with no blank. -/
theorem Variable.Valid.startsOutside {v : Variable} (h : v.Valid) {text : List Char} :
    StartsOutside Reader.isSpace (v.type.toList ++ text) := by
  obtain ⟨c, rest, hhead, hc⟩ := h.head text
  rw [hhead]
  intro d hd
  cases hd
  cases hspace : Reader.isSpace c with
  | false => rfl
  | true => rw [not_isTypePart_of_isSpace hspace] at hc; cases hc

theorem Variable.Valid.head?_ne_comma {v : Variable} (h : v.Valid) {text : List Char} :
    (v.type.toList ++ text).head? ≠ some ',' := by
  obtain ⟨c, rest, hhead, hc⟩ := h.head text
  rw [hhead]
  intro heq
  cases heq
  cases hc

namespace Description

open Reader

structure RuleDecl.Valid (decl : RuleDecl) : Prop where
  name : isRuleName decl.name
  inherited : ∀ v ∈ decl.inherited, v.Valid
  items : ∀ item ∈ decl.items, item.Valid

/-! ## Ways to write them -/

/-- What an assignment takes, as it may be written. -/
inductive SourceRendering (var : String) : Item → List Char → Prop where
  | literal {literal : String} {body : List Char} :
      Escaped literal.toList body →
      SourceRendering var (.assignText var literal) ('\'' :: (body ++ ['\'']))
  | name (name : Name) : SourceRendering var (name.toAssignment var) name.chars

/-- An element of an alternative, as it may be written. -/
inductive ItemRendering : Item → List Char → Prop where
  | literal {literal : String} {body : List Char} :
      Escaped literal.toList body → ItemRendering (.text literal) ('\'' :: (body ++ ['\'']))
  | name (name : Name) : ItemRendering name.toItem name.chars
  | action (name : String) : ItemRendering (.action name) ('$' :: name.toList)
  | assignment {var : String} {item : Item} {gap gap' gap'' last source : List Char} :
      Blanks gap → Blanks gap' → Blanks gap'' → Blanks last → SourceRendering var item source →
      ItemRendering item
        ('(' :: (gap ++ (var.toList ++ (gap' ++ '=' :: (gap'' ++ (source ++ (last ++ [')'])))))))

/-- No letter, digit or underscore at the end of a text meets another one. -/
def Apart (front text : List Char) : Prop := ∀ last ∈ front.getLast?, isNamePart last → Stops text

/-- The elements of an alternative. Blanks stand behind each; there must be some where two names would
meet. -/
inductive ItemsRendering : List Item → List Char → Prop where
  | nil : ItemsRendering [] []
  | cons {item : Item} {items : List Item} {chars gap text : List Char} :
      ItemRendering item chars → Blanks gap → ItemsRendering items text → Apart chars (gap ++ text) →
      ItemsRendering (item :: items) (chars ++ (gap ++ text))

/-- What stands between two entries of a variable list: a comma, or a blank. -/
inductive Separator : List Char → Prop where
  | blank {gap : List Char} : Blanks gap → gap ≠ [] → Separator gap
  | comma {gap gap' : List Char} : Blanks gap → Blanks gap' → Separator (gap ++ ',' :: gap')

/-- The entries of a variable list that is not empty. A blank stands between a type and its name. -/
inductive EntriesRendering : List Variable → List Char → Prop where
  | last {v : Variable} {gap : List Char} :
      Blanks gap → gap ≠ [] → EntriesRendering [v] (v.type.toList ++ (gap ++ v.name.toList))
  | cons {v : Variable} {vs : List Variable} {gap separator text : List Char} :
      Blanks gap → gap ≠ [] → Separator separator → EntriesRendering vs text →
      EntriesRendering (v :: vs) (v.type.toList ++ (gap ++ (v.name.toList ++ (separator ++ text))))

/-- The parameters of a rule, in brackets, or nothing where there are none. -/
inductive ParametersRendering : List Variable → List Char → Prop where
  | none : ParametersRendering [] []
  | empty {gap : List Char} : Blanks gap → ParametersRendering [] ('[' :: (gap ++ [']']))
  | list {vs : List Variable} {gap entries gap' : List Char} :
      Blanks gap → EntriesRendering vs entries → Blanks gap' →
      ParametersRendering vs ('[' :: (gap ++ (entries ++ (gap' ++ [']']))))

/-- The head of a rule line, up to its colon. -/
inductive HeaderRendering : String → List Variable → List Char → Prop where
  | mk {name : String} {inherited : List Variable} {gap gap' parameters gap'' : List Char} :
      Blanks gap → Blanks gap' → ParametersRendering inherited parameters → Blanks gap'' →
      HeaderRendering name inherited (gap ++ (name.toList ++ (gap' ++ (parameters ++ gap''))))

/-- A rule line. -/
inductive RuleDecl.Rendering : RuleDecl → List Char → Prop where
  | mk {name : String} {inherited : List Variable} {items : List Item} {header gap text : List Char} :
      HeaderRendering name inherited header → Blanks gap → ItemsRendering items text →
      RuleDecl.Rendering ⟨name, inherited, items⟩ (header ++ ':' :: (gap ++ text))

/-- A line that declares a regex terminal. -/
inductive RegexRendering : RegexTerminal → List Char → Prop where
  | mk {name pattern : String} {gap gap' gap'' body last : List Char} :
      Blanks gap → Blanks gap' → Blanks gap'' → Escaped pattern.toList body → Blanks last →
      RegexRendering ⟨name, pattern⟩
        (gap ++ (name.toList ++ (gap' ++ ':' :: (gap'' ++ '\'' :: (body ++ '\'' :: last)))))

variable {text rest : List Char}

/-! ## Elements -/

theorem Name.valid_of_toItem {name : Name} (h : name.toItem.Valid) : name.Valid := by
  cases name with
  | rule word => exact h
  | regex word => exact h

theorem Name.valid_of_toAssignment {name : Name} {var : String} (h : (name.toAssignment var).Valid) :
    IsIdentifier var ∧ name.Valid := by
  cases name with
  | rule word => exact h
  | regex word => exact h

/-- A name ends with a character of names. -/
theorem IsIdentifier.stops {name : String} {front : List Char} (h : IsIdentifier name)
    (hapart : Apart (front ++ name.toList) text) : Stops text := by
  have hne : name.toList ≠ [] := by
    obtain ⟨c, rest, hname, -⟩ := h
    simp [hname]
  have hlast : (front ++ name.toList).getLast? = some (name.toList.getLast hne) := by
    rw [List.getLast?_append, List.getLast?_eq_some_getLast hne]
    rfl
  exact hapart _ hlast (h.isNamePart _ (List.getLast_mem hne))

theorem SourceText.of_rendering {var : String} {item : Item} {source : List Char}
    (h : SourceRendering var item source) (hvalid : item.Valid) (hrest : Stops rest) :
    IsIdentifier var ∧ SourceText var item (source ++ rest) rest := by
  cases h with
  | @literal literal body hbody =>
    refine ⟨hvalid.1, ?_⟩
    rw [List.cons_append, List.append_assoc]
    exact .literal (hbody.body rest) hvalid.2
  | name name =>
    obtain ⟨hvar, hname⟩ := Name.valid_of_toAssignment hvalid
    exact ⟨hvar, .name hname hrest⟩

theorem ItemText.of_rendering {item : Item} {chars : List Char} (h : ItemRendering item chars)
    (hvalid : item.Valid) (hapart : Apart chars rest) : ItemText item (chars ++ rest) rest := by
  cases h with
  | literal hbody =>
    rw [List.cons_append, List.append_assoc]
    exact .literal (hbody.body rest) hvalid
  | name name =>
    have hname := Name.valid_of_toItem hvalid
    obtain ⟨word, hword, hchars⟩ := hname.exists_chars
    rw [hchars] at hapart
    exact .name hname (@IsIdentifier.stops rest word [] hword hapart)
  | action name => exact .action hvalid (@IsIdentifier.stops rest name ['$'] hvalid hapart)
  | @assignment var item gap gap' gap'' last source hgap hgap' hgap'' hlast hsource =>
    have hclose : Stops (last ++ ')' :: rest) :=
      hlast.startsOutside (fun _ => not_isNamePart_of_isSpace) rfl
    obtain ⟨hvar, hsource⟩ := SourceText.of_rendering hsource hvalid hclose
    simp only [List.cons_append, List.append_assoc, List.nil_append]
    exact .assignment hvar hgap hgap' hgap'' hlast hsource

/-! ## Repetition -/

namespace Reader

variable {α : Type} {p : Reader α}

theorem many_of_rejects (h : Rejects p text) : many p text = .done [] text := by
  obtain ⟨kind, place, h⟩ := h
  rw [many, h]

theorem many_of_done {a : α} {as : List α} {mid : List Char} (hfirst : p text = .done a mid)
    (hlt : mid.length < text.length) (hmore : many p mid = .done as rest) :
    many p text = .done (a :: as) rest := by
  rw [many, hfirst]
  dsimp only
  rw [if_pos hlt, hmore]

theorem of_many_eq_done_cons {a : α} {as : List α} (h : many p text = .done (a :: as) rest) :
    ∃ mid, p text = .done a mid ∧ many p mid = .done as rest := by
  rw [many] at h
  split at h
  · rename_i mid hfirst
    split at h
    · split at h
      · rename_i hmore
        cases h
        exact ⟨mid, hfirst, hmore⟩
      · cases h
      · cases h
    · cases h
  · cases h
  · cases h

theorem exists_of_many {as : List α} (h : many p text = .done as rest) :
    ∀ a ∈ as, ∃ text rest, p text = .done a rest := by
  induction as generalizing text with
  | nil => simp
  | cons a as ih =>
    obtain ⟨mid, hfirst, hmore⟩ := of_many_eq_done_cons h
    intro b hb
    rcases List.mem_cons.mp hb with rfl | hb
    · exact ⟨text, mid, hfirst⟩
    · exact ih hmore b hb

end Reader

/-- Blanks before the blanks are read with them. -/
theorem bind_spaces_append {α : Type} {f : Unit → Reader α} {gap : List Char} (hgap : Blanks gap) :
    (spaces >>= f) (gap ++ text) = (spaces >>= f) text := by
  show Reader.bind spaces f _ = Reader.bind spaces f _
  simp only [Reader.bind, spaces, List.dropWhile_append_of_pos hgap]

/-- An element with the blanks before it. -/
def spacedItem : Reader Item := do
  spaces
  item

/-- **Written elements are read,** up to the blanks at the end. -/
theorem many_spacedItem {items : List Item} (h : ItemsRendering items text)
    (hvalid : ∀ item ∈ items, item.Valid) {gap : List Char} (hgap : Blanks gap) :
    ∃ last, Blanks last ∧ many spacedItem (gap ++ text) = .done items last := by
  induction h generalizing gap with
  | nil =>
    refine ⟨gap, hgap, ?_⟩
    rw [List.append_nil]
    refine many_of_rejects ?_
    obtain ⟨kind, place, hreject⟩ : Rejects item [] := ⟨_, _, rfl⟩
    refine ⟨kind, place, ?_⟩
    rw [← List.append_nil gap, spacedItem, bind_spaces_append hgap]
    exact hreject
  | @cons item items chars gap' text hitem hgap' _ hapart ih =>
    obtain ⟨last, hlast, hmore⟩ := ih (fun other hother => hvalid other (.tail _ hother)) hgap'
    have htext := ItemText.of_rendering hitem (hvalid item (.head _)) hapart
    refine ⟨last, hlast, many_of_done ?_ ?_ hmore⟩
    · exact (bind_of_done (spaces_append hgap htext.startsOutside)).trans (item_eq_done.mpr htext)
    · exact Nat.lt_of_lt_of_le htext.length_lt (by simp)

/-! ## Variable lists -/

/-- What is left to read of an entry behind its name. -/
def entryEnd (v : Variable) : Reader Variable := do
  spaces
  discard (optional (char ','))
  return v

theorem variableEntry_append {v : Variable} {gap gap' after : List Char} (h : v.Valid) (hgap : Blanks gap)
    (hgap' : Blanks gap') (hne : gap' ≠ []) (hafter : Stops after) :
    variableEntry (gap ++ (v.type.toList ++ (gap' ++ (v.name.toList ++ after)))) = entryEnd v after := by
  have hspaces : StartsOutside isTypePart (gap' ++ (v.name.toList ++ after)) := by
    cases gap' with
    | nil => exact absurd rfl hne
    | cons c gap' =>
      intro d hd
      cases hd
      exact not_isTypePart_of_isSpace (hgap' c (.head _))
  refine (bind_of_done (spaces_append hgap h.startsOutside)).trans ?_
  refine (bind_of_done (takeWhile1_eq_done.mpr ⟨h.type_ne, rfl, h.type, hspaces⟩)).trans ?_
  refine (bind_of_done (spaces1_append hgap' hne h.name.startsOutside)).trans ?_
  exact bind_of_done (identifier_append h.name hafter)

theorem entryEnd_append {v : Variable} {gap : List Char} (hgap : Blanks gap)
    (hrest : StartsOutside isSpace rest) (hcomma : rest.head? ≠ some ',') :
    entryEnd v (gap ++ rest) = .done v rest := by
  refine (bind_of_done (spaces_append hgap hrest)).trans ?_
  exact bind_of_done (discard_of_done (optional_of_rejects (rejects_char hcomma)))

theorem entryEnd_comma {v : Variable} {gap : List Char} (hgap : Blanks gap) :
    entryEnd v (gap ++ ',' :: rest) = .done v rest := by
  refine (bind_of_done (spaces_append hgap fun c hc => by cases hc; rfl)).trans ?_
  exact bind_of_done (discard_of_done (optional_of_done (char_eq_done.mpr rfl)))

/-- No entry is read at the end of a list. -/
theorem rejects_variableEntry {gap : List Char} (hgap : Blanks gap) :
    Rejects variableEntry (gap ++ ']' :: rest) := by
  obtain ⟨kind, place, hreject⟩ : Rejects variableEntry (']' :: rest) := ⟨_, _, rfl⟩
  exact ⟨kind, place, (bind_spaces_append hgap).trans hreject⟩

theorem Separator.stops {separator : List Char} (h : Separator separator) : Stops (separator ++ text) := by
  cases h with
  | blank hgap hne =>
    cases separator with
    | nil => exact absurd rfl hne
    | cons c gap =>
      intro d hd
      cases hd
      exact not_isNamePart_of_isSpace (hgap c (.head _))
  | comma hgap hgap' =>
    rw [List.append_assoc]
    exact hgap.startsOutside (fun _ => not_isNamePart_of_isSpace) rfl

/-- Entries start with a type. -/
theorem EntriesRendering.head {vs : List Variable} (h : EntriesRendering vs text) (hvalid : ∀ v ∈ vs, v.Valid) :
    ∃ v : Variable, ∃ more, v.Valid ∧ text = v.type.toList ++ more := by
  cases h with
  | last hgap hne => exact ⟨_, _, hvalid _ (.head _), rfl⟩
  | cons hgap hne hseparator hmore => exact ⟨_, _, hvalid _ (.head _), rfl⟩

/-- **Written entries are read,** up to the bracket. -/
theorem many_variableEntry {vs : List Variable} (h : EntriesRendering vs text) (hvalid : ∀ v ∈ vs, v.Valid)
    {gap last : List Char} (hgap : Blanks gap) (hlast : Blanks last) :
    many variableEntry (gap ++ (text ++ (last ++ ']' :: rest))) = .done vs (']' :: rest) := by
  induction h generalizing gap with
  | @last v gap' hgap' hne =>
    have hstops : Stops (last ++ ']' :: rest) :=
      hlast.startsOutside (fun _ => not_isNamePart_of_isSpace) rfl
    have hfirst := variableEntry_append (hvalid v (.head _)) hgap hgap' hne hstops
    rw [entryEnd_append hlast (fun c hc => by cases hc; rfl) (by simp)] at hfirst
    simp only [List.append_assoc]
    refine many_of_done hfirst ?_ (many_of_rejects (@rejects_variableEntry rest [] blanks_nil))
    have := List.length_pos_iff.mpr hne
    simp only [List.length_append]
    omega
  | @cons v vs gap' separator text hgap' hne hseparator hmore ih =>
    have hvs : ∀ w ∈ vs, w.Valid := fun w hw => hvalid w (.tail _ hw)
    have hlength := List.length_pos_iff.mpr hne
    have hfirst := variableEntry_append (hvalid v (.head _)) hgap hgap' hne
      (@Separator.stops (text ++ (last ++ ']' :: rest)) separator hseparator)
    simp only [List.append_assoc]
    cases hseparator with
    | blank hblank _ =>
      obtain ⟨w, more, hw, rfl⟩ := hmore.head hvs
      simp only [List.append_assoc] at hfirst ih ⊢
      rw [entryEnd_append hblank hw.startsOutside hw.head?_ne_comma] at hfirst
      refine many_of_done hfirst ?_ (@ih hvs [] blanks_nil)
      simp only [List.length_append]
      omega
    | comma hblank hblank' =>
      simp only [List.append_assoc, List.cons_append] at hfirst ⊢
      rw [entryEnd_comma hblank] at hfirst
      refine many_of_done hfirst ?_ (ih hvs hblank')
      simp only [List.length_append, List.length_cons]
      omega

theorem variableList_append {entries : List Variable} {gap text last : List Char} (hgap : Blanks gap)
    (h : EntriesRendering entries text) (hvalid : ∀ v ∈ entries, v.Valid) (hlast : Blanks last) :
    variableList ('[' :: (gap ++ (text ++ (last ++ ']' :: rest)))) = .done entries rest := by
  refine (bind_of_done (char_eq_done.mpr rfl)).trans ?_
  refine (bind_of_done (many_variableEntry h hvalid hgap hlast)).trans ?_
  refine (bind_of_done (@spaces_append _ [] blanks_nil fun c hc => by cases hc; rfl)).trans ?_
  exact bind_of_done (char_eq_done.mpr rfl)

theorem variableList_empty {gap : List Char} (hgap : Blanks gap) :
    variableList ('[' :: (gap ++ ']' :: rest)) = .done [] rest := by
  refine (bind_of_done (char_eq_done.mpr rfl)).trans ?_
  refine (bind_of_done (many_of_rejects (rejects_variableEntry hgap))).trans ?_
  refine (bind_of_done (spaces_append hgap fun c hc => by cases hc; rfl)).trans ?_
  exact bind_of_done (char_eq_done.mpr rfl)

/-! ## Lines -/

/-- What is left to read of a rule line behind its name. -/
def afterName (name : String) : Reader RuleDecl := do
  spaces
  let inherited ← optional variableList
  spaces
  char ':'
  let items ← many spacedItem
  spaces
  return ⟨name, inherited.getD [], items⟩

/-- What is left to read of a rule line behind its colon. -/
def afterColon (name : String) (inherited : List Variable) : Reader RuleDecl := do
  let items ← many spacedItem
  spaces
  return ⟨name, inherited, items⟩

theorem afterName_append {name : String} {inherited : List Variable} {gap parameters gap' : List Char}
    (hgap : Blanks gap) (h : ParametersRendering inherited parameters)
    (hvalid : ∀ v ∈ inherited, v.Valid) (hgap' : Blanks gap') :
    afterName name (gap ++ (parameters ++ (gap' ++ ':' :: text))) = afterColon name inherited text := by
  have hcolon : StartsOutside isSpace (':' :: text) := fun c hc => by cases hc; rfl
  have hlist {entries : List Variable} {list : List Char}
      (hlist : variableList ('[' :: list) = .done entries (gap' ++ ':' :: text)) :
      afterName name (gap ++ '[' :: list) = afterColon name entries text := by
    refine (bind_of_done (spaces_append hgap fun c hc => by cases hc; rfl)).trans ?_
    refine (bind_of_done (optional_of_done hlist)).trans ?_
    refine (bind_of_done (spaces_append hgap' hcolon)).trans ?_
    exact bind_of_done (char_eq_done.mpr rfl)
  cases h with
  | none =>
    rw [List.nil_append, ← List.append_assoc]
    have hboth : Blanks (gap ++ gap') := fun c hc => (List.mem_append.mp hc).elim (hgap c) (hgap' c)
    refine (bind_of_done (spaces_append hboth hcolon)).trans ?_
    refine (bind_of_done (optional_of_rejects (rejects_char (by simp)).bind)).trans ?_
    refine (bind_of_done (@spaces_append _ [] blanks_nil hcolon)).trans ?_
    exact bind_of_done (char_eq_done.mpr rfl)
  | empty hinner =>
    simp only [List.cons_append, List.append_assoc, List.nil_append]
    exact hlist (variableList_empty hinner)
  | list hinner hentries hlast =>
    simp only [List.cons_append, List.append_assoc, List.nil_append]
    exact hlist (variableList_append hinner hentries hvalid hlast)

/-- What follows the name of a rule ends it. -/
theorem ParametersRendering.stops {inherited : List Variable} {gap parameters gap' : List Char}
    (h : ParametersRendering inherited parameters) (hgap : Blanks gap) (hgap' : Blanks gap') :
    Stops (gap ++ (parameters ++ (gap' ++ ':' :: text))) := by
  cases h with
  | none =>
    cases gap with
    | nil => exact hgap'.startsOutside (fun _ => not_isNamePart_of_isSpace) rfl
    | cons c gap =>
      intro d hd
      cases hd
      exact not_isNamePart_of_isSpace (hgap c (.head _))
  | _ => exact hgap.startsOutside (fun _ => not_isNamePart_of_isSpace) rfl

/-- **The head of a rule line is read,** whatever follows its colon. -/
theorem ruleDecl_header {name : String} {inherited : List Variable} {header : List Char}
    (h : HeaderRendering name inherited header) (hname : isRuleName name)
    (hvalid : ∀ v ∈ inherited, v.Valid) :
    ruleDecl (header ++ ':' :: text) = whole (afterColon name inherited) text := by
  cases h with
  | mk hgap hgap' hparameters hgap'' =>
    refine whole_congr ?_
    simp only [List.append_assoc]
    refine (bind_of_done (spaces_append hgap (isIdentifier_of_isRuleName hname).startsOutside)).trans ?_
    refine (bind_of_done (ruleName_eq_done.mpr ⟨hname, rfl, hparameters.stops hgap' hgap''⟩)).trans ?_
    exact afterName_append hgap' hparameters hvalid hgap''

/-- What follows the colon of a rule line is read to its end. -/
theorem afterColon_eq_done {name : String} {inherited : List Variable} {decl : RuleDecl} :
    whole (afterColon name inherited) text = .done decl rest ↔
      ∃ items last, decl = ⟨name, inherited, items⟩ ∧ rest = [] ∧ Blanks last ∧
        many spacedItem text = .done items last := by
  rw [whole_eq_done]
  constructor
  · rintro ⟨h, rfl⟩
    obtain ⟨items, last, hitems, h⟩ := bind_eq_done.mp h
    obtain ⟨_, _, hspaces, h⟩ := bind_eq_done.mp h
    cases h
    obtain ⟨gap, hgap, rfl, -⟩ := spaces_eq_done.mp hspaces
    exact ⟨items, gap, rfl, rfl, hgap, by simpa using hitems⟩
  · rintro ⟨items, last, rfl, rfl, hlast, hitems⟩
    refine ⟨(bind_of_done hitems).trans ?_, rfl⟩
    refine bind_of_done (spaces_eq_done.mpr ⟨last, hlast, (List.append_nil last).symm, ?_⟩)
    simp [StartsOutside]

theorem ruleDecl_rendering {decl : RuleDecl} (hvalid : decl.Valid) (h : decl.Rendering text) :
    ruleDecl text = .done decl [] := by
  cases h with
  | mk hheader hgap hitems =>
    obtain ⟨last, hlast, hread⟩ := many_spacedItem hitems hvalid.items hgap
    rw [ruleDecl_header hheader hvalid.name hvalid.inherited]
    exact afterColon_eq_done.mpr ⟨_, last, rfl, rfl, hlast, hread⟩

/-- What is left to read of the line of a regex terminal behind its colon. -/
def patternEnd (name : String) : Reader RegexTerminal := do
  spaces
  let text ← pattern
  spaces
  return ⟨name, text⟩

theorem regexDecl_header {name : String} {gap gap' : List Char} (hname : isRegexName name)
    (hgap : Blanks gap) (hgap' : Blanks gap') :
    regexDecl (gap ++ (name.toList ++ (gap' ++ ':' :: text))) = whole (patternEnd name) text := by
  have hword := isIdentifier_of_isRegexName hname
  have hstops : Stops (gap' ++ ':' :: text) := hgap'.startsOutside (fun _ => not_isNamePart_of_isSpace) rfl
  refine whole_congr ?_
  refine (bind_of_done (spaces_append hgap hword.startsOutside)).trans ?_
  refine (bind_of_done (regexName_eq_done.mpr ⟨hname, rfl, hstops⟩)).trans ?_
  refine (bind_of_done (spaces_append hgap' fun c hc => by cases hc; rfl)).trans ?_
  exact bind_of_done (char_eq_done.mpr rfl)

theorem patternEnd_eq_done {name : String} {regex : RegexTerminal} :
    whole (patternEnd name) text = .done regex rest ↔
      ∃ pattern gap body last, regex = ⟨name, pattern⟩ ∧ rest = [] ∧ text = gap ++ '\'' :: body ∧
        Blanks gap ∧ Blanks last ∧ pattern ≠ "" ∧ Body true body pattern.toList last := by
  rw [whole_eq_done]
  constructor
  · rintro ⟨h, rfl⟩
    obtain ⟨_, _, hfirst, h⟩ := bind_eq_done.mp h
    obtain ⟨read, _, hread, h⟩ := bind_eq_done.mp h
    obtain ⟨_, _, hspaces, h⟩ := bind_eq_done.mp h
    cases h
    obtain ⟨gap, hgap, rfl, -⟩ := spaces_eq_done.mp hfirst
    obtain ⟨body, rfl, hbody, hne⟩ := quoted_eq_done.mp hread
    obtain ⟨last, hlast, rfl, -⟩ := spaces_eq_done.mp hspaces
    exact ⟨read, gap, body, last, rfl, rfl, rfl, hgap, hlast, hne, by simpa using hbody⟩
  · rintro ⟨read, gap, body, last, rfl, rfl, rfl, hgap, hlast, hne, hbody⟩
    refine ⟨(bind_of_done (spaces_append hgap fun c hc => by cases hc; rfl)).trans ?_, rfl⟩
    refine (bind_of_done (quoted_eq_done.mpr ⟨body, rfl, hbody, hne⟩)).trans ?_
    refine bind_of_done (spaces_eq_done.mpr ⟨last, hlast, (List.append_nil last).symm, ?_⟩)
    simp [StartsOutside]

theorem regexDecl_rendering {regex : RegexTerminal} (hname : isRegexName regex.name)
    (hpattern : regex.pattern ≠ "") (h : RegexRendering regex text) : regexDecl text = .done regex [] := by
  cases h with
  | mk hgap hgap' hgap'' hbody hlast =>
    rw [regexDecl_header hname hgap hgap']
    exact patternEnd_eq_done.mpr ⟨_, _, _, _, rfl, rfl, rfl, hgap'', hlast, hpattern, hbody.body _⟩

/-! ## Only such declarations are read -/

theorem Name.valid_toItem {name : Name} (h : name.Valid) : name.toItem.Valid := by
  cases name with
  | rule word => exact h
  | regex word => exact h

theorem ItemText.valid {item : Item} (h : ItemText item text rest) : item.Valid := by
  cases h with
  | literal _ hne => exact hne
  | name hname _ => exact Name.valid_toItem hname
  | action hname _ => exact hname
  | assignment hvar _ _ _ _ hsource =>
    cases hsource with
    | literal _ hne => exact ⟨hvar, hne⟩
    | @name name _ hname _ =>
      cases name with
      | rule word => exact ⟨hvar, hname⟩
      | regex word => exact ⟨hvar, hname⟩

theorem valid_of_variableEntry {v : Variable} (h : variableEntry text = .done v rest) : v.Valid := by
  obtain ⟨_, _, -, h⟩ := bind_eq_done.mp h
  obtain ⟨type, _, htype, h⟩ := bind_eq_done.mp h
  obtain ⟨_, _, -, h⟩ := bind_eq_done.mp h
  obtain ⟨name, _, hname, h⟩ := bind_eq_done.mp h
  obtain ⟨_, _, -, h⟩ := bind_eq_done.mp h
  obtain ⟨_, _, -, h⟩ := bind_eq_done.mp h
  cases h
  obtain ⟨hne, -, hchars, -⟩ := takeWhile1_eq_done.mp htype
  exact ⟨hne, hchars, (identifier_eq_done.mp hname).1⟩

theorem valid_of_variableList {entries : List Variable} (h : variableList text = .done entries rest) :
    ∀ v ∈ entries, v.Valid := by
  obtain ⟨_, _, -, h⟩ := bind_eq_done.mp h
  obtain ⟨read, _, hentries, h⟩ := bind_eq_done.mp h
  obtain ⟨_, _, -, h⟩ := bind_eq_done.mp h
  obtain ⟨_, _, -, h⟩ := bind_eq_done.mp h
  cases h
  intro v hv
  obtain ⟨text, rest, hread⟩ := exists_of_many hentries v hv
  exact valid_of_variableEntry hread

/-- **Only valid declarations are read.** -/
theorem valid_of_ruleDecl {decl : RuleDecl} (h : ruleDecl text = .done decl rest) : decl.Valid := by
  obtain ⟨_, _, -, h⟩ := bind_eq_done.mp (whole_eq_done.mp h).1
  obtain ⟨name, _, hname, h⟩ := bind_eq_done.mp h
  obtain ⟨_, _, -, h⟩ := bind_eq_done.mp h
  obtain ⟨inherited, mid, hinherited, h⟩ := bind_eq_done.mp h
  obtain ⟨_, _, -, h⟩ := bind_eq_done.mp h
  obtain ⟨_, _, -, h⟩ := bind_eq_done.mp h
  obtain ⟨items, _, hitems, h⟩ := bind_eq_done.mp h
  obtain ⟨_, _, -, h⟩ := bind_eq_done.mp h
  cases h
  refine ⟨(ruleName_eq_done.mp hname).1, fun v hv => ?_, fun item hitem => ?_⟩
  · cases inherited with
    | none => cases hv
    | some entries => exact valid_of_variableList (of_optional_eq_done hinherited) v hv
  · obtain ⟨text, rest, hread⟩ := exists_of_many hitems item hitem
    obtain ⟨_, _, -, hread⟩ := bind_eq_done.mp hread
    exact (item_eq_done.mp hread).valid

/-! ## Reading back -/

/-- **Reading a line undoes writing it.** A rule line is read to the declaration that it was written for,
with nothing left, and so is the line of a regex terminal. -/
theorem read_rendering :
    (∀ (decl : RuleDecl) (text : List Char), decl.Valid → decl.Rendering text →
      ruleDecl text = .done decl []) ∧
    ∀ (regex : RegexTerminal) (text : List Char), isRegexName regex.name → regex.pattern ≠ "" →
      RegexRendering regex text → regexDecl text = .done regex [] :=
  ⟨fun _ _ => ruleDecl_rendering, fun _ _ => regexDecl_rendering⟩

/-- A line with two parameters and an escaped quote, and a pattern with a backslash. -/
theorem read_rendering_lines :
    ruleDecl ['r', '\t', '[', 'i', '8', ' ', 'a', ' ', ',', 'u', '8', ' ', 'b', ']', ':', ' ', '(',
      ' ', 'x', '=',
        '\'', '\\', '\'', '\'', ')', 'e', ' '] =
      .done ⟨"r", [⟨"i8", "a"⟩, ⟨"u8", "b"⟩], [.assignText "x" "'", .rule "e"]⟩ [] ∧
    regexDecl ['N', ':', ' ', '\'', '\\', '\\', 'd', '\''] = .done ⟨"N", "\\d"⟩ [] := by
  have hnone := blanks_nil
  have hspace := blanks_space
  have htab : Blanks ['\t'] := by simp [Blanks, isSpace]
  have hinherited : EntriesRendering [⟨"i8", "a"⟩, ⟨"u8", "b"⟩] _ :=
    .cons hspace (by simp) (.comma hspace hnone) (.last hspace (by simp))
  have hassignment : ItemRendering (.assignText "x" "'") _ :=
    .assignment hspace hnone hnone hnone (.literal (.escape .quote .nil))
  have hitems : ItemsRendering [.assignText "x" "'", .rule "e"] _ :=
    .cons hassignment hnone
      (.cons (.name (.rule "e")) hspace .nil fun _ _ _ c hc => by cases hc; rfl)
      fun last hlast hpart => by cases hlast; cases hpart
  have hheader : HeaderRendering "r" [⟨"i8", "a"⟩, ⟨"u8", "b"⟩] _ :=
    .mk hnone htab (.list hnone hinherited hnone) hnone
  have hname (c : Char) (h : isNameStart c) : IsIdentifier (String.ofList [c]) :=
    ⟨c, [], by simp, h, by simp⟩
  have hpattern : Escaped "\\d".toList _ := .escape .backslash (.plain (by decide) (by decide) .nil)
  refine ⟨read_rendering.1 _ _ ⟨by decide, ?_, ?_⟩ (.mk hheader hspace hitems),
    read_rendering.2 _ _ (by decide) (by decide) (.mk hnone hnone hspace hpattern hnone)⟩
  · simp only [List.forall_mem_cons, List.not_mem_nil, false_imp_iff, implies_true, and_true]
    exact ⟨⟨by decide, List.all_eq_true.mp rfl, hname 'a' rfl⟩,
      ⟨by decide, List.all_eq_true.mp rfl, hname 'b' rfl⟩⟩
  · simp only [List.forall_mem_cons, List.not_mem_nil, false_imp_iff, implies_true, and_true]
    exact ⟨⟨hname 'x' rfl, by decide⟩, show isRuleName "e" = true by decide⟩

/-- An empty type is never read, nor are a type and a name without a blank between them. -/
theorem ruleDecl_ne_unspaced :
    ruleDecl ['r', '[', ' ', 'x', ']', ':'] ≠ .done ⟨"r", [⟨"", "x"⟩], []⟩ [] ∧
    ruleDecl ['r', '[', 'i', '8', 'x', ']', ':'] ≠ .done ⟨"r", [⟨"i8", "x"⟩], []⟩ [] := by
  constructor
  · intro h
    exact ((valid_of_ruleDecl h).inherited _ (.head _)).type_ne rfl
  · intro h
    have hentry : Rejects variableEntry ['i', '8', 'x', ']', ':'] := ⟨_, _, rfl⟩
    have hlist : Rejects variableList ['[', 'i', '8', 'x', ']', ':'] := by
      refine ⟨.char, ['i', '8', 'x', ']', ':'], ?_⟩
      refine (bind_of_done (char_eq_done.mpr rfl)).trans ?_
      exact (bind_of_done (many_of_rejects hentry)).trans rfl
    have hafter : afterName "r" ['[', 'i', '8', 'x', ']', ':'] =
        .reject .char ['[', 'i', '8', 'x', ']', ':'] := by
      refine Eq.trans (bind_of_done rfl) ?_
      exact (bind_of_done (optional_of_rejects hlist)).trans rfl
    have hline : ruleDecl ['r', '[', 'i', '8', 'x', ']', ':'] =
        whole (afterName "r") ['[', 'i', '8', 'x', ']', ':'] := by
      refine whole_congr ?_
      refine Eq.trans (bind_of_done rfl) ?_
      exact bind_of_done rfl
    rw [hline, whole, hafter] at h
    cases h

end Description

end AttributeGrammar
