import AttributeGrammar.Proofs.Code.Name
import Mathlib.Logic.Relation

/-!
# Texts that spell a name

* `Code.Skip` — what is dropped between tokens; `Code.reflTransGen_skipSpace` and `Code.settled_skipSpace`
  say that the reader of code drops all of it.
* `Code.of_lexLoop?`, `Code.lexLoop?_cases` — the tokens outside of every group stay where they are, and
  what may be read next there.
* `Code.Spelling` — a text is an identifier between blanks and comments; it is so of one identifier at most
  (`Code.Spelling.unique`).
* `Code.spelling_of_parseName?` — the name that a text is read as is spelled by it.
-/

set_option autoImplicit false

namespace AttributeGrammar.Code

open Relation (ReflTransGen)
open Text

variable {text rest behind : List Char}

/-! ## Between tokens -/

/-- Something is dropped from the front of a text: a blank, or a comment that is no documentation. -/
inductive Skip : List Char → List Char → Prop where
  | blank {c : Char} {rest : List Char} (h : isSpace c) : Skip (c :: rest) rest
  | comment {text rest : List Char} (h : plainComment? text = some rest) : Skip text rest

/-- There is nothing to drop from the front. -/
def Settled (text : List Char) : Prop := ∀ rest, ¬ Skip text rest

theorem isSpace_false_of_comment {c : Char} (h : plainComment? (c :: text) = some rest) :
    isSpace c = false := by
  unfold plainComment? at h
  split at h
  all_goals
    first
    | cases h
      done
    | rename_i heq
      cases heq
      rfl

theorem Skip.unique {other : List Char} (h : Skip text rest) (h' : Skip text other) : rest = other := by
  cases h with
  | blank hspace =>
    cases h' with
    | blank => rfl
    | comment hcomment => simp [isSpace_false_of_comment hcomment] at hspace
  | comment hcomment =>
    cases h' with
    | blank hspace => simp [isSpace_false_of_comment hcomment] at hspace
    | comment hother => exact Option.some.inj (hcomment.symm.trans hother)

/-- What is left when everything was dropped does not depend on the steps. -/
theorem Settled.unique {other : List Char} (hrest : Settled rest) (hother : Settled other)
    (h : ReflTransGen Skip text rest) (h' : ReflTransGen Skip text other) : rest = other := by
  have hunique : Relator.RightUnique Skip := fun _ _ _ hnext hnext' => hnext.unique hnext'
  rcases ReflTransGen.total_of_right_unique hunique h h' with hmore | hmore
  · rcases hmore.cases_head with heq | ⟨next, hstep, -⟩
    · exact heq
    · exact absurd hstep (hrest next)
  · rcases hmore.cases_head with heq | ⟨next, hstep, -⟩
    · exact heq.symm
    · exact absurd hstep (hother next)

theorem reflTransGen_skipSpace (fuel : Nat) (text : List Char) :
    ReflTransGen Skip text (skipSpace fuel text) := by
  induction fuel generalizing text with
  | zero => exact .refl
  | succ fuel ih =>
    unfold skipSpace
    split
    · rename_i rest hcomment
      exact .head (.comment hcomment) (ih rest)
    · split
      · rename_i c rest _
        split
        · rename_i hspace
          exact .head (.blank hspace) (ih rest)
        · exact .refl
      · exact .refl

theorem length_splitLine_le (text : List Char) : (splitLine text).2.length ≤ text.length := by
  fun_induction splitLine text with
  | case1 | case2 | case3 => simp
  | case4 c rest _ _ line more heq ih =>
    rw [heq] at ih
    exact ih.trans (Nat.le_succ _)

theorem length_blockComment?_lt {depth : Nat} {comment : List Char}
    (h : blockComment? depth text = some (comment, rest)) : rest.length < text.length := by
  fun_induction blockComment? depth text generalizing comment with
  | case1 => cases h
  | case2 depth text ih =>
    obtain ⟨⟨inner, rest⟩, hinner, heq⟩ := Option.map_eq_some_iff.mp h
    cases heq
    have := ih hinner
    simp only [List.length_cons]
    omega
  | case3 text =>
    cases h
    simp only [List.length_cons]
    omega
  | case4 depth text hdepth ih =>
    obtain ⟨⟨inner, rest⟩, hinner, heq⟩ := Option.map_eq_some_iff.mp h
    cases heq
    have := ih hinner
    simp only [List.length_cons]
    omega
  | case5 depth c text _ _ ih =>
    obtain ⟨⟨inner, rest⟩, hinner, heq⟩ := Option.map_eq_some_iff.mp h
    cases heq
    have := ih hinner
    simp only [List.length_cons]
    omega

/-- A comment takes something away, so that dropping blanks and comments comes to an end. -/
theorem length_plainComment?_lt (h : plainComment? text = some rest) : rest.length < text.length := by
  have hline : ∀ more, (splitLine ('/' :: more)).2.length < more.length + 1 := fun more =>
    Nat.lt_succ_of_le (length_splitLine_le more)
  have hblock : ∀ {body : List Char}, (blockComment? 0 body).map Prod.snd = some rest →
      rest.length < body.length := by
    intro body h
    obtain ⟨⟨comment, rest⟩, hbody, heq⟩ := Option.map_eq_some_iff.mp h
    cases heq
    exact length_blockComment?_lt hbody
  unfold plainComment? at h
  split at h
  case h_2 | h_4 =>
    cases h
    exact hline _
  case h_5 =>
    cases h
    simp only [List.length_cons]
    omega
  case h_7 | h_9 =>
    have := hblock h
    simp only [List.length_cons] at this ⊢
    omega
  all_goals cases h

theorem settled_nil : Settled [] := by
  rintro rest ⟨⟩
  contradiction

theorem settled_skipSpace {fuel : Nat} (h : text.length < fuel) : Settled (skipSpace fuel text) := by
  induction fuel generalizing text with
  | zero => omega
  | succ fuel ih =>
    unfold skipSpace
    split
    · rename_i rest hcomment
      have := length_plainComment?_lt hcomment
      exact ih (by omega)
    · rename_i hcomment
      split
      · rename_i c rest
        split
        · exact ih (Nat.lt_of_succ_lt_succ h)
        · rename_i hspace
          intro next hnext
          cases hnext with
          | blank hblank => exact hspace hblank
          | comment hother => simp [hcomment] at hother
      · exact settled_nil

/-! ## Tokens outside of groups -/

/-- The tokens that were read outside of every group, the last one first. -/
def outermost : TokenList → List (Delimiter × TokenList) → TokenList
  | tokens, [] => tokens
  | _, (_, outer) :: around => outermost outer around

/-- Reading on keeps the tokens outside of every group, and a group that is open becomes the next of them. -/
theorem of_lexLoop? {fuel : Nat} {tokens result : TokenList} {around : List (Delimiter × TokenList)}
    (h : lexLoop? fuel tokens around text = some result) :
    ∃ more, result = (outermost tokens around).reverse ++ more ∧
      (around ≠ [] → ∃ delimiter inner last, more = .group delimiter inner :: last) := by
  induction fuel generalizing tokens around text with
  | zero => cases h
  | succ fuel ih =>
    -- Further tokens stand behind those that are there, inside of the open groups or outside of all.
    have hpush : ∀ {new : TokenList} {rest : List Char}, lexLoop? fuel (new ++ tokens) around rest =
      some result →
        ∃ more, result = (outermost tokens around).reverse ++ more ∧
          (around ≠ [] → ∃ delimiter inner last, more = .group delimiter inner :: last) := by
      intro new rest hrest
      obtain ⟨more, hresult, hgroup⟩ := ih hrest
      cases around with
      | nil => exact ⟨new.reverse ++ more, by simpa [outermost] using hresult, by simp⟩
      | cons _ around => exact ⟨more, hresult, hgroup⟩
    unfold lexLoop? at h
    dsimp only at h
    split at h
    · exact hpush h
    split at h
    · split at h
      · rename_i hempty
        cases h
        rw [List.isEmpty_iff.mp hempty]
        exact ⟨[], by simp [outermost], by simp⟩
      · cases h
    split at h
    · rename_i delimiter hopen
      obtain ⟨more, hresult, hgroup⟩ := ih h
      exact ⟨more, hresult, fun _ => hgroup (by simp)⟩
    · split at h
      · cases h
      rename_i opened outer around
      split at h
      · obtain ⟨more, hresult, hgroup⟩ := ih h
        cases around with
        | nil => exact ⟨_ :: more, by simpa [outermost] using hresult, fun _ => ⟨_, _, _, rfl⟩⟩
        | cons _ around => exact ⟨more, hresult, fun _ => hgroup (by simp)⟩
      · cases h
    · split at h
      · rename_i token rest _
        exact @hpush [token] rest h
      · cases h

/-! ## Names between blanks and comments -/

/-- The text without a byte order mark in front. -/
def unmarked (text : List Char) : List Char :=
  match text with
  | c :: rest => if c.toNat = 0xFEFF then rest else c :: rest
  | [] => []

/-- A text is an identifier, read as far as it goes, between blanks and comments. -/
def Spelling (text name : String) : Prop :=
  ∃ front behind, ReflTransGen Skip (unmarked text.toList) front ∧ Settled front ∧
    identifier? front = some (name, behind) ∧ ReflTransGen Skip behind []

/-- **A text spells one identifier at most.** -/
theorem Spelling.unique {text name other : String} (h : Spelling text name) (h' : Spelling text other) :
    name = other := by
  obtain ⟨front, behind, hfront, hsettled, hname, -⟩ := h
  obtain ⟨front', behind', hfront', hsettled', hother, -⟩ := h'
  cases hsettled.unique hsettled' hfront hfront'
  exact (Prod.mk.inj (Option.some.inj (hname.symm.trans hother))).1

/-- What stands for a documentation comment starts with a number sign. -/
theorem exists_of_docComment? {doc : TokenList} (h : docComment? text = some (doc, rest)) :
    ∃ last, doc = .punct '#' false :: last := by
  unfold docComment? at h
  split at h
  · rename_i inner comment behind _
    split at h
    · cases h
      have hinner : words "# !" = [.punct '#' false, .punct '!' false] := by rfl
      have houter : words "#" = [.punct '#' false] := by rfl
      unfold docAttribute
      cases inner with
      | true => exact ⟨_, by rw [if_pos rfl, hinner]; rfl⟩
      | false => exact ⟨_, by rw [if_neg Bool.false_ne_true, houter]; rfl⟩
    · cases h
  · cases h

theorem identifier?_of_leaf? {name : String} (h : leaf? text = some (.ident name, rest)) :
    identifier? text = some (name, rest) := by
  unfold leaf? at h
  split at h
  · cases h
  split at h
  · split at h
    · unfold lifetimeQuote? at h
      repeat' split at h
      all_goals cases h
    · cases h
    · cases h
  split at h
  · cases h
  · obtain ⟨⟨found, behind⟩, hfound, heq⟩ := Option.map_eq_some_iff.mp h
    cases heq
    exact hfound

/-- Outside of groups there is nothing to read any more, or a token is read; or what comes next in the
result is no identifier, but the start of what stands for a documentation comment, or a group. -/
theorem lexLoop?_cases {fuel : Nat} {tokens result : TokenList}
    (h : lexLoop? fuel tokens [] text = some result) :
    (ReflTransGen Skip text [] ∧ result = tokens.reverse) ∨
    (∃ front token behind, ReflTransGen Skip text front ∧ Settled front ∧ leaf? front = some (token, behind) ∧
      ∃ fuel, lexLoop? fuel (token :: tokens) [] behind = some result) ∨
    ∃ next more, result = tokens.reverse ++ next :: more ∧ ∀ name, next ≠ .ident name := by
  cases fuel with
  | zero => cases h
  | succ fuel =>
    have hskip := reflTransGen_skipSpace (text.length + 1) text
    unfold lexLoop? at h
    dsimp only at h
    split at h
    · rename_i doc rest hdoc
      obtain ⟨more, hresult, -⟩ := of_lexLoop? h
      obtain ⟨last, rfl⟩ := exists_of_docComment? hdoc
      exact .inr (.inr ⟨.punct '#' false, last ++ more, by simpa [outermost] using hresult, by simp⟩)
    split at h
    · rename_i hempty
      cases h
      exact .inl ⟨hempty ▸ hskip, rfl⟩
    split at h
    · obtain ⟨more, hresult, hgroup⟩ := of_lexLoop? h
      obtain ⟨delimiter, inner, last, rfl⟩ := hgroup (by simp)
      exact .inr (.inr ⟨.group delimiter inner, last, hresult, by simp⟩)
    · cases h
    · split at h
      · rename_i token behind hleaf
        exact .inr (.inl ⟨_, token, behind, hskip, settled_skipSpace (Nat.lt_succ_self _), hleaf, fuel, h⟩)
      · cases h

theorem reflTransGen_nil_of_lexLoop? {fuel : Nat} {tokens : TokenList}
    (h : lexLoop? fuel tokens [] text = some tokens.reverse) : ReflTransGen Skip text [] := by
  rcases lexLoop?_cases h with ⟨hskip, -⟩ | ⟨_, token, _, -, -, -, _, hmore⟩ | ⟨next, more, hresult, -⟩
  · exact hskip
  · obtain ⟨more, hresult, -⟩ := of_lexLoop? hmore
    simp [outermost] at hresult
  · simp at hresult

theorem exists_of_lexLoop? {fuel : Nat} {name : String} (h : lexLoop? fuel [] [] text = some [.ident name]) :
    ∃ front behind, ReflTransGen Skip text front ∧ Settled front ∧ identifier? front = some (name, behind) ∧
      ReflTransGen Skip behind [] := by
  rcases lexLoop?_cases h with ⟨-, hresult⟩ | ⟨front, token, behind, hskip, hsettled, hleaf, _, hmore⟩ |
    ⟨next, more, hresult, hnext⟩
  · simp at hresult
  · obtain ⟨more, hresult, -⟩ := of_lexLoop? hmore
    obtain ⟨rfl, -⟩ : token = .ident name ∧ more = [] := by simpa [outermost, eq_comm] using hresult
    exact ⟨front, behind, hskip, hsettled, identifier?_of_leaf? hleaf, reflTransGen_nil_of_lexLoop? hmore⟩
  · obtain ⟨heq, -⟩ := List.cons.inj (hresult : [TokenTree.ident name] = next :: more)
    exact absurd heq.symm (hnext name)

/-- **The name that a text is read as is spelled by it**, and may be a name. -/
theorem spelling_of_parseName? {text name : String} (h : parseName? text = some name) :
    Spelling text name ∧ isName name := by
  unfold parseName? at h
  split at h
  · rename_i found hlex
    split at h
    · rename_i hname
      cases h
      exact ⟨exists_of_lexLoop? hlex, hname⟩
    · cases h
  · cases h

/-- An identifier spells itself. -/
theorem spelling_self {name : String} (h : Description.IsIdentifier name) : Spelling name name := by
  obtain ⟨c, rest, hname, hstart, hrest⟩ := h
  have hfirst := firstOfName_of_isNameStart hstart
  have hident := identifier?_of_name hrest hfirst
  have hskip : skipSpace ((c :: rest).length + 1) (c :: rest) = c :: rest := skipSpace_of_name _ hfirst
  refine ⟨c :: rest, [], ?_, hskip ▸ settled_skipSpace (Nat.lt_succ_self _), ?_, .refl⟩
  · obtain ⟨-, -, -, -, -, -, -, -, hmark⟩ := hfirst
    rw [hname, unmarked, if_neg hmark]
  · rw [hident, ← hname, String.ofList_toList]

end AttributeGrammar.Code
