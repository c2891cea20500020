import AttributeGrammar.Code.Name
import AttributeGrammar.Proofs.Description.Syntax
import AttributeGrammar.Synthesis.NodeName
import Mathlib.Data.List.TakeDrop
import Mathlib.Data.List.TakeWhile

/-!
# Names that stand for themselves in code

* `Code.lexCode?_of_isIdentifier`, `Code.eq_of_parseName?` — an identifier is read as one token, itself.
* `Code.isPlainName_append` — an identifier may follow a name.
* `Synthesis.isIdentifier_nodeName` — the names of node types are identifiers.
-/

set_option autoImplicit false

namespace AttributeGrammar

open Text
open Description (IsIdentifier isNameStart isNamePart)

namespace Code

variable {c : Char} {rest : List Char}

/-- What holds of the ASCII characters by their numbers holds of them. -/
theorem of_ascii (P : Char → Prop) (hrange : c.toNat < 128) (h : ∀ n, n < 128 → P (Char.ofNat n)) :
    P c := by
  have := h c.toNat hrange
  rwa [Char.ofNat_toNat] at this

theorem lt_of_isNamePart (h : isNamePart c) : c.toNat < 128 := by
  simp only [isNamePart, isAsciiLetter, isAsciiLower, isAsciiUpper, isAsciiDigit,
    Bool.or_eq_true, Bool.and_eq_true, decide_eq_true_eq, Char.le_def,
    UInt32.le_iff_toNat_le] at h
  rcases h with (((⟨-, h⟩ | ⟨-, h⟩) | ⟨-, h⟩) | rfl)
  · exact Nat.lt_of_le_of_lt h (by decide)
  · exact Nat.lt_of_le_of_lt h (by decide)
  · exact Nat.lt_of_le_of_lt h (by decide)
  · decide

/-- What the reader of code asks about the first character of a name. -/
def FirstOfName (c : Char) : Prop :=
  c ∉ ['/', '"', '\'', '0'] ∧ isSpace c = false ∧ openDelimiter? c = none ∧
    closeDelimiter? c = none ∧ isPunct c = false ∧ isIdentStart c = true ∧ isAsciiDigit c = false ∧
    (isHex c && hexValue c < 10) = false ∧ c.toNat ≠ 0xFEFF

instance (c : Char) : Decidable (FirstOfName c) := inferInstanceAs (Decidable (_ ∧ _))

theorem firstOfName_of_isNameStart (h : isNameStart c) : FirstOfName c := by
  have hall : ∀ n, n < 128 → isNameStart (Char.ofNat n) → FirstOfName (Char.ofNat n) := by
    decide +kernel
  exact of_ascii (fun c => isNameStart c → FirstOfName c)
    (lt_of_isNamePart (Description.isNamePart_of_isNameStart h)) hall h

theorem isIdentContinue_of_isNamePart (h : isNamePart c) : isIdentContinue c := by
  rw [isIdentContinue, if_pos (lt_of_isNamePart h)]
  exact h

/-- An identifier behind a plain name makes a plain name. -/
theorem isPlainName_append {front name : String} (hfront : isPlainName front) (hname : IsIdentifier name) :
    isPlainName (front ++ name) := by
  obtain ⟨c, rest, heq, hstart, hrest⟩ := hname
  have hparts : name.toList.all isIdentContinue := by
    rw [heq, List.all_cons, isIdentContinue_of_isNamePart (Description.isNamePart_of_isNameStart hstart),
      Bool.true_and,
      List.all_eq_true]
    exact fun d hd => isIdentContinue_of_isNamePart (hrest d hd)
  unfold isPlainName at hfront ⊢
  rw [String.toList_append]
  cases hlist : front.toList with
  | nil =>
    rw [hlist] at hfront
    cases hfront
  | cons d more =>
    rw [hlist] at hfront
    obtain ⟨hd, hmore⟩ := Bool.and_eq_true_iff.mp hfront
    show (isIdentStart d && (more ++ name.toList).all isIdentContinue) = true
    rw [hd, List.all_append, hmore, hparts]
    rfl

/-! ## Reading a name -/

section

variable (hrest : ∀ d ∈ rest, isNamePart d)

include hrest

/-- A raw string starts with number signs or a quote, which no name holds. -/
theorem rawStart?_eq_none (kind : QuoteKind) : rawStart? kind rest = none := by
  have hhash : rest.takeWhile (· = '#') = [] := by
    cases rest with
    | nil => rfl
    | cons d rest =>
      have hd : d ≠ '#' := by
        rintro rfl
        exact absurd (hrest '#' (.head _)) (by decide)
      rw [List.takeWhile_cons_of_neg (by simpa using hd)]
  have hdrop : rest.dropWhile (· = '#') = rest := by
    have happend := List.takeWhile_append_dropWhile (p := (· = '#')) (l := rest)
    rwa [hhash, List.nil_append] at happend
  unfold rawStart?
  rw [List.span_eq_takeWhile_dropWhile, hhash, hdrop]
  split
  · rename_i heq
    cases heq
    exact absurd (hrest '"' (.head _)) (by decide)
  · rfl

theorem literalRest?_eq_none (h : FirstOfName c) : literalRest? (c :: rest) = none := by
  obtain ⟨hnot, -, -, -, -, -, hdigit, hhex, -⟩ := h
  simp only [List.mem_cons, List.not_mem_nil, or_false, not_or] at hnot
  have hfloat : floatDigitsRest? (c :: rest) = none := by simp [floatDigitsRest?, hdigit]
  have hdigits : digitsRest? 10 true (c :: rest) = none := by
    simp [digitsRest?, hdigit, hhex]
  have hint : intDigitsRest? (c :: rest) = none := by
    unfold intDigitsRest?
    split <;> simp_all
  have hquotes : ∀ {d more}, rest = d :: more → d ≠ '"' ∧ d ≠ '\'' := by
    rintro d more rfl
    have hpart := hrest d (.head _)
    constructor <;> rintro rfl <;> revert hpart <;> decide
  unfold literalRest?
  split
  · simp_all
  · rename_i heq
    cases heq
    exact rawStart?_eq_none hrest _
  · rename_i heq
    cases heq
    exact absurd rfl (hquotes rfl).1
  · rename_i heq
    cases heq
    exact rawStart?_eq_none (fun d hd => hrest d (.tail _ hd)) _
  · rename_i heq
    cases heq
    exact absurd rfl (hquotes rfl).1
  · rename_i heq
    cases heq
    exact rawStart?_eq_none (fun d hd => hrest d (.tail _ hd)) _
  · rename_i heq
    cases heq
    exact absurd rfl (hquotes rfl).2
  · simp_all
  · simp [numberRest?, hfloat, hint]

theorem identifier?_of_name (h : FirstOfName c) :
    identifier? (c :: rest) = some (String.ofList (c :: rest), []) := by
  obtain ⟨-, -, -, -, -, hstart, -⟩ := h
  have hdrop : rest.dropWhile isIdentContinue = [] :=
    List.dropWhile_eq_nil_iff.mpr fun d hd => isIdentContinue_of_isNamePart (hrest d hd)
  have hident : identRest? (c :: rest) = some [] := by simp [identRest?, hstart, hdrop]
  unfold identifier?
  split
  · rename_i heq
    cases heq
    exact absurd (hrest '#' (.head _)) (by decide)
  · simp [hident]

theorem leaf?_of_name (h : FirstOfName c) (hname : isNamePart c) :
    leaf? (c :: rest) = some (.ident (String.ofList (c :: rest)), []) := by
  have hliteral := literalRest?_eq_none hrest h
  have hident := identifier?_of_name hrest h
  obtain ⟨hnot, -, -, -, hpunct, -⟩ := h
  simp only [List.mem_cons, List.not_mem_nil, or_false, not_or] at hnot
  have hstarts : startsPunct (c :: rest) = false := by
    unfold startsPunct
    split <;> simp_all
  -- Every start of a literal holds a quote or a number sign.
  have hforeign : ∀ start ∈ literalStarts, ¬ start.toList.all isNamePart := by decide
  have hnone : (literalStarts.any fun start => start.toList.isPrefixOf (c :: rest)) = false := by
    rw [List.any_eq_false]
    intro start hstart hfits
    refine hforeign start hstart (List.all_eq_true.mpr fun d hd => ?_)
    rcases List.mem_cons.mp ((List.isPrefixOf_iff_prefix.mp hfits).subset hd) with rfl | hmem
    · exact hname
    · exact hrest d hmem
  unfold leaf?
  simp only [hliteral, hstarts, hnone, hident]
  rfl

omit hrest in
theorem skipSpace_of_name (fuel : Nat) (h : FirstOfName c) :
    skipSpace fuel (c :: rest) = c :: rest := by
  obtain ⟨hnot, hspace, -⟩ := h
  simp only [List.mem_cons, List.not_mem_nil, or_false, not_or] at hnot
  have hcomment : plainComment? (c :: rest) = none := by
    unfold plainComment?
    split <;> simp_all
  cases fuel with
  | zero => rfl
  | succ fuel => simp [skipSpace, hcomment, hspace]

end

/-- **An identifier is read as one token, itself.** -/
theorem lexCode?_of_isIdentifier {name : String} (h : IsIdentifier name) :
    lexCode? name = some [.ident name] := by
  obtain ⟨c, rest, hname, hstart, hrest⟩ := h
  have hfirst := firstOfName_of_isNameStart hstart
  have hleaf := leaf?_of_name hrest hfirst (Description.isNamePart_of_isNameStart hstart)
  have hskip := fun fuel => @skipSpace_of_name c rest fuel hfirst
  rw [← hname, String.ofList_toList] at hleaf
  obtain ⟨hnot, -, hopen, hclose, -, -, -, -, hmark⟩ := hfirst
  simp only [List.mem_cons, List.not_mem_nil, or_false, not_or] at hnot
  have hdoc : docComment? (c :: rest) = none := by
    have htext : docText? (c :: rest) = none := by
      unfold docText?
      split <;> simp_all
    simp [docComment?, htext]
  rw [hname] at hleaf
  simp only [lexCode?, hname, hmark, if_false, List.length_cons, lexLoop?, hskip, hdoc,
    hopen, hclose, hleaf]
  rfl

theorem eq_of_parseName? {text name : String} (h : IsIdentifier text)
    (hname : parseName? text = some name) : name = text := by
  simp only [parseName?, lexCode?_of_isIdentifier h] at hname
  split at hname
  · exact (Option.some.inj hname).symm
  · cases hname

end Code

/-! ## Names of node types -/

namespace Synthesis

theorem isNamePart_of_mem_cutAt {text part : List Char} {c : Char}
    (h : ∀ d ∈ text, isNamePart d) (hpart : part ∈ cutAt '_' text) (hc : c ∈ part) :
    isNamePart c := by
  induction text generalizing part with
  | nil =>
    rw [cutAt, List.mem_singleton] at hpart
    subst hpart
    cases hc
  | cons first text ih =>
    obtain ⟨hfirst, hrest⟩ := List.forall_mem_cons.mp h
    unfold cutAt at hpart
    split at hpart
    · rcases List.mem_cons.mp hpart with rfl | hpart
      · cases hc
      · exact ih hrest hpart hc
    · split at hpart
      · rename_i front more heq
        rcases List.mem_cons.mp hpart with rfl | hpart
        · rcases List.mem_cons.mp hc with rfl | hc
          · exact hfirst
          · exact ih hrest (heq ▸ List.mem_cons_self) hc
        · exact ih hrest (heq ▸ List.mem_cons_of_mem _ hpart) hc
      · rw [List.mem_singleton] at hpart
        subst hpart
        cases List.mem_singleton.mp hc
        exact hfirst

theorem isNamePart_of_mem_capitalize {part : List Char} {c : Char}
    (h : ∀ d ∈ part, isNamePart d) (hc : c ∈ capitalize part) :
    isNamePart c := by
  have hall : ∀ n, n < 128 → isNamePart (Char.ofNat n) →
      isNamePart (Char.ofNat n).toUpper := by
    decide +kernel
  cases part with
  | nil => cases hc
  | cons first part =>
    obtain ⟨hfirst, hrest⟩ := List.forall_mem_cons.mp h
    rcases List.mem_cons.mp hc with rfl | hc
    · exact Code.of_ascii (fun c => isNamePart c → isNamePart c.toUpper)
        (Code.lt_of_isNamePart hfirst) hall hfirst
    · exact hrest c hc

/-- A text that does not start with the mark is cut behind its first character. -/
theorem cutAt_cons {mark c : Char} {text : List Char} (h : c ≠ mark) :
    ∃ part more, cutAt mark (c :: text) = (c :: part) :: more := by
  unfold cutAt
  rw [if_neg h]
  split
  · exact ⟨_, _, rfl⟩
  · exact ⟨[], [], rfl⟩

theorem isIdentifier_nodeName {name : String} (h : Description.isRuleName name) :
    IsIdentifier (nodeName name) := by
  have hlower : ∀ n, n < 128 → isAsciiLower (Char.ofNat n) →
      isNameStart (Char.ofNat n).toUpper ∧ Char.ofNat n ≠ '_' := by
    decide +kernel
  obtain ⟨c, rest, heq, hc⟩ := Description.exists_cons_of_isCased h
  have hname : ∀ d ∈ c :: rest, isNamePart d := heq ▸ (Description.isIdentifier_of_isRuleName h).isNamePart
  obtain ⟨hpart, hrest⟩ := List.forall_mem_cons.mp hname
  obtain ⟨hupper, hmark⟩ := Code.of_ascii (fun c => isAsciiLower c → isNameStart c.toUpper ∧ c ≠ '_')
    (Code.lt_of_isNamePart hpart) hlower hc
  obtain ⟨part, more, hcut⟩ := @cutAt_cons '_' c rest hmark
  have hparts := fun {part : List Char} {d : Char} => @isNamePart_of_mem_cutAt (c :: rest) part d hname
  refine ⟨c.toUpper, part ++ more.flatMap capitalize ++ "Node".toList, ?_, hupper, fun d hd => ?_⟩
  · simp [nodeName, heq, hcut, capitalize]
  · rw [List.append_assoc, List.mem_append, List.mem_append] at hd
    rcases hd with hd | hd | hd
    · exact hparts (hcut ▸ List.mem_cons_self) (List.mem_cons_of_mem _ hd)
    · obtain ⟨other, hother, hd⟩ := List.mem_flatMap.mp hd
      exact isNamePart_of_mem_capitalize
        (fun e he => hparts (hcut ▸ List.mem_cons_of_mem _ hother) he) hd
    · have hnode : ∀ e ∈ "Node".toList, isNamePart e := List.all_eq_true.mp rfl
      exact hnode d hd

end Synthesis

end AttributeGrammar
