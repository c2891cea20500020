import AttributeGrammar.Proofs.Code.Spelling
import AttributeGrammar.Proofs.Synthesis.Emission
import AttributeGrammar.Synthesis.Render

/-!
# Kinds of tokens with the same identifier

* `Code.bareName` — the name that an identifier has, which may be a raw one.
* `TokenSpec.Call`, `TokenSpec.built` — what a history of calls leaves, some of which fail.
* `TokenSpec.Registered`, `TokenSpec.registered_built` — no call takes a name that is taken or reserved.
* `TokenSpec.Clash` — two names spell identifiers of the same name.
* `TokenSpec.variants_distinct_iff` — when the kinds of tokens of what was built have different identifiers.
-/

set_option autoImplicit false

namespace AttributeGrammar

namespace Code

/-- The name of an identifier, without the mark of a raw one. -/
def bareName (name : String) : String :=
  match name.toList with
  | 'r' :: '#' :: rest => String.ofList rest
  | _ => name

theorem bareName_of_isIdentifier {name : String} (h : Description.IsIdentifier name) :
    bareName name = name := by
  have hpart := h.isNamePart
  unfold bareName
  split
  · rename_i rest heq
    exact absurd (hpart '#' (by simp [heq])) (by decide)
  · rfl

end Code

namespace Synthesis.TokenSpec

open Code (Spelling bareName isName)

variable {spec : TokenSpec} {variants : List String} {name other : String} {normal : String → String}

/-! ## Histories of calls -/

/-- A call that registers a literal or a regex terminal. -/
inductive Call where
  | token (text : String)
  | regex (name pattern : String)
deriving DecidableEq, Repr

/-- What there is after a call. One that fails changes nothing. -/
def after (spec : TokenSpec) : Call → TokenSpec
  | .token text => spec.addToken text
  | .regex name pattern => (spec.addRegex name pattern).toOption.getD spec

/-- What some calls make of nothing. -/
def built (calls : List Call) : TokenSpec := calls.foldl after empty

/-- The names of the regex terminals are different, and none of them is reserved. -/
structure Registered (spec : TokenSpec) : Prop where
  nodup : (spec.regexes.map RegexTerminal.name).Nodup
  free : ∀ regex ∈ spec.regexes, regex.name ∉ reservedNames

theorem Registered.after (h : spec.Registered) (call : Call) : (spec.after call).Registered := by
  cases call with
  | token text => exact ⟨h.nodup, h.free⟩
  | regex name pattern =>
    show ((spec.addRegex name pattern).toOption.getD spec).Registered
    cases hadd : spec.addRegex name pattern with
    | error e => exact h
    | ok added =>
      refine ⟨nodup_names_of_addRegex h.nodup hadd, ?_⟩
      obtain ⟨hreserved, -, -, rfl⟩ := addRegex_eq_ok.mp hadd
      exact List.forall_mem_append.mpr ⟨h.free, List.forall_mem_singleton.mpr hreserved⟩

/-- Whatever was registered or refused before, no name is taken twice and none that is reserved. -/
theorem registered_built (calls : List Call) : (built calls).Registered := by
  have hrun : ∀ {spec : TokenSpec}, spec.Registered → (calls.foldl TokenSpec.after spec).Registered := by
    induction calls with
    | nil => exact id
    | cons call calls ih => exact fun h => ih (h.after call)
  exact hrun ⟨List.nodup_nil, by simp [empty]⟩

/-! ## Identifiers of kinds -/

/-- Two names spell identifiers of one name, in the form in which names are compared. -/
def Clash (normal : String → String) (name other : String) : Prop :=
  ∃ variant variant', Spelling name variant ∧ Spelling other variant' ∧
    normal (bareName variant) = normal (bareName variant')

theorem clash_iff {variant variant' : String} (h : Spelling name variant) (h' : Spelling other variant') :
    Clash normal name other ↔ normal (bareName variant) = normal (bareName variant') := by
  constructor
  · rintro ⟨found, found', hfound, hfound', heq⟩
    rwa [hfound.unique h, hfound'.unique h'] at heq
  · exact fun heq => ⟨variant, variant', h, h', heq⟩

theorem spelling_of_ident (h : ident name = .ok other) : Spelling name other ∧ isName other := by
  unfold ident at h
  split at h
  · rename_i hname
    cases h
    exact Code.spelling_of_parseName? hname
  · cases h

theorem code_of_variants (h : spec.variants = .ok variants) : spec.code = .ok (spec.codeWith variants) :=
  Outcome.except_bind_eq_ok.mpr ⟨variants, h, rfl⟩

/-- **When the kinds of tokens have different identifiers.** Whatever was registered and refused, in the
code that is made every kind has the identifier that its name spells. Those differ, in the form in which the
compiler compares names, exactly when no two names clash; and they do when every name is the identifier
itself in that form. -/
theorem variants_distinct_iff (calls : List Call) (normal : String → String) {code : Code.TokenList}
    (h : (built calls).code = .ok code) :
    ∃ variants, code = (built calls).codeWith variants ∧
      List.Forall₂ (fun name variant => Spelling name variant ∧ isName variant)
        (built calls).kindNames variants ∧
      ((variants.map fun variant => normal (bareName variant)).Nodup ↔
        (built calls).kindNames.Pairwise fun name other => ¬ Clash normal name other) ∧
      ((∀ name ∈ (built calls).kindNames, Spelling name name ∧ normal (bareName name) = name) →
        variants = (built calls).kindNames ∧
          (variants.map fun variant => normal (bareName variant)).Nodup) := by
  obtain ⟨variants, hvariants, hcode⟩ := Outcome.except_bind_eq_ok.mp h
  obtain rfl := Except.ok.inj hcode
  have hspelled : List.Forall₂ (fun name variant => Spelling name variant ∧ isName variant)
      (built calls).kindNames variants := (Outcome.mapM_eq_ok.mp hvariants).imp fun _ _ => spelling_of_ident
  refine ⟨variants, rfl, hspelled, ?_, fun hself => ?_⟩
  · rw [List.Nodup, List.pairwise_map]
    exact (Outcome.pairwise_iff_of_forall₂ hspelled fun hname hother =>
      not_congr (clash_iff hname.1 hother.1)).symm
  · have hunique : Relator.RightUnique Spelling := fun _ _ _ hname hname' => hname.unique hname'
    have hnames : List.Forall₂ Spelling (built calls).kindNames (built calls).kindNames :=
      List.forall₂_same.mpr fun name hname => (hself name hname).1
    obtain rfl : (built calls).kindNames = variants :=
      hunique.forall₂ hnames (hspelled.imp fun _ _ hpair => hpair.1)
    have hnormal : ((built calls).kindNames.map fun name => normal (bareName name)) = (built calls).kindNames :=
      (List.map_congr_left fun name hname => (hself name hname).2).trans (List.map_id _)
    rw [hnormal]
    exact ⟨rfl, nodup_kindNames (registered_built calls).nodup (registered_built calls).free⟩

/-- Calls that are refused leave the kinds of tokens distinct. -/
theorem variants_distinct_number :
    let calls := [Call.regex "NUM" "[0-9]+", .token "+", .regex "NUM" "[a-z]", .regex "TEXT" "[a-z]+"]
    ∃ code variants, (built calls).code = .ok code ∧ code = (built calls).codeWith variants ∧
      variants = ["NUM", "TEXT", "END"] ∧ (variants.map bareName).Nodup := by
  intro calls
  have hnames : (built calls).kindNames = ["NUM", "TEXT", "END"] := by decide +kernel
  have hvariants : (built calls).variants = .ok ["NUM", "TEXT", "END"] := by decide +kernel
  have hregex : ∀ name ∈ ["NUM", "TEXT", "END"], Description.isRegexName name := by decide +kernel
  obtain ⟨variants, hcode, -, -, hself⟩ := variants_distinct_iff calls id (code_of_variants hvariants)
  obtain ⟨hsame, hnodup⟩ := hself fun name hname => by
    rw [hnames] at hname
    have hidentifier := Description.isIdentifier_of_isRegexName (hregex name hname)
    exact ⟨Code.spelling_self hidentifier, Code.bareName_of_isIdentifier hidentifier⟩
  exact ⟨_, variants, code_of_variants hvariants, hcode, hsame.trans hnames, hnodup⟩

/-- Blanks around a name are no part of the identifier that it spells, but make another name of it: so one
kind can be registered twice, and beside that of literals another one with its identifier. -/
theorem repeated_variants :
    let calls := [Call.regex "X" "a", .regex " X" "b", .regex "TEXT " "c"]
    (built calls).code = .ok ((built calls).codeWith ["X", "X", "TEXT", "TEXT", "END"]) ∧
      ¬ ["X", "X", "TEXT", "TEXT", "END"].Nodup := by
  intro calls
  have hvariants : (built calls).variants = .ok ["X", "X", "TEXT", "TEXT", "END"] := by decide +kernel
  exact ⟨code_of_variants hvariants, by decide⟩

end Synthesis.TokenSpec

end AttributeGrammar
