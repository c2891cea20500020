import Mathlib.Data.List.Nodup
import AttributeGrammar.Proofs.Synthesis.Closure

/-!
# What a dispatch method selects

* `selections` — the terminals that select an alternative, before conditions are made of them.
* `emits_selections` — the conditions of a dispatch method are made of them, one for one.
* `body_unique` — a terminal selects one alternative.
* `terminal_eq_of_check` — in code whose kinds of tokens have different names no two terminals share a
  condition.
* `nodup_variants` — the kinds of tokens of a grammar that was read have different names.
* `dispatch_unambiguous` — the order of the conditions does not matter, if no two kinds of tokens have one name.
* `dispatch_ambiguous` — it does in a grammar whose regex terminals have names that spell one identifier.
-/

set_option autoImplicit false

namespace AttributeGrammar.Synthesis

variable {grammar : Grammar} {analysis : Analysis} {tokens : TokenSpec} {rule : Rule}
  {node : NodeType} {t u : Terminal} {branches order : List Branch}

/-- A number behind every terminal of a set, without the marker for the empty string. -/
def tied (set : TerminalSet) (body : Nat) : List (Terminal × Nat) :=
  (set.toList.filter (· ≠ .empty)).map fun t => (t, body)

/-- The terminals that select an alternative, each with the number of the alternative: those of the FIRST
set of each alternative, then those of the FOLLOW set of the rule for the alternative that is taken for
nothing. -/
def selections (analysis : Analysis) (rule : Rule) : List (Terminal × Nat) :=
  let firsts := rule.alternatives.map fun alternative => analysis.firstSet alternative.symbols
  (firsts.zipIdx.map fun (set, body) => tied set body).flatten ++
    ((nullableBody? firsts).map (tied (analysis.getFollow rule.name))).getD []

/-! ## Conditions and terminals -/

/-- The condition was made of the terminal, and selects the same alternative. -/
def Branch.MadeOf (selection : Terminal × Nat) (branch : Branch) : Prop :=
  checkOf selection.1 = .ok branch.check ∧ selection.2 = branch.body

theorem emits_tied {set : TerminalSet} {body : Nat} (h : branchesOf body set = .ok branches) :
    List.Forall₂ Branch.MadeOf (tied set body) branches := by
  refine List.forall₂_map_left_iff.mpr ((Outcome.mapM_eq_ok.mp h).imp fun t branch hmade => ?_)
  obtain ⟨check, hcheck, hmade⟩ := Outcome.except_bind_eq_ok.mp hmade
  cases hmade
  exact ⟨hcheck, rfl⟩

/-- **The conditions of a dispatch method are made of the terminals that select, one for one.** -/
theorem emits_selections {source : Source} (h : dispatchOf source rule = .ok branches) :
    List.Forall₂ Branch.MadeOf (selections source.analysis rule) branches := by
  obtain ⟨made, more, rfl, hmade, hmore⟩ := dispatchOf_eq_ok h
  refine List.rel_append ?_ ?_
  · refine List.rel_flatten (List.forall₂_map_left_iff.mpr (hmade.imp fun entry branches hof => ?_))
    exact emits_tied hof
  · rcases hmore with ⟨body, hbody, hof⟩ | ⟨hnone, rfl⟩
    · simp only [Source.firstSets] at hbody
      rw [hbody]
      exact emits_tied hof
    · simp only [Source.firstSets] at hnone
      rw [hnone]
      exact .nil

theorem mem_tied {set : TerminalSet} {body other : Nat} (h : (t, other) ∈ tied set body) :
    t ∈ set ∧ t ≠ .empty ∧ other = body := by
  obtain ⟨_, hmem, heq⟩ := List.mem_map.mp h
  cases heq
  obtain ⟨hmem, hne⟩ := List.mem_filter.mp hmem
  exact ⟨Std.ExtTreeSet.mem_toList.mp hmem, of_decide_eq_true hne, rfl⟩

/-- A terminal that selects an alternative picks it. -/
theorem picks_of_mem_selections {body : Nat} (h : analysis.Faithful grammar.flat)
    (hmem : (t, body) ∈ selections analysis rule) :
    ∃ alternative, rule.alternatives[body]? = some alternative ∧ grammar.Picks rule alternative t := by
  rcases List.mem_append.mp hmem with hmem | hmem
  · obtain ⟨_, hset, hmem⟩ := List.mem_flatten.mp hmem
    obtain ⟨⟨set, index⟩, hplace, rfl⟩ := List.mem_map.mp hset
    obtain ⟨ht, hne, rfl⟩ := mem_tied hmem
    rw [List.mem_zipIdx_iff_getElem?, List.getElem?_map] at hplace
    obtain ⟨alternative, halt, rfl⟩ := Option.map_eq_some_iff.mp hplace
    exact ⟨alternative, halt, Or.inl ((h.mem_firstSet_iff hne).mp ht)⟩
  · rcases hnullable : nullableBody? (rule.alternatives.map fun alternative =>
      analysis.firstSet alternative.symbols) with _ | last
    · rw [hnullable] at hmem
      cases hmem
    · rw [hnullable] at hmem
      obtain ⟨ht, hne, rfl⟩ := mem_tied hmem
      obtain ⟨set, hset, hempty⟩ := mem_of_nullableBody? hnullable
      rw [List.getElem?_map] at hset
      obtain ⟨alternative, halt, rfl⟩ := Option.map_eq_some_iff.mp hset
      exact ⟨alternative, halt,
        Or.inr ⟨h.empty_mem_firstSet_iff.mp hempty, h.mem_getFollow_iff.mp ht⟩⟩

/-- **A terminal selects one alternative.** -/
theorem body_unique (h : Analysis.ofGrammar grammar = .ok analysis) (hrule : rule ∈ grammar.rules) {i j : Nat}
    (hi : (t, i) ∈ selections analysis rule) (hj : (t, j) ∈ selections analysis rule) : i = j := by
  have hfaithful := Analysis.faithful_of_ofGrammar h
  obtain ⟨a, ha, hpicka⟩ := picks_of_mem_selections hfaithful hi
  obtain ⟨b, hb, hpickb⟩ := picks_of_mem_selections hfaithful hj
  exact Grammar.picks_unique (Analysis.deterministic_of_ofGrammar h) hrule ha hb hpicka hpickb

/-- Two alternatives that may be empty are one. -/
theorem nullable_unique (h : Analysis.ofGrammar grammar = .ok analysis)
    (hrule : rule ∈ grammar.rules) {i j : Nat}
    {a b : Alternative} (ha : rule.alternatives[i]? = some a) (hb : rule.alternatives[j]? = some b)
    (hemptya : .empty ∈ analysis.firstSet a.symbols)
    (hemptyb : .empty ∈ analysis.firstSet b.symbols) : i = j := by
  have hfaithful := Analysis.faithful_of_ofGrammar h
  exact Grammar.vanishes_unique (Analysis.deterministic_of_ofGrammar h) hrule ha hb
    (hfaithful.empty_mem_firstSet_iff.mp hemptya) (hfaithful.empty_mem_firstSet_iff.mp hemptyb)

/-! ## Names of kinds -/

/-- Kinds of tokens that have one identifier have one name, when no two kinds have one identifier. -/
theorem kindName_unique {variants : List String} (hvariants : tokens.variants = .ok variants)
    (hnodup : variants.Nodup) {a b kind : String} (ha : a ∈ tokens.kindNames) (hb : b ∈ tokens.kindNames)
    (hkinda : ident a = .ok kind) (hkindb : ident b = .ok kind) : a = b := by
  have hmade := Outcome.mapM_eq_ok.mp hvariants
  have hplace : ∀ {name : String}, name ∈ tokens.kindNames → ident name = .ok kind →
      ∃ i : Nat, tokens.kindNames[i]? = some name ∧ variants[i]? = some kind := by
    intro name hname hkind
    obtain ⟨i, hi⟩ := List.mem_iff_getElem?.mp hname
    obtain ⟨variant, hvariant, hident⟩ := Outcome.exists_getElem?_right hmade hi
    cases hkind.symm.trans hident
    exact ⟨i, hi, hvariant⟩
  obtain ⟨i, hi, hvarianti⟩ := hplace ha hkinda
  obtain ⟨j, hj, hvariantj⟩ := hplace hb hkindb
  have hlt := (List.getElem?_eq_some_iff.mp hvarianti).1
  obtain rfl := (List.getElem?_inj hlt hnodup).mp (hvarianti.trans hvariantj.symm)
  exact Option.some.inj (hi.symm.trans hj)

/-- **No two terminals of a rule share a condition**, in code whose kinds of tokens have different names. -/
theorem terminal_eq_of_check (h : Analysis.ofGrammar grammar = .ok analysis) (hrule : rule ∈ grammar.rules)
    {nodes : List NodeType} {variants : List String}
    (hnodes : List.Forall₂ (fun rule node => nodeTypeOf ⟨grammar, analysis, tokens⟩ rule = .ok node)
      grammar.rules nodes)
    (hvariants : tokens.variants = .ok variants) (hnodup : variants.Nodup) {i j : Nat} {check : Check}
    (hi : (t, i) ∈ selections analysis rule) (hj : (u, j) ∈ selections analysis rule)
    (ht : checkOf t = .ok check) (hu : checkOf u = .ok check) : t = u := by
  have hknown : ∀ {name body}, (Terminal.regex name, body) ∈ selections analysis rule →
      name ∈ tokens.kindNames := by
    intro name body hmem
    obtain ⟨alternative, halt, hpicks⟩ := picks_of_mem_selections (Analysis.faithful_of_ofGrammar h) hmem
    exact mem_kindNames (hasRegex_of_picks hnodes hrule (List.mem_of_getElem? halt) hpicks)
  cases check with
  | kind kind =>
    obtain ⟨a, rfl, hkinda⟩ := terminal_of_checkOf ht
    obtain ⟨b, rfl, hkindb⟩ := terminal_of_checkOf hu
    rw [kindName_unique hvariants hnodup (hknown hi) (hknown hj) hkinda hkindb]
  | text | endOfInput => exact (terminal_of_checkOf ht).trans (terminal_of_checkOf hu).symm

/-- The names of the regex terminals that were registered differ. -/
theorem nodup_names_of_ofGrammar (h : TokenSpec.ofGrammar grammar = .ok tokens) :
    (tokens.regexes.map RegexTerminal.name).Nodup := by
  refine Outcome.foldlM_keeps (fun spec : TokenSpec => (spec.regexes.map RegexTerminal.name).Nodup)
    (fun _ _ _ _ hspec hstep => nodup_names_of_addRegex hspec hstep) ?_ h
  exact List.nodup_nil

/-- **The kinds of tokens of a grammar that was read have different names.** -/
theorem nodup_variants (hgrammar : grammar.WellFormed) (htokens : TokenSpec.ofGrammar grammar = .ok tokens)
    {variants : List String} (hvariants : tokens.variants = .ok variants) : variants.Nodup := by
  have hregexes := mem_regexes_of_ofGrammar htokens
  have hself : ∀ name ∈ tokens.kindNames, ∀ kind, ident name = .ok kind → kind = name := by
    intro name hname kind hkind
    rcases List.mem_append.mp hname with hname | hname
    · obtain ⟨regex, hregex, rfl⟩ := List.mem_map.mp hname
      exact eq_of_ident
        (Description.isIdentifier_of_isRegexName (hgrammar.regexes regex (hregexes regex hregex).1)) hkind
    · have hfixed : ∀ name ∈ ["TEXT", "END"], ident name = .ok name := by decide +kernel
      exact Except.ok.inj (hkind.symm.trans (hfixed name hname))
  have hsame : tokens.kindNames = variants := by
    obtain ⟨hlength, hzip⟩ := List.forall₂_iff_zip.mp (Outcome.mapM_eq_ok.mp hvariants)
    exact List.forall₂_eq_eq_eq ▸ List.forall₂_iff_zip.mpr ⟨hlength, fun {name kind} hpair =>
      (hself name (List.of_mem_zip hpair).1 kind (hzip hpair)).symm⟩
  rw [← hsame]
  exact nodup_kindNames (nodup_names_of_ofGrammar htokens) fun regex hregex => (hregexes regex hregex).2

/-! ## The order of conditions -/

/-- One token satisfies one condition. -/
theorem check_unique {token : Token} {a b : Check} (ha : a.holds token) (hb : b.holds token) : a = b := by
  cases a <;> cases b <;> simp_all [Check.holds, Token.isText]

/-- The first element that satisfies a condition has the same value in every order, if all that satisfy it
have. -/
theorem find?_map_eq_of_perm {α β : Type} {holds : α → Bool} {value : α → β} {as bs : List α}
    (hperm : as.Perm bs)
    (hunique : ∀ a ∈ bs, ∀ b ∈ bs, holds a → holds b → value a = value b) :
    (as.find? holds).map value = (bs.find? holds).map value := by
  rcases hb : bs.find? holds with _ | b
  · have hnone := List.find?_eq_none.mp hb
    rw [List.find?_eq_none.mpr fun a ha => hnone a (hperm.mem_iff.mp ha)]
  · have hmem := List.mem_of_find?_eq_some hb
    have hsome : (as.find? holds).isSome :=
      List.find?_isSome.mpr ⟨b, hperm.mem_iff.mpr hmem, List.find?_some hb⟩
    obtain ⟨a, ha⟩ := Option.isSome_iff_exists.mp hsome
    rw [ha, Option.map_some, Option.map_some, hunique a (hperm.mem_iff.mp (List.mem_of_find?_eq_some ha)) b hmem
      (List.find?_some ha) (List.find?_some hb)]

/-- The alternative that a list of terminals selects for a terminal. -/
def selected? (selections : List (Terminal × Nat)) (t : Terminal) : Option Nat :=
  (selections.find? fun selection => selection.1 = t).map Prod.snd

/-- The body that conditions select for a token. -/
def bodyFor? (branches : List Branch) (token : Token) : Option Nat :=
  (branches.find? fun branch => branch.check.holds token).map Branch.body

/-- Two lists of conditions that select the same for every token select the same in a run, if both are empty or
neither is. -/
theorem selectBody_congr (hlength : order.length = branches.length)
    (hsame : ∀ token, bodyFor? order token = bodyFor? branches token) :
    selectBody order = selectBody branches := by
  have hempty : order.isEmpty = branches.isEmpty := by
    rw [Bool.eq_iff_iff, List.isEmpty_iff_length_eq_zero, List.isEmpty_iff_length_eq_zero, hlength]
  unfold selectBody
  simp only [bodyFor?] at hsame
  simp only [hempty, hsame]

/-- **Dispatch is unambiguous.** Of a grammar whose analysis succeeds no terminal selects two alternatives
of a rule, at most one alternative may be empty, and in any order the terminals select the same. In a parser
that is made of it for any kinds of tokens the conditions are made of these terminals, and in any order they
select the same for every token. For this the kinds of tokens must have different names, as they must to be
declared; those that are made of a grammar that was read have. -/
theorem dispatch_unambiguous (h : Analysis.ofGrammar grammar = .ok analysis) {index : Nat}
    (hrule : grammar.rules[index]? = some rule) :
    (∀ t i j, (t, i) ∈ selections analysis rule → (t, j) ∈ selections analysis rule → i = j) ∧
    (∀ (i j : Nat) (a b : Alternative), rule.alternatives[i]? = some a → rule.alternatives[j]? = some b →
      .empty ∈ analysis.firstSet a.symbols → .empty ∈ analysis.firstSet b.symbols → i = j) ∧
    (∀ order : List (Terminal × Nat), order.Perm (selections analysis rule) →
      ∀ t, selected? order t = selected? (selections analysis rule) t) ∧
    ∀ tokens main parser variants, parserOf ⟨grammar, analysis, tokens⟩ main = .ok parser →
      tokens.variants = .ok variants →
      ∃ node, parser.nodes[index]? = some node ∧
        List.Forall₂ Branch.MadeOf (selections analysis rule) node.dispatch ∧
        (variants.Nodup → ∀ order : List Branch, order.Perm node.dispatch →
          (∀ token, bodyFor? order token = bodyFor? node.dispatch token) ∧
            selectBody order = selectBody node.dispatch) ∧
        (grammar.WellFormed → TokenSpec.ofGrammar grammar = .ok tokens → variants.Nodup) := by
  have hmem := List.mem_of_getElem? hrule
  have hunique : ∀ t i j, (t, i) ∈ selections analysis rule → (t, j) ∈ selections analysis rule → i = j :=
    fun t i j => body_unique h hmem
  refine ⟨hunique, fun i j a b => nullable_unique h hmem, fun order hperm t => ?_,
    fun tokens main parser variants hparser hvariants => ?_⟩
  · refine find?_map_eq_of_perm hperm ?_
    rintro ⟨u, i⟩ hi ⟨v, j⟩ hj hu hv
    obtain rfl := (of_decide_eq_true hu).trans (of_decide_eq_true hv).symm
    exact hunique _ i j hi hj
  obtain ⟨start, -, hparts⟩ := parserOf_eq_ok hparser
  obtain ⟨node, hnode, hof⟩ := Outcome.exists_getElem?_right hparts.nodes hrule
  have hemits := emits_selections (nodeTypeOf_eq_ok hof).dispatch
  refine ⟨node, hnode, hemits, fun hnodup order hperm => ?_,
    fun hgrammar htokens => nodup_variants hgrammar htokens hvariants⟩
  have hsame : ∀ token, bodyFor? order token = bodyFor? node.dispatch token := by
    refine fun token => find?_map_eq_of_perm hperm fun a ha b hb hholdsa hholdsb => ?_
    obtain ⟨⟨t, i⟩, hi, ht, rfl⟩ := Outcome.exists_mem_left hemits ha
    obtain ⟨⟨u, j⟩, hj, hu, rfl⟩ := Outcome.exists_mem_left hemits hb
    rw [check_unique hholdsa hholdsb] at ht
    obtain rfl := terminal_eq_of_check h hmem hparts.nodes hvariants hnodup hi hj ht hu
    exact hunique t _ _ hi hj
  exact ⟨hsame, selectBody_congr hperm.length_eq hsame⟩

/-- A list is read on while an `x` is ahead and ends at the end of the input, in whatever order this is
asked. -/
theorem dispatch_unambiguous_list : ∃ grammar analysis generated rule node,
    (Description.readResolved "list : 'x' list\nlist : EPS\nlist\n").1 = .ok grammar ∧
      Analysis.ofGrammar grammar = .ok analysis ∧ generate grammar false = .ok generated ∧
      grammar.rules[0]? = some rule ∧ generated.parser.nodes[0]? = some node ∧
      node.dispatch = [⟨.text "x", 0⟩, ⟨.endOfInput, 1⟩] ∧
      selectBody [⟨.endOfInput, 1⟩, ⟨.text "x", 0⟩] = selectBody node.dispatch := by
  have hpasses : passes "list : 'x' list\nlist : EPS\nlist\n" false (fun grammar generated =>
      grammar.rules.length = 1 && generated.parser.nodes.map NodeType.dispatch =
        [[⟨.text "x", 0⟩, ⟨.endOfInput, 1⟩]]) := by
    decide +kernel
  obtain ⟨grammar, generated, hread, hgenerate, hcheck⟩ := exists_of_passes hpasses
  obtain ⟨hrules, hdispatch⟩ := Bool.and_eq_true_iff.mp hcheck
  obtain ⟨rule, hrule⟩ := List.length_eq_one_iff.mp (of_decide_eq_true hrules)
  obtain ⟨node, hnode, hdispatch⟩ := List.map_eq_singleton_iff.mp (of_decide_eq_true hdispatch)
  obtain ⟨analysis, hanalysis, htokens, hvariants, hparser⟩ := generate_eq_ok hgenerate
  have hfirst : grammar.rules[0]? = some rule := by rw [hrule]; rfl
  obtain ⟨-, -, -, hemitted⟩ := dispatch_unambiguous hanalysis hfirst
  obtain ⟨found, hfound, -, horder, hnodup⟩ := hemitted _ false _ _ hparser hvariants
  rw [hnode] at hfound
  cases hfound
  refine ⟨grammar, analysis, generated, rule, node, hread, hanalysis, hgenerate, hfirst, by rw [hnode]; rfl,
    hdispatch, ?_⟩
  refine (horder (hnodup (Description.wellFormed_of_readResolved hread) htokens) _ ?_).2
  rw [hdispatch]
  exact .swap _ _ _

open AttributeGrammar.Outcome (stateBehind) in
/-- A grammar whose two alternatives begin with regex terminals of different names that spell one identifier. -/
def doubled : Grammar :=
  let start := fun kind => stateBehind (Rule.push (.regex kind)) (Rule.new "s")
  let grammar :=
    stateBehind (Grammar.addRule (start " X")) (stateBehind (Grammar.addRule (start "X")) Grammar.empty)
  ((grammar.setStart "s").addRegex "X" "a").addRegex " X" "b"

/-- **Two terminals whose names spell one identifier share a condition.** The grammar is built by edits,
resolves to itself and its analysis succeeds, so that no terminal selects two alternatives. But in the
parser that is made of it both alternatives have the same condition, and which of them a token selects
depends on the order. -/
theorem dispatch_ambiguous : doubled.Built ∧ doubled.resolve.1 = .ok doubled ∧ ∃ analysis generated rule node,
    Analysis.ofGrammar doubled = .ok analysis ∧ generate doubled false = .ok generated ∧
      doubled.rules[0]? = some rule ∧ generated.parser.nodes[0]? = some node ∧
      selections analysis rule = [(.regex "X", 0), (.regex " X", 1)] ∧
      node.dispatch = [⟨.kind "X", 0⟩, ⟨.kind "X", 1⟩] ∧
      ∃ order : List Branch, order.Perm node.dispatch ∧
        ∃ token, bodyFor? order token ≠ bodyFor? node.dispatch token := by
  have hbuilt : doubled.Built :=
    .addRegex _ _
      (.addRegex _ _ (.setStart _ (.addRule (.addRule .empty (.push _ (.new _))) (.push _ (.new _)))))
  have hresolve : doubled.resolve.1.toOption = some doubled := by decide +kernel
  have hgenerate : (generate doubled false).toOption.any fun generated =>
      generated.parser.nodes.map NodeType.dispatch = [[⟨.kind "X", 0⟩, ⟨.kind "X", 1⟩]] := by
    decide +kernel
  have hselections : (Analysis.ofGrammar doubled).toOption.any fun analysis =>
      doubled.rules.map (selections analysis) = [[(.regex "X", 0), (.regex " X", 1)]] := by
    decide +kernel
  obtain ⟨generated, hgenerate, hdispatch⟩ := (Option.any_eq_true _ _).mp hgenerate
  obtain ⟨analysis, hanalysis, hselections⟩ := (Option.any_eq_true _ _).mp hselections
  obtain ⟨node, hnode, hdispatch⟩ := List.map_eq_singleton_iff.mp (of_decide_eq_true hdispatch)
  obtain ⟨rule, hrule, hselections⟩ := List.map_eq_singleton_iff.mp (of_decide_eq_true hselections)
  refine ⟨hbuilt, Outcome.eq_ok_iff.mpr hresolve, analysis, generated, rule, node,
    Outcome.eq_ok_iff.mpr hanalysis,
    Outcome.eq_ok_iff.mpr hgenerate, by rw [hrule]; rfl, by rw [hnode]; rfl, hselections, hdispatch,
    [⟨.kind "X", 1⟩, ⟨.kind "X", 0⟩], ?_, ⟨.regex "X", "a", 0⟩, ?_⟩
  · rw [hdispatch]
    exact .swap _ _ _
  · rw [hdispatch]
    decide

end AttributeGrammar.Synthesis
