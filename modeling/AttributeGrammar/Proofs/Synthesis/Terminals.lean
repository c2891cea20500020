import AttributeGrammar.Proofs.Analysis.Exactness
import AttributeGrammar.Proofs.Description.References
import AttributeGrammar.Proofs.Synthesis.Closure

/-!
# The terminals of the analysis and the tokens of the scanner

The analysis collects terminals from the symbols of the alternatives, and the scanner is made of the
literals and the regex terminals of the grammar. Both come to the same.

* `Grammar.text_mem_terminals_iff`, `Grammar.hasRegex_of_mem_terminals` — the terminals that occur are the
  literals of the grammar and some of its regex terminals.
* `Analysis.mem_terminals_of_getFirst`, `Analysis.mem_terminals_of_getFollow` — all sets are made of
  terminals that occur.
* `Check.InTables` — the tables of the emitted scanner hold a token for a condition.
* `aligned_of_readResolved` — **so the analysis of a description agrees with its scanner**, as `Aligned` tells.
-/

set_option autoImplicit false

namespace AttributeGrammar

variable {grammar : Grammar} {literal name : String} {t : Terminal} {symbols : List Symbol}

/-! ## The terminals that occur -/

theorem Item.mem_literal?_iff {item : Item} :
    literal ∈ item.literal? ↔ item.symbol? = some (.terminal (.text literal)) := by
  cases item with
  | text | assignText => simp [literal?, symbol?]
  | regex | assignRegex =>
    simp only [literal?, symbol?, Symbol.ofRegexName]
    split
    · simp
    · simp
  | rule | assignRule | action => simp [literal?, symbol?]

namespace Grammar

theorem text_mem_terminals_iff : .text literal ∈ grammar.flat.terminals ↔ literal ∈ grammar.literals := by
  rw [Flat.mem_terminals_iff, mem_flat_symbols_iff (by simp), mem_literals]
  simp only [reduceCtorEq, ne_eq, not_false_eq_true, true_and, false_or, Alternative.symbols,
    List.mem_filterMap,
    Item.mem_literal?_iff]

/-- A regex terminal that occurs is declared when the grammar refers to nothing in vain. -/
theorem hasRegex_of_mem_terminals (hreferences : grammar.referenceFault? = none)
    (h : .regex name ∈ grammar.flat.terminals) : grammar.hasRegex name := by
  have hsymbol := ((Flat.mem_terminals_iff.mp h).resolve_left (by simp)).2
  obtain ⟨rule, hrule, alternative, halt, hsymbol⟩ := (mem_flat_symbols_iff (by simp)).mp hsymbol
  obtain ⟨item, hitem, hsymbol⟩ := List.mem_filterMap.mp hsymbol
  exact hasRegex_of_itemFault? hsymbol ((referenceFault?_eq_none_iff.mp hreferences).2 rule hrule item
    (List.mem_flatMap.mpr ⟨alternative, halt, hitem⟩))

end Grammar

/-! ## The sets of the analysis -/

namespace Analysis

variable {analysis later : Analysis}

/-- A terminal of a FIRST set is one of the sequence, or occurs. -/
theorem mem_symbols_of_firstSet (h : later.Faithful grammar.flat) (hne : t ≠ .empty)
    (ht : t ∈ later.firstSet symbols) : .terminal t ∈ symbols ∨ .terminal t ∈ grammar.flat.symbols :=
  ((h.mem_firstSet_iff hne).mp ht).mem

/-- **A FIRST set holds terminals that occur, and the marker for the empty string**, if the terminals of the
sequence occur. -/
theorem mem_terminals_of_getFirst (h : later.Faithful grammar.flat)
    (hsymbols : ∀ t, .terminal t ∈ symbols → .terminal t ∈ grammar.flat.symbols)
    (ht : t ∈ (getFirst symbols later).1) : t ∈ later.terminals ∨ t = .empty := by
  rw [h.getFirst_eq_firstSet] at ht
  by_cases hempty : t = .empty
  · exact Or.inr hempty
  · rw [h.terminals_eq, Flat.mem_terminals_iff]
    exact Or.inl (Or.inr ⟨hempty, (mem_symbols_of_firstSet h hempty ht).elim (hsymbols t) id⟩)

/-- **A FOLLOW set holds terminals that occur.** -/
theorem mem_terminals_of_getFollow (h : later.Faithful grammar.flat) (ht : t ∈ later.getFollow name) :
    t ∈ later.terminals := by
  rw [h.terminals_eq]
  exact (h.mem_getFollow_iff.mp ht).mem_terminals

end Analysis

namespace Synthesis

variable {analysis : Analysis} {tokens : TokenSpec} {generated : Generated} {rule : Rule} {node : NodeType}
  {branch : Branch} {main : Bool}

/-! ## The tables of the scanner -/

/-- The tables of the emitted scanner hold a token for a condition: the literal, or the regex terminal under the
identifier of its kind. The end of the input every scanner delivers. -/
def Check.InTables (generated : Generated) : Check → Prop
  | .text literal => literal ∈ generated.tokens.literals
  | .kind name => ∃ regex, (name, regex) ∈ generated.variants.zip generated.tokens.regexes
  | .endOfInput => True

/-- A regex terminal stands in the table of a scanner under the identifier of its name. -/
theorem exists_mem_zip (hvariants : generated.tokens.variants = .ok generated.variants)
    (hregex : generated.tokens.hasRegex name) {kind : String} (hident : ident name = .ok kind) :
    ∃ regex, (kind, regex) ∈ generated.variants.zip generated.tokens.regexes := by
  obtain ⟨regex, hmem, hname⟩ := List.any_eq_true.mp hregex
  obtain rfl : regex.name = name := by simpa using hname
  obtain ⟨index, hindex⟩ := List.mem_iff_getElem?.mp hmem
  have hkind : generated.tokens.kindNames[index]? = some regex.name := by
    rw [TokenSpec.kindNames, List.getElem?_append_left (by simpa using (List.getElem?_eq_some_iff.mp hindex).1),
      List.getElem?_map, hindex, Option.map_some]
  obtain ⟨variant, hvariant, hof⟩ := Outcome.exists_getElem?_right (Outcome.mapM_eq_ok.mp hvariants) hkind
  cases hident.symm.trans hof
  refine ⟨regex, List.mem_iff_getElem?.mpr ⟨index, ?_⟩⟩
  rw [List.getElem?_zip_eq_some]
  exact ⟨hvariant, hindex⟩

/-- **Every condition asks for a token of the tables.** -/
theorem inTables_of_mem_dispatch (h : generate grammar main = .ok generated)
    (hnode : node ∈ generated.parser.nodes)
    (hbranch : branch ∈ node.dispatch) : branch.check.InTables generated := by
  obtain ⟨analysis, hanalysis, htokens, hvariants, hparser⟩ := generate_eq_ok h
  obtain ⟨start, -, hmade⟩ := parserOf_eq_ok hparser
  have hfaithful := Analysis.faithful_of_ofGrammar hanalysis
  obtain ⟨rule, hrule, hof⟩ := Outcome.exists_mem_left hmade.nodes hnode
  obtain ⟨check, body⟩ := branch
  cases check with
  | text literal =>
    obtain ⟨alternative, t, halt, hpicks, hcheck⟩ := picks_of_mem_dispatch hfaithful hof hbranch
    obtain rfl : t = .text literal := terminal_of_checkOf hcheck
    have hoccurs := mem_terminals_of_picks hrule (List.mem_of_getElem? halt) hpicks
    show literal ∈ generated.tokens.literals
    rw [eq_of_ofGrammar htokens]
    exact Grammar.text_mem_terminals_iff.mp hoccurs
  | kind name =>
    obtain ⟨regex, hregex, hident⟩ := hasRegex_of_mem_dispatch hfaithful hmade.nodes hrule hof hbranch rfl
    exact exists_mem_zip hvariants hregex hident
  | endOfInput => trivial

/-- The analysis of a grammar agrees with the tokens of its scanner. -/
structure Aligned (grammar : Grammar) (tokens : TokenSpec) (analysis : Analysis) : Prop where
  /-- The literals that occur are those of the scanner. -/
  literals : ∀ literal, .text literal ∈ analysis.terminals ↔ literal ∈ tokens.literals
  /-- The scanner has the regex terminals that occur. -/
  regexes : ∀ name, .regex name ∈ analysis.terminals → tokens.hasRegex name
  /-- The FIRST set of a sequence whose terminals occur in the grammar holds terminals that occur, and the
  marker for the empty string, whatever was asked before. -/
  first : ∀ later, analysis.Serves later → ∀ symbols,
    (∀ t, .terminal t ∈ symbols → .terminal t ∈ grammar.flat.symbols) →
    ∀ t ∈ (Analysis.getFirst symbols later).1, t ∈ analysis.terminals ∨ t = .empty
  /-- The FOLLOW set of every name holds terminals that occur. -/
  follow : ∀ later, analysis.Serves later → ∀ name, ∀ t ∈ later.getFollow name, t ∈ analysis.terminals
  /-- The emitted conditions ask for tokens of the tables that are emitted with them. -/
  emitted : ∀ main generated, generate grammar main = .ok generated → ∀ node ∈ generated.parser.nodes,
    ∀ branch ∈ node.dispatch, branch.check.InTables generated

/-- **The analysis of a description agrees with its scanner.** -/
theorem aligned_of_readResolved {text : String} (hread : (Description.readResolved text).1 = .ok grammar)
    (htokens : TokenSpec.ofGrammar grammar = .ok tokens)
    (hanalysis : Analysis.ofGrammar grammar = .ok analysis) :
    Aligned grammar tokens analysis := by
  have hfaithful := Analysis.faithful_of_ofGrammar hanalysis
  have hterminals : ∀ {later}, analysis.Serves later → later.terminals = analysis.terminals := fun hserves =>
    (hserves.faithful hfaithful).terminals_eq.trans hfaithful.terminals_eq.symm
  rw [eq_of_ofGrammar htokens]
  refine ⟨fun literal => ?_, fun name hname => ?_, fun later hserves symbols hsymbols t ht => ?_,
    fun later hserves name t ht => ?_, fun main generated hgenerate node hnode branch hbranch => ?_⟩
  · rw [hfaithful.terminals_eq]
    exact Grammar.text_mem_terminals_iff
  · rw [hfaithful.terminals_eq] at hname
    exact Grammar.hasRegex_of_mem_terminals (Description.grounded_of_readResolved hread).references hname
  · rw [← hterminals hserves]
    exact Analysis.mem_terminals_of_getFirst (hserves.faithful hfaithful) hsymbols ht
  · rw [← hterminals hserves]
    exact Analysis.mem_terminals_of_getFollow (hserves.faithful hfaithful) ht
  · exact inTables_of_mem_dispatch hgenerate hnode hbranch

/-- Numbers between plus signs: the conditions ask for a number, for a plus sign and for the end of the
input. -/
theorem aligned_sum : ∃ grammar generated analysis,
    (Description.readResolved "NUM : '[0-9]+'\nsum : NUM rest\nrest : '+' NUM rest\nrest : EPS\nsum\n").1 =
        .ok grammar ∧
      TokenSpec.ofGrammar grammar = .ok generated.tokens ∧ Analysis.ofGrammar grammar = .ok analysis ∧
      generate grammar false = .ok generated ∧ Aligned grammar generated.tokens analysis ∧
      generated.parser.nodes.map NodeType.dispatch =
        [[⟨.kind "NUM", 0⟩], [⟨.text "+", 0⟩, ⟨.endOfInput, 1⟩]] := by
  have hpasses : passes "NUM : '[0-9]+'\nsum : NUM rest\nrest : '+' NUM rest\nrest : EPS\nsum\n" false
      (fun _ generated => generated.parser.nodes.map NodeType.dispatch =
        [[⟨.kind "NUM", 0⟩], [⟨.text "+", 0⟩, ⟨.endOfInput, 1⟩]]) := by
    decide +kernel
  obtain ⟨grammar, generated, hread, hgenerate, hcheck⟩ := exists_of_passes hpasses
  obtain ⟨analysis, hanalysis, htokens, -, -⟩ := generate_eq_ok hgenerate
  exact ⟨grammar, generated, analysis, hread, htokens, hanalysis, hgenerate,
    aligned_of_readResolved hread htokens hanalysis, of_decide_eq_true hcheck⟩

end Synthesis

end AttributeGrammar
