import AttributeGrammar.Proofs.Synthesis.Terminals

/-!
# Why no parser is generated

A description that was resolved refers to nothing in vain, so generating a parser from it never stops at a
reference. It stops for other reasons only, each of which is a fact about the grammar.

* `Grammar.Mentions` — the texts that have to be identifiers.
* `Grammar.Rejects` — the reasons why no parser is generated from a grammar, with what each one tells of it.
* `rejects_of_ofGrammar` — what stops the making of a scanner.
* `raises_statementOf` — an item of a grounded grammar finds what it refers to.
* `raises_parserOf` — what stops the making of a parser.
* `rejects_of_generate` — **generating from a resolved description stops for such a reason, if it does**.
-/

set_option autoImplicit false

namespace AttributeGrammar

open Outcome (Raises)
open Synthesis

/-- The texts of a grammar that become identifiers of its parser. -/
inductive Grammar.Mentions (grammar : Grammar) : String → Prop where
  | regex {name : String} : grammar.hasRegex name → Mentions grammar name
  | node {rule : Rule} : rule ∈ grammar.rules → Mentions grammar (nodeName rule.name)
  | var {rule : Rule} {name : String} : rule ∈ grammar.rules → rule.hasVar name → Mentions grammar name
  | action {rule : Rule} {name : String} : rule ∈ grammar.rules → name ∈ rule.actions → Mentions grammar name

/-- The reasons why no parser is generated from a grammar that refers to nothing in vain. -/
inductive Grammar.Rejects (grammar : Grammar) : SynthesisError → Prop where
  | reservedRegex {regex : RegexTerminal} : regex ∈ grammar.regexes → regex.name ∈ reservedNames →
      Rejects grammar (.inconsistent (.reservedRegex regex.name))
  | duplicateRegex {before after : List RegexTerminal} {regex : RegexTerminal} :
      grammar.regexes = before ++ regex :: after → (∃ earlier ∈ before, earlier.name = regex.name) →
      Rejects grammar (.inconsistent (.duplicateRegex regex.name))
  | invalidRegex {regex : RegexTerminal} : regex ∈ grammar.regexes →
      Pattern.compileToken? regex.pattern = none →
      Rejects grammar (.inconsistent (.invalidRegex regex.name regex.pattern))
  | conflict {conflict : Conflict} : Analysis.ofGrammar grammar = .error conflict →
      Rejects grammar (.conflict conflict)
  | invalidName {text : String} : grammar.Mentions text → Code.parseName? text = none →
      Rejects grammar (.inconsistent (.invalidName text))
  | invalidType {rule : Rule} {v : Variable} : rule ∈ grammar.rules → v ∈ rule.allVars →
      Code.parseType? v.type = none → Rejects grammar (.inconsistent (.invalidType v.type))
  | invalidCode {rule : Rule} {action code : String} : rule ∈ grammar.rules →
      rule.actions[action]? = some code →
      Code.lexCode? code = none → Rejects grammar (.inconsistent (.invalidCode action))
  | sameNode {first second : Rule} : first ∈ grammar.rules → second ∈ grammar.rules → first.name ≠ second.name →
      nodeName first.name = nodeName second.name →
      Rejects grammar (.inconsistent (.sameNode first.name second.name (nodeName second.name)))
  | reservedVariable {rule : Rule} : rule ∈ grammar.rules → rule.hasVar "children" →
      Rejects grammar (.inconsistent (.reservedVariable rule.name))
  /-- A rule calls another one without a variable for a parameter. -/
  | missingInherited {rule child : Rule} {item : Item} {v : Variable} : rule ∈ grammar.rules →
      item ∈ rule.items →
      item.symbol? = some (.nonTerminal child.name) → child ∈ grammar.rules → v ∈ child.inheritedVars →
      rule.varType? v.name = none →
      Rejects grammar (.inconsistent (.missingInherited rule.name child.name v.name))
  /-- A rule calls another one with a variable of another type than the parameter. -/
  | inheritedType {rule child : Rule} {item : Item} {v : Variable} {given : String} : rule ∈ grammar.rules →
      item ∈ rule.items → item.symbol? = some (.nonTerminal child.name) → child ∈ grammar.rules →
      v ∈ child.inheritedVars → rule.varType? v.name = some given → ¬ sameType given v.type →
      Rejects grammar (.inconsistent (.inheritedType rule.name v.name given child.name v.type))

/-- The error tells of a reference to something that is not declared, or asks for a token of the empty
string. -/
def SynthesisError.Dangling : SynthesisError → Prop
  | .inconsistent (.undeclaredRule _) | .inconsistent (.undeclaredAction _ _)
  | .inconsistent (.undeclaredRegex _)
  | .inconsistent .emptyToken => True
  | _ => False

theorem Grammar.Rejects.not_dangling {grammar : Grammar} {e : SynthesisError} (h : grammar.Rejects e) :
    ¬ e.Dangling := by
  cases h <;> exact id

namespace Synthesis

variable {grammar : Grammar} {rule : Rule} {text name : String} {v : Variable} {e : SynthesisError}

/-! ## The scanner -/

theorem rejects_of_addRegex {before rest : List RegexTerminal} {regex : RegexTerminal}
    (hall : grammar.regexes = before ++ regex :: rest)
    (h : TokenSpec.addRegex ⟨grammar.literals, before⟩ regex.name regex.pattern = .error e) :
    grammar.Rejects e := by
  have hmem : regex ∈ grammar.regexes := by
    rw [hall]
    exact List.mem_append_right _ List.mem_cons_self
  unfold TokenSpec.addRegex at h
  split at h
  · rename_i hreserved
    cases h
    exact .reservedRegex hmem hreserved
  split at h
  · rename_i hknown
    cases h
    obtain ⟨earlier, hearlier, hname⟩ := List.any_eq_true.mp hknown
    exact .duplicateRegex hall ⟨earlier, hearlier, of_decide_eq_true hname⟩
  split at h
  · rename_i hinvalid
    cases h
    exact .invalidRegex hmem (Option.isNone_iff_eq_none.mp hinvalid)
  · cases h

theorem rejects_of_addRegexes {before rest : List RegexTerminal} (hall : grammar.regexes = before ++ rest)
    (h : TokenSpec.addRegexes ⟨grammar.literals, before⟩ rest = .error e) : grammar.Rejects e := by
  induction rest generalizing before with
  | nil => cases h
  | cons regex rest ih =>
    rcases Outcome.except_bind_eq_error.mp h with hfirst | ⟨mid, hmid, hrest⟩
    · exact rejects_of_addRegex hall hfirst
    · obtain ⟨-, -, -, rfl⟩ := addRegex_eq_ok.mp hmid
      exact ih (by rw [hall, List.append_assoc, List.singleton_append]) hrest

/-- What stops the making of a scanner. -/
theorem rejects_of_ofGrammar (h : TokenSpec.ofGrammar grammar = .error e) : grammar.Rejects e :=
  rejects_of_addRegexes (List.nil_append _).symm h

/-! ## Names and fields -/

theorem raises_ident (hmentions : grammar.Mentions text) : Raises grammar.Rejects (ident text) := by
  unfold ident
  split
  · exact .ok _
  · rename_i hnone
    exact .error (.invalidName hmentions hnone)

/-- The kinds of literals and of the end are identifiers, so one that is none is that of a regex terminal. -/
theorem raises_variants {tokens : TokenSpec} (h : TokenSpec.ofGrammar grammar = .ok tokens) :
    Raises grammar.Rejects tokens.variants := by
  refine .mapM fun kind hkind => ?_
  rcases List.mem_append.mp hkind with hkind | hkind
  · obtain ⟨regex, hregex, rfl⟩ := List.mem_map.mp hkind
    rw [eq_of_ofGrammar h] at hregex
    exact raises_ident (.regex (List.any_eq_true.mpr ⟨regex, hregex, decide_eq_true rfl⟩))
  · have hreserved : ∀ kind ∈ ["TEXT", "END"], ident kind = .ok kind := by decide
    rw [hreserved kind hkind]
    exact .ok kind

theorem raises_fieldOf (hrule : rule ∈ grammar.rules) (hv : v ∈ rule.allVars) :
    Raises grammar.Rejects (fieldOf v) := by
  have hvar := Rule.hasVar_iff.mpr ⟨_, Rule.mem_allVars.mp hv⟩
  refine (raises_ident (.var hrule hvar)).bind fun name _ => ?_
  split
  · exact .ok _
  · rename_i hnone
    exact .error (.invalidType hrule hv hnone)

theorem raises_parameters (hrule : rule ∈ grammar.rules) :
    Raises grammar.Rejects (rule.inheritedVars.mapM fieldOf) :=
  .mapM fun _ hv => raises_fieldOf hrule (Rule.mem_allVars.mpr (Rule.mem_withTypes.mp hv).2)

theorem raises_export (hrule : rule ∈ grammar.rules) (hv : v ∈ rule.exportedVars) :
    Raises grammar.Rejects (ident v.name) :=
  raises_ident (.var hrule (Rule.hasVar_iff.mpr ⟨_, (Rule.mem_exportedVars.mp hv).2⟩))

theorem eq_of_methodName {action : String} (h : methodName action = .ok name) : name = action := by
  obtain ⟨_, -, h⟩ := Outcome.except_bind_eq_ok.mp h
  split at h
  · cases h
    rfl
  · cases h

/-! ## Node types -/

/-- A parser of a grammar is made from its own analysis and from a scanner of its regex terminals. -/
structure Source.Of (source : Source) (grammar : Grammar) : Prop where
  grammar_eq : source.grammar = grammar
  faithful : source.analysis.Faithful grammar.flat
  hasRegex : ∀ name, grammar.hasRegex name → source.tokens.hasRegex name

section Nodes

variable {source : Source} {item : Item}

/-- What stops the naming of the method of an action: its name is an identifier of descriptions, but not of
code. -/
theorem raises_methodName (hgrounded : grammar.Grounded) (hrule : rule ∈ grammar.rules)
    (hname : name ∈ rule.actions) :
    Raises grammar.Rejects (methodName name) := by
  refine (raises_ident (.action hrule hname)).discard.bind fun _ _ => ?_
  have hidentifier := hgrounded.names rule hrule name ((hgrounded.actions rule hrule name).mp hname)
  have hfront : Code.isPlainName "action_" := by decide
  rw [if_pos (Code.isPlainName_append hfront hidentifier)]
  exact .ok name

theorem raises_actionOf (hgrounded : grammar.Grounded) (hrule : rule ∈ grammar.rules) {entry : String × String}
    (hentry : entry ∈ rule.actions.toList) : Raises grammar.Rejects (actionOf entry) := by
  obtain ⟨action, code⟩ := entry
  have hcode : rule.actions[action]? = some code := Std.ExtTreeMap.mem_toList_iff_getElem?_eq_some.mp hentry
  have hmem : action ∈ rule.actions := by
    rw [Std.ExtTreeMap.mem_iff_isSome_getElem?, hcode]
    rfl
  refine (raises_methodName hgrounded hrule hmem).bind fun method hmethod => ?_
  split
  · exact .ok _
  · rename_i hnone
    rw [eq_of_methodName hmethod]
    exact .error (.invalidCode hrule hcode hnone)

theorem raises_ruleOf (h : (source.grammar.rule? name).isSome) :
    Raises grammar.Rejects (ruleOf source name) := by
  obtain ⟨rule, hrule⟩ := Option.isSome_iff_exists.mp h
  rw [ruleOf_eq_ok.mpr hrule]
  exact .ok rule

/-- Conditions are made of tokens only: the marker for the empty string was left out before. -/
theorem raises_branchesOf (body : Nat) {set : TerminalSet}
    (hset : ∀ name, .regex name ∈ set → grammar.hasRegex name) :
    Raises grammar.Rejects (branchesOf body set) := by
  refine .mapM fun t ht => ?_
  obtain ⟨hmem, hne⟩ := List.mem_filter.mp ht
  refine Raises.bind ?_ fun check _ => .ok _
  cases t with
  | text literal => exact .ok _
  | regex name =>
      exact (raises_ident (.regex (hset name (Std.ExtTreeSet.mem_toList.mp hmem)))).bind fun _ _ => .ok _
  | endOfInput => exact .ok _
  | empty => simp at hne

variable (hsource : source.Of grammar) (hgrounded : grammar.Grounded) (hrule : rule ∈ grammar.rules)

include hsource hgrounded hrule

theorem raises_dispatchOf : Raises grammar.Rejects (dispatchOf source rule) := by
  have hoccurs {name : String}
      (hname : .terminal (.regex name) ∈ grammar.flat.symbols) : grammar.hasRegex name :=
    Grammar.hasRegex_of_mem_terminals hgrounded.references
      (Flat.mem_terminals_iff.mpr (Or.inr ⟨by simp, hname⟩))
  refine Raises.bind (.mapM fun entry hentry => ?_) fun branches _ => ?_
  · obtain ⟨alternative, halt, hset⟩ := List.mem_map.mp (List.fst_mem_of_mem_zipIdx hentry)
    refine raises_branchesOf entry.2 fun name hname => hoccurs ?_
    rw [← hset] at hname
    refine (Analysis.mem_symbols_of_firstSet hsource.faithful (by simp) hname).elim (fun hsymbol => ?_) id
    exact (Grammar.mem_flat_symbols_iff (by simp)).mpr ⟨rule, hrule, alternative, halt, hsymbol⟩
  · split
    · refine (raises_branchesOf _ fun name hname => ?_).bind fun more _ => .ok _
      have hterminal := Analysis.mem_terminals_of_getFollow hsource.faithful hname
      rw [hsource.faithful.terminals_eq] at hterminal
      exact Grammar.hasRegex_of_mem_terminals hgrounded.references hterminal
    · exact .ok _

omit hgrounded in
/-- What stops a call of a rule that is declared: a parameter for which the calling rule has no variable of its
type. -/
theorem raises_callOf {target : String} {var : Option String} (hitem : item ∈ rule.items)
    (hsymbol : item.symbol? = some (.nonTerminal target)) (hdeclared : grammar.Declares target) :
    Raises grammar.Rejects (callOf source rule target var) := by
  refine (raises_ruleOf
    (hsource.grammar_eq ▸ Grammar.isSome_rule?_iff.mpr hdeclared)).bind fun child hchild => ?_
  obtain ⟨hmem, rfl⟩ := Grammar.mem_of_rule? (hsource.grammar_eq ▸ ruleOf_eq_ok.mp hchild)
  refine (raises_ident (.node hmem)).bind fun node _ => ?_
  refine Raises.bind (.mapM fun v hv => ?_) fun arguments _ => ?_
  · unfold argumentOf
    split
    · rename_i hnone
      exact .error (.missingInherited hrule hitem hsymbol hmem hv hnone)
    · rename_i type hgiven
      split
      · exact raises_ident (.var hrule (Rule.hasVar_iff.mpr ⟨type, hgiven⟩))
      · rename_i hdiffers
        exact .error (.inheritedType hrule hitem hsymbol hmem hv hgiven hdiffers)
  · split
    · refine Raises.bind (.mapM fun v hv => ?_) fun copies _ => .ok _
      obtain ⟨hexport, hvar⟩ := List.mem_filter.mp hv
      exact (raises_ident (.var hrule hvar)).bind fun _ _ => (raises_export hmem hexport).bind fun _ _ => .ok _
    · exact .ok _

/-- **An item finds what it refers to**: the rule, the kind of token, or the code of the action. -/
theorem raises_statementOf (hitem : item ∈ rule.items) :
    Raises grammar.Rejects (statementOf source rule item) := by
  have hfault := (Grammar.referenceFault?_eq_none_iff.mp hgrounded.references).2 rule hrule item hitem
  have hcoherent := hgrounded.coherent rule hrule
  have hkind {name : String} (hsymbol : item.symbol? = some (Symbol.ofRegexName name))
    (hne : name ≠ emptyName) :
      Raises grammar.Rejects (kindOf source name) := by
    rw [Symbol.ofRegexName_of_ne hne] at hsymbol
    have hregex := Grammar.hasRegex_of_itemFault? hsymbol hfault
    rw [kindOf, if_pos (hsource.hasRegex name hregex)]
    exact raises_ident (.regex hregex)
  have hcall {target : String} {var : Option String} (hsymbol : item.symbol? = some (.nonTerminal target)) :
      Raises grammar.Rejects (callOf source rule target var) :=
    raises_callOf hsource hrule hitem hsymbol (Grammar.declares_of_itemFault? hsymbol hfault)
  have hfield {var : String} (hvar : item.textVar? = some var) : Raises grammar.Rejects (ident var) :=
    raises_ident (.var hrule (hcoherent.declaring.texts item hitem var hvar))
  cases item with
  | text literal => exact .ok _
  | regex name =>
    by_cases hempty : name = emptyName
    · simp only [statementOf, hempty, if_true]
      exact .ok _
    · simp only [statementOf, hempty, if_false]
      exact (hkind rfl hempty).bind fun _ _ => .ok _
  | rule target => exact (hcall rfl).bind fun _ _ => .ok _
  | assignRule var target => exact (hcall rfl).bind fun _ _ => .ok _
  | assignText var literal => exact (hfield rfl).bind fun _ _ => .ok _
  | assignRegex var name =>
    have hne : name ≠ emptyName := fun heq => hcoherent.assigns _ hitem var (heq ▸ rfl)
    exact (hfield rfl).bind fun _ _ => (hkind rfl hne).bind fun _ _ => .ok _
  | action name =>
    have hcode := (hgrounded.actions rule hrule name).mpr (Rule.mem_actionCalls.mpr hitem)
    simp only [statementOf, Std.ExtTreeMap.contains_iff_mem.mpr hcode, if_true]
    exact (raises_methodName hgrounded hrule hcode).bind fun _ _ => .ok _

/-- What stops the making of a node type. -/
theorem raises_nodeTypeOf : Raises grammar.Rejects (nodeTypeOf source rule) := by
  refine (raises_ident (.node hrule)).bind fun name _ => ?_
  by_cases hchildren : rule.hasVar "children"
  · simp only [hchildren, if_true]
    exact Raises.bind (.error (.reservedVariable hrule hchildren)) fun _ hfail => by cases hfail
  · simp only [hchildren]
    refine Raises.bind (.mapM fun _ hv => raises_fieldOf hrule hv) fun fields _ => ?_
    refine (raises_parameters hrule).bind fun parameters _ => ?_
    refine (raises_dispatchOf hsource hgrounded hrule).bind fun dispatch _ => ?_
    refine Raises.bind (.mapM fun alternative halternative => ?_) fun bodies _ => ?_
    · refine Raises.bind (.mapM fun item hitem => ?_) fun _ _ => .ok _
      exact raises_statementOf hsource hgrounded hrule (List.mem_flatMap.mpr ⟨alternative, halternative, hitem⟩)
    · exact Raises.bind (.mapM fun _ hentry => raises_actionOf hgrounded hrule hentry) fun actions _ => .ok _

end Nodes

/-! ## The parser -/

/-- Rules whose nodes would have one type are two rules of the grammar. -/
theorem rejects_of_sameNode? {before : List String} {rules : List Rule} {fault : SynthesisFault}
    (hbefore : ∀ name ∈ before, ∃ earlier ∈ grammar.rules, earlier.name = name)
    (hrules : ∀ rule ∈ rules, rule ∈ grammar.rules) (hdistinct : (before ++ rules.map Rule.name).Nodup)
    (h : sameNode? before (rules.map Rule.name) = some fault) : grammar.Rejects (.inconsistent fault) := by
  induction rules generalizing before with
  | nil => cases h
  | cons rule rules ih =>
    obtain ⟨hrule, hrules⟩ := List.forall_mem_cons.mp hrules
    rw [List.map_cons, sameNode?] at h
    rw [List.map_cons] at hdistinct
    split at h
    · rename_i other hother
      cases h
      have hmem := List.mem_of_find?_eq_some hother
      obtain ⟨earlier, hearlier, rfl⟩ := hbefore other hmem
      have hsame : nodeName earlier.name = nodeName rule.name := by simpa using List.find?_some hother
      refine .sameNode hearlier hrule (fun heq => ?_) hsame
      exact (List.nodup_append.mp hdistinct).2.2 _ hmem _ List.mem_cons_self heq
    · refine ih (List.forall_mem_cons.mpr ⟨⟨rule, hrule, rfl⟩, hbefore⟩) hrules ?_ h
      exact List.perm_middle.nodup_iff.mp hdistinct

theorem raises_demoOf {start : Rule} (hstart : start ∈ grammar.rules) : Raises grammar.Rejects (demoOf start) :=
  Raises.bind (.mapM fun _ hv => (raises_export hstart hv).bind fun _ _ => .ok _) fun _ _ => .ok _

/-- What stops the making of a parser. -/
theorem raises_parserOf {source : Source} (hsource : source.Of grammar) (hkeyed : grammar.Keyed)
    (hgrounded : grammar.Grounded) (main : Bool) : Raises grammar.Rejects (parserOf source main) := by
  unfold parserOf
  rw [hsource.grammar_eq]
  split
  · rename_i fault hfault
    exact .error (rejects_of_sameNode? (List.forall_mem_nil _) (fun _ hrule => hrule) hkeyed hfault)
  · refine Raises.bind (.mapM fun rule hrule => raises_nodeTypeOf hsource hgrounded hrule) fun nodes _ => ?_
    have hdeclared := (Grammar.referenceFault?_eq_none_iff.mp hgrounded.references).1
    refine (raises_ruleOf (hsource.grammar_eq ▸ hdeclared)).bind fun start hstart => ?_
    obtain ⟨hmem, -⟩ := Grammar.mem_of_rule? (hsource.grammar_eq ▸ ruleOf_eq_ok.mp hstart)
    refine (raises_ident (.node hmem)).bind fun node _ => (raises_parameters hmem).bind fun parameters _ => ?_
    cases main with
    | true =>
      exact Raises.bind (Raises.bind (raises_demoOf hmem) fun demo _ => .ok (some demo)) fun demo _ => .ok _
    | false => exact .ok _

/-- **From a resolved description generating a parser stops only for reasons that are facts about its
grammar**, and never at a reference to something that is not declared or for a token of the empty string. -/
theorem rejects_of_generate {main : Bool} (hread : (Description.readResolved text).1 = .ok grammar)
    (h : generate grammar main = .error e) : grammar.Rejects e ∧ ¬ e.Dangling := by
  suffices hrejects : Raises grammar.Rejects (generate grammar main) from
    ⟨hrejects e h, (hrejects e h).not_dangling⟩
  refine Raises.bind (fun _ => rejects_of_ofGrammar) fun tokens htokens => ?_
  refine Raises.bind ?_ fun analysis hanalysis => ?_
  · unfold analyze
    split
    · exact .ok _
    · rename_i hconflict
      exact .error (.conflict hconflict)
  refine (raises_variants htokens).bind fun variants _ => ?_
  have hsource : Source.Of ⟨grammar, analysis, tokens⟩ grammar := by
    refine ⟨rfl, Analysis.faithful_of_ofGrammar (analyze_eq_ok hanalysis), fun name hname => ?_⟩
    rwa [eq_of_ofGrammar htokens]
  exact (raises_parserOf hsource (Description.built_of_readResolved hread).keyed
    (Description.grounded_of_readResolved hread) main).bind fun parser _ => .ok _

/-- The error that stops the generating of a parser from a description that was read. -/
def rejection? (text : String) (main : Bool) : Option SynthesisError :=
  match (Description.readResolved text).1 with
  | .error _ => none
  | .ok grammar =>
    match generate grammar main with
    | .error e => some e
    | .ok _ => none

theorem exists_of_rejection? {main : Bool} (h : rejection? text main = some e) :
    ∃ grammar, (Description.readResolved text).1 = .ok grammar ∧ generate grammar main = .error e := by
  unfold rejection? at h
  split at h
  · cases h
  rename_i grammar hread
  split at h
  · rename_i hgenerate
    cases h
    exact ⟨grammar, hread, hgenerate⟩
  · cases h

/-- Two alternatives that start with the same literal stop the generating of a parser. -/
theorem rejects_twice : ∃ grammar conflict,
    (Description.readResolved "s : 'a'\ns : 'a'\ns\n").1 = .ok grammar ∧
      generate grammar true = .error (.conflict conflict) ∧ grammar.Rejects (.conflict conflict) := by
  let line : List Symbol := [.terminal (.text "a"), .terminal .endOfInput]
  have hstops : rejection? "s : 'a'\ns : 'a'\ns\n" true = some (.conflict ⟨"s", line, line⟩) := by
    decide +kernel
  obtain ⟨grammar, hread, hgenerate⟩ := exists_of_rejection? hstops
  exact ⟨grammar, _, hread, hgenerate, (rejects_of_generate hread hgenerate).1⟩

end Synthesis

end AttributeGrammar
