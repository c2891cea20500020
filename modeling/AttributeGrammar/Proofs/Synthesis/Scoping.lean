import AttributeGrammar.Proofs.Description.Naming
import AttributeGrammar.Proofs.Grammar.Building
import AttributeGrammar.Proofs.Synthesis.EntryPoint

/-!
# What the names in an entry point stand for

The parameters of an entry point have the names that the start rule chose, and stand beside names that are
fixed. A name stands for what was bound last under it, or else for an item; the name of a constant cannot be
bound.

* `Scope.bind`, `Scope.bindAll` — how names are bound, and what they stand for then.
* `CallingFunction.calls` — the calls of a function with what their names stand for.
* `CallingFunction.Hygienic` — the parameters differ, everything is bound, and the calls are the intended ones.
* `ParserCode.hygienic_entry_iff`, `ParserCode.hygienic_wrapper_iff` — for which names of parameters that is so.
* `hygienic_iff` — the same for what is generated from a description.
* `captured` — some names of parameters are read, and get in the way.
-/

set_option autoImplicit false

namespace AttributeGrammar

open Description (IsIdentifier)

/-- A rule that declares its parameters has a variable for each. -/
theorem Rule.Declaring.map_inheritedVars {rule : Rule} (h : rule.Declaring) :
    rule.inheritedVars.map Variable.name = rule.inherited :=
  Rule.map_withTypes h.inherited

namespace Synthesis

/-! ## Scopes -/

/-- What a name stands for in a function. -/
inductive Referent where
  /-- What the caller passes for a parameter. -/
  | parameter (index : Nat)
  /-- The result of a step. -/
  | result (step : Nat)
  /-- A constant that the code around the function is generic in. -/
  | generic (name : String)
  | item (name : String)
deriving DecidableEq, Repr

/-- The names that are bound, the last first. -/
abbrev Scope := List (String × Referent)

namespace Scope

variable {constants names : List String} {name other : String} {referent : Referent} {scope : Scope}

/-- What a name stands for: what was bound last under it, or else an item. -/
def resolve (scope : Scope) (name : String) : Referent := (scope.lookup name).getD (.item name)

/-- Binds a name. The name of a constant stands for this constant instead. -/
def bind (constants : List String) (name : String) (referent : Referent) (scope : Scope) : Scope :=
  if name ∈ constants then scope else (name, referent) :: scope

/-- Binds the names of parameters in a row. -/
def bindAll (constants : List String) : (first : Nat) → List String → Scope → Scope
  | _, [], scope => scope
  | first, name :: names, scope =>
      bindAll constants (first + 1) names (scope.bind constants name (.parameter first))

theorem resolve_bind_self (h : name ∉ constants) :
    (scope.bind constants name referent).resolve name = referent := by
  simp [bind, h, resolve]

theorem resolve_bind_of_ne (h : other ≠ name) :
    (scope.bind constants name referent).resolve other = scope.resolve other := by
  unfold bind
  split
  · rfl
  · have hbeq : (other == name) = false := by simpa using h
    simp [resolve, List.lookup_cons, hbeq]

theorem resolve_bindAll_of_notMem (h : name ∉ names) (first : Nat) :
    (scope.bindAll constants first names).resolve name = scope.resolve name := by
  induction names generalizing first scope with
  | nil => rfl
  | cons other names ih =>
    obtain ⟨hne, hrest⟩ : name ≠ other ∧ name ∉ names := by simpa using h
    rw [bindAll, ih hrest, resolve_bind_of_ne hne]

/-- **Different names that are no constants stand for their parameters.** -/
theorem map_resolve_bindAll (hdistinct : names.Nodup) (hbinding : ∀ name ∈ names, name ∉ constants)
    (scope : Scope) (first : Nat) :
    names.map (scope.bindAll constants first names).resolve =
      (List.range' first names.length).map .parameter := by
  induction names generalizing first scope with
  | nil => rfl
  | cons name names ih =>
    obtain ⟨hnotMem, hrest⟩ := List.nodup_cons.mp hdistinct
    have hself : (scope.bindAll constants first (name :: names)).resolve name = .parameter first := by
      rw [bindAll, resolve_bindAll_of_notMem hnotMem, resolve_bind_self (hbinding name List.mem_cons_self)]
    rw [List.map_cons, hself, bindAll, ih hrest fun other hother =>
      hbinding other (List.mem_cons_of_mem _ hother)]
    rfl

/-- So a name that stands for something else is none of them. -/
theorem notMem_of_resolve (hdistinct : names.Nodup) (hbinding : ∀ name ∈ names, name ∉ constants) {first : Nat}
    (h : ∀ index, (scope.bindAll constants first names).resolve name ≠ .parameter index) : name ∉ names := by
  intro hname
  have hmem := List.mem_map_of_mem (f := (scope.bindAll constants first names).resolve) hname
  rw [map_resolve_bindAll hdistinct hbinding] at hmem
  obtain ⟨index, -, heq⟩ := List.mem_map.mp hmem
  exact h index heq.symm

/-- The constants that the code around a function is generic in. -/
def ofGenerics (generics : List String) : Scope := generics.map fun name => (name, .generic name)

theorem resolve_ofGenerics {generics : List String} :
    (ofGenerics generics).resolve name = if name ∈ generics then .generic name else .item name := by
  induction generics with
  | nil => rfl
  | cons generic generics ih =>
    by_cases hname : name = generic
    · simp [ofGenerics, resolve, hname]
    · have hbeq : (name == generic) = false := by simpa using hname
      simp only [ofGenerics, resolve] at ih
      simp [ofGenerics, resolve, List.lookup_cons, hbeq, hname, ih]

end Scope

/-! ## Functions -/

/-- The scope behind a step. -/
def Step.scope (constants : List String) (no : Nat) (step : Step) (scope : Scope) : Scope :=
  match step.into with
  | some name => scope.bind constants name (.result no)
  | none => scope

/-- The calls of some steps and of a last call, with what their names stand for. -/
def resolveSteps (constants : List String) (value : Call String) :
    (no : Nat) → List Step → Scope → List (Call Referent)
  | _, [], scope => [value.map scope.resolve]
  | no, step :: steps, scope =>
    step.call.map scope.resolve :: resolveSteps constants value (no + 1) steps (step.scope constants no scope)

namespace CallingFunction

def parameterNames (function : CallingFunction) : List String := function.parameters.map Field.name

/-- The names that a function binds. -/
def bound (function : CallingFunction) : List String :=
  function.parameterNames ++ function.steps.filterMap Step.into

/-- The calls of a function with what their names stand for, where `outer` is bound around it. -/
def calls (constants : List String) (outer : Scope) (function : CallingFunction) : List (Call Referent) :=
  resolveSteps constants function.value 0 function.steps (outer.bindAll constants 0 function.parameterNames)

/-- The parameters differ, every name that is to be bound is, and the calls are the intended ones. -/
structure Hygienic (function : CallingFunction) (constants : List String) (outer : Scope)
    (intended : List (Call Referent)) : Prop where
  distinct : function.parameterNames.Nodup
  binding : ∀ name ∈ function.bound, name ∉ constants
  calls : function.calls constants outer = intended

end CallingFunction

/-! ## Free names -/

/-- What the caller passes for some parameters, in their order. -/
def parametersFrom (first count : Nat) : List (Argument Referent) :=
  plain ((List.range' first count).map .parameter)

/-- The names can stand behind the input in a function that calls `called`: they differ, and none is the
name of the input, of the function that is called or of a constant. -/
structure Free (names constants : List String) (called : String) : Prop where
  distinct : names.Nodup
  free : ∀ name ∈ names, name ≠ "input" ∧ name ≠ called ∧ name ∉ constants

section

variable {names constants : List String} {called : String} {outer : Scope}

theorem Free.nodup (h : Free names constants called) : ("input" :: names).Nodup := by
  have hinput : "input" ∉ names := by
    intro hname
    exact (h.free _ hname).1 rfl
  simp [hinput, h.distinct]

theorem Free.binding (h : Free names constants called) (hinput : "input" ∉ constants) :
    ∀ name ∈ "input" :: names, name ∉ constants := by
  intro name hname
  rcases List.mem_cons.mp hname with rfl | hname
  · exact hinput
  · exact (h.free name hname).2.2

theorem Free.notMem (h : Free names constants called) (hcalled : called ≠ "input") :
    called ∉ "input" :: names := by
  intro hname
  rcases List.mem_cons.mp hname with heq | hname
  · exact hcalled heq
  · exact (h.free called hname).2.1 rfl

/-- Free names and the input stand for the parameters. -/
theorem Free.resolve (h : Free names constants called) (hinput : "input" ∉ constants) {scope : Scope}
    (hscope : scope = outer.bindAll constants 0 ("input" :: names)) :
    scope.resolve "input" = .parameter 0 ∧ names.map scope.resolve =
      (List.range' 1 names.length).map .parameter := by
  have hvalues := Scope.map_resolve_bindAll h.nodup (h.binding hinput) outer 0
  rw [← hscope, List.length_cons, List.range'_succ, List.map_cons, List.map_cons, List.cons.injEq] at hvalues
  exact hvalues

/-- If the name of the function that is called stands for no parameter, then the names are free. -/
theorem free_of_resolve (outer : Scope) (hdistinct : ("input" :: names).Nodup)
    (hbinding : ∀ name ∈ "input" :: names, name ∉ constants)
    (h : ∀ index, (outer.bindAll constants 0 ("input" :: names)).resolve called ≠ .parameter index) :
    Free names constants called := by
  have hcalled := Scope.notMem_of_resolve hdistinct hbinding h
  obtain ⟨hinput, hdistinct⟩ := List.nodup_cons.mp hdistinct
  refine ⟨hdistinct, ?_⟩
  intro name hname
  have hmem : name ∈ "input" :: names := List.mem_cons_of_mem _ hname
  refine ⟨?_, ?_, hbinding name hmem⟩
  · rintro rfl
    exact hinput hname
  · rintro rfl
    exact hcalled hmem

end

/-! ## Entry points -/

namespace ParserCode

variable {parser : ParserCode} {constants generics : List String}

/-- The intended calls of an entry point: the function for the scanner gets the input, and the constructor
of the start node gets what was passed for the parameters. -/
def entryCalls (parser : ParserCode) : List (Call Referent) :=
  [⟨.function (.item "scanner"), parametersFrom 0 1⟩,
    ⟨.constructor parser.start, parametersFrom 1 parser.parameterNames.length⟩,
    ⟨.method (.result 1) "parse", [⟨.result 0, true⟩]⟩,
    ⟨.method (.result 0) "expect_end", []⟩,
    ⟨.function (.item "Ok"), plain [.result 1]⟩]

/-- The intended call of the function of a type: the entry point gets all that was passed. -/
def wrapperCalls (parser : ParserCode) : List (Call Referent) :=
  [⟨.function (.item "parse"), parametersFrom 0 (parser.parameterNames.length + 1)⟩]

theorem bound_entry : parser.entry.bound = ("input" :: parser.parameterNames) ++ ["scanner", "node"] := rfl

theorem bound_wrapper : parser.wrapper.bound = "input" :: parser.parameterNames := List.append_nil _

/-- The calls of an entry point, each in the scope behind those before it. -/
theorem calls_entry {scope behind last : Scope}
    (hscope : scope = Scope.bindAll constants 0 ("input" :: parser.parameterNames) [])
    (hbehind : behind = scope.bind constants "scanner" (.result 0))
    (hlast : last = behind.bind constants "node" (.result 1)) :
    parser.entry.calls constants [] =
      [⟨.function (scope.resolve "scanner"), plain [scope.resolve "input"]⟩,
        ⟨.constructor parser.start, plain (parser.parameterNames.map behind.resolve)⟩,
        ⟨.method (last.resolve "node") "parse", [⟨last.resolve "scanner", true⟩]⟩,
        ⟨.method (last.resolve "scanner") "expect_end", []⟩,
        ⟨.function (last.resolve "Ok"), plain [last.resolve "node"]⟩] := by
  subst hscope hbehind hlast
  rw [← map_plain]
  rfl

theorem calls_wrapper {outer scope : Scope}
    (hscope : scope = outer.bindAll constants 0 ("input" :: parser.parameterNames)) :
    parser.wrapper.calls constants outer =
      [⟨.function (scope.resolve "parse"),
        plain (scope.resolve "input" :: parser.parameterNames.map scope.resolve)⟩] := by
  rw [hscope, ← List.map_cons, ← map_plain]
  rfl

theorem hygienic_entry (hok : "Ok" ∈ constants)
    (hfixed : ∀ name ∈ ["input", "scanner", "node"], name ∉ constants)
    (h : Free parser.parameterNames constants "scanner") :
    parser.entry.Hygienic constants [] parser.entryCalls := by
  obtain ⟨hinput, hscanner, hnode⟩ : "input" ∉ constants ∧ "scanner" ∉ constants ∧ "node" ∉ constants := by
    simpa using hfixed
  have hbinding : ∀ name ∈ parser.entry.bound, name ∉ constants := by
    intro name hname
    rw [bound_entry] at hname
    rcases List.mem_append.mp hname with hname | hname
    · exact h.binding hinput name hname
    · exact hfixed name (List.mem_cons_of_mem _ hname)
  refine ⟨h.nodup, hbinding, ?_⟩
  -- The scopes of the body, of the lines behind the scanner, and of those behind the node.
  obtain ⟨scope, hscope⟩ : ∃ scope, scope = Scope.bindAll constants 0 ("input" :: parser.parameterNames) [] :=
    ⟨_, rfl⟩
  obtain ⟨behind, hbehind⟩ : ∃ behind, behind = scope.bind constants "scanner" (.result 0) := ⟨_, rfl⟩
  obtain ⟨last, hlast⟩ : ∃ last, last = behind.bind constants "node" (.result 1) := ⟨_, rfl⟩
  obtain ⟨hvalue, hvalues⟩ := h.resolve hinput hscope
  have hitem : ∀ name, name ∉ "input" :: parser.parameterNames → scope.resolve name = .item name := by
    intro name hname
    rw [hscope, Scope.resolve_bindAll_of_notMem hname]
    rfl
  have hscannerBehind : behind.resolve "scanner" = .result 0 := by
    rw [hbehind]
    exact Scope.resolve_bind_self hscanner
  have hbehindOther : ∀ name, name ≠ "scanner" → behind.resolve name = scope.resolve name := by
    intro name hname
    rw [hbehind]
    exact Scope.resolve_bind_of_ne hname
  have hnodeLast : last.resolve "node" = .result 1 := by
    rw [hlast]
    exact Scope.resolve_bind_self hnode
  have hlastOther : ∀ name, name ≠ "node" → last.resolve name = behind.resolve name := by
    intro name hname
    rw [hlast]
    exact Scope.resolve_bind_of_ne hname
  have harguments : parser.parameterNames.map behind.resolve = parser.parameterNames.map scope.resolve := by
    apply List.map_congr_left
    intro name hname
    exact hbehindOther name (h.free name hname).2.1
  have hscannerLast : last.resolve "scanner" = .result 0 := by
    rw [hlastOther _ (by decide), hscannerBehind]
  have hokLast : last.resolve "Ok" = .item "Ok" := by
    have hfree : "Ok" ∉ "input" :: parser.parameterNames := by
      intro hname
      exact h.binding hinput _ hname hok
    rw [hlastOther _ (by decide), hbehindOther _ (by decide), hitem _ hfree]
  rw [calls_entry hscope hbehind hlast, hitem _ (h.notMem (by decide)), hvalue, harguments, hvalues, hnodeLast,
    hscannerLast, hokLast]
  rfl

/-- **An entry point is hygienic if and only if the names of its parameters are free and no constant has a
name that it binds itself.** -/
theorem hygienic_entry_iff (hok : "Ok" ∈ constants) :
    parser.entry.Hygienic constants [] parser.entryCalls ↔
      (∀ name ∈ ["input", "scanner", "node"], name ∉ constants) ∧
        Free parser.parameterNames constants "scanner" := by
  constructor
  · intro h
    have hbinding := h.binding
    rw [bound_entry] at hbinding
    obtain ⟨hparameters, hvariables⟩ := List.forall_mem_append.mp hbinding
    have hfixed : ∀ name ∈ ["input", "scanner", "node"], name ∉ constants := by
      intro name hname
      rcases List.mem_cons.mp hname with rfl | hname
      · exact hparameters _ List.mem_cons_self
      · exact hvariables name hname
    refine ⟨hfixed, free_of_resolve [] h.distinct hparameters ?_⟩
    intro index
    -- The first call is the one for the scanner.
    have heq := (calls_entry rfl rfl rfl).symm.trans h.calls
    simp only [entryCalls, List.cons.injEq, Call.mk.injEq, Callee.function.injEq] at heq
    rw [heq.1.1]
    simp
  · rintro ⟨hfixed, hfree⟩
    exact hygienic_entry hok hfixed hfree

/-- **The function of a type is hygienic if and only if the names of its parameters are free**, the input is no
constant, and no constant that the type is generic in has the name of the entry point. -/
theorem hygienic_wrapper_iff :
    parser.wrapper.Hygienic constants (.ofGenerics generics) parser.wrapperCalls ↔
      ("input" ∉ constants ∧ "parse" ∉ generics) ∧ Free parser.parameterNames constants "parse" := by
  obtain ⟨scope, hscope⟩ : ∃ scope, scope =
    Scope.bindAll constants 0 ("input" :: parser.parameterNames) (.ofGenerics generics) := ⟨_, rfl⟩
  constructor
  · intro h
    have hparameters : ∀ name ∈ "input" :: parser.parameterNames, name ∉ constants :=
      bound_wrapper ▸ h.binding
    have hparse : scope.resolve "parse" = .item "parse" := by
      have heq := (calls_wrapper hscope).symm.trans h.calls
      simp only [wrapperCalls, List.cons.injEq, Call.mk.injEq, Callee.function.injEq] at heq
      exact heq.1.1
    have hfree : Free parser.parameterNames constants "parse" := by
      refine free_of_resolve (.ofGenerics generics) h.distinct hparameters ?_
      intro index
      rw [← hscope, hparse]
      simp
    have hgenerics : "parse" ∉ generics := by
      intro hgeneric
      rw [hscope, Scope.resolve_bindAll_of_notMem (hfree.notMem (by decide)), Scope.resolve_ofGenerics,
        if_pos hgeneric] at hparse
      cases hparse
    exact ⟨⟨hparameters _ List.mem_cons_self, hgenerics⟩, hfree⟩
  · rintro ⟨⟨hinput, hgenerics⟩, hfree⟩
    obtain ⟨hvalue, hvalues⟩ := hfree.resolve hinput hscope
    have hparse : scope.resolve "parse" = .item "parse" := by
      rw [hscope, Scope.resolve_bindAll_of_notMem (hfree.notMem (by decide)), Scope.resolve_ofGenerics,
        if_neg hgenerics]
    refine ⟨hfree.nodup, bound_wrapper ▸ hfree.binding hinput, ?_⟩
    rw [calls_wrapper hscope, hparse, hvalue, hvalues]
    rfl

end ParserCode

/-! ## Generated parsers -/

/-- The constructors that are in scope everywhere. -/
def everywhere : List String := ["None", "Some", "Ok", "Err"]

/-- The constants beside an emitted parser, where the code around has the constants `around`. -/
def constantsBeside (generated : Generated) (around : List String) : List String :=
  everywhere ++ named "const" generated.code ++ around

/-- The constant that a declaration is generic in through a parameter. Attributes may stand in front. -/
def genericConstant? (parameter : Code.GenericParameter) : Option String :=
  let declared := parameter.declaration.dropWhile fun
    | .ident _ => false
    | _ => true
  match declared with
  | .ident "const" :: .ident name :: _ => some name
  | _ => none

/-- The constants that a declaration is generic in. -/
def genericConstants (declaration : Code.TypeDeclaration) : List String :=
  declaration.parameters.filterMap genericConstant?

example : (Code.parseDeclaration? "struct S<'a, T: Copy, const N: usize>(&'a [T; N]);").map genericConstants =
    some ["N"] := by decide +kernel

/-- The parameters of an entry point have the names of those of the start rule. -/
theorem map_name_of_fields {vs : List Variable} {fields : List Field} (hvs : ∀ v ∈ vs, IsIdentifier v.name)
    (h : List.Forall₂ (fun v field => fieldOf v = .ok field) vs fields) :
    fields.map Field.name = vs.map Variable.name := by
  induction h with
  | nil => rfl
  | @cons v field vs fields hfield _ ih =>
    have hname := eq_of_ident (hvs v List.mem_cons_self) (fieldOf_eq_ok hfield).1
    have hrest : ∀ w ∈ vs, IsIdentifier w.name := by
      intro w hw
      exact hvs w (List.mem_cons_of_mem _ hw)
    rw [List.map_cons, List.map_cons, hname, ih hrest]

/-- **The names of the parameters of an entry point**: they differ, and are those that the start rule has
chosen. -/
theorem parameterNames_of_generate {text : String} {grammar : Grammar} {generated : Generated} {main : Bool}
    (hread : (Description.readResolved text).1 = .ok grammar)
    (hgenerate : generate grammar main = .ok generated) :
    ∃ start, grammar.rule? grammar.start = some start ∧ generated.parser.parameterNames = start.inherited ∧
      start.inherited.Nodup := by
  obtain ⟨source, hsource, hresolve⟩ := Description.readResolved_eq_ok.mp hread
  obtain ⟨analysis, -, -, -, hparser⟩ := generate_eq_ok hgenerate
  obtain ⟨start, hstart, hmade⟩ := parserOf_eq_ok hparser
  have hmem := (Grammar.mem_of_rule? hstart).1
  have hdeclaring := ((Description.built_of_readResolved hread).rules start hmem).declaring
  have hidentifiers : ∀ v ∈ start.inheritedVars, IsIdentifier v.name := by
    intro v hv
    have hname := (Rule.mem_withTypes.mp hv).1
    exact Description.isIdentifier_inherited hsource hresolve start hmem v.name hname
  refine ⟨start, hstart, ?_, hdeclaring.distinct⟩
  rw [ParserCode.parameterNames, map_name_of_fields hidentifiers hmade.parameters, hdeclaring.map_inheritedVars]

section

variable {text : String} {grammar : Grammar} {generated : Generated} {main : Bool}

theorem constantsBeside_eq (generated : Generated) (around : List String) :
    constantsBeside generated around = ["None", "Some", "Ok", "Err", "LITERALS", "REGEXES"] ++ around := by
  rw [constantsBeside, named_const_code]
  rfl

/-- The entry point is hygienic beside constants of the code around. -/
def EntryHygienic (generated : Generated) (around : List String) : Prop :=
  generated.parser.entry.Hygienic (constantsBeside generated around) [] generated.parser.entryCalls

/-- The function of a type is hygienic beside constants of the code around, such as a type without fields. -/
def WrapperHygienic (generated : Generated) (declaration : Code.TypeDeclaration)
    (around : List String) : Prop :=
  generated.parser.wrapper.Hygienic (genericConstants declaration ++ constantsBeside generated around)
    (.ofGenerics (genericConstants declaration)) generated.parser.wrapperCalls

theorem entryHygienic_iff {around : List String} :
    EntryHygienic generated around ↔ (∀ name ∈ ["input", "scanner", "node"], name ∉ around) ∧
      Free generated.parser.parameterNames (constantsBeside generated around) "scanner" := by
  have hfixed : (∀ name ∈ ["input", "scanner", "node"], name ∉ constantsBeside generated around) ↔
      ∀ name ∈ ["input", "scanner", "node"], name ∉ around := by
    simp [constantsBeside_eq]
  rw [← hfixed]
  exact ParserCode.hygienic_entry_iff (by simp [constantsBeside_eq])

theorem wrapperHygienic_iff {declaration : Code.TypeDeclaration} {around : List String} :
    WrapperHygienic generated declaration around ↔
      ("input" ∉ genericConstants declaration ++ around ∧ "parse" ∉ genericConstants declaration) ∧
        Free generated.parser.parameterNames (genericConstants declaration ++ constantsBeside generated around)
          "parse" := by
  have hinput : "input" ∉ genericConstants declaration ++ constantsBeside generated around ↔
      "input" ∉ genericConstants declaration ++ around := by
    simp [constantsBeside_eq]
  rw [← hinput]
  exact ParserCode.hygienic_wrapper_iff

/-- **When the entry points of a parser are hygienic**: the names of their parameters are those of the start
rule, which differ, and names stand for what is meant if and only if none of these is `input`, the function
that is called or a constant beside the parser, and these constants leave the fixed names alone. -/
theorem hygienic_iff (hread : (Description.readResolved text).1 = .ok grammar)
    (hgenerate : generate grammar main = .ok generated) :
    ∃ start, grammar.rule? grammar.start = some start ∧ generated.parser.parameterNames = start.inherited ∧
      start.inherited.Nodup ∧
      (∃ before behind, generated.code = before ++ generated.parser.entry.code ++ behind) ∧
      named "fn" generated.code = ["scanner", "parse"] ++ generated.parser.demo.toList.map (fun _ => "main") ∧
      ∀ around : List String,
        (EntryHygienic generated around ↔ (∀ name ∈ ["input", "scanner", "node"], name ∉ around) ∧
          ∀ name ∈ start.inherited, name ≠ "input" ∧ name ≠ "scanner" ∧
            name ∉ constantsBeside generated around) ∧
        ∀ declaration : Code.TypeDeclaration,
          (∃ before, Derive.implementation declaration generated =
            before ++ Code.brace generated.parser.wrapper.code) ∧
          (WrapperHygienic generated declaration around ↔
            ("input" ∉ genericConstants declaration ++ around ∧ "parse" ∉ genericConstants declaration) ∧
              ∀ name ∈ start.inherited, name ≠ "input" ∧ name ≠ "parse" ∧
                name ∉ genericConstants declaration ++ constantsBeside generated around) := by
  obtain ⟨start, hstart, hnames, hdistinct⟩ := parameterNames_of_generate hread hgenerate
  have hfree : ∀ {constants : List String} {called : String},
    Free generated.parser.parameterNames constants called ↔
      ∀ name ∈ start.inherited, name ≠ "input" ∧ name ≠ called ∧ name ∉ constants := by
    intro constants called
    rw [hnames]
    exact ⟨fun h => h.free, fun h => ⟨hdistinct, h⟩⟩
  refine ⟨start, hstart, hnames, hdistinct, exists_entry_code generated, named_fn_code generated,
    fun around => ⟨?_, fun declaration => ⟨⟨_, implementation_eq declaration generated⟩, ?_⟩⟩⟩
  · rw [entryHygienic_iff, hfree]
  · rw [wrapperHygienic_iff, hfree]

/-- A description whose start rule has one parameter. -/
def withParameter (name : String) : String := "s [i32 " ++ name ++ "] : 'a'\ns"

/-- In a sample both entry points are hygienic, also for a type that is generic in a constant. -/
theorem hygienic_counter : ∃ grammar generated declaration,
    (Description.readResolved (withParameter "counter")).1 = .ok grammar ∧
      generate grammar true = .ok generated ∧
      Code.parseDeclaration? "struct Sample<const N: usize>;" = some declaration ∧
      genericConstants declaration = ["N"] ∧ generated.parser.parameterNames = ["counter"] ∧
      EntryHygienic generated ["Sample"] ∧ WrapperHygienic generated declaration ["Sample"] := by
  have hcheck : passes (withParameter "counter") true fun _ generated =>
      decide (generated.parser.parameterNames = ["counter"]) := by
    decide +kernel
  have hdeclaration : (Code.parseDeclaration? "struct Sample<const N: usize>;").map genericConstants =
      some ["N"] := by
    decide +kernel
  obtain ⟨grammar, generated, hread, hgenerate, hparameters⟩ := exists_of_passes hcheck
  obtain ⟨declaration, hparsed, hgeneric⟩ := Option.map_eq_some_iff.mp hdeclaration
  replace hparameters : generated.parser.parameterNames = ["counter"] := of_decide_eq_true hparameters
  obtain ⟨start, -, hnames, -, -, -, hiff⟩ := hygienic_iff hread hgenerate
  obtain ⟨hentry, hwrapper⟩ := hiff ["Sample"]
  rw [← hnames, hparameters, constantsBeside_eq] at hentry hwrapper
  have hwrapper := (hwrapper declaration).2
  rw [hgeneric] at hwrapper
  exact ⟨grammar, generated, declaration, hread, hgenerate, hparsed, hgeneric, hparameters,
    hentry.mpr (by decide), hwrapper.mpr (by decide)⟩

/-- **Some names of parameters are read, and get in the way**: two parameters are named `input`, or the name
of the scanner's or of the parser's function stands for a parameter. -/
theorem captured :
    (∀ name ∈ ["input", "scanner"], ∃ grammar generated,
      (Description.readResolved (withParameter name)).1 = .ok grammar ∧ generate grammar false = .ok generated ∧
        ¬ EntryHygienic generated []) ∧
    ∀ name ∈ ["input", "parse"], ∃ grammar generated,
      (Description.readResolved (withParameter name)).1 = .ok grammar ∧ generate grammar false = .ok generated ∧
        ∀ declaration, ¬ WrapperHygienic generated declaration [] := by
  have hcheck : ∀ name ∈ ["input", "scanner", "parse"], passes (withParameter name) false fun _ generated =>
      decide (generated.parser.parameterNames = [name]) := by
    decide +kernel
  have hgenerated : ∀ name ∈ ["input", "scanner", "parse"], ∃ grammar generated,
      (Description.readResolved (withParameter name)).1 = .ok grammar ∧ generate grammar false = .ok generated ∧
        generated.parser.parameterNames = [name] := by
    intro name hname
    obtain ⟨grammar, generated, hread, hgenerate, hparameters⟩ := exists_of_passes (hcheck name hname)
    exact ⟨grammar, generated, hread, hgenerate, of_decide_eq_true hparameters⟩
  constructor
  · intro name hname
    have hname : name = "input" ∨ name = "scanner" := by simpa using hname
    have hmem : name ∈ ["input", "scanner", "parse"] := by rcases hname with rfl | rfl <;> simp
    obtain ⟨grammar, generated, hread, hgenerate, hparameters⟩ := hgenerated name hmem
    refine ⟨grammar, generated, hread, hgenerate, ?_⟩
    intro h
    obtain ⟨hinput, hscanner, -⟩ := (entryHygienic_iff.mp h).2.free name (by simp [hparameters])
    rcases hname with heq | heq
    · exact hinput heq
    · exact hscanner heq
  · intro name hname
    have hname : name = "input" ∨ name = "parse" := by simpa using hname
    have hmem : name ∈ ["input", "scanner", "parse"] := by rcases hname with rfl | rfl <;> simp
    obtain ⟨grammar, generated, hread, hgenerate, hparameters⟩ := hgenerated name hmem
    refine ⟨grammar, generated, hread, hgenerate, ?_⟩
    intro declaration h
    obtain ⟨hinput, hparse, -⟩ := (wrapperHygienic_iff.mp h).2.free name (by simp [hparameters])
    rcases hname with heq | heq
    · exact hinput heq
    · exact hparse heq

end

end Synthesis

end AttributeGrammar
