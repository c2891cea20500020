import AttributeGrammar.Derive
import AttributeGrammar.Proofs.Synthesis.Emission

/-!
# The functions that start a parser

The entry point of a parser and the function that a type gets are rows of calls. Their code is that of these
rows, and which items stand beside them can be told from the tokens.

* `CallingFunction` — a function that makes some calls and yields the result of a last one.
* `ParserCode.entry`, `ParserCode.wrapper` — the entry point, and the function of a type.
* `entryCode_eq`, `implementation_eq` — what is emitted is their code.
* `named` — the names that stand behind a keyword: the functions and the constants of some code.
* `named_fn_code`, `named_const_code` — the functions and the constants that are emitted.
-/

set_option autoImplicit false

namespace AttributeGrammar.Synthesis

open Code

variable {Name Other : Type}

/-! ## Rows of calls -/

/-- An argument, which may be borrowed. -/
structure Argument (Name : Type) where
  name : Name
  borrowed : Bool
deriving DecidableEq, Repr

/-- What is called. The names of constructors and methods are looked up in types. -/
inductive Callee (Name : Type) where
  | function (name : Name)
  | constructor (type : String)
  | method (receiver : Name) (name : String)
deriving DecidableEq, Repr

structure Call (Name : Type) where
  callee : Callee Name
  arguments : List (Argument Name)
deriving DecidableEq, Repr

def Argument.map (value : Name → Other) (argument : Argument Name) : Argument Other :=
  ⟨value argument.name, argument.borrowed⟩

def Callee.map (value : Name → Other) : Callee Name → Callee Other
  | .function name => .function (value name)
  | .constructor type => .constructor type
  | .method receiver name => .method (value receiver) name

/-- The call with other things in place of the names. -/
def Call.map (value : Name → Other) (call : Call Name) : Call Other :=
  ⟨call.callee.map value, call.arguments.map (Argument.map value)⟩

/-- A call with the variable that takes its result. -/
structure Step where
  into : Option String
  call : Call String
  /-- Whether a failure is passed on. -/
  tries : Bool

/-- A function that makes some calls and yields the result of a last one. -/
structure CallingFunction where
  name : String
  parameters : List Field
  /-- The type that the result carries. -/
  result : String
  steps : List Step
  value : Call String

/-- Arguments that are passed as they are. -/
def plain (names : List Name) : List (Argument Name) := names.map fun name => ⟨name, false⟩

theorem map_plain (value : Name → Other) (names : List Name) :
    (plain names).map (Argument.map value) = plain (names.map value) := by
  simp [plain, Argument.map, Function.comp_def]

/-! ## Their code -/

def Argument.code (argument : Argument String) : TokenList :=
  if argument.borrowed then words "& mut" ++ [.ident argument.name] else [.ident argument.name]

def Callee.code : Callee String → TokenList
  | .function name => [.ident name]
  | .constructor type => .ident type :: words ":: new"
  | .method receiver name => .ident receiver :: words "." ++ [.ident name]

def Call.code (call : Call String) : TokenList :=
  call.callee.code ++ paren (commaSeparated (call.arguments.map Argument.code))

def Step.code (step : Step) : TokenList :=
  (match step.into with
    | some name => words "let mut" ++ .ident name :: words "="
    | none => []) ++
  step.call.code ++ words (if step.tries then "? ;" else ";")

def CallingFunction.code (function : CallingFunction) : TokenList :=
  words "pub fn" ++ .ident function.name :: paren (commaSeparated (function.parameters.map Field.code)) ++
    words "->" ++ resultType [.ident function.result] ++
    brace (function.steps.flatMap Step.code ++ function.value.code)

/-! ## Entry points -/

/-- The parameter for the text that is parsed. -/
def inputField : Field := ⟨"input", "&str", words "& str"⟩

namespace ParserCode

/-- The names of the parameters that follow the input. -/
def parameterNames (parser : ParserCode) : List String := parser.parameters.map Field.name

/-- The entry point: it makes a scanner and a start node, parses, and expects the end of the input. -/
def entry (parser : ParserCode) : CallingFunction where
  name := "parse"
  parameters := inputField :: parser.parameters
  result := parser.start
  steps :=
    [⟨some "scanner", ⟨.function "scanner", plain ["input"]⟩, true⟩,
      ⟨some "node", ⟨.constructor parser.start, plain parser.parameterNames⟩, false⟩,
      ⟨none, ⟨.method "node" "parse", [⟨"scanner", true⟩]⟩, true⟩,
      ⟨none, ⟨.method "scanner" "expect_end", []⟩, true⟩]
  value := ⟨.function "Ok", plain ["node"]⟩

/-- The function of a type, which hands over to the entry point. -/
def wrapper (parser : ParserCode) : CallingFunction where
  name := "parse"
  parameters := inputField :: parser.parameters
  result := parser.start
  steps := []
  value := ⟨.function "parse", plain ("input" :: parser.parameterNames)⟩

end ParserCode

theorem commaSeparated_cons (item : TokenList) (rest : List TokenList) :
    commaSeparated (item :: rest) = item ++ commaLed rest := by
  induction rest generalizing item with
  | nil => simp [commaSeparated, commaLed]
  | cons next rest ih => simp [commaSeparated, ih, commaLed]

theorem code_plain (names : List String) :
    (plain names).map Argument.code = names.map fun name => [.ident name] := by
  simp [plain, Argument.code, Function.comp_def]

theorem code_parameters (parameters : List Field) :
    commaSeparated ((inputField :: parameters).map Field.code) =
      words "input : & str" ++ commaLed (parameters.map Field.code) := by
  rw [List.map_cons, commaSeparated_cons]
  rfl

/-- **The entry point that is emitted is this row of calls.** -/
theorem entryCode_eq (parser : ParserCode) : entryCode parser.start parser.parameters = parser.entry.code := by
  have harguments : parser.parameters.map (fun field => [TokenTree.ident field.name]) =
      (plain parser.parameterNames).map Argument.code := by
    rw [code_plain, ParserCode.parameterNames, List.map_map]
    rfl
  simp only [entryCode, CallingFunction.code, ParserCode.entry, code_parameters, harguments]
  cbv

theorem exists_entry_code (generated : Generated) :
    ∃ before behind, generated.code = before ++ generated.parser.entry.code ++ behind := by
  rw [Generated.code, ParserCode.code, entryCode_eq, ← List.append_assoc, ← List.append_assoc]
  exact ⟨_, _, rfl⟩

/-- **The function that a type gets is this row of calls.** -/
theorem implementation_eq (declaration : TypeDeclaration) (generated : Generated) :
    Derive.implementation declaration generated =
      words "impl" ++ declarationTokens declaration.parameters ++ declaration.name ++
        useTokens declaration.parameters ++ declaration.whereClause ++ brace generated.parser.wrapper.code := by
  have harguments :
      words "input" ++ commaLed (generated.parser.parameters.map fun field => [.ident field.name]) =
        commaSeparated ((plain ("input" :: generated.parser.parameterNames)).map Argument.code) := by
    rw [code_plain, List.map_cons, commaSeparated_cons, ParserCode.parameterNames, List.map_map]
    rfl
  simp only [Derive.implementation, CallingFunction.code, ParserCode.wrapper, code_parameters, harguments]
  rfl

/-! ## Items -/

/-- The names that stand behind a keyword in some tokens, those inside of groups apart. -/
def named (keyword : String) : TokenList → List String
  | .ident word :: .ident name :: rest =>
    if word = keyword then name :: named keyword rest else named keyword (.ident name :: rest)
  | _ :: rest => named keyword rest
  | [] => []

/-- Names do not stand across the end of tokens that end in no identifier. -/
theorem named_append {keyword : String} {first : TokenList} (second : TokenList)
    (h : ∀ word, first.getLast? ≠ some (.ident word)) :
    named keyword (first ++ second) = named keyword first ++ named keyword second := by
  fun_induction named keyword first with
  | case1 name rest ih =>
    have hrest : ∀ word, rest.getLast? ≠ some (.ident word) := by
      intro word hword
      exact h word (by simp [List.getLast?_cons, hword])
    simp [named, ih hrest]
  | case2 word name rest hword ih =>
    have hrest : ∀ word, (.ident name :: rest).getLast? ≠ some (.ident word) := by
      simpa [List.getLast?_cons_cons] using h
    simp only [List.cons_append, named, if_neg hword]
    exact ih hrest
  | case3 token rest hshape ih =>
    -- An identifier that is skipped is not the last token, and no identifier follows it.
    cases rest with
    | nil =>
      cases token with
      | ident word => exact absurd rfl (h word)
      | punct | literal | group => rfl
    | cons next rest =>
      have hrest := ih (by simpa [List.getLast?_cons_cons] using h)
      cases token with
      | ident word =>
        cases next with
        | ident name => exact absurd rfl (hshape word name rest rfl)
        | punct | literal | group => exact hrest
      | punct | literal | group => exact hrest
  | case4 => rfl

/-- The names in a row of pieces that end in no identifier, and behind it. -/
theorem named_flatMap_append {keyword : String} {α : Type} {code : α → TokenList}
    (h : ∀ a word, (code a).getLast? ≠ some (.ident word)) (as : List α) (rest : TokenList) :
    named keyword (as.flatMap code ++ rest) =
      as.flatMap (fun a => named keyword (code a)) ++ named keyword rest := by
  induction as with
  | nil => rfl
  | cons a as ih =>
    rw [List.flatMap_cons, List.append_assoc, named_append _ (h a), ih, List.flatMap_cons, List.append_assoc]

theorem getLast?_brace (front content : TokenList) (word : String) :
    (front ++ brace content).getLast? ≠ some (.ident word) := by
  rw [brace, List.getLast?_concat]
  simp

/-- The items of a parser, one part of it after another. -/
theorem named_code (keyword : String) (generated : Generated) :
    named keyword generated.code =
      named keyword (generated.tokens.codeWith generated.variants) ++
        (named keyword (nodeEnumCode generated.parser.nodes) ++
          (generated.parser.nodes.flatMap (fun node => named keyword node.code) ++
            (named keyword generated.parser.entry.code ++
              (generated.parser.demo.toList.flatMap fun demo => named keyword demo.code)))) := by
  have htokens : ∀ word, (generated.tokens.codeWith generated.variants).getLast? ≠ some (.ident word) :=
    getLast?_brace _ _
  have hnodes : ∀ word, (nodeEnumCode generated.parser.nodes).getLast? ≠ some (.ident word) :=
    getLast?_brace _ _
  have hnode : ∀ (node : NodeType) word, node.code.getLast? ≠ some (.ident word) := fun _ => getLast?_brace _ _
  have hentry : ∀ word, generated.parser.entry.code.getLast? ≠ some (.ident word) := getLast?_brace _ _
  rw [Generated.code, named_append _ htokens, ParserCode.code, entryCode_eq, List.append_assoc,
    List.append_assoc,
    named_append _ hnodes, named_flatMap_append hnode, named_append _ hentry]
  rcases generated.parser.demo with _ | demo
  · rfl
  · simp

theorem named_codeWith (spec : TokenSpec) (variants : List String) :
    named "const" (spec.codeWith variants) = ["LITERALS", "REGEXES"] ∧
      named "fn" (spec.codeWith variants) = ["scanner"] := by
  unfold TokenSpec.codeWith
  generalize commaSeparated (variants.map fun name => [.ident name]) = kinds
  generalize commaSeparated (spec.literals.toList.map quote) = literals
  generalize commaSeparated _ = regexes
  constructor <;> cbv

theorem named_nodeEnumCode (nodes : List NodeType) :
    named "const" (nodeEnumCode nodes) = [] ∧ named "fn" (nodeEnumCode nodes) = [] := by
  constructor <;> cbv

theorem named_node (node : NodeType) : named "const" node.code = [] ∧ named "fn" node.code = [] := by
  constructor <;> cbv

theorem named_entry (parser : ParserCode) :
    named "const" parser.entry.code = [] ∧ named "fn" parser.entry.code = ["parse"] := by
  constructor <;> cbv

theorem named_demo (demo : Demo) : named "const" demo.code = [] ∧ named "fn" demo.code = ["main"] := by
  constructor <;> cbv

/-- **The constants that are emitted are the tables of the scanner.** -/
theorem named_const_code (generated : Generated) : named "const" generated.code = ["LITERALS", "REGEXES"] := by
  simp [named_code, named_codeWith, named_nodeEnumCode, named_node, named_entry, named_demo]

/-- **The functions that are emitted**: one makes a scanner, one parses, and one is the program if there is
one. -/
theorem named_fn_code (generated : Generated) :
    named "fn" generated.code = ["scanner", "parse"] ++ generated.parser.demo.toList.map fun _ => "main" := by
  simp [named_code, named_codeWith, named_nodeEnumCode, named_node, named_entry, named_demo,
    List.map_eq_flatMap]

end AttributeGrammar.Synthesis
