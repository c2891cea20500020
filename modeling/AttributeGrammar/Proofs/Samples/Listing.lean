import AttributeGrammar.Proofs.Samples.Scanning
import AttributeGrammar.Proofs.Synthesis.Closure
import AttributeGrammar.Proofs.Text.Lines

/-!
# The emitted code of the calculator

* `lines_ofLines`, `exists_of_linesPass` — reading a sample that is given by its lines.
* `Level` — the code of sums and the code of products are the same but for names.
* `Outline`, `listing` — the parts of node types on which a run depends, for the calculator.
* `Emitted` — what there is to know about a parser with this listing.
* `exists_emitted` — such a parser is generated for the calculator.
-/

set_option autoImplicit false

namespace AttributeGrammar.Samples

open Synthesis (Branch Check Generated NodeType ParserCode Statement)

/-! ## Samples by their lines -/

theorem lines_ofLines {lines : List (List Char)} (h : ∀ line ∈ lines, ∀ c ∈ line, c ≠ '\n' ∧ c ≠ '\r') :
    Text.lines (['\n'].intercalate (lines ++ [[]])) = lines := by
  induction lines with
  | nil => rfl
  | cons line lines ih =>
    obtain ⟨hline, hlines⟩ := List.forall_mem_cons.mp h
    have hjoin : ['\n'].intercalate (line :: lines ++ [[]]) =
        line ++ '\n' :: ['\n'].intercalate (lines ++ [[]]) := by
      cases lines <;> simp [List.intercalate, List.intersperse]
    rw [hjoin, Text.lines_append_newline (Text.withinLine_of_forall hline), ih hlines]

/-- The grammar that some lines describe. -/
def readLines (lines : List (List Char)) : Except GrammarError Grammar := do
  let numbered := lines.zipIdx.map fun (line, index) => (index + 1, line)
  let progress ← numbered.foldlM Description.Progress.line ⟨.empty, .declarations⟩
  progress.finish numbered.length

/-- Whether the last of some lines is empty, no other one has the end of a line in it, and reading them
and generating a parser come to something that satisfies a check. -/
def linesPass (lines : List String) (check : Grammar → Generated → Bool) : Bool :=
  let front := lines.dropLast.map String.toList
  lines.getLast? = some "" && (front.all fun line => line.all fun c => c ≠ '\n' && c ≠ '\r') &&
    match readLines front with
    | .error _ => false
    | .ok grammar =>
      match grammar.resolve.1 with
      | .error _ => false
      | .ok grammar =>
        match Synthesis.generate grammar false with
        | .error _ => false
        | .ok generated => check grammar generated

/-- **A sample is read as its lines are**: what they come to, its description comes to. -/
theorem exists_of_linesPass {lines : List String} {effects : List (String × Effect)}
    {check : Grammar → Generated → Bool} (h : linesPass lines check) :
    ∃ grammar generated,
      (Description.readResolved (Sample.ofLines lines effects).description).1 = .ok grammar ∧
      Synthesis.generate grammar false = .ok generated ∧ check grammar generated := by
  simp only [linesPass, Bool.and_eq_true, decide_eq_true_eq, List.all_eq_true] at h
  obtain ⟨⟨hlast, hlines⟩, hcheck⟩ := h
  have htext : (Sample.ofLines lines effects).description.toList =
      ['\n'].intercalate (lines.dropLast.map String.toList ++ [[]]) := by
    have hsplit : lines = lines.dropLast ++ [""] := (List.dropLast_append_getLast? "" hlast).symm
    conv_lhs => rw [hsplit]
    simp [Sample.ofLines, String.toList_intercalate]
  have hread : Description.read (Sample.ofLines lines effects).description =
      readLines (lines.dropLast.map String.toList) := by
    unfold Description.read Description.numberedLines
    rw [htext, lines_ofLines hlines]
    rfl
  split at hcheck
  · cases hcheck
  rename_i hfront
  split at hcheck
  · cases hcheck
  rename_i grammar hresolved
  split at hcheck
  · cases hcheck
  rename_i generated hgenerate
  refine ⟨grammar, generated, ?_, hgenerate, hcheck⟩
  rw [Description.readResolved, hread, hfront]
  exact hresolved

/-- Running a sample is running the parser that is generated for it. -/
theorem Sample.parse_eq {sample : Sample} {grammar : Grammar} {generated : Generated}
    (hread : (Description.readResolved sample.description).1 = .ok grammar)
    (hgenerate : Synthesis.generate grammar false = .ok generated) (arguments : List Value) (input : String) :
    sample.parse arguments input = generated.parse sample.meaning arguments input := by
  have hgenerated : sample.generated? = some generated := by
    simp only [Sample.generated?, hread, hgenerate, Except.toOption]
  simp only [Sample.parse, hgenerated]

namespace Calculator

/-! ## Node types -/

/-- The parts of a node type on which a run depends. -/
structure Outline where
  name : String
  parameters : List String
  dispatch : List Branch
  bodies : List (List Statement)
deriving DecidableEq

def outline (node : NodeType) : Outline :=
  ⟨node.name, node.parameters.map Synthesis.Field.name, node.dispatch, node.bodies⟩

/-- A child for the variable `var`; the fields of the child are copied under its name. -/
def child (node : String) (arguments : List String) (var : String) (exports : List String) : Statement :=
  .child ⟨node, arguments, exports.map fun name => (var ++ "_" ++ name, name)⟩

/-- Selects the only body on a token that starts a factor. -/
def opening : List Branch := [⟨.text "(", 0⟩, ⟨.text "-", 0⟩, ⟨.kind "NUM", 0⟩]

/-- The levels of binary operators. -/
inductive Level where
  | sums
  | products

namespace Level

/-- The node type of a whole sum or product. -/
def head : Level → String
  | sums => "ExprNode"
  | products => "TermNode"

/-- The node type of what comes behind the first operand. -/
def tail : Level → String
  | sums => "ExprTailNode"
  | products => "TermTailNode"

def operand : Level → String
  | sums => "TermNode"
  | products => "FactorNode"

/-- The variable of an operand. -/
def var : Level → String
  | sums => "t"
  | products => "f"

/-- The fields that are copied from an operand. -/
def operandExports : Level → List String
  | sums =>
    ["acc", "f_e_acc", "f_e_value", "f_f_value", "f_value", "rest_f_e_acc", "rest_f_e_value",
      "rest_f_f_value", "rest_f_value", "rest_rest_value", "rest_value", "value"]
  | products => ["e_acc", "e_value", "f_value", "value"]

/-- The fields that are copied from a tail. -/
def tailExports : Level → List String
  | sums => ["rest_value"] ++ sums.operandExports.map ("t_" ++ ·) ++ ["value"]
  | products => products.operandExports.map ("f_" ++ ·) ++ ["rest_value", "value"]

/-- The action that starts with the value of the first operand. -/
def seed : Level → String
  | sums => "seed"
  | products => "seed_factor"

/-- The signs of the operators and their actions. -/
def steps : Level → List (Sign × String)
  | sums => [(.plus, "add"), (.minus, "sub")]
  | products => [(.star, "mul"), (.slash, "div")]

/-- What may follow a sum or product. -/
def follow : Level → List Check
  | sums => [.text ")", .endOfInput]
  | products => [.text ")", .text "+", .text "-", .endOfInput]

variable (level : Level)

def headBody : List Statement :=
  [child level.operand [] level.var level.operandExports, .act level.seed,
    child level.tail ["acc"] "rest" level.tailExports, .act "finish"]

/-- The body for an operator. -/
def stepBody (sign : Sign) (action : String) : List Statement :=
  [.expectText (String.ofList [sign.char]) none, child level.operand [] level.var level.operandExports,
    .act action, child level.tail ["acc"] "rest" ["value"], .act "finish"]

def headOutline : Outline := ⟨level.head, [], opening, [level.headBody]⟩

def tailOutline : Outline :=
  ⟨level.tail, ["acc"],
    level.steps.zipIdx.map (fun ((sign, _), index) => ⟨.text (String.ofList [sign.char]), index⟩) ++
      level.follow.map (⟨·, level.steps.length⟩),
    level.steps.map (fun (sign, action) => level.stepBody sign action) ++ [[.act "done"]]⟩

end Level

def numberBody : List Statement := [.expectKind "NUM" (some "n"), .act "number"]

def groupBody : List Statement :=
  [.expectText "(" none, child "ExprNode" [] "e" ["acc", "value"], .act "group", .expectText ")" none]

def negateBody : List Statement :=
  [.expectText "-" none, child "FactorNode" [] "f" ["value"], .act "negate"]

def factorOutline : Outline :=
  ⟨"FactorNode", [], [⟨.kind "NUM", 0⟩, ⟨.text "(", 1⟩, ⟨.text "-", 2⟩], [numberBody, groupBody, negateBody]⟩

/-- The outlines of all node types. -/
def listing : List Outline :=
  [Level.sums.headOutline, Level.sums.tailOutline, Level.products.headOutline, Level.products.tailOutline,
    factorOutline]

/-- A parser with the listing of the calculator, and with its scanner. -/
structure Emitted (generated : Generated) : Prop where
  closed : generated.parser.Closed
  start : generated.parser.start = "ExprNode"
  outlines : generated.parser.nodes.map outline = listing
  /-- Every node has a value. -/
  value : ∀ node ∈ generated.parser.nodes, "value" ∈ node.fieldNames
  scanner : ∀ input, generated.scanner input =
    .ok ⟨scanTables, ⟨0, input.toList⟩, ⟨0, input.toList⟩, []⟩

/-- What is decided about the calculator. -/
def check (grammar : Grammar) (generated : Generated) : Bool :=
  grammar.start = "expr" &&
  grammar.rules.map (fun rule => (rule.name, rule.alternatives.map Alternative.symbols)) = rules &&
  generated.parser.start = "ExprNode" &&
  generated.parser.nodes.map outline = listing &&
  generated.parser.nodes.all (fun node => "value" ∈ node.fieldNames) &&
  generated.tokens.literals.toList = ["(", ")", "*", "+", "-", "/"] &&
  (generated.variants.zip generated.tokens.regexes).map (fun (name, regex) => (name, regex.pattern)) =
    [("NUM", "[0-9]+")]

theorem exists_checked : ∃ grammar generated,
    (Description.readResolved calculator.description).1 = .ok grammar ∧
    Synthesis.generate grammar false = .ok generated ∧ check grammar generated := by
  refine exists_of_linesPass ?_
  decide +kernel

/-- **A parser with this listing is generated for the calculator.** -/
theorem exists_emitted : ∃ grammar generated,
    (Description.readResolved calculator.description).1 = .ok grammar ∧
    Synthesis.generate grammar false = .ok generated ∧ Rules grammar ∧ Emitted generated := by
  obtain ⟨grammar, generated, hread, hgenerate, hcheck⟩ := exists_checked
  simp only [check, Bool.and_eq_true, decide_eq_true_eq, List.all_eq_true, and_assoc] at hcheck
  obtain ⟨hstart, hrules, hentry, houtlines, hvalue, hliterals, hregexes⟩ := hcheck
  obtain ⟨analysis, h⟩ := Synthesis.exists_emission hread hgenerate
  have hscanner : ∀ input, generated.scanner input =
      .ok ⟨scanTables, ⟨0, input.toList⟩, ⟨0, input.toList⟩, []⟩ := by
    intro input
    have hkinds : (generated.variants.zip generated.tokens.regexes).map
        (fun entry => (Kind.regex entry.1, entry.2.pattern)) = [(.regex "NUM", "[0-9]+")] := by
      have hmap := congrArg (List.map fun entry => (Kind.regex entry.1, entry.2)) hregexes
      rwa [List.map_map] at hmap
    change Scanner.new input _ ((generated.variants.zip generated.tokens.regexes).map
      fun entry => (Kind.regex entry.1, entry.2.pattern)) = _
    rw [hkinds, hliterals, Scanner.new, List.mapM_cons]
    simp only [compileToken?_digits]
    rfl
  exact ⟨grammar, generated, hread, hgenerate, ⟨hstart, hrules⟩, h.closed, hentry, houtlines, hvalue, hscanner⟩

end Calculator

end AttributeGrammar.Samples
