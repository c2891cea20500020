import AttributeGrammar.Proofs.Samples.Listing
import AttributeGrammar.Proofs.Synthesis.Parse
import AttributeGrammar.Proofs.Synthesis.Return

/-!
# The value that the calculator gives

* `Expr.result` — the value of an expression by arithmetic on 32 bits; `Expr.agrees` — it is the value
  of the expression, or the panic with its message.
* `Yields` — a node type comes to a result as the value of its node.
* `yields_head`, `yields_step`, `yields_done` — the code of a level of operators: the value so far is
  passed down and the value of the whole comes back.
* `Expr.yields` — the node type of expressions comes to the result of the expression that it reads.
* `eval_sentence` — **the value of every sentence of the calculator is the value of its syntax tree.**
-/

set_option autoImplicit false

namespace AttributeGrammar.Samples.Calculator

open Synthesis

/-! ## Results in 32 bits -/

def Additive.compute : Additive → Int32 → Int32 → Except Panic Int32
  | plus => Samples.add
  | minus => Samples.subtract

def Multiplicative.compute : Multiplicative → Int32 → Int32 → Except Panic Int32
  | times => Samples.multiply
  | divide => fun a b => .ok ((divide? a b).getD 0)

/-- The number that the digits stand for, as the code reads it. -/
def Digits.result (digits : Digits) : Int32 := (parseNumber? (String.ofList digits.chars)).getD 0

mutual

def Expr.result : Expr → Except Panic Int32
  | .term t => t.result
  | .add e operator t => do
    let a ← e.result
    let b ← t.result
    operator.compute a b

def Term.result : Term → Except Panic Int32
  | .factor f => f.result
  | .mul t operator f => do
    let a ← t.result
    let b ← f.result
    operator.compute a b

def Factor.result : Factor → Except Panic Int32
  | .number digits => .ok digits.result
  | .group e => e.result
  | .negate f => do
    let a ← f.result
    Samples.negate a

end

/-- A value is that of a number of 32 bits, or a message that of a panic. -/
def Agrees : Except String Int → Except Panic Int32 → Prop
  | .ok n, .ok a => a.toInt = n
  | .error message, .error cause => cause.message = message
  | _, _ => False

theorem Agrees.bind {value : Except String Int} {result : Except Panic Int32}
    {next : Int → Except String Int} {next' : Int32 → Except Panic Int32} (h : Agrees value result)
    (hnext : ∀ a, Agrees (next a.toInt) (next' a)) : Agrees (value >>= next) (result >>= next') := by
  cases value with
  | ok n =>
    cases result with
    | ok a =>
      obtain rfl : a.toInt = n := h
      exact hnext a
    | error cause => exact h.elim
  | error message =>
    cases result with
    | ok a => exact h.elim
    | error cause => exact h

theorem inRange_iff {n : Int} : inRange n ↔ -2 ^ 31 ≤ n ∧ n < 2 ^ 31 := by
  have hmin : Int32.minValue.toInt = -2 ^ 31 := by decide
  have hmax : Int32.maxValue.toInt = 2 ^ 31 - 1 := by decide
  simp only [inRange, hmin, hmax, Bool.and_eq_true, decide_eq_true_eq]
  omega

theorem toInt_ofInt_of_inRange {n : Int} (h : inRange n) : (Int32.ofInt n).toInt = n :=
  Int32.toInt_ofInt_of_le (inRange_iff.mp h).1 (inRange_iff.mp h).2

theorem agrees_checked (operation : Arithmetic) (n : Int) :
    Agrees (within operation.name n) (checked operation n) := by
  unfold within checked
  by_cases h : inRange n
  · rw [if_pos h, if_pos (inRange_iff.mp h)]
    exact toInt_ofInt_of_inRange h
  · rw [if_neg h, if_neg fun hrange => h (inRange_iff.mpr hrange)]
    rfl

theorem toInt_divide? (a b : Int32) : ((divide? a b).getD 0).toInt = quotient a.toInt b.toInt := by
  have hzero : b = 0 ↔ b.toInt = 0 := by
    rw [← Int32.toInt_inj]
    rfl
  -- Only the upper bound can be missed: the quotient is no longer than the dividend.
  have hle := Int.natAbs_tdiv_le_natAbs a.toInt b.toInt
  have hlow := Int32.le_toInt a
  have hhigh := Int32.toInt_lt a
  unfold divide? quotient
  by_cases hb : b.toInt = 0
  · simp [hzero.mpr hb]
  · by_cases hover : 2 ^ 31 ≤ a.toInt.tdiv b.toInt
    · have hnot : ¬ inRange (a.toInt.tdiv b.toInt) := by
        rw [inRange_iff]
        omega
      rw [if_pos (Or.inr hover)]
      simp [hnot]
    · have hrange : inRange (a.toInt.tdiv b.toInt) := by
        rw [inRange_iff]
        omega
      have hne : b ≠ 0 := fun heq => hb (hzero.mp heq)
      rw [if_neg (not_or.mpr ⟨hb, hover⟩)]
      simp [hrange, hne, toInt_ofInt_of_inRange hrange]

theorem Additive.agrees (operator : Additive) (a b : Int32) :
    Agrees (operator.apply a.toInt b.toInt) (operator.compute a b) := by
  cases operator with
  | plus => exact agrees_checked .add _
  | minus => exact agrees_checked .subtract _

theorem Multiplicative.agrees (operator : Multiplicative) (a b : Int32) :
    Agrees (operator.apply a.toInt b.toInt) (operator.compute a b) := by
  cases operator with
  | times => exact agrees_checked .multiply _
  | divide => exact toInt_divide? a b

theorem decimal_eq (digits : List Char) :
    decimal digits = Nat.ofDigits 10 (digits.reverse.map fun c => c.toNat - '0'.toNat) := by
  induction digits using List.reverseRecOn with
  | nil => rfl
  | append_singleton front c ih =>
    rw [decimal, List.foldl_concat, List.reverse_concat, List.map_cons, Nat.ofDigits_cons, ← ih, decimal]
    omega

theorem Digits.agrees (digits : Digits) : digits.result.toInt = digits.value := by
  obtain ⟨c, rest, hchars⟩ := List.exists_cons_of_ne_nil digits.nonempty
  have hall := digits.all_digits
  have hc : Text.isAsciiDigit c := hall c (hchars ▸ List.mem_cons_self)
  have hminus : c ≠ '-' := by
    rintro rfl
    cases hc
  have hplus : c ≠ '+' := by
    rintro rfl
    cases hc
  have hnumber : decimal (c :: rest) = digits.number := by rw [decimal_eq, ← hchars, number]
  have hparse : parseNumber? (String.ofList digits.chars) =
      if inRange digits.number then some (.ofInt digits.number) else none := by
    have hdigits : rest.all Text.isAsciiDigit := by
      rw [List.all_eq_true]
      exact fun d hd => hall d (hchars ▸ List.mem_cons_of_mem _ hd)
    simp [parseNumber?, hchars, hminus, hplus, hc, hdigits, hnumber]
  have hrange : inRange digits.number ↔ digits.number < 2 ^ 31 := by
    rw [inRange_iff]
    omega
  unfold result value
  rw [hparse]
  by_cases h : inRange digits.number
  · rw [if_pos h, if_pos (hrange.mp h), Option.getD_some, toInt_ofInt_of_inRange h]
  · rw [if_neg h, if_neg fun hlt => h (hrange.mpr hlt)]
    rfl

mutual

theorem Expr.agrees : ∀ e : Expr, Agrees e.value e.result
  | .term t => t.agrees
  | .add e operator t => e.agrees.bind fun a => t.agrees.bind fun b => operator.agrees a b

theorem Term.agrees : ∀ t : Term, Agrees t.value t.result
  | .factor f => f.agrees
  | .mul t operator f => t.agrees.bind fun a => f.agrees.bind fun b => operator.agrees a b

theorem Factor.agrees : ∀ f : Factor, Agrees f.value f.result
  | .number digits => digits.agrees
  | .group e => e.agrees
  | .negate f => f.agrees.bind fun _ => agrees_checked .negate _

end

/-! ## Node types -/

variable {generated : Generated} {code : ParserCode} {names : List String} {tokens mid left : List Token}
  {token : Token} {depth deep : Nat} {fields child : Fields Value} {name : String} {a n : Int32}
  {result : Except Panic Int32} {before within : Fields Value → Prop}

/-- The field holds the number. -/
def Holds (name : String) (n : Int32) (fields : Fields Value) : Prop :=
  fields.lookup name = some (.number n)

theorem Holds.numberAt_eq (h : Holds name n fields) : numberAt fields name = n := by
  unfold numberAt
  rw [h]

/-- On the tokens, the node type with the name comes to the result as the value of its node. -/
def Yields (code : ParserCode) (depth : Nat) (name : String) (before : Fields Value → Prop)
    (tokens left : List Token) (result : Except Panic Int32) : Prop :=
  ∃ node, code.node? name = some node ∧
    Gives node.fieldNames before (fun state => parseNode calculator.meaning code depth node state.fields)
      tokens left result (Holds "value")

theorem Yields.deepen (hle : depth ≤ deep) (h : Yields code depth name before tokens left result) :
    Yields code deep name before tokens left result := by
  obtain ⟨node, hnode, hgives⟩ := h
  exact ⟨node, hnode, hgives.deepen fun state => parseNode_deeper hle node state.fields⟩

theorem Emitted.exists_node (h : Emitted generated) {o : Outline}
    (ho : listing.find? (fun other => other.name = name) = some o) :
    ∃ node, generated.parser.node? name = some node ∧ outline node = o ∧ "value" ∈ node.fieldNames ∧
      ∀ body ∈ o.bodies, ∀ statement ∈ body, statement.Declared generated.parser node.fieldNames := by
  rw [← h.outlines, List.find?_map] at ho
  obtain ⟨node, hnode, rfl⟩ := Option.map_eq_some_iff.mp ho
  have hmem := List.mem_of_find?_eq_some hnode
  exact ⟨node, hnode, rfl, h.value node hmem, h.closed node hmem⟩

/-- The terminal of the tokens that satisfy a condition. -/
def terminalOf : Check → Terminal
  | .text literal => .text literal
  | .kind name => .regex name
  | .endOfInput => .endOfInput

theorem holds_eq (check : Check) : check.holds token = decide (terminalOf check = token.terminal) := by
  rw [Bool.eq_iff_iff, decide_eq_true_iff, @eq_comm _ (terminalOf check)]
  cases check with
  | text literal => exact Token.terminal_eq_text.symm
  | kind name => exact decide_eq_true_iff.trans Token.terminal_eq_regex.symm
  | endOfInput => exact Token.terminal_eq_endOfInput.symm

/-- The body that a node type selects on a terminal. -/
def Outline.select? (o : Outline) (t : Terminal) : Option Nat :=
  (o.dispatch.find? fun branch => terminalOf branch.check = t).map Branch.body

/-- **A node type comes to what the body comes to that its first token selects.** -/
theorem Emitted.yields (h : Emitted generated) {o : Outline} {index : Nat} {body : List Statement}
    (ho : listing.find? (fun other => other.name = name) = some o)
    (hselect : o.select? token.terminal = some index) (hbody : o.bodies[index]? = some body)
    (hgives : ∀ names, "value" ∈ names →
      (∀ statement ∈ body, statement.Declared generated.parser names) →
      Gives names before
        (List.foldlM (runStatement calculator.meaning generated.parser
          (parseNode calculator.meaning generated.parser depth)) · body)
        (token :: tokens) left result (Holds "value")) :
    Yields generated.parser (depth + 1) name before (token :: tokens) left result := by
  obtain ⟨node, hnode, rfl, hvalue, hdeclared⟩ := h.exists_node ho
  have hchoice : node.choice? (token :: tokens) = some (some index) := by
    have hne : node.dispatch.isEmpty = false := by
      rw [List.isEmpty_eq_false_iff]
      intro hempty
      simp [Outline.select?, outline, hempty] at hselect
    rw [NodeType.choice?, hne]
    simpa [holds_eq, Outline.select?, outline] using hselect
  refine ⟨node, hnode, gives_enter hchoice hbody (hgives _ hvalue ?_)⟩
  exact hdeclared body (List.mem_of_getElem? hbody)

/-! ## Statements -/

/-- A sign that is read and not stored leaves the fields as they are. -/
theorem gives_quiet {sign : Sign} {parseChild : NodeType → Fields Value → Run (NodeState Value)}
    (hdeclared : (Statement.expectText (String.ofList [sign.char]) none).Declared code names)
    (htoken : token.terminal = (Lexeme.sign sign).terminal) :
    Gives names before
      (runStatement calculator.meaning code parseChild · (.expectText (String.ofList [sign.char]) none))
      (token :: tokens) tokens (.ok ()) fun _ => before :=
  gives_text hdeclared (Token.terminal_eq_text.mp htoken) fun _ _ hfields => hfields

theorem gives_number {action target : String} {number : Fields Value → Except Panic Int32}
    {parseChild : NodeType → Fields Value → Run (NodeState Value)}
    (hact : calculator.meaning.act action = computeNumber target number) (htarget : target ∈ names)
    (hnumber : ∀ fields, before fields → number fields = result) :
    Gives names before (runStatement calculator.meaning code parseChild · (.act action)) tokens tokens
      result (Holds target) := by
  refine gives_act fun fields hnames hbefore => ?_
  rw [hact, computeNumber, hnumber fields hbefore]
  cases result with
  | ok n => exact ⟨_, rfl, (Fields.names_put ..).trans hnames, Fields.lookup_put_self (hnames ▸ htarget)⟩
  | error cause => rfl

/-- A child comes to its result in the field for its value, and fields into which nothing is copied keep
theirs. -/
theorem gives_copied {node var : String} {arguments exports : List String}
    {describes : Int32 → Fields Value → Prop}
    (hdeclared : (Calculator.child node arguments var exports).Declared code names)
    (hvalue : "value" ∈ exports) (hyields : Yields code depth node within tokens left result)
    (harguments : ∀ declared fields values, code.node? node = some declared → before fields →
      List.Forall₂ (fun name value => fields.lookup name = some value) arguments values →
      within (declared.newFields calculator.meaning values))
    (hafter : ∀ n old new, before old → Holds (var ++ "_" ++ "value") n new →
      (∀ other, (∀ name ∈ exports, other ≠ var ++ "_" ++ name) → new.lookup other = old.lookup other) →
      describes n new) :
    Gives names before
      (runStatement calculator.meaning code (parseNode calculator.meaning code depth) ·
        (Calculator.child node arguments var exports))
      tokens left result describes := by
  obtain ⟨declared, hnode, hgives⟩ := hyields
  refine gives_child hnode hdeclared hgives (fun fields values => harguments declared fields values hnode) ?_
  intro n fields child new hbefore hparsed hcopied
  refine hafter n fields new hbefore ?_ fun other hother => hcopied.kept other ?_
  · refine (hcopied.copied _ "value" (List.mem_map_of_mem hvalue) ?_).trans hparsed
    rintro _ hcopy heq
    obtain ⟨name, -, rfl⟩ := List.mem_map.mp hcopy
    simpa using heq
  · rintro _ hcopy rfl
    obtain ⟨name, hname, rfl⟩ := List.mem_map.mp hcopy
    exact hother name hname rfl

/-- A child comes to its result in the field for its value. -/
theorem gives_value {node var : String} {arguments exports : List String}
    (hdeclared : (Calculator.child node arguments var exports).Declared code names)
    (hvalue : "value" ∈ exports) (hyields : Yields code depth node within tokens left result)
    (harguments : ∀ declared fields values, code.node? node = some declared → before fields →
      List.Forall₂ (fun name value => fields.lookup name = some value) arguments values →
      within (declared.newFields calculator.meaning values)) :
    Gives names before
      (runStatement calculator.meaning code (parseNode calculator.meaning code depth) ·
        (Calculator.child node arguments var exports))
      tokens left result (Holds (var ++ "_" ++ "value")) :=
  gives_copied hdeclared hvalue hyields harguments fun _ _ _ _ hn _ => hn

/-- The last action of a body sets the value of its node. -/
theorem gives_end {action : String} {number : Fields Value → Except Panic Int32}
    {parseChild : NodeType → Fields Value → Run (NodeState Value)}
    (hact : calculator.meaning.act action = computeNumber "value" number) (hvalue : "value" ∈ names)
    (hnumber : ∀ fields, before fields → number fields = result) :
    Gives names before (List.foldlM (runStatement calculator.meaning code parseChild) · [.act action]) tokens
      tokens result (Holds "value") :=
  (gives_number hact hvalue hnumber).last fun _ => gives_nil fun _ hn => hn

/-! ## Levels of operators -/

/-- The field for the value of an operand. -/
def Level.operandValue : Level → String
  | sums => "t_value"
  | products => "f_value"

theorem Level.var_value (level : Level) : level.var ++ "_" ++ "value" = level.operandValue := by
  cases level <;> rfl

theorem Level.value_mem (level : Level) :
    "value" ∈ level.operandExports ∧ "value" ∈ level.tailExports ∧
      ∀ name ∈ level.operandExports, "acc" ≠ level.var ++ "_" ++ name := by
  cases level <;> decide

theorem Level.find_head (level : Level) :
    listing.find? (fun other => other.name = level.head) = some level.headOutline := by
  cases level <;> rfl

theorem Level.find_tail (level : Level) :
    listing.find? (fun other => other.name = level.tail) = some level.tailOutline := by
  cases level <;> rfl

/-- An operand comes to its result in the field for it, and keeps the value so far. -/
theorem gives_operand (level : Level)
    (hdeclared : (Calculator.child level.operand [] level.var level.operandExports).Declared code names)
    (hoperand : Yields code depth level.operand (fun _ => True) tokens left result) :
    Gives names before
      (runStatement calculator.meaning code (parseNode calculator.meaning code depth) ·
        (Calculator.child level.operand [] level.var level.operandExports))
      tokens left result fun b fields => Holds level.operandValue b fields ∧
        ∃ old, before old ∧ fields.lookup "acc" = old.lookup "acc" := by
  obtain ⟨hvalue, -, hacc⟩ := level.value_mem
  refine gives_copied hdeclared hvalue hoperand (fun _ _ _ _ _ _ => trivial) ?_
  intro b old new hbefore hb hkept
  exact ⟨level.var_value ▸ hb, old, hbefore, hkept "acc" hacc⟩

namespace Emitted

variable (h : Emitted generated)

include h

/-- The value so far is passed to a tail. -/
theorem passes_acc (level : Level) {declared : NodeType} {values : List Value}
    (hnode : generated.parser.node? level.tail = some declared) (hacc : Holds "acc" a fields)
    (hvalues : List.Forall₂ (fun name value => fields.lookup name = some value) ["acc"] values) :
    Holds "acc" a (declared.newFields calculator.meaning values) := by
  obtain ⟨node, hfound, houtline, -, hbodies⟩ := h.exists_node level.find_tail
  cases hnode.symm.trans hfound
  obtain ⟨value, _, hvalue, hnil, rfl⟩ := List.forall₂_cons_left_iff.mp hvalues
  cases hnil
  cases hvalue.symm.trans hacc
  have hparameters : declared.parameters.map Field.name = ["acc"] := congrArg Outline.parameters houtline
  refine NodeType.lookup_newFields hparameters ?_
  -- The bodies of a tail pass the value so far on to a tail again, so that it is declared.
  obtain ⟨body, hbody, hmem⟩ : ∃ body ∈ level.tailOutline.bodies,
      Calculator.child level.tail ["acc"] "rest" ["value"] ∈ body := by
    cases level with
    | sums => exact ⟨Level.sums.stepBody .plus "add", List.mem_cons_self, by simp [Level.stepBody]⟩
    | products => exact ⟨Level.products.stepBody .star "mul", List.mem_cons_self, by simp [Level.stepBody]⟩
  obtain ⟨_, -, hpassed, -⟩ := hbodies body hbody _ hmem
  exact hpassed "acc" List.mem_cons_self

/-- The value so far is passed down to a tail, and the value of the tail is that of the node. -/
theorem gives_rest (level : Level) {exports : List String} (hexports : "value" ∈ exports)
    (hvalue : "value" ∈ names)
    (hdeclared : (Calculator.child level.tail ["acc"] "rest" exports).Declared generated.parser names)
    (htail : Yields generated.parser depth level.tail (Holds "acc" a) tokens left result) :
    Gives names (Holds "acc" a)
      (List.foldlM (runStatement calculator.meaning generated.parser
        (parseNode calculator.meaning generated.parser depth)) ·
          [Calculator.child level.tail ["acc"] "rest" exports, .act "finish"])
      tokens left result (Holds "value") := by
  have hfinish : calculator.meaning.act "finish" =
      computeNumber "value" fun fields => .ok (numberAt fields "rest_value") := rfl
  refine (gives_value hdeclared hexports htail ?_).last fun n => ?_
  · exact fun declared fields values hnode => h.passes_acc level hnode
  · exact gives_end hfinish hvalue fun fields hn => congrArg Except.ok hn.numberAt_eq

/-- **The first operand of a sum or product, and then its tail.** -/
theorem yields_head (level : Level) {last : Int32 → Except Panic Int32}
    (hopens : token.terminal ∈ opening.map fun branch => terminalOf branch.check)
    (hoperand : Yields generated.parser depth level.operand (fun _ => True) (token :: tokens) mid result)
    (htail : ∀ a, Yields generated.parser depth level.tail (Holds "acc" a) mid left (last a)) :
    Yields generated.parser (depth + 1) level.head (fun _ => True) (token :: tokens) left
      (result >>= last) := by
  have hselect : level.headOutline.select? token.terminal = some 0 := by
    simp only [opening, List.map_cons, List.map_nil, List.mem_cons, List.not_mem_nil, or_false] at hopens
    rcases hopens with heq | heq | heq <;> rw [heq] <;> cases level <;> rfl
  refine h.yields level.find_head hselect rfl fun names hvalue hdeclared => ?_
  obtain ⟨hfirst, hdeclared⟩ := List.forall_mem_cons.mp hdeclared
  obtain ⟨-, hdeclared⟩ := List.forall_mem_cons.mp hdeclared
  obtain ⟨hrest, -⟩ := List.forall_mem_cons.mp hdeclared
  obtain ⟨_, -, hpassed, -⟩ := id hrest
  have hacc : "acc" ∈ names := hpassed "acc" List.mem_cons_self
  have hseed : calculator.meaning.act level.seed =
      computeNumber "acc" fun fields => .ok (numberAt fields level.operandValue) := by
    cases level <;> rfl
  refine (gives_value hfirst level.value_mem.1 hoperand fun _ _ _ _ _ _ => trivial).comp fun a => ?_
  have hstart : Gives names (Holds level.operandValue a)
      (runStatement calculator.meaning generated.parser
        (parseNode calculator.meaning generated.parser depth) · (.act level.seed))
      mid mid (.ok a) (Holds "acc") :=
    gives_number hseed hacc fun fields hfields => congrArg Except.ok hfields.numberAt_eq
  rw [level.var_value]
  exact hstart.comp fun b => h.gives_rest level level.value_mem.2.1 hvalue hrest (htail b)

/-- **An operator with its operand, and then the tail that is left.** -/
theorem yields_step (level : Level) {index : Nat} {sign : Sign} {action : String}
    {compute : Int32 → Int32 → Except Panic Int32} {last : Int32 → Except Panic Int32}
    (hselect : level.tailOutline.select? (Lexeme.sign sign).terminal = some index)
    (hbody : level.tailOutline.bodies[index]? = some (level.stepBody sign action))
    (hact : calculator.meaning.act action = computeNumber "acc" fun fields =>
      compute (numberAt fields "acc") (numberAt fields level.operandValue))
    (htoken : token.terminal = (Lexeme.sign sign).terminal)
    (hoperand : Yields generated.parser depth level.operand (fun _ => True) tokens mid result)
    (htail : ∀ a, Yields generated.parser depth level.tail (Holds "acc" a) mid left (last a)) (a : Int32) :
    Yields generated.parser (depth + 1) level.tail (Holds "acc" a) (token :: tokens) left
      (result >>= fun b => compute a b >>= last) := by
  refine h.yields level.find_tail (htoken ▸ hselect) hbody fun names hvalue hdeclared => ?_
  obtain ⟨hinto, hdeclared⟩ := List.forall_mem_cons.mp hdeclared
  obtain ⟨hfirst, hdeclared⟩ := List.forall_mem_cons.mp hdeclared
  obtain ⟨-, hdeclared⟩ := List.forall_mem_cons.mp hdeclared
  obtain ⟨hrest, -⟩ := List.forall_mem_cons.mp hdeclared
  obtain ⟨_, -, hpassed, -⟩ := id hrest
  have hacc : "acc" ∈ names := hpassed "acc" List.mem_cons_self
  refine (gives_quiet hinto htoken).then ?_
  refine (gives_operand level hfirst hoperand).comp fun b => ?_
  refine (gives_number hact hacc ?_).comp fun c => h.gives_rest level List.mem_cons_self hvalue hrest (htail c)
  rintro fields ⟨hb, old, hold, hkept⟩
  have ha : Holds "acc" a fields := hkept.trans hold
  rw [ha.numberAt_eq, hb.numberAt_eq]

/-- **Where no operator follows, the value so far is that of the tail.** -/
theorem yields_done (level : Level)
    (hfollow : token.terminal ∈ level.follow.map terminalOf) (a : Int32) :
    Yields generated.parser (depth + 1) level.tail (Holds "acc" a) (token :: tokens) (token :: tokens)
      (.ok a) := by
  have hselect : level.tailOutline.select? token.terminal = some level.steps.length := by
    cases level with
    | sums =>
      simp only [Level.follow, List.map_cons, List.map_nil, List.mem_cons, List.not_mem_nil,
        or_false] at hfollow
      rcases hfollow with heq | heq <;> rw [heq] <;> rfl
    | products =>
      simp only [Level.follow, List.map_cons, List.map_nil, List.mem_cons, List.not_mem_nil,
        or_false] at hfollow
      rcases hfollow with heq | heq | heq | heq <;> rw [heq] <;> rfl
  have hbody : level.tailOutline.bodies[level.steps.length]? = some [.act "done"] := by
    cases level <;> rfl
  have hact : calculator.meaning.act "done" =
      computeNumber "value" fun fields => .ok (numberAt fields "acc") := rfl
  refine h.yields level.find_tail hselect hbody fun names hvalue _ => ?_
  exact gives_end hact hvalue fun fields ha => congrArg Except.ok ha.numberAt_eq

/-! ## Factors -/

theorem yields_number {digits : Digits} (hspells : Spells token (.number digits)) :
    Yields generated.parser (depth + 1) "FactorNode" (fun _ => True) (token :: tokens) tokens
      (.ok digits.result) := by
  obtain ⟨hterminal, htext⟩ := hspells
  have hselect : factorOutline.select? token.terminal = some 0 := by
    rw [hterminal]
    rfl
  refine h.yields rfl hselect rfl fun names hvalue hdeclared => ?_
  obtain ⟨hinto, -⟩ := List.forall_mem_cons.mp hdeclared
  have hn : "n" ∈ names := hinto "n" rfl
  have hread : Gives names (fun _ => True)
      (runStatement calculator.meaning generated.parser
        (parseNode calculator.meaning generated.parser depth) · (.expectKind "NUM" (some "n")))
      (token :: tokens) tokens (.ok ()) fun _ fields => fields.lookup "n" = some (.text token.text) :=
    gives_kind hinto (Token.terminal_eq_regex.mp hterminal) fun fields hnames _ =>
      Fields.lookup_put_self (hnames ▸ hn)
  have hact : calculator.meaning.act "number" =
      computeNumber "value" fun fields => .ok ((parseNumber? (textAt fields "n")).getD 0) := rfl
  refine hread.then (gives_end hact hvalue fun fields hfields => ?_)
  simp only [textAt, hfields, htext]
  rfl

theorem yields_group {opening closing : Token} (hopening : opening.terminal = (Lexeme.sign .left).terminal)
    (hclosing : closing.terminal = (Lexeme.sign .right).terminal)
    (hinner : Yields generated.parser depth "ExprNode" (fun _ => True) tokens (closing :: left) result) :
    Yields generated.parser (depth + 1) "FactorNode" (fun _ => True) (opening :: tokens) left result := by
  have hselect : factorOutline.select? opening.terminal = some 1 := by
    rw [hopening]
    rfl
  refine h.yields rfl hselect rfl fun names hvalue hdeclared => ?_
  obtain ⟨hinto, hdeclared⟩ := List.forall_mem_cons.mp hdeclared
  obtain ⟨hchild, hdeclared⟩ := List.forall_mem_cons.mp hdeclared
  obtain ⟨-, hdeclared⟩ := List.forall_mem_cons.mp hdeclared
  obtain ⟨hinto', -⟩ := List.forall_mem_cons.mp hdeclared
  have hact : calculator.meaning.act "group" =
      computeNumber "value" fun fields => .ok (numberAt fields "e_value") := rfl
  refine (gives_quiet hinto hopening).then ?_
  refine (gives_value hchild (by simp) hinner fun _ _ _ _ _ _ => trivial).last fun n => ?_
  refine (gives_number hact hvalue fun fields hn => congrArg Except.ok hn.numberAt_eq).last fun m => ?_
  exact (gives_quiet hinto' hclosing).then (gives_nil fun _ hm => hm)

theorem yields_negate (htoken : token.terminal = (Lexeme.sign .minus).terminal)
    (hfactor : Yields generated.parser depth "FactorNode" (fun _ => True) tokens left result) :
    Yields generated.parser (depth + 1) "FactorNode" (fun _ => True) (token :: tokens) left
      (result >>= Samples.negate) := by
  have hselect : factorOutline.select? token.terminal = some 2 := by
    rw [htoken]
    rfl
  refine h.yields rfl hselect rfl fun names hvalue hdeclared => ?_
  obtain ⟨hinto, hdeclared⟩ := List.forall_mem_cons.mp hdeclared
  obtain ⟨hchild, -⟩ := List.forall_mem_cons.mp hdeclared
  have hact : calculator.meaning.act "negate" =
      computeNumber "value" fun fields => Samples.negate (numberAt fields "f_value") := rfl
  refine (gives_quiet hinto htoken).then ?_
  refine (gives_value hchild (by simp) hfactor fun _ _ _ _ _ _ => trivial).comp fun n => ?_
  exact gives_end hact hvalue fun fields hn => congrArg Samples.negate hn.numberAt_eq

end Emitted

/-! ## Expressions -/

/-- A factor starts with a token on which the operands are selected. -/
theorem Factor.opens (f : Factor) : ∃ lexeme back, f.lexemes = lexeme :: back ∧
    lexeme.terminal ∈ opening.map fun branch => terminalOf branch.check := by
  cases f with
  | number digits => exact ⟨_, [], rfl, by simp [opening, terminalOf, Lexeme.terminal]⟩
  | group e => exact ⟨.sign .left, _, rfl, by simp [opening, terminalOf, Lexeme.terminal, Sign.char]⟩
  | negate f => exact ⟨.sign .minus, _, rfl, by simp [opening, terminalOf, Lexeme.terminal, Sign.char]⟩

theorem Term.opens : ∀ t : Term, ∃ lexeme back, t.lexemes = lexeme :: back ∧
    lexeme.terminal ∈ opening.map fun branch => terminalOf branch.check
  | .factor f => f.opens
  | .mul t operator f => by
    obtain ⟨lexeme, back, heq, hopens⟩ := t.opens
    exact ⟨lexeme, back ++ .sign operator.sign :: f.lexemes, by rw [Term.lexemes, heq]; rfl, hopens⟩

theorem exists_opening {lexemes : List Lexeme} (hspells : List.Forall₂ Spells tokens lexemes)
    (hopens : ∃ lexeme back, lexemes = lexeme :: back ∧
      lexeme.terminal ∈ opening.map fun branch => terminalOf branch.check) :
    ∃ token rest, tokens = token :: rest ∧
      token.terminal ∈ opening.map fun branch => terminalOf branch.check := by
  obtain ⟨lexeme, back, rfl, hmem⟩ := hopens
  obtain ⟨token, rest, hfirst, -, rfl⟩ := List.forall₂_cons_right_iff.mp hspells
  exact ⟨token, rest, rfl, hfirst.1 ▸ hmem⟩

/-- The tokens of an operator between operands. -/
theorem exists_operator {front back : List Lexeme} {sign : Sign}
    (hspells : List.Forall₂ Spells tokens (front ++ .sign sign :: back)) :
    ∃ before token after, tokens = before ++ token :: after ∧ List.Forall₂ Spells before front ∧
      token.terminal = (Lexeme.sign sign).terminal ∧ List.Forall₂ Spells after back := by
  have hfront := List.forall₂_take_append _ _ _ hspells
  have hback := List.forall₂_drop_append _ _ _ hspells
  obtain ⟨token, after, htoken, hafter, hdrop⟩ := List.forall₂_cons_right_iff.mp hback
  exact ⟨_, token, after, by rw [← hdrop, List.take_append_drop], hfront, htoken.1, hafter⟩

theorem Additive.yields (h : Emitted generated) (operator : Additive) {last : Int32 → Except Panic Int32}
    (htoken : token.terminal = (Lexeme.sign operator.sign).terminal)
    (hoperand : Yields generated.parser depth "TermNode" (fun _ => True) tokens mid result)
    (htail : ∀ a, Yields generated.parser depth "ExprTailNode" (Holds "acc" a) mid left (last a)) (a : Int32) :
    Yields generated.parser (depth + 1) "ExprTailNode" (Holds "acc" a) (token :: tokens) left
      (result >>= fun b => operator.compute a b >>= last) := by
  cases operator with
  | plus => exact h.yields_step .sums rfl rfl rfl htoken hoperand htail a
  | minus => exact h.yields_step .sums rfl rfl rfl htoken hoperand htail a

theorem Multiplicative.yields (h : Emitted generated) (operator : Multiplicative)
    {last : Int32 → Except Panic Int32} (htoken : token.terminal = (Lexeme.sign operator.sign).terminal)
    (hoperand : Yields generated.parser depth "FactorNode" (fun _ => True) tokens mid result)
    (htail : ∀ a, Yields generated.parser depth "TermTailNode" (Holds "acc" a) mid left (last a)) (a : Int32) :
    Yields generated.parser (depth + 1) "TermTailNode" (Holds "acc" a) (token :: tokens) left
      (result >>= fun b => operator.compute a b >>= last) := by
  cases operator with
  | times => exact h.yields_step .products rfl rfl rfl htoken hoperand htail a
  | divide => exact h.yields_step .products rfl rfl rfl htoken hoperand htail a

theorem Additive.follow (operator : Additive) (htoken : token.terminal = (Lexeme.sign operator.sign).terminal) :
    token.terminal ∈ Level.products.follow.map terminalOf := by
  rw [htoken]
  cases operator <;> simp [Level.follow, terminalOf, Lexeme.terminal, Additive.sign, Sign.char]

/-! The induction takes along the rest of a sum or product, which gets the value so far from its tail. -/

mutual

theorem Expr.yields (h : Emitted generated) : ∀ (e : Expr) {depth : Nat} {tokens more left : List Token}
    {next : Token} {last : Int32 → Except Panic Int32}, List.Forall₂ Spells tokens e.lexemes →
    next.terminal ∈ Level.products.follow.map terminalOf →
    (∀ a, Yields generated.parser depth "ExprTailNode" (Holds "acc" a) (next :: more) left (last a)) →
    ∃ deep, Yields generated.parser deep "ExprNode" (fun _ => True) (tokens ++ next :: more) left
      (e.result >>= last)
  | .term t, depth, tokens, more, left, next, last, hspells, hnext, htail => by
    obtain ⟨first, rest, rfl, hopens⟩ := exists_opening hspells t.opens
    have hdone : ∀ a, Yields generated.parser 1 "TermTailNode" (Holds "acc" a) (next :: more) (next :: more)
        (pure a) := h.yields_done .products hnext
    obtain ⟨deep, hterm⟩ := t.yields h hspells hdone
    rw [bind_pure] at hterm
    exact ⟨max deep depth + 1, h.yields_head .sums hopens (hterm.deepen (Nat.le_max_left ..))
      fun a => (htail a).deepen (Nat.le_max_right ..)⟩
  | .add e operator t, depth, tokens, more, left, next, last, hspells, hnext, htail => by
    obtain ⟨before, token, after, rfl, hbefore, htoken, hafter⟩ := exists_operator hspells
    have hdone : ∀ a, Yields generated.parser 1 "TermTailNode" (Holds "acc" a) (next :: more) (next :: more)
        (pure a) := h.yields_done .products hnext
    obtain ⟨deep, hterm⟩ := t.yields h hafter hdone
    rw [bind_pure] at hterm
    have hstep := operator.yields h htoken (hterm.deepen (Nat.le_max_left deep depth))
      fun a => (htail a).deepen (Nat.le_max_right deep depth)
    have hsum := e.yields h hbefore (operator.follow htoken) hstep
    simpa [Expr.result] using hsum

theorem Term.yields (h : Emitted generated) : ∀ (t : Term) {depth : Nat} {tokens mid left : List Token}
    {last : Int32 → Except Panic Int32}, List.Forall₂ Spells tokens t.lexemes →
    (∀ a, Yields generated.parser depth "TermTailNode" (Holds "acc" a) mid left (last a)) →
    ∃ deep, Yields generated.parser deep "TermNode" (fun _ => True) (tokens ++ mid) left (t.result >>= last)
  | .factor f, depth, tokens, mid, left, last, hspells, htail => by
    obtain ⟨first, rest, rfl, hopens⟩ := exists_opening hspells f.opens
    obtain ⟨deep, hfactor⟩ := f.yields h hspells mid
    exact ⟨max deep depth + 1, h.yields_head .products hopens (hfactor.deepen (Nat.le_max_left ..))
      fun a => (htail a).deepen (Nat.le_max_right ..)⟩
  | .mul t operator f, depth, tokens, mid, left, last, hspells, htail => by
    obtain ⟨before, token, after, rfl, hbefore, htoken, hafter⟩ := exists_operator hspells
    obtain ⟨deep, hfactor⟩ := f.yields h hafter mid
    have hstep := operator.yields h htoken (hfactor.deepen (Nat.le_max_left deep depth))
      fun a => (htail a).deepen (Nat.le_max_right deep depth)
    have hproduct := t.yields h hbefore hstep
    simpa [Term.result] using hproduct

theorem Factor.yields (h : Emitted generated) : ∀ (f : Factor) {tokens : List Token},
    List.Forall₂ Spells tokens f.lexemes → ∀ left : List Token,
    ∃ deep, Yields generated.parser deep "FactorNode" (fun _ => True) (tokens ++ left) left f.result
  | .number digits, tokens, hspells, left => by
    obtain ⟨token, rest, htoken, hrest, rfl⟩ := List.forall₂_cons_right_iff.mp hspells
    cases hrest
    exact ⟨1, h.yields_number htoken⟩
  | .group e, tokens, hspells, left => by
    obtain ⟨opening, rest, hopening, hrest, rfl⟩ := List.forall₂_cons_right_iff.mp hspells
    obtain ⟨inner, closing, after, rfl, hinner, hclosing, hafter⟩ := exists_operator hrest
    cases hafter
    have hdone : ∀ a, Yields generated.parser 1 "ExprTailNode" (Holds "acc" a) (closing :: left)
        (closing :: left) (pure a) := h.yields_done .sums (by rw [hclosing]; exact List.mem_cons_self)
    obtain ⟨deep, hexpr⟩ := e.yields h hinner (by rw [hclosing]; exact List.mem_cons_self) hdone
    rw [bind_pure] at hexpr
    refine ⟨deep + 1, ?_⟩
    simpa [Factor.result] using h.yields_group hopening.1 hclosing hexpr
  | .negate f, tokens, hspells, left => by
    obtain ⟨token, rest, htoken, hrest, rfl⟩ := List.forall₂_cons_right_iff.mp hspells
    obtain ⟨deep, hfactor⟩ := f.yields h hrest left
    exact ⟨deep + 1, h.yields_negate htoken.1 hfactor⟩

end

/-! ## Runs -/

theorem names_of_computeNumber {target : String} {number : Fields Value → Except Panic Int32}
    {new : Fields Value} (hnew : computeNumber target number fields = .ok new) : new.names = fields.names := by
  obtain ⟨n, -, heq⟩ := Outcome.except_bind_eq_ok.mp hnew
  cases heq
  exact Fields.names_put ..

theorem names_of_setNumber {target : String} {number : Fields Value → Int32} {new : Fields Value}
    (hnew : setNumber target number fields = .ok new) : new.names = fields.names := by
  cases hnew
  exact Fields.names_put ..

/-- The actions of the calculator keep the declared fields. -/
theorem meaning_keeps (code : ParserCode) : calculator.meaning.Keeps code := by
  intro node _ body _ action _ fields new hnames hact
  rw [← hnames]
  rcases heffect : calculator.effects.lookup action with _ | effect
  · simp only [Sample.meaning, heffect, Option.getD_none] at hact
    cases hact
    rfl
  · simp only [Sample.meaning, heffect, Option.getD_some] at hact
    obtain ⟨front, back, heq, -⟩ := List.lookup_eq_some_iff.mp heffect
    have hmem : (action, effect) ∈ calculator.effects := by simp [heq]
    simp only [calculator, Sample.ofLines, List.mem_cons, Prod.mk.injEq, List.not_mem_nil, or_false] at hmem
    rcases hmem with ⟨-, rfl⟩ | ⟨-, rfl⟩ | ⟨-, rfl⟩ | ⟨-, rfl⟩ | ⟨-, rfl⟩ | ⟨-, rfl⟩ | ⟨-, rfl⟩ |
      ⟨-, rfl⟩ | ⟨-, rfl⟩ | ⟨-, rfl⟩ | ⟨-, rfl⟩
    all_goals first | exact names_of_setNumber hact | exact names_of_computeNumber hact

/-- What the start rule comes to, a run of the whole parser comes to, if only the end is left. -/
theorem Emitted.run_of_yields (h : Emitted generated) {scanner : Scanner} {stop : Token} (hstop : stop.isEnd)
    (hyields : Yields generated.parser depth "ExprNode" (fun _ => True) tokens [stop] result)
    (hahead : scanner.Ahead tokens) :
    (∃ cause after, result = .error cause ∧
      generated.parser.run calculator.meaning depth [] scanner = .error (.panic cause) after) ∨
    ∃ n name fields children after, result = .ok n ∧ Holds "value" n fields ∧
      generated.parser.run calculator.meaning depth [] scanner = .ok (.node name fields children) after := by
  obtain ⟨node, hnode, hgives⟩ := hyields
  have hfound : Run.declared generated.parser.start (generated.parser.node? generated.parser.start) scanner =
      .ok node scanner := Run.declared_eq_ok.mpr ⟨h.start ▸ hnode, rfl⟩
  have hcomes := hgives ⟨node.newFields calculator.meaning [], []⟩ scanner (node.names_newFields _ _) trivial
    hahead
  cases result with
  | error cause =>
    obtain ⟨after, hparse⟩ := hcomes
    refine Or.inl ⟨cause, after, rfl, Outcome.bind_eq_error.mpr (Or.inr ⟨node, scanner, hfound, ?_⟩)⟩
    exact Outcome.bind_eq_error.mpr (Or.inl hparse)
  | ok n =>
    obtain ⟨state, mid, hparse, -, hn, hmid⟩ := hcomes
    rcases expectEnd_spec hmid with ⟨_, _, after, -, -, hend⟩ | ⟨-, hnot⟩
    · refine Or.inr ⟨n, node.name, state.fields, state.children, after, rfl, hn, ?_⟩
      refine Outcome.bind_eq_ok.mpr ⟨node, scanner, hfound, Outcome.bind_eq_ok.mpr ⟨state, mid, hparse, ?_⟩⟩
      exact Outcome.bind_eq_ok.mpr ⟨(), after, hend, rfl⟩
    · exact absurd hstop (hnot stop rfl)

/-- What the tree of an expression says, or why there is none. -/
def valueOf : Except RunError (Synthesis.Tree Value) → Except RunError Int32
  | .ok (.node _ fields _) => .ok (numberAt fields "value")
  | .ok (.leaf _) => .error (.undeclared "value")
  | .error e => .error e

theorem evaluate_eq (input : String) : evaluate input =
    (valueOf (calculator.parse [] input).result, (calculator.parse [] input).delivered) := by
  delta evaluate
  generalize calculator.parse [] input = outcome
  obtain ⟨result, delivered⟩ := outcome
  rcases result with e | ⟨text⟩ | ⟨name, fields, children⟩ <;> rfl

/- Comparing the two sides at an input would run the calculator. -/
theorem eval_eq : eval = fun input => (evaluate input).1 := by
  delta eval
  rfl

/-- **The value of an expression is its result**: every expression is read to its end. -/
theorem eval_text (e : Expr) : eval e.text = e.result.mapError RunError.panic := by
  obtain ⟨grammar, generated, hread, hgenerate, hrules, hemitted⟩ := exists_emitted
  obtain ⟨analysis, hemission⟩ := exists_emission hread hgenerate
  obtain ⟨tokens, stop, hdelivers, hspells, hstop⟩ := delivers_word e.apart 0
  have hscanner := hemitted.scanner e.text
  generalize hscan : (⟨scanTables, _, _, []⟩ : Scanner) = scanner at hscanner
  have hahead : scanner.Ahead (tokens ++ [stop]) := by
    rw [← hscan, Expr.text, textOf, String.toList_ofList]
    exact hdelivers
  -- The words of expressions are derived, so that the run is not cut off at the depth for its input.
  have hnot : (generated.parse calculator.meaning [] e.text).result ≠ .error .tooDeep := by
    have hterminals : tokens.map Token.terminal = e.lexemes.map Lexeme.terminal :=
      List.forall₂_eq_eq_eq ▸ List.forall₂_map_left_iff.mpr
        (List.forall₂_map_right_iff.mpr (hspells.imp fun _ _ h => h.1))
    have hderives : grammar.Derives [.nonTerminal grammar.start] (tokens.map Token.terminal) :=
      hterminals ▸ hrules.derives_iff_exists.mpr ⟨e, rfl⟩
    have hscans := (Generated.scansTo_iff hscanner hahead).mpr ⟨rfl, hstop⟩
    intro hcut
    have hends : (∃ tree, (generated.parse calculator.meaning [] e.text).result = .ok tree) ∨
        ∃ cause, (generated.parse calculator.meaning [] e.text).result = .error (.panic cause) :=
      hemission.returns_or_panics (meaning_keeps _) hderives hscans
    rcases hends with ⟨_, heq⟩ | ⟨_, heq⟩ <;> cases hcut.symm.trans heq
  have hend : stop.terminal = .endOfInput := Token.terminal_eq_endOfInput.mpr hstop
  have hdone : ∀ a, Yields generated.parser 1 "ExprTailNode" (Holds "acc" a) [stop] [stop] (pure a) :=
    hemitted.yields_done .sums (by rw [hend]; exact List.mem_cons_of_mem _ List.mem_cons_self)
  obtain ⟨depth, hyields⟩ := e.yields hemitted hspells (by rw [hend]; simp [Level.follow, terminalOf]) hdone
  rw [bind_pure] at hyields
  rw [eval_eq]
  beta_reduce
  rw [evaluate_eq, Sample.parse_eq hread hgenerate]
  rcases hemitted.run_of_yields hstop hyields hahead with
    ⟨cause, after, hresult, hrun⟩ | ⟨n, name, fields, children, after, hresult, hn, hrun⟩
  · have hdeep := Generated.run_depthFor hscanner hrun (fun last h => by cases h) hnot
    rw [(Generated.parse_eq_error (by simp)).mpr ⟨scanner, after, hscanner, hdeep⟩, hresult]
    rfl
  · have hdeep := Generated.run_depthFor hscanner hrun (fun last h => by cases h) hnot
    rw [Generated.parse_eq_ok.mpr ⟨scanner, after, hscanner, hdeep⟩, hresult]
    exact congrArg Except.ok hn.numberAt_eq

/-- The outcome of evaluating is a number of 32 bits that is the value, or a panic with the message. -/
def Evaluates (value : Except String Int) (outcome : Except RunError Int32) : Prop :=
  match value with
  | .ok n => ∃ a, outcome = .ok a ∧ a.toInt = n
  | .error message => ∃ cause, outcome = .error (.panic cause) ∧ cause.message = message

/-- **The sentences of the calculator are the words of its syntax trees, and every one evaluates to the
value of its tree**, or breaks off as the tree does. -/
theorem eval_sentence : ∃ grammar,
    (Description.readResolved calculator.description).1 = .ok grammar ∧
    (∀ word : List Lexeme, grammar.Derives [.nonTerminal grammar.start] (word.map Lexeme.terminal) ↔
      ∃ e : Expr, e.lexemes = word) ∧
    ∀ e : Expr, Evaluates e.value (eval (textOf e.lexemes)) := by
  obtain ⟨grammar, generated, hread, -, hrules, -⟩ := exists_emitted
  refine ⟨grammar, hread, fun word => hrules.derives_iff_exists, fun e => ?_⟩
  have heval : eval (textOf e.lexemes) = e.result.mapError RunError.panic := eval_text e
  have hagrees := e.agrees
  unfold Evaluates
  rw [heval]
  revert hagrees
  rcases e.value with message | n <;> rcases e.result with cause | a
  · exact fun h => ⟨cause, rfl, h⟩
  · exact False.elim
  · exact False.elim
  · exact fun h => ⟨a, rfl, h⟩

end AttributeGrammar.Samples.Calculator
