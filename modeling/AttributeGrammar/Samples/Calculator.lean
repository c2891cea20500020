import AttributeGrammar.Samples.Basic

/-!
# The calculator

A grammar of integer expressions with `+ - * /`, a sign and parentheses. The operators associate to the
left: the value so far is passed down as `acc`.

* `eval` — the value of an expression.
* `failureMessages` — what there is to say when it has none.
-/

set_option autoImplicit false

namespace AttributeGrammar.Samples

open Synthesis (RunError)

/-- The expressions of the calculator. -/
def calculator : Sample := .ofLines
  ["NUM : '[0-9]+'",
   "",
   "$seed[i32 acc] \x7b self.acc = self.t_value; \x7d",
   "$seed_factor[i32 acc] \x7b self.acc = self.f_value; \x7d",
   "$finish[i32 value] \x7b self.value = self.rest_value; \x7d",
   "$done[i32 value] \x7b self.value = self.acc; \x7d",
   "",
   "$add[] \x7b self.acc += self.t_value; \x7d",
   "$sub[] \x7b self.acc -= self.t_value; \x7d",
   "$mul[] \x7b self.acc *= self.f_value; \x7d",
   "$div[] \x7b",
   "    self.acc = self.acc.checked_div(self.f_value).unwrap_or_default();",
   "\x7d",
   "",
   "$number[i32 value] \x7b self.value = self.n.parse().unwrap_or_default(); \x7d",
   "$group[i32 value] \x7b self.value = self.e_value; \x7d",
   "$negate[i32 value] \x7b self.value = -self.f_value; \x7d",
   "",
   "expr : (t = term) $seed (rest = expr_tail) $finish",
   "expr_tail [i32 acc] : '+' (t = term) $add (rest = expr_tail) $finish",
   "expr_tail [i32 acc] : '-' (t = term) $sub (rest = expr_tail) $finish",
   "expr_tail [i32 acc] : EPS $done",
   "",
   "term : (f = factor) $seed_factor (rest = term_tail) $finish",
   "term_tail [i32 acc] : '*' (f = factor) $mul (rest = term_tail) $finish",
   "term_tail [i32 acc] : '/' (f = factor) $div (rest = term_tail) $finish",
   "term_tail [i32 acc] : EPS $done",
   "",
   "factor : (n = NUM) $number",
   "factor : '(' (e = expr) $group ')'",
   "factor : '-' (f = factor) $negate",
   "",
   "expr",
   ""]
  [("seed", setNumber "acc" fun fields => numberAt fields "t_value"),
   ("seed_factor", setNumber "acc" fun fields => numberAt fields "f_value"),
   ("finish", setNumber "value" fun fields => numberAt fields "rest_value"),
   ("done", setNumber "value" fun fields => numberAt fields "acc"),
   ("add", computeNumber "acc" fun fields =>
     Samples.add (numberAt fields "acc") (numberAt fields "t_value")),
   ("sub", computeNumber "acc" fun fields =>
     subtract (numberAt fields "acc") (numberAt fields "t_value")),
   ("mul", computeNumber "acc" fun fields =>
     multiply (numberAt fields "acc") (numberAt fields "f_value")),
   ("div", setNumber "acc" fun fields =>
     (divide? (numberAt fields "acc") (numberAt fields "f_value")).getD 0),
   ("number", setNumber "value" fun fields => (parseNumber? (textAt fields "n")).getD 0),
   ("group", setNumber "value" fun fields => numberAt fields "e_value"),
   ("negate", computeNumber "value" fun fields => Samples.negate (numberAt fields "f_value"))]

/-- The value of an expression, or why it has none, and the tokens that were read. -/
def evaluate (input : String) : Except RunError Int32 × List Token :=
  let outcome := calculator.parse [] input
  let value := match outcome.result with
    | .ok (.node _ fields _) => .ok (numberAt fields "value")
    | .ok (.leaf _) => .error (.undeclared "value")
    | .error e => .error e
  (value, outcome.delivered)

/-- The value of an expression, or why it has none. -/
def eval (input : String) : Except RunError Int32 := (evaluate input).1

/-- What there is to say about an input that is no expression, the outermost message first. -/
def failureMessages (input : String) (cause : ScanError) : List String :=
  [s!"failed to parse '{input}'", cause.message]

end AttributeGrammar.Samples
