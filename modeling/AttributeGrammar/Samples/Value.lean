import AttributeGrammar.Synthesis.Run
import AttributeGrammar.Text.Identifier

/-!
# Values of sample grammars

* `Value` — what a field of a node can hold.
* `checked` — arithmetic on numbers of 32 bits, which breaks off when it leaves them.
* `parseNumber?`, `divide?` — reading a number and dividing numbers, where there is a result.
* `Effect` — what an action does to the fields of its node.
-/

set_option autoImplicit false

namespace AttributeGrammar.Samples

open Synthesis (Arithmetic Panic Fields)

/-- What a field of a node can hold. -/
inductive Value where
  | text (text : String)
  | number (number : Int32)
  | flag (flag : Bool)
  | names (names : List String)
deriving DecidableEq, Repr

namespace Value

/-- The value that a field of a type has at first. -/
def initial : (type : String) → Value
  | "i32" => .number 0
  | "bool" => .flag false
  | "Vec<String>" => .names []
  | _ => .text ""

end Value

/-! ## Numbers -/

/-- Whether a number fits into 32 bits. -/
def inRange (n : Int) : Bool := Int32.minValue.toInt ≤ n && n ≤ Int32.maxValue.toInt

/-- The result of an operation, which breaks off when the result does not fit into 32 bits. -/
def checked (operation : Arithmetic) (result : Int) : Except Panic Int32 :=
  if inRange result then .ok (.ofInt result) else .error (.overflow operation)

def add (a b : Int32) : Except Panic Int32 := checked .add (a.toInt + b.toInt)

def subtract (a b : Int32) : Except Panic Int32 := checked .subtract (a.toInt - b.toInt)

def multiply (a b : Int32) : Except Panic Int32 := checked .multiply (a.toInt * b.toInt)

def negate (a : Int32) : Except Panic Int32 := checked .negate (-a.toInt)

/-- The quotient rounded toward zero, if there is one and it fits. -/
def divide? (a b : Int32) : Option Int32 :=
  let quotient := a.toInt.tdiv b.toInt
  if b ≠ 0 && inRange quotient then some (.ofInt quotient) else none

/-- The number that a sequence of decimal digits stands for. -/
def decimal (digits : List Char) : Nat :=
  digits.foldl (fun n c => 10 * n + (c.toNat - '0'.toNat)) 0

/-- The number of a text of decimal digits with an optional sign, if it fits into 32 bits. -/
def parseNumber? (text : String) : Option Int32 :=
  let (sign, digits) : Int × List Char := match text.toList with
    | '-' :: digits => (-1, digits)
    | '+' :: digits => (1, digits)
    | digits => (1, digits)
  let n := sign * decimal digits
  if !digits.isEmpty && digits.all Text.isAsciiDigit && inRange n then some (.ofInt n) else none

/-! ## Fields -/

/-- The text that a field holds. -/
def textAt (fields : Fields Value) (name : String) : String :=
  match fields.lookup name with
  | some (.text text) => text
  | _ => ""

/-- The number that a field holds. -/
def numberAt (fields : Fields Value) (name : String) : Int32 :=
  match fields.lookup name with
  | some (.number number) => number
  | _ => 0

/-- The names that a field holds. -/
def namesAt (fields : Fields Value) (name : String) : List String :=
  match fields.lookup name with
  | some (.names names) => names
  | _ => []

/-- What an action does to the fields of its node. -/
abbrev Effect := Fields Value → Except Panic (Fields Value)

/-- Stores a text. -/
def setText (name : String) (text : Fields Value → String) : Effect := fun fields =>
  .ok (fields.put name (.text (text fields)))

/-- Stores a number. -/
def setNumber (name : String) (number : Fields Value → Int32) : Effect := fun fields =>
  .ok (fields.put name (.number (number fields)))

/-- Stores a number that arithmetic gives. -/
def computeNumber (name : String) (number : Fields Value → Except Panic Int32) : Effect :=
  fun fields => do return fields.put name (.number (← number fields))

/-- Stores names. -/
def setNames (name : String) (names : Fields Value → List String) : Effect := fun fields =>
  .ok (fields.put name (.names (names fields)))

/-- One effect after another. -/
def inOrder (effects : List Effect) : Effect := fun fields =>
  effects.foldlM (fun fields effect => effect fields) fields

end AttributeGrammar.Samples
