import AttributeGrammar.Pattern.Basic

/-!
# Forms of regular expressions

Before an expression is compiled it is brought into a form in which neighbouring literals are one,
sequences and choices are not nested directly, and choices of single characters or of classes are
classes. The size of a compiled expression is that of its form.

* `Form` — an expression in this form, with its capturing groups.
* `Form.ofSet`, `Form.sequence`, `Form.choice`, `Form.repeated` — make forms of parts.
* `Form.width` — how many bytes can be matched.
-/

set_option autoImplicit false

namespace AttributeGrammar.Pattern

/-- The form of an expression. -/
inductive Form where
  | empty
  /-- The code points of some characters in a row. -/
  | literal (codes : List Nat)
  /-- One character of a set, which has not just one member. -/
  | set (set : CodeSet)
  | look (assertion : Assertion)
  | rounds (least : Nat) (most : Option Nat) (greedy : Bool) (body : Form)
  /-- A group whose match is recorded. -/
  | capture (body : Form)
  | concat (parts : List Form)
  | alts (branches : List Form)

/-- The numbers of bytes that an expression can match. Where nothing is known there is no number. -/
structure Width where
  least : Option Nat
  most : Option Nat
deriving DecidableEq, Repr

namespace Width

/-- The widths of two expressions in a row. -/
def add (a b : Width) : Width :=
  ⟨do return (← a.least) + (← b.least), do return (← a.most) + (← b.most)⟩

/-- The widths of either of two expressions. -/
def join (a b : Width) : Width :=
  ⟨do return min (← a.least) (← b.least), do return max (← a.most) (← b.most)⟩

/-- The widths of some rounds of an expression. -/
def rounds (least : Nat) (most : Option Nat) (body : Width) : Width :=
  ⟨body.least.map (least * ·), do return (← most) * (← body.most)⟩

/-- Whether nothing but the empty string is matched. -/
def isZero (width : Width) : Bool := width.most = some 0

/-- Whether at least one byte is matched. -/
def isPositive (width : Width) : Bool := width.least.any (0 < ·)

end Width

/-- The number of bytes of a character. -/
def codeSize (code : Nat) : Nat := (Char.ofNat code).utf8Size

namespace Form

/-- The bytes of a literal. -/
def bytes (codes : List Nat) : List UInt8 :=
  codes.flatMap fun code => String.utf8EncodeChar (Char.ofNat code)

/-- The expression that matches nothing. -/
def fail : Form := .set .empty

/-- The form of a set: a single character is a literal. -/
def ofSet (s : CodeSet) : Form :=
  match s.normalize.intervals with
  | [(lo, hi)] => if lo = hi then .literal [lo] else .set ⟨[(lo, hi)]⟩
  | intervals => .set ⟨intervals⟩

/-- The form of an expression that holds no others. -/
def ofAtom : Regex → Form
  | .set s => ofSet s
  | .assert a => .look a
  | _ => .empty

/-! ## Equality -/

mutual

/-- Whether two forms are equal. A group that is recorded equals no other one. -/
def same : Form → Form → Bool
  | .empty, .empty => true
  | .literal codes, .literal codes' => codes = codes'
  | .set s, .set s' => s = s'
  | .look a, .look a' => a = a'
  | .rounds least most greedy body, .rounds least' most' greedy' body' =>
    least = least' && most = most' && greedy = greedy' && same body body'
  | .concat parts, .concat parts' => sameAll parts parts'
  | .alts branches, .alts branches' => sameAll branches branches'
  | _, _ => false

def sameAll : List Form → List Form → Bool
  | [], [] => true
  | a :: as, b :: bs => same a b && sameAll as bs
  | _, _ => false

end

/-! ## Widths -/

mutual

/-- How many bytes an expression can match. -/
def width : Form → Width
  | .empty | .look _ => ⟨some 0, some 0⟩
  | .literal codes =>
    let size := (bytes codes).length
    ⟨some size, some size⟩
  | .set s => ⟨s.intervals.head?.map (codeSize ·.1), s.intervals.getLast?.map (codeSize ·.2)⟩
  | .rounds least most _ body => .rounds least most body.width
  | .capture body => body.width
  | .concat parts => widthInRow parts
  | .alts branches => widthOfEither branches

def widthInRow : List Form → Width
  | [] => ⟨some 0, some 0⟩
  | part :: parts => part.width.add (widthInRow parts)

def widthOfEither : List Form → Width
  | [] => ⟨none, none⟩
  | [branch] => branch.width
  | branch :: branches => branch.width.join (widthOfEither branches)

end

/-! ## Sequences -/

/-- The elements of a form in a sequence. -/
def parts : Form → List Form
  | .empty => []
  | .concat parts => parts
  | form => [form]

/-- Puts an element in front of others. Two literals become one. -/
def glue : Form → List Form → List Form
  | .literal codes, .literal more :: rest => .literal (codes ++ more) :: rest
  | form, rest => form :: rest

/-- The form of some expressions in a row. -/
def sequence (forms : List Form) : Form :=
  match (forms.flatMap parts).foldr glue [] with
  | [] => .empty
  | [form] => form
  | parts => .concat parts

/-! ## Choices -/

/-- The branches of a form in a choice. -/
def branches : Form → List Form
  | .alts branches => branches
  | form => [form]

/-- The character that a form stands for. -/
def single? : Form → Option CodeSet
  | .literal [code] => some (.single code)
  | _ => none

def set? : Form → Option CodeSet
  | .set s => some s
  | _ => none

/-- The set that some branches stand for when all are characters, or all are classes. -/
def merged? (branches : List Form) : Option Form :=
  (branches.mapM single? <|> branches.mapM set?).map fun sets => ofSet (.unions sets)

/-- How many elements two sequences have in common at their fronts. -/
def commonLength : List Form → List Form → Nat
  | a :: as, b :: bs => if same a b then commonLength as bs + 1 else 0
  | _, _ => 0

/-- The form of a choice whose branches have no common front. -/
def either (forms : List Form) : Form :=
  match forms.flatMap branches with
  | [] => fail
  | [form] => form
  | branches => (merged? branches).getD (.alts branches)

/-- A choice of sequences with a common front is a sequence that ends with a choice. -/
def lifted (branches : List Form) : Form :=
  let sequences := branches.mapM fun
    | .concat parts => some parts
    | _ => none
  match sequences with
  | some (first :: rest) =>
    let common := rest.foldl (fun count parts => min count (commonLength first parts)) first.length
    if common = 0 then .alts branches
    else sequence
      (first.take common ++ [either ((first :: rest).map fun parts => sequence (parts.drop common))])
  | _ => .alts branches

/-- The form of a choice. -/
def choice (forms : List Form) : Form :=
  match forms.flatMap branches with
  | [] => fail
  | [form] => form
  | branches => (merged? branches).getD (lifted branches)

/-! ## Rounds -/

/-- The numbers of rounds that count: of an expression that matches only the empty string one does. -/
def countedRounds (body : Form) (least : Nat) (most : Option Nat) : Nat × Option Nat :=
  if body.width.isZero then (min least 1, some (min (most.getD 1) 1)) else (least, most)

/-- The form of some rounds of an expression. -/
def repeated (least : Nat) (most : Option Nat) (greedy : Bool) (body : Form) : Form :=
  match countedRounds body least most with
  | (0, some 0) => .empty
  | (1, some 1) => body
  | (least, most) => .rounds least most greedy body

end Form

end AttributeGrammar.Pattern
