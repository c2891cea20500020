import AttributeGrammar.Pattern.Form

/-!
# Sizes of compiled expressions

An expression is compiled twice, to be searched with forwards and backwards. Both programs read
bytes, and neither may take more than `Form.sizeLimit` bytes.

* `CodeSet.byteRanges` — the characters of a set as sequences of ranges of bytes.
* `setSize` — the size of a set: forwards the states are shared between equal endings of the sequences,
  backwards between equal beginnings.
* `Trie.size` — the size of a choice of literals, whose common beginnings are shared.
* `Form.size` — the size of an expression.
* `Form.isTooLarge` — whether a program is too large.
-/

set_option autoImplicit false

namespace AttributeGrammar.Pattern

/-! ## Sets as sequences of bytes -/

/-- A range of bytes. -/
abbrev ByteRange := Nat × Nat

/-- The numbers from `lo` to `hi` by their digits to base 64, of which `digits` follow the first one:
as few sequences of ranges of digits as possible. -/
def digitRanges : (digits lo hi : Nat) → List (List ByteRange)
  | 0, lo, hi => [[(lo, hi)]]
  | digits + 1, lo, hi =>
    let block := 64 ^ (digits + 1)
    let first := lo / block
    let last := hi / block
    if first = last then (digitRanges digits (lo % block) (hi % block)).map ((first, first) :: ·)
    else
      let front := if lo % block = 0 then [] else digitRanges digits (lo % block) (block - 1)
      let back := if hi % block = block - 1 then [] else digitRanges digits 0 (hi % block)
      let start := if front = [] then first else first + 1
      let stop := if back = [] then last + 1 else last
      let middle := if start < stop then [(start, stop - 1) :: List.replicate (digits + 1) (0, 63)] else []
      front.map ((first, first) :: ·) ++ middle ++ back.map ((last, last) :: ·)

/-- The code points by the number of bytes that follow the first one: the bounds, this number and the
mark of the first byte. -/
def planes : List (Nat × Nat × Nat × Nat) :=
  [(0, 0x7F, 0, 0), (0x80, 0x7FF, 1, 0xC0), (0x800, 0xD7FF, 2, 0xE0), (0xE000, 0xFFFF, 2, 0xE0),
   (0x10000, 0x10FFFF, 3, 0xF0)]

/-- Marks the first byte of a sequence and those that follow it. -/
def markBytes (mark : Nat) : List ByteRange → List ByteRange
  | [] => []
  | (lo, hi) :: rest => (lo + mark, hi + mark) :: rest.map fun (lo, hi) => (lo + 0x80, hi + 0x80)

/-- The characters of a set as sequences of ranges of bytes, in their order. -/
def byteRanges (s : CodeSet) : List (List ByteRange) :=
  s.intervals.flatMap fun (lo, hi) => planes.flatMap fun (first, last, digits, mark) =>
    if max lo first ≤ min hi last then
      (digitRanges digits (max lo first) (min hi last)).map (markBytes mark)
    else []

example : byteRanges ⟨[(0x61, 0x7A), (0xE4, 0x100)]⟩ =
    [[(0x61, 0x7A)], [(0xC3, 0xC3), (0xA4, 0xBF)], [(0xC4, 0xC4), (0x80, 0x80)]] := by decide

/-! ## Sizes of sets -/

/-- The bytes of a state, of a transition on a range of bytes, and of a way on without one. -/
def stateSize : Nat := 32

def rangeSize : Nat := 8

def waySize : Nat := 4

/-- The direction in which a program reads. -/
inductive Direction where
  | forwards
  | backwards
deriving DecidableEq, Repr

/-- The rests of sequences behind each range that they begin with. -/
def behindFirst (sequences : List (List ByteRange)) : List (List (List ByteRange)) :=
  (sequences.splitBy fun a b => a.head? = b.head?).map fun group => group.map List.tail

/-- The rests of sequences from which a program reads on. -/
def endings : (fuel : Nat) → List (List ByteRange) → List (List (List ByteRange))
  | 0, _ => []
  | fuel + 1, sequences =>
    sequences :: ((behindFirst sequences).filter (· ≠ [[]])).flatMap (endings fuel)

/-- How many sequences have beginnings that no sequence before them has, each of these counted. -/
def countBeginnings : (before : List ByteRange) → List (List ByteRange) → Nat
  | _, [] => 0
  | before, sequence :: rest =>
    let shared := ((before.zip sequence).takeWhile fun (a, b) => a = b).length
    sequence.length - shared + countBeginnings sequence rest

/-- The size of a set. In ASCII it is one state with a transition for each interval, and its end. -/
def setSize (direction : Direction) (s : CodeSet) : Nat :=
  if s.intervals.all fun (_, hi) => hi < 0x80 then 2 * stateSize + rangeSize * s.intervals.length
  else
    let sequences := byteRanges s
    match direction with
    | .forwards =>
      let states := (endings 4 sequences).eraseDups.map fun rests =>
        stateSize + rangeSize * (behindFirst rests).length
      stateSize + states.foldl (· + ·) 0
    | .backwards =>
      2 * stateSize + waySize * sequences.length + stateSize * countBeginnings [] sequences

/-! ## Choices of literals -/

namespace Trie

/-- The texts between empty ones, and how many of these end a part. -/
def chunks : List (List UInt8) → List (List (List UInt8))
  | [] => [[]]
  | [] :: rest => [] :: chunks rest
  | text :: rest =>
    match chunks rest with
    | [] => [[text]]
    | chunk :: more => (text :: chunk) :: more

/-- The size of what reads some texts, the earlier ones by preference. In each chunk a byte is looked
for once, however many texts begin with it. -/
def size : (fuel : Nat) → List (List UInt8) → Nat
  | 0, _ => 0
  | fuel + 1, texts =>
    if texts.all List.isEmpty then 0
    else
      let parts := chunks (if texts.head? = some [] then [] :: texts.dropWhile List.isEmpty else texts)
      let read := parts.filter (· ≠ [])
      let states := read.map fun chunk =>
        let first := (chunk.filterMap List.head?).eraseDups
        let ranges := if first.length = 1 then 0 else rangeSize * first.length
        let children := first.map fun byte =>
          size fuel ((chunk.filter fun text => text.head? = some byte).map List.tail)
        stateSize + ranges + children.foldl (· + ·) 0
      stateSize + waySize * (read.length + (parts.length - 1)) + states.foldl (· + ·) 0

end Trie

/-! ## Sizes of expressions -/

namespace Form

/-- The bytes that a form is a literal of. -/
def text? : Form → Option (List UInt8)
  | .literal codes => some (bytes codes)
  | _ => none

/-- The size of a choice of literals: their common beginnings are shared, or their common endings
backwards. -/
def textsSize (direction : Direction) (texts : List (List UInt8)) : Nat :=
  let read := match direction with
    | .forwards => texts
    | .backwards => texts.map List.reverse
  stateSize + Trie.size (texts.flatten.length + 1) read

/-- The size of rounds of an expression of a given size. One that may match the empty string is put
around by more states if any number of rounds is allowed. -/
def roundsSize (least : Nat) (most : Option Nat) (isPositive : Bool) (body : Nat) : Nat :=
  match least, most with
  | 0, none => body + if isPositive then stateSize + 2 * waySize else 3 * stateSize + 4 * waySize
  | least, none => least * body + stateSize + 2 * waySize
  | 0, some 1 => body + 2 * stateSize + 2 * waySize
  | least, some most =>
    if least = most then least * body
    else
      let front := if least = 0 then stateSize else least * body
      front + stateSize + (most - least) * (stateSize + 2 * waySize + body)

mutual

/-- The size of a compiled expression. Only forwards the groups are recorded, with a state for each end. -/
def size (direction : Direction) : Form → Nat
  | .empty | .look _ => stateSize
  | .literal codes => stateSize * (bytes codes).length
  | .set s => setSize direction s
  | .rounds least most _ body => roundsSize least most body.width.isPositive (body.size direction)
  | .capture body =>
    match direction with
    | .forwards => body.size direction + 2 * stateSize
    | .backwards => body.size direction
  | .concat parts => sizes direction parts
  | .alts branches =>
    match branches.mapM text? with
    | some texts => textsSize direction texts
    | none => 2 * stateSize + waySize * branches.length + sizes direction branches

/-- The size of some expressions together. -/
def sizes (direction : Direction) : List Form → Nat
  | [] => 0
  | form :: forms => form.size direction + sizes direction forms

end

/-- The greatest size of a program. -/
def sizeLimit : Nat := 10 * 1024 * 1024

/-- The size of what a program has besides the expression: forwards its start, which is anchored, the
group of the whole match and its end; backwards the end, and a loop that looks for a start. -/
def frameSize : Direction → Nat
  | .forwards => 4 * stateSize
  | .backwards => 4 * stateSize + rangeSize + 2 * waySize

/-- Whether a program for an expression is too large. -/
def isTooLarge (form : Form) : Bool :=
  [Direction.forwards, .backwards].any fun direction =>
    sizeLimit < frameSize direction + form.size direction

end Form

end AttributeGrammar.Pattern
