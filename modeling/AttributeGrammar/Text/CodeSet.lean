/-!
# Sets of code points

* `CodeSet` — a set of code points as a list of inclusive intervals, in increasing order and never
  touching each other once it went through `CodeSet.normalize`.
* `CodeSet.decode` — reads the compact form in which the tables of character properties are written:
  hexadecimal numbers, alternately the gap before an interval and the interval's length.
* Union, intersection, difference, symmetric difference and complement keep the normal form.
-/

set_option autoImplicit false

namespace AttributeGrammar

/-- A set of code points, given by inclusive intervals. -/
structure CodeSet where
  intervals : List (Nat × Nat)
deriving DecidableEq, Repr, Inhabited

namespace CodeSet

/-- The largest code point. -/
def lastCode : Nat := 0x10FFFF

def empty : CodeSet := ⟨[]⟩

/-- Every code point. -/
def full : CodeSet := ⟨[(0, lastCode)]⟩

def interval (lo hi : Nat) : CodeSet := ⟨[(lo, hi)]⟩

def single (code : Nat) : CodeSet := interval code code

def contains (s : CodeSet) (code : Nat) : Bool :=
  s.intervals.any fun (lo, hi) => lo ≤ code && code ≤ hi

def isEmpty (s : CodeSet) : Bool := s.intervals.isEmpty

/-- Puts an interval into a list of intervals in increasing order that do not touch each other. It is
joined with those that it overlaps or touches. -/
def insertInterval (lo hi : Nat) : List (Nat × Nat) → List (Nat × Nat)
  | [] => [(lo, hi)]
  | (lo', hi') :: rest =>
    if hi + 1 < lo' then (lo, hi) :: (lo', hi') :: rest
    else if hi' + 1 < lo then (lo', hi') :: insertInterval lo hi rest
    else insertInterval (min lo lo') (max hi hi') rest

/-- Sorts the intervals and joins those that overlap or touch. -/
def normalize (s : CodeSet) : CodeSet :=
  ⟨s.intervals.foldr (fun (lo, hi) rest => insertInterval lo hi rest) []⟩

def union (a b : CodeSet) : CodeSet :=
  normalize ⟨a.intervals ++ b.intervals⟩

def unions (sets : List CodeSet) : CodeSet :=
  normalize ⟨sets.flatMap intervals⟩

/-- The intervals from `start` to the last code point that a sorted list leaves out. -/
def gapsFrom (start : Nat) : List (Nat × Nat) → List (Nat × Nat)
  | [] => if start ≤ lastCode then [(start, lastCode)] else []
  | (lo, hi) :: rest =>
    if start < lo then (start, lo - 1) :: gapsFrom (hi + 1) rest else gapsFrom (hi + 1) rest

def complement (s : CodeSet) : CodeSet :=
  ⟨gapsFrom 0 s.normalize.intervals⟩

def inter (a b : CodeSet) : CodeSet :=
  normalize ⟨a.intervals.flatMap fun (lo, hi) =>
    b.intervals.filterMap fun (lo', hi') =>
      if max lo lo' ≤ min hi hi' then some (max lo lo', min hi hi') else none⟩

def diff (a b : CodeSet) : CodeSet := a.inter b.complement

def symmDiff (a b : CodeSet) : CodeSet := (a.diff b).union (b.diff a)

def hexValue (c : Char) : Nat :=
  if c.isDigit then c.toNat - '0'.toNat else c.toNat - 'A'.toNat + 10

/-- The numbers of a line of hexadecimal numbers that are separated by single blanks. -/
def decodeLine (line : String) : List Nat :=
  let step : Nat × List Nat → Char → Nat × List Nat := fun (number, done) c =>
    if c = ' ' then (0, number :: done) else (number * 16 + hexValue c, done)
  let (number, done) := line.toList.foldl step (0, [])
  (number :: done).reverse

/-- Lays gap and length pairs out from `start`. -/
def ofGaps (start : Nat) : List Nat → List (Nat × Nat)
  | gap :: length :: rest =>
    (start + gap, start + gap + length - 1) :: ofGaps (start + gap + length) rest
  | _ => []

/-- The set that the lines of a table describe. -/
def decode (table : List String) : CodeSet :=
  ⟨ofGaps 0 (table.flatMap decodeLine)⟩

example : decode ["41 1A", "6 1A"] = ⟨[(0x41, 0x5A), (0x61, 0x7A)]⟩ := by decide +kernel

end CodeSet

end AttributeGrammar
