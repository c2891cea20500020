import AttributeGrammar.Pattern.Basic
import AttributeGrammar.Pattern.Flags
import AttributeGrammar.Text.Unicode.Age
import AttributeGrammar.Text.Unicode.Folding
import AttributeGrammar.Text.Unicode.Script
import AttributeGrammar.Text.Unicode.Segmentation

/-!
# Character classes

* `closeClass?` — applies case folding and then negation to a class.
* `letterClass?` — the classes of digits, blanks and word characters.
* `asciiClass?` — the named classes of ASCII.
* `propertyClass?` — the classes of Unicode properties, by what stands between their braces.

Without Unicode support a pattern may only match ASCII, so a negated class is an error there.
-/

set_option autoImplicit false

namespace AttributeGrammar.Pattern

/-- Adds the other case of the ASCII letters of a set. -/
def foldAscii (s : CodeSet) : CodeSet :=
  let upper := s.inter (.interval 0x41 0x5A)
  let lower := s.inter (.interval 0x61 0x7A)
  .unions [s, ⟨upper.intervals.map fun (lo, hi) => (lo + 32, hi + 32)⟩,
    ⟨lower.intervals.map fun (lo, hi) => (lo - 32, hi - 32)⟩]

/-- Adds the case variants of the members of a set, if the flags ask for it. -/
def foldClass (flags : Flags) (s : CodeSet) : CodeSet :=
  if !flags.caseless then s else if flags.unicode then s.foldCase else foldAscii s

/-- Negates a class if asked to. -/
def negateClass? (flags : Flags) (negated : Bool) (s : CodeSet) : Option CodeSet :=
  if !negated then some s else if flags.unicode then some s.complement else none

/-- Applies case folding and then negation. -/
def closeClass? (flags : Flags) (negated : Bool) (s : CodeSet) : Option CodeSet :=
  negateClass? flags negated (foldClass flags s)

def digitSet (flags : Flags) : CodeSet :=
  if flags.unicode then Unicode.Category.decimalNumber else .interval 0x30 0x39

def blankSet (flags : Flags) : CodeSet :=
  if flags.unicode then Unicode.Property.whiteSpace else ⟨[(9, 13), (32, 32)]⟩

/-- The class of a letter: digits, blanks or word characters; a capital letter negates it. -/
def letterClass? (flags : Flags) (letter : Char) : Option CodeSet :=
  match letter with
  | 'd' => some (digitSet flags)
  | 's' => some (blankSet flags)
  | 'w' => some (if flags.unicode then wordSet else asciiWordSet)
  | 'D' => negateClass? flags true (digitSet flags)
  | 'S' => negateClass? flags true (blankSet flags)
  | 'W' => negateClass? flags true (if flags.unicode then wordSet else asciiWordSet)
  | _ => none

/-- The ASCII class of a name. -/
def asciiClass? (name : String) : Option CodeSet :=
  match name with
  | "alnum" => some ⟨[(0x30, 0x39), (0x41, 0x5A), (0x61, 0x7A)]⟩
  | "alpha" => some ⟨[(0x41, 0x5A), (0x61, 0x7A)]⟩
  | "ascii" => some ⟨[(0, 0x7F)]⟩
  | "blank" => some ⟨[(9, 9), (0x20, 0x20)]⟩
  | "cntrl" => some ⟨[(0, 0x1F), (0x7F, 0x7F)]⟩
  | "digit" => some ⟨[(0x30, 0x39)]⟩
  | "graph" => some ⟨[(0x21, 0x7E)]⟩
  | "lower" => some ⟨[(0x61, 0x7A)]⟩
  | "print" => some ⟨[(0x20, 0x7E)]⟩
  | "punct" => some ⟨[(0x21, 0x2F), (0x3A, 0x40), (0x5B, 0x60), (0x7B, 0x7E)]⟩
  | "space" => some ⟨[(9, 13), (0x20, 0x20)]⟩
  | "upper" => some ⟨[(0x41, 0x5A)]⟩
  | "word" => some asciiWordSet
  | "xdigit" => some ⟨[(0x30, 0x39), (0x41, 0x46), (0x61, 0x66)]⟩
  | _ => none

/-- The set of a general category, or of one of the sets that count as such. -/
def categoryClass? (name : String) : Option CodeSet :=
  match name with
  | "any" => some .full
  | "assigned" => some Unicode.Category.unassigned.complement
  | "ascii" => some (.interval 0 0x7F)
  | _ => Unicode.Category.find? name

/-- The set of a name that may be a property, a general category or a script. -/
def namedClass? (name : String) : Option CodeSet :=
  let property := if name ∈ ["cf", "sc", "lc"] then none else Unicode.Property.find? name
  property <|> categoryClass? name <|> Unicode.Script.find? name

/-- The set of a value of a property. -/
def valueClass? (property value : String) : Option CodeSet :=
  match property with
  | "gc" | "generalcategory" | "category" => categoryClass? value
  | "sc" | "script" => Unicode.Script.find? value
  | "scx" | "scriptextensions" => Unicode.Script.findExtensions? value
  | "age" => Unicode.Age.find? value
  | "gcb" | "graphemeclusterbreak" => Unicode.Segmentation.find? Unicode.Segmentation.clusters value
  | "wb" | "wordbreak" => Unicode.Segmentation.find? Unicode.Segmentation.words value
  | "sb" | "sentencebreak" => Unicode.Segmentation.find? Unicode.Segmentation.sentences value
  | _ => none

/-- Splits a text at the first place where `mark` stands. -/
def splitAt? (mark : List Char) : List Char → Option (List Char × List Char)
  | [] => none
  | c :: rest =>
    if mark.isPrefixOf (c :: rest) then some ([], (c :: rest).drop mark.length)
    else (splitAt? mark rest).map fun (front, back) => (c :: front, back)

/-- The class that the text between the braces of a property escape describes. -/
def propertyClass? (flags : Flags) (negated : Bool) (text : List Char) : Option CodeSet := do
  if !flags.unicode then none
  let loose := fun name => Unicode.looseName (String.ofList name)
  let pair := splitAt? ['!', '='] text <|> splitAt? [':'] text <|> splitAt? ['='] text
  let differs := (splitAt? ['!', '='] text).isSome
  let set ← match pair with
    | some (property, value) => valueClass? (loose property) (loose value)
    | none => namedClass? (loose text)
  closeClass? flags (negated != differs) set

end AttributeGrammar.Pattern
