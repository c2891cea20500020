import AttributeGrammar.Text.CodeSet

/-!
# Simple case folding

Two code points are variants of each other when simple case folding maps them to the same one.

* `Folding.pairs` — the classes of two code points, from runs of them that lie at equal distances.
* `Folding.groups` — the larger classes.
* `CodeSet.foldCase` — a set with every variant of its members.
-/

set_option autoImplicit false

namespace AttributeGrammar

namespace Unicode.Folding

/-- Runs of pairs: the first code point, the distance to its variant, the step to the next pair of
the run, and the number of pairs. -/
def runs : List String :=
  ["41 20 1 A 4C 20 2 8 4D 20 2 3 55 20 2 3 C0 20 2 10 C1 20 2 2 C7 20 2 8 D9 20 2 3 DF 1DBF 1 1",
   "FF 79 1 1 100 1 2 18 132 1 2 3 139 1 2 8 14A 1 2 17 179 1 2 3 180 C3 1 1 181 D2 1 1 182 1 2 2",
   "186 CE 1 1 187 1 1 1 189 CD 1 2 18B 1 1 1 18E 4F 1 1 18F CA 1 1 190 CB 1 1 191 1 1 1 193 CD 1",
   "1 194 CF 1 1 195 61 1 1 196 D3 1 1 197 D1 1 1 198 1 1 1 19A A3 1 1 19C D3 1 1 19D D5 1 1 19E",
   "82 1 1 19F D6 1 1 1A0 1 2 3 1A6 DA 1 1 1A7 1 1 1 1A9 DA 1 1 1AC 1 1 1 1AE DA 1 1 1AF 1 1 1",
   "1B1 D9 1 2 1B3 1 2 2 1B7 DB 1 1 1B8 1 1 1 1BC 1 1 1 1BF 38 1 1 1CD 1 2 8 1DE 1 2 9 1F4 1 1 1",
   "1F8 1 2 14 222 1 2 9 23A 2A2B 1 1 23B 1 1 1 23E 2A28 1 1 23F 2A3F 1 2 241 1 1 1 244 45 1 1",
   "245 47 1 1 246 1 2 5 250 2A1F 1 1 251 2A1C 1 1 252 2A1E 1 1 25C A54F 1 1 261 A54B 1 1 265",
   "A528 1 1 266 A544 1 1 26A A544 1 1 26B 29F7 1 1 26C A541 1 1 271 29FD 1 1 27D 29E7 1 1 282",
   "A543 1 1 287 A52A 1 1 29D A515 1 1 29E A512 1 1 370 1 2 2 376 1 1 1 37B 82 1 3 37F 74 1 1 386",
   "26 1 1 388 25 1 3 38C 40 1 1 38E 3F 1 2 391 20 2 2 394 20 2 2 397 20 1 1 39B 20 2 3 39E 20 1",
   "1 3A4 20 1 2 3A7 20 1 2 3AA 20 1 2 3CF 8 1 1 3D8 1 2 C 3F2 7 1 1 3F7 1 1 1 3FA 1 1 1 400 50 1",
   "10 410 20 1 2 413 20 2 7 416 20 2 4 420 20 1 1 423 20 1 7 42B 20 1 5 460 1 1 1 464 1 2 F 48A",
   "1 2 1B 4C0 F 1 1 4C1 1 2 7 4D0 1 2 30 531 30 1 26 10A0 1C60 1 26 10C7 1C60 1 1 10CD 1C60 1 1",
   "10D0 BC0 1 2B 10FD BC0 1 3 13A0 97D0 1 50 13F0 8 1 6 1D79 8A04 1 1 1D7D EE6 1 1 1D8E 8A38 1 1",
   "1E00 1 2 30 1E62 1 2 1A 1EA0 1 2 30 1F00 8 1 8 1F10 8 1 6 1F20 8 1 8 1F30 8 1 8 1F40 8 1 6",
   "1F51 8 2 4 1F60 8 1 8 1F70 4A 1 2 1F72 56 1 4 1F76 64 1 2 1F78 80 1 2 1F7A 70 1 2 1F7C 7E 1 2",
   "1F80 8 1 8 1F90 8 1 8 1FA0 8 1 8 1FB0 8 1 2 1FB3 9 1 1 1FC3 9 1 1 1FD0 8 1 2 1FE0 8 1 2 1FE5",
   "7 1 1 1FF3 9 1 1 2132 1C 1 1 2160 10 1 10 2183 1 1 1 24B6 1A 1 1A 2C00 30 1 30 2C60 1 1 1",
   "2C67 1 2 3 2C72 1 1 1 2C75 1 1 1 2C80 1 2 32 2CEB 1 2 2 2CF2 1 1 1 A640 1 2 5 A64C 1 2 11",
   "A680 1 2 E A722 1 2 7 A732 1 2 1F A779 1 2 2 A77E 1 2 5 A78B 1 1 1 A790 1 2 2 A794 30 1 1",
   "A796 1 2 A A7B3 3A0 1 1 A7B4 1 2 8 A7C7 1 2 2 A7D0 1 1 1 A7D6 1 2 2 A7F5 1 1 1 FF21 20 1 1A",
   "10400 28 1 28 104B0 28 1 24 10570 27 2 13 10571 27 2 5 1057D 27 2 7 1058D 27 2 3 10595 27 1 1",
   "10C80 40 1 33 118A0 20 1 20 16E40 20 1 20 1E900 22 1 22"]

/-- The classes of more than two code points, each with its size in front. -/
def classes : List String :=
  ["3 4B 6B 212A 3 53 73 17F 3 C5 E5 212B 3 1C4 1C5 1C6 3 1C7 1C8 1C9 3 1CA 1CB 1CC 3 1F1 1F2 1F3",
   "3 392 3B2 3D0 3 395 3B5 3F5 4 398 3B8 3D1 3F4 4 345 399 3B9 1FBE 3 39A 3BA 3F0 3 B5 39C 3BC 3",
   "3A0 3C0 3D6 3 3A1 3C1 3F1 3 3A3 3C2 3C3 3 3A6 3C6 3D5 3 3A9 3C9 2126 3 412 432 1C80 3 414 434",
   "1C81 3 41E 43E 1C82 3 421 441 1C83 4 422 442 1C84 1C85 3 42A 44A 1C86 3 462 463 1C87 3 1E60",
   "1E61 1E9B 3 1C88 A64A A64B"]

/-- The pairs of a list of runs. -/
def expandRuns : List Nat → List (List Nat)
  | first :: distance :: step :: count :: rest =>
    ((List.range count).map fun i => [first + i * step, first + i * step + distance]) ++ expandRuns rest
  | _ => []

/-- Splits a list into parts that each have their length in front. -/
def splitSized : Nat → List Nat → List (List Nat)
  | fuel + 1, size :: rest => rest.take size :: splitSized fuel (rest.drop size)
  | _, _ => []

def pairs : List (List Nat) := expandRuns (runs.flatMap CodeSet.decodeLine)

def groups : List (List Nat) :=
  let numbers := classes.flatMap CodeSet.decodeLine
  splitSized numbers.length numbers

/-- Every class of more than one code point. -/
def all : List (List Nat) := pairs ++ groups

end Unicode.Folding

/-- The set with every case variant of its members. -/
def CodeSet.foldCase (s : CodeSet) : CodeSet :=
  let added := Unicode.Folding.all.filter fun group => group.any s.contains
  CodeSet.normalize ⟨s.intervals ++ added.flatMap fun group => group.map fun code => (code, code)⟩

end AttributeGrammar
