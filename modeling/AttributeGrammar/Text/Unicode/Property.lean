import AttributeGrammar.Text.CodeSet

/-!
# Binary properties

The binary properties of Unicode, each under its loose names and with its table. Those that other
parts of the library ask for have a name of their own.
-/

set_option autoImplicit false

namespace AttributeGrammar.Unicode.Property

/-- Letters and what behaves like a letter. -/
def alphabetic : CodeSet :=
  .decode ["41 1A 6 1A 2F 1 A 1 4 1 5 17 1 1F 1 1CA 4 C E 5 7 1 1 1 56 1 2A 5 1 2 2 4 1 1 6 1 1 3 1 1 1",
     "14 1 53 1 8B 8 A6 1 26 2 1 6 29 27 E 1 1 1 2 1 2 1 1 8 1B 4 4 1D B 5 38 1 7 E 66 1 8 4 8 4 3",
     "A 3 2 1 10 30 D 65 18 21 9 2 4 1 5 18 2 13 13 19 7 B 5 18 1 6 11 2A A C 3 7 6 4C 1 10 1 3 4 F",
     "D 13 1 8 2 2 2 16 1 7 1 1 3 4 3 8 2 2 2 2 1 1 8 1 4 2 1 5 C 2 A 1 4 3 1 6 4 2 2 16 1 7 1 2 1",
     "2 1 2 4 5 4 2 2 2 4 1 7 4 1 1 11 6 B 3 1 9 1 3 1 16 1 7 1 2 1 5 3 9 1 3 1 2 3 1 F 4 15 4 4 3",
     "1 8 2 2 2 16 1 7 1 2 1 5 3 8 2 2 2 2 9 2 4 2 1 5 D 1 10 2 1 6 3 3 1 4 3 2 1 1 1 2 3 2 3 3 3 C",
     "4 5 3 3 1 3 3 1 6 1 28 D 1 3 1 17 1 10 3 8 1 3 1 3 8 2 1 3 2 1 2 4 1C 4 1 8 1 3 1 17 1 A 1 5",
     "3 8 1 3 1 3 8 2 6 2 1 4 D 3 C D 1 3 1 29 2 8 1 3 1 3 1 1 5 4 7 5 16 6 1 3 1 12 3 18 1 9 1 1 2",
     "7 8 6 1 1 1 8 12 2 D 3A 5 7 6 1 33 2 1 1 1 5 1 18 1 1 1 13 1 3 2 5 1 1 6 1 E 4 20 1 3F 8 1 24",
     "4 13 4 10 1 24 43 37 1 1 2 5 10 40 A 4 2 26 1 1 5 1 2 2B 1 14D 1 4 2 7 1 1 1 4 2 29 1 4 2 21",
     "1 4 2 7 1 1 1 4 2 F 1 39 1 4 2 43 25 10 10 56 2 6 3 26C 2 11 1 1A 5 4B 3 B 7 14 B 15 C 14 C D",
     "1 3 1 2 C 34 2 13 E 1 4 1 43 59 7 2B 5 46 A 1F 1 C 4 9 17 1E 2 5 B 2C 4 1A 36 1C 4 3F 2 14 32",
     "1 17 2 B 3 31 34 1 F 1 8 33 2A 2 4 A 2C 1 B E 37 16 3 A 24 2 9 7 2B 2 3 29 4 1 6 1 2 3 1 5 C0",
     "27 E B 116 2 6 2 26 2 6 2 8 1 1 1 1 1 1 1 1F 2 35 1 7 1 1 3 3 1 7 3 4 2 6 4 D 5 3 1 7 74 1 D",
     "1 10 D 65 1 4 1 2 A 1 1 3 5 6 1 1 1 1 1 1 4 1 B 2 4 5 5 4 1 11 29 32D 34 716 E5 6 4 3 2 C 26",
     "1 1 5 1 2 38 7 1 10 17 9 7 1 7 1 7 1 7 1 7 1 7 1 7 1 7 1 20 2F 1 1D5 3 19 9 7 5 2 5 4 56 6 3",
     "1 5A 1 4 5 2B 1 5E 11 20 30 10 200 19C0 40 568D 43 2E 2 10D 3 10 A 2 14 2F 5 8 3 71 27 9 2 67",
     "2 40 5 2 1 1 1 5 18 14 1 21 18 34 C 44 1 1 2C 6 3 1 1 3 A 21 5 23 D 1D 3 33 1 C F 1 10 10 A 5",
     "1 37 9 E 12 17 3 45 1 1 1 1 18 3 2 10 2 4 B 6 2 6 2 6 9 7 1 7 1 2B 1 E 6 7B 15 2BA4 C 17 4 31",
     "2104 16E 2 6A 26 7 C 5 5 C 1 D 1 5 1 1 1 2 1 2 1 6C 21 16B 12 40 2 36 28 C 74 5 1 87 24 1A 6",
     "1A B 59 3 6 2 6 2 6 2 3 23 C 1 1A 1 13 1 2 1 F 2 E 22 7B 45 35 10B 1D 3 31 2F 20 D 1E 5 2B 5",
     "1E 2 24 4 8 1 5 2A 9E 12 24 4 24 4 28 8 34 C B 1 F 1 7 1 2 1 B 1 F 1 7 1 2 43 137 9 16 A 8 18",
     "6 1 2A 1 9 45 6 2 1 1 2C 1 2 3 1 2 17 A 17 9 1F 41 13 1 2 A 16 A 1A 46 38 6 2 40 4 1 2 5 8 1",
     "3 1 1D 2A 1D 3 1D 23 8 1 1C 1B 36 A 16 A 13 D 12 6E 49 37 33 D 33 D 28 158 2A 1 2 3 2 4E 1D A",
     "1 8 16 2A 12 2E 15 1B 17 9 46 2B 5 A 39 9 1 D 19 17 33 11 4 8 23 3 1 9 40 1 4 9 2 A 1 1 1 23",
     "12 1 22 2 1 6 4 3E 7 1 1 1 4 1 F 1 A 7 39 17 4 1 8 2 2 2 16 1 7 1 2 1 5 3 8 2 2 2 2 3 1 6 1 5",
     "7 9C 42 1 3 1 4 14 3 1E 42 2 2 1 1 B8 36 2 7 19 6 22 3F 1 1 3 1 3B 36 2 1 47 1B 2 E 15 7 B9",
     "39 67 40 1F 8 2 1 2 8 1 2 1 1E 1 2 2 2 2 4 5D 8 2 2E 2 6 1 1 1 2 1B 33 2 A 11 48 5 1 12 49",
     "107 9 1 2D 1 7 1 1 31 1E 2 16 1 E 49 7 1 2 1 2C 3 1 1 2 1 3 1 1 2 2 18 6 1 2 1 25 1 2 1 4 1 1",
     "147 17 9 11 1 29 3 3 6F 1 4F 39A 66 6F 11 C4 A4C 61 F 430 11 6 FB9 247 21B9 239 7 1F 11 4F 11",
     "1E 12 30 10 4 1F 15 5 13 2B0 40 80 4B 4 39 7 11 40 2 1 1 C 2 E 17F8 8 4D6 2A 9 22E7 4 1 7 1 2",
     "1 123 F 1 1D 3 2 1 E 4 8 18C 904 6B 5 D 3 9 7 A 4 1 1761 55 1 47 1 2 2 1 2 2 2 4 1 C 1 1 1 7",
     "1 41 1 4 2 8 1 7 1 1C 1 4 1 5 1 1 3 7 1 154 2 19 1 19 1 1F 1 19 1 1F 1 19 1 1F 1 19 1 1F 1 19",
     "1 8 734 1F 6 6 D5 7 1 11 2 7 1 2 1 5 5 3E 21 1 70 2D A 7 10 1 141 1E 12 2C 1E4 1C 2F4 7 1 4 1",
     "2 1 F 1 C5 3B 44 3 1 3 1 4B4 4 1 1B 1 2 1 1 2 1 1 A 1 4 1 1 1 1 6 1 4 1 1 1 1 1 1 3 1 2 1 1 2",
     "1 1 1 1 1 1 1 1 1 1 2 1 1 2 4 1 7 1 4 1 4 1 1 1 A 1 11 5 3 1 5 1 11 274 1A 6 1A 6 1A E76 A6E0",
     "20 103A 6 DE 2 1682 E 1D31 C1F 21E 5E2 134B 5 1060"]

/-- White space. -/
def whiteSpace : CodeSet :=
  .decode ["9 5 12 1 64 1 1A 1 15DF 1 97F B 1D 2 5 1 2F 1 FA0 1"]

/-- Characters that may start an identifier. -/
def identifierStart : CodeSet :=
  .decode ["41 1A 6 1A 2F 1 A 1 4 1 5 17 1 1F 1 1CA 4 C E 5 7 1 1 1 81 5 1 2 3 3 1 1 6 1 1 3 1 1 1 14 1",
     "53 1 8B 8 A6 1 26 2 1 6 29 47 1B 4 4 2D 2B 23 2 1 63 1 1 F 2 7 2 A 3 2 1 10 1 1 1E 1D 59 B 1",
     "18 21 9 2 4 1 5 16 4 1 9 1 3 1 17 19 7 B 5 18 1 6 11 2A 3A 36 3 1 12 1 7 A F 10 4 8 2 2 2 16",
     "1 7 1 1 3 4 3 1 10 1 D 2 1 3 E 2 A 1 8 6 4 2 2 16 1 7 1 2 1 2 1 2 1F 4 1 1 13 3 10 9 1 3 1 16",
     "1 7 1 2 1 5 3 1 12 1 F 2 17 1 B 8 2 2 2 16 1 7 1 2 1 5 3 1 1E 2 1 3 F 1 11 1 1 6 3 3 1 4 3 2",
     "1 1 1 2 3 2 3 3 3 C 16 1 34 8 1 3 1 17 1 10 3 1 1A 3 2 1 2 2 1E 1 4 8 1 3 1 17 1 A 1 5 3 1 1F",
     "2 1 2 F 2 11 9 1 3 1 29 2 1 10 1 5 3 8 3 18 6 5 12 3 18 1 9 1 1 2 7 3A 30 1 1 D 7 3A 2 1 1 1",
     "5 1 18 1 1 1 A 1 1 A 1 2 5 1 1 15 4 20 1 3F 8 1 24 1B 5 73 2B 14 1 10 6 4 4 3 1 3 2 7 3 4 D C",
     "1 11 26 1 1 5 1 2 2B 1 14D 1 4 2 7 1 1 1 4 2 29 1 4 2 21 1 4 2 7 1 1 1 4 2 F 1 39 1 4 2 43 25",
     "10 10 56 2 6 3 26C 2 11 1 1A 5 4B 3 B 7 12 D 13 E 12 E D 1 3 F 34 23 1 4 1 43 59 7 29 1 1 5",
     "46 A 1F 31 1E 2 5 B 2C 4 1A 36 17 9 35 52 1 5D 2F 11 8 36 1E D 2 A 2C 1A 24 29 3 A 24 2 9 7",
     "2B 2 3 29 4 1 6 1 2 3 1 5 C0 40 116 2 6 2 26 2 6 2 8 1 1 1 1 1 1 1 1F 2 35 1 7 1 1 3 3 1 7 3",
     "4 2 6 4 D 5 3 1 7 74 1 D 1 10 D 65 1 4 1 2 A 1 1 2 6 6 1 1 1 1 1 1 10 2 4 5 5 4 1 11 29 A77",
     "E5 6 4 3 2 C 26 1 1 5 1 2 38 7 1 10 17 9 7 1 7 1 7 1 7 1 7 1 7 1 7 1 7 226 3 19 9 7 5 2 5 4",
     "56 6 3 1 5A 1 4 5 2B 1 5E 11 20 30 10 200 19C0 40 568D 43 2E 2 10D 3 10 A 2 14 2F 10 1F 2 50",
     "27 9 2 67 2 40 5 2 1 1 1 5 18 10 1 3 1 4 1 17 1D 34 E 32 3E 6 3 1 1 2 B 1C A 17 19 1D 7 2F 1C",
     "1 10 5 1 A A 5 1 29 17 3 1 8 14 17 3 1 3 32 1 1 3 2 2 5 2 1 1 1 18 3 2 B 7 3 C 6 2 6 2 6 9 7",
     "1 7 1 2B 1 E 6 73 1D 2BA4 C 17 4 31 2104 16E 2 6A 26 7 C 5 5 1 1 A 1 D 1 5 1 1 1 2 1 2 1 6C",
     "21 8B 6 DA 12 40 2 36 28 A 77 1 1 1 3 1 1 1 1 1 1 1 1 7E 24 1A 6 1A B 38 2 1F 3 6 2 6 2 6 2 3",
     "23 C 1 1A 1 13 1 2 1 F 2 E 22 7B 45 35 10B 1D 3 31 2F 20 D 1E 5 26 A 1E 2 24 4 8 1 5 2A 9E 12",
     "24 4 24 4 28 8 34 C B 1 F 1 7 1 2 1 B 1 F 1 7 1 2 43 137 9 16 A 8 18 6 1 2A 1 9 45 6 2 1 1 2C",
     "1 2 3 1 2 17 A 17 9 1F 41 13 1 2 A 16 A 1A 46 38 6 2 40 1 F 4 1 3 1 1D 2A 1D 3 1D 23 8 1 1C",
     "1B 36 A 16 A 13 D 12 6E 49 37 33 D 33 D 24 15C 2A 6 2 4E 1D A 1 8 16 2A 12 2E 15 1B 17 C 35",
     "39 2 2 1 D 2D 20 19 1A 24 1D 1 2 1 8 23 3 1 C 30 E 4 15 1 1 1 23 12 1 19 13 2 3F 7 1 1 1 4 1",
     "F 1 A 7 2F 26 8 2 2 2 16 1 7 1 2 1 5 3 1 12 1 C 5 9E 35 12 4 14 3 1E 30 14 2 1 1 B8 2F 29 4",
     "24 30 14 1 3B 2B D 1 47 1B 25 7 B9 2C 74 40 1F 8 2 1 2 8 1 2 1 18 F 1 1 1 5E 8 2 27 10 1 1 1",
     "1C 1 A 28 7 1 15 1 B 2E 13 1 12 49 107 9 1 25 11 1 31 1E 70 7 1 2 1 26 15 1 19 6 1 2 1 20 E 1",
     "147 13 F 1 1 D 1 22 7C 1 4F 39A 66 6F 11 C4 A4C 61 F 430 11 6 FB9 247 21B9 239 7 1F 11 4F 11",
     "1E 12 30 10 4 1F 15 5 13 2B0 40 80 4B 5 1 42 D 40 2 1 1 1C 17F8 8 4D6 2A 9 22E7 4 1 7 1 2 1",
     "123 F 1 1D 3 2 1 E 4 8 18C 904 6B 5 D 3 9 7 A 1766 55 1 47 1 2 2 1 2 2 2 4 1 C 1 1 1 7 1 41 1",
     "4 2 8 1 7 1 1C 1 4 1 5 1 1 3 7 1 154 2 19 1 19 1 1F 1 19 1 1F 1 19 1 1F 1 19 1 1F 1 19 1 8",
     "734 1F 6 6 105 3E 92 2D A 7 10 1 141 1E 12 2C 1E4 1C 2F4 7 1 4 1 2 1 F 1 C5 3B 44 7 1 4B4 4 1",
     "1B 1 2 1 1 2 1 1 A 1 4 1 1 1 1 6 1 4 1 1 1 1 1 1 3 1 2 1 1 2 1 1 1 1 1 1 1 1 1 1 2 1 1 2 4 1",
     "7 1 4 1 4 1 1 1 A 1 11 5 3 1 5 1 11 1144 A6E0 20 103A 6 DE 2 1682 E 1D31 C1F 21E 5E2 134B 5",
     "1060"]

/-- Characters that may continue an identifier. -/
def identifierContinue : CodeSet :=
  .decode ["30 A 7 1A 4 1 1 1A 2F 1 A 1 1 1 2 1 5 17 1 1F 1 1CA 4 C E 5 7 1 1 1 11 75 1 2 3 3 1 1 6 5 1 1",
     "1 14 1 53 1 8B 1 5 2 A6 1 26 2 1 6 29 8 2D 1 1 1 2 1 2 1 1 8 1B 4 4 1D B 5 4A 4 66 1 8 2 A 1",
     "13 2 1 10 3B 2 65 E 36 4 1 2 1 2 2E 12 1C 4 B 5 18 1 6 9 4A 1 81 2 A 1 13 1 8 2 2 2 16 1 7 1",
     "1 3 4 2 9 2 2 2 4 8 1 4 2 1 5 2 C A 1 1 1 2 3 1 6 4 2 2 16 1 7 1 2 1 2 1 2 2 1 1 5 4 2 2 3 3",
     "1 7 4 1 1 7 10 B 3 1 9 1 3 1 16 1 7 1 2 1 5 2 A 1 3 1 3 2 1 F 4 2 A 9 7 1 3 1 8 2 2 2 16 1 7",
     "1 2 1 5 2 9 2 2 2 3 7 3 4 2 1 5 2 A 1 1 10 2 1 6 3 3 1 4 3 2 1 1 1 2 3 2 3 3 3 C 4 5 3 3 1 4",
     "2 1 6 1 E A 10 D 1 3 1 17 1 10 2 9 1 3 1 4 7 2 1 3 2 1 2 4 2 A 10 4 1 8 1 3 1 17 1 A 1 5 2 9",
     "1 3 1 4 7 2 6 2 1 4 2 A 1 3 C D 1 3 1 33 1 3 1 5 5 4 7 5 2 A A 6 1 3 1 12 3 18 1 9 1 1 2 7 3",
     "1 4 6 1 1 1 8 6 A 2 2 D 3A 5 F 1 A 27 2 1 1 1 5 1 18 1 1 1 17 2 5 1 1 1 7 1 A 2 4 20 1 17 2 6",
     "A B 1 1 1 1 1 4 A 1 24 4 14 1 12 1 24 9 1 39 4A 6 4E 2 26 1 1 5 1 2 2B 1 14D 1 4 2 7 1 1 1 4",
     "2 29 1 4 2 21 1 4 2 7 1 1 1 4 2 F 1 39 1 4 2 43 2 3 9 9 E 10 10 56 2 6 3 26C 2 11 1 1A 5 4B 3",
     "B 7 16 9 16 B 14 C D 1 3 1 2 C 54 3 1 4 2 2 A 21 3 1 B 6 59 7 2B 5 46 A 1F 1 C 4 C A 28 2 5 B",
     "2C 4 1A 6 B 25 1C 4 3F 1 1D 2 B 6 A D 1 8 E 1 10 31 4D 3 A 11 9 C 74 C 38 8 A 3 31 2 9 7 2B 2",
     "3 10 3 1 27 5 216 2 6 2 26 2 6 2 8 1 1 1 1 1 1 1 1F 2 35 1 7 1 1 3 3 1 7 3 4 2 6 4 D 5 3 1 7",
     "42 2 13 1 1C 1 D 1 10 D 33 D 4 1 3 C 11 1 4 1 2 A 1 1 2 6 6 1 1 1 1 1 1 10 2 4 5 5 4 1 11 29",
     "A77 E5 6 9 C 26 1 1 5 1 2 38 7 1 F 18 9 7 1 7 1 7 1 7 1 7 1 7 1 7 1 7 1 20 205 3 19 F 1 5 2 5",
     "4 56 2 2 2 3 1 5A 1 4 5 2B 1 5E 11 20 30 10 200 19C0 40 568D 43 2E 2 10D 3 1C 14 30 4 A 1 73",
     "25 9 2 67 2 40 5 2 1 1 1 5 18 36 4 1 13 34 C 46 A A 6 18 3 1 1 31 2 24 C 1D 3 41 E B 6 1F 1",
     "37 9 E 2 A 6 17 3 49 18 3 2 10 2 5 A 6 2 6 2 6 9 7 1 7 1 2B 1 E 6 7B 1 2 2 A 6 2BA4 C 17 4 31",
     "2104 16E 2 6A 26 7 C 5 5 C 1 D 1 5 1 1 1 2 1 2 1 6C 21 8B 6 DA 12 40 2 36 28 A 6 10 10 10 3 2",
     "18 3 21 1 1 1 3 1 1 1 1 1 1 1 1 7E 13 A 7 1A 4 1 1 1A B 59 3 6 2 6 2 6 2 3 23 C 1 1A 1 13 1 2",
     "1 F 2 E 22 7B 45 35 88 1 82 1D 3 31 F 1 1F 20 D 1E 5 2B 5 1E 2 24 4 8 1 5 2A 9E 2 A 6 24 4 24",
     "4 28 8 34 C B 1 F 1 7 1 2 1 B 1 F 1 7 1 2 43 137 9 16 A 8 18 6 1 2A 1 9 45 6 2 1 1 2C 1 2 3 1",
     "2 17 A 17 9 1F 41 13 1 2 A 16 A 1A 46 38 6 2 40 4 1 2 5 8 1 3 1 1D 2 3 4 1 20 1D 3 1D 23 8 1",
     "1E 19 36 A 16 A 13 D 12 6E 49 37 33 D 33 D 28 8 A 146 2A 1 2 3 2 4B 20 A 1 8 21 1F 16 2A 15",
     "1B 17 9 47 1F 10 9 3C 7 1 D 19 7 A 6 35 1 A 4 4 8 24 2 1 9 45 4 4 1 D 1 1 23 12 1 25 6 4 3E 7",
     "1 1 1 4 1 F 1 A 7 3B 5 A 6 4 1 8 2 2 2 16 1 7 1 2 1 5 1 A 2 2 2 3 2 1 6 1 5 7 2 7 3 5 8B 4B 5",
     "A 4 4 1E 46 1 1 8 A A6 36 2 9 17 6 22 41 3 1 B A 26 39 7 A 36 1B 2 F 4 A 6 7 B9 3B 65 4A 15 8",
     "2 1 2 8 1 2 1 1E 1 2 2 9 C A 46 8 2 2E 2 8 1 2 1B 3F 8 1 8 4A 3 1 12 49 107 9 1 2D 1 9 F A 18",
     "1E 2 16 1 E 49 7 1 2 1 2C 3 1 1 2 1 9 8 A 6 6 1 2 1 25 1 2 1 6 7 A 136 17 9 11 1 29 3 5 D A",
     "56 1 4F 39A 66 6F 11 C4 A4C 61 F 430 10 16 FAA 247 21B9 239 7 1F 1 A 6 4F 1 A 6 1E 2 5 B 37 9",
     "4 C A 9 15 5 13 2B0 40 80 4B 4 39 7 11 40 2 1 2 B 2 E 17F8 8 4D6 2A 9 22E7 4 1 7 1 2 1 123 F",
     "1 1D 3 2 1 E 4 8 18C 904 6B 5 D 3 9 7 A 3 2 1261 2E 2 17 21E 5 3 6 8 8 2 7 1E 4 94 3 1BB 55 1",
     "47 1 2 2 1 2 2 2 4 1 C 1 1 1 7 1 41 1 4 2 8 1 7 1 1C 1 4 1 5 1 1 3 7 1 154 2 19 1 19 1 1F 1",
     "19 1 1F 1 19 1 1F 1 19 1 1F 1 19 1 8 2 32 200 37 4 32 8 1 E 1 16 5 1 F 450 1F 6 6 D5 7 1 11 2",
     "7 1 2 1 5 5 3E 21 1 70 2D 3 E 2 A 4 1 141 1F 11 3A 1D6 2A 2E6 7 1 4 1 2 1 F 1 C5 B 7 29 4C 4",
     "A 4A6 4 1 1B 1 2 1 1 2 1 1 A 1 4 1 1 1 1 6 1 4 1 1 1 1 1 1 3 1 2 1 1 2 1 1 1 1 1 1 1 1 1 1 2",
     "1 1 2 4 1 7 1 4 1 4 1 1 1 A 1 11 5 3 1 5 1 11 D34 A 406 A6E0 20 103A 6 DE 2 1682 E 1D31 C1F",
     "21E 5E2 134B 5 1060 ADD50 F0"]

/-- Marks that extend the grapheme before them. -/
def graphemeExtend : CodeSet :=
  .decode ["300 70 113 7 107 2D 1 1 1 2 1 2 1 1 48 B 30 15 10 1 65 7 2 6 2 2 1 4 23 1 1E 1B 5B B 3A 9 9 1",
     "18 4 1 9 1 3 1 5 2B 3 3C 8 2A 18 1 20 37 1 1 1 4 8 4 1 3 7 A 2 1D 1 3A 1 1 1 2 4 8 1 9 1 A 2",
     "1A 1 2 2 39 1 4 2 4 2 2 3 3 1 1E 2 3 1 B 2 39 1 4 5 1 2 4 1 14 2 16 6 1 1 3A 1 1 2 1 4 8 1 7",
     "3 A 2 1E 1 3B 1 1 1 C 1 9 1 28 1 3 1 37 1 1 3 5 3 1 4 7 2 B 2 1D 1 3A 1 2 1 2 1 3 1 5 2 7 2 B",
     "2 1C 2 39 2 1 1 2 4 8 1 9 1 A 2 1D 1 48 1 4 1 2 3 1 1 8 1 51 1 2 7 C 8 62 1 2 9 B 7 49 2 1B 1",
     "1 1 1 1 37 E 1 5 1 2 5 B 1 24 9 1 66 4 1 6 1 2 2 2 19 2 4 3 10 4 D 1 2 2 6 1 F 1 2BF 3 3B2 3",
     "1D 2 1E 2 1E 2 40 2 1 7 8 1 2 B 9 1 2D 3 1 1 75 2 22 1 76 3 4 2 9 1 6 3 DB 2 2 1 3A 1 1 7 1 1",
     "1 1 2 8 6 A 2 1 30 1F 31 4 30 7 1 1 5 1 28 9 C 2 20 4 2 2 1 3 38 1 1 2 3 1 1 3 3A 8 2 2 98 3",
     "1 D 1 7 4 1 6 1 3 2 C6 40 20C 1 C3 21 BFE 3 8D 1 60 20 22A 6 69 2 75D4 4 1 A 20 2 50 2 110 1",
     "3 1 4 1 19 2 5 1 97 2 1A 12 D 1 26 8 19 B 2E 3 30 1 2 4 2 2 27 1 43 6 2 2 2 2 C 1 8 1 2F 1 33",
     "1 1 3 2 2 5 2 1 1 2A 2 8 1 EE 1 2 1 4 1 4F30 1 2E1 10 10 10 16E 2 25D 1 E2 1 95 5 686 3 1 2 5",
     "4 28 3 4 1 A5 2 23D 4 183 2 50 3 46 B 31 4 7B 1 36 F 29 1 2 2 A 3 31 4 2 2 7 1 3D 3 24 5 1 8",
     "3E 1 C 2 34 9 A 4 2 1 5F 3 2 1 1 2 6 1 2 1 9D 1 3 8 15 2 39 2 1 1 1 1 16 1 E 7 3 5 C3 8 2 3 1",
     "1 17 1 51 1 2 6 1 1 2 1 1 2 1 2 EB 1 2 4 6 2 1 2 1B 2 55 8 2 1 1 2 6A 1 1 1 2 6 1 1 65 3 2 4",
     "1 5 103 9 1 2 F5 1 A 2 1 1 4 1 90 4 2 2 4 1 20 A 28 6 2 4 8 1 9 6 2 3 2E D 1 2 196 7 1 6 1 1",
     "52 16 2 7 1 2 1 2 7A 6 3 1 1 2 1 7 1 1 48 2 3 1 1 1 15B 2 B 2 34 5 5 1 1 1 14FD 1 6 F 369A 5",
     "3B 7 418 1 3F 4 51 1 4CB8 2 1261 2E 2 17 21E 1 1 3 4 5 8 8 2 7 1E 4 94 3 7BB 37 4 32 8 1 E 1",
     "16 5 1 F 550 7 1 11 2 7 1 2 1 5 64 1 A0 7 177 1 3D 4 1FC 4 3E0 7 6D 7 C16D5 60 80 F0"]

/-- The two characters that control joining. -/
def joinControl : CodeSet :=
  .decode ["200C 2"]

/-- The properties by loose names. A set is decoded only when it is asked for. -/
def tables : List (List String × (Unit → CodeSet)) :=
  [(["alpha", "alphabetic"], fun _ => alphabetic),
   (["wspace", "whitespace", "space"], fun _ => whiteSpace),
   (["xids", "xidstart"], fun _ => identifierStart),
   (["xidc", "xidcontinue"], fun _ => identifierContinue),
   (["grext", "graphemeextend"], fun _ => graphemeExtend),
   (["joinc", "joincontrol"], fun _ => joinControl),
   (["lower", "lowercase"],
    fun _ => .decode [
     "61 1A 2F 1 A 1 4 1 24 18 1 8 1 1 1 1 1 1 1 1 1 1 1 1 1 1 1 1 1 1 1 1 1 1 1 1 1 1 1 1 1 1 1 1",
     "1 1 1 1 1 1 1 1 1 1 1 1 1 1 1 1 1 1 1 1 1 1 1 2 1 1 1 1 1 1 1 1 1 1 1 1 1 1 1 2 1 1 1 1 1 1 1",
     "1 1 1 1 1 1 1 1 1 1 1 1 1 1 1 1 1 1 1 1 1 1 1 1 1 1 1 1 1 1 1 1 1 1 1 1 1 1 1 2 1 1 1 1 3 2 1",
     "1 1 2 1 3 2 4 1 2 1 3 3 2 1 2 1 1 1 1 1 2 1 1 2 1 1 2 1 3 1 1 1 2 2 2 3 6 1 2 1 2 1 1 1 1 1 1",
     "1 1 1 1 1 1 1 1 1 1 2 1 1 1 1 1 1 1 1 1 1 1 1 1 1 1 1 1 2 2 1 1 1 3 1 1 1 1 1 1 1 1 1 1 1 1 1",
     "1 1 1 1 1 1 1 1 1 1 1 1 1 1 1 1 1 1 1 1 1 1 1 1 1 1 1 1 1 1 1 1 1 1 1 1 1 1 1 1 1 1 1 1 1 7 2",
     "1 2 2 1 1 4 1 1 1 1 1 1 1 1 45 1 24 7 2 1E 5 60 1 2B 1 1 1 3 1 2 4 12 1 1B 23 1 2 3 3 1 1 1 1",
     "1 1 1 1 1 1 1 1 1 1 1 1 1 1 1 1 1 1 1 5 1 1 2 1 2 2 33 30 1 1 1 1 1 1 1 1 1 1 1 1 1 1 1 1 1 1",
     "1 1 1 1 1 1 1 1 1 1 1 1 1 1 1 1 9 1 1 1 1 1 1 1 1 1 1 1 1 1 1 1 1 1 1 1 1 1 1 1 1 1 1 1 1 1 1",
     "1 1 1 1 1 1 1 1 1 1 1 1 1 1 1 1 1 1 1 1 1 1 1 2 1 1 1 1 1 1 1 1 1 1 1 1 2 1 1 1 1 1 1 1 1 1 1",
     "1 1 1 1 1 1 1 1 1 1 1 1 1 1 1 1 1 1 1 1 1 1 1 1 1 1 1 1 1 1 1 1 1 1 1 1 1 1 1 1 1 1 1 1 1 1 1",
     "1 1 1 1 1 1 1 1 1 1 1 1 1 1 1 1 1 1 1 1 1 1 1 1 1 1 1 1 1 1 1 1 1 1 1 1 1 1 1 30 29 B47 2B 1",
     "4 2F8 6 882 9 77 C0 41 1 1 1 1 1 1 1 1 1 1 1 1 1 1 1 1 1 1 1 1 1 1 1 1 1 1 1 1 1 1 1 1 1 1 1",
     "1 1 1 1 1 1 1 1 1 1 1 1 1 1 1 1 1 1 1 1 1 1 1 1 1 1 1 1 1 1 1 1 1 1 1 1 1 1 1 1 1 1 1 1 1 1 1",
     "1 1 1 1 1 1 1 1 1 1 1 1 1 1 1 1 1 1 1 1 1 1 1 1 1 1 1 1 1 1 1 1 1 1 1 1 1 1 1 1 1 1 1 1 1 1 1",
     "1 1 1 1 1 1 1 1 1 1 1 1 1 1 1 1 1 1 1 9 1 1 1 1 1 1 1 1 1 1 1 1 1 1 1 1 1 1 1 1 1 1 1 1 1 1 1",
     "1 1 1 1 1 1 1 1 1 1 1 1 1 1 1 1 1 1 1 1 1 1 1 1 1 1 1 1 1 1 1 1 1 1 1 1 1 1 1 1 1 1 1 1 1 1 1",
     "1 1 1 1 1 1 1 1 1 1 1 1 1 1 1 1 1 1 1 1 1 1 1 9 8 6 A 8 8 8 8 6 A 8 8 8 8 E 2 8 8 8 8 8 8 5 1",
     "2 6 1 3 3 1 2 8 4 2 2 8 8 A 3 1 2 79 1 D 1 10 D 6D 1 3 2 3 1 1B 1 4 1 4 1 2 2 8 4 4 1 21 10 4",
     "1 34B 1A 746 30 1 1 3 2 1 1 1 1 1 1 4 1 1 2 1 8 3 1 1 1 1 1 1 1 1 1 1 1 1 1 1 1 1 1 1 1 1 1 1",
     "1 1 1 1 1 1 1 1 1 1 1 1 1 1 1 1 1 1 1 1 1 1 1 1 1 1 1 1 1 1 1 1 1 1 1 1 1 1 1 1 1 1 1 1 1 1 1",
     "1 1 1 1 1 1 1 1 1 1 1 1 1 1 1 1 1 1 1 1 1 1 1 1 1 1 1 1 1 2 7 1 1 1 4 1 C 26 1 1 5 1 7913 1 1",
     "1 1 1 1 1 1 1 1 1 1 1 1 1 1 1 1 1 1 1 1 1 1 1 1 1 1 1 1 1 1 1 1 1 1 1 1 1 1 1 1 1 1 1 13 1 1",
     "1 1 1 1 1 1 1 1 1 1 1 1 1 1 1 1 1 1 1 1 1 1 1 1 3 85 1 1 1 1 1 1 1 1 1 1 1 1 3 1 1 1 1 1 1 1",
     "1 1 1 1 1 1 1 1 1 1 1 1 1 1 1 1 1 1 1 1 1 1 1 1 1 1 1 1 1 1 1 1 1 1 1 1 1 1 1 1 1 1 1 1 1 1 1",
     "1 1 1 1 1 1 1 A 1 1 1 1 2 1 1 1 1 1 1 1 1 1 4 1 1 1 2 1 1 3 1 1 1 1 1 1 1 1 1 1 1 1 1 1 1 1 1",
     "1 1 1 5 1 5 1 1 1 1 1 1 1 1 1 1 1 1 1 1 1 4 1 1 1 6 1 1 1 1 1 1 1 1 1 18 3 1 1 1 3 335 2B 1 E",
     "6 50 4F40 7 C 5 429 1A 4CD 28 88 24 9B B 1 F 1 7 1 2 1C3 1 2 3 1 2A 1 9 505 33 BCD 20 5580 20",
     "659A 1A 1A 7 1 12 1A 1A 1A 4 1 1 1 7 1 B 1A 1A 1A 1A 1A 1A 1A 1A 1A 1A 1A 1A 1A 1A 1A 1A 1A",
     "1C 1C 19 1 6 1A 19 1 6 1A 19 1 6 1A 19 1 6 1A 19 1 6 1 1 734 A 1 14 6 6 105 3E 8B4 22"]),
   (["upper", "uppercase"],
    fun _ => .decode [
     "41 1A 65 17 1 7 21 1 1 1 1 1 1 1 1 1 1 1 1 1 1 1 1 1 1 1 1 1 1 1 1 1 1 1 1 1 1 1 1 1 1 1 1 1",
     "1 1 1 1 1 1 1 1 1 1 1 1 1 1 1 1 1 1 2 1 1 1 1 1 1 1 1 1 1 1 1 1 1 1 2 1 1 1 1 1 1 1 1 1 1 1 1",
     "1 1 1 1 1 1 1 1 1 1 1 1 1 1 1 1 1 1 1 1 1 1 1 1 1 1 1 1 1 1 1 1 1 1 2 1 1 1 1 3 2 1 1 1 2 1 3",
     "2 4 1 2 1 3 3 2 1 2 1 1 1 1 1 2 1 1 2 1 1 2 1 3 1 1 1 2 3 1 7 1 2 1 2 1 2 1 1 1 1 1 1 1 1 1 1",
     "1 1 1 1 1 2 1 1 1 1 1 1 1 1 1 1 1 1 1 1 1 1 1 2 1 2 1 1 3 1 1 1 1 1 1 1 1 1 1 1 1 1 1 1 1 1 1",
     "1 1 1 1 1 1 1 1 1 1 1 1 1 1 1 1 1 1 1 1 1 1 1 1 1 1 1 1 1 1 1 1 1 1 1 1 1 1 1 1 7 2 1 2 2 1 1",
     "4 1 1 1 1 1 1 1 1 121 1 1 1 3 1 8 1 6 1 1 3 1 1 1 2 1 11 1 9 23 1 2 3 3 1 1 1 1 1 1 1 1 1 1 1",
     "1 1 1 1 1 1 1 1 1 1 1 1 5 1 2 1 1 2 2 33 30 1 1 1 1 1 1 1 1 1 1 1 1 1 1 1 1 1 1 1 1 1 1 1 1 1",
     "1 1 1 1 1 1 1 1 9 1 1 1 1 1 1 1 1 1 1 1 1 1 1 1 1 1 1 1 1 1 1 1 1 1 1 1 1 1 1 1 1 1 1 1 1 1 1",
     "1 1 1 1 1 1 1 1 1 1 1 1 1 1 1 1 2 1 1 1 1 1 1 1 1 1 1 1 1 2 1 1 1 1 1 1 1 1 1 1 1 1 1 1 1 1 1",
     "1 1 1 1 1 1 1 1 1 1 1 1 1 1 1 1 1 1 1 1 1 1 1 1 1 1 1 1 1 1 1 1 1 1 1 1 1 1 1 1 1 1 1 1 1 1 1",
     "1 1 1 1 1 1 1 1 1 1 1 1 1 1 1 1 1 1 1 1 1 1 1 1 1 1 1 1 1 1 1 2 26 B49 26 1 1 5 1 2D2 56 89A",
     "2B 2 3 140 1 1 1 1 1 1 1 1 1 1 1 1 1 1 1 1 1 1 1 1 1 1 1 1 1 1 1 1 1 1 1 1 1 1 1 1 1 1 1 1 1",
     "1 1 1 1 1 1 1 1 1 1 1 1 1 1 1 1 1 1 1 1 1 1 1 1 1 1 1 1 1 1 1 1 1 1 1 1 1 1 1 1 1 1 1 1 1 1 1",
     "1 1 1 1 1 1 1 1 1 1 1 1 1 1 1 1 1 1 1 1 1 1 1 1 1 1 1 1 1 1 1 1 1 1 1 1 1 1 1 1 1 1 1 1 1 1 1",
     "1 1 1 1 1 1 1 1 1 1 1 1 1 1 9 1 1 1 1 1 1 1 1 1 1 1 1 1 1 1 1 1 1 1 1 1 1 1 1 1 1 1 1 1 1 1 1",
     "1 1 1 1 1 1 1 1 1 1 1 1 1 1 1 1 1 1 1 1 1 1 1 1 1 1 1 1 1 1 1 1 1 1 1 1 1 1 1 1 1 1 1 1 1 1 1",
     "1 1 1 1 1 1 1 1 1 1 1 1 1 1 1 1 1 1 9 8 8 6 A 8 8 8 8 6 B 1 1 1 1 1 1 1 8 8 48 4 C 4 C 4 C 5",
     "B 4 106 1 4 1 3 3 2 3 2 1 3 5 6 1 1 1 1 1 1 4 2 4 A 2 5 1 1A 10 13 1 332 1A 730 30 30 1 1 3 2",
     "1 1 1 1 1 1 4 1 1 2 1 8 3 1 1 1 1 1 1 1 1 1 1 1 1 1 1 1 1 1 1 1 1 1 1 1 1 1 1 1 1 1 1 1 1 1 1",
     "1 1 1 1 1 1 1 1 1 1 1 1 1 1 1 1 1 1 1 1 1 1 1 1 1 1 1 1 1 1 1 1 1 1 1 1 1 1 1 1 1 1 1 1 1 1 1",
     "1 1 1 1 1 1 1 1 1 1 1 1 1 1 1 1 1 8 1 1 1 4 1 794D 1 1 1 1 1 1 1 1 1 1 1 1 1 1 1 1 1 1 1 1 1",
     "1 1 1 1 1 1 1 1 1 1 1 1 1 1 1 1 1 1 1 1 1 1 1 1 13 1 1 1 1 1 1 1 1 1 1 1 1 1 1 1 1 1 1 1 1 1",
     "1 1 1 1 1 1 87 1 1 1 1 1 1 1 1 1 1 1 1 1 3 1 1 1 1 1 1 1 1 1 1 1 1 1 1 1 1 1 1 1 1 1 1 1 1 1",
     "1 1 1 1 1 1 1 1 1 1 1 1 1 1 1 1 1 1 1 1 1 1 1 1 1 1 1 1 1 1 1 1 1 1 1 1 A 1 1 1 1 2 1 1 1 1 1",
     "1 1 1 4 1 1 1 2 1 1 1 3 1 1 1 1 1 1 1 1 1 1 1 1 1 1 1 1 1 1 1 1 5 1 5 1 1 1 1 1 1 1 1 1 1 1 1",
     "1 1 1 4 1 1 6 1 5 1 1 1 1C 1 572B 1A 4C5 28 88 24 9C B 1 F 1 7 1 2 6EA 33 BED 20 5580 20 65A0",
     "1A 1A 1A 1A 1A 1A 1 1 2 2 1 2 2 2 4 1 8 1A 1A 1A 2 1 4 2 8 1 7 1B 2 1 4 1 5 1 1 3 7 1B 1A 1A",
     "1A 1A 1A 1A 1A 1A 1A 1A 1A 1E 19 21 19 21 19 21 19 21 19 21 1 1135 22 80E 1A 6 1A 6 1A"]),
   (["ids", "idstart"],
    fun _ => .decode [
     "41 1A 6 1A 2F 1 A 1 4 1 5 17 1 1F 1 1CA 4 C E 5 7 1 1 1 81 5 1 2 2 4 1 1 6 1 1 3 1 1 1 14 1",
     "53 1 8B 8 A6 1 26 2 1 6 29 47 1B 4 4 2D 2B 23 2 1 63 1 1 F 2 7 2 A 3 2 1 10 1 1 1E 1D 59 B 1",
     "18 21 9 2 4 1 5 16 4 1 9 1 3 1 17 19 7 B 5 18 1 6 11 2A 3A 36 3 1 12 1 7 A F 10 4 8 2 2 2 16",
     "1 7 1 1 3 4 3 1 10 1 D 2 1 3 E 2 A 1 8 6 4 2 2 16 1 7 1 2 1 2 1 2 1F 4 1 1 13 3 10 9 1 3 1 16",
     "1 7 1 2 1 5 3 1 12 1 F 2 17 1 B 8 2 2 2 16 1 7 1 2 1 5 3 1 1E 2 1 3 F 1 11 1 1 6 3 3 1 4 3 2",
     "1 1 1 2 3 2 3 3 3 C 16 1 34 8 1 3 1 17 1 10 3 1 1A 3 2 1 2 2 1E 1 4 8 1 3 1 17 1 A 1 5 3 1 1F",
     "2 1 2 F 2 11 9 1 3 1 29 2 1 10 1 5 3 8 3 18 6 5 12 3 18 1 9 1 1 2 7 3A 30 1 2 C 7 3A 2 1 1 1",
     "5 1 18 1 1 1 A 1 2 9 1 2 5 1 1 15 4 20 1 3F 8 1 24 1B 5 73 2B 14 1 10 6 4 4 3 1 3 2 7 3 4 D C",
     "1 11 26 1 1 5 1 2 2B 1 14D 1 4 2 7 1 1 1 4 2 29 1 4 2 21 1 4 2 7 1 1 1 4 2 F 1 39 1 4 2 43 25",
     "10 10 56 2 6 3 26C 2 11 1 1A 5 4B 3 B 7 12 D 13 E 12 E D 1 3 F 34 23 1 4 1 43 59 7 29 1 1 5",
     "46 A 1F 31 1E 2 5 B 2C 4 1A 36 17 9 35 52 1 5D 2F 11 8 36 1E D 2 A 2C 1A 24 29 3 A 24 2 9 7",
     "2B 2 3 29 4 1 6 1 2 3 1 5 C0 40 116 2 6 2 26 2 6 2 8 1 1 1 1 1 1 1 1F 2 35 1 7 1 1 3 3 1 7 3",
     "4 2 6 4 D 5 3 1 7 74 1 D 1 10 D 65 1 4 1 2 A 1 1 2 6 6 1 1 1 1 1 1 10 2 4 5 5 4 1 11 29 A77",
     "E5 6 4 3 2 C 26 1 1 5 1 2 38 7 1 10 17 9 7 1 7 1 7 1 7 1 7 1 7 1 7 1 7 226 3 19 9 7 5 2 5 4",
     "56 4 5 1 5A 1 4 5 2B 1 5E 11 20 30 10 200 19C0 40 568D 43 2E 2 10D 3 10 A 2 14 2F 10 1F 2 50",
     "27 9 2 67 2 40 5 2 1 1 1 5 18 10 1 3 1 4 1 17 1D 34 E 32 3E 6 3 1 1 2 B 1C A 17 19 1D 7 2F 1C",
     "1 10 5 1 A A 5 1 29 17 3 1 8 14 17 3 1 3 32 1 1 3 2 2 5 2 1 1 1 18 3 2 B 7 3 C 6 2 6 2 6 9 7",
     "1 7 1 2B 1 E 6 73 1D 2BA4 C 17 4 31 2104 16E 2 6A 26 7 C 5 5 1 1 A 1 D 1 5 1 1 1 2 1 2 1 6C",
     "21 16B 12 40 2 36 28 C 74 5 1 87 24 1A 6 1A B 59 3 6 2 6 2 6 2 3 23 C 1 1A 1 13 1 2 1 F 2 E",
     "22 7B 45 35 10B 1D 3 31 2F 20 D 1E 5 26 A 1E 2 24 4 8 1 5 2A 9E 12 24 4 24 4 28 8 34 C B 1 F",
     "1 7 1 2 1 B 1 F 1 7 1 2 43 137 9 16 A 8 18 6 1 2A 1 9 45 6 2 1 1 2C 1 2 3 1 2 17 A 17 9 1F 41",
     "13 1 2 A 16 A 1A 46 38 6 2 40 1 F 4 1 3 1 1D 2A 1D 3 1D 23 8 1 1C 1B 36 A 16 A 13 D 12 6E 49",
     "37 33 D 33 D 24 15C 2A 6 2 4E 1D A 1 8 16 2A 12 2E 15 1B 17 C 35 39 2 2 1 D 2D 20 19 1A 24 1D",
     "1 2 1 8 23 3 1 C 30 E 4 15 1 1 1 23 12 1 19 13 2 3F 7 1 1 1 4 1 F 1 A 7 2F 26 8 2 2 2 16 1 7",
     "1 2 1 5 3 1 12 1 C 5 9E 35 12 4 14 3 1E 30 14 2 1 1 B8 2F 29 4 24 30 14 1 3B 2B D 1 47 1B 25",
     "7 B9 2C 74 40 1F 8 2 1 2 8 1 2 1 18 F 1 1 1 5E 8 2 27 10 1 1 1 1C 1 A 28 7 1 15 1 B 2E 13 1",
     "12 49 107 9 1 25 11 1 31 1E 70 7 1 2 1 26 15 1 19 6 1 2 1 20 E 1 147 13 F 1 1 D 1 22 7C 1 4F",
     "39A 66 6F 11 C4 A4C 61 F 430 11 6 FB9 247 21B9 239 7 1F 11 4F 11 1E 12 30 10 4 1F 15 5 13 2B0",
     "40 80 4B 5 1 42 D 40 2 1 1 1C 17F8 8 4D6 2A 9 22E7 4 1 7 1 2 1 123 F 1 1D 3 2 1 E 4 8 18C 904",
     "6B 5 D 3 9 7 A 1766 55 1 47 1 2 2 1 2 2 2 4 1 C 1 1 1 7 1 41 1 4 2 8 1 7 1 1C 1 4 1 5 1 1 3 7",
     "1 154 2 19 1 19 1 1F 1 19 1 1F 1 19 1 1F 1 19 1 1F 1 19 1 8 734 1F 6 6 105 3E 92 2D A 7 10 1",
     "141 1E 12 2C 1E4 1C 2F4 7 1 4 1 2 1 F 1 C5 3B 44 7 1 4B4 4 1 1B 1 2 1 1 2 1 1 A 1 4 1 1 1 1 6",
     "1 4 1 1 1 1 1 1 3 1 2 1 1 2 1 1 1 1 1 1 1 1 1 1 2 1 1 2 4 1 7 1 4 1 4 1 1 1 A 1 11 5 3 1 5 1",
     "11 1144 A6E0 20 103A 6 DE 2 1682 E 1D31 C1F 21E 5E2 134B 5 1060"]),
   (["idc", "idcontinue"],
    fun _ => .decode [
     "30 A 7 1A 4 1 1 1A 2F 1 A 1 1 1 2 1 5 17 1 1F 1 1CA 4 C E 5 7 1 1 1 11 75 1 2 2 4 1 1 6 5 1 1",
     "1 14 1 53 1 8B 1 5 2 A6 1 26 2 1 6 29 8 2D 1 1 1 2 1 2 1 1 8 1B 4 4 1D B 5 4A 4 66 1 8 2 A 1",
     "13 2 1 10 3B 2 65 E 36 4 1 2 1 2 2E 12 1C 4 B 5 18 1 6 9 4A 1 81 2 A 1 13 1 8 2 2 2 16 1 7 1",
     "1 3 4 2 9 2 2 2 4 8 1 4 2 1 5 2 C A 1 1 1 2 3 1 6 4 2 2 16 1 7 1 2 1 2 1 2 2 1 1 5 4 2 2 3 3",
     "1 7 4 1 1 7 10 B 3 1 9 1 3 1 16 1 7 1 2 1 5 2 A 1 3 1 3 2 1 F 4 2 A 9 7 1 3 1 8 2 2 2 16 1 7",
     "1 2 1 5 2 9 2 2 2 3 7 3 4 2 1 5 2 A 1 1 10 2 1 6 3 3 1 4 3 2 1 1 1 2 3 2 3 3 3 C 4 5 3 3 1 4",
     "2 1 6 1 E A 10 D 1 3 1 17 1 10 2 9 1 3 1 4 7 2 1 3 2 1 2 4 2 A 10 4 1 8 1 3 1 17 1 A 1 5 2 9",
     "1 3 1 4 7 2 6 2 1 4 2 A 1 3 C D 1 3 1 33 1 3 1 5 5 4 7 5 2 A A 6 1 3 1 12 3 18 1 9 1 1 2 7 3",
     "1 4 6 1 1 1 8 6 A 2 2 D 3A 5 F 1 A 27 2 1 1 1 5 1 18 1 1 1 17 2 5 1 1 1 7 1 A 2 4 20 1 17 2 6",
     "A B 1 1 1 1 1 4 A 1 24 4 14 1 12 1 24 9 1 39 4A 6 4E 2 26 1 1 5 1 2 2B 1 14D 1 4 2 7 1 1 1 4",
     "2 29 1 4 2 21 1 4 2 7 1 1 1 4 2 F 1 39 1 4 2 43 2 3 9 9 E 10 10 56 2 6 3 26C 2 11 1 1A 5 4B 3",
     "B 7 16 9 16 B 14 C D 1 3 1 2 C 54 3 1 4 2 2 A 21 3 1 B 6 59 7 2B 5 46 A 1F 1 C 4 C A 28 2 5 B",
     "2C 4 1A 6 B 25 1C 4 3F 1 1D 2 B 6 A D 1 8 E 1 10 31 4D 3 A 11 9 C 74 C 38 8 A 3 31 2 9 7 2B 2",
     "3 10 3 1 27 5 216 2 6 2 26 2 6 2 8 1 1 1 1 1 1 1 1F 2 35 1 7 1 1 3 3 1 7 3 4 2 6 4 D 5 3 1 7",
     "42 2 13 1 1C 1 D 1 10 D 33 D 4 1 3 C 11 1 4 1 2 A 1 1 2 6 6 1 1 1 1 1 1 10 2 4 5 5 4 1 11 29",
     "A77 E5 6 9 C 26 1 1 5 1 2 38 7 1 F 18 9 7 1 7 1 7 1 7 1 7 1 7 1 7 1 7 1 20 205 3 19 F 1 5 2 5",
     "4 56 2 7 1 5A 1 4 5 2B 1 5E 11 20 30 10 200 19C0 40 568D 43 2E 2 10D 3 1C 14 30 4 A 1 73 25 9",
     "2 67 2 40 5 2 1 1 1 5 18 36 4 1 13 34 C 46 A A 6 18 3 1 1 31 2 24 C 1D 3 41 E B 6 1F 1 37 9 E",
     "2 A 6 17 3 49 18 3 2 10 2 5 A 6 2 6 2 6 9 7 1 7 1 2B 1 E 6 7B 1 2 2 A 6 2BA4 C 17 4 31 2104",
     "16E 2 6A 26 7 C 5 5 C 1 D 1 5 1 1 1 2 1 2 1 6C 21 16B 12 40 2 36 28 C 4 10 10 10 3 2 18 3 20",
     "5 1 87 13 A 7 1A 4 1 1 1A B 59 3 6 2 6 2 6 2 3 23 C 1 1A 1 13 1 2 1 F 2 E 22 7B 45 35 88 1 82",
     "1D 3 31 F 1 1F 20 D 1E 5 2B 5 1E 2 24 4 8 1 5 2A 9E 2 A 6 24 4 24 4 28 8 34 C B 1 F 1 7 1 2 1",
     "B 1 F 1 7 1 2 43 137 9 16 A 8 18 6 1 2A 1 9 45 6 2 1 1 2C 1 2 3 1 2 17 A 17 9 1F 41 13 1 2 A",
     "16 A 1A 46 38 6 2 40 4 1 2 5 8 1 3 1 1D 2 3 4 1 20 1D 3 1D 23 8 1 1E 19 36 A 16 A 13 D 12 6E",
     "49 37 33 D 33 D 28 8 A 146 2A 1 2 3 2 4B 20 A 1 8 21 1F 16 2A 15 1B 17 9 47 1F 10 9 3C 7 1 D",
     "19 7 A 6 35 1 A 4 4 8 24 2 1 9 45 4 4 1 D 1 1 23 12 1 25 6 4 3E 7 1 1 1 4 1 F 1 A 7 3B 5 A 6",
     "4 1 8 2 2 2 16 1 7 1 2 1 5 1 A 2 2 2 3 2 1 6 1 5 7 2 7 3 5 8B 4B 5 A 4 4 1E 46 1 1 8 A A6 36",
     "2 9 17 6 22 41 3 1 B A 26 39 7 A 36 1B 2 F 4 A 6 7 B9 3B 65 4A 15 8 2 1 2 8 1 2 1 1E 1 2 2 9",
     "C A 46 8 2 2E 2 8 1 2 1B 3F 8 1 8 4A 3 1 12 49 107 9 1 2D 1 9 F A 18 1E 2 16 1 E 49 7 1 2 1",
     "2C 3 1 1 2 1 9 8 A 6 6 1 2 1 25 1 2 1 6 7 A 136 17 9 11 1 29 3 5 D A 56 1 4F 39A 66 6F 11 C4",
     "A4C 61 F 430 10 16 FAA 247 21B9 239 7 1F 1 A 6 4F 1 A 6 1E 2 5 B 37 9 4 C A 9 15 5 13 2B0 40",
     "80 4B 4 39 7 11 40 2 1 2 B 2 E 17F8 8 4D6 2A 9 22E7 4 1 7 1 2 1 123 F 1 1D 3 2 1 E 4 8 18C",
     "904 6B 5 D 3 9 7 A 3 2 1261 2E 2 17 21E 5 3 6 8 8 2 7 1E 4 94 3 1BB 55 1 47 1 2 2 1 2 2 2 4 1",
     "C 1 1 1 7 1 41 1 4 2 8 1 7 1 1C 1 4 1 5 1 1 3 7 1 154 2 19 1 19 1 1F 1 19 1 1F 1 19 1 1F 1 19",
     "1 1F 1 19 1 8 2 32 200 37 4 32 8 1 E 1 16 5 1 F 450 1F 6 6 D5 7 1 11 2 7 1 2 1 5 5 3E 21 1 70",
     "2D 3 E 2 A 4 1 141 1F 11 3A 1D6 2A 2E6 7 1 4 1 2 1 F 1 C5 B 7 29 4C 4 A 4A6 4 1 1B 1 2 1 1 2",
     "1 1 A 1 4 1 1 1 1 6 1 4 1 1 1 1 1 1 3 1 2 1 1 2 1 1 1 1 1 1 1 1 1 1 2 1 1 2 4 1 7 1 4 1 4 1 1",
     "1 A 1 11 5 3 1 5 1 11 D34 A 406 A6E0 20 103A 6 DE 2 1682 E 1D31 C1F 21E 5E2 134B 5 1060 ADD50",
     "F0"]),
   (["cased"],
    fun _ => .decode [
     "41 1A 6 1A 2F 1 A 1 4 1 5 17 1 1F 1 C3 1 4 4 D0 1 24 7 2 1E 5 60 1 2A 4 2 2 2 4 1 1 6 1 1 3 1",
     "1 1 14 1 53 1 8B 8 A6 1 26 9 29 B17 26 1 1 5 1 2 2B 1 4 2A0 56 2 6 882 9 7 2B 2 3 40 C0 40",
     "116 2 6 2 26 2 6 2 8 1 1 1 1 1 1 1 1F 2 35 1 7 1 1 3 3 1 7 3 4 2 6 4 D 5 3 1 7 74 1 D 1 10 D",
     "65 1 4 1 2 A 1 1 3 5 6 1 1 1 1 1 1 4 1 6 4 1 2 4 5 5 4 1 11 20 3 2 331 34 716 E5 6 4 3 2 C 26",
     "1 1 5 1 7912 2E 12 1E 84 66 3 4 1 3B 5 2 1 1 1 5 18 5 1 3 335 2B 1 E 6 50 4F40 7 C 5 409 1A 6",
     "1A 4A5 50 60 24 4 24 74 B 1 F 1 7 1 2 1 B 1 F 1 7 1 2 1C3 1 2 3 1 2A 1 9 4C5 33 D 33 BAD 40",
     "5560 40 6580 55 1 47 1 2 2 1 2 2 2 4 1 C 1 1 1 7 1 41 1 4 2 8 1 7 1 1C 1 4 1 5 1 1 3 7 1 154",
     "2 19 1 19 1 1F 1 19 1 1F 1 19 1 1F 1 19 1 1F 1 19 1 8 734 A 1 14 6 6 105 3E 892 44 7EC 1A 6",
     "1A 6 1A"]),
   (["ci", "caseignorable"],
    fun _ => .decode [
     "27 1 6 1 B 1 23 1 1 1 47 1 4 1 1 1 4 1 2 2 1F7 C0 4 2 4 1 9 2 1 1 FB 7 CF 1 5 1 31 2D 1 1 1 2",
     "1 2 1 1 2C 1 B 6 A B 1 1 23 1 A 15 10 1 65 8 1 A 1 4 21 1 1 1 1E 1B 5B B 3A B 4 1 2 1 18 18",
     "2B 3 2C 1 7 2 6 8 29 3A 37 1 1 1 4 8 4 1 3 7 A 2 D 1 F 1 3A 1 4 4 8 1 14 2 1A 1 2 2 39 1 4 2",
     "4 2 2 3 3 1 1E 2 3 1 B 2 39 1 4 5 1 2 4 1 14 2 16 6 1 1 3A 1 2 1 1 4 8 1 7 2 B 2 1E 1 3D 1 C",
     "1 32 1 3 1 37 1 1 3 5 3 1 4 7 2 B 2 1D 1 3A 1 2 1 6 1 5 2 14 2 1C 2 39 2 4 4 8 1 14 2 1D 1 48",
     "1 7 3 1 1 5A 1 2 7 B 9 62 1 2 9 9 1 1 7 49 2 1B 1 1 1 1 1 37 E 1 5 1 2 5 B 1 24 9 1 66 4 1 6",
     "1 2 2 2 19 2 4 3 10 4 D 1 2 2 6 1 F 1 5E 1 260 3 3B2 3 1D 2 1E 2 1E 2 40 2 1 7 8 1 2 B 3 1 5",
     "1 2D 5 33 1 41 2 22 1 76 3 4 2 9 1 6 3 DB 2 2 1 3A 1 1 7 1 1 1 1 2 8 6 A 2 1 27 1 8 1F 31 4",
     "30 1 1 5 1 1 5 1 28 9 C 2 20 4 2 2 1 3 38 1 1 2 3 1 1 3 3A 8 2 2 40 6 52 3 1 D 1 7 4 1 6 1 3",
     "2 32 3F D 1 22 65 1BD 1 1 3 B 3 D 3 D 3 D 2 C 5 8 2 A 1 2 1 2 5 31 5 1 A 1 1 D 1 10 D 33 21",
     "B8B 2 71 3 7D 1 F 1 60 20 2F 1 1D5 1 24 4 3 5 5 1 5D 6 5D 3 6F16 1 4E2 6 10E 1 62 4 1 A 1 1",
     "1C 4 50 2 E 22 4E 1 17 3 67 3 3 2 8 1 3 1 4 1 19 2 5 1 97 2 1A 12 D 1 26 8 19 B 2E 3 30 1 2 4",
     "2 2 11 1 15 2 42 6 2 2 2 2 C 1 8 1 23 1 B 1 33 1 1 3 2 2 5 2 1 1 1B 1 E 2 5 2 1 1 64 5 9 3 79",
     "1 2 1 4 1 4F30 1 93 11 23D 10 3 1 C 10 22 1 2 1 A9 1 7 1 6 1 B 1 23 1 1 1 2F 1 2D 2 43 1 15 3",
     "201 1 E2 1 95 5 405 6 1 2A 1 9 246 3 1 2 5 4 28 3 4 1 A5 2 23D 4 183 2 50 3 46 B 31 4 7B 1 36",
     "F 29 1 2 2 A 3 31 4 2 2 2 1 4 1 A 1 32 3 24 5 1 8 3E 1 C 2 34 9 A 4 2 1 5F 3 2 1 1 2 6 1 2 1",
     "9D 1 3 8 15 2 39 2 3 1 25 7 3 5 C3 8 2 3 1 1 17 1 54 6 1 1 4 2 1 2 EE 4 6 2 1 2 1B 2 55 8 2 1",
     "1 2 6A 1 1 1 2 6 1 1 65 3 2 4 1 5 103 9 1 2 100 2 1 1 4 1 90 4 2 2 4 1 20 A 28 6 2 4 8 1 9 6",
     "2 3 2E D 1 2 196 7 1 6 1 1 52 16 2 7 1 2 1 2 7A 6 3 1 1 2 1 7 1 1 48 2 3 1 1 1 15B 2 B 2 34 5",
     "5 1 1 1 14ED 11 6 F 369A 5 3B 7 9 4 40B 1 3F 11 40 2 1 2 400B 4 1 7 1 2 C9E 2 1 4 125C 2E 2",
     "17 220 3 9 10 2 7 1E 4 94 3 7BB 37 4 32 8 1 E 1 16 5 1 F 550 7 1 11 2 7 1 2 1 5 5 3E 21 1 A0",
     "E 170 1 3D 4 1FB 5 3E0 7 6D 8 AAF 5 C0C01 1 1E 60 80 F0"]),
   (["dash"],
    fun _ => .decode [
     "2D 1 55C 1 33 1 E41 1 405 1 809 6 3D 1 27 1 F 1 186 1 C04 1 2 1 1F 2 4 1 1C 1 1BE 1 13 1 6F 1",
     "CD90 2 25 1 A 1 A9 1 F9F 1"]),
   (["dia", "diacritic"],
    fun _ => .decode [
     "5E 1 1 1 47 1 6 1 4 1 2 2 1F7 9F 1 8 5 6 11 2 4 1 9 2 FD 5 D1 1 37 11 1 1B 1 1 1 2 1 1 86 8 4",
     "2 86 2 4 2 3 3 43 1B 5B B 3A B 22 2 7E 8 29 A 10 1C 3D 1 10 1 3 4 1C 1 4A 1 10 1 6E 1 10 1 6E",
     "1 10 1 2F 3 3C 1 10 1 7 1 77 1 6E 1 10 1 6E 1 10 1 6D 2 10 1 7C 1 7C 6 1 1 6B 1 D 5 4B 2 1B 1",
     "1 1 1 1 4 2 42 3 1 2 3E 1 70 1 1 2 28 2 4 5 19 7 1 1 A 2 2C1 3 3B4 2 B3 B 9 1 15B 3 139 8 2 1",
     "30 F 2 B 68 1 F 1 26 9 36 2 8A 2 40 6 52 19 4 1 6 1 2 3 32 3F 59 C 25 B 1BD 1 1 3 B 3 D 3 D 3",
     "D 2 CF0 3 13D 1 1FA 6 69 4 5F 1 7572 1 C 2 1 1 1C 2 52 2 E 22 66 3 6D 2 CA 1 1B 12 39 4 24 1",
     "5F 1 C 1 24 1 95 3 41 4 33 1 64 5 9 3 80 2 4F30 1 301 10 10E 1 1 1 2F 1 2D 2 43 1 2FC 1 49F 6",
     "1 2A 1 9 32A 2 23B 6 1D5 3 46 B 31 4 C0 1 29 1 48 2 78 2 3E 1 4C 1 9 3 68 2 B2 2 51 1 10 1 18",
     "7 3 5 CD 1 3 1 7B 2 FB 2 7E 1 76 2 73 1 10D 2 102 2 4 1 9C 1 53 1 12 1 51 1 1A5 1 102 1 1 2",
     "51 1 16AF F 369A 5 3B 7 458 11 50 2 3FFE 4 1 7 1 2 1F01 2E 2 17 220 3 3 6 8 8 2 7 1E 4 E82 3E",
     "C2 7 177 1 3D 4 5E0 7 6D 3 1 3"]),
   (["ext", "extender"],
    fun _ => .decode [
     "B7 1 218 2 36E 1 1B9 1 35A 1 2F0 1 7F 1 943 1 38 1 263 1 18E 1 44 1 1389 1 2B 5 67 2 5D 3",
     "6F16 1 5F6 1 3C2 1 16 1 89 1 6C 1 15 2 547B 1 810 2 BDA 1 268 3 4CF 1 50A9 2 49C 2 1 1 7158 2",
     "806 3"]),
   (["hex", "hexdigit"],
    fun _ => .decode ["30 A 7 6 1A 6 FEA9 A 7 6 1A 6"]),
   (["ahex", "asciihexdigit"],
    fun _ => .decode ["30 A 7 6 1A 6"]),
   (["ideo", "ideographic"],
    fun _ => .decode [
     "3006 2 19 9 E 3 3C5 19C0 40 5200 5900 16E 2 6A 750A 1 1B 17F8 8 4D6 2A 9 2467 18C 4D04 A6E0",
     "20 103A 6 DE 2 1682 E 1D31 C1F 21E 5E2 134B 5 1060"]),
   (["math"],
    fun _ => .decode [
     "2B 1 10 3 1F 1 1D 1 1 1 2D 1 4 1 25 1 1F 1 2D8 3 2 1 1A 2 2 3 20F 3 1A0D 1 1B 3 B 1 3 1 D 1 E",
     "4 15 5 B 5 41 D 4 1 3 2 4 5 12 1 4 1 2 A 1 1 2 6 6 1 3 2 2 2 1 3 1 6 3 E 1 1 44 18 1 6 1 2 4",
     "2 4 20 1 1 6 2 E 10C 8 4 14 2 5A 1 1E 1B 1 1 18 1 B 7 1BD 2 C A 4 6 4 2 2 2 3 5 E 1 1 1 2 6 B",
     "8 5 2 39 1 1 1 1D 4 9 3 150 40 100 200 30 15 2 6 CFDC 1 337 6 1 1 A2 1 10 3 1D 1 1 1 1D 1 1 1",
     "83 1 6 4 D413 55 1 47 1 2 2 1 2 2 2 4 1 C 1 1 1 7 1 41 1 4 2 8 1 7 1 1C 1 4 1 5 1 1 3 7 1 154",
     "2 124 2 32 1600 4 1 1B 1 2 1 1 2 1 1 A 1 4 1 1 1 1 6 1 4 1 1 1 1 1 1 3 1 2 1 1 2 1 1 1 1 1 1",
     "1 1 1 1 2 1 1 2 4 1 7 1 4 1 4 1 1 1 A 1 11 5 3 1 5 1 11 34 2"]),
   (["patws", "patternwhitespace"],
    fun _ => .decode ["9 5 12 1 64 1 1F88 2 18 2"]),
   (["patsyn", "patternsyntax"],
    fun _ => .decode [
     "21 F A 7 1A 4 1 1 1A 4 22 7 1 1 1 2 1 1 1 2 4 1 4 1 3 1 17 1 1F 1 1F18 18 8 F 2 13 1 A 131",
     "2D0 A0 276 1E 46C 200 80 181 3 4 19 F 1 CD0D 2 105 2"]),
   (["qmark", "quotationmark"],
    fun _ => .decode ["22 1 4 1 83 1 F 1 1F5C 8 19 2 E07 1 1C9 4 D 3 CE21 4 BD 1 4 1 5A 2"]),
   (["di", "defaultignorablecodepoint"],
    fun _ => .decode [
     "AD 1 2A1 1 2CC 1 B42 2 653 2 55 5 7FB 5 1A 5 31 10 10F4 1 CC9B 10 EF 1 A0 1 4F 9 BCA7 4 14CF",
     "8 C2E85 1000"]),
   (["emoji"],
    fun _ => .decode [
     "23 1 6 1 5 A 6F 1 4 1 1F8D 1 C 1 D8 1 16 1 5A 6 F 2 16F 2 C 1 A6 1 19 B 4 3 C7 1 E7 2 A 1 9 1",
     "3A 4 1 5 9 1 2 1 2 2 2 1 4 1 2 1 1 2 2 1 3 1 3 2 8 3 5 1 1 1 5 C B 2 2 1 1 2 1 1 12 1 2 2 12",
     "6 1 1 1 2 3 2 5 1 2 2 4 2 B 2 5 2 2 1 5 2 1 1 1 2 14 2 5 6 1 4 2 1 4 1 2 1 2 6 1 1 2 1 1 1 1",
     "1 6 1 3 1 6 1 A 2 F 1 2 1 4 1 1 1 4 3 1 1 B 2 30 3 9 1 E 1 E 1 174 2 1CF 3 13 2 33 1 4 1 4DA",
     "1 C 1 259 1 1 1 1BD6A 1 CA 1 A0 2 C 2 E 1 2 A 4B 1A 1 2 17 1 14 1 2 9 15 2 AE 22 2 70 2 2 1 3",
     "2 53 2 3 1 107 1 3F B 6 1 18 7 2 2 8 C 1 2 4 2 1 4 2 D 2 2 1 8 2 9 1 5 3 C 3 8 3 2 1 1 1 4 1",
     "6 1 3 1 6 56 30 46 5 8 2 3 4 A 3 1 1 2 3 1 2 A E3 C 4 1 11B 2F 1 A 1 B9 70 D 3 9 7 2E 1 7 8 E",
     "4 9 7 9"]),
   (["epres", "emojipresentation"],
    fun _ => .decode [
     "231A 2 CD 4 3 1 2 1 209 2 15 2 32 C 2B 1 13 1 D 1 8 2 11 2 5 2 8 1 5 1 15 1 7 2 1 1 4 1 2 1 7",
     "1 4 2 1C 1 23 1 1 1 4 3 1 1 3D 3 18 1 E 1 35B 2 33 1 4 1 1C4AE 1 CA 1 BE 1 2 A 4B 1A 1 1 18 1",
     "14 1 2 5 1 3 15 2 AE 21 C 9 1 46 1 16 C 2B 4 5 C 11 3 1 3 47 1 1 1 BB 2 3F D 4 1 18 12 1 1A 2",
     "D 1 56 55 30 46 6 1 3 3 2 3 4 4 B 2 7 9 E3 C 4 1 11B 2F 1 A 1 B9 70 D 3 9 7 2E 1 7 8 E 4 9 7",
     "9"]),
   (["emod", "emojimodifier"],
    fun _ => .decode ["1F3FB 5"]),
   (["ebase", "emojimodifierbase"],
    fun _ => .decode [
     "261D 1 DB 1 10 4 1CC77 1 3C 3 2 1 2 3 75 2 2 B 15 13 3 1 4 3 1 3 7 1 1 1 18 1 C9 2 4 1 15 1 4",
     "2 AE 3 3 5 53 1 10 3 9 1 B 1 23F 1 2 1 8 8 6 1 9 A 2 3 38 1 3D 2 1 2 1 1 11 3 1 D E5 3 2A 9"]),
   (["ecomp", "emojicomponent"],
    fun _ => .decode ["23 1 6 1 5 A 1FD3 1 D5 1 DD2B 1 F3D6 1A 1FB 5 5B0 4 C066C 60"]),
   (["extpict", "extendedpictographic"],
    fun _ => .decode [
     "A9 1 4 1 1F8D 1 C 1 D8 1 16 1 5A 6 F 2 16F 2 C 1 5F 1 46 1 19 B 4 3 C7 1 E7 2 A 1 9 1 3A 4 1",
     "6 1 C 1 72 A 76 2 B 1 1 1 1 6 1 3 1 6 1 A 2 F 1 2 1 4 1 1 1 4 3 1 1 B 5 2D 3 9 1 E 1 E 1 174",
     "2 1CF 3 13 2 33 1 4 1 4DA 1 C 1 259 1 1 1 1BD66 100 D 3 1F 1 3C 6 C 2 E 1 2 A 12 39 1B F A 1",
     "14 1 2 9 1 4 9 1B2 5 13E 8 10A 30 80 74 C 55 2B C 4 38 8 A 6 28 8 1E 52 C 2F 1 A 1 1B9 100",
     "3FE"]),
   (["nchar", "noncharactercodepoint"],
    fun _ => .decode [
     "FDD0 20 20E 2 FFFE 2 FFFE 2 FFFE 2 FFFE 2 FFFE 2 FFFE 2 FFFE 2 FFFE 2 FFFE 2 FFFE 2 FFFE 2",
     "FFFE 2 FFFE 2 FFFE 2 FFFE 2 FFFE 2"]),
   (["sterm", "sentenceterminal"],
    fun _ => .decode [
     "21 1 C 1 10 1 549 1 93 3 B4 1 2B 3 F6 1 3D 1 1 1 3 2 125 2 6E4 2 316 1 4 2 305 1 C6 2 CC 1 5",
     "1 13A 2 162 4 AE 2 2 2 1D 2 BC 2 41 2 3BC 2 9 3 DE4 1 D 1 16 2 1AD 1 74FC 1 10E 2 E3 1 3 1",
     "17E 2 56 2 5F 1 98 2 93 3 90 2 F9 1 5266 1 3 2 A9 1 C 1 10 1 41 1 AF4 2 4FD 5 2C 4 BD 2 75 4",
     "7F 3 81 2 6 1 10 2 58 2 1 2 6C 1 1A1 2 175 2 5 F 69 2 F9 3 205 1 1 1 FB 2 57 2 1A4 2 2B4 2 4A",
     "2 4B29 2 85 1 41 2 B 1 353 1 4E06 1 1DE8 1"]),
   (["term", "terminalpunctuation"],
    fun _ => .decode [
     "21 1 A 1 1 1 B 2 3 1 33E 1 8 1 201 1 39 1 48 1 E 1 1 3 B4 1 2B B 1 1 EB 2 36 F 1F 1 105 2 4F4",
     "2 AC 1 4 6 137 2 315 8 305 1 7C 3 47 2 9D 3 3 1 27 4 2 2 13A 2 162 4 AE 2 1 3 1D 2 BC 5 3E 2",
     "3BC 2 9 3 DE4 1 D 1 4 1 A 1 1 2 3 2 1AC 2 74FB 2 10D 3 E3 5 17E 2 56 2 5F 1 97 3 93 3 7F 1 10",
     "2 F9 1 5264 3 1 4 A9 1 A 1 1 1 B 2 3 1 41 1 2 1 43A 1 30 1 486 1 C7 1 136 2 98 6 44 6 59 4",
     "3B8 5 2C 4 BD 7 70 4 7F 3 81 2 6 1 10 2 58 5 6C 1 1A1 3 C 2 166 4 3 F 69 2 F9 3 205 1 1 1 FB",
     "2 57 2 4 2 19E 3 2D 1 285 2 4A 2 52B 5 45F9 2 85 1 41 3 A 1 352 2 4E06 1 1DE7 4"]),
   (["uideo", "unifiedideograph"],
    fun _ => .decode [
     "3400 19C0 40 5200 5A0E 2 1 1 1 2 A 1 1 1 1 2 2 3 105D6 A6E0 20 103A 6 DE 2 1682 E 1D31 141F",
     "134B 5 1060"]),
   (["vs", "variationselector"],
    fun _ => .decode ["180B 3 1 1 E5F0 10 D02F0 F0"]),
   (["radical"],
    fun _ => .decode ["2E80 1A 1 59 C D6"]),
   (["ri", "regionalindicator"],
    fun _ => .decode ["1F1E6 1A"]),
   (["sd", "softdotted"],
    fun _ => .decode [
     "69 2 C4 1 119 1 1E 1 34 1 14 1 140 1 62 1 1 1 1909 1 33 1 D 1 3 1 84 1 9D 1 1A5 1 D6 2 B32 1",
     "1A7A5 2 32 2 32 2 32 2 32 2 32 2 32 2 32 2 32 2 32 2 32 2 32 2 32 2 886 1 131 2 1A 1"]),
   (["loe", "logicalorderexception"],
    fun _ => .decode ["E40 5 7B 5 AF0 3 2 1 90FA 2 2 1 1 2"]),
   (["dep", "deprecated"],
    fun _ => .decode ["149 1 529 1 903 1 1 1 829 2 8C5 6 2B9 2 DDCD6 1"]),
   (["bidic", "bidicontrol"],
    fun _ => .decode ["61C 1 19F1 2 1A 5 37 4"]),
   (["bidim", "bidimirrored"],
    fun _ => .decode [
     "28 2 12 1 1 1 1C 1 1 1 1D 1 1 1 2D 1 F 1 E7E 4 75D 2 99C 2 A 2 36 2 E 2 B1 1 C0 4 3 6 3 1 3 2",
     "3 4 1 4 1 1 1 1 4 9 5 1 1 12 5 4 9 2 1 1 1 8 2 1F 2 4 5 1 9 2 2 13 5 2 9 5 2 2 4 18 2 10 8 4",
     "14 2 7 2 43D E 4A 1 2 4 1 2 1 3 5 4 5 3 3 E 193 16 2 6 1 E 8 1 7 6 3 1 4 5 1 2 2 5 4 1 1 3 2",
     "2 A 6 2 2 C 13 1 4 2 1 1 1 2 1 1 4 5 2 6 3 18 2 B 2 4 4 1 2 2 2 4 2B 2 8 1 28 5 1 1 1 3 5 5 3",
     "4 1 3 5 1 1 100 1 203 4 3 2 1 2 E 2 2 A 2B 8 1AB A 2 8 CE3D 6 5 2 A2 2 12 1 1 1 1C 1 1 1 1D 1",
     "1 1 1 2 1 2 D777 1 39 1 39 1 39 1 39 1"]),
   (["idsb", "idsbinaryoperator"],
    fun _ => .decode ["2FF0 2 2 8"]),
   (["idst", "idstrinaryoperator"],
    fun _ => .decode ["2FF2 2"]),
   (["grbase", "graphemebase"],
    fun _ => .decode [
     "20 5F 21 D 1 252 70 8 2 6 4 7 1 1 1 14 1 E0 7 A6 1 26 2 32 2 3 2E 1 1 1 2 1 2 1 9 1B 4 6 11 A",
     "B 1 1 2E 15 10 1 65 8 1 6 2 2 1 4 20 2 1 1 1E 1D 59 B 1 E 2B 9 7 3 18 4 1 9 1 3 1 7 F 1 19 5",
     "1 1 B 5 1F 11 2A 39 37 1 1 1 4 8 4 1 3 7 A 2 1D 1 2 1 8 2 2 2 16 1 7 1 1 3 4 3 1 1 2 6 2 2 2",
     "1 1 D 2 1 3 4 18 5 1 1 6 4 2 2 16 1 7 1 2 1 2 1 2 4 3 18 4 1 1 7 A 2 3 1 1 C 1 1 9 1 3 1 16 1",
     "7 1 2 1 5 3 4 8 1 1 2 3 1 F 2 4 C 7 1 8 2 1 8 2 2 2 16 1 7 1 2 1 5 3 1 2 1 6 2 2 2 F 2 1 3 4",
     "12 B 1 1 6 3 3 1 4 3 2 1 1 1 2 3 2 3 3 3 C 5 1 1 2 3 3 1 3 3 1 15 15 6 3 1 8 1 3 1 17 1 10 3",
     "1 3 4 13 3 2 1 2 2 4 A 7 A 1 B 1 3 1 17 1 A 1 5 3 2 1 2 1 2 2 2 1 2 11 2 1 2 4 A 1 3 E B 1 3",
     "1 29 2 1 1 2 5 3 1 3 1 2 4 3 1 A 4 1A 2 2 1 12 3 18 1 9 1 1 2 7 9 2 6 7 7 A 2 3 C 30 1 2 B 8",
     "8 D 25 2 1 1 1 5 1 18 1 1 1 A 1 2 9 1 2 5 1 1 9 A 2 4 20 18 2 1B 1 1 1 1 1 E 1 24 12 1 5 1 2",
     "5 31 8 1 6 1 D 25 2D 4 1 6 1 2 2 2 19 2 4 3 10 4 D 1 2 2 6 1 F 1 28 1 1 5 1 2 179 1 4 2 7 1 1",
     "1 4 2 29 1 4 2 21 1 4 2 7 1 1 1 4 2 F 1 39 1 4 2 43 5 1D 3 1A 6 56 2 6 2 29D 3 59 7 12 3 1 9",
     "13 2 3 9 12 E D 1 3 F 34 2 1 7 8 1 2 B 9 3 A 6 A 6 B 5 A 6 59 7 5 2 22 1 1 5 46 A 1F 4 4 2 3",
     "4 2 1 6 7 1 3 2A 2 5 B 2C 4 1A 6 B 3 39 2 2 3 38 1 1 9 1 1 2 8 6 D A 6 A 6 E 56 30 7 1 1 5 1",
     "A 3 1B 9 B 3 20 4 2 2 1 3 38 1 1 2 3 1 1 3 2 8 30 8 2 5 F 3 3C 7 2B 2 B B 1 D 1 7 4 1 6 1 3 2",
     "1 5 C0 40 116 2 6 2 26 2 6 2 8 1 1 1 1 1 1 1 1F 2 35 1 F 1 E 2 6 1 13 2 3 1 9 1 B 5 18 7 31",
     "10 2 2 1B 1 D 3 21 3F 8C 4 297 19 B 15 714 2 20 1 158 3 2 5 2D 1 1 5 1 2 38 7 2 F 17 9 7 1 7",
     "1 7 1 7 1 7 1 7 1 7 1 7 21 5E 22 1A 1 59 C D6 1A C 4 2A 6 10 1 56 4 65 5 2B 1 5E 1 54 C 2F 1",
     "726D 3 37 9 15C 14 2F 4 1 A 20 2 50 2 6 8 CB 5 2 1 1 1 5 18 10 1 3 1 4 1 19 2 5 4 A 6 38 8 44",
     "A C 18 D 1 26 8 19 B 2 B 1E 6 30 1 2 4 2 2 10 1 B 4 7 1 19 1 29 6 2 2 2 B 3 1 8 1 1 2 A 2 20",
     "1 33 1 1 3 2 2 5 2 1 1 1 18 11 2 8 B 6 2 6 2 6 9 7 1 7 1 3C 4 75 1 2 1 4 3 A 6 2BA4 C 17 4 31",
     "2104 16E 2 6A 26 7 C 5 5 1 1 18 1 5 1 1 1 2 1 2 1 7D 10 1BD 2 36 7 1 20 10 10 A 16 23 1 13 1",
     "4 4 5 1 87 4 9D 2 1F 3 6 2 6 2 6 2 3 3 7 1 7 D 2 2 C 1 1A 1 13 1 2 1 F 2 E 22 7B 5 3 4 2D 3",
     "58 1 D 3 1 2F 2D 83 1D 3 31 10 1B 4 24 9 1E 5 26 A 1E 1 25 4 E 2A 9E 2 A 6 24 4 24 4 28 8 34",
     "B C 1 F 1 7 1 2 1 B 1 F 1 7 1 2 43 137 9 16 A 8 18 6 1 2A 1 9 45 6 2 1 1 2C 1 2 3 1 2 17 1 48",
     "8 9 30 13 1 2 5 21 3 1B 5 1 40 38 4 14 2 2F F 4 1 3 1 1D A 9 7 9 7 40 20 25 6 C 9 36 3 1D 2",
     "1B 5 1A 7 4 C 7 50 49 37 33 D 33 7 2A C A 126 1F 1 2A 3 1 2 2 4E 28 8 16 B 9 16 12 4 4 26 1C",
     "14 17 9 1 1 36 F 7 4 1E 1 2 2 1 C 31 4 2 2 2 1 4 E 19 7 A 9 24 5 1 9 12 8 23 1 3 B 34 9 A 4 2",
     "1 10 1 14 B 12 1 1C 3 2 1 1 2 6 1 2 3F 7 1 1 1 4 1 F 1 B 6 2F 1 3 D A 8 2 1 8 2 2 2 16 1 7 1",
     "2 1 5 3 1 1 1 1 4 2 2 2 3 2 1 C 7 9C 38 8 2 3 1 1 15 1 1 1 3 1E 30 1 2 6 1 1 2 1 1 2 1 2 4 8",
     "A A6 2F 1 2 6 4 2 1 2 1B 24 33 8 2 1 1 2 4 B A 6 D 13 2B 1 1 1 2 6 1 1 2 6 A 36 1B 5 2 4 1 9",
     "17 B9 2F 9 1 2 1 64 53 C 8 2 1 2 8 1 2 1 18 1 5 1 2 4 1 1 4 1 3 9 A 46 8 2 2A 8 4 1 4 1B 1 A",
     "28 6 2 4 8 9 1 6 2 3 2E D 1 2 9 D 49 7 A F6 9 1 26 E 1 1 6 A 1D 3 20 19 1 7 1 2 1 4B 7 1 2 1",
     "26 15 1 9 A 6 6 1 2 1 25 4 2 1 1 1 1 7 A 136 13 2 4 9 F 1 24 8 2 1 1 1 17 56 1 F 32 D 39B 66",
     "6F 1 5 B C4 A4C 63 D 430 11 6 FB9 247 21B9 239 7 1F 1 A 4 51 1 A 6 1E 7 1 A 30 7 F A A 1 7 1",
     "15 5 13 2B0 5B 65 4B 5 38 B D 40 4 C 2 E 17F8 8 4D6 2A 9 22E7 4 1 7 1 2 1 123 F 1 1D 3 2 1 E",
     "4 8 18C 904 6B 5 D 3 9 7 A 2 1 2 1 12B0 74 3C F6 A 27 2 3C 1 1 3 4 15 2 7 1E 4 3D 15 42 3 1",
     "7A 14 C 14 C 57 9 19 87 55 1 47 1 2 2 1 2 2 2 4 1 C 1 1 1 7 1 41 1 4 2 8 1 7 1 1C 1 4 1 5 1 1",
     "3 7 1 154 2 124 2 232 37 4 32 8 1 E 1 7 474 1F 6 6 105 3E 92 2D A 7 2 A 4 2 140 1E 12 2C 4 A",
     "5 1 1D0 1C 4 A 2E6 7 1 4 1 2 1 F 1 C5 2 9 30 44 7 1 4 A 4 2 311 44 4C 3D C2 4 1 1B 1 2 1 1 2",
     "1 1 A 1 4 1 1 1 1 6 1 4 1 1 1 1 1 1 3 1 2 1 1 2 1 1 1 1 1 1 1 1 1 1 2 1 1 2 4 1 7 1 4 1 4 1 1",
     "1 A 1 11 5 3 1 5 1 11 34 2 10E 2C 4 64 C F 2 F 1 F 1 25 A AE 38 1D D 2C 4 9 7 2 E 6 9A 3D8 4",
     "11 3 D 3 77 4 5F 6 C 4 1 F C 4 38 8 A 6 28 8 1E 2 2 4E 154 C E 2 D 3 9 7 2E 1 7 8 E 4 9 7 9 7",
     "93 1 37 25 A 406 A6E0 20 103A 6 DE 2 1682 E 1D31 C1F 21E 5E2 134B 5 1060"]),
   (["cwl", "changeswhenlowercased"],
    fun _ => .decode [
     "41 1A 65 17 1 7 21 1 1 1 1 1 1 1 1 1 1 1 1 1 1 1 1 1 1 1 1 1 1 1 1 1 1 1 1 1 1 1 1 1 1 1 1 1",
     "1 1 1 1 1 1 1 1 1 1 1 1 1 1 1 1 1 1 2 1 1 1 1 1 1 1 1 1 1 1 1 1 1 1 2 1 1 1 1 1 1 1 1 1 1 1 1",
     "1 1 1 1 1 1 1 1 1 1 1 1 1 1 1 1 1 1 1 1 1 1 1 1 1 1 1 1 1 1 1 1 1 1 2 1 1 1 1 3 2 1 1 1 2 1 3",
     "2 4 1 2 1 3 3 2 1 2 1 1 1 1 1 2 1 1 2 1 1 2 1 3 1 1 1 2 3 1 7 2 1 2 1 2 1 1 1 1 1 1 1 1 1 1 1",
     "1 1 1 1 1 2 1 1 1 1 1 1 1 1 1 1 1 1 1 1 1 1 1 2 2 1 1 1 3 1 1 1 1 1 1 1 1 1 1 1 1 1 1 1 1 1 1",
     "1 1 1 1 1 1 1 1 1 1 1 1 1 1 1 1 1 1 1 1 1 1 1 1 1 1 1 1 1 1 1 1 1 1 1 1 1 1 1 1 7 2 1 2 2 1 1",
     "4 1 1 1 1 1 1 1 1 121 1 1 1 3 1 8 1 6 1 1 3 1 1 1 2 1 11 1 9 23 1 8 1 1 1 1 1 1 1 1 1 1 1 1 1",
     "1 1 1 1 1 1 1 1 1 1 5 1 2 1 1 2 2 33 30 1 1 1 1 1 1 1 1 1 1 1 1 1 1 1 1 1 1 1 1 1 1 1 1 1 1 1",
     "1 1 1 1 1 1 9 1 1 1 1 1 1 1 1 1 1 1 1 1 1 1 1 1 1 1 1 1 1 1 1 1 1 1 1 1 1 1 1 1 1 1 1 1 1 1 1",
     "1 1 1 1 1 1 1 1 1 1 1 1 1 1 2 1 1 1 1 1 1 1 1 1 1 1 1 2 1 1 1 1 1 1 1 1 1 1 1 1 1 1 1 1 1 1 1",
     "1 1 1 1 1 1 1 1 1 1 1 1 1 1 1 1 1 1 1 1 1 1 1 1 1 1 1 1 1 1 1 1 1 1 1 1 1 1 1 1 1 1 1 1 1 1 1",
     "1 1 1 1 1 1 1 1 1 1 1 1 1 1 1 1 1 1 1 1 1 1 1 1 1 1 1 1 1 2 26 B49 26 1 1 5 1 2D2 56 89A 2B 2",
     "3 140 1 1 1 1 1 1 1 1 1 1 1 1 1 1 1 1 1 1 1 1 1 1 1 1 1 1 1 1 1 1 1 1 1 1 1 1 1 1 1 1 1 1 1 1",
     "1 1 1 1 1 1 1 1 1 1 1 1 1 1 1 1 1 1 1 1 1 1 1 1 1 1 1 1 1 1 1 1 1 1 1 1 1 1 1 1 1 1 1 1 1 1 1",
     "1 1 1 1 1 1 1 1 1 1 1 1 1 1 1 1 1 1 1 1 1 1 1 1 1 1 1 1 1 1 1 1 1 1 1 1 1 1 1 1 1 1 1 1 1 1 1",
     "1 1 1 1 1 1 1 1 1 1 1 9 1 1 1 1 1 1 1 1 1 1 1 1 1 1 1 1 1 1 1 1 1 1 1 1 1 1 1 1 1 1 1 1 1 1 1",
     "1 1 1 1 1 1 1 1 1 1 1 1 1 1 1 1 1 1 1 1 1 1 1 1 1 1 1 1 1 1 1 1 1 1 1 1 1 1 1 1 1 1 1 1 1 1 1",
     "1 1 1 1 1 1 1 1 1 1 1 1 1 1 1 9 8 8 6 A 8 8 8 8 6 B 1 1 1 1 1 1 1 8 8 18 8 8 8 8 8 8 5 B 5 B",
     "4 C 5 B 5 129 1 3 2 6 1 2D 10 13 1 332 1A 730 30 30 1 1 3 2 1 1 1 1 1 1 4 1 1 2 1 8 3 1 1 1 1",
     "1 1 1 1 1 1 1 1 1 1 1 1 1 1 1 1 1 1 1 1 1 1 1 1 1 1 1 1 1 1 1 1 1 1 1 1 1 1 1 1 1 1 1 1 1 1 1",
     "1 1 1 1 1 1 1 1 1 1 1 1 1 1 1 1 1 1 1 1 1 1 1 1 1 1 1 1 1 1 1 1 1 1 1 1 1 1 1 1 1 1 1 1 1 1 1",
     "8 1 1 1 4 1 794D 1 1 1 1 1 1 1 1 1 1 1 1 1 1 1 1 1 1 1 1 1 1 1 1 1 1 1 1 1 1 1 1 1 1 1 1 1 1",
     "1 1 1 1 1 1 1 13 1 1 1 1 1 1 1 1 1 1 1 1 1 1 1 1 1 1 1 1 1 1 1 1 1 1 1 87 1 1 1 1 1 1 1 1 1 1",
     "1 1 1 3 1 1 1 1 1 1 1 1 1 1 1 1 1 1 1 1 1 1 1 1 1 1 1 1 1 1 1 1 1 1 1 1 1 1 1 1 1 1 1 1 1 1 1",
     "1 1 1 1 1 1 1 1 1 1 1 1 1 1 1 1 1 1 A 1 1 1 1 2 1 1 1 1 1 1 1 1 4 1 1 1 2 1 1 1 3 1 1 1 1 1 1",
     "1 1 1 1 1 1 1 1 1 1 1 1 1 1 5 1 5 1 1 1 1 1 1 1 1 1 1 1 1 1 1 1 4 1 1 6 1 5 1 1 1 1C 1 572B",
     "1A 4C5 28 88 24 9C B 1 F 1 7 1 2 6EA 33 BED 20 5580 20 7AA0 22"]),
   (["cwu", "changeswhenuppercased"],
    fun _ => .decode [
     "61 1A 3A 1 29 18 1 8 1 1 1 1 1 1 1 1 1 1 1 1 1 1 1 1 1 1 1 1 1 1 1 1 1 1 1 1 1 1 1 1 1 1 1 1",
     "1 1 1 1 1 1 1 1 1 1 1 1 1 1 1 1 1 1 1 1 2 1 1 1 1 1 1 1 1 1 1 1 1 1 1 2 1 1 1 1 1 1 1 1 1 1 1",
     "1 1 1 1 1 1 1 1 1 1 1 1 1 1 1 1 1 1 1 1 1 1 1 1 1 1 1 1 1 1 1 1 1 1 1 2 1 1 1 1 3 2 1 1 1 2 1",
     "3 1 5 1 2 1 3 2 3 1 2 1 1 1 1 1 2 1 4 1 2 1 3 1 1 1 2 1 3 1 1 1 5 2 1 2 1 2 1 1 1 1 1 1 1 1 1",
     "1 1 1 1 1 1 2 1 1 1 1 1 1 1 1 1 1 1 1 1 1 1 1 1 2 1 2 1 1 3 1 1 1 1 1 1 1 1 1 1 1 1 1 1 1 1 1",
     "1 1 1 1 1 1 1 1 1 1 1 1 1 1 1 1 1 1 1 1 1 1 3 1 1 1 1 1 1 1 1 1 1 1 1 1 1 1 1 1 8 1 2 2 1 1 4",
     "1 1 1 1 1 1 1 1 6 1 2 1 1 1 2 3 2 1 1 1 2 1 5 2 1 1 2 2 1 7 1 2 1 1 2 3 6 5 1 A 2 A6 1 2B 1 1",
     "1 3 1 3 3 12 1 1B 23 1 2 3 3 1 1 1 1 1 1 1 1 1 1 1 1 1 1 1 1 1 1 1 1 1 1 1 5 1 1 2 1 2 1 34",
     "30 1 1 1 1 1 1 1 1 1 1 1 1 1 1 1 1 1 1 1 1 1 1 1 1 1 1 1 1 1 1 1 1 1 1 9 1 1 1 1 1 1 1 1 1 1",
     "1 1 1 1 1 1 1 1 1 1 1 1 1 1 1 1 1 1 1 1 1 1 1 1 1 1 1 1 1 1 1 1 1 1 1 1 1 1 1 1 1 1 1 2 1 1 1",
     "1 1 1 1 1 1 1 1 1 2 1 1 1 1 1 1 1 1 1 1 1 1 1 1 1 1 1 1 1 1 1 1 1 1 1 1 1 1 1 1 1 1 1 1 1 1 1",
     "1 1 1 1 1 1 1 1 1 1 1 1 1 1 1 1 1 1 1 1 1 1 1 1 1 1 1 1 1 1 1 1 1 1 1 1 1 1 1 1 1 1 1 1 1 1 1",
     "1 1 1 1 1 1 1 1 1 1 1 1 31 27 B48 2B 2 3 2F8 6 882 9 F0 1 3 1 10 1 72 1 1 1 1 1 1 1 1 1 1 1 1",
     "1 1 1 1 1 1 1 1 1 1 1 1 1 1 1 1 1 1 1 1 1 1 1 1 1 1 1 1 1 1 1 1 1 1 1 1 1 1 1 1 1 1 1 1 1 1 1",
     "1 1 1 1 1 1 1 1 1 1 1 1 1 1 1 1 1 1 1 1 1 1 1 1 1 1 1 1 1 1 1 1 1 1 1 1 1 1 1 1 1 1 1 1 1 1 1",
     "1 1 1 1 1 1 1 1 1 1 1 1 1 1 1 1 1 1 1 1 1 1 1 1 1 1 1 1 1 1 1 1 1 1 1 1 1 1 1 1 1 1 7 5 1 1 1",
     "1 1 1 1 1 1 1 1 1 1 1 1 1 1 1 1 1 1 1 1 1 1 1 1 1 1 1 1 1 1 1 1 1 1 1 1 1 1 1 1 1 1 1 1 1 1 1",
     "1 1 1 1 1 1 1 1 1 1 1 1 1 1 1 1 1 1 1 1 1 1 1 1 1 1 1 1 1 1 1 1 1 1 1 1 1 1 1 1 1 1 1 1 9 8 6",
     "A 8 8 8 8 6 A 8 8 8 8 E 2 35 1 2 4 1 1 1 3 3 1 2 4 1 3 4 2 2 8 8 A 3 1 2 4 1 151 1 21 10 4 1",
     "34B 1A 746 30 1 1 3 2 1 1 1 1 1 1 6 1 2 1 A 1 1 1 1 1 1 1 1 1 1 1 1 1 1 1 1 1 1 1 1 1 1 1 1 1",
     "1 1 1 1 1 1 1 1 1 1 1 1 1 1 1 1 1 1 1 1 1 1 1 1 1 1 1 1 1 1 1 1 1 1 1 1 1 1 1 1 1 1 1 1 1 1 1",
     "1 1 1 1 1 1 1 1 1 1 1 1 1 1 1 1 1 1 1 1 1 1 1 1 1 1 1 8 1 1 1 4 1 C 26 1 1 5 1 7913 1 1 1 1 1",
     "1 1 1 1 1 1 1 1 1 1 1 1 1 1 1 1 1 1 1 1 1 1 1 1 1 1 1 1 1 1 1 1 1 1 1 1 1 1 1 1 13 1 1 1 1 1",
     "1 1 1 1 1 1 1 1 1 1 1 1 1 1 1 1 1 1 1 1 1 1 87 1 1 1 1 1 1 1 1 1 1 1 1 1 3 1 1 1 1 1 1 1 1 1",
     "1 1 1 1 1 1 1 1 1 1 1 1 1 1 1 1 1 1 1 1 1 1 1 1 1 1 1 1 1 1 1 1 1 1 1 1 1 1 1 1 1 1 1 1 1 1 1",
     "1 1 1 1 1 A 1 1 1 2 1 1 1 1 1 1 1 1 1 4 1 4 1 1 2 2 1 1 1 1 1 1 1 1 1 1 1 1 1 1 1 1 1 1 1 B 1",
     "1 1 1 1 1 1 1 1 1 1 1 1 1 1 4 1 1 1 6 1 5 1 1 1 1C 1 35C 1 1C 50 4F40 7 C 5 429 1A 4CD 28 88",
     "24 9B B 1 F 1 7 1 2 703 33 BCD 20 5580 20 7AA2 22"]),
   (["cwt", "changeswhentitlecased"],
    fun _ => .decode [
     "61 1A 3A 1 29 18 1 8 1 1 1 1 1 1 1 1 1 1 1 1 1 1 1 1 1 1 1 1 1 1 1 1 1 1 1 1 1 1 1 1 1 1 1 1",
     "1 1 1 1 1 1 1 1 1 1 1 1 1 1 1 1 1 1 1 1 2 1 1 1 1 1 1 1 1 1 1 1 1 1 1 2 1 1 1 1 1 1 1 1 1 1 1",
     "1 1 1 1 1 1 1 1 1 1 1 1 1 1 1 1 1 1 1 1 1 1 1 1 1 1 1 1 1 1 1 1 1 1 1 2 1 1 1 1 3 2 1 1 1 2 1",
     "3 1 5 1 2 1 3 2 3 1 2 1 1 1 1 1 2 1 4 1 2 1 3 1 1 1 2 1 3 1 1 1 4 1 1 2 1 2 1 1 1 1 1 1 1 1 1",
     "1 1 1 1 1 1 1 1 2 1 1 1 1 1 1 1 1 1 1 1 1 1 1 1 1 1 3 1 1 1 1 3 1 1 1 1 1 1 1 1 1 1 1 1 1 1 1",
     "1 1 1 1 1 1 1 1 1 1 1 1 1 1 1 1 1 1 1 1 1 1 1 1 3 1 1 1 1 1 1 1 1 1 1 1 1 1 1 1 1 1 8 1 2 2 1",
     "1 4 1 1 1 1 1 1 1 1 6 1 2 1 1 1 2 3 2 1 1 1 2 1 5 2 1 1 2 2 1 7 1 2 1 1 2 3 6 5 1 A 2 A6 1 2B",
     "1 1 1 3 1 3 3 12 1 1B 23 1 2 3 3 1 1 1 1 1 1 1 1 1 1 1 1 1 1 1 1 1 1 1 1 1 1 1 5 1 1 2 1 2 1",
     "34 30 1 1 1 1 1 1 1 1 1 1 1 1 1 1 1 1 1 1 1 1 1 1 1 1 1 1 1 1 1 1 1 1 1 1 9 1 1 1 1 1 1 1 1 1",
     "1 1 1 1 1 1 1 1 1 1 1 1 1 1 1 1 1 1 1 1 1 1 1 1 1 1 1 1 1 1 1 1 1 1 1 1 1 1 1 1 1 1 1 1 2 1 1",
     "1 1 1 1 1 1 1 1 1 1 2 1 1 1 1 1 1 1 1 1 1 1 1 1 1 1 1 1 1 1 1 1 1 1 1 1 1 1 1 1 1 1 1 1 1 1 1",
     "1 1 1 1 1 1 1 1 1 1 1 1 1 1 1 1 1 1 1 1 1 1 1 1 1 1 1 1 1 1 1 1 1 1 1 1 1 1 1 1 1 1 1 1 1 1 1",
     "1 1 1 1 1 1 1 1 1 1 1 1 1 31 27 E70 6 882 9 F0 1 3 1 10 1 72 1 1 1 1 1 1 1 1 1 1 1 1 1 1 1 1",
     "1 1 1 1 1 1 1 1 1 1 1 1 1 1 1 1 1 1 1 1 1 1 1 1 1 1 1 1 1 1 1 1 1 1 1 1 1 1 1 1 1 1 1 1 1 1 1",
     "1 1 1 1 1 1 1 1 1 1 1 1 1 1 1 1 1 1 1 1 1 1 1 1 1 1 1 1 1 1 1 1 1 1 1 1 1 1 1 1 1 1 1 1 1 1 1",
     "1 1 1 1 1 1 1 1 1 1 1 1 1 1 1 1 1 1 1 1 1 1 1 1 1 1 1 1 1 1 1 1 1 1 1 1 1 1 7 5 1 1 1 1 1 1 1",
     "1 1 1 1 1 1 1 1 1 1 1 1 1 1 1 1 1 1 1 1 1 1 1 1 1 1 1 1 1 1 1 1 1 1 1 1 1 1 1 1 1 1 1 1 1 1 1",
     "1 1 1 1 1 1 1 1 1 1 1 1 1 1 1 1 1 1 1 1 1 1 1 1 1 1 1 1 1 1 1 1 1 1 1 1 1 1 1 1 9 8 6 A 8 8 8",
     "8 6 A 8 8 8 8 E 2 8 8 8 8 8 8 5 1 2 6 1 3 3 1 2 8 4 2 2 8 8 A 3 1 2 156 1 21 10 4 1 34B 1A",
     "746 30 1 1 3 2 1 1 1 1 1 1 6 1 2 1 A 1 1 1 1 1 1 1 1 1 1 1 1 1 1 1 1 1 1 1 1 1 1 1 1 1 1 1 1",
     "1 1 1 1 1 1 1 1 1 1 1 1 1 1 1 1 1 1 1 1 1 1 1 1 1 1 1 1 1 1 1 1 1 1 1 1 1 1 1 1 1 1 1 1 1 1 1",
     "1 1 1 1 1 1 1 1 1 1 1 1 1 1 1 1 1 1 1 1 1 1 1 1 8 1 1 1 4 1 C 26 1 1 5 1 7913 1 1 1 1 1 1 1 1",
     "1 1 1 1 1 1 1 1 1 1 1 1 1 1 1 1 1 1 1 1 1 1 1 1 1 1 1 1 1 1 1 1 1 1 1 1 1 13 1 1 1 1 1 1 1 1",
     "1 1 1 1 1 1 1 1 1 1 1 1 1 1 1 1 1 1 1 87 1 1 1 1 1 1 1 1 1 1 1 1 1 3 1 1 1 1 1 1 1 1 1 1 1 1",
     "1 1 1 1 1 1 1 1 1 1 1 1 1 1 1 1 1 1 1 1 1 1 1 1 1 1 1 1 1 1 1 1 1 1 1 1 1 1 1 1 1 1 1 1 1 1 1",
     "1 1 A 1 1 1 2 1 1 1 1 1 1 1 1 1 4 1 4 1 1 2 2 1 1 1 1 1 1 1 1 1 1 1 1 1 1 1 1 1 1 1 B 1 1 1 1",
     "1 1 1 1 1 1 1 1 1 1 1 4 1 1 1 6 1 5 1 1 1 1C 1 35C 1 1C 50 4F40 7 C 5 429 1A 4CD 28 88 24 9B",
     "B 1 F 1 7 1 2 703 33 BCD 20 5580 20 7AA2 22"]),
   (["cwcf", "changeswhencasefolded"],
    fun _ => .decode [
     "41 1A 5A 1 A 17 1 8 20 1 1 1 1 1 1 1 1 1 1 1 1 1 1 1 1 1 1 1 1 1 1 1 1 1 1 1 1 1 1 1 1 1 1 1",
     "1 1 1 1 1 1 1 1 1 1 1 1 1 1 1 1 1 1 1 1 2 1 1 1 1 1 1 1 1 1 1 1 1 1 1 1 1 2 1 1 1 1 1 1 1 1 1",
     "1 1 1 1 1 1 1 1 1 1 1 1 1 1 1 1 1 1 1 1 1 1 1 1 1 1 1 1 1 1 1 1 1 1 1 1 2 1 1 1 1 1 1 1 2 1 1",
     "1 2 1 3 2 4 1 2 1 3 3 2 1 2 1 1 1 1 1 2 1 1 2 1 1 2 1 3 1 1 1 2 3 1 7 2 1 2 1 2 1 1 1 1 1 1 1",
     "1 1 1 1 1 1 1 1 1 2 1 1 1 1 1 1 1 1 1 1 1 1 1 1 1 1 1 2 2 1 1 1 3 1 1 1 1 1 1 1 1 1 1 1 1 1 1",
     "1 1 1 1 1 1 1 1 1 1 1 1 1 1 1 1 1 1 1 1 1 1 1 1 1 1 1 1 1 1 1 1 1 1 1 1 1 1 1 1 1 1 1 1 7 2 1",
     "2 2 1 1 4 1 1 1 1 1 1 1 1 F6 1 2A 1 1 1 3 1 8 1 6 1 1 3 1 1 1 2 1 11 1 9 16 1 C 3 3 2 1 1 1 1",
     "1 1 1 1 1 1 1 1 1 1 1 1 1 1 1 1 1 1 1 1 1 2 2 2 1 1 1 2 2 33 30 1 1 1 1 1 1 1 1 1 1 1 1 1 1 1",
     "1 1 1 1 1 1 1 1 1 1 1 1 1 1 1 1 1 1 9 1 1 1 1 1 1 1 1 1 1 1 1 1 1 1 1 1 1 1 1 1 1 1 1 1 1 1 1",
     "1 1 1 1 1 1 1 1 1 1 1 1 1 1 1 1 1 1 1 1 1 1 1 1 1 1 2 1 1 1 1 1 1 1 1 1 1 1 1 2 1 1 1 1 1 1 1",
     "1 1 1 1 1 1 1 1 1 1 1 1 1 1 1 1 1 1 1 1 1 1 1 1 1 1 1 1 1 1 1 1 1 1 1 1 1 1 1 1 1 1 1 1 1 1 1",
     "1 1 1 1 1 1 1 1 1 1 1 1 1 1 1 1 1 1 1 1 1 1 1 1 1 1 1 1 1 1 1 1 1 1 1 1 1 1 1 1 1 2 26 30 1",
     "B18 26 1 1 5 1 32A 6 882 9 7 2B 2 3 140 1 1 1 1 1 1 1 1 1 1 1 1 1 1 1 1 1 1 1 1 1 1 1 1 1 1 1",
     "1 1 1 1 1 1 1 1 1 1 1 1 1 1 1 1 1 1 1 1 1 1 1 1 1 1 1 1 1 1 1 1 1 1 1 1 1 1 1 1 1 1 1 1 1 1 1",
     "1 1 1 1 1 1 1 1 1 1 1 1 1 1 1 1 1 1 1 1 1 1 1 1 1 1 1 1 1 1 1 1 1 1 1 1 1 1 1 1 1 1 1 1 1 1 1",
     "1 1 1 1 1 1 1 1 1 1 1 1 1 1 1 1 1 1 1 1 1 1 1 1 1 1 1 1 5 2 2 1 1 1 1 1 1 1 1 1 1 1 1 1 1 1 1",
     "1 1 1 1 1 1 1 1 1 1 1 1 1 1 1 1 1 1 1 1 1 1 1 1 1 1 1 1 1 1 1 1 1 1 1 1 1 1 1 1 1 1 1 1 1 1 1",
     "1 1 1 1 1 1 1 1 1 1 1 1 1 1 1 1 1 1 1 1 1 1 1 1 1 1 1 1 1 1 1 1 1 1 9 8 8 6 A 8 8 8 8 6 B 1 1",
     "1 1 1 1 1 8 8 10 30 2 3 2 6 5 3 2 6 B 4 C 5 5 3 2 6 129 1 3 2 6 1 2D 10 13 1 332 1A 730 30 30",
     "1 1 3 2 1 1 1 1 1 1 4 1 1 2 1 8 3 1 1 1 1 1 1 1 1 1 1 1 1 1 1 1 1 1 1 1 1 1 1 1 1 1 1 1 1 1 1",
     "1 1 1 1 1 1 1 1 1 1 1 1 1 1 1 1 1 1 1 1 1 1 1 1 1 1 1 1 1 1 1 1 1 1 1 1 1 1 1 1 1 1 1 1 1 1 1",
     "1 1 1 1 1 1 1 1 1 1 1 1 1 1 1 1 1 1 1 1 1 8 1 1 1 4 1 794D 1 1 1 1 1 1 1 1 1 1 1 1 1 1 1 1 1",
     "1 1 1 1 1 1 1 1 1 1 1 1 1 1 1 1 1 1 1 1 1 1 1 1 1 1 1 1 13 1 1 1 1 1 1 1 1 1 1 1 1 1 1 1 1 1",
     "1 1 1 1 1 1 1 1 1 1 87 1 1 1 1 1 1 1 1 1 1 1 1 1 3 1 1 1 1 1 1 1 1 1 1 1 1 1 1 1 1 1 1 1 1 1",
     "1 1 1 1 1 1 1 1 1 1 1 1 1 1 1 1 1 1 1 1 1 1 1 1 1 1 1 1 1 1 1 1 1 1 1 1 1 1 1 1 A 1 1 1 1 2 1",
     "1 1 1 1 1 1 1 4 1 1 1 2 1 1 1 3 1 1 1 1 1 1 1 1 1 1 1 1 1 1 1 1 1 1 1 1 5 1 5 1 1 1 1 1 1 1 1",
     "1 1 1 1 1 1 1 4 1 1 6 1 5 1 1 1 1C 1 37A 50 4F40 7 C 5 409 1A 4C5 28 88 24 9C B 1 F 1 7 1 2",
     "6EA 33 BED 20 5580 20 7AA0 22"]),
   (["cwcm", "changeswhencasemapped"],
    fun _ => .decode [
     "41 1A 6 1A 3A 1 A 17 1 1F 1 40 1 54 1 D 1 E 2 E 2 2 1 1 4 5D 1 12 6 1B 1 2 1 1 1 2 3 2 1 1 1",
     "2 1 5 2 1 1 2 2 1 7 1 2 1 1 2 3 6 5 1 A 2 A6 1 2A 4 2 2 3 3 1 1 6 1 1 3 1 1 1 14 1 2F 3 21 1",
     "5 1 85 8 A6 1 26 A 27 B18 26 1 1 5 1 2 2B 2 3 2A0 56 2 6 882 9 7 2B 2 3 B9 1 3 1 10 1 71 9C 2",
     "1 1 76 2 6 2 26 2 6 2 8 1 1 1 1 1 1 1 1F 2 35 1 7 1 1 3 3 1 7 3 4 2 6 4 D 5 3 1 7 129 1 3 2 6",
     "1 1B 1 11 20 3 2 331 34 716 71 1 2 1 2 7 66 7 4 3 2 C 26 1 1 5 1 7912 2E 12 1C 86 E 2 3E 9 F",
     "3 3 2 5 1 19 1 1B 5 2 4 4 1B 2 35C 1 1C 50 4F40 7 C 5 409 1A 6 1A 4A5 50 60 24 4 24 74 B 1 F",
     "1 7 1 2 1 B 1 F 1 7 1 2 6C3 33 D 33 BAD 40 5560 40 7A80 44"]),
   (["hyphen"],
    fun _ => .decode ["2D 1 7F 1 4DC 1 127B 1 809 2 E05 1 2E3 1 CD67 1 A9 1 57 1"]),
   (["grlink", "graphemelink"],
    fun _ => .decode [
     "94D 1 7F 1 7F 1 7F 1 7F 1 7F 1 7F 1 7F 1 6D 2 10 1 7C 1 6F 1 7F 1 C9 1 B4 2 6D9 2 1E 1 9D",
     "1 28D 1 E3 1 65 2 46 2 118B 1 7A86 1 25 1 97 1 8E 1 6C 1 135 1 F6 1 5E51 1 606 1 29 1 E 1",
     "39 1 79 2 8B 1 74 1 B4 1 62 1 F4 1 7F 1 FC 1 7F 1 76 1 74 1 10D 1 103 2 A1 1 53 1 12 1 51",
     "1 1A5 1 104 2 51 1 1A9 2"]),
   (["pcm", "prependedconcatenationmark"],
    fun _ => .decode ["600 6 D7 1 31 1 180 2 50 1 107DA 1 F 1"]),
   (["oalpha", "otheralphabetic"],
    fun _ => .decode [
     "345 1 26A E 1 1 1 2 1 2 1 1 48 B 30 D 1 7 10 1 65 7 4 4 2 2 4 1 23 1 1E 10 66 B 65 2 3 9",
     "1 3 1 4 A7 C 3 7 6 14 36 2 2 F 1 2 5 3 A 2 1D 3 3A 7 2 2 2 2 A 1 A 2 1D 3 3A 5 4 2 2 2 4",
     "1 1E 2 3 1 B 3 3A 8 1 3 1 2 15 2 16 3 4 3 3A 7 2 2 2 2 9 2 A 2 1E 1 3B 5 3 3 1 3 A 1 28 5",
     "39 7 1 3 1 3 8 2 B 2 1D 3 3A 7 1 3 1 3 8 2 B 2 F 1 C 4 3A 7 1 3 1 3 A 1 A 2 1D 3 4B 6 1 1",
     "1 8 12 2 3D 1 2 7 12 1 63 1 2 6 1 2 10 1 A3 13 9 B 1 24 6E C 1 1 2 4 17 4 4 3 1 3 2 7 3 4",
     "D C 1 1 A 4 674 2 1E 2 1E 2 1E 2 42 13 BC 2 22 1 76 C 4 9 DE 5 39 A 2 14 4A 2 B 3 31 5 30",
     "F 3C 3 1E 9 2 2 39 B 32 13 1B0 E 6C1 34 8F6 20 7874 8 22 2 162 1 8 1 17 5 58 2 32 10 1 1",
     "39 1 26 5 1C C 2D 4 30 C 25 1 43 E C 1 8 2 2D 3 32 1 1 3 2 2 5 1 2C 5 5 1 ED 8 4F33 1 857",
     "5 686 3 1 2 5 4 314 4 183 2 153 3 35 E 2D 2 B 3 2D 9 9 1 3D 3 24 C 12 2 39 3 30 D E 2 5C",
     "9 2 1 6 1 2 1 9D A 17 4 3A 7 2 2 2 2 A 1 A 2 D1 D 1 3 6A 12 ED 7 2 7 1D 2 52 F 1 1 6A B",
     "67 E 101 D F7 6 1 2 2 2 3 1 1 1 8E 7 2 6 4 1 1C A 2A 5 1 4 12 B 2E E 197 8 1 7 53 16 1 E",
     "7A 6 3 1 1 2 1 3 1 1 3 1 42 5 1 2 1 4 15C 4 9 2 1 1 30 7 3 3 500E 1 1 37 7 4 5D 2 4CAC 1",
     "2361 7 1 11 2 7 1 2 1 5 64 1 8B7 1 7E8 1A 6 1A 6 1A"]),
   (["odi", "otherdefaultignorablecodepoint"],
    fun _ => .decode ["34F 1 E0F 2 653 2 8AF 1 10FE 1 CE3B 1 4F 9 D0007 1 1 1E 60 80 F0 E10"]),
   (["ogrext", "othergraphemeextend"],
    fun _ => .decode ["9BE 1 18 1 166 1 18 1 66 1 18 1 EA 1 12 2 67 1 18 1 77 1 F 1 D55 1 4D6 1 1021 2 CF6E 2",
     "139E 1 18 1 158 1 C 1 F1 1 380 1 B834 1 8 5 C2EAD 60"]),
   (["oidc", "otheridcontinue"],
    fun _ => .decode ["B7 1 2CF 1 FE1 9 668 1"]),
   (["oids", "otheridstart"],
    fun _ => .decode ["1885 2 891 1 15 1 F6C 2"]),
   (["olower", "otherlowercase"],
    fun _ => .decode [
     "AA 1 F 1 1F5 9 7 2 1E 5 60 1 34 1 D81 1 C2F 3F D 1 22 25 2B1 1 D 1 10 D D3 10 350 1A 792",
     "2 7A1E 2 D2 1 81 3 3 2 362 4 9 1 5C16 1 2 3 1 2A 1 9 D875 3E"]),
   (["omath", "othermath"],
    fun _ => .decode [
     "5E 1 371 3 2 1 1A 2 2 2 1C20 1 1B 3 B 1 20 4 18 2 E 2 41 D 4 1 3 2 4 5 12 1 4 1 2 A 1 1 3",
     "5 6 1 3 2 2 2 1 3 1 6 3 4 5 5 4B 5 2 4 1 2 1 2 1 1 1 5 2 2 4 2 4 12 2 2 1 1 1 7 1 1 6 2",
     "122 4 A8 2 1 1 18 1 11 1 1BD 2 C 9 5 5 5 2 2 2 3 5 E 1 1 1 2 6 18 2 39 1 1 1 1D 4 9 2 156",
     "2 1F A 193 16 3F 4 20 2 D463 1 1 1 4 1 D3 1 1 1 D4C1 55 1 47 1 2 2 1 2 2 2 4 1 C 1 1 1 7",
     "1 41 1 4 2 8 1 7 1 1C 1 4 1 5 1 1 3 7 1 154 2 19 1 19 1 1F 1 19 1 1F 1 19 1 1F 1 19 1 1F",
     "1 19 1 8 2 32 1600 4 1 1B 1 2 1 1 2 1 1 A 1 4 1 1 1 1 6 1 4 1 1 1 1 1 1 3 1 2 1 1 2 1 1 1",
     "1 1 1 1 1 1 1 2 1 1 2 4 1 7 1 4 1 4 1 1 1 A 1 11 5 3 1 5 1 11"]),
   (["oupper", "otheruppercase"],
    fun _ => .decode ["2160 10 346 1A 1CC60 1A 6 1A 6 1A"])]

/-- The set of a binary property, by loose name. -/
def find? (name : String) : Option CodeSet :=
  match name with
  | "any" => some .full
  | "ascii" => some (.interval 0 0x7F)
  | _ => (tables.find? fun (names, _) => names.contains name).map fun (_, set) => set ()

end AttributeGrammar.Unicode.Property
