import AttributeGrammar.Samples.Basic

/-!
# Samples of tokens

Grammars that show which token a scanner delivers, and where a rule may be empty: `anchors`, `noop`,
`nullable`, `ties`, `unicode`.
-/

set_option autoImplicit false

namespace AttributeGrammar.Samples

/-- Patterns with anchors, classes and repetitions. -/
def anchors : Sample := .ofLines
  ["BOL : '^b'",
   "EOL : 'e$'",
   "WB : 'w\\b'",
   "CI : '(?i)key'",
   "DOT : '\\..'",
   "HEX : '0x[[:xdigit:]]+'",
   "NEG : '[^a-z0-9\\s.]+'",
   "REP : 'r\x7b2,3\x7d'",
   "s : t s",
   "s : EPS",
   "t : (k = BOL)",
   "t : (k = EOL)",
   "t : (k = WB)",
   "t : (k = CI)",
   "t : (k = DOT)",
   "t : (k = HEX)",
   "t : (k = NEG)",
   "t : (k = REP)",
   "t : (k = 'e')",
   "t : (k = 'w')",
   "t : (k = 'r')",
   "t : (k = ' ')",
   "s"]
  []

/-- A start rule that reads nothing unless the first token fits. -/
def noop : Sample := .ofLines
  ["N : '[0-9]'",
   "s : x 'c' y 'd' N",
   "x : 'a'",
   "x : 'b'",
   "y : 'a' x",
   "y : N y",
   "s"]
  []

/-- Rules that may be empty. -/
def nullable : Sample := .ofLines
  ["s : a b c d",
   "a : 'a'",
   "a : EPS",
   "b : 'b' b",
   "b : EPS",
   "c : '(' s_inner ')'",
   "c : EPS",
   "s_inner : a b",
   "d : e",
   "d : 'd'",
   "e : 'e'",
   "e :",
   "s"]
  []

/-- Regex terminals and literals that match equally much. -/
def ties : Sample := .ofLines
  ["A : 'a+'",
   "AB : '[ab]+'",
   "LAZY : 'c+?'",
   "ZERO : 'x*'",
   "ALT : 'd|de|def'",
   "OPT : '(fg)?h'",
   "s : (k = A) s",
   "s : (k = AB) s",
   "s : (k = LAZY) s",
   "s : (k = ZERO) s",
   "s : (k = ALT) s",
   "s : (k = OPT) s",
   "s : (k = 'aa') s",
   "s : (k = 'ab') s",
   "s : (k = 'x') s",
   "s : (k = 'e') s",
   "s : (k = 'fg') s",
   "s : EPS",
   "s"]
  []

/-- Tokens outside ASCII. -/
def unicode : Sample := .ofLines
  ["WORD : '\\w+'",
   "SPACE : '\\s+'",
   "EMOJI : '[\\x\x7b1F600\x7d-\\x\x7b1F64F\x7d]+'",
   "ARROW : '→+'",
   "s : t s",
   "s : EPS",
   "t : (w = WORD)",
   "t : SPACE",
   "t : (e = EMOJI)",
   "t : (a = ARROW) 'é'",
   "t : (l = '→') '日本'",
   "t : (l = '日')",
   "t : '«' s2 '»'",
   "s2 : t s2",
   "s2 : EPS",
   "s"]
  []

end AttributeGrammar.Samples
