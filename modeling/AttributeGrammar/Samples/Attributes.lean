import AttributeGrammar.Samples.Basic

/-!
# Samples of attributes

Grammars that pass values down to children and back up: `brackets`, `chain`, `duplicate`, `empty`,
`list`, `path`, `letters`.
-/

set_option autoImplicit false

namespace AttributeGrammar.Samples

/-- Nested brackets. Round ones count up a number that is passed down. -/
def brackets : Sample := .ofLines
  ["$open[] \x7b self.n += 1; \x7d",
   "s [i32 n] : '(' $open s ')'",
   "s : '[' $open (i = s) ']' s",
   "s : EPS $depth",
   "$depth[i32 depth] \x7b self.depth = self.n; \x7d",
   "s"]
  [("open", computeNumber "n" fun fields => add (numberAt fields "n") 1),
   ("depth", setNumber "depth" fun fields => numberAt fields "n")]

/-- Exports that pass through several rules under longer and longer names. -/
def chain : Sample := .ofLines
  ["NUM : '[0-9]+'",
   "$num[i32 v, String raw] \x7b self.v = self.n.parse().unwrap_or(-1); " ++
     "self.raw = format!(\"<\x7b\x7d>\", self.n); \x7d",
   "$twice[i32 v] \x7b self.v = self.i_v * 2; \x7d",
   "outer : (m = middle) '!' (m2 = middle) (z = outer_opt)",
   "middle : (i = inner) $twice",
   "inner : (n = NUM) $num",
   "outer_opt : ';' (o = outer)",
   "outer_opt : EPS",
   "outer"]
  [("num", inOrder
     [setNumber "v" fun fields => (parseNumber? (textAt fields "n")).getD (-1),
      setText "raw" fun fields => "<" ++ textAt fields "n" ++ ">"]),
   ("twice", computeNumber "v" fun fields => multiply (numberAt fields "i_v") 2)]

/-- An action with the only export. -/
def duplicate : Sample := .ofLines
  ["$dup[i32 x] \x7b self.x = 1; \x7d",
   "expr : 'a' $dup",
   "expr"]
  [("dup", setNumber "x" fun _ => 1)]

/-- A rule that reads nothing and acts. -/
def empty : Sample := .ofLines
  ["$mark[i32 seen] \x7b self.seen = 7; \x7d",
   "s : $mark",
   "s"]
  [("mark", setNumber "seen" fun _ => 7)]

/-- A list that counts its entries on the way down and returns the count. -/
def list : Sample := .ofLines
  ["ID : '[a-z]+'",
   "$start[i32 count] \x7b self.count = 1; \x7d",
   "$bump[] \x7b self.count += 1; \x7d",
   "$total[i32 len] \x7b self.len = self.rest_len; \x7d",
   "$last[i32 len] \x7b self.len = self.count; \x7d",
   "list : ID $start (rest = tail) $total",
   "tail [i32 count] : ',' ID $bump (rest = tail) $total",
   "tail [i32 count] : EPS $last",
   "list"]
  [("start", setNumber "count" fun _ => 1),
   ("bump", computeNumber "count" fun fields => add (numberAt fields "count") 1),
   ("total", setNumber "len" fun fields => numberAt fields "rest_len"),
   ("last", setNumber "len" fun fields => numberAt fields "count")]

/-- A path whose start rule inherits a text and a number. -/
def path : Sample := .ofLines
  ["WORD : '[a-z]+'",
   "$wrap[String out, i32 level] \x7b",
   "    self.out = format!(\"\x7b\x7d\x7b\x7d\", self.prefix, self.w);",
   "    self.level = self.depth;",
   "    self.depth += 1;",
   "    self.prefix.push('.');",
   "\x7d",
   "$join[String all i32 max] \x7b",
   "    self.all = format!(\"\x7b\x7d|\x7b\x7d\", self.out, self.rest_all);",
   "    self.max = if self.rest_max > self.level \x7b self.rest_max \x7d else \x7b self.level \x7d;",
   "\x7d",
   "$stop[String all, i32 max] \x7b self.all = self.prefix.clone(); self.max = self.depth; \x7d",
   "s [String prefix, i32 depth] : (w = WORD) $wrap (rest = more) $join",
   "more [String prefix i32 depth,] : '/' (w = WORD) $wrap (rest = more) $join",
   "more : EPS $stop",
   "s"]
  [("wrap", inOrder
     [setText "out" fun fields => textAt fields "prefix" ++ textAt fields "w",
      setNumber "level" fun fields => numberAt fields "depth",
      computeNumber "depth" fun fields => add (numberAt fields "depth") 1,
      setText "prefix" fun fields => textAt fields "prefix" ++ "."]),
   ("join", inOrder
     [setText "all" fun fields => textAt fields "out" ++ "|" ++ textAt fields "rest_all",
      setNumber "max" fun fields => max (numberAt fields "rest_max") (numberAt fields "level")]),
   ("stop", inOrder
     [setText "all" fun fields => textAt fields "prefix",
      setNumber "max" fun fields => numberAt fields "depth"])]

/-- Letters that are counted on the way back up. -/
def letters : Sample := .ofLines
  ["$inc[i32 n] \x7b self.n = self.r_n + 1; \x7d",
   "$zero[i32 n] \x7b self.n = 0; \x7d",
   "xs : 'x' (r = xs) $inc",
   "xs : 'yy' (r = xs) $inc",
   "xs : EPS $zero",
   "xs"]
  [("inc", computeNumber "n" fun fields => add (numberAt fields "r_n") 1),
   ("zero", setNumber "n" fun _ => 0)]

end AttributeGrammar.Samples
