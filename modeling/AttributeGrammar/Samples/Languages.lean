import AttributeGrammar.Samples.Basic

/-!
# Samples of languages

Grammars of small languages: `csv`, `json`, `keywords`, `number`, `program`.
-/

set_option autoImplicit false

namespace AttributeGrammar.Samples

/-- Records of numbers. -/
def csv : Sample := .ofLines
  ["FIELD : '[0-9]+'",
   "csv : record csv",
   "csv : EPS",
   "record : FIELD fields '\\n'",
   "fields : ',' FIELD fields",
   "fields : EPS",
   "csv"]
  []

/-- A text in JSON. -/
def json : Sample := .ofLines
  ["STR : '\"(?:[^\"\\\\\\\\]|\\\\\\\\.)*\"'",
   "NUM : '-?(0|[1-9][0-9]*)(\\.[0-9]+)?([eE][+-]?[0-9]+)?'",
   "WS : '[ \\t\\n\\r]+'",
   "",
   "$obj[String kind] \x7b self.kind = \"object\".to_owned(); \x7d",
   "$arr[String kind] \x7b self.kind = \"array\".to_owned(); \x7d",
   "$lit[String kind] \x7b self.kind = \"literal\".to_owned(); \x7d",
   "",
   "doc : ws (v = value) ws",
   "value : '\x7b' ws $obj members '\x7d'",
   "value : '[' ws $arr elements ']'",
   "value : (text = STR) $lit",
   "value : (text = NUM) $lit",
   "value : (text = 'true') $lit",
   "value : (text = 'false') $lit",
   "value : (text = 'null') $lit",
   "members : member more_members",
   "members : EPS",
   "more_members : ',' ws member more_members",
   "more_members : EPS",
   "member : (key = STR) ws ':' ws value ws",
   "elements : value ws more_elements",
   "elements : EPS",
   "more_elements : ',' ws value ws more_elements",
   "more_elements : EPS",
   "ws : WS",
   "ws : EPS",
   "doc"]
  [("obj", setText "kind" fun _ => "object"),
   ("arr", setText "kind" fun _ => "array"),
   ("lit", setText "kind" fun _ => "literal")]

/-- A literal that another one begins with, and names. -/
def keywords : Sample := .ofLines
  ["ID : '[a-z]+'",
   "NUM : '[0-9]+'",
   "stmt : (k = 'ifend')",
   "stmt : (k = 'if') (n = NUM)",
   "stmt : (k = ID)",
   "stmt"]
  []

/-- A number. -/
def number : Sample := .ofLines
  ["NUM : '[0-9]+'",
   "expr : (v = NUM)",
   "expr"]
  []

/-- A program whose statements define names. -/
def program : Sample := .ofLines
  ["ID : '[A-Za-z_][A-Za-z0-9_]*'",
   "NUM : '[0-9]+'",
   "STR : '\"(?:[^\"\\\\\\\\]|\\\\\\\\.)*\"'",
   "SEL : '(?i:select)'",
   "WS : '[ \\t]+'",
   "COMMENT : '#[^\\n]*'",
   "$def[Vec<String> names] \x7b self.names.push(self.id.clone()); \x7d",
   "$pass[Vec<String> names] \x7b self.names.extend(self.rest_names.iter().cloned()); \x7d",
   "$on[bool flag] \x7b self.flag = true; \x7d",
   "program : (st = stmt) $take (rest = stmts) $pass",
   "$take[Vec<String> names] \x7b self.names = self.st_names.clone(); \x7d",
   "stmts : ';' ows (st = stmt) $take (rest = stmts) $pass",
   "stmts : '\\n' ows (st = stmt) $take (rest = stmts) $pass",
   "stmts : EPS",
   "stmt : 'let' WS (id = ID) ows '=' ows expr ows $def",
   "stmt : 'if' WS expr WS 'then' WS (st = stmt) $take (e = else_part) 'fi' ows $on",
   "stmt : SEL WS (id = ID) ows",
   "stmt : COMMENT",
   "stmt : EPS",
   "else_part : 'else' WS stmt",
   "else_part : EPS",
   "expr : atom",
   "atom : NUM",
   "atom : STR",
   "atom : ID args",
   "args : '(' ows arglist ')'",
   "args : EPS",
   "arglist : expr ows arg_tail",
   "arglist : EPS",
   "arg_tail : ',' ows expr ows arg_tail",
   "arg_tail : EPS",
   "ows : WS",
   "ows : EPS",
   "program"]
  [("def", setNames "names" fun fields => namesAt fields "names" ++ [textAt fields "id"]),
   ("pass", setNames "names" fun fields => namesAt fields "names" ++ namesAt fields "rest_names"),
   ("on", fun fields => .ok (fields.put "flag" (.flag true))),
   ("take", setNames "names" fun fields => namesAt fields "st_names")]

end AttributeGrammar.Samples
