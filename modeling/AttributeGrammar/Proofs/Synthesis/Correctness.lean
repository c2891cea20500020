import AttributeGrammar.Proofs.Language.Tree
import AttributeGrammar.Proofs.Synthesis.Parse

/-!
# What a generated parser returns

For every description that is read and from which a parser is generated, and for every input:

* `accepts_iff_justifies` — a parser that returns a tree accepts a sentence of its grammar exactly when
  every rule that has a node without children in the tree derives the empty word. Where a rule cannot
  start with the token ahead its node stays without children, and nobody may notice.
* `returns_derivation` — a sentence gives a derivation tree.
* `ends_unless_loops` — a run ends, unless it comes, at the end of the input, to a rule that calls itself
  there without end.
* `tree_covers_input` — the leaves of a tree are all the tokens of the input, and the children of every
  node are those of one alternative, or none.
-/

set_option autoImplicit false

namespace AttributeGrammar.Synthesis

open Relation (ReflTransGen TransGen)

variable {V : Type} {grammar : Grammar} {analysis : Analysis} {generated : Generated} {text : String}
  {main : Bool} {meaning : Meaning V} {arguments : List V} {input : String} {tree : Tree V}
  {tokens : List Token} {stop : Token}

/-! ## A sample -/

/-- A description of "a" and "ac". -/
def tailText : String := "s : 'a' b\nb : 'c'\nb : EPS\ns"

/-- Actions that do nothing on fields without values. -/
def Meaning.idle : Meaning Unit := ⟨fun _ => (), fun _ => (), fun _ fields => .ok fields⟩

theorem Meaning.idle_keeps (code : ParserCode) : Meaning.idle.Keeps code := by
  intro node _ body _ action _ fields new hnames hact
  cases hact
  exact hnames

theorem Meaning.idle_calm (code : ParserCode) : Meaning.idle.Calm code :=
  fun _ _ _ _ _ _ fields _ => ⟨fields, rfl⟩

theorem Meaning.idle_settles (code : ParserCode) : Meaning.idle.Settles code :=
  Meaning.settles_of_calm (Meaning.idle_keeps code) (Meaning.idle_calm code)

/-- Whether a run was cut off. -/
def Outcome.isTooDeep (outcome : Outcome V) : Bool :=
  match outcome.result with
  | .error .tooDeep => true
  | _ => false

theorem Outcome.eq_of_isTooDeep {outcome : Outcome V} (h : outcome.isTooDeep) :
    outcome.result = .error .tooDeep := by
  unfold Outcome.isTooDeep at h
  split at h
  · assumption
  · cases h

theorem exists_tree_of_isOk {outcome : Outcome V} (h : outcome.result.isOk) :
    ∃ tree, outcome.result = .ok tree := by
  rcases hresult : outcome.result with e | tree
  · rw [hresult] at h
    cases h
  · exact ⟨tree, rfl⟩

/-- The sample is read and a parser generated, which accepts "ac" and "". -/
theorem exists_tail : ∃ grammar generated, (Description.readResolved tailText).1 = .ok grammar ∧
    generate grammar false = .ok generated ∧
    (generated.parse Meaning.idle [] "ac").result.isOk ∧ (generated.parse Meaning.idle [] "").result.isOk ∧
    generated.ScansTo "ac" [⟨.text, "a", 0⟩, ⟨.text, "c", 1⟩] ⟨.endOfInput, "", 2⟩ ∧
    ∃ s b, grammar.rule? grammar.start = some s ∧ grammar.rule? "b" = some b ∧
      s.alternatives.map Alternative.symbols = [[.terminal (.text "a"), .nonTerminal "b"]] ∧
      b.alternatives.map Alternative.symbols = [[.terminal (.text "c")], [.terminal .empty]] := by
  have hpasses : passes tailText false fun grammar generated =>
      (generated.parse Meaning.idle [] "ac").result.isOk &&
      (generated.parse Meaning.idle [] "").result.isOk &&
      decide (generated.ScansTo "ac" [⟨.text, "a", 0⟩, ⟨.text, "c", 1⟩] ⟨.endOfInput, "", 2⟩) &&
      (grammar.rule? grammar.start).any (fun s =>
        s.alternatives.map Alternative.symbols = [[.terminal (.text "a"), .nonTerminal "b"]]) &&
      (grammar.rule? "b").any (fun b =>
        b.alternatives.map Alternative.symbols = [[.terminal (.text "c")], [.terminal .empty]]) := by
    decide +kernel
  obtain ⟨grammar, generated, hread, hgenerate, hcheck⟩ := exists_of_passes hpasses
  simp only [Bool.and_eq_true, decide_eq_true_eq, Option.any_eq_true, and_assoc] at hcheck
  obtain ⟨hparse, hempty, hscans, ⟨s, hs, hsymbols⟩, b, hb, hbsymbols⟩ := hcheck
  exact ⟨grammar, generated, hread, hgenerate, hparse, hempty, hscans, s, b, hs, hb, hsymbols, hbsymbols⟩

/-! ## Sentences and trees -/

theorem Emission.grows_of_parse (h : Emission grammar analysis generated)
    (hderives : grammar.Derives [.nonTerminal grammar.start] (tokens.map Token.terminal))
    (hscans : generated.ScansTo input tokens stop)
    (hparse : (generated.parse meaning arguments input).result = .ok tree) :
    grammar.Grows [.nonTerminal grammar.start] [tree] tokens := by
  obtain ⟨others, last, hother, hreads⟩ := h.reads_of_parse hparse
  obtain ⟨rfl, rfl⟩ := hscans.unique hother
  exact (Grammar.grows_of_reads h.predictive hderives rfl (expects_stop hscans.isEnd) hreads).2

/-- **A parser that returns a tree accepts a sentence exactly when every rule that has a node without
children in the tree derives the empty word.** In any case it has scanned the whole input. -/
theorem accepts_iff_justifies (hread : (Description.readResolved text).1 = .ok grammar)
    (hgenerate : generate grammar main = .ok generated)
    (hparse : (generated.parse meaning arguments input).result = .ok tree) :
    ∃ tokens stop, generated.ScansTo input tokens stop ∧
      (grammar.Derives [.nonTerminal grammar.start] (tokens.map Token.terminal) ↔
        grammar.Justifies tree) := by
  obtain ⟨analysis, h⟩ := exists_emission hread hgenerate
  obtain ⟨tokens, stop, hscans, hreads⟩ := h.reads_of_parse hparse
  refine ⟨tokens, stop, hscans, fun hderives => ?_, fun hjustifies => ?_⟩
  · have hgrows := h.grows_of_parse hderives hscans hparse
    refine hgrows.justifies (fun a ha b hb hname => ?_) tree List.mem_cons_self
    exact congrArg Rule.name (h.eq_of_nodeName ha hb hname)
  · obtain ⟨front, heq, hderives⟩ := Grammar.derives_of_reads hreads (by simpa using hjustifies)
    rwa [List.append_cancel_right heq]

/-- The sample with "ac". -/
theorem accepts_iff_justifies_ac : ∃ grammar generated tree,
    (Description.readResolved tailText).1 = .ok grammar ∧ generate grammar false = .ok generated ∧
    (generated.parse Meaning.idle [] "ac").result = .ok tree ∧
    ∃ tokens stop, generated.ScansTo "ac" tokens stop ∧
      (grammar.Derives [.nonTerminal grammar.start] (tokens.map Token.terminal) ↔
        grammar.Justifies tree) := by
  obtain ⟨grammar, generated, hread, hgenerate, hok, -⟩ := exists_tail
  obtain ⟨tree, hparse⟩ := exists_tree_of_isOk hok
  exact ⟨grammar, generated, tree, hread, hgenerate, hparse,
    accepts_iff_justifies hread hgenerate hparse⟩

/-- The parser of the sample returns a tree for "", although every sentence begins with an "a". -/
theorem accepts_no_sentence : ∃ grammar generated tree,
    (Description.readResolved tailText).1 = .ok grammar ∧ generate grammar false = .ok generated ∧
    (generated.parse Meaning.idle [] "").result = .ok tree ∧
    ∀ tokens stop, generated.ScansTo "" tokens stop →
      ¬ grammar.Derives [.nonTerminal grammar.start] (tokens.map Token.terminal) := by
  obtain ⟨grammar, generated, hread, hgenerate, -, hok, -, s, -, hs, -, hsymbols, -⟩ := exists_tail
  obtain ⟨tree, hparse⟩ := exists_tree_of_isOk hok
  refine ⟨grammar, generated, tree, hread, hgenerate, hparse, fun tokens stop hscans hderives => ?_⟩
  obtain ⟨rule, hrule, alternative, halt, hbody⟩ := Grammar.derives_nonTerminal_iff.mp hderives
  cases hs.symm.trans hrule
  have hmem := List.mem_map_of_mem halt (f := Alternative.symbols)
  rw [hsymbols, List.mem_singleton] at hmem
  rw [hmem] at hbody
  have hjoin := hscans.join_eq
  generalize hword : tokens.map Token.terminal = word at hbody
  cases hbody with
  | terminal =>
    obtain ⟨token, rest, rfl, hterminal, -⟩ := List.map_eq_cons_iff.mp hword
    have htext := Token.terminal_eq_text.mp hterminal
    rw [Token.isText, Bool.and_eq_true, decide_eq_true_iff, decide_eq_true_iff] at htext
    rw [List.map_cons, String.join_cons, htext.2] at hjoin
    simp at hjoin

/-! ## Derivation trees -/

/-- **A sentence gives a derivation tree**, provided that actions keep the declared fields and none breaks
off, at least not in this run. -/
theorem returns_derivation (hread : (Description.readResolved text).1 = .ok grammar)
    (hgenerate : generate grammar main = .ok generated) (hkeeps : meaning.Keeps generated.parser)
    (hcalm : meaning.Calm generated.parser ∨
      ∀ cause, (generated.parse meaning arguments input).result ≠ .error (.panic cause))
    (hscans : generated.ScansTo input tokens stop)
    (hderives : grammar.Derives [.nonTerminal grammar.start] (tokens.map Token.terminal)) :
    ∃ tree, (generated.parse meaning arguments input).result = .ok tree ∧
      grammar.Grows [.nonTerminal grammar.start] [tree] tokens := by
  obtain ⟨analysis, h⟩ := exists_emission hread hgenerate
  obtain ⟨tree, hparse⟩ := h.returns_of_derives hkeeps hcalm hderives hscans
  exact ⟨tree, hparse, h.grows_of_parse hderives hscans hparse⟩

/-- The sample with "ac". -/
theorem returns_derivation_ac : ∃ grammar generated tokens stop,
    (Description.readResolved tailText).1 = .ok grammar ∧ generate grammar false = .ok generated ∧
    Meaning.idle.Keeps generated.parser ∧ Meaning.idle.Calm generated.parser ∧
    generated.ScansTo "ac" tokens stop ∧
    grammar.Derives [.nonTerminal grammar.start] (tokens.map Token.terminal) ∧
    ∃ tree, (generated.parse Meaning.idle [] "ac").result = .ok tree ∧
      grammar.Grows [.nonTerminal grammar.start] [tree] tokens := by
  obtain ⟨grammar, generated, hread, hgenerate, -, -, hscans, s, b, hs, hb, hsymbols, hbsymbols⟩ :=
    exists_tail
  have hderives : grammar.Derives [.nonTerminal grammar.start] [.text "a", .text "c"] := by
    have hfirst : [.terminal (.text "a"), .nonTerminal "b"] ∈ s.alternatives.map Alternative.symbols := by
      rw [hsymbols]
      exact List.mem_cons_self
    have hsecond : [.terminal (.text "c")] ∈ b.alternatives.map Alternative.symbols := by
      rw [hbsymbols]
      exact List.mem_cons_self
    obtain ⟨first, hfirst, hfirstsymbols⟩ := List.mem_map.mp hfirst
    obtain ⟨second, hsecond, hsecondsymbols⟩ := List.mem_map.mp hsecond
    refine Grammar.derives_nonTerminal_iff.mpr ⟨s, hs, first, hfirst, ?_⟩
    rw [hfirstsymbols]
    refine .terminal (by simp) (Grammar.derives_nonTerminal_iff.mpr ⟨b, hb, second, hsecond, ?_⟩)
    rw [hsecondsymbols]
    exact .terminal (by simp) .nil
  exact ⟨grammar, generated, _, _, hread, hgenerate, Meaning.idle_keeps _, Meaning.idle_calm _, hscans,
    hderives, returns_derivation hread hgenerate (Meaning.idle_keeps _) (Or.inl (Meaning.idle_calm _))
      hscans hderives⟩

/-! ## Recursion -/

/-- The calls of a parser on an input end: at some depth the run is not cut off. -/
def Generated.Ends (meaning : Meaning V) (generated : Generated) (arguments : List V) (input : String) :
    Prop :=
  ∃ depth, ∀ scanner after, generated.scanner input = .ok scanner →
    generated.parser.run meaning depth arguments scanner ≠ .error .tooDeep after

/-- The calls of rules on the tokens of an input come, at its end, to a rule that they come back to there.
No token is read between. -/
def Generated.Loops (grammar : Grammar) (generated : Generated) (input : String) : Prop :=
  ∃ tokens stop first rule, generated.ScansTo input tokens stop ∧
    grammar.rule? grammar.start = some first ∧
    ReflTransGen grammar.Calls (first, tokens ++ [stop]) (rule, [stop]) ∧
    TransGen grammar.Calls (rule, [stop]) (rule, [stop])

theorem Generated.ends_of_parse
    (h : (generated.parse meaning arguments input).result ≠ .error .tooDeep) :
    generated.Ends meaning arguments input := by
  refine ⟨generated.depthFor input, fun scanner after hscanner hrun => h ?_⟩
  exact (Generated.parse_eq_error (by simp)).mpr ⟨scanner, after, hscanner, hrun⟩

/-- Calls of rules that come back do so at the end of the input. -/
theorem Emission.loops_of_tooDeep (h : Emission grammar analysis generated)
    (hparse : (generated.parse meaning arguments input).result = .error .tooDeep) :
    generated.Loops grammar input := by
  obtain ⟨scanner, after, hscanner, hrun⟩ := (Generated.parse_eq_error (by simp)).mp hparse
  obtain ⟨ahead, hahead, hlength⟩ := Generated.exists_ahead hscanner
  obtain ⟨first, hfirst, ⟨rule, left⟩, hreach, hback⟩ := h.recurs_of_tooDeep hahead hlength hrun
  have hmem : rule ∈ grammar.rules := by
    obtain ⟨_, _, hcall⟩ := TransGen.tail'_iff.mp hback
    exact hcall.mem
  obtain ⟨stop, more, rfl, hstop⟩ := Grammar.isEnd_of_calls_back h.predictive hmem hback
  obtain ⟨tokens, rfl, rfl, hscans⟩ :=
    Generated.scansTo_of_suffix hscanner hahead (Grammar.isSuffix_of_reach hreach) hstop
  exact ⟨tokens, stop, first, rule, hscans, hfirst, hreach, hback⟩

theorem Emission.not_ends_of_loops (h : Emission grammar analysis generated)
    (hsettles : meaning.Settles generated.parser) (hloops : generated.Loops grammar input) :
    ¬ generated.Ends meaning arguments input := by
  rintro ⟨depth, hends⟩
  obtain ⟨tokens, stop, first, rule, hscans, hfirst, hreach, hback⟩ := hloops
  have ⟨scanner, _, hscanner, _⟩ := hscans
  obtain ⟨ahead, hahead, -⟩ := Generated.exists_ahead hscanner
  obtain ⟨rfl, -⟩ := (Generated.scansTo_iff hscanner hahead).mp hscans
  obtain ⟨after, hrun⟩ := @tooDeep_of_recurs _ _ _ _ meaning arguments _ _ _ h hsettles hahead hfirst
    ⟨_, hreach, hback⟩ depth
  exact hends scanner after hscanner hrun

/-- A description whose rule `a` calls itself at the end of the input: `b` reads nothing there, because
`s` may be empty and no alternative of `c` is picked. -/
def loopText : String := "s : 'y' a\ns : EPS\na : b a\na : 'z'\nb : s c\nc : 'x'\ns"

/-- This description is read and a parser generated, whose calls come back on "y". -/
theorem exists_loop : ∃ grammar generated, (Description.readResolved loopText).1 = .ok grammar ∧
    generate grammar false = .ok generated ∧ generated.Loops grammar "y" := by
  have hpasses : passes loopText false fun _ generated =>
      (generated.parse Meaning.idle [] "y").isTooDeep := by
    decide +kernel
  obtain ⟨grammar, generated, hread, hgenerate, hcheck⟩ := exists_of_passes hpasses
  obtain ⟨analysis, h⟩ := exists_emission hread hgenerate
  exact ⟨grammar, generated, hread, hgenerate, h.loops_of_tooDeep (Outcome.eq_of_isTooDeep hcheck)⟩

/-- **A run ends, unless it comes, at the end of the input, to a rule that calls itself there without
end**: then, if no action breaks off, it does not end. -/
theorem ends_unless_loops (hread : (Description.readResolved text).1 = .ok grammar)
    (hgenerate : generate grammar main = .ok generated) :
    (¬ generated.Loops grammar input →
      generated.Ends meaning arguments input ∧
        (generated.parse meaning arguments input).result ≠ .error .tooDeep) ∧
    (meaning.Settles generated.parser → generated.Loops grammar input →
      ¬ generated.Ends meaning arguments input) := by
  obtain ⟨analysis, h⟩ := exists_emission hread hgenerate
  refine ⟨fun hloops => ?_, h.not_ends_of_loops⟩
  have hparse : (generated.parse meaning arguments input).result ≠ .error .tooDeep :=
    fun hparse => hloops (h.loops_of_tooDeep hparse)
  exact ⟨Generated.ends_of_parse hparse, hparse⟩

/-- The sample with "ac", whose run ends, and the one that calls itself with "y", whose run does not. -/
theorem ends_unless_loops_ac :
    (∃ grammar generated, (Description.readResolved tailText).1 = .ok grammar ∧
      generate grammar false = .ok generated ∧ ¬ generated.Loops grammar "ac" ∧
      generated.Ends Meaning.idle [] "ac" ∧
      (generated.parse Meaning.idle [] "ac").result ≠ .error .tooDeep) ∧
    ∃ grammar generated, (Description.readResolved loopText).1 = .ok grammar ∧
      generate grammar false = .ok generated ∧ Meaning.idle.Settles generated.parser ∧
      generated.Loops grammar "y" ∧ ¬ generated.Ends Meaning.idle [] "y" := by
  constructor
  · obtain ⟨grammar, generated, hread, hgenerate, hok, -⟩ := exists_tail
    obtain ⟨tree, hparse⟩ := exists_tree_of_isOk hok
    obtain ⟨analysis, h⟩ := exists_emission hread hgenerate
    have hends : generated.Ends Meaning.idle [] "ac" := Generated.ends_of_parse (by rw [hparse]; nofun)
    have hloops : ¬ generated.Loops grammar "ac" :=
      fun hloops => h.not_ends_of_loops (Meaning.idle_settles _) hloops hends
    exact ⟨grammar, generated, hread, hgenerate, hloops, (ends_unless_loops hread hgenerate).1 hloops⟩
  · obtain ⟨grammar, generated, hread, hgenerate, hloops⟩ := exists_loop
    have hsettles := Meaning.idle_settles generated.parser
    exact ⟨grammar, generated, hread, hgenerate, hsettles, hloops,
      (ends_unless_loops hread hgenerate).2 hsettles hloops⟩

/-- On "y" the parser of the sample that calls itself does not end. -/
theorem loop_never_ends : ∃ grammar generated,
    (Description.readResolved loopText).1 = .ok grammar ∧ generate grammar false = .ok generated ∧
    ¬ generated.Ends Meaning.idle [] "y" := by
  obtain ⟨grammar, generated, hread, hgenerate, hloops⟩ := exists_loop
  obtain ⟨analysis, h⟩ := exists_emission hread hgenerate
  exact ⟨grammar, generated, hread, hgenerate, h.not_ends_of_loops (Meaning.idle_settles _) hloops⟩

/-! ## The shape of trees -/

/-- **The leaves of a tree are all the tokens of the input, and a node has the children that the items of
one alternative of its rule make, or none.** -/
theorem tree_covers_input (hread : (Description.readResolved text).1 = .ok grammar)
    (hgenerate : generate grammar main = .ok generated)
    (hparse : (generated.parse meaning arguments input).result = .ok tree) :
    ∃ tokens stop, generated.ScansTo input tokens stop ∧ tree.leaves = tokens.map Token.text ∧
      String.join tree.leaves = input ∧
      ∀ name children, tree.HasNode name children → ∃ rule ∈ grammar.rules,
        (∀ other ∈ grammar.rules, nodeName other.name = name ↔ other = rule) ∧
        (children = [] ∨ ∃ alternative ∈ rule.alternatives,
          List.Forall₂ Item.Makes (alternative.items.filter Item.consumes) children) := by
  obtain ⟨analysis, h⟩ := exists_emission hread hgenerate
  obtain ⟨tokens, stop, hscans, hreads⟩ := h.reads_of_parse hparse
  obtain ⟨front, heq, hleaves⟩ := Grammar.leaves_of_reads hreads
  obtain rfl : tokens = front := List.append_cancel_right heq
  have htexts : tree.leaves = tokens.map Token.text := by
    rw [← hleaves, Tree.leavesAll, Tree.leavesAll, List.append_nil]
  refine ⟨tokens, stop, hscans, htexts, htexts ▸ hscans.join_eq, fun name children hnode => ?_⟩
  obtain ⟨rule, hrule, rfl, hchildren⟩ :=
    Grammar.nodes_of_reads hreads tree List.mem_cons_self name children hnode
  refine ⟨rule, hrule, fun other hother => ⟨h.eq_of_nodeName hother hrule, ?_⟩, hchildren⟩
  rintro rfl
  rfl

/-- The sample with "ac". -/
theorem tree_covers_input_ac : ∃ grammar generated tree,
    (Description.readResolved tailText).1 = .ok grammar ∧ generate grammar false = .ok generated ∧
    (generated.parse Meaning.idle [] "ac").result = .ok tree ∧
    ∃ tokens stop, generated.ScansTo "ac" tokens stop ∧ tree.leaves = tokens.map Token.text ∧
      String.join tree.leaves = "ac" ∧
      ∀ name children, tree.HasNode name children → ∃ rule ∈ grammar.rules,
        (∀ other ∈ grammar.rules, nodeName other.name = name ↔ other = rule) ∧
        (children = [] ∨ ∃ alternative ∈ rule.alternatives,
          List.Forall₂ Item.Makes (alternative.items.filter Item.consumes) children) := by
  obtain ⟨grammar, generated, hread, hgenerate, hok, -⟩ := exists_tail
  obtain ⟨tree, hparse⟩ := exists_tree_of_isOk hok
  exact ⟨grammar, generated, tree, hread, hgenerate, hparse, tree_covers_input hread hgenerate hparse⟩

end AttributeGrammar.Synthesis
