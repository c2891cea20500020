import AttributeGrammar.Proofs.Synthesis.Recursion

/-!
# Runs of a whole parser

* `Generated.ScansTo` — an input scans completely into some tokens and the end.
* `Generated.scansTo_iff` — these are the tokens that the scanner has ahead.
* `Emission.reads_of_parse` — a parser that returns a tree has read the input to its end.
* `Emission.recurs_of_tooDeep`, `Emission.tooDeep_of_recurs` — a run is cut off at the depth for its
  input, and then at every depth, exactly when calls of rules come back.
* `Emission.returns_or_panics` — derived tokens give a tree, unless an action breaks off.
-/

set_option autoImplicit false

namespace AttributeGrammar

namespace Synthesis

variable {V : Type} {grammar : Grammar} {analysis : Analysis} {generated : Generated}
  {meaning : Meaning V} {arguments : List V} {input : String} {scanner after : Scanner}
  {ahead tokens : List Token} {stop : Token} {tree : Tree V} {depth : Nat} {rule : Rule}

/-! ## The scanner of a parser -/

/-- The input scans completely into the tokens, and then comes its end. -/
def Generated.ScansTo (generated : Generated) (input : String) (tokens : List Token) (stop : Token) :
    Prop :=
  ∃ scanner after, generated.scanner input = .ok scanner ∧
    scanner.readAll = (tokens ++ [stop], none, after) ∧ stop.isEnd

namespace Generated

theorem scanner_spec (h : generated.scanner input = .ok scanner) :
    scanner.tables.Proper ∧ scanner.cursor = ⟨0, input.toList⟩ := by
  obtain ⟨compiled, hcompiled, h⟩ := Outcome.except_bind_eq_ok.mp h
  cases h
  refine ⟨fun regex hregex => ?_, rfl⟩
  obtain ⟨⟨kind, pattern⟩, hmem, hmade⟩ :=
    Outcome.exists_mem_left (Outcome.mapM_eq_ok.mp hcompiled) hregex
  obtain ⟨⟨name, terminal⟩, -, hpair⟩ := List.mem_map.mp hmem
  cases hpair
  dsimp only at hmade
  split at hmade
  · cases hmade
    simp
  · cases hmade

/-- The tokens that a new scanner has ahead are no more than the bytes of the input and the end. -/
theorem exists_ahead (h : generated.scanner input = .ok scanner) :
    ∃ ahead, scanner.Ahead ahead ∧ ahead.length ≤ input.utf8ByteSize + 1 := by
  obtain ⟨ahead, hahead⟩ := scanner.tables.exists_delivers scanner.cursor
  have hlength := hahead.length_le
  rw [(scanner_spec h).2] at hlength
  exact ⟨ahead, hahead, hlength.trans (Nat.succ_le_succ (length_le_utf8ByteSize input))⟩

/-- **An input scans completely into the tokens that its scanner has ahead.** -/
theorem scansTo_iff (h : generated.scanner input = .ok scanner) (hahead : scanner.Ahead ahead) :
    generated.ScansTo input tokens stop ↔ ahead = tokens ++ [stop] ∧ stop.isEnd := by
  obtain ⟨error, after, hread, herror⟩ := Scanner.readAll_of_ahead hahead (scanner_spec h).1
  constructor
  · rintro ⟨other, last, hother, hall, hstop⟩
    cases h.symm.trans hother
    cases hread.symm.trans hall
    exact ⟨rfl, hstop⟩
  · rintro ⟨rfl, hstop⟩
    obtain rfl := herror.mpr ⟨tokens, stop, rfl, hstop⟩
    exact ⟨scanner, after, h, hread, hstop⟩

/-- Tokens that are ahead up to the end are all of them. -/
theorem scansTo_of_suffix (h : generated.scanner input = .ok scanner) (hahead : scanner.Ahead ahead)
    {more : List Token} (hsuffix : stop :: more <:+ ahead) (hstop : stop.isEnd) :
    ∃ tokens, more = [] ∧ ahead = tokens ++ [stop] ∧ generated.ScansTo input tokens stop := by
  obtain ⟨tokens, heq⟩ := hsuffix
  have hmore := hahead.eq_nil_of_isEnd (scanner_spec h).1 heq.symm hstop
  subst hmore
  exact ⟨tokens, rfl, heq.symm, (scansTo_iff h hahead).mpr ⟨heq.symm, hstop⟩⟩

theorem ScansTo.isEnd (h : generated.ScansTo input tokens stop) : stop.isEnd := by
  obtain ⟨_, _, _, _, hstop⟩ := h
  exact hstop

theorem ScansTo.unique {others : List Token} {last : Token} (h : generated.ScansTo input tokens stop)
    (hother : generated.ScansTo input others last) : tokens = others ∧ stop = last := by
  obtain ⟨scanner, _, hscanner, hread, -⟩ := h
  obtain ⟨_, _, hsame, hreadother, -⟩ := hother
  cases hscanner.symm.trans hsame
  have heq := congrArg Prod.fst (hread.symm.trans hreadother)
  simpa using List.append_inj' heq rfl

/-- The tokens that an input scans to make up the input. -/
theorem ScansTo.join_eq (h : generated.ScansTo input tokens stop) :
    String.join (tokens.map Token.text) = input := by
  have ⟨scanner, _, hscanner, _⟩ := h
  obtain ⟨ahead, hahead, -⟩ := exists_ahead hscanner
  obtain ⟨heq, hstop⟩ := (scansTo_iff hscanner hahead).mp h
  obtain ⟨hproper, hcursor⟩ := scanner_spec hscanner
  rw [hahead.text_eq hproper heq hstop, hcursor, String.ofList_toList]

/-- Whether an input scans completely into the tokens. -/
def scans (generated : Generated) (input : String) (tokens : List Token) (stop : Token) : Bool :=
  match generated.scanner input with
  | .error _ => false
  | .ok scanner => scanner.readAll.1 = tokens ++ [stop] && scanner.readAll.2.1 = none && stop.isEnd

instance : Decidable (generated.ScansTo input tokens stop) :=
  decidable_of_iff (generated.scans input tokens stop) <| by
    unfold scans ScansTo
    rcases generated.scanner input with e | scanner
    · simp
    · constructor
      · intro h
        simp only [Bool.and_eq_true, decide_eq_true_eq, and_assoc] at h
        exact ⟨scanner, scanner.readAll.2.2, rfl, Prod.ext h.1 (Prod.ext h.2.1 rfl), h.2.2⟩
      · rintro ⟨_, after, ⟨⟩, hread, hstop⟩
        simp [hread, hstop]

/-! ## Results -/

theorem parse_eq_ok :
    (generated.parse meaning arguments input).result = .ok tree ↔
      ∃ scanner after, generated.scanner input = .ok scanner ∧
        generated.parser.run meaning (generated.depthFor input) arguments scanner = .ok tree after := by
  unfold parse
  rcases hscanner : generated.scanner input with e | scanner
  · simp
  · rcases hrun : generated.parser.run meaning (generated.depthFor input) arguments scanner with
      ⟨tree, after⟩ | ⟨e, after⟩
    · simp [hrun]
    · simp [hrun]

theorem parse_eq_error {e : RunError} (he : ∀ fault, e ≠ .scan fault) :
    (generated.parse meaning arguments input).result = .error e ↔
      ∃ scanner after, generated.scanner input = .ok scanner ∧
        generated.parser.run meaning (generated.depthFor input) arguments scanner = .error e after := by
  unfold parse
  rcases hscanner : generated.scanner input with fault | scanner
  · simpa using fun heq => he fault heq.symm
  · rcases hrun : generated.parser.run meaning (generated.depthFor input) arguments scanner with
      ⟨tree, after⟩ | ⟨e', after⟩
    · simp [hrun]
    · simp [hrun]

/-- A run that is not cut off ends at the depth for its input as it does at any depth that is enough. -/
theorem run_depthFor {outcome : EStateM.Result RunError Scanner (Tree V)}
    (hscanner : generated.scanner input = .ok scanner)
    (hrun : generated.parser.run meaning depth arguments scanner = outcome)
    (henough : ∀ last, outcome ≠ .error .tooDeep last)
    (hparse : (generated.parse meaning arguments input).result ≠ .error .tooDeep) :
    generated.parser.run meaning (generated.depthFor input) arguments scanner = outcome := by
  let deep := max (generated.depthFor input) depth
  have hdeep : generated.parser.run meaning deep arguments scanner = outcome := by
    rcases run_deeper (Nat.le_max_right (generated.depthFor input) depth) arguments scanner with
      heq | ⟨_, last, rfl, heq⟩
    · exact heq.symm.trans hrun
    · exact absurd (hrun.symm.trans heq) (henough last)
  rcases run_deeper (Nat.le_max_left (generated.depthFor input) depth) arguments scanner with
    heq | ⟨_, last, rfl, heq⟩
  · exact heq.trans hdeep
  · exact absurd ((parse_eq_error (by simp)).mpr ⟨scanner, last, hscanner, heq⟩) hparse

end Generated

theorem expects_stop (hstop : stop.isEnd) :
    grammar.Expects stop.terminal [.nonTerminal grammar.start] := by
  rw [Token.terminal_eq_endOfInput.mpr hstop]
  exact Grammar.expects_start

/-! ## Trees -/

/-- **A parser that returns a tree has read the input to its end.** -/
theorem Emission.reads_of_parse (h : Emission grammar analysis generated)
    (hparse : (generated.parse meaning arguments input).result = .ok tree) :
    ∃ tokens stop, generated.ScansTo input tokens stop ∧
      grammar.Reads [.nonTerminal grammar.start] (tokens ++ [stop]) [tree] [stop] := by
  obtain ⟨scanner, after, hscanner, hrun⟩ := Generated.parse_eq_ok.mp hparse
  obtain ⟨ahead, hahead, -⟩ := Generated.exists_ahead hscanner
  obtain ⟨node, fields, children, stop, more, hnode, rfl, hstop, hvisit⟩ := visit_of_run hahead hrun
  obtain ⟨rule, hrule, hstart⟩ := h.start_eq
  have hreads := h.reads_of_visit hrule (hstart ▸ hnode) hvisit fields
  obtain ⟨tokens, rfl, rfl, hscans⟩ :=
    Generated.scansTo_of_suffix hscanner hahead hreads.isSuffix hstop
  exact ⟨tokens, stop, hscans, hreads⟩

/-! ## Runs that are cut off -/

theorem Run.scan_eq_error {α : Type} {computation : Scan α} {e : RunError}
    (h : Run.scan computation scanner = .error e after) : ∃ fault, e = .scan fault := by
  unfold Run.scan at h
  split at h
  · cases h
  · cases h
    exact ⟨_, rfl⟩

/-- A run is cut off in its start rule. -/
theorem run_eq_tooDeep {code : ParserCode} :
    code.run meaning depth arguments scanner = .error .tooDeep after ↔
      ∃ node, code.node? code.start = some node ∧
        parseNode meaning code depth node (node.newFields meaning arguments) scanner =
          .error .tooDeep after := by
  constructor
  · intro h
    rcases Outcome.bind_eq_error.mp h with hnode | ⟨node, mid, hnode, h₁⟩
    · obtain ⟨name, hname⟩ := (Run.quiet_declared code.start (code.node? code.start)).of_error hnode
      cases hname
    obtain ⟨hfound, rfl⟩ := Run.declared_eq_ok.mp hnode
    rcases Outcome.bind_eq_error.mp h₁ with hparse | ⟨state, last, -, h₂⟩
    · exact ⟨node, hfound, hparse⟩
    rcases Outcome.bind_eq_error.mp h₂ with hend | ⟨_, _, -, hreturn⟩
    · obtain ⟨fault, hfault⟩ := Run.scan_eq_error hend
      cases hfault
    · cases hreturn
  · rintro ⟨node, hnode, hparse⟩
    refine Outcome.bind_eq_error.mpr (Or.inr ⟨node, scanner, Run.declared_eq_ok.mpr ⟨hnode, rfl⟩, ?_⟩)
    exact Outcome.bind_eq_error.mpr (Or.inl hparse)

/-- The depth for an input is at least the number of places. -/
theorem Generated.places_le_depthFor (hlength : ahead.length ≤ input.utf8ByteSize + 1) :
    generated.parser.nodes.length * (ahead.length + 1) ≤ generated.depthFor input := by
  unfold depthFor
  rw [Nat.mul_comm]
  exact Nat.mul_le_mul (by omega) (Nat.le_succ _)

namespace Emission

/-- **A run that is cut off at the depth for its input has calls of rules that come back.** -/
theorem recurs_of_tooDeep (h : Emission grammar analysis generated) (hahead : scanner.Ahead ahead)
    (hlength : ahead.length ≤ input.utf8ByteSize + 1)
    (hrun : generated.parser.run meaning (generated.depthFor input) arguments scanner =
      .error .tooDeep after) :
    ∃ rule, grammar.rule? grammar.start = some rule ∧ grammar.Recurs (rule, ahead) := by
  obtain ⟨node, hnode, hparse⟩ := run_eq_tooDeep.mp hrun
  obtain ⟨path, hpath, hchain⟩ := path_of_tooDeep hahead hparse
  have hdiverges : generated.parser.Diverges (node, ahead) := by
    refine ParserCode.diverges_of_path (List.mem_of_find?_eq_some hnode) hchain ?_
    rw [hpath]
    exact Generated.places_le_depthFor hlength
  obtain ⟨rule, hrule, hstart⟩ := h.start_eq
  exact ⟨rule, hrule, (h.diverges_iff (h.placeOf_of_rule? hrule (hstart ▸ hnode) ahead)).mp hdiverges⟩

/-- **Where calls of rules come back, a run is cut off at every depth**, if all actions settle. -/
theorem tooDeep_of_recurs (h : Emission grammar analysis generated)
    (hsettles : meaning.Settles generated.parser) (hahead : scanner.Ahead ahead)
    (hrule : grammar.rule? grammar.start = some rule) (hrecurs : grammar.Recurs (rule, ahead))
    (depth : Nat) :
    ∃ after, generated.parser.run meaning depth arguments scanner = .error .tooDeep after := by
  obtain ⟨_, hsame, hstart⟩ := h.start_eq
  cases hrule.symm.trans hsame
  obtain ⟨node, hnode, -⟩ := h.exists_node hrule
  have hdiverges : generated.parser.Diverges (node, ahead) :=
    (h.diverges_iff (h.placeOf_of_rule? hrule hnode ahead)).mpr hrecurs
  have hmem : node ∈ generated.parser.nodes := List.mem_of_find?_eq_some hnode
  obtain ⟨after, hparse⟩ := stuck_of_diverges h.closed hsettles depth hmem hdiverges
    (node.newFields meaning arguments) scanner (node.names_newFields meaning arguments) hahead
  exact ⟨after, run_eq_tooDeep.mpr ⟨node, hstart ▸ hnode, hparse⟩⟩

/-! ## Derived tokens -/

/-- Some depth is enough for tokens that are derived, if all actions settle. -/
theorem exists_depth_of_derives (h : Emission grammar analysis generated)
    (hsettles : meaning.Settles generated.parser)
    (hderives : grammar.Derives [.nonTerminal grammar.start] (tokens.map Token.terminal))
    (hstop : stop.isEnd) (hahead : scanner.Ahead (tokens ++ [stop])) :
    ∃ depth tree after, generated.parser.run meaning depth arguments scanner = .ok tree after := by
  obtain ⟨trees, hreads⟩ :=
    @Grammar.reads_of_derives _ _ Unit _ hderives tokens [] stop rfl (expects_stop hstop)
  obtain ⟨rule, hrule, hstart⟩ := h.start_eq
  obtain ⟨node, hnode, -⟩ := h.exists_node hrule
  obtain ⟨children, hvisit⟩ := h.visit_of_reads hrule hnode hreads
  obtain ⟨depth, hparses⟩ :=
    parses_of_visit h.closed hsettles (List.mem_of_find?_eq_some hnode) hvisit
  obtain ⟨state, mid, hparse, -, hmid⟩ := hparses (node.newFields meaning arguments) scanner
    (node.names_newFields meaning arguments) hahead
  rcases expectEnd_spec hmid with ⟨_, _, after, -, -, hend⟩ | ⟨-, hnot⟩
  · refine ⟨depth, .node node.name state.fields state.children, after, ?_⟩
    refine Outcome.bind_eq_ok.mpr ⟨node, scanner, Run.declared_eq_ok.mpr ⟨hstart ▸ hnode, rfl⟩, ?_⟩
    refine Outcome.bind_eq_ok.mpr ⟨state, mid, hparse, ?_⟩
    exact Outcome.bind_eq_ok.mpr ⟨(), after, hend, rfl⟩
  · exact absurd hstop (hnot stop rfl)

/-- **Tokens that are derived give a tree at the depth for the input**, if all actions settle. -/
theorem exists_run_of_derives (h : Emission grammar analysis generated)
    (hsettles : meaning.Settles generated.parser)
    (hderives : grammar.Derives [.nonTerminal grammar.start] (tokens.map Token.terminal))
    (hstop : stop.isEnd) (hahead : scanner.Ahead (tokens ++ [stop]))
    (hlength : (tokens ++ [stop]).length ≤ input.utf8ByteSize + 1) :
    ∃ tree after,
      generated.parser.run meaning (generated.depthFor input) arguments scanner = .ok tree after := by
  obtain ⟨enough, tree, after, hrun⟩ :=
    @exists_depth_of_derives _ _ _ _ meaning arguments _ _ _ h hsettles hderives hstop hahead
  have hdeep := (run_deeper (Nat.le_max_right (generated.depthFor input) enough) arguments).of_ok hrun
  refine ⟨tree, after, ?_⟩
  -- A run that is cut off at the depth for the input would be cut off at `enough`, too.
  rcases run_deeper (Nat.le_max_left (generated.depthFor input) enough) arguments scanner with
    heq | ⟨_, last, rfl, heq⟩
  · exact heq.trans hdeep
  · obtain ⟨rule, hrule, hrecurs⟩ := h.recurs_of_tooDeep hahead hlength heq
    obtain ⟨_, hcut⟩ := h.tooDeep_of_recurs hsettles hahead hrule hrecurs enough
    cases hrun.symm.trans hcut

/-- **Tokens that are derived give a tree, or an action breaks off.** -/
theorem returns_or_panics (h : Emission grammar analysis generated)
    (hkeeps : meaning.Keeps generated.parser)
    (hderives : grammar.Derives [.nonTerminal grammar.start] (tokens.map Token.terminal))
    (hscans : generated.ScansTo input tokens stop) :
    (∃ tree, (generated.parse meaning arguments input).result = .ok tree) ∨
      ∃ cause, (generated.parse meaning arguments input).result = .error (.panic cause) := by
  have ⟨scanner, _, hscanner, _⟩ := hscans
  obtain ⟨ahead, hahead, hlength⟩ := Generated.exists_ahead hscanner
  obtain ⟨rfl, hstop⟩ := (Generated.scansTo_iff hscanner hahead).mp hscans
  obtain ⟨tree, after, hrun⟩ := @exists_run_of_derives _ _ _ _ meaning.total arguments _ _ _ _ h
    (Meaning.settles_total hkeeps) hderives hstop hahead hlength
  rcases run_within meaning.within_total (Nat.le_refl (generated.depthFor input)) (Or.inl rfl) arguments
    scanner with heq | ⟨_, last, ⟨cause, rfl⟩, heq⟩
  · exact Or.inl ⟨tree, Generated.parse_eq_ok.mpr ⟨scanner, after, hscanner, heq.trans hrun⟩⟩
  · exact Or.inr ⟨cause, (Generated.parse_eq_error (by simp)).mpr ⟨scanner, last, hscanner, heq⟩⟩

/-- **Tokens that are derived give a tree**, if no action breaks off. -/
theorem returns_of_derives (h : Emission grammar analysis generated)
    (hkeeps : meaning.Keeps generated.parser)
    (hcalm : meaning.Calm generated.parser ∨
      ∀ cause, (generated.parse meaning arguments input).result ≠ .error (.panic cause))
    (hderives : grammar.Derives [.nonTerminal grammar.start] (tokens.map Token.terminal))
    (hscans : generated.ScansTo input tokens stop) :
    ∃ tree, (generated.parse meaning arguments input).result = .ok tree := by
  rcases hcalm with hcalm | hquiet
  · have ⟨scanner, _, hscanner, _⟩ := hscans
    obtain ⟨ahead, hahead, hlength⟩ := Generated.exists_ahead hscanner
    obtain ⟨rfl, hstop⟩ := (Generated.scansTo_iff hscanner hahead).mp hscans
    obtain ⟨tree, after, hrun⟩ := @exists_run_of_derives _ _ _ _ meaning arguments _ _ _ _ h
      (Meaning.settles_of_calm hkeeps hcalm) hderives hstop hahead hlength
    exact ⟨tree, Generated.parse_eq_ok.mpr ⟨scanner, after, hscanner, hrun⟩⟩
  · rcases h.returns_or_panics hkeeps hderives hscans with hreturns | ⟨cause, hpanics⟩
    · exact hreturns
    · exact absurd hpanics (hquiet cause)

end Emission

end Synthesis

end AttributeGrammar
