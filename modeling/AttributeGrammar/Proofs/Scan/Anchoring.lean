import AttributeGrammar.Proofs.Pattern.Closing
import AttributeGrammar.Proofs.Pattern.Matching
import AttributeGrammar.Proofs.Scan.Longest

/-!
# Where matches start

A scanner searches with patterns that were put behind an anchor, between parentheses.

* `Regex.parse?_ofToken` — of a pattern that is well-formed by itself this makes an anchored expression.
* `Pattern.isSome_compile?` — such a pattern is not too large by itself, either.
* `Pattern.matches_of_compileToken?` — its matches start at the cursor.
* `Scanner.next_matches` — a token of a regex terminal is matched by its pattern, if that is well-formed by
  itself.
* `Scanner.next_skips` — a pattern that is not can escape the anchor.
-/

set_option autoImplicit false

namespace AttributeGrammar

open Pattern

variable {pattern : String} {regex whole : Regex} {text : List Char}

theorem Pattern.ofToken_eq (pattern : String) :
    ofToken pattern = '^' :: '(' :: '?' :: ':' :: (pattern.toList ++ [')']) := rfl

/-- The anchor and the opening of the group are read first. -/
theorem Pattern.patternLoop?_ofToken (pattern : String) (fuel : Nat) :
    patternLoop? (fuel + 2) [] ⟨.initial, false, [], []⟩ [] (ofToken pattern) =
      patternLoop? fuel [] ⟨.initial, false, [], []⟩ [⟨.initial, false, [], [.atom (.assert .textStart) 0]⟩]
        (pattern.toList ++ [')']) := rfl

/-- Behind the anchor stands the pattern, if it is well-formed by itself, in its expression and in its form. -/
theorem Pattern.parse?_ofToken {piece made : Piece} (h : parse? pattern.toList = some piece)
    (hmade : parse? (ofToken pattern) = some made) :
    made.regex = .seq (.assert .textStart) piece.regex ∧
      made.form = .sequence [.look .textStart, piece.form] := by
  obtain ⟨read, hread, hpiece⟩ := Option.bind_eq_some_iff.mp h
  obtain ⟨whole, hwhole, hlimit⟩ := Option.bind_eq_some_iff.mp hmade
  have hlength : (ofToken pattern).length + 1 = (pattern.toList.length + 4) + 2 := by
    rw [ofToken_eq]
    simp
  rw [hlength, patternLoop?_ofToken] at hwhole
  have hclosed := closes_patternLoop? (closes_append pattern.toList) (by omega) hread hwhole rfl
  subst hclosed
  dsimp only at hpiece hlimit
  split at hpiece
  · cases hpiece
  split at hlimit
  · cases hlimit
  cases hpiece
  cases hlimit
  exact ⟨rfl, rfl⟩

/-- **Behind the anchor stands the expression of the pattern**, if the pattern is well-formed by itself. -/
theorem Regex.parse?_ofToken (h : Regex.parse? pattern.toList = some regex)
    (hwhole : Regex.parse? (ofToken pattern) = some whole) : whole = .seq (.assert .textStart) regex := by
  obtain ⟨piece, hpiece, rfl⟩ := Option.map_eq_some_iff.mp h
  obtain ⟨made, hmade, rfl⟩ := Option.map_eq_some_iff.mp hwhole
  exact (Pattern.parse?_ofToken hpiece hmade).1

/-! ## Sizes behind an anchor -/

namespace Pattern.Form

variable (direction : Direction)

/-- Literals that become one keep their size. -/
theorem sizes_glue (form : Form) (rest : List Form) :
    sizes direction (glue form rest) = form.size direction + sizes direction rest := by
  unfold glue
  split
  · simp only [sizes, size, bytes, List.flatMap_append, List.length_append, Nat.mul_add, Nat.add_assoc]
  · simp only [sizes]

theorem sizes_foldr_glue (forms : List Form) :
    sizes direction (forms.foldr glue []) = sizes direction forms := by
  induction forms with
  | nil => rfl
  | cons form forms ih => rw [List.foldr_cons, sizes_glue, ih, sizes]

/-- The elements of a form are as large as the form, except that the empty one has none. -/
theorem size_le_sizes_parts (form : Form) : form.size direction ≤ stateSize + sizes direction form.parts := by
  cases form <;> simp only [parts, sizes, size] <;> omega

/-- Behind an anchor the elements of a form are compiled one after the other. -/
theorem size_anchored (form : Form) :
    (sequence [.look .textStart, form]).size direction = stateSize + sizes direction form.parts := by
  have hglued : [Form.look .textStart, form].flatMap parts = .look .textStart :: form.parts := by
    simp [parts]
  rw [← sizes_foldr_glue, sequence, hglued, List.foldr_cons]
  cases form.parts.foldr glue [] with
  | nil => rfl
  | cons part rest => rfl

/-- A form that is too large is too large behind an anchor. -/
theorem isTooLarge_anchored {form : Form} (h : form.isTooLarge) :
    (sequence [.look .textStart, form]).isTooLarge := by
  simp only [isTooLarge, List.any_eq_true, decide_eq_true_eq] at h ⊢
  obtain ⟨direction, hmem, hlimit⟩ := h
  have hle := size_le_sizes_parts direction form
  rw [← size_anchored] at hle
  exact ⟨direction, hmem, by omega⟩

end Pattern.Form

/-- A pattern that is well-formed by itself is accepted by itself when it is accepted behind an anchor. -/
theorem Pattern.isSome_compile? (h : Regex.parse? pattern.toList = some regex) {compiled : Compiled}
    (hcompiled : compileToken? pattern = some compiled) : (compile? pattern.toList).isSome := by
  obtain ⟨piece, hpiece, -⟩ := Option.map_eq_some_iff.mp h
  obtain ⟨made, hmade, hsize⟩ := Option.bind_eq_some_iff.mp hcompiled
  dsimp only at hsize
  split at hsize
  · cases hsize
  rename_i hlimit
  rw [(parse?_ofToken hpiece hmade).2] at hlimit
  have hsmall : ¬ piece.form.isTooLarge := fun hlarge => hlimit (Form.isTooLarge_anchored hlarge)
  simp only [compile?, hpiece, Option.bind_eq_bind, Option.bind_some, hsmall]
  rfl

/-- **Matches of a pattern that is well-formed by itself start at the cursor.** -/
theorem Pattern.matches_of_compileToken? (h : Regex.parse? pattern.toList = some regex) {compiled : Compiled}
    (hcompiled : compileToken? pattern = some compiled) {stop : Nat}
    (hend : compiled.matchEnd? text = some stop) :
    regex.Matches text 0 stop := by
  obtain ⟨whole, hwhole, start, hstart, hmatches⟩ := exists_matches hcompiled hend
  obtain rfl := Regex.parse?_ofToken h hwhole
  obtain ⟨_, ⟨rfl, hanchor⟩, hmatches⟩ := hmatches
  cases start with
  | zero => exact hmatches
  | succ start =>
    have hsome : text[start]? = some text[start] := List.getElem?_eq_getElem hstart
    simp [Assertion.holds, charBefore?, hsome] at hanchor

/-- A token of a regex terminal is the longest match of the patterns. -/
theorem Tables.longestRegex_of_longest? {tables : Tables} {name : String} {length : Nat}
    (h : tables.longest? text = some (.regex name, length)) :
    0 < length ∧ tables.longestRegex text = (.regex name, length) := by
  have hpos := longest?_pos h
  simp only [longest?] at h
  split at h
  · exact ⟨hpos, Option.some.inj h⟩
  · split at h
    · cases h
    · cases h

namespace Scanner

variable {input : String} {literals : List String} {regexes : List (Kind × String)} {made after : Scanner}
  {token : Token} {name : String}

/-- **A token of a regex terminal is the match of a pattern**: from every state of a scanner, a token of
such a kind is the text at the cursor up to the end of a match of a pattern that was registered under the
kind. If this pattern is well-formed by itself, it is accepted by itself, and it matches exactly the text of
the token, at the cursor. -/
theorem next_matches (hnew : new input literals regexes = .ok made) (calls : List Call)
    (hnext : next (made.run calls).2 = .ok token after) (hkind : token.kind = .regex name) :
    ∃ pattern, (token.kind, pattern) ∈ regexes ∧
      token.text.toList <+: (made.run calls).2.cursor.rest ∧ token.position = (made.run calls).2.position ∧
      Pattern.MatchEnds pattern (made.run calls).2.cursor.rest token.text.utf8ByteSize ∧
      ∀ regex, Regex.parse? pattern.toList = some regex → (Pattern.compile? pattern.toList).isSome ∧
        regex.Matches (made.run calls).2.cursor.rest 0 token.text.toList.length := by
  have hregisters := registers_of_new hnew
  rw [← run_tables made calls] at hregisters
  generalize (made.run calls).2 = scanner at hnext hregisters ⊢
  rcases scanner.next_cases with ⟨-, hstop⟩ | ⟨-, -, e, hfail⟩ | ⟨kind, length, hrest, hlongest, htoken⟩
  · cases hstop.symm.trans hnext
    cases hkind
  · cases hfail.symm.trans hnext
  · cases htoken.symm.trans hnext
    obtain rfl : kind = .regex name := hkind
    have hlength := Tables.longest?_le hlongest
    have htake := List.length_take_of_le hlength
    obtain ⟨hpos, hfound⟩ := Tables.longestRegex_of_longest? hlongest
    obtain ⟨index, pattern, hindex, hends, -⟩ := hregisters.exists_first (by rw [hfound]; exact hpos)
    rw [hfound] at hindex hends
    refine ⟨pattern, List.mem_of_getElem? hindex, ?_, rfl, ?_, fun regex hregex => ?_⟩
    · rw [String.toList_ofList]
      exact List.take_prefix length _
    · rw [← utf8Length_eq]
      exact hends
    · obtain ⟨compiled, stop, hcompiled, hstop, hbytes⟩ := hends
      have hmade : compileToken? (Kind.regex name, pattern).2 = some (Kind.regex name, compiled).2 := hcompiled
      have hend := (Tables.Registers.matchEnds_iff hmade hlength).mp ⟨compiled, stop, hcompiled, hstop, hbytes⟩
      rw [String.toList_ofList, htake]
      exact ⟨Pattern.isSome_compile? hregex hcompiled, Pattern.matches_of_compileToken? hregex hcompiled hend⟩

/-- Reading the first token of an input. -/
theorem exists_next (h : (new input literals regexes).toOption.bind next.run' = some token) :
    ∃ made after, new input literals regexes = .ok made ∧ next made = .ok token after := by
  obtain ⟨made, hmade, htoken⟩ := Option.bind_eq_some_iff.mp h
  rcases hnew : new input literals regexes with e | other
  · rw [hnew] at hmade
    cases hmade
  · rw [hnew] at hmade
    cases hmade
    rcases hnext : next made with ⟨delivered, after⟩ | ⟨e, after⟩
    · delta EStateM.run' EStateM.run at htoken
      rw [hnext] at htoken
      cases htoken
      exact ⟨made, after, rfl, hnext⟩
    · delta EStateM.run' EStateM.run at htoken
      rw [hnext] at htoken
      cases htoken

/-- The first word of an input, which its pattern matches. -/
theorem next_matches_word :
    ∃ made after regex, new "ab1" ["a"] [(.regex "ID", "[a-z]+")] = .ok made ∧
      next made = .ok ⟨.regex "ID", "ab", 0⟩ after ∧ Regex.parse? "[a-z]+".toList = some regex ∧
      regex.Matches ['a', 'b', '1'] 0 2 := by
  obtain ⟨made, after, hnew, hnext⟩ : ∃ made after, new "ab1" ["a"] [(.regex "ID", "[a-z]+")] = .ok made ∧
      next made = .ok ⟨.regex "ID", "ab", 0⟩ after := exists_next (by decide +kernel)
  obtain ⟨regex, hregex⟩ := Option.isSome_iff_exists.mp
    (show (Regex.parse? "[a-z]+".toList).isSome by decide +kernel)
  have hrest : made.cursor.rest = ['a', 'b', '1'] := congrArg Cursor.rest (start_of_new hnew).1
  obtain ⟨pattern, hpattern, -, -, -, hwell⟩ := next_matches hnew [] hnext rfl
  obtain ⟨-, rfl⟩ := Prod.mk.inj (List.mem_singleton.mp hpattern)
  have hmatches := (hwell regex hregex).2
  rw [show (made.run []).2 = made from rfl, hrest] at hmatches
  exact ⟨made, after, regex, hnew, hnext, hregex, hmatches⟩

/-- **A pattern can close the group that it is put into.** The first alternative of what is searched for has
the anchor, the second has not, and the token is not the text that it matches: the pattern is not
well-formed by itself. -/
theorem next_skips :
    ∃ made after, new "xb" [] [(.regex "K", "a)|(?:b")] = .ok made ∧
      next made = .ok ⟨.regex "K", "xb", 0⟩ after ∧
      ¬ ∃ pattern, (.regex "K", pattern) ∈ [(Kind.regex "K", "a)|(?:b")] ∧
        (Pattern.compile? pattern.toList).isSome := by
  obtain ⟨made, after, hnew, hnext⟩ : ∃ made after, new "xb" [] [(.regex "K", "a)|(?:b")] = .ok made ∧
      next made = .ok ⟨.regex "K", "xb", 0⟩ after := exists_next (by decide +kernel)
  refine ⟨made, after, hnew, hnext, ?_⟩
  rintro ⟨pattern, hpattern, hcompiled⟩
  obtain ⟨-, rfl⟩ := Prod.mk.inj (List.mem_singleton.mp hpattern)
  exact absurd hcompiled (by decide +kernel)

end Scanner

end AttributeGrammar
