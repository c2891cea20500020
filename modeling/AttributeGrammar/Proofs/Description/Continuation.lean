import AttributeGrammar.Proofs.Description.Blocks
import AttributeGrammar.Proofs.Description.Meaning

/-!
# Descriptions behind a block

Actions that were read before are in the way of what follows only where their names are declared again.

* `Grammar.behind`, `Progress.behind` — a grammar, and a progress, with earlier actions before its own.
* `Progress.Avoids` — no earlier action is declared again; what avoids them now has always avoided them.
* `Progress.next?_behind`, `describe?_behind` — lines behind earlier actions, one of them and all of them.
* `read_block` — **a block in front of a description adds its action to what the description comes to**.
-/

set_option autoImplicit false

namespace AttributeGrammar

/-- The grammar with earlier actions before its own. -/
def Grammar.behind (earlier : List Action) (grammar : Grammar) : Grammar :=
  { grammar with actions := earlier ++ grammar.actions }

theorem Grammar.action?_eq_none {grammar : Grammar} {name : String} :
    grammar.action? name = none ↔ ∀ action ∈ grammar.actions, action.name ≠ name := by
  simp [action?]

namespace Description

open Text

variable {earlier : List Action} {grammar : Grammar} {pending : OpenAction} {line : List Char}
    {ls : List (List Char)}

namespace Progress

variable {progress after : Progress}

def behind (earlier : List Action) (progress : Progress) : Progress :=
  ⟨progress.grammar.behind earlier, progress.mode⟩

/-- No earlier action has been declared again, nor is its code being read. -/
structure Avoids (earlier : List Action) (progress : Progress) : Prop where
  declared : ∀ action ∈ earlier, progress.grammar.action? action.name = none
  pending : ∀ pending, progress.mode = .action pending → ∀ action ∈ earlier, action.name ≠ pending.name

theorem avoids_declarations :
    Avoids earlier ⟨grammar, .declarations⟩ ↔ ∀ action ∈ earlier, grammar.action? action.name = none :=
  ⟨fun h => h.declared, fun h => ⟨h, fun _ hmode => by cases hmode⟩⟩

theorem avoids_action :
    Avoids earlier ⟨grammar, .action pending⟩ ↔
      (∀ action ∈ earlier, grammar.action? action.name = none) ∧
        ∀ action ∈ earlier, action.name ≠ pending.name := by
  constructor
  · exact fun h => ⟨h.declared, h.pending pending rfl⟩
  · rintro ⟨hdeclared, hpending⟩
    refine ⟨hdeclared, fun other hother => ?_⟩
    cases hother
    exact hpending

theorem avoids_started {start : String} :
    Avoids earlier ⟨grammar, .started start⟩ ↔ ∀ action ∈ earlier, grammar.action? action.name = none :=
  ⟨fun h => h.declared, fun h => ⟨h, fun _ hmode => by cases hmode⟩⟩

/-! ## One more line -/

theorem action?_behind_eq_none {name : String} :
    (grammar.behind earlier).action? name = none ↔
      (∀ action ∈ earlier, action.name ≠ name) ∧ grammar.action? name = none := by
  simp only [Grammar.action?_eq_none, Grammar.behind, List.forall_mem_append]

/-- The action that a block adds avoids the earlier ones if these have other names. -/
theorem avoids_addAction {action : Action} :
    Avoids earlier ⟨{ grammar with actions := grammar.actions ++ [action] }, .declarations⟩ ↔
      (∀ other ∈ earlier, grammar.action? other.name = none) ∧ ∀ other ∈ earlier, other.name ≠ action.name := by
  simp only [avoids_declarations, Grammar.action?_eq_none, List.forall_mem_append, List.forall_mem_singleton]
  constructor
  · exact fun h => ⟨fun other hother => (h other hother).1, fun other hother => (h other hother).2.symm⟩
  · exact fun h other hother => ⟨h.1 other hother, (h.2 other hother).symm⟩

theorem avoids_of_code? (h : code? grammar pending line = some after) :
    Avoids earlier after ↔ Avoids earlier ⟨grammar, .action pending⟩ := by
  unfold code? at h
  rw [avoids_action]
  split at h
  · cases h
    exact avoids_action
  · split at h
    · cases h
      exact avoids_addAction
    · cases h

/-- Code is read behind earlier actions, unless one of them has the name of the action. -/
theorem code?_behind (havoids : Avoids earlier ⟨grammar, .action pending⟩) :
    code? (grammar.behind earlier) pending line = (code? grammar pending line).map (behind earlier) := by
  unfold code?
  cases followBraces pending.depth pending.code line with
  | unclosed depth code => rfl
  | closed code trailing =>
    have hnew : (grammar.behind earlier).action? pending.name = none ↔ grammar.action? pending.name = none := by
      rw [action?_behind_eq_none]
      exact and_iff_right (havoids.pending pending rfl)
    simp only [hnew]
    split
    · simp only [Option.map_some, behind, Grammar.behind, List.append_assoc]
    · rfl

theorem avoids_of_next? (h : progress.next? line = some after) (hafter : after.Avoids earlier) :
    progress.Avoids earlier := by
  obtain ⟨grammar, _ | pending | start⟩ := progress
  · rw [avoids_declarations]
    simp only [next?] at h
    cases hmeaning : lineMeaning line with
    | blank | start | regex =>
      rw [hmeaning] at h
      cases h
      exact hafter.declared
    | rule rule =>
      rw [hmeaning] at h
      obtain ⟨rules, -, rfl⟩ := Option.map_eq_some_iff.mp h
      exact hafter.declared
    | action name exported code =>
      simp only [hmeaning, follow?] at h
      split at h
      · exact ((avoids_of_code? h).mp hafter).declared
      · cases h
    | unreadable =>
      rw [hmeaning] at h
      cases h
  · exact (avoids_of_code? h).mp hafter
  · simp only [next?] at h
    split at h
    · cases h
      exact avoids_started.mpr hafter.declared
    · cases h

theorem eq_some_behind {found plain : Option Progress} (h : found = plain.map (behind earlier))
    (havoids : ∀ progress, plain = some progress → progress.Avoids earlier) :
    found = some after ↔
      ∃ progress, plain = some progress ∧ progress.Avoids earlier ∧ after = progress.behind earlier := by
  rw [h, Option.map_eq_some_iff]
  constructor
  · rintro ⟨progress, hplain, rfl⟩
    exact ⟨progress, hplain, havoids progress hplain, rfl⟩
  · rintro ⟨progress, hplain, -, rfl⟩
    exact ⟨progress, hplain, rfl⟩

/-- Of what a line between declarations means, only an action can have the name of an earlier one. -/
theorem follow?_behind (havoids : ∀ action ∈ earlier, grammar.action? action.name = none)
    (meaning : LineMeaning) :
    follow? (grammar.behind earlier) meaning = some after ↔
      ∃ plain, follow? grammar meaning = some plain ∧ plain.Avoids earlier ∧ after = plain.behind earlier := by
  cases meaning with
  | blank | regex =>
    refine eq_some_behind rfl fun plain hplain => ?_
    cases hplain
    exact avoids_declarations.mpr havoids
  | start start =>
    refine eq_some_behind rfl fun plain hplain => ?_
    cases hplain
    exact avoids_started.mpr havoids
  | rule rule =>
    refine eq_some_behind (by simp only [follow?, Option.map_map]; rfl) fun plain hplain => ?_
    obtain ⟨rules, -, rfl⟩ := Option.map_eq_some_iff.mp hplain
    exact avoids_declarations.mpr havoids
  | action name exported code =>
    by_cases hname : ∀ action ∈ earlier, action.name ≠ name
    · have hopen : Avoids earlier ⟨grammar, .action ⟨0, name, exported, 1, []⟩⟩ :=
        avoids_action.mpr ⟨havoids, hname⟩
      have hnew : (grammar.behind earlier).action? name = none ↔ grammar.action? name = none := by
        rw [action?_behind_eq_none]
        exact and_iff_right hname
      refine eq_some_behind ?_ fun plain hplain => ?_
      · simp only [follow?, hnew, code?_behind hopen]
        split <;> rfl
      · simp only [follow?] at hplain
        split at hplain
        · exact (avoids_of_code? hplain).mpr hopen
        · cases hplain
    · have hold : ¬(grammar.behind earlier).action? name = none := fun hnone =>
        hname (action?_behind_eq_none.mp hnone).1
      simp only [follow?, if_neg hold, reduceCtorEq, false_iff]
      rintro ⟨plain, hplain, hopen, -⟩
      split at hplain
      · exact hname (avoids_action.mp ((avoids_of_code? hplain).mp hopen)).2
      · cases hplain
  | unreadable => exact eq_some_behind rfl fun plain hplain => by cases hplain

/-- **One more line behind earlier actions** leaves what it leaves without them, if this avoids them. -/
theorem next?_behind (havoids : progress.Avoids earlier) :
    (progress.behind earlier).next? line = some after ↔
      ∃ plain, progress.next? line = some plain ∧ plain.Avoids earlier ∧ after = plain.behind earlier := by
  obtain ⟨grammar, _ | pending | start⟩ := progress
  · exact follow?_behind havoids.declared _
  · exact eq_some_behind (code?_behind havoids) fun plain hplain => (avoids_of_code? hplain).mpr havoids
  · refine eq_some_behind ?_ fun plain hplain => ?_
    · simp only [next?, behind]
      split <;> rfl
    · simp only [next?] at hplain
      split at hplain
      · cases hplain
        exact havoids
      · cases hplain

/-! ## All lines -/

theorem avoids_of_foldlM (h : ls.foldlM next? progress = some after) (hafter : after.Avoids earlier) :
    progress.Avoids earlier := by
  induction ls generalizing progress with
  | nil =>
    cases h
    exact hafter
  | cons line ls ih =>
    obtain ⟨mid, hfirst, hrest⟩ := Option.bind_eq_some_iff.mp h
    exact avoids_of_next? hfirst (ih hrest)

theorem foldlM_next?_behind (havoids : progress.Avoids earlier) :
    ls.foldlM next? (progress.behind earlier) = some after ↔
      ∃ plain, ls.foldlM next? progress = some plain ∧ plain.Avoids earlier ∧ after = plain.behind earlier := by
  induction ls generalizing progress with
  | nil => exact eq_some_behind rfl fun plain hplain => by cases hplain; exact havoids
  | cons line ls ih =>
    rw [List.foldlM_cons, List.foldlM_cons]
    constructor
    · intro h
      obtain ⟨_, hfirst, hrest⟩ := Option.bind_eq_some_iff.mp h
      obtain ⟨mid, hmid, hmidAvoids, rfl⟩ := (next?_behind havoids).mp hfirst
      obtain ⟨plain, hplain, hplainAvoids, rfl⟩ := (ih hmidAvoids).mp hrest
      exact ⟨plain, Option.bind_eq_some_iff.mpr ⟨mid, hmid, hplain⟩, hplainAvoids, rfl⟩
    · rintro ⟨plain, hplain, hplainAvoids, rfl⟩
      obtain ⟨mid, hmid, hrest⟩ := Option.bind_eq_some_iff.mp hplain
      -- Had an earlier action been declared again by the first line, it still would be by all lines.
      have hmidAvoids := avoids_of_foldlM hrest hplainAvoids
      exact Option.bind_eq_some_iff.mpr ⟨_, (next?_behind havoids).mpr ⟨mid, hmid, hmidAvoids, rfl⟩,
        (ih hmidAvoids).mpr ⟨plain, hrest, hplainAvoids, rfl⟩⟩

end Progress

/-- **Lines behind earlier actions** describe what they describe without them, if this declares none of them. -/
theorem describe?_behind {progress : Progress} {described : Grammar} (havoids : progress.Avoids earlier) :
    describe? (progress.behind earlier) ls = some described ↔
      ∃ plain, describe? progress ls = some plain ∧ (∀ action ∈ earlier, plain.action? action.name = none) ∧
        described = plain.behind earlier := by
  simp only [describe?, Option.bind_eq_some_iff, Progress.foldlM_next?_behind havoids]
  constructor
  · rintro ⟨_, ⟨⟨grammar, _ | pending | start⟩, hlines, hplain, rfl⟩, hdescribed⟩
    · cases hdescribed
    · cases hdescribed
    · cases hdescribed
      exact ⟨_, ⟨_, hlines, rfl⟩, hplain.declared, rfl⟩
  · rintro ⟨plain, ⟨⟨grammar, _ | pending | start⟩, hlines, hplain⟩, hnew, rfl⟩
    · cases hplain
    · cases hplain
    · cases hplain
      exact ⟨_, ⟨_, hlines, Progress.avoids_started.mpr hnew, rfl⟩, rfl⟩

/-! ## Blocks in front of descriptions -/

/-- What follows a block is read behind its action. -/
theorem toOption_read_block {header body : String} {name : String} {exported : List Variable}
    (hheader : actionHeader header.toList = .done (name, exported) []) (hbody : Balanced body.toList)
    (rest : String) :
    (read (header ++ body ++ "\x7d\n" ++ rest)).toOption =
      describe? (Progress.behind [⟨name, exported, String.ofList (trim (unixEnds body.toList))⟩]
        ⟨.empty, .declarations⟩) (lines rest.toList) := by
  have htext : (header ++ body ++ "\x7d\n" ++ rest).toList =
      header.toList ++ (body.toList ++ '\x7d' :: (['\n'] ++ rest.toList)) := by
    simp only [String.toList_append, List.append_assoc]
    rfl
  have hend : IsLine ['\n'] [] := isLine_newline withinLine_nil
  have hblock := @readLines_block .empty 0 _ _ _ _ _ _ hheader hbody hend rest.toList
  rw [read_eq, htext, hblock, Progress.codeLine_last rfl]
  exact toOption_readLines_finish _ _ _ _

/-- **A block in front of a description adds its action to what the description comes to.** Whatever its
code is, as long as it closes all the braces that it opens and no others, and its lines end with newlines
alone: the whole is read if and only if the rest is read and does not declare the action, and to the grammar
of the rest with the action before the other ones. -/
theorem read_block {header body : String} {name : String} {exported : List Variable}
    (hheader : actionHeader header.toList = .done (name, exported) []) (hbody : Balanced body.toList)
    (hends : ¬['\r', '\n'] <:+: body.toList) (rest : String) (grammar : Grammar) :
    read (header ++ body ++ "\x7d\n" ++ rest) = .ok grammar ↔
      ∃ tail, read rest = .ok tail ∧ tail.action? name = none ∧
        grammar = { tail with
          actions := ⟨name, exported, String.ofList (trim body.toList)⟩ :: tail.actions } := by
  have hlines := toOption_read_block hheader hbody rest
  rw [unixEnds_eq_self hends] at hlines
  rw [Outcome.eq_ok_iff, hlines, describe?_behind (Progress.avoids_declarations.mpr fun _ _ => rfl),
    ← toOption_read]
  simp only [← Outcome.eq_ok_iff, List.forall_mem_singleton]
  rfl

/-- Code with a blank line, nested braces, and lines that look like a rule, an action and a start symbol. -/
theorem read_block_lookalikes :
    read ("$f[i32 x] \x7b" ++ " if a \x7b\n\nr : 'a'\n$f[] \x7b\x7d\n\x7d\nr\n" ++ "\x7d\n" ++
      "r : 'b' $f\nr") =
      .ok ⟨"r", [{ Rule.new "r" with alternatives := [⟨[.text "b", .action "f"]⟩] }], [],
        [⟨"f", [⟨"i32", "x"⟩], "if a \x7b\n\nr : 'a'\n$f[] \x7b\x7d\n\x7d\nr"⟩]⟩ := by
  have hheader : actionHeader "$f[i32 x] \x7b".toList = .done ("f", [⟨"i32", "x"⟩]) [] := by decide +kernel
  have hbody : Balanced " if a \x7b\n\nr : 'a'\n$f[] \x7b\x7d\n\x7d\nr\n".toList := by decide +kernel
  have hends : ¬['\r', '\n'] <:+: " if a \x7b\n\nr : 'a'\n$f[] \x7b\x7d\n\x7d\nr\n".toList := by decide +kernel
  have hrest : read "r : 'b' $f\nr" =
      .ok ⟨"r", [{ Rule.new "r" with alternatives := [⟨[.text "b", .action "f"]⟩] }], [], []⟩ := by
        decide +kernel
  exact (read_block hheader hbody hends _ _).mpr ⟨_, hrest, rfl, by decide +kernel⟩

end Description

end AttributeGrammar
