import AttributeGrammar.Proofs.Analysis.Conflict

/-!
# The passes over the tables end

* `SetTable.Loops` — repeating a pass as long as it reports a change, with no bound on the number of passes.
* `SetTable.Settles` — the loop of a pass ends behind at most so many changes, with a table that a further pass
  leaves as it is; a pass that reports a change enlarges some set, and no pass shrinks one.
* `SetTable.settles_growAll` — so it is where entries grow sets within limits.
* `SetTable.extendAll`, `SetTable.Settles.extendAll` — nothing of this depends on how growth is told, nor on
  whether names with nothing in their set have an entry.
* `Flat.settles_firstPass`, `Flat.settles_followPass` — the two loops.
* `Analysis.settles_tables` — the two loops of the analysis of any grammar.
-/

set_option autoImplicit false

namespace AttributeGrammar

namespace SetTable

variable {α : Type} {pass : SetTable → SetTable × Bool} {table start next last other : SetTable}
  {name : String} {added : TerminalSet} {t : Terminal} {n m cap bound : Nat}

/-! ## Loops -/

/-- Repeating a pass as long as it reports a change leads from one table to another one, behind so many
changes. -/
inductive Loops (pass : SetTable → SetTable × Bool) : Nat → SetTable → SetTable → Prop where
  | stop {table last : SetTable} : pass table = (last, false) → Loops pass 0 table last
  | again {n : Nat} {table next last : SetTable} :
      pass table = (next, true) → Loops pass n next last → Loops pass (n + 1) table last

/-- A loop has one outcome. -/
theorem Loops.unique (h : Loops pass n table last) (h' : Loops pass m table other) :
    n = m ∧ last = other := by
  induction h generalizing m other with
  | stop hpass =>
    cases h' with
    | stop hpass' => simp_all
    | again hpass' _ => simp_all
  | again hpass _ ih =>
    cases h' with
    | stop hpass' => simp_all
    | again hpass' hrest =>
      rw [hpass] at hpass'
      cases hpass'
      obtain ⟨rfl, rfl⟩ := ih hrest
      exact ⟨rfl, rfl⟩

/-- Repetition with a bound that leaves room for the changes of the loop is the loop. -/
theorem Loops.iterate_eq (h : Loops pass n table last) (hbound : n < bound) :
    iterate pass bound table = last := by
  induction h generalizing bound with
  | stop hpass =>
    cases bound with
    | zero => omega
    | succ bound => simp only [iterate, hpass]
  | again hpass _ ih =>
    cases bound with
    | zero => omega
    | succ bound =>
      simp only [iterate, hpass]
      exact ih (by omega)

/-- The last pass of a loop reports no change. -/
theorem Loops.exists_last (h : Loops pass n table last) : ∃ before, pass before = (last, false) := by
  induction h with
  | stop hpass => exact ⟨_, hpass⟩
  | again _ _ ih => exact ih

/-- A loop ends if every change enlarges the volume and `cap` bounds the volumes that occur. -/
theorem exists_loops {P : SetTable → Prop} (names : List String)
    (step : ∀ table, P table → P (pass table).1)
    (grows : ∀ table, (pass table).2 = true → table.volume names < (pass table).1.volume names)
    (capped : ∀ table, P table → table.volume names ≤ cap) (h : P table) :
    ∃ n last, n + table.volume names ≤ cap ∧ Loops pass n table last := by
  -- The room that is left for the volume becomes smaller with every change.
  induction hroom : cap - table.volume names using Nat.strongRecOn generalizing table with
  | ind room ih =>
    have hcap := capped table h
    rcases hpass : pass table with ⟨next, _ | _⟩
    · exact ⟨0, next, by omega, .stop hpass⟩
    · have hnext := step table h
      have hlt := grows table (by rw [hpass])
      simp only [hpass] at hnext hlt
      have hcap' := capped next hnext
      obtain ⟨n, last, hn, hloops⟩ := ih (cap - next.volume names) (by omega) hnext rfl
      exact ⟨n + 1, last, by omega, .again hpass hloops⟩

/-- The tables give every name the same set. -/
def Alike (table other : SetTable) : Prop := ∀ name, table.setOf name = other.setOf name

/-- The loop of a pass ends with `last`, behind at most `bound` changes, and a further pass leaves that as
it is. No pass shrinks a set; one that reports a change enlarges some set, and one that reports none changes
no set. -/
structure Settles (pass : SetTable → SetTable × Bool) (bound : Nat) (start last : SetTable) : Prop where
  ends : ∃ n, Loops pass n start last
  bounded : ∀ {n other}, Loops pass n start other → n ≤ bound ∧ other = last
  fixed : pass last = (last, false)
  below : ∀ table, Below table (pass table).1
  enlarges : ∀ table, (pass table).2 = true →
    ∃ name, (table.setOf name).size < ((pass table).1.setOf name).size
  keeps : ∀ table, (pass table).2 = false → Alike (pass table).1 table

/-! ## Passes in which entries grow sets -/

section

variable {key : α → String} {new : SetTable → α → TerminalSet} {entries : List α}

/-- **The loop of a pass ends if the sets of the keys stay within limits.** -/
theorem settles_growAll {P : SetTable → Prop} (names : List String) (hkeys : ∀ e ∈ entries, key e ∈ names)
    (step : ∀ table, P table → P (growAll key new entries table).1)
    (capped : ∀ table, P table → table.volume names ≤ cap) (h : P start) :
    Settles (growAll key new entries) cap start (iterate (growAll key new entries) (cap + 1) start) := by
  have hkeeps : ∀ table, (growAll key new entries table).2 = false →
      (growAll key new entries table).1 = table := fun table hsame => (growAll_unchanged hsame).1
  have hgrows : ∀ table, (growAll key new entries table).2 = true →
      table.volume names < (growAll key new entries table).1.volume names := by
    intro table hchanged
    obtain ⟨e, he, t, hnot, hin⟩ := growAll_changed hchanged
    exact volume_lt growAll_below (hkeys e he) hnot hin
  obtain ⟨n, last, hn, hloops⟩ := exists_loops names step hgrows capped h
  rw [hloops.iterate_eq (by omega)]
  refine ⟨⟨n, hloops⟩, fun hother => ?_, ?_, fun table => growAll_below, fun table hchanged => ?_,
    fun table hsame name => by rw [hkeeps table hsame]⟩
  · obtain ⟨rfl, rfl⟩ := hother.unique hloops
    exact ⟨by omega, rfl⟩
  · obtain ⟨before, hpass⟩ := hloops.exists_last
    have hsame := hkeeps before (by rw [hpass])
    simp only [hpass] at hsame
    rwa [← hsame] at hpass
  · obtain ⟨e, he, t, hnot, hin⟩ := growAll_changed hchanged
    exact ⟨key e, TerminalSet.size_lt_of_subset (growAll_below (key e)) hin hnot⟩

end

/-! ## Growth told by counting -/

/-- Adds terminals to the set of a name, which has an entry from then on, and tells by counting the members
whether the set has grown. -/
def extend (table : SetTable) (name : String) (added : TerminalSet) : SetTable × Bool :=
  let set := table.setOf name ∪ added
  (table.insert name set, set.size != (table.setOf name).size)

/-- As `growAll`, where each entry extends a set. -/
def extendAll (key : α → String) (new : SetTable → α → TerminalSet) :
    List α → SetTable → SetTable × Bool
  | [], table => (table, false)
  | entry :: entries, table =>
    let (next, grown) := table.extend (key entry) (new table entry)
    let (last, changed) := extendAll key new entries next
    (last, grown || changed)

/-- **Counting finds the growth that comparing finds**, and leaves the same sets. -/
theorem alike_extend (h : Alike table other) :
    Alike (table.grow name added).1 (other.extend name added).1 ∧
      (table.grow name added).2 = (other.extend name added).2 := by
  constructor
  · intro asked
    refine Std.ExtTreeSet.ext_mem fun t => ?_
    simp only [extend]
    rw [mem_grow, setOf_insert, h asked]
    split
    · rename_i heq
      subst heq
      simp [Std.ExtTreeSet.mem_union_iff]
    · rename_i hne
      simp [hne]
  · have hsub : ∀ t ∈ other.setOf name, t ∈ other.setOf name ∪ added := fun t ht =>
      Std.ExtTreeSet.mem_union_iff.mpr (Or.inl ht)
    rcases hgrown : (table.grow name added).2 with _ | _
    · have hall := (grow_unchanged hgrown).2
      have hsame : other.setOf name ∪ added = other.setOf name := by
        refine Std.ExtTreeSet.ext_mem fun t => ?_
        rw [Std.ExtTreeSet.mem_union_iff, ← h name]
        exact or_iff_left_of_imp (hall t)
      simp [extend, hsame]
    · obtain ⟨t, hadded, hnot⟩ := grow_changed hgrown
      have hlt := TerminalSet.size_lt_of_subset hsub
        (Std.ExtTreeSet.mem_union_iff.mpr (Or.inr hadded)) (h name ▸ hnot)
      simp only [extend, bne_iff_ne, ne_eq, eq_comm (a := true)]
      omega

section

variable {key : α → String} {new : SetTable → α → TerminalSet} {entries : List α}

theorem mem_extend_self : name ∈ (table.extend name added).1 := by
  simp [extend]

theorem mem_extend {asked : String} (h : asked ∈ table) : asked ∈ (table.extend name added).1 := by
  simp only [extend, Std.ExtTreeMap.mem_insert]
  exact Or.inr h

/-- Extending a set by what it has changes nothing. -/
theorem extend_eq_self (hname : name ∈ table) (h : ∀ t ∈ added, t ∈ table.setOf name) :
    table.extend name added = (table, false) := by
  have hset : table.setOf name ∪ added = table.setOf name := by
    refine Std.ExtTreeSet.ext_mem fun t => ?_
    rw [Std.ExtTreeSet.mem_union_iff]
    exact or_iff_left_of_imp (h t)
  have hinsert : table.insert name (table.setOf name) = table := by
    refine Std.ExtTreeMap.ext_getElem? fun asked => ?_
    rw [Std.ExtTreeMap.getElem?_insert]
    split
    · rename_i heq
      rw [← Std.LawfulEqCmp.eq_of_compare heq, setOf, Std.ExtTreeMap.getElem?_eq_some_getElem hname,
        Option.getD_some]
    · rfl
  simp [extend, hset, hinsert]

theorem mem_extendAll_of_mem {asked : String} (h : asked ∈ table) :
    asked ∈ (extendAll key new entries table).1 := by
  induction entries generalizing table with
  | nil => exact h
  | cons entry entries ih =>
    simp only [extendAll]
    exact ih (mem_extend h)

/-- Behind a pass every key has an entry. -/
theorem mem_extendAll : ∀ e ∈ entries, key e ∈ (extendAll key new entries table).1 := by
  induction entries generalizing table with
  | nil => simp
  | cons entry entries ih =>
    simp only [extendAll]
    refine List.forall_mem_cons.mpr ⟨?_, ih⟩
    exact mem_extendAll_of_mem mem_extend_self

theorem extendAll_eq_self (hkeys : ∀ e ∈ entries, key e ∈ table)
    (h : ∀ e ∈ entries, ∀ t ∈ new table e, t ∈ table.setOf (key e)) :
    extendAll key new entries table = (table, false) := by
  induction entries with
  | nil => rfl
  | cons entry entries ih =>
    obtain ⟨hkey, hkeys⟩ := List.forall_mem_cons.mp hkeys
    obtain ⟨hentry, hentries⟩ := List.forall_mem_cons.mp h
    simp only [extendAll, extend_eq_self hkey hentry, ih hkeys hentries]
    rfl

variable (hnew : ∀ {table other}, Alike table other → ∀ e, new table e = new other e)

include hnew

theorem alike_extendAll (h : Alike table other) :
    Alike (growAll key new entries table).1 (extendAll key new entries other).1 ∧
      (growAll key new entries table).2 = (extendAll key new entries other).2 := by
  induction entries generalizing table other with
  | nil => exact ⟨h, rfl⟩
  | cons entry entries ih =>
    obtain ⟨hnext, hgrown⟩ := @alike_extend table other (key entry) (new other entry) h
    obtain ⟨hlast, hchanged⟩ := ih hnext
    rw [growAll_cons, hnew h]
    simp only [extendAll]
    exact ⟨hlast, by rw [hgrown, hchanged]⟩

/-- **A loop that tells growth by counting makes the same changes**, and ends with a table that it leaves as it
is, with its entries. -/
theorem exists_loops_extendAll (hloops : Loops (growAll key new entries) n table last)
    (h : Alike table other) : ∃ final, Loops (extendAll key new entries) n other final ∧
      Alike last final ∧ extendAll key new entries final = (final, false) := by
  induction hloops generalizing other with
  | @stop table last hpass =>
    obtain ⟨halike, hchanged⟩ := @alike_extendAll α table other key new entries hnew h
    obtain ⟨hsame, hclosed⟩ := growAll_unchanged (by rw [hpass])
    rw [hpass] at halike hchanged
    refine ⟨_, .stop (Prod.ext rfl hchanged.symm), halike, extendAll_eq_self mem_extendAll ?_⟩
    intro e he t ht
    rw [← hnew halike e] at ht
    rw [← halike (key e)]
    rw [hpass] at hsame
    simp only at hsame
    subst hsame
    exact hclosed e he t ht
  | @again n table next last hpass _ ih =>
    obtain ⟨halike, hchanged⟩ := @alike_extendAll α table other key new entries hnew h
    rw [hpass] at halike hchanged
    obtain ⟨final, hrest, hfinal⟩ := ih halike
    exact ⟨final, .again (Prod.ext rfl hchanged.symm) hrest, hfinal⟩

/-- **Telling growth by counting changes nothing of how the loop ends.** -/
theorem Settles.extendAll (h : Settles (growAll key new entries) bound start last) :
    ∃ final, Settles (extendAll key new entries) bound start final ∧ Alike last final := by
  have hpass : ∀ table, Alike (growAll key new entries table).1 (SetTable.extendAll key new entries table).1 ∧
      (growAll key new entries table).2 = (SetTable.extendAll key new entries table).2 :=
    fun table => alike_extendAll hnew fun _ => rfl
  obtain ⟨n, hloops⟩ := h.ends
  obtain ⟨final, hcount, halike, hfixed⟩ := exists_loops_extendAll hnew hloops fun _ => rfl
  refine ⟨final, ⟨⟨n, hcount⟩, fun hother => ?_, hfixed, fun table name t ht => ?_, fun table hchanged => ?_,
    fun table hsame name => ?_⟩, halike⟩
  · obtain ⟨rfl, rfl⟩ := hother.unique hcount
    exact ⟨(h.bounded hloops).1, rfl⟩
  · rw [← (hpass table).1 name]
    exact h.below table name t ht
  · obtain ⟨name, hlt⟩ := h.enlarges table ((hpass table).2.trans hchanged)
    exact ⟨name, (hpass table).1 name ▸ hlt⟩
  · rw [← (hpass table).1 name]
    exact h.keeps table ((hpass table).2.trans hsame) name

end

end SetTable

/-! ## The two loops -/

namespace Flat

variable {first table other : SetTable}

theorem settles_firstPass (flat : Flat) :
    SetTable.Settles flat.firstPass (flat.rules.length * (flat.terminals.size + 1)) ∅ flat.firstTable := by
  refine SetTable.settles_growAll (P := flat.FirstSound) (flat.rules.map Prod.fst) ?_ (fun _ h => h.pass)
    (fun table h => ?_) firstSound_empty
  · exact fun rule hrule => List.mem_map_of_mem hrule
  · have hvolume := SetTable.volume_le (flat.rules.map Prod.fst) fun name _ => h.size_le name
    rwa [List.length_map] at hvolume

theorem mem_names_of_mem_occurrences {flat : Flat} {occurrence : Occurrence}
    (h : occurrence ∈ flat.occurrences) :
    occurrence.name ∈ flat.names.toList := by
  have hsymbol := symbols_of_mem_occurrences h _ List.mem_cons_self
  rw [Std.ExtTreeSet.mem_toList]
  unfold names
  rw [Std.ExtTreeSet.mem_ofList, List.contains_iff_mem]
  exact List.mem_append_right _ (List.mem_filterMap.mpr ⟨_, hsymbol, rfl⟩)

theorem settles_followPass (flat : Flat) :
    SetTable.Settles (flat.followPass flat.firstTable) (flat.names.size * flat.terminals.size)
      ((∅ : SetTable).insert flat.start {.endOfInput}) (flat.followTable flat.firstTable) := by
  refine SetTable.settles_growAll (P := flat.FollowSound) flat.names.toList
    (fun _ => mem_names_of_mem_occurrences) (fun _ h => h.pass) (fun table h => ?_) followSound_start
  have hvolume := SetTable.volume_le flat.names.toList fun name _ =>
    TerminalSet.size_le_of_subset fun t ht => (h name t ht).mem_terminals
  rwa [Std.ExtTreeSet.length_toList] at hvolume

/-- A pass over the FOLLOW sets that tells growth by counting, and gives every name that occurs an entry. -/
def followCount (flat : Flat) (first : SetTable) : SetTable → SetTable × Bool :=
  SetTable.extendAll Occurrence.name (followAdded first) flat.occurrences

theorem followAdded_congr (h : table.Alike other) (occurrence : Occurrence) :
    followAdded first table occurrence = followAdded first other occurrence := by
  simp only [followAdded, h occurrence.rule]

end Flat

namespace Analysis

/-- **The two loops of the analysis of any grammar end, and end where a further pass changes nothing.** With
counting for the FOLLOW sets it is the same. -/
theorem settles_tables (grammar : Grammar) :
    SetTable.Settles (Flat.ofGrammar grammar).firstPass
      (grammar.rules.length * ((Flat.ofGrammar grammar).terminals.size + 1)) ∅
      (ofFlat (.ofGrammar grammar)).first ∧
    SetTable.Settles ((Flat.ofGrammar grammar).followPass (ofFlat (.ofGrammar grammar)).first)
      ((Flat.ofGrammar grammar).names.size * (Flat.ofGrammar grammar).terminals.size)
      ((∅ : SetTable).insert grammar.start {.endOfInput}) (ofFlat (.ofGrammar grammar)).follow ∧
    ∃ last, SetTable.Settles ((Flat.ofGrammar grammar).followCount (ofFlat (.ofGrammar grammar)).first)
      ((Flat.ofGrammar grammar).names.size * (Flat.ofGrammar grammar).terminals.size)
      ((∅ : SetTable).insert grammar.start {.endOfInput}) last ∧
      (ofFlat (.ofGrammar grammar)).follow.Alike last := by
  have hfirst := (Flat.ofGrammar grammar).settles_firstPass
  have hfollow := (Flat.ofGrammar grammar).settles_followPass
  have hrules : (Flat.ofGrammar grammar).rules.length = grammar.rules.length := List.length_map _
  rw [hrules] at hfirst
  exact ⟨hfirst, hfollow, hfollow.extendAll Flat.followAdded_congr⟩

end Analysis

end AttributeGrammar
