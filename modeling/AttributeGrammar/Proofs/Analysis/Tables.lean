import AttributeGrammar.Analysis.Flat
import Mathlib.Data.List.Perm.Subperm
import Mathlib.Order.Nat
import Mathlib.Tactic.Push
import Mathlib.Tactic.Tauto

/-!
# Growing tables of terminal sets

Both analyses grow a table by passes until a pass changes nothing.

* `SetTable.Below` — every set of one table is contained in the set of the same name of another.
* `SetTable.mem_grow` — what a single growth adds, and to which set.
* `SetTable.growAll_below`, `SetTable.growAll_unchanged`, `SetTable.growAll_changed` — a pass never
  takes a terminal away; it reports no change exactly when nothing was missing.
* `SetTable.volume` — the number of members of the named sets, which every change makes larger.
* `SetTable.iterate_unchanged` — passes whose volume is bounded end with a pass that changes nothing.
-/

set_option autoImplicit false

namespace AttributeGrammar

namespace TerminalSet

theorem all_eq_toList (set : TerminalSet) (p : Terminal → Bool) : set.all p = set.toList.all p := by
  obtain ⟨⟨⟨quotient⟩⟩⟩ := set
  induction quotient using Quotient.inductionOn with
  | h map =>
    show map.inner.all (fun t _ => p t) = map.inner.keys.all p
    rw [Std.DTreeMap.Internal.Impl.all_eq_all_toListModel, Std.DTreeMap.Internal.Impl.keys_eq_keys,
      Std.Internal.List.keys_eq_map, List.all_map]
    rfl

theorem any_eq_not_all (set : TerminalSet) (p : Terminal → Bool) :
    set.any p = !set.all fun t => !p t := by
  obtain ⟨⟨⟨quotient⟩⟩⟩ := set
  induction quotient using Quotient.inductionOn with
  | h map =>
    show map.inner.any (fun t _ => p t) = !map.inner.all fun t _ => !p t
    simp only [Std.DTreeMap.Internal.Impl.any, Std.DTreeMap.Internal.Impl.all, ForIn.forIn,
      Id.run_bind, Std.DTreeMap.Internal.Impl.forIn_eq_forIn_toListModel]
    induction map.inner.toListModel with
    | nil => rfl
    | cons entry entries ih =>
      simp only [List.forIn'_cons] at ih ⊢
      by_cases h : p entry.1
      · simp [h]
      · simp [h] at ih ⊢
        exact ih

theorem all_iff {set : TerminalSet} {p : Terminal → Bool} : set.all p ↔ ∀ t ∈ set, p t := by
  rw [all_eq_toList, List.all_eq_true]
  simp only [Std.ExtTreeSet.mem_toList]

theorem any_iff {set : TerminalSet} {p : Terminal → Bool} : set.any p ↔ ∃ t ∈ set, p t := by
  rw [any_eq_not_all, all_eq_toList]
  simp [Std.ExtTreeSet.mem_toList]

theorem mem_insert_iff {set : TerminalSet} {s t : Terminal} : t ∈ set.insert s ↔ t = s ∨ t ∈ set := by
  rw [Std.ExtTreeSet.mem_insert, Std.LawfulEqCmp.compare_eq_iff_eq, eq_comm]

theorem mem_singleton_iff {s t : Terminal} : t ∈ ({s} : TerminalSet) ↔ t = s := by
  show t ∈ (∅ : TerminalSet).insert s ↔ _
  rw [mem_insert_iff]
  simp

theorem mem_erase_iff {set : TerminalSet} {s t : Terminal} : t ∈ set.erase s ↔ t ≠ s ∧ t ∈ set := by
  rw [Std.ExtTreeSet.mem_erase, Ne, Std.LawfulEqCmp.compare_eq_iff_eq, eq_comm]

theorem size_le_of_subset {a b : TerminalSet} (h : ∀ t ∈ a, t ∈ b) : a.size ≤ b.size := by
  have hdistinct : a.toList.Nodup := by
    refine a.distinct_toList.imp ?_
    intro s t hst heq
    subst heq
    exact hst Std.ReflCmp.compare_self
  have hsub : a.toList ⊆ b.toList := by
    intro t ht
    rw [Std.ExtTreeSet.mem_toList] at ht ⊢
    exact h t ht
  rw [← Std.ExtTreeSet.length_toList, ← Std.ExtTreeSet.length_toList]
  exact (List.subperm_of_subset hdistinct hsub).length_le

theorem size_lt_of_subset {a b : TerminalSet} {t : Terminal} (h : ∀ s ∈ a, s ∈ b) (hb : t ∈ b)
    (ha : t ∉ a) : a.size < b.size := by
  have hle : (a.insert t).size ≤ b.size := by
    refine size_le_of_subset fun s hs => ?_
    rcases mem_insert_iff.mp hs with rfl | hs
    · exact hb
    · exact h s hs
  rw [Std.ExtTreeSet.size_insert, if_neg (fun h => ha (Std.ExtTreeSet.contains_iff_mem.mp h))] at hle
  omega

end TerminalSet

namespace SetTable

variable {α : Type} {table next : SetTable} {name other : String} {added : TerminalSet}
  {t : Terminal}

/-- Every set of `table` is contained in the set of its name in `next`. -/
def Below (table next : SetTable) : Prop := ∀ name, ∀ t ∈ table.setOf name, t ∈ next.setOf name

theorem Below.refl (table : SetTable) : Below table table := fun _ _ h => h

theorem Below.trans {a b c : SetTable} (hab : Below a b) (hbc : Below b c) : Below a c :=
  fun name t h => hbc name t (hab name t h)

@[simp] theorem setOf_empty : (∅ : SetTable).setOf name = ∅ := by simp [setOf]

theorem setOf_insert (table : SetTable) (name other : String) (set : TerminalSet) :
    SetTable.setOf (table.insert name set) other = if name = other then set else table.setOf other := by
  unfold setOf
  rw [Std.ExtTreeMap.getElem?_insert]
  simp only [Std.LawfulEqCmp.compare_eq_iff_eq]
  split <;> rfl

/-! ## One growth -/

theorem mem_grow : t ∈ (table.grow name added).1.setOf other ↔
    t ∈ table.setOf other ∨ (name = other ∧ t ∈ added) := by
  unfold grow
  split
  · rename_i hall
    simp only [TerminalSet.all_iff, Std.ExtTreeSet.contains_iff_mem] at hall
    constructor
    · exact Or.inl
    · rintro (h | ⟨rfl, h⟩)
      · exact h
      · exact hall t h
  · rw [setOf_insert]
    split
    · rename_i heq
      subst heq
      simp [Std.ExtTreeSet.mem_union_iff]
    · rename_i hne
      simp [hne]

theorem grow_below : Below table (table.grow name added).1 :=
  fun _ _ h => mem_grow.mpr (Or.inl h)

theorem grow_unchanged (h : (table.grow name added).2 = false) :
    (table.grow name added).1 = table ∧ ∀ t ∈ added, t ∈ table.setOf name := by
  unfold grow at h ⊢
  split at h
  · rename_i hall
    rw [if_pos hall]
    simp only [TerminalSet.all_iff, Std.ExtTreeSet.contains_iff_mem] at hall
    exact ⟨rfl, hall⟩
  · cases h

theorem grow_changed (h : (table.grow name added).2 = true) :
    ∃ t ∈ added, t ∉ table.setOf name := by
  unfold grow at h
  split at h
  · cases h
  · rename_i hall
    by_contra hcon
    push Not at hcon
    refine hall ?_
    simp only [TerminalSet.all_iff, Std.ExtTreeSet.contains_iff_mem]
    exact hcon

/-! ## One pass -/

variable {key : α → String} {new : SetTable → α → TerminalSet} {entries : List α}

/-- A pass that has reported a change keeps reporting it. -/
private theorem growAll_foldl (entries : List α) (table : SetTable) (changed : Bool) :
    entries.foldl (fun (table, changed) entry =>
      let (table, grown) := table.grow (key entry) (new table entry)
      (table, changed || grown)) (table, changed) =
    ((growAll key new entries table).1, changed || (growAll key new entries table).2) := by
  unfold growAll
  induction entries generalizing table changed with
  | nil => simp
  | cons entry entries ih =>
    simp only [List.foldl_cons, Bool.false_or]
    rw [ih, ih _ (table.grow (key entry) (new table entry)).2]
    simp [Bool.or_assoc]

theorem growAll_cons (entry : α) (entries : List α) (table : SetTable) :
    growAll key new (entry :: entries) table =
      ((growAll key new entries (table.grow (key entry) (new table entry)).1).1,
        (table.grow (key entry) (new table entry)).2 ||
          (growAll key new entries (table.grow (key entry) (new table entry)).1).2) := by
  conv => lhs; unfold growAll
  rw [List.foldl_cons]
  simp only [Bool.false_or]
  exact growAll_foldl entries _ _

/-- What every growth of a pass preserves, the pass preserves. -/
theorem growAll_induction {P : SetTable → Prop}
    (step : ∀ table, ∀ entry ∈ entries, P table → P (table.grow (key entry) (new table entry)).1)
    (h : P table) : P (growAll key new entries table).1 := by
  induction entries generalizing table with
  | nil => exact h
  | cons entry entries ih =>
    rw [growAll_cons]
    refine ih (fun table e he => step table e (List.mem_cons_of_mem _ he)) ?_
    exact step table entry List.mem_cons_self h

theorem growAll_below : Below table (growAll key new entries table).1 :=
  growAll_induction (fun _ _ _ h => h.trans grow_below) (Below.refl table)

theorem growAll_unchanged (h : (growAll key new entries table).2 = false) :
    (growAll key new entries table).1 = table ∧
      ∀ entry ∈ entries, ∀ t ∈ new table entry, t ∈ table.setOf (key entry) := by
  induction entries generalizing table with
  | nil => exact ⟨rfl, fun _ he => by cases he⟩
  | cons entry entries ih =>
    rw [growAll_cons] at h ⊢
    obtain ⟨hfirst, hrest⟩ := Bool.or_eq_false_iff.mp h
    obtain ⟨hsame, hmem⟩ := grow_unchanged hfirst
    rw [hsame] at hrest ⊢
    obtain ⟨hsame', hmem'⟩ := ih hrest
    refine ⟨hsame', fun e he => ?_⟩
    rcases List.mem_cons.mp he with rfl | he
    · exact hmem
    · exact hmem' e he

theorem growAll_changed (h : (growAll key new entries table).2 = true) :
    ∃ entry ∈ entries, ∃ t, t ∉ table.setOf (key entry) ∧
      t ∈ (growAll key new entries table).1.setOf (key entry) := by
  induction entries generalizing table with
  | nil => cases h
  | cons entry entries ih =>
    rw [growAll_cons] at h ⊢
    rcases Bool.or_eq_true_iff.mp h with hfirst | hrest
    · obtain ⟨t, hadded, hnot⟩ := grow_changed hfirst
      exact ⟨entry, List.mem_cons_self, t, hnot,
        growAll_below _ _ (mem_grow.mpr (Or.inr ⟨rfl, hadded⟩))⟩
    · obtain ⟨e, he, t, hnot, hin⟩ := ih hrest
      exact ⟨e, List.mem_cons_of_mem _ he, t, fun hmem => hnot (grow_below _ _ hmem), hin⟩

/-! ## All passes -/

/-- The number of members of the sets of the given names. -/
def volume : List String → SetTable → Nat
  | [], _ => 0
  | name :: names, table => (table.setOf name).size + volume names table

theorem volume_le (names : List String) {cap : Nat} (h : ∀ name ∈ names, (table.setOf name).size ≤ cap) :
    table.volume names ≤ names.length * cap := by
  induction names with
  | nil => exact Nat.zero_le _
  | cons name names ih =>
    have hfirst := h name List.mem_cons_self
    have hrest := ih fun other hother => h other (List.mem_cons_of_mem _ hother)
    rw [volume, List.length_cons, Nat.succ_mul]
    omega

theorem volume_mono (names : List String) (hbelow : Below table next) :
    table.volume names ≤ next.volume names := by
  induction names with
  | nil => exact Nat.le_refl _
  | cons name names ih =>
    have hfirst := TerminalSet.size_le_of_subset (hbelow name)
    rw [volume, volume]
    omega

theorem volume_lt {names : List String} (hbelow : Below table next) (hname : name ∈ names)
    (hnot : t ∉ table.setOf name) (hin : t ∈ next.setOf name) :
    table.volume names < next.volume names := by
  induction names with
  | nil => cases hname
  | cons other names ih =>
    have hle := volume_mono names hbelow
    have hfirst := TerminalSet.size_le_of_subset (hbelow other)
    rw [volume, volume]
    rcases List.mem_cons.mp hname with rfl | hname
    · have hlt := TerminalSet.size_lt_of_subset (hbelow name) hin hnot
      omega
    · have hlt := ih hname
      omega

/-- What a pass preserves, all passes preserve. -/
theorem iterate_induction {pass : SetTable → SetTable × Bool} {P : SetTable → Prop}
    (step : ∀ table, P table → P (pass table).1) :
    ∀ (bound : Nat) {table : SetTable}, P table → P (iterate pass bound table)
  | 0, _, h => h
  | bound + 1, table, h => by
    have hnext := step table h
    unfold iterate
    split
    · rename_i next heq
      rw [heq] at hnext
      exact iterate_induction step bound hnext
    · rename_i next heq
      rw [heq] at hnext
      exact hnext

/-- **The passes end with one that changes nothing**, if every change enlarges the volume and `cap`
bounds the volumes that occur. -/
theorem iterate_unchanged {pass : SetTable → SetTable × Bool} {P : SetTable → Prop}
    (names : List String) (cap : Nat) (step : ∀ table, P table → P (pass table).1)
    (same : ∀ table, (pass table).2 = false → (pass table).1 = table)
    (grows : ∀ table, (pass table).2 = true → table.volume names < (pass table).1.volume names)
    (capped : ∀ table, P table → table.volume names ≤ cap) :
    ∀ (bound : Nat) {table : SetTable}, P table → cap < table.volume names + bound →
      (pass (iterate pass bound table)).2 = false
  | 0, table, h, hbound => by
    have := capped table h
    omega
  | bound + 1, table, h, hbound => by
    have hnext := step table h
    unfold iterate
    split
    · rename_i next heq
      have hlt := grows table (by rw [heq])
      rw [heq] at hnext hlt
      simp only at hlt
      exact iterate_unchanged names cap step same grows capped bound hnext (by omega)
    · rename_i next heq
      have hsame := same table (by rw [heq])
      rw [heq] at hsame
      simp only at hsame
      rw [hsame, heq]

end SetTable

end AttributeGrammar
