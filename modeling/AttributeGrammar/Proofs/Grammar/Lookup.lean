import AttributeGrammar.Grammar.Basic
import Mathlib.Data.List.Nodup

/-!
# Looking up rules

* `Grammar.mem_of_rule?`, `Grammar.rule?_eq_some_iff` — a rule is found under its name.
* `Grammar.mem_literals` — the literals of a grammar are those of the items in its alternatives.
* `Grammar.rule?_of_perm`, `Grammar.rules_eq` — where names are distinct, the order of declaration has no
  part in what is found, and what is found tells the rules.
* `Grammar.names_replaceRule`, `Grammar.rule?_replaceRule` — the names, and what is found, after a rule was
  replaced.
* `Grammar.rule?_of_forall₂` — what is found among rules that belong to others of the same names.
-/

set_option autoImplicit false

namespace AttributeGrammar.Grammar

variable {grammar other : Grammar} {rule : Rule} {name : String}

theorem mem_of_rule? (h : grammar.rule? name = some rule) : rule ∈ grammar.rules ∧ rule.name = name := by
  refine ⟨List.mem_of_find?_eq_some h, ?_⟩
  simpa using List.find?_some h

theorem isSome_rule?_iff : (grammar.rule? name).isSome ↔ name ∈ grammar.rules.map Rule.name := by
  rw [rule?, List.find?_isSome, List.mem_map]
  simp only [decide_eq_true_iff]

theorem mem_literals {literal : String} :
    literal ∈ grammar.literals ↔
      ∃ rule ∈ grammar.rules, ∃ alternative ∈ rule.alternatives, ∃ item ∈ alternative.items,
        literal ∈ item.literal? := by
  rw [literals, Std.ExtTreeSet.mem_ofList, List.contains_iff_mem]
  simp only [List.mem_flatMap, List.mem_filterMap, Rule.items]
  constructor
  · rintro ⟨rule, hrule, item, ⟨alternative, halternative, hitem⟩, hliteral⟩
    exact ⟨rule, hrule, alternative, halternative, item, hitem, hliteral⟩
  · rintro ⟨rule, hrule, alternative, halternative, item, hitem, hliteral⟩
    exact ⟨rule, hrule, item, ⟨alternative, halternative, hitem⟩, hliteral⟩

/-- No two rules have one name. -/
def Keyed (grammar : Grammar) : Prop := (grammar.rules.map Rule.name).Nodup

/-- A rule is found under its name, and only there. -/
theorem rule?_eq_some_iff (hkeyed : grammar.Keyed) :
    grammar.rule? name = some rule ↔ rule ∈ grammar.rules ∧ rule.name = name := by
  refine ⟨mem_of_rule?, ?_⟩
  rintro ⟨hmem, rfl⟩
  obtain ⟨found, hfound⟩ := Option.isSome_iff_exists.mp (isSome_rule?_iff.mpr (List.mem_map_of_mem hmem))
  obtain ⟨hother, hname⟩ := mem_of_rule? hfound
  rw [hfound, List.inj_on_of_nodup_map hkeyed hother hmem hname]

theorem rule?_of_perm (hkeyed : grammar.Keyed) (hperm : other.rules.Perm grammar.rules) :
    other.rule? name = grammar.rule? name := by
  have hother : other.Keyed := (hperm.map Rule.name).nodup_iff.mpr hkeyed
  ext rule
  rw [rule?_eq_some_iff hkeyed, rule?_eq_some_iff hother, hperm.mem_iff]

/-- Rules with the same names in the same order are the same if the same is found. -/
theorem rules_eq (hkeyed : grammar.Keyed)
    (hnames : other.rules.map Rule.name = grammar.rules.map Rule.name)
    (hrules : ∀ name, other.rule? name = grammar.rule? name) : other.rules = grammar.rules := by
  have hother : other.Keyed := by
    rw [Keyed, hnames]
    exact hkeyed
  have hfound : ∀ g : Grammar, g.Keyed → g.rules = (g.rules.map Rule.name).filterMap g.rule? := by
    intro g hg
    have hid : ∀ rule ∈ g.rules, (g.rule? ∘ Rule.name) rule = some rule := fun rule hrule =>
      (rule?_eq_some_iff hg).mpr ⟨hrule, rfl⟩
    rw [List.filterMap_map, List.filterMap_congr hid, List.filterMap_some]
  rw [hfound other hother, hfound grammar hkeyed, hnames]
  exact List.filterMap_congr fun name _ => hrules name

theorem names_replaceRule : (grammar.replaceRule rule).rules.map Rule.name = grammar.rules.map Rule.name := by
  rw [replaceRule, List.map_map]
  refine List.map_congr_left fun old _ => ?_
  simp only [Function.comp_apply]
  split
  · rename_i heq
    exact heq.symm
  · rfl

theorem rule?_replaceRule :
    (grammar.replaceRule rule).rule? name =
      if name = rule.name then (grammar.rule? name).map fun _ => rule else grammar.rule? name := by
  have hsame : ((fun r : Rule => decide (r.name = name)) ∘
      fun old : Rule => if old.name = rule.name then rule else old) =
      fun r => decide (r.name = name) := by
    funext old
    simp only [Function.comp_apply]
    split
    · rename_i heq
      rw [heq]
    · rfl
  rw [rule?, replaceRule, List.find?_map, hsame, ← rule?]
  rcases hfound : grammar.rule? name with _ | old
  · simp
  · obtain ⟨-, rfl⟩ := mem_of_rule? hfound
    simp only [Option.map_some]
    split <;> rfl

/-- Among rules that belong to others, one for one and under the same names, the one that belongs to the one
found there is found. -/
theorem rule?_of_forall₂ {relates : Rule → Rule → Prop}
    (hname : ∀ {old rule}, relates old rule → rule.name = old.name)
    (h : List.Forall₂ relates grammar.rules other.rules) :
    Option.Rel relates (grammar.rule? name) (other.rule? name) := by
  rw [rule?, rule?]
  generalize grammar.rules = olds at h ⊢
  generalize other.rules = rules at h ⊢
  induction h with
  | nil => exact .none
  | @cons old rule olds rules hfirst _ ih =>
    rw [List.find?_cons, List.find?_cons, hname hfirst]
    split
    · exact .some hfirst
    · exact ih

end AttributeGrammar.Grammar
