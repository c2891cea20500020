import AttributeGrammar.Proofs.Language.Prediction

/-!
# Trees that come from reading

* `Tree.leaves`, `Tree.HasNode` — the texts of the leaves from left to right, and the nodes of a tree.
* `Item.Makes` — an item makes a child of a node.
* `Grammar.leaves_of_reads` — the leaves of the trees are the tokens that were read.
* `Grammar.nodes_of_reads` — a node has no children, or those that the items of one alternative make.
* `Grammar.derives_of_reads` — tokens that were read are derived if only rules that derive the empty
  word have nodes without children.
-/

set_option autoImplicit false

namespace AttributeGrammar

open Synthesis (Fields nodeName)

variable {V : Type}

namespace Synthesis.Tree

mutual

/-- The texts of the leaves, from left to right. -/
def leaves : Tree V → List String
  | .leaf text => [text]
  | .node _ _ children => leavesAll children

/-- The texts of the leaves of some trees, from left to right. -/
def leavesAll : List (Tree V) → List String
  | [] => []
  | tree :: trees => leaves tree ++ leavesAll trees

end

/-- The tree has a node of the given name with the given children. -/
inductive HasNode : Tree V → String → List (Tree V) → Prop where
  | here {name : String} {fields : Fields V} {children : List (Tree V)} :
      HasNode (.node name fields children) name children
  | inside {name inner : String} {fields : Fields V} {children below : List (Tree V)} {child : Tree V} :
      child ∈ children → HasNode child inner below → HasNode (.node name fields children) inner below

theorem not_hasNode_leaf {text name : String} {children : List (Tree V)} :
    ¬ HasNode (.leaf text) name children := by
  intro h
  cases h

theorem hasNode_node_iff {name inner : String} {fields : Fields V} {children below : List (Tree V)} :
    HasNode (.node name fields children) inner below ↔
      (name = inner ∧ children = below) ∨ ∃ child ∈ children, HasNode child inner below := by
  constructor
  · intro h
    cases h with
    | here => exact Or.inl ⟨rfl, rfl⟩
    | inside hmem h => exact Or.inr ⟨_, hmem, h⟩
  · rintro (⟨rfl, rfl⟩ | ⟨child, hmem, h⟩)
    · exact .here
    · exact .inside hmem h

end Synthesis.Tree

/-! ## Children that items make -/

/-- An item makes a child: a literal and a regex terminal a leaf, a rule a node. -/
inductive Item.Makes : Item → Synthesis.Tree V → Prop where
  | text {literal : String} : Makes (.text literal) (.leaf literal)
  | assignText {var literal : String} : Makes (.assignText var literal) (.leaf literal)
  | regex {name text : String} : Makes (.regex name) (.leaf text)
  | assignRegex {var name text : String} : Makes (.assignRegex var name) (.leaf text)
  | rule {target : String} {fields : Fields V} {children : List (Synthesis.Tree V)} :
      Makes (.rule target) (.node (nodeName target) fields children)
  | assignRule {var target : String} {fields : Fields V} {children : List (Synthesis.Tree V)} :
      Makes (.assignRule var target) (.node (nodeName target) fields children)

/-- Whether an item makes a child: calls of actions and the marker for the empty string make none. -/
def Item.consumes (item : Item) : Bool :=
  item.symbol? ≠ none && item.symbol? ≠ some (.terminal .empty)

/-- A symbol makes a child. -/
inductive Symbol.Makes : Symbol → Synthesis.Tree V → Prop where
  | text {literal : String} : Makes (.terminal (.text literal)) (.leaf literal)
  | regex {name text : String} : Makes (.terminal (.regex name)) (.leaf text)
  | nonTerminal {target : String} {fields : Fields V} {children : List (Synthesis.Tree V)} :
      Makes (.nonTerminal target) (.node (nodeName target) fields children)

theorem Item.makes_of_symbol {item : Item} {symbol : Symbol} {tree : Synthesis.Tree V}
    (hsymbol : item.symbol? = some symbol) (h : symbol.Makes tree) : item.Makes tree := by
  cases item with
  | text literal | assignText _ literal =>
    cases hsymbol
    cases h
    constructor
  | regex name | assignRegex _ name =>
    simp only [symbol?, Symbol.ofRegexName, Option.some.injEq] at hsymbol
    split at hsymbol
    · subst hsymbol
      cases h
    · subst hsymbol
      cases h
      constructor
  | rule target | assignRule _ target =>
    cases hsymbol
    cases h
    constructor
  | action name => cases hsymbol

theorem Item.makes_of_symbols {items : List Item} {trees : List (Synthesis.Tree V)}
    (h : List.Forall₂ Symbol.Makes ((items.filterMap Item.symbol?).filter (· ≠ .terminal .empty)) trees) :
    List.Forall₂ Item.Makes (items.filter Item.consumes) trees := by
  induction items generalizing trees with
  | nil =>
    cases h
    exact .nil
  | cons item items ih =>
    rcases hsymbol : item.symbol? with _ | symbol
    · rw [List.filterMap_cons_none hsymbol] at h
      rw [List.filter_cons_of_neg (by simp [consumes, hsymbol])]
      exact ih h
    · rw [List.filterMap_cons_some hsymbol] at h
      by_cases hempty : symbol = .terminal .empty
      · rw [List.filter_cons_of_neg (by simp [hempty])] at h
        rw [List.filter_cons_of_neg (by simp [consumes, hsymbol, hempty])]
        exact ih h
      · rw [List.filter_cons_of_pos (by simp [hempty])] at h
        rw [List.filter_cons_of_pos (by simp [consumes, hsymbol, hempty])]
        cases h with
        | cons hmakes hrest => exact .cons (makes_of_symbol hsymbol hmakes) (ih hrest)

namespace Grammar

variable {grammar : Grammar} {symbols : List Symbol} {tokens left : List Token}
  {trees : List (Synthesis.Tree V)}

/-! ## Leaves -/

/-- **The leaves of the trees are the tokens that were read.** -/
theorem leaves_of_reads (h : grammar.Reads symbols tokens trees left) :
    ∃ front, tokens = front ++ left ∧ Synthesis.Tree.leavesAll trees = front.map Token.text := by
  induction h with
  | nil => exact ⟨[], rfl, rfl⟩
  | empty _ ih => exact ih
  | @terminal _ token _ _ _ _ _ _ ih =>
    obtain ⟨front, rfl, hleaves⟩ := ih
    refine ⟨token :: front, rfl, ?_⟩
    rw [Synthesis.Tree.leavesAll, Synthesis.Tree.leaves, hleaves]
    rfl
  | decline _ _ _ ih =>
    obtain ⟨front, rfl, hleaves⟩ := ih
    refine ⟨front, rfl, ?_⟩
    rw [Synthesis.Tree.leavesAll, Synthesis.Tree.leaves, hleaves]
    rfl
  | pick _ _ _ _ _ ihbody ihrest =>
    obtain ⟨front, heq, hfront⟩ := ihbody
    obtain ⟨back, rfl, hback⟩ := ihrest
    refine ⟨front ++ back, by rw [heq, List.append_assoc], ?_⟩
    rw [Synthesis.Tree.leavesAll, Synthesis.Tree.leaves, hfront, hback, List.map_append]

/-! ## Nodes -/

theorem makes_of_reads (h : grammar.Reads symbols tokens trees left)
    (hend : .terminal .endOfInput ∉ symbols) :
    List.Forall₂ Symbol.Makes (symbols.filter (· ≠ .terminal .empty)) trees := by
  induction h with
  | nil => exact .nil
  | empty _ ih => exact ih fun hmem => hend (List.mem_cons_of_mem _ hmem)
  | @terminal t token _ _ _ _ heq _ ih =>
    have hrest := ih fun hmem => hend (List.mem_cons_of_mem _ hmem)
    cases t with
    | text literal =>
      have htext := Token.terminal_eq_text.mp heq
      rw [Token.isText, Bool.and_eq_true, decide_eq_true_iff, decide_eq_true_iff] at htext
      exact .cons (htext.2 ▸ .text) hrest
    | regex name => exact .cons .regex hrest
    | endOfInput => exact absurd List.mem_cons_self hend
    | empty => exact absurd heq (Token.terminal_ne_empty _)
  | decline _ _ _ ih =>
    exact .cons .nonTerminal (ih fun hmem => hend (List.mem_cons_of_mem _ hmem))
  | pick _ _ _ _ _ _ ihrest =>
    exact .cons .nonTerminal (ihrest fun hmem => hend (List.mem_cons_of_mem _ hmem))

/-- **A node has no children, or those that the items of one alternative of its rule make.** -/
theorem nodes_of_reads (h : grammar.Reads symbols tokens trees left) :
    ∀ tree ∈ trees, ∀ name children, tree.HasNode name children →
      ∃ rule ∈ grammar.rules, nodeName rule.name = name ∧
        (children = [] ∨ ∃ alternative ∈ rule.alternatives,
          List.Forall₂ Item.Makes (alternative.items.filter Item.consumes) children) := by
  induction h with
  | nil => simp
  | empty _ ih => exact ih
  | terminal _ _ ih =>
    refine List.forall_mem_cons.mpr ⟨fun name children hnode => ?_, ih⟩
    exact absurd hnode Synthesis.Tree.not_hasNode_leaf
  | decline hrule _ _ ih =>
    obtain ⟨hmem, rfl⟩ := mem_of_rule? hrule
    refine List.forall_mem_cons.mpr ⟨fun name children hnode => ?_, ih⟩
    rcases Synthesis.Tree.hasNode_node_iff.mp hnode with ⟨rfl, rfl⟩ | ⟨child, hchild, -⟩
    · exact ⟨_, hmem, rfl, Or.inl rfl⟩
    · cases hchild
  | pick hrule halt _ hbody _ ihbody ihrest =>
    obtain ⟨hmem, rfl⟩ := mem_of_rule? hrule
    refine List.forall_mem_cons.mpr ⟨fun name children hnode => ?_, ihrest⟩
    rcases Synthesis.Tree.hasNode_node_iff.mp hnode with ⟨rfl, rfl⟩ | ⟨child, hchild, hinner⟩
    · refine ⟨_, hmem, rfl, Or.inr ⟨_, halt, ?_⟩⟩
      exact Item.makes_of_symbols (makes_of_reads hbody (endOfInput_notMem_symbols _))
    · exact ihbody child hchild name children hinner

/-! ## Nodes without children -/

/-- Every rule that has a node without children in a tree derives the empty word. -/
def Justifies (grammar : Grammar) (tree : Synthesis.Tree V) : Prop :=
  ∀ rule ∈ grammar.rules, tree.HasNode (nodeName rule.name) [] →
    grammar.Derives [.nonTerminal rule.name] []

/-- **Tokens that were read are derived if only rules that derive the empty word have nodes without
children.** -/
theorem derives_of_reads (h : grammar.Reads symbols tokens trees left)
    (hjustifies : ∀ tree ∈ trees, grammar.Justifies tree) :
    ∃ front, tokens = front ++ left ∧ grammar.Derives symbols (front.map Token.terminal) := by
  induction h with
  | nil => exact ⟨[], rfl, .nil⟩
  | empty _ ih =>
    obtain ⟨front, rfl, hderives⟩ := ih hjustifies
    exact ⟨front, rfl, .empty hderives⟩
  | @terminal _ token _ _ _ _ heq _ ih =>
    obtain ⟨-, htrees⟩ := List.forall_mem_cons.mp hjustifies
    obtain ⟨front, rfl, hderives⟩ := ih htrees
    subst heq
    exact ⟨token :: front, rfl, .terminal (Token.terminal_ne_empty _) hderives⟩
  | @decline name rule _ _ _ _ _ hrule _ _ ih =>
    obtain ⟨htree, htrees⟩ := List.forall_mem_cons.mp hjustifies
    obtain ⟨front, rfl, hderives⟩ := ih htrees
    obtain ⟨hmem, rfl⟩ := mem_of_rule? hrule
    obtain ⟨_, hrule', alternative, halt, hbody⟩ :=
      derives_nonTerminal_iff.mp (htree rule hmem .here)
    exact ⟨front, rfl, .nonTerminal hrule' halt hbody hderives⟩
  | pick hrule halt _ _ _ ihbody ihrest =>
    obtain ⟨htree, htrees⟩ := List.forall_mem_cons.mp hjustifies
    obtain ⟨front, heq, hbody⟩ := ihbody fun child hchild rule hmem hnode =>
      htree rule hmem (.inside hchild hnode)
    obtain ⟨back, rfl, hrest⟩ := ihrest htrees
    refine ⟨front ++ back, by rw [heq, List.append_assoc], ?_⟩
    rw [List.map_append]
    exact .nonTerminal hrule halt hbody hrest

/-- **In derivation trees only rules that derive the empty word have nodes without children.** -/
theorem Grows.justifies
    (hnames : ∀ a ∈ grammar.rules, ∀ b ∈ grammar.rules, nodeName a.name = nodeName b.name → a.name = b.name)
    (h : grammar.Grows symbols trees tokens) : ∀ tree ∈ trees, grammar.Justifies tree := by
  induction h with
  | nil => simp
  | empty _ ih => exact ih
  | terminal _ ih =>
    refine List.forall_mem_cons.mpr ⟨fun rule _ hnode => ?_, ih⟩
    exact absurd hnode Synthesis.Tree.not_hasNode_leaf
  | nonTerminal hrule halt hbody _ ihbody ihrest =>
    refine List.forall_mem_cons.mpr ⟨fun other hother hnode => ?_, ihrest⟩
    obtain ⟨hmem, rfl⟩ := mem_of_rule? hrule
    rcases Synthesis.Tree.hasNode_node_iff.mp hnode with ⟨hname, rfl⟩ | ⟨child, hchild, hinner⟩
    · rw [hnames _ hother _ hmem hname.symm]
      cases hbody.tokens_eq_nil rfl
      exact derives_nonTerminal_iff.mpr ⟨_, hrule, _, halt, hbody.derives⟩
    · exact ihbody child hchild other hother hinner

end Grammar

end AttributeGrammar
