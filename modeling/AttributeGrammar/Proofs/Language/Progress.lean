import AttributeGrammar.Proofs.Language.Prediction
import Mathlib.Logic.Relation

/-!
# Calls come back to a place only at the end of the input

* `Grammar.Calls` — while a rule reads some tokens it calls another one on those that are left.
* `Grammar.not_begins_of_vanishes` — what vanishes does not begin with a terminal that stands behind it.
* `Grammar.Reads.shorter` — reading what begins with the token ahead takes that token.
* `Grammar.acc_callsOn` — calls on the same tokens end, if the token ahead is not the end of the input.
* `Grammar.isEnd_of_calls_back` — calls that come back to a rule on the same tokens do so at the end.
-/

set_option autoImplicit false

namespace AttributeGrammar.Grammar

open Relation (ReflTransGen TransGen)
open Synthesis (Fields nodeName)

variable {grammar : Grammar} {V : Type} {rule : Rule} {alternative : Alternative} {t : Terminal}
  {symbols rest front : List Symbol} {name : String} {tokens left more : List Token} {token : Token}
  {trees : List (Synthesis.Tree V)}

/-- The rule of `caller` picks an alternative on its tokens, reads what stands in front of a non-terminal
and then calls the rule of `callee` on the tokens that are left. -/
def Calls (grammar : Grammar) (caller callee : Rule × List Token) : Prop :=
  ∃ alternative ∈ caller.1.alternatives, ∃ token rest front name back,
    ∃ trees : List (Synthesis.Tree Unit),
    caller.2 = token :: rest ∧ grammar.Picks caller.1 alternative token.terminal ∧
    alternative.symbols = front ++ .nonTerminal name :: back ∧
    grammar.Reads front caller.2 trees callee.2 ∧ grammar.rule? name = some callee.1

/-- A rule calls another one without having read a token. -/
def CallsOn (grammar : Grammar) (tokens : List Token) (caller callee : Rule) : Prop :=
  grammar.Calls (caller, tokens) (callee, tokens)

theorem Calls.isSuffix {caller callee : Rule × List Token} (h : grammar.Calls caller callee) :
    callee.2 <:+ caller.2 := by
  obtain ⟨_, _, _, _, _, _, _, _, _, _, _, hreads, _⟩ := h
  exact hreads.isSuffix

theorem Calls.mem {caller callee : Rule × List Token} (h : grammar.Calls caller callee) :
    callee.1 ∈ grammar.rules := by
  obtain ⟨_, _, _, _, _, _, _, _, _, _, _, _, hrule⟩ := h
  exact (mem_of_rule? hrule).1

/-! ## What begins and what vanishes -/

/-- A non-terminal begins with a terminal other than the end if one of its alternatives does. -/
theorem Predictive.begins_nonTerminal (hpredictive : grammar.Predictive) (hend : t ≠ .endOfInput)
    (hrule : grammar.rule? name = some rule) (h : grammar.flat.Begins t [.nonTerminal name]) :
    ∃ alternative ∈ rule.alternatives, grammar.flat.Begins t alternative.symbols := by
  obtain ⟨alternatives, hflat, _, halt, hbegins⟩ := Flat.begins_nonTerminal_iff.mp h
  obtain ⟨other, hother, rfl, rfl⟩ := mem_flat_rules.mp hflat
  cases hrule.symm.trans (hpredictive.distinct other hother)
  obtain ⟨alternative, hmem, rfl⟩ := List.mem_map.mp halt
  exact ⟨alternative, hmem, (begins_alternative hend).mp hbegins⟩

/-- A non-terminal vanishes by one of its alternatives. -/
theorem Predictive.vanishes_nonTerminal (hpredictive : grammar.Predictive)
    (hrule : grammar.rule? name = some rule) (h : grammar.flat.Vanishes [.nonTerminal name]) :
    ∃ alternative ∈ rule.alternatives, grammar.flat.Vanishes alternative.symbols := by
  obtain ⟨alternatives, hflat, _, halt, hvanishes⟩ := Flat.vanishes_nonTerminal_iff.mp h
  obtain ⟨other, hother, rfl, rfl⟩ := mem_flat_rules.mp hflat
  cases hrule.symm.trans (hpredictive.distinct other hother)
  obtain ⟨alternative, hmem, rfl⟩ := List.mem_map.mp halt
  exact ⟨alternative, hmem, vanishes_alternative.mp hvanishes⟩

/-- What stands behind a rule stands behind every non-terminal of an alternative that vanishes. -/
theorem follows_of_mem (hrule : rule ∈ grammar.rules) (halt : alternative ∈ rule.alternatives)
    (hvanishes : grammar.flat.Vanishes alternative.symbols)
    (hfollows : grammar.flat.Follows t rule.name) (hname : .nonTerminal name ∈ alternative.symbols) :
    grammar.flat.Follows t name := by
  obtain ⟨front, back, heq⟩ := List.append_of_mem hname
  refine (expects_alternative hrule halt hfollows front name back heq).2 ?_
  rw [heq, Flat.vanishes_append_iff, Flat.vanishes_cons_iff] at hvanishes
  exact hvanishes.2.2

theorem mem_symbols_of_flat {start : String}
    (h : .nonTerminal name ∈ Flat.alternative start rule.name alternative) :
    .nonTerminal name ∈ alternative.symbols := by
  rcases flat_alternative_eq start rule.name alternative with heq | heq
  · rwa [heq] at h
  · rw [heq] at h
    simpa using h

theorem mem_flat_of_symbols {start : String} (h : .nonTerminal name ∈ alternative.symbols) :
    .nonTerminal name ∈ Flat.alternative start rule.name alternative := by
  rcases flat_alternative_eq start rule.name alternative with heq | heq
  · rwa [heq]
  · rw [heq]
    exact List.mem_append_left _ h

/-- **What vanishes does not begin with a terminal that stands behind it**, unless this is the end of the
input. -/
theorem not_begins_of_vanishes (hpredictive : grammar.Predictive) (hend : t ≠ .endOfInput)
    (hbegins : grammar.flat.Begins t symbols) (hvanishes : grammar.flat.Vanishes symbols)
    (hfollows : ∀ name, .nonTerminal name ∈ symbols → grammar.flat.Follows t name) : False := by
  induction hbegins with
  | terminal hne =>
    rcases Flat.eq_of_vanishes_terminal (Flat.vanishes_cons_iff.mp hvanishes).1 with rfl | rfl
    · exact hne rfl
    · exact hend rfl
  | @nonTerminal flatRule flatAlternative _ hflat halt hbody ih =>
    obtain ⟨ruleName, alternatives⟩ := flatRule
    obtain ⟨rule, hmem, rfl, rfl⟩ := mem_flat_rules.mp hflat
    obtain ⟨alternative, halternative, rfl⟩ := List.mem_map.mp halt
    have hbehind := hfollows rule.name List.mem_cons_self
    obtain ⟨empty, hempty, hnothing⟩ := hpredictive.vanishes_nonTerminal
      (hpredictive.distinct rule hmem) (Flat.vanishes_cons_iff.mp hvanishes).1
    -- Both alternatives are picked, so the one that begins with the terminal is the one that vanishes.
    cases hpredictive.eq_of_picks hmem hempty halternative (Or.inr ⟨hnothing, hbehind⟩)
      (Or.inl ((begins_alternative hend).mp hbody))
    exact ih (vanishes_alternative.mpr hnothing) fun name hname =>
      follows_of_mem hmem halternative hnothing hbehind (mem_symbols_of_flat hname)
  | skip _ _ ih =>
    exact ih (Flat.vanishes_cons_iff.mp hvanishes).2 fun name hname =>
      hfollows name (List.mem_cons_of_mem _ hname)

/-- **Reading what begins with the token ahead takes that token**, unless it is the end of the input. -/
theorem Reads.shorter (hpredictive : grammar.Predictive)
    (h : grammar.Reads symbols tokens trees left) (htokens : tokens = token :: more)
    (hend : token.terminal ≠ .endOfInput) (hbegins : grammar.flat.Begins token.terminal symbols) :
    left.length < tokens.length := by
  induction h with
  | nil => exact absurd hbegins Flat.begins_nil
  | empty _ ih =>
    rcases Flat.begins_cons_iff.mp hbegins with hbegins | ⟨-, hbegins⟩
    · exact absurd (Flat.begins_terminal_iff.mp hbegins).1 (Token.terminal_ne_empty _)
    · exact ih htokens hbegins
  | terminal _ hrest =>
    have := hrest.isSuffix.length_le
    simp only [List.length_cons]
    omega
  | @decline _ rule _ _ _ _ _ hrule hdeclines _ ih =>
    subst htokens
    rcases Flat.begins_cons_iff.mp hbegins with hbegins | ⟨-, hbegins⟩
    · obtain ⟨alternative, halt, hbody⟩ := hpredictive.begins_nonTerminal hend hrule hbegins
      exact absurd (Or.inl hbody) (hdeclines.not_picks halt)
    · exact ih rfl hbegins
  | @pick _ rule _ _ _ _ _ mid _ _ _ hrule halt hpicks hbody hrest ihbody ihrest =>
    cases htokens
    have hle := hrest.isSuffix.length_le
    rcases Flat.begins_cons_iff.mp hbegins with hbegins | ⟨-, hbegins⟩
    · obtain ⟨alternative, halt', hbegins⟩ := hpredictive.begins_nonTerminal hend hrule hbegins
      cases hpredictive.eq_of_picks (mem_of_rule? hrule).1 halt halt' hpicks (Or.inl hbegins)
      have := ihbody rfl hbegins
      omega
    · by_cases hmid : mid = token :: more
      · rw [← hmid]
        exact ihrest hmid hbegins
      · have hlt := hbody.isSuffix.length_le
        have hne : mid.length ≠ (token :: more).length := fun heq =>
          hmid (hbody.isSuffix.eq_of_length heq)
        omega

theorem Reads.split {symbol : Symbol} (h : grammar.Reads (symbol :: rest) tokens trees left) :
    ∃ mid, ∃ one others : List (Synthesis.Tree V), grammar.Reads [symbol] tokens one mid ∧
      grammar.Reads rest mid others left := by
  cases h with
  | empty hrest => exact ⟨_, _, _, .empty .nil, hrest⟩
  | terminal heq hrest => exact ⟨_, _, _, .terminal heq .nil, hrest⟩
  | @decline name _ fields _ _ _ _ hrule hdeclines hrest =>
    exact ⟨_, [.node (nodeName name) fields []], _, .decline hrule hdeclines .nil, hrest⟩
  | @pick name _ _ fields _ _ _ _ _ children _ hrule halt hpicks hbody hrest =>
    exact ⟨_, [.node (nodeName name) fields children], _, .pick hrule halt hpicks hbody .nil, hrest⟩

/-! ## Calls on the same tokens -/

/-- Reading that leaves all tokens is of symbols that do not begin with the token ahead, unless it is the
end of the input. -/
theorem Reads.not_begins (hpredictive : grammar.Predictive)
    (h : grammar.Reads symbols (token :: more) trees (token :: more))
    (hend : token.terminal ≠ .endOfInput) : ¬ grammar.flat.Begins token.terminal symbols :=
  fun hbegins => Nat.lt_irrefl _ (h.shorter hpredictive rfl hend hbegins)

/-- Calls from a rule end, if those from the non-terminals end that are reached, before a token is read, in
the alternative that is picked. -/
theorem acc_of_picked (hpredictive : grammar.Predictive) (hrule : rule ∈ grammar.rules)
    (halt : alternative ∈ rule.alternatives) (hpicks : grammar.Picks rule alternative token.terminal)
    (h : ∀ front name back callee, ∀ trees : List (Synthesis.Tree Unit),
      alternative.symbols = front ++ .nonTerminal name :: back →
      grammar.Reads front (token :: more) trees (token :: more) → grammar.rule? name = some callee →
      Acc (fun callee caller => grammar.CallsOn (token :: more) caller callee) callee) :
    Acc (fun callee caller => grammar.CallsOn (token :: more) caller callee) rule := by
  refine Acc.intro _ fun callee hcall => ?_
  obtain ⟨picked, hpicked, _, _, front, name, back, trees, heq, hpicks', hsymbols, hreads, hcallee⟩ :=
    hcall
  cases heq
  obtain rfl : alternative = picked := hpredictive.eq_of_picks hrule halt hpicked hpicks hpicks'
  exact h front name back callee trees hsymbols hreads hcallee

/-- Calls from rules that vanish, but do not begin with the token ahead, end. -/
theorem acc_of_vanishes (hpredictive : grammar.Predictive)
    (hvanishes : grammar.flat.Vanishes symbols)
    (hbegins : ¬ grammar.flat.Begins token.terminal symbols)
    (hfollows : ∀ name, .nonTerminal name ∈ symbols → grammar.flat.Follows token.terminal name)
    (hrule : grammar.rule? name = some rule) (hname : .nonTerminal name ∈ symbols) :
    Acc (fun callee caller => grammar.CallsOn (token :: more) caller callee) rule := by
  induction hvanishes generalizing name rule with
  | nil => cases hname
  | empty hrest ih | endOfInput hrest ih =>
    refine ih (fun h => hbegins (.skip (by constructor; exact .nil) h))
      (fun other hother => hfollows other (List.mem_cons_of_mem _ hother)) hrule ?_
    simpa using hname
  | @nonTerminal flatRule flatAlternative _ hflat halt hbody hrest ihbody ihrest =>
    obtain ⟨ruleName, alternatives⟩ := flatRule
    obtain ⟨head, hmem, rfl, rfl⟩ := mem_flat_rules.mp hflat
    obtain ⟨alternative, halternative, rfl⟩ := List.mem_map.mp halt
    have hnothing := vanishes_alternative.mp hbody
    have hbehind := hfollows head.name List.mem_cons_self
    rcases List.mem_cons.mp hname with heq | hname
    · cases heq
      obtain rfl : head = rule := Option.some.inj ((hpredictive.distinct head hmem).symm.trans hrule)
      refine acc_of_picked hpredictive hmem halternative (Or.inr ⟨hnothing, hbehind⟩)
        fun front inner back callee trees hsymbols _ hcallee => ?_
      refine ihbody (fun h => hbegins (.nonTerminal hflat halt h)) (fun other hother => ?_) hcallee ?_
      · exact follows_of_mem hmem halternative hnothing hbehind (mem_symbols_of_flat hother)
      · exact mem_flat_of_symbols (by simp [hsymbols])
    · exact ihrest (fun h => hbegins (.skip (.nonTerminal hflat halt hbody .nil) h))
        (fun other hother => hfollows other (List.mem_cons_of_mem _ hother)) hrule hname

/-- The flat form of an alternative goes on behind what stands before a non-terminal. -/
theorem exists_flat_back {start : String} {front back : List Symbol}
    (heq : alternative.symbols = front ++ .nonTerminal name :: back) :
    ∃ behind, Flat.alternative start rule.name alternative = front ++ .nonTerminal name :: behind := by
  rcases flat_alternative_eq start rule.name alternative with hflat | hflat
  · exact ⟨back, hflat.trans heq⟩
  · exact ⟨back ++ [.terminal .endOfInput], by rw [hflat, heq]; simp⟩

/-- Calls from what can be reached, before a token is read, in symbols that begin with the token ahead
end. -/
theorem acc_of_begins (hpredictive : grammar.Predictive) (hend : token.terminal ≠ .endOfInput)
    (hbegins : grammar.flat.Begins token.terminal symbols)
    (hfollows : ∀ front name back, symbols = front ++ .nonTerminal name :: back →
      grammar.flat.Begins token.terminal back → grammar.flat.Follows token.terminal name)
    {back : List Symbol} {trees : List (Synthesis.Tree V)}
    (hsymbols : symbols = front ++ .nonTerminal name :: back)
    (hreads : grammar.Reads front (token :: more) trees (token :: more))
    (hrule : grammar.rule? name = some rule) :
    Acc (fun callee caller => grammar.CallsOn (token :: more) caller callee) rule := by
  -- Whatever begins with the token ahead takes it, so only what stands before that is reached.
  induction hbegins generalizing front name back rule trees with
  | terminal hne =>
    cases front with
    | nil => cases hsymbols
    | cons symbol front =>
      obtain ⟨rfl, -⟩ := List.cons.inj hsymbols
      exact absurd (.terminal hne) (hreads.not_begins hpredictive hend)
  | @nonTerminal flatRule flatAlternative _ hflat halt hbody ih =>
    obtain ⟨ruleName, alternatives⟩ := flatRule
    obtain ⟨head, hmem, rfl, rfl⟩ := mem_flat_rules.mp hflat
    obtain ⟨alternative, halternative, rfl⟩ := List.mem_map.mp halt
    cases front with
    | cons symbol front =>
      obtain ⟨rfl, -⟩ := List.cons.inj hsymbols
      exact absurd (.nonTerminal hflat halt hbody) (hreads.not_begins hpredictive hend)
    | nil =>
      cases hsymbols
      obtain rfl : head = rule := Option.some.inj ((hpredictive.distinct head hmem).symm.trans hrule)
      have hpicks : grammar.Picks head alternative token.terminal :=
        Or.inl ((begins_alternative hend).mp hbody)
      refine acc_of_picked hpredictive hmem halternative hpicks
        fun front inner back callee before hinner hbefore hcallee => ?_
      obtain ⟨trees, hreads⟩ := hbefore.retype (W := V)
      obtain ⟨behind, heq⟩ := exists_flat_back hinner
      refine ih (fun front name back heq hback => ?_) heq hreads hcallee
      exact Flat.Follows.of_begins hflat (heq ▸ halt) hback
  | @skip symbol rest hvanishes hrest ih =>
    cases front with
    | nil =>
      cases hsymbols
      have hbehind := hfollows [] name rest rfl hrest
      have honly : ∀ other, .nonTerminal other ∈ [Symbol.nonTerminal name] →
          grammar.flat.Follows token.terminal other := by
        intro other hother
        cases List.mem_singleton.mp hother
        exact hbehind
      exact acc_of_vanishes hpredictive hvanishes
        (fun h => not_begins_of_vanishes hpredictive hend h hvanishes honly) honly hrule
        List.mem_cons_self
    | cons symbol front =>
      obtain ⟨rfl, rfl⟩ := List.cons.inj hsymbols
      obtain ⟨mid, one, others, hfirst, hothers⟩ := hreads.split
      have hmid : mid = token :: more := hfirst.isSuffix.eq_of_length
        (Nat.le_antisymm hfirst.isSuffix.length_le hothers.isSuffix.length_le)
      subst hmid
      exact ih (fun front name back heq => hfollows (_ :: front) name back (congrArg _ heq)) rfl hothers hrule

/-- **Calls on the same tokens end**, if the token ahead is not the end of the input. -/
theorem acc_callsOn (hpredictive : grammar.Predictive) (hend : token.terminal ≠ .endOfInput)
    (hrule : rule ∈ grammar.rules) :
    Acc (fun callee caller => grammar.CallsOn (token :: more) caller callee) rule := by
  refine Acc.intro _ fun callee hcall => ?_
  obtain ⟨alternative, halt, _, _, front, name, back, trees, heq, hpicks, hsymbols, hreads, hcallee⟩ := hcall
  cases heq
  by_cases hbegins : grammar.flat.Begins token.terminal alternative.symbols
  · refine acc_of_begins hpredictive hend hbegins (fun front name back heq hback => ?_) hsymbols hreads
      hcallee
    obtain ⟨rest, hmem, hrest, -⟩ := mem_flat_alternative halt heq
    exact Flat.Follows.of_begins (rule_mem_flat hrule) hmem (hrest _ hback)
  · obtain ⟨hvanishes, hfollows⟩ := hpicks.resolve_left hbegins
    exact acc_of_vanishes hpredictive hvanishes hbegins
      (fun name hname => follows_of_mem hrule halt hvanishes hfollows hname) hcallee
      (by simp [hsymbols])

/-! ## Calls that come back -/

/-- Nothing comes back to itself by steps that end. -/
theorem not_transGen_of_acc {α : Type} {step : α → α → Prop} {a : α}
    (h : Acc (fun inner outer => step outer inner) a) : ¬ TransGen step a a := by
  induction h with
  | intro a _ ih =>
    intro hback
    obtain ⟨b, hstep, hreach⟩ := TransGen.head'_iff.mp hback
    exact ih b hstep (TransGen.tail'_iff.mpr ⟨a, hreach, hstep⟩)

theorem isSuffix_of_reach {caller callee : Rule × List Token}
    (h : ReflTransGen grammar.Calls caller callee) : callee.2 <:+ caller.2 := by
  induction h with
  | refl => exact List.suffix_refl _
  | tail _ h ih => exact h.isSuffix.trans ih

theorem callsOn_of_calls {caller callee : Rule × List Token}
    (h : TransGen grammar.Calls caller callee) (heq : callee.2 = caller.2) :
    TransGen (grammar.CallsOn caller.2) caller.1 callee.1 := by
  induction h with
  | @single callee h =>
    obtain ⟨rule, tokens⟩ := callee
    cases heq
    exact TransGen.single h
  | @tail mid callee hreach h ih =>
    have hmid : mid.2 = caller.2 := (isSuffix_of_reach hreach.to_reflTransGen).eq_of_length
      (Nat.le_antisymm (isSuffix_of_reach hreach.to_reflTransGen).length_le (heq ▸ h.isSuffix.length_le))
    have hrest := ih hmid
    obtain ⟨inner, tokens⟩ := mid
    obtain ⟨rule, left⟩ := callee
    cases hmid
    cases heq
    exact hrest.tail h

/-- **Calls that come back to a rule on the same tokens do so at the end of the input.** -/
theorem isEnd_of_calls_back (hpredictive : grammar.Predictive) (hrule : rule ∈ grammar.rules)
    (h : TransGen grammar.Calls (rule, tokens) (rule, tokens)) :
    ∃ token more, tokens = token :: more ∧ token.isEnd := by
  obtain ⟨_, ⟨_, _, token, more, _, _, _, _, heq, _⟩, _⟩ := TransGen.head'_iff.mp h
  cases heq
  refine ⟨token, more, rfl, ?_⟩
  by_contra hend
  refine not_transGen_of_acc (acc_callsOn hpredictive (fun heq => hend ?_) hrule)
    (callsOn_of_calls h rfl)
  exact Token.terminal_eq_endOfInput.mp heq

end AttributeGrammar.Grammar
