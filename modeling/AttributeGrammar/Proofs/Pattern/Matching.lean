import Mathlib.Logic.Relation
import AttributeGrammar.Pattern.Search

/-!
# What patterns match

* `Regex.Matches` — the pieces of a text that a regular expression matches, by its form alone.
* `Moves` — the steps of a search through a program, one way at a time.
* `Leads`, `leads_code` — every accepting way into the code of an expression leaves it behind a match.
* `Search.reached_of_run` — where a search ends, a way from some start accepts.
* `Pattern.exists_matches` — the end of a search is the end of a match.
-/

set_option autoImplicit false

namespace AttributeGrammar

open Relation (Comp ReflTransGen)

/-- A number of steps of a relation in a row. -/
def Times {α : Type} (relates : α → α → Prop) : Nat → α → α → Prop
  | 0 => Eq
  | count + 1 => Comp relates (Times relates count)

theorem Times.append {α : Type} {relates : α → α → Prop} {first second : Nat} {a b c : α}
    (h : Times relates first a b) (h' : Times relates second b c) : Times relates (first + second) a c := by
  induction first generalizing a with
  | zero =>
    cases h
    rwa [Nat.zero_add]
  | succ first ih =>
    obtain ⟨mid, hstep, hrest⟩ := h
    rw [Nat.succ_add]
    exact ⟨mid, hstep, ih hrest⟩

theorem exists_times {α : Type} {relates : α → α → Prop} {a b : α} (h : ReflTransGen relates a b) :
    ∃ count, Times relates count a b := by
  induction h using ReflTransGen.head_induction_on with
  | refl => exact ⟨0, rfl⟩
  | head hstep _ ih =>
    obtain ⟨count, hrest⟩ := ih
    exact ⟨count + 1, _, hstep, hrest⟩

/-! ## Matches -/

/-- The character in front of a position of a text. -/
def charBefore? (text : List Char) : (position : Nat) → Option Char
  | 0 => none
  | position + 1 => text[position]?

/-- The expression matches the text between two positions. -/
def Regex.Matches (text : List Char) : Regex → (start stop : Nat) → Prop
  | .empty, start, stop => start = stop
  | .set s, start, stop => stop = start + 1 ∧ ∃ c ∈ text[start]?, s.contains c.toNat
  | .assert a, start, stop => start = stop ∧ a.holds (charBefore? text start) text[start]?
  | .seq first second, start, stop => ∃ mid, first.Matches text start mid ∧ second.Matches text mid stop
  | .alt first second, start, stop => first.Matches text start stop ∨ second.Matches text start stop
  | .rounds least most _ body, start, stop =>
    ∃ count, least ≤ count ∧ (∀ bound ∈ most, count ≤ max least bound) ∧
      Times (body.Matches text) count start stop

/-! ## Ways through a program -/

/-- A step of a search: from an instruction and a position of the text to the next ones. -/
inductive Moves (program : Array Instruction) (text : List Char) : Nat × Nat → Nat × Nat → Prop where
  | set {pc position : Nat} {s : CodeSet} {c : Char} : program[pc]? = some (.set s) → text[position]? = some c →
      s.contains c.toNat → Moves program text (pc, position) (pc + 1, position + 1)
  | assert {pc position : Nat} {a : Assertion} : program[pc]? = some (.assert a) →
      a.holds (charBefore? text position) text[position]? → Moves program text (pc, position) (pc + 1, position)
  | jump {pc position target : Nat} : program[pc]? = some (.jump target) →
      Moves program text (pc, position) (target, position)
  | first {pc position first second : Nat} : program[pc]? = some (.split first second) →
      Moves program text (pc, position) (first, position)
  | second {pc position first second : Nat} : program[pc]? = some (.split first second) →
      Moves program text (pc, position) (second, position)

/-- Every way from the instruction `entry` that accepts comes, behind a piece of the text that `piece` holds
of, to the instruction `exit`. -/
def Leads (program : Array Instruction) (text : List Char) (piece : Nat → Nat → Prop)
    (entry exit : Nat) : Prop :=
  ∀ count start last, Times (Moves program text) count (entry, start) last → program[last.1]? = some .accept →
    ∃ less ≤ count, ∃ stop, piece start stop ∧ Times (Moves program text) less (exit, stop) last

variable {program : Array Instruction} {text : List Char} {piece other : Nat → Nat → Prop}
    {entry mid exit pc : Nat}

theorem leads_refl (place : Nat) : Leads program text Eq place place :=
  fun count start _ h _ => ⟨count, Nat.le_refl _, start, rfl, h⟩

theorem Leads.comp (h : Leads program text piece entry mid) (h' : Leads program text other mid exit) :
    Leads program text (Comp piece other) entry exit := by
  intro count start last hway haccept
  obtain ⟨less, hless, place, hpiece, hrest⟩ := h count start last hway haccept
  obtain ⟨fewer, hfewer, stop, hother, hend⟩ := h' less place last hrest haccept
  exact ⟨fewer, Nat.le_trans hfewer hless, stop, ⟨place, hpiece, hother⟩, hend⟩

theorem Leads.mono (h : Leads program text piece entry exit)
    (hpiece : ∀ start stop, piece start stop → other start stop) : Leads program text other entry exit := by
  intro count start last hway haccept
  obtain ⟨less, hless, stop, hholds, hrest⟩ := h count start last hway haccept
  exact ⟨less, hless, stop, hpiece start stop hholds, hrest⟩

/-- An instruction that does not accept is left by a step. -/
theorem exists_step {count start : Nat} {last : Nat × Nat} {instruction : Instruction}
    (hway : Times (Moves program text) count (pc, start) last) (haccept : program[last.1]? = some .accept)
    (hat : program[pc]? = some instruction) (hne : instruction ≠ .accept) :
    ∃ less next, count = less + 1 ∧ Moves program text (pc, start) next ∧
      Times (Moves program text) less next last := by
  cases count with
  | zero =>
    cases hway
    rw [hat, Option.some.injEq] at haccept
    exact absurd haccept hne
  | succ less =>
    obtain ⟨next, hstep, hrest⟩ := hway
    exact ⟨less, next, rfl, hstep, hrest⟩

theorem leads_set {s : CodeSet} (hat : program[pc]? = some (.set s)) :
    Leads program text ((Regex.set s).Matches text) pc (pc + 1) := by
  intro count start last hway haccept
  obtain ⟨less, next, rfl, hstep, hrest⟩ := exists_step hway haccept hat (by simp)
  cases hstep with
  | set hset hchar hcontains =>
    cases hat.symm.trans hset
    exact ⟨less, Nat.le_succ _, start + 1, ⟨rfl, _, hchar, hcontains⟩, hrest⟩
  | assert hother | jump hother | first hother | second hother => cases hat.symm.trans hother

theorem leads_assert {a : Assertion} (hat : program[pc]? = some (.assert a)) :
    Leads program text ((Regex.assert a).Matches text) pc (pc + 1) := by
  intro count start last hway haccept
  obtain ⟨less, next, rfl, hstep, hrest⟩ := exists_step hway haccept hat (by simp)
  cases hstep with
  | assert hassert hholds =>
    cases hat.symm.trans hassert
    exact ⟨less, Nat.le_succ _, start, ⟨rfl, hholds⟩, hrest⟩
  | set hother | jump hother | first hother | second hother => cases hat.symm.trans hother

theorem leads_jump {target : Nat} (hat : program[pc]? = some (.jump target)) :
    Leads program text Eq pc target := by
  intro count start last hway haccept
  obtain ⟨less, next, rfl, hstep, hrest⟩ := exists_step hway haccept hat (by simp)
  cases hstep with
  | jump hjump =>
    cases hat.symm.trans hjump
    exact ⟨less, Nat.le_succ _, start, rfl, hrest⟩
  | set hother | assert hother | first hother | second hother => cases hat.symm.trans hother

/-- A split leaves one step less for either way. -/
theorem exists_split {first second count start : Nat} {last : Nat × Nat}
    (hway : Times (Moves program text) count (pc, start) last) (haccept : program[last.1]? = some .accept)
    (hat : program[pc]? = some (.split first second)) :
    ∃ less, count = less + 1 ∧ (Times (Moves program text) less (first, start) last ∨
      Times (Moves program text) less (second, start) last) := by
  obtain ⟨less, next, rfl, hstep, hrest⟩ := exists_step hway haccept hat (by simp)
  cases hstep with
  | first hsplit =>
    cases hat.symm.trans hsplit
    exact ⟨less, rfl, .inl hrest⟩
  | second hsplit =>
    cases hat.symm.trans hsplit
    exact ⟨less, rfl, .inr hrest⟩
  | set hother | assert hother | jump hother => cases hat.symm.trans hother

theorem exists_choose {greedy : Bool} {first second count start : Nat} {last : Nat × Nat}
    (hway : Times (Moves program text) count (pc, start) last) (haccept : program[last.1]? = some .accept)
    (hat : program[pc]? = some (Regex.choose greedy first second)) :
    ∃ less, count = less + 1 ∧ (Times (Moves program text) less (first, start) last ∨
      Times (Moves program text) less (second, start) last) := by
  cases greedy with
  | true => exact exists_split hway haccept hat
  | false =>
    obtain ⟨less, hcount, hrest⟩ := exists_split hway haccept hat
    exact ⟨less, hcount, hrest.symm⟩

theorem leads_choose {greedy : Bool} {first second : Nat}
    (hat : program[pc]? = some (Regex.choose greedy first second))
    (h : Leads program text piece first exit) (h' : Leads program text other second exit) :
    Leads program text (fun start stop => piece start stop ∨ other start stop) pc exit := by
  intro count start last hway haccept
  obtain ⟨less, rfl, hrest | hrest⟩ := exists_choose hway haccept hat
  · obtain ⟨fewer, hfewer, stop, hpiece, hend⟩ := h less start last hrest haccept
    exact ⟨fewer, Nat.le_succ_of_le hfewer, stop, .inl hpiece, hend⟩
  · obtain ⟨fewer, hfewer, stop, hpiece, hend⟩ := h' less start last hrest haccept
    exact ⟨fewer, Nat.le_succ_of_le hfewer, stop, .inr hpiece, hend⟩

/-! ## Code -/

/-- The program has the code at a place. -/
def Carries (program : Array Instruction) (place : Nat) (code : List Instruction) : Prop :=
  ∀ (i : Nat) (instruction : Instruction), code[i]? = some instruction → program[place + i]? = some instruction

theorem carries_append {place : Nat} {front back : List Instruction} :
    Carries program place (front ++ back) ↔
      Carries program place front ∧ Carries program (place + front.length) back := by
  constructor
  · intro h
    refine ⟨fun i instruction hi => h i instruction ?_, fun i instruction hi => ?_⟩
    · rwa [List.getElem?_append_left (List.getElem?_eq_some_iff.mp hi).1]
    · rw [Nat.add_assoc]
      refine h _ instruction ?_
      rwa [List.getElem?_append_right (Nat.le_add_right _ _), Nat.add_sub_cancel_left]
  · rintro ⟨hfront, hback⟩ i instruction hi
    rcases Nat.lt_or_ge i front.length with hlt | hge
    · rw [List.getElem?_append_left hlt] at hi
      exact hfront i instruction hi
    · rw [List.getElem?_append_right hge] at hi
      have hplace := hback _ instruction hi
      rwa [Nat.add_assoc, Nat.add_sub_cancel' hge] at hplace

theorem carries_cons {place : Nat} {instruction : Instruction} {code : List Instruction} :
    Carries program place (instruction :: code) ↔
      program[place]? = some instruction ∧ Carries program (place + 1) code := by
  rw [← List.singleton_append, carries_append]
  refine and_congr_left fun _ => ⟨fun h => h 0 instruction rfl, fun h i other hi => ?_⟩
  obtain ⟨rfl, rfl⟩ : i = 0 ∧ instruction = other := by
    cases i with
    | zero => exact ⟨rfl, Option.some.inj hi⟩
    | succ i => cases hi
  exact h

namespace Regex

section Rounds

variable {code : Nat → List Instruction} {greedy : Bool} {size : Nat}

/-- The code of `count` copies is as long as `count` times the code. -/
theorem length_copies (hsize : ∀ place, (code place).length = size) (count place : Nat) :
    (copies code count place).length = count * size := by
  induction count generalizing place with
  | zero => simp [copies]
  | succ count ih => simp [copies, ih, hsize, Nat.succ_mul, Nat.add_comm]

theorem length_optional (hsize : ∀ place, (code place).length = size) (target count place : Nat) :
    (optional code greedy target count place).length = count * (size + 1) := by
  induction count generalizing place with
  | zero => simp [optional]
  | succ count ih =>
    simp only [optional, List.length_cons, List.length_append, ih, hsize, Nat.succ_mul]
    omega

variable (hcode : ∀ place, Carries program place (code place) →
  Leads program text piece place (place + (code place).length))
include hcode

theorem leads_copies {count place : Nat} (h : Carries program place (copies code count place)) :
    Leads program text (Times piece count) place (place + (copies code count place).length) := by
  induction count generalizing place with
  | zero => exact leads_refl place
  | succ count ih =>
    rw [copies, carries_append] at h
    rw [copies, List.length_append, ← Nat.add_assoc]
    exact (hcode place h.1).comp (ih h.2)

/-- Code that may be left out leads on behind some of its copies. -/
theorem leads_optional {target count place : Nat}
    (h : Carries program place (optional code greedy target count place))
    (htarget : target = place + (optional code greedy target count place).length) :
    Leads program text (fun start stop => ∃ rounds ≤ count, Times piece rounds start stop) place target := by
  induction count generalizing place with
  | zero =>
    obtain rfl : target = place := htarget
    exact (leads_refl target).mono fun _ _ heq => ⟨0, Nat.le_refl _, heq⟩
  | succ count ih =>
    rw [optional, List.cons_append, carries_cons, carries_append] at h
    obtain ⟨hchoose, hfirst, hrest⟩ := h
    rw [optional, List.cons_append, List.length_cons, List.length_append] at htarget
    have hround := (hcode _ hfirst).comp (ih hrest (by omega))
    refine (leads_choose hchoose hround (leads_refl target)).mono ?_
    rintro start stop (⟨mid, hpiece, rounds, hrounds, htimes⟩ | rfl)
    · exact ⟨rounds + 1, Nat.succ_le_succ hrounds, mid, hpiece, htimes⟩
    · exact ⟨0, Nat.zero_le _, rfl⟩

/-- Rounds lead on behind at least one. The induction is on the number of steps, since a way may go round
often. -/
theorem leads_oneOrMore {place : Nat} (h : Carries program place (oneOrMore code greedy place)) :
    Leads program text (fun start stop => ∃ rounds, 1 ≤ rounds ∧ Times piece rounds start stop) place
      (place + (oneOrMore code greedy place).length) := by
  rw [oneOrMore, carries_append, carries_cons] at h
  obtain ⟨hbody, hchoose, -⟩ := h
  intro count
  induction count using Nat.strongRecOn with
  | _ count ih =>
    intro start last hway haccept
    obtain ⟨less, hless, mid, hpiece, hrest⟩ := hcode place hbody count start last hway haccept
    obtain ⟨fewer, rfl, hagain | hend⟩ := exists_choose hrest haccept hchoose
    · obtain ⟨least, hleast, stop, ⟨rounds, -, htimes⟩, hout⟩ := ih fewer hless mid last hagain haccept
      exact ⟨least, by omega, stop, ⟨rounds + 1, by omega, mid, hpiece, htimes⟩, hout⟩
    · refine ⟨fewer, by omega, mid, ⟨1, Nat.le_refl _, mid, hpiece, rfl⟩, ?_⟩
      rwa [oneOrMore, List.length_append, List.length_singleton, ← Nat.add_assoc]

/-- **The code of rounds leads on behind a number of rounds that is allowed.** -/
theorem leads_roundsCode {place least : Nat} {most : Option Nat} (hsize : ∀ place, (code place).length = size)
    (h : Carries program place (roundsCode code greedy place least most)) :
    Leads program text (fun start stop => ∃ rounds, least ≤ rounds ∧
      (∀ bound ∈ most, rounds ≤ max least bound) ∧
      Times piece rounds start stop) place (place + (roundsCode code greedy place least most).length) := by
  cases most with
  | some most =>
    have hlength : roundsCode code greedy place least (some most) = copies code least place ++
        optional code greedy (place + (copies code least place).length + (most - least) * (size + 1))
          (most - least)
          (place + (copies code least place).length) := by
      simp only [roundsCode, hsize]
    rw [hlength, carries_append] at h
    rw [hlength, List.length_append, length_optional hsize, ← Nat.add_assoc]
    refine ((leads_copies hcode h.1).comp (leads_optional hcode h.2 (by rw [length_optional hsize]))).mono ?_
    rintro start stop ⟨mid, hfront, rounds, hrounds, htimes⟩
    refine ⟨least + rounds, Nat.le_add_right _ _, fun bound hbound => ?_, hfront.append htimes⟩
    cases hbound
    omega
  | none =>
    cases least with
    | zero =>
      rw [roundsCode, carries_cons] at h
      obtain ⟨hchoose, hbody⟩ := h
      have hrounds := leads_oneOrMore hcode hbody
      rw [roundsCode, List.length_cons, ← Nat.add_assoc, Nat.add_right_comm]
      refine (leads_choose hchoose hrounds (leads_refl _)).mono ?_
      rintro start stop (⟨rounds, -, htimes⟩ | rfl)
      · exact ⟨rounds, Nat.zero_le _, by simp, htimes⟩
      · exact ⟨0, Nat.le_refl _, by simp, rfl⟩
    | succ least =>
      rw [roundsCode, carries_append] at h
      rw [roundsCode, List.length_append, ← Nat.add_assoc]
      refine ((leads_copies hcode h.1).comp (leads_oneOrMore hcode h.2)).mono ?_
      rintro start stop ⟨mid, hfront, rounds, hrounds, htimes⟩
      exact ⟨least + rounds, by omega, by simp, hfront.append htimes⟩

end Rounds

/-- The code of an expression is as long at every place. -/
theorem length_code (regex : Regex) (place other : Nat) :
    (regex.code place).length = (regex.code other).length := by
  induction regex generalizing place other with
  | empty | set | assert => rfl
  | seq first second ihfirst ihsecond =>
    simp only [code, List.length_append]
    rw [ihfirst place other, ihsecond _ (other + (first.code other).length)]
  | alt first second ihfirst ihsecond =>
    simp only [code, List.length_append, List.length_cons]
    rw [ihfirst (place + 1) (other + 1), ihsecond _ (other + 1 + (first.code (other + 1)).length + 1)]
  | rounds least most greedy body ih =>
    have hsize := fun place => ih place 0
    cases most with
    | some most => simp only [code, roundsCode, List.length_append, length_copies hsize, length_optional hsize]
    | none =>
      cases least with
      | zero => simp only [code, roundsCode, oneOrMore, List.length_append, List.length_cons, hsize]
      | succ least =>
        simp only [code, roundsCode, oneOrMore, List.length_append, List.length_singleton,
          length_copies hsize, hsize]

/-- **Every accepting way into the code of an expression leaves it behind a match.** -/
theorem leads_code {regex : Regex} {place : Nat} (h : Carries program place (regex.code place)) :
    Leads program text (regex.Matches text) place (place + (regex.code place).length) := by
  induction regex generalizing place with
  | empty => exact leads_refl place
  | set s => exact leads_set (carries_cons.mp h).1
  | assert a => exact leads_assert (carries_cons.mp h).1
  | seq first second ihfirst ihsecond =>
    rw [code, carries_append] at h
    rw [code, List.length_append, ← Nat.add_assoc]
    exact (ihfirst h.1).comp (ihsecond h.2)
  | alt first second ihfirst ihsecond =>
    have hexit : place + ((alt first second).code place).length =
      place + 1 + (first.code (place + 1)).length + 1 +
        (second.code (place + 1 + (first.code (place + 1)).length + 1)).length := by
      simp only [code, List.cons_append, List.length_cons, List.length_append]
      omega
    rw [code, List.cons_append, carries_cons, carries_append, carries_cons] at h
    obtain ⟨hsplit, hleft, hjump, hright⟩ := h
    have hchoose : program[place]? = some (choose true _ _) := hsplit
    rw [hexit]
    refine (leads_choose hchoose ((ihfirst hleft).comp (leads_jump hjump)) (ihsecond hright)).mono ?_
    rintro start stop (⟨_, hfirst, rfl⟩ | hsecond)
    · exact .inl hfirst
    · exact .inr hsecond
  | rounds least most greedy body ih =>
      exact leads_roundsCode (fun _ => ih) (fun place => length_code body place 0) h

/-- **Every way through the program of an expression accepts behind a match.** -/
theorem matches_of_program {regex : Regex} {start : Nat} {last : Nat × Nat}
    (hway : ReflTransGen (Moves regex.program text) (0, start) last)
    (haccept : regex.program[last.1]? = some .accept) :
    regex.Matches text start last.2 := by
  have hcarries : Carries regex.program 0 (regex.code 0 ++ [.accept]) := by
    intro i instruction hi
    rw [Nat.zero_add, program, List.getElem?_toArray]
    exact hi
  obtain ⟨hcode, hend⟩ := carries_append.mp hcarries
  obtain ⟨count, htimes⟩ := exists_times hway
  obtain ⟨less, -, stop, hmatches, hrest⟩ := leads_code hcode count start last htimes haccept
  -- The code ends at the accepting instruction, from which there is no step.
  cases less with
  | zero =>
    cases hrest
    exact hmatches
  | succ less =>
    obtain ⟨next, hstep, -⟩ := hrest
    have hat := (carries_cons.mp hend).1
    cases hstep with
    | set hother | assert hother | jump hother | first hother | second hother => cases hat.symm.trans hother

end Regex

/-! ## Searches -/

namespace Search

/-- A way from some start in the text comes to the instruction at the position. -/
def Reached (program : Array Instruction) (text : List Char) (position pc : Nat) : Prop :=
  ∃ start ≤ text.length, ReflTransGen (Moves program text) (0, start) (pc, position)

variable {position : Nat}

theorem Reached.step {next : Nat × Nat} (h : Reached program text position pc)
    (hstep : Moves program text (pc, position) next) : Reached program text next.2 next.1 := by
  obtain ⟨start, hstart, hway⟩ := h
  exact ⟨start, hstart, hway.tail hstep⟩

/-- What is reachable without a character from instructions that are reached is reached. -/
theorem reached_of_closure {fuel : Nat} {seen : Array Bool} {work : List Nat}
    (hwork : ∀ pc ∈ work, Reached program text position pc) :
    ∀ pc ∈ closure program (charBefore? text position) text[position]? fuel seen work,
      Reached program text position pc := by
  induction fuel generalizing seen work with
  | zero => simp [closure]
  | succ fuel ih =>
    cases work with
    | nil => simp [closure]
    | cons pc work =>
      obtain ⟨hpc, hrest⟩ := List.forall_mem_cons.mp hwork
      rw [closure]
      split
      · exact ih hrest
      · dsimp only
        split
        · exact ih hrest
        · exact List.forall_mem_cons.mpr ⟨hpc, ih hrest⟩
        · exact List.forall_mem_cons.mpr ⟨hpc, ih hrest⟩
        · rename_i a hassert
          refine ih ?_
          split
          · exact List.forall_mem_cons.mpr ⟨hpc.step (.assert hassert ‹_›), hrest⟩
          · exact hrest
        · rename_i target hjump
          exact ih (List.forall_mem_cons.mpr ⟨hpc.step (.jump hjump), hrest⟩)
        · rename_i first second hsplit
          exact ih (List.forall_mem_cons.mpr ⟨hpc.step (.first hsplit),
            List.forall_mem_cons.mpr ⟨hpc.step (.second hsplit), hrest⟩⟩)

theorem untilAccept_spec (ways : List Nat) :
    (∀ pc ∈ (untilAccept program ways).1, pc ∈ ways) ∧
      ((untilAccept program ways).2 = true → ∃ pc ∈ ways, program[pc]? = some .accept) := by
  induction ways with
  | nil => simp [untilAccept]
  | cons pc ways ih =>
    rw [untilAccept]
    split
    · rename_i haccept
      exact ⟨by simp, fun _ => ⟨pc, List.mem_cons_self, haccept⟩⟩
    · refine ⟨fun other hother => ?_, fun haccepts => ?_⟩
      · rcases List.mem_cons.mp hother with rfl | hother
        · exact List.mem_cons_self
        · exact List.mem_cons_of_mem _ (ih.1 other hother)
      · obtain ⟨other, hother, haccept⟩ := ih.2 haccepts
        exact ⟨other, List.mem_cons_of_mem _ hother, haccept⟩

theorem reached_of_advance {c : Char} {ways : List Nat} (hchar : text[position]? = some c)
    (hways : ∀ pc ∈ ways, Reached program text position pc) :
    ∀ pc ∈ advance program c ways, Reached program text (position + 1) pc := by
  intro pc hpc
  obtain ⟨way, hway, hover⟩ := List.mem_filterMap.mp hpc
  split at hover
  · rename_i s hset
    split at hover
    · rename_i hcontains
      cases hover
      exact (hways way hway).step (.set hset hchar hcontains)
    · cases hover
  · cases hover

/-- A search may start a way at every position. -/
theorem reached_of_start {work : List Nat} (hposition : position ≤ text.length)
    (hwork : ∀ pc ∈ work, Reached program text position pc) (anchored : Bool) (best : Option Nat) :
    ∀ pc ∈ (if anchored || best.isSome then work else work ++ [0]), Reached program text position pc := by
  intro pc hpc
  split at hpc
  · exact hwork pc hpc
  · rcases List.mem_append.mp hpc with hpc | hpc
    · exact hwork pc hpc
    · obtain rfl := List.mem_singleton.mp hpc
      exact ⟨position, hposition, .refl⟩

theorem reached_of_threads {work : List Nat} {rest : List Char} (hrest : text.drop position = rest)
    (hwork : ∀ pc ∈ work, Reached program text position pc) :
    ∀ pc ∈ threads program (charBefore? text position) rest.head? work, Reached program text position pc := by
  rw [← hrest, List.head?_drop]
  exact reached_of_closure hwork

theorem accepts_of_found {ways : List Nat} {best : Option Nat} {stop : Nat}
    (hways : ∀ pc ∈ ways, Reached program text position pc)
    (h : (if (untilAccept program ways).2 then some position else best) = some stop) :
    best = some stop ∨ ∃ pc, Reached program text stop pc ∧ program[pc]? = some .accept := by
  split at h
  · rename_i haccepts
    cases h
    obtain ⟨pc, hpc, haccept⟩ := (untilAccept_spec _).2 haccepts
    exact .inr ⟨pc, hways pc hpc, haccept⟩
  · exact .inl h

/-- **Where a search ends, a way accepts**, unless it ends where a match was found before. -/
theorem reached_of_run {anchored : Bool} {work : List Nat} {best : Option Nat} {rest : List Char} {stop : Nat}
    (hrest : text.drop position = rest) (hposition : position ≤ text.length)
    (hwork : ∀ pc ∈ work, Reached program text position pc)
    (h : run program anchored (charBefore? text position) work position best rest = some stop) :
    best = some stop ∨ ∃ pc, Reached program text stop pc ∧ program[pc]? = some .accept := by
  induction rest generalizing position work best with
  | nil =>
    unfold run at h
    dsimp only at h
    have hstarts := reached_of_start hposition hwork anchored best
    generalize (if anchored || best.isSome then work else work ++ [0]) = starts at h hstarts
    exact accepts_of_found (reached_of_threads hrest hstarts) h
  | cons c rest ih =>
    have hchar : text[position]? = some c := by rw [← List.head?_drop, hrest, List.head?_cons]
    have hlt : position < text.length := (List.getElem?_eq_some_iff.mp hchar).1
    have hbefore : some c = charBefore? text (position + 1) := hchar.symm
    unfold run at h
    dsimp only at h
    have hstarts := reached_of_start hposition hwork anchored best
    generalize (if anchored || best.isSome then work else work ++ [0]) = starts at h hstarts
    have hthreads := reached_of_threads hrest hstarts
    generalize threads program _ _ starts = reached at h hthreads
    have hfound (hstop : (if (untilAccept program reached).2 then some position else best) = some stop) :=
      accepts_of_found hthreads hstop
    generalize (if (untilAccept program reached).2 then some position else best) = found at h hfound
    split at h
    · exact hfound h
    · rw [hbefore] at h
      rcases ih (by rw [← List.tail_drop, hrest, List.tail_cons]) hlt
        (reached_of_advance hchar fun pc hpc => hthreads pc ((untilAccept_spec _).1 pc hpc)) h
        with hbest | hreached
      · exact hfound hbest
      · exact .inr hreached

end Search

/-- **The end of a search is the end of a match.** -/
theorem Pattern.exists_matches {pattern : List Char} {compiled : Pattern.Compiled} {stop : Nat}
    (hcompiled : Pattern.compile? pattern = some compiled) (h : compiled.matchEnd? text = some stop) :
    ∃ regex, Regex.parse? pattern = some regex ∧ ∃ start ≤ text.length, regex.Matches text start stop := by
  obtain ⟨piece, hpiece, hmade⟩ := Option.bind_eq_some_iff.mp hcompiled
  have hregex : Regex.parse? pattern = some piece.regex := congrArg (Option.map Pattern.Piece.regex) hpiece
  generalize piece.regex = regex at hmade hregex
  obtain rfl : compiled = ⟨regex.program, regex.isAnchored⟩ := by
    split at hmade
    · cases hmade
    · cases hmade
      rfl
  have hstarts : ∀ pc ∈ (if regex.isAnchored then [0] else []), Search.Reached regex.program text 0 pc := by
    intro pc hpc
    split at hpc
    · obtain rfl := List.mem_singleton.mp hpc
      exact ⟨0, Nat.zero_le _, .refl⟩
    · cases hpc
  rcases Search.reached_of_run List.drop_zero (Nat.zero_le _) hstarts h with
    hnone | ⟨pc, ⟨start, hstart, hway⟩, haccept⟩
  · cases hnone
  · exact ⟨regex, hregex, start, hstart, Regex.matches_of_program hway haccept⟩

end AttributeGrammar
