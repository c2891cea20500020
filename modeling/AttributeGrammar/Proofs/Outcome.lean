import Mathlib.Data.List.Forall2

/-!
# How computations in a row end

* `Outcome.bind_eq_ok`, `Outcome.bind_eq_error` — two computations with a state in a row.
* `Outcome.forM_keeps` — a property of the state that every computation of a row keeps.
* `Outcome.forM_establishes` — what every computation of a row establishes for its element.
* `Outcome.exists_mapM`, `Outcome.exists_forM` — rows of computations that all succeed.
* `Outcome.stateBehind` — the state behind a computation, also behind one that fails.
* `Outcome.Ends` — what holds behind a computation that succeeds, and what behind one that fails.
* `Outcome.Fails` — computations all of whose failures are of a kind.
* `Outcome.except_bind_eq_ok`, `Outcome.except_bind_eq_error`, `Outcome.mapM_eq_ok` — computations that only
  may fail; `Outcome.toOption_bind` and `Outcome.eq_ok_iff` leave out which error it is.
* `Outcome.Raises` — such computations all of whose errors are of a kind.
* `Outcome.exists_mem_left`, `Outcome.exists_getElem?_left` — elements that belong to each other;
  `Outcome.pairwise_iff_of_forall₂` compares what holds of any two of them.
-/

set_option autoImplicit false

namespace AttributeGrammar.Outcome

section State

variable {ε σ α β : Type} {first : EStateM ε σ α} {next : α → EStateM ε σ β} {s after : σ}

theorem bind_eq_ok {b : β} :
    (first >>= next) s = .ok b after ↔ ∃ a mid, first s = .ok a mid ∧ next a mid = .ok b after := by
  show EStateM.bind first next s = _ ↔ _
  unfold EStateM.bind
  split
  · rename_i a mid heq
    rw [heq]
    constructor
    · exact fun h => ⟨a, mid, rfl, h⟩
    · rintro ⟨_, _, heq', h⟩
      cases heq'
      exact h
  · rename_i e mid heq
    rw [heq]
    constructor
    · intro h
      cases h
    · rintro ⟨_, _, heq', _⟩
      cases heq'

/-- A computation behind one that ends is run where that ended. -/
theorem bind_of_ok {a : α} {mid : σ} (h : first s = .ok a mid) : (first >>= next) s = next a mid := by
  show EStateM.bind first next s = _
  rw [EStateM.bind, h]

theorem bind_eq_error {e : ε} :
    (first >>= next) s = .error e after ↔
      first s = .error e after ∨ ∃ a mid, first s = .ok a mid ∧ next a mid = .error e after := by
  show EStateM.bind first next s = _ ↔ _
  unfold EStateM.bind
  split
  · rename_i a mid heq
    rw [heq]
    constructor
    · exact fun h => Or.inr ⟨a, mid, rfl, h⟩
    · rintro (heq' | ⟨_, _, heq', h⟩)
      · cases heq'
      · cases heq'
        exact h
  · rename_i e' mid heq
    rw [heq]
    constructor
    · intro h
      cases h
      exact Or.inl rfl
    · rintro (h | ⟨_, _, heq', _⟩)
      · cases h
        rfl
      · cases heq'

theorem discard_eq_ok :
    (discard first : EStateM ε σ Unit) s = .ok () after ↔ ∃ a, first s = .ok a after := by
  show EStateM.map _ first s = _ ↔ _
  unfold EStateM.map
  rcases first s with ⟨a, mid⟩ | ⟨e, mid⟩
  · simp
  · simp

theorem discard_eq_error {e : ε} :
    (discard first : EStateM ε σ Unit) s = .error e after ↔ first s = .error e after := by
  show EStateM.map _ first s = _ ↔ _
  unfold EStateM.map
  rcases first s with ⟨a, mid⟩ | ⟨e', mid⟩
  · simp
  · simp

/-- A relation between states that holds of a state and itself, and of every state and the one that a
computation of a row leaves, holds of the states before and behind the row. -/
theorem forM_relates (relates : σ → σ → Prop) (hrefl : ∀ s, relates s s)
    (htrans : ∀ {a b c}, relates a b → relates b c → relates a c) {step : α → EStateM ε σ Unit}
    {as : List α} (hstep : ∀ a ∈ as, ∀ {s after}, step a s = .ok () after → relates s after)
    (h : as.forM step s = .ok () after) : relates s after := by
  induction as generalizing s with
  | nil =>
    cases h
    exact hrefl _
  | cons a as ih =>
    change (step a >>= fun _ => as.forM step) s = _ at h
    obtain ⟨⟨⟩, mid, hfirst, hrest⟩ := bind_eq_ok.mp h
    exact htrans (hstep a List.mem_cons_self hfirst)
      (ih (fun b hb => hstep b (List.mem_cons_of_mem _ hb)) hrest)

/-- Computations in a row that keep a property of the state, relate the states before and behind them, and
establish something for their element which the relation keeps: behind the row it holds for every element. -/
theorem forM_establishes (keeps : σ → Prop) (relates : σ → σ → Prop) (hrefl : ∀ s, relates s s)
    (htrans : ∀ {a b c}, relates a b → relates b c → relates a c) (holds : α → σ → Prop)
    (hkeep : ∀ {a s after}, relates s after → holds a s → holds a after)
    {step : α → EStateM ε σ Unit} {as : List α}
    (hstep : ∀ a ∈ as, ∀ {s after}, keeps s → step a s = .ok () after →
      keeps after ∧ relates s after ∧ holds a after)
    (hs : keeps s) (h : as.forM step s = .ok () after) :
    keeps after ∧ relates s after ∧ ∀ a ∈ as, holds a after := by
  induction as generalizing s with
  | nil =>
    cases h
    exact ⟨hs, hrefl _, by simp⟩
  | cons a as ih =>
    change (step a >>= fun _ => as.forM step) s = _ at h
    obtain ⟨⟨⟩, mid, hfirst, hrest⟩ := bind_eq_ok.mp h
    obtain ⟨hmid, hrelates, ha⟩ := hstep a List.mem_cons_self hs hfirst
    obtain ⟨hafter, hmore, has⟩ := ih (fun b hb => hstep b (List.mem_cons_of_mem _ hb)) hmid hrest
    exact ⟨hafter, htrans hrelates hmore, List.forall_mem_cons.mpr ⟨hkeep hmore ha, has⟩⟩

/-- A property of the state that every computation of a row keeps is kept by the row. -/
theorem forM_keeps (keeps : σ → Prop) {step : α → EStateM ε σ Unit} {as : List α}
    (hstep : ∀ a ∈ as, ∀ {s after}, keeps s → step a s = .ok () after → keeps after)
    (hs : keeps s) (h : as.forM step s = .ok () after) : keeps after :=
  forM_relates (fun s after => keeps s → keeps after) (fun _ h => h)
    (fun hab hbc h => hbc (hab h)) (fun a ha _ _ h hs => hstep a ha hs h) h hs

/-- As `forM_keeps`, for computations with values. -/
theorem mapM_keeps (keeps : σ → Prop) {step : α → EStateM ε σ β} {as : List α} {bs : List β}
    (hstep : ∀ a ∈ as, ∀ {s after b}, keeps s → step a s = .ok b after → keeps after)
    (hs : keeps s) (h : as.mapM step s = .ok bs after) : keeps after := by
  induction as generalizing s bs with
  | nil =>
    cases h
    exact hs
  | cons a as ih =>
    rw [List.mapM_cons] at h
    obtain ⟨b, mid, hfirst, h⟩ := bind_eq_ok.mp h
    obtain ⟨bs, last, hrest, h⟩ := bind_eq_ok.mp h
    cases h
    exact ih (fun b hb => hstep b (List.mem_cons_of_mem _ hb)) (hstep a List.mem_cons_self hs hfirst)
      hrest

/-- As `forM_establishes`, for computations with values. -/
theorem mapM_establishes (keeps : σ → Prop) (relates : σ → σ → Prop) (hrefl : ∀ s, relates s s)
    (htrans : ∀ {a b c}, relates a b → relates b c → relates a c) (holds : α → β → σ → Prop)
    (hkeep : ∀ {a b s after}, relates s after → holds a b s → holds a b after)
    {step : α → EStateM ε σ β} {as : List α} {bs : List β}
    (hstep : ∀ a ∈ as, ∀ {s after b}, keeps s → step a s = .ok b after →
      keeps after ∧ relates s after ∧ holds a b after)
    (hs : keeps s) (h : as.mapM step s = .ok bs after) :
    keeps after ∧ relates s after ∧ List.Forall₂ (fun a b => holds a b after) as bs := by
  induction as generalizing s bs with
  | nil =>
    cases h
    exact ⟨hs, hrefl _, .nil⟩
  | cons a as ih =>
    rw [List.mapM_cons] at h
    obtain ⟨b, mid, hfirst, h⟩ := bind_eq_ok.mp h
    obtain ⟨bs, last, hrest, h⟩ := bind_eq_ok.mp h
    cases h
    obtain ⟨hmid, hrelates, hb⟩ := hstep a List.mem_cons_self hs hfirst
    obtain ⟨hlast, hmore, hbs⟩ := ih (fun c hc => hstep c (List.mem_cons_of_mem _ hc)) hmid hrest
    exact ⟨hlast, htrans hrelates hmore, .cons (hkeep hmore hb) hbs⟩

/-- A row of computations that all succeed, and keep what makes them succeed. -/
theorem exists_mapM (keeps : σ → Prop) {step : α → EStateM ε σ β} {value : α → β} {as : List α}
    (hstep : ∀ a ∈ as, ∀ {s}, keeps s → ∃ after, step a s = .ok (value a) after ∧ keeps after)
    (hs : keeps s) : ∃ after, as.mapM step s = .ok (as.map value) after ∧ keeps after := by
  induction as generalizing s with
  | nil => exact ⟨s, rfl, hs⟩
  | cons a as ih =>
    obtain ⟨mid, hfirst, hmid⟩ := hstep a List.mem_cons_self hs
    obtain ⟨after, hrest, hafter⟩ := ih (fun c hc => hstep c (List.mem_cons_of_mem _ hc)) hmid
    refine ⟨after, ?_, hafter⟩
    rw [List.mapM_cons]
    exact bind_eq_ok.mpr ⟨_, mid, hfirst, bind_eq_ok.mpr ⟨_, after, hrest, rfl⟩⟩

/-- As `exists_mapM`, for computations without values. -/
theorem exists_forM (keeps : σ → Prop) {step : α → EStateM ε σ Unit} {as : List α}
    (hstep : ∀ a ∈ as, ∀ {s}, keeps s → ∃ after, step a s = .ok () after ∧ keeps after)
    (hs : keeps s) : ∃ after, as.forM step s = .ok () after ∧ keeps after := by
  induction as generalizing s with
  | nil => exact ⟨s, rfl, hs⟩
  | cons a as ih =>
    obtain ⟨mid, hfirst, hmid⟩ := hstep a List.mem_cons_self hs
    obtain ⟨after, hrest, hafter⟩ := ih (fun c hc => hstep c (List.mem_cons_of_mem _ hc)) hmid
    exact ⟨after, bind_eq_ok.mpr ⟨(), mid, hfirst, hrest⟩, hafter⟩

/-! ## States behind failures -/

/-- The state behind a computation, whether it succeeds or fails. -/
def stateBehind (computation : EStateM ε σ α) (s : σ) : σ :=
  match computation s with
  | .ok _ after | .error _ after => after

theorem stateBehind_of_ok {a : α} (h : first s = .ok a after) : stateBehind first s = after := by
  rw [stateBehind, h]

theorem stateBehind_of_error {e : ε} (h : first s = .error e after) : stateBehind first s = after := by
  rw [stateBehind, h]

theorem stateBehind_get_bind {next : σ → EStateM ε σ β} :
    stateBehind (get >>= next) s = stateBehind (next s) s := rfl

theorem stateBehind_discard : stateBehind (discard first) s = stateBehind first s := by
  show stateBehind (EStateM.map _ first) s = _
  unfold stateBehind EStateM.map
  rcases first s with ⟨a, mid⟩ | ⟨e, mid⟩ <;> rfl

/-- A property of the state that holds behind the first of two computations, and behind the second when the
first succeeds, holds behind both. -/
theorem keeps_stateBehind_bind (keeps : σ → Prop) (hfirst : keeps (stateBehind first s))
    (hnext : ∀ a mid, first s = .ok a mid → keeps (stateBehind (next a) mid)) :
    keeps (stateBehind (first >>= next) s) := by
  show keeps (stateBehind (EStateM.bind first next) s)
  unfold stateBehind EStateM.bind
  rcases hresult : first s with ⟨a, mid⟩ | ⟨e, mid⟩
  · exact hnext a mid hresult
  · rwa [stateBehind, hresult] at hfirst

/-- As `forM_keeps`, for rows that may fail. -/
theorem keeps_stateBehind_forM (keeps : σ → Prop) {step : α → EStateM ε σ Unit} {as : List α}
    (hstep : ∀ a ∈ as, ∀ {s}, keeps s → keeps (stateBehind (step a) s)) (hs : keeps s) :
    keeps (stateBehind (as.forM step) s) := by
  induction as generalizing s with
  | nil => exact hs
  | cons a as ih =>
    change keeps (stateBehind (step a >>= fun _ => as.forM step) s)
    have hfirst := hstep a List.mem_cons_self hs
    refine keeps_stateBehind_bind keeps hfirst fun _ mid hmid => ?_
    rw [stateBehind_of_ok hmid] at hfirst
    exact ih (fun b hb => hstep b (List.mem_cons_of_mem _ hb)) hfirst

/-! ## Both ends -/

/-- Where the computation succeeds its value and the state behind it are `good`, and where it fails that
state is `bad`. -/
def Ends (computation : EStateM ε σ α) (s : σ) (good : α → σ → Prop) (bad : σ → Prop) : Prop :=
  match computation s with
  | .ok a after => good a after
  | .error _ after => bad after

variable {good : β → σ → Prop} {mid : α → σ → Prop} {bad : σ → Prop}

theorem Ends.bind (hfirst : Ends first s mid bad)
    (hnext : ∀ a t, first s = .ok a t → mid a t → Ends (next a) t good bad) :
    Ends (first >>= next) s good bad := by
  unfold Ends at hfirst
  rcases hresult : first s with ⟨a, t⟩ | ⟨e, t⟩
  · rw [hresult] at hfirst
    unfold Ends
    rw [bind_of_ok hresult]
    exact hnext a t hresult hfirst
  · rw [hresult] at hfirst
    unfold Ends
    rw [bind_eq_error.mpr (Or.inl hresult)]
    exact hfirst

theorem Ends.get : Ends (MonadState.get : EStateM ε σ σ) s (fun found t => found = s ∧ t = s) bad := ⟨rfl, rfl⟩

theorem Ends.discard {keeps : σ → Prop} (h : Ends first s (fun _ => keeps) bad) :
    Ends (Functor.discard first) s (fun _ => keeps) bad := by
  unfold Ends at h ⊢
  rcases hresult : first s with ⟨a, t⟩ | ⟨e, t⟩
  · rw [hresult] at h
    rw [discard_eq_ok.mpr ⟨a, hresult⟩]
    exact h
  · rw [hresult] at h
    rw [discard_eq_error.mpr hresult]
    exact h

theorem Ends.behind (keeps : σ → Prop) (h : Ends first s (fun _ => keeps) keeps) :
    keeps (stateBehind first s) := by
  unfold Ends at h
  unfold stateBehind
  rcases hresult : first s with ⟨a, t⟩ | ⟨e, t⟩
  · rwa [hresult] at h
  · rwa [hresult] at h

/-- A row of computations that keep a property of the state where they succeed. -/
theorem Ends.mapM (keeps : σ → Prop) {step : α → EStateM ε σ β} {as : List α}
    (hstep : ∀ a ∈ as, ∀ {s}, keeps s → Ends (step a) s (fun _ => keeps) bad) (hs : keeps s) :
    Ends (as.mapM step) s (fun _ => keeps) bad := by
  induction as generalizing s with
  | nil => exact hs
  | cons a as ih =>
    rw [List.mapM_cons]
    refine (hstep a List.mem_cons_self hs).bind fun b t _ ht => ?_
    exact (ih (fun c hc => hstep c (List.mem_cons_of_mem _ hc)) ht).bind fun _ _ _ hlast => hlast

/-- As `Ends.mapM`, for computations without values. -/
theorem Ends.forM (keeps : σ → Prop) {step : α → EStateM ε σ PUnit} {as : List α}
    (hstep : ∀ a ∈ as, ∀ {s}, keeps s → Ends (step a) s (fun _ => keeps) bad) (hs : keeps s) :
    Ends (as.forM step) s (fun _ => keeps) bad := by
  induction as generalizing s with
  | nil => exact hs
  | cons a as ih =>
    exact (hstep a List.mem_cons_self hs).bind fun _ t _ ht =>
      ih (fun c hc => hstep c (List.mem_cons_of_mem _ hc)) ht

theorem Ends.imp {good : α → σ → Prop} {worse : σ → Prop} (h : Ends first s mid bad)
    (hgood : ∀ a t, first s = .ok a t → mid a t → good a t) (hbad : ∀ t, bad t → worse t) :
    Ends first s good worse := by
  unfold Ends at h ⊢
  rcases hresult : first s with ⟨a, t⟩ | ⟨e, t⟩
  · rw [hresult] at h
    exact hgood a t hresult h
  · rw [hresult] at h
    exact hbad t h

theorem bind_congr {other : EStateM ε σ α} {last : α → EStateM ε σ β} (hfirst : first s = other s)
    (hnext : ∀ a t, first s = .ok a t → next a t = last a t) : (first >>= next) s = (other >>= last) s := by
  show EStateM.bind first next s = EStateM.bind other last s
  unfold EStateM.bind
  rw [← hfirst]
  rcases hresult : first s with ⟨a, t⟩ | ⟨e, t⟩
  · exact hnext a t hresult
  · rfl

/-- Rows of computations that do the same as long as a property holds which they keep. -/
theorem mapM_congr (keeps : σ → Prop) {step other : α → EStateM ε σ β} {as : List α}
    (hsame : ∀ a ∈ as, ∀ {s}, keeps s → step a s = other a s)
    (hkeeps : ∀ a ∈ as, ∀ {s after b}, keeps s → step a s = .ok b after → keeps after) (hs : keeps s) :
    as.mapM step s = as.mapM other s := by
  induction as generalizing s with
  | nil => rfl
  | cons a as ih =>
    rw [List.mapM_cons, List.mapM_cons]
    refine bind_congr (hsame a List.mem_cons_self hs) fun b t hok => ?_
    have hrest := ih (fun c hc => hsame c (List.mem_cons_of_mem _ hc))
      (fun c hc => hkeeps c (List.mem_cons_of_mem _ hc)) (hkeeps a List.mem_cons_self hs hok)
    exact bind_congr hrest fun _ _ _ => rfl

/-- As `mapM_congr`, for computations without values. -/
theorem forM_congr (keeps : σ → Prop) {step other : α → EStateM ε σ PUnit} {as : List α}
    (hsame : ∀ a ∈ as, ∀ {s}, keeps s → step a s = other a s)
    (hkeeps : ∀ a ∈ as, ∀ {s after}, keeps s → step a s = .ok ⟨⟩ after → keeps after) (hs : keeps s) :
    as.forM step s = as.forM other s := by
  induction as generalizing s with
  | nil => rfl
  | cons a as ih =>
    exact bind_congr (hsame a List.mem_cons_self hs) fun _ t hok =>
      ih (fun c hc => hsame c (List.mem_cons_of_mem _ hc)) (fun c hc => hkeeps c (List.mem_cons_of_mem _ hc))
        (hkeeps a List.mem_cons_self hs hok)

/-! ## Kinds of failures -/

/-- Every failure of the computation is of a kind. -/
def Fails (kind : ε → Prop) (computation : EStateM ε σ α) : Prop :=
  ∀ s e after, computation s = .error e after → kind e

variable {kind : ε → Prop}

theorem Fails.pure (a : α) : Fails kind (Pure.pure a : EStateM ε σ α) := fun _ _ _ h => by cases h

theorem Fails.get : Fails kind (MonadState.get : EStateM ε σ σ) := fun _ _ _ h => by cases h

theorem Fails.set (s : σ) : Fails kind (MonadStateOf.set s : EStateM ε σ PUnit) := fun _ _ _ h => by cases h

theorem Fails.modify (change : σ → σ) : Fails kind (modify change : EStateM ε σ PUnit) :=
  fun _ _ _ h => by cases h

theorem Fails.throw {e : ε} (he : kind e) : Fails kind (throw e : EStateM ε σ α) := by
  intro s e' after h
  cases h
  exact he

theorem Fails.bind (hfirst : Fails kind first) (hnext : ∀ a, Fails kind (next a)) :
    Fails kind (first >>= next) := by
  intro s e after h
  rcases bind_eq_error.mp h with h | ⟨a, mid, -, h⟩
  · exact hfirst s e after h
  · exact hnext a mid e after h

theorem Fails.discard (h : Fails kind first) : Fails kind (Functor.discard first) :=
  fun s e after hfail => h s e after (discard_eq_error.mp hfail)

theorem Fails.forM {step : α → EStateM ε σ PUnit} {as : List α} (h : ∀ a ∈ as, Fails kind (step a)) :
    Fails kind (as.forM step) := by
  induction as with
  | nil => exact Fails.pure _
  | cons a as ih =>
    exact (h a List.mem_cons_self).bind fun _ => ih fun b hb => h b (List.mem_cons_of_mem _ hb)

end State

section Except

variable {ε α β : Type}

theorem except_bind_eq_ok {first : Except ε α} {next : α → Except ε β} {b : β} :
    (first >>= next) = .ok b ↔ ∃ a, first = .ok a ∧ next a = .ok b := by
  cases first with
  | error e => simp [bind, Except.bind]
  | ok a => simp [bind, Except.bind]

theorem except_bind_eq_error {first : Except ε α} {next : α → Except ε β} {e : ε} :
    (first >>= next) = .error e ↔ first = .error e ∨ ∃ a, first = .ok a ∧ next a = .error e := by
  cases first with
  | error e' => simp [bind, Except.bind]
  | ok a => simp [bind, Except.bind]

theorem toOption_bind (first : Except ε α) (next : α → Except ε β) :
    (first >>= next).toOption = first.toOption.bind fun a => (next a).toOption := by
  cases first <;> rfl

theorem eq_ok_iff {result : Except ε α} {a : α} : result = .ok a ↔ result.toOption = some a := by
  cases result <;> simp [Except.toOption]

/-- A computation on every element gives a value for every element. -/
theorem mapM_eq_ok {step : α → Except ε β} {as : List α} {bs : List β} :
    as.mapM step = .ok bs ↔ List.Forall₂ (fun a b => step a = .ok b) as bs := by
  induction as generalizing bs with
  | nil =>
    simp only [List.mapM_nil, List.forall₂_nil_left_iff]
    constructor
    · rintro ⟨⟩
      rfl
    · rintro rfl
      rfl
  | cons a as ih =>
    rw [List.mapM_cons, except_bind_eq_ok, List.forall₂_cons_left_iff]
    constructor
    · rintro ⟨b, hb, h⟩
      obtain ⟨rest, hrest, h⟩ := except_bind_eq_ok.mp h
      cases h
      exact ⟨b, rest, hb, ih.mp hrest, rfl⟩
    · rintro ⟨b, rest, hb, hrest, rfl⟩
      exact ⟨b, hb, except_bind_eq_ok.mpr ⟨rest, ih.mpr hrest, rfl⟩⟩

variable {relates : α → β → Prop} {as : List α} {bs : List β}

theorem exists_getElem?_left (h : List.Forall₂ relates as bs) {i : Nat} {b : β}
    (hb : bs[i]? = some b) : ∃ a, as[i]? = some a ∧ relates a b := by
  induction h generalizing i with
  | nil => cases hb
  | cons hfirst _ ih =>
    cases i with
    | zero =>
      cases hb
      exact ⟨_, rfl, hfirst⟩
    | succ i => exact ih hb

theorem exists_getElem?_right (h : List.Forall₂ relates as bs) {i : Nat} {a : α}
    (ha : as[i]? = some a) : ∃ b, bs[i]? = some b ∧ relates a b :=
  exists_getElem?_left (List.Forall₂.flip (R := flip relates) h) ha

theorem exists_mem_left (h : List.Forall₂ relates as bs) {b : β} (hb : b ∈ bs) :
    ∃ a ∈ as, relates a b := by
  obtain ⟨i, hi⟩ := List.mem_iff_getElem?.mp hb
  obtain ⟨a, ha, hrelates⟩ := exists_getElem?_left h hi
  exact ⟨a, List.mem_of_getElem? ha, hrelates⟩

theorem exists_mem_right (h : List.Forall₂ relates as bs) {a : α} (ha : a ∈ as) :
    ∃ b ∈ bs, relates a b :=
  exists_mem_left (List.Forall₂.flip (R := flip relates) h) ha

/-- What belongs to one element belongs together. -/
theorem forall₂_join {γ : Type} {other : α → γ → Prop} {cs : List γ} (h : List.Forall₂ relates as bs)
    (hother : List.Forall₂ other as cs) :
    List.Forall₂ (fun b c => ∃ a, relates a b ∧ other a c) bs cs := by
  induction h generalizing cs with
  | nil =>
    cases hother
    exact .nil
  | cons hfirst _ ih =>
    obtain ⟨c, rest, hc, hrest, rfl⟩ := List.forall₂_cons_left_iff.mp hother
    exact .cons ⟨_, hfirst, hc⟩ (ih hrest)

/-- Relations between the elements of two rows that agree on elements which belong to each other. -/
theorem pairwise_iff_of_forall₂ {inner : α → α → Prop} {outer : β → β → Prop} (h : List.Forall₂ relates as bs)
    (hiff : ∀ {a b a' b'}, relates a b → relates a' b' → (inner a a' ↔ outer b b')) :
    as.Pairwise inner ↔ bs.Pairwise outer := by
  induction h with
  | nil => exact ⟨fun _ => .nil, fun _ => .nil⟩
  | @cons a b as bs hfirst hrest ih =>
    have hheads : (∀ a' ∈ as, inner a a') ↔ ∀ b' ∈ bs, outer b b' := by
      constructor
      · intro hinner b' hb'
        obtain ⟨a', ha', hrelates⟩ := exists_mem_left hrest hb'
        exact (hiff hfirst hrelates).mp (hinner a' ha')
      · intro houter a' ha'
        obtain ⟨b', hb', hrelates⟩ := exists_mem_right hrest ha'
        exact (hiff hfirst hrelates).mpr (houter b' hb')
    rw [List.pairwise_cons, List.pairwise_cons, hheads, ih]

theorem forall₂_eq_map_iff {value : α → β} :
    List.Forall₂ (fun a b => b = value a) as bs ↔ bs = as.map value := by
  constructor
  · intro h
    induction h with
    | nil => rfl
    | cons hfirst _ ih => rw [hfirst, ih, List.map_cons]
  · rintro rfl
    rw [List.forall₂_map_right_iff, List.forall₂_same]
    exact fun _ _ => rfl

theorem foldlM_keeps (keeps : β → Prop) {step : β → α → Except ε β} {b last : β}
    (hstep : ∀ a ∈ as, ∀ {b after}, keeps b → step b a = .ok after → keeps after)
    (hb : keeps b) (h : as.foldlM step b = .ok last) : keeps last := by
  induction as generalizing b with
  | nil =>
    cases h
    exact hb
  | cons a as ih =>
    rw [List.foldlM_cons] at h
    obtain ⟨mid, hfirst, hrest⟩ := except_bind_eq_ok.mp h
    exact ih (fun c hc => hstep c (List.mem_cons_of_mem _ hc)) (hstep a List.mem_cons_self hb hfirst) hrest

/-! ## Kinds of errors -/

/-- Every error of the computation is of a kind. -/
def Raises (kind : ε → Prop) (computation : Except ε α) : Prop := ∀ e, computation = .error e → kind e

variable {kind : ε → Prop} {first : Except ε α} {next : α → Except ε β}

theorem Raises.ok (a : α) : Raises kind (.ok a) := fun _ h => by cases h

theorem Raises.error {e : ε} (he : kind e) : Raises kind (.error e : Except ε α) := by
  intro e' h
  cases h
  exact he

theorem Raises.bind (hfirst : Raises kind first) (hnext : ∀ a, first = .ok a → Raises kind (next a)) :
    Raises kind (first >>= next) := by
  intro e h
  rcases except_bind_eq_error.mp h with h | ⟨a, ha, h⟩
  · exact hfirst e h
  · exact hnext a ha e h

theorem Raises.discard (h : Raises kind first) : Raises kind (Functor.discard first) := by
  cases first with
  | error e => exact .error (h e rfl)
  | ok a => exact .ok _

theorem Raises.mapM {step : α → Except ε β} (h : ∀ a ∈ as, Raises kind (step a)) :
    Raises kind (as.mapM step) := by
  induction as with
  | nil => exact .ok []
  | cons a as ih =>
    rw [List.mapM_cons]
    exact (h a List.mem_cons_self).bind fun b _ =>
      (ih fun c hc => h c (List.mem_cons_of_mem _ hc)).bind fun bs _ => .ok (b :: bs)

end Except

end AttributeGrammar.Outcome
