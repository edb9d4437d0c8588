import ViewModifiers.Interface.TokenReader

/-!
# Runs of token readers

A run is taken apart along the order of its steps. A loop runs as its steps do, if each of them uses
up a token: the tokens ahead at the start are then enough to measure it (`run'_iterate`).
-/

namespace ViewModifiers.Interface.TokenReader

open Source

variable {α β σ : Type}

/-! ## Sequences -/

theorem run'_bind_of_ok {r : TokenReader α} {f : α → TokenReader β} {s s₁ : TokenStream} {a : α}
    (h : r.run' s = (.ok a, s₁)) : (r >>= f).run' s = (f a).run' s₁ := by
  rw [run'_bind, h]

/-- A sequence that succeeds has steps that do. -/
theorem exists_of_run'_bind {r : TokenReader α} {f : α → TokenReader β} {s u : TokenStream} {b : β}
    (run : (r >>= f).run' s = (.ok b, u)) :
    ∃ a t, r.run' s = (.ok a, t) ∧ (f a).run' t = (.ok b, u) := by
  rw [run'_bind] at run
  rcases ran : r.run' s with ⟨e | a, t⟩
  · rw [ran] at run
    cases run
  · rw [ran] at run
    exact ⟨a, t, rfl, run⟩

/-- A reader does not succeed on a stream. -/
def Fails (r : TokenReader α) (s : TokenStream) : Prop := ∃ e t, r.run' s = (.error e, t)

theorem Fails.bind {r : TokenReader α} {s : TokenStream} (fails : Fails r s)
    (f : α → TokenReader β) : Fails (r >>= f) s := by
  obtain ⟨e, t, failed⟩ := fails
  exact ⟨e, t, by rw [run'_bind, failed]⟩

theorem Fails.of_run' {r : TokenReader α} {r' : TokenReader α} {s s' : TokenStream}
    (fails : Fails r s) (same : r'.run' s' = r.run' s) : Fails r' s' := by
  obtain ⟨e, t, failed⟩ := fails
  exact ⟨e, t, same.trans failed⟩

@[simp] theorem run'_get (s : TokenStream) :
    (get : TokenReader TokenStream).run' s = (.ok s, s) := rfl

theorem run'_accept_self (kind : TokenKind) (value : String) (p : Position) (ts : List Token)
    (finish : Position) :
    (accept kind).run' ⟨⟨kind, value, p⟩ :: ts, finish⟩ = (.ok true, ⟨ts, finish⟩) := by
  rw [run'_accept, TokenStream.current_cons, if_pos rfl, TokenStream.rest_cons]

theorem run'_expect_of_kind {kind : TokenKind} {t : Token} (is : t.kind = kind) (ts : List Token)
    (finish : Position) : (expect kind).run' ⟨t :: ts, finish⟩ = (.ok t, ⟨ts, finish⟩) := by
  rw [run'_expect, TokenStream.current_cons, if_pos is, TokenStream.rest_cons]

theorem run'_expect_self (kind : TokenKind) (value : String) (p : Position) (ts : List Token)
    (finish : Position) :
    (expect kind).run' ⟨⟨kind, value, p⟩ :: ts, finish⟩ =
      (.ok ⟨kind, value, p⟩, ⟨ts, finish⟩) :=
  run'_expect_of_kind rfl ts finish

theorem run'_expectName_cons {t : Token} (h : t.kind.isNameLike = true) (ts : List Token)
    (finish : Position) : expectName.run' ⟨t :: ts, finish⟩ = (.ok t, ⟨ts, finish⟩) := by
  rw [run'_expectName, TokenStream.current_cons, if_pos h, TokenStream.rest_cons]

/-- Behind its bracket, a group is read with the closer of that bracket due. -/
theorem run'_bracketGroup_of_opens {closer : TokenKind} {s : TokenStream}
    (opens : s.current.kind.closer? = some closer) :
    bracketGroup.run' s = groupFrom s.current s.finish [closer] [] s.rest.ahead := by
  rw [bracketGroup, run'_bind_of_ok (run'_advance s), opens]
  rfl

theorem run'_bracketGroup_cons {closer : TokenKind} {opening : Token}
    (opens : opening.kind.closer? = some closer) (ts : List Token) (finish : Position) :
    bracketGroup.run' ⟨opening :: ts, finish⟩ = groupFrom opening finish [closer] [] ts :=
  run'_bracketGroup_of_opens opens

@[simp] theorem run'_isAtAny (kinds : List TokenKind) (s : TokenStream) :
    (isAtAny kinds).run' s = (.ok (kinds.contains s.current.kind), s) := rfl

@[simp] theorem run'_isAtWord (words : List String) (s : TokenStream) :
    (isAtWord words).run' s =
      (.ok (decide (s.current.kind = .identifier) && words.contains s.current.value), s) := rfl

@[simp] theorem run'_isAtName (s : TokenStream) :
    isAtName.run' s = (.ok s.current.kind.isNameLike, s) := rfl

/-! ## Loops -/

/-- A loop goes on from one state and stream to others, using up a token at each step. -/
inductive Steps (step : σ → TokenReader (σ ⊕ β)) : σ → TokenStream → σ → TokenStream → Prop where
  | refl (a : σ) (s : TokenStream) : Steps step a s a s
  | next {a b c : σ} {s s₁ s₂ : TokenStream} (first : (step a).run' s = (.ok (.inl b), s₁))
      (shorter : s₁.ahead.length < s.ahead.length) (rest : Steps step b s₁ c s₂) :
      Steps step a s c s₂

variable {step : σ → TokenReader (σ ⊕ β)} {a b c : σ} {s s₁ s₂ : TokenStream}

theorem Steps.single (first : (step a).run' s = (.ok (.inl b), s₁))
    (shorter : s₁.ahead.length < s.ahead.length) : Steps step a s b s₁ :=
  .next first shorter (.refl b s₁)

theorem Steps.trans (first : Steps step a s b s₁) (second : Steps step b s₁ c s₂) :
    Steps step a s c s₂ := by
  induction first with
  | refl => exact second
  | next first shorter _ ih => exact .next first shorter (ih second)

/-- Behind some steps, a loop goes on as one that starts there. -/
theorem exists_iterateFrom_of_steps (steps : Steps step a s b s₁) {measure : List Token}
    (bound : s.ahead.length ≤ measure.length) :
    ∃ left : List Token, s₁.ahead.length ≤ left.length ∧
      (iterateFrom step measure a).run' s = (iterateFrom step left b).run' s₁ := by
  induction steps generalizing measure with
  | refl b s => exact ⟨measure, bound, rfl⟩
  | next first shorter _ ih =>
    cases measure with
    | nil =>
      rw [List.length_nil] at bound
      omega
    | cons _ measure =>
      rw [List.length_cons] at bound
      obtain ⟨left, enough, goesOn⟩ := ih (Nat.le_of_lt_succ (Nat.lt_of_lt_of_le shorter bound))
      refine ⟨left, enough, ?_⟩
      rw [iterateFrom, run'_bind_of_ok first]
      exact goesOn

theorem run'_iterateFrom (steps : Steps step a s b s₁) {r : β}
    (last : (step b).run' s₁ = (.ok (.inr r), s₂)) (measure : List Token)
    (bound : s.ahead.length ≤ measure.length) :
    (iterateFrom step measure a).run' s = (.ok r, s₂) := by
  obtain ⟨left, -, goesOn⟩ := exists_iterateFrom_of_steps steps bound
  rw [goesOn]
  cases left <;> rw [iterateFrom, run'_bind_of_ok last] <;> rfl

/-- A loop gives what its last step gives. -/
theorem run'_iterate (steps : Steps step a s b s₁) {r : β}
    (last : (step b).run' s₁ = (.ok (.inr r), s₂)) : (iterate a step).run' s = (.ok r, s₂) := by
  rw [iterate, run'_bind_of_ok (run'_get s)]
  exact run'_iterateFrom steps last s.ahead (Nat.le_refl _)

/-- Where the next step of a loop runs a reader for the state to go on with, the loop runs it and
goes on behind it. -/
theorem exists_iterate_of_next (steps : Steps step a s b s₁) {r : TokenReader σ}
    (next : (step b).run' s₁ = (do return .inl (← r) : TokenReader (σ ⊕ β)).run' s₂)
    (filled : 0 < s₁.ahead.length) :
    ∃ left : List Token, s₁.ahead.length ≤ left.length + 1 ∧
      (iterate a step).run' s = (r >>= iterateFrom step left).run' s₂ := by
  obtain ⟨left, enough, goesOn⟩ := exists_iterateFrom_of_steps steps (Nat.le_refl _)
  obtain ⟨t, left, rfl⟩ := List.exists_cons_of_length_pos (l := left) (by omega)
  refine ⟨left, enough, ?_⟩
  rw [iterate, run'_bind_of_ok (run'_get s), goesOn, iterateFrom, run'_bind, next, ← run'_bind]
  simp only [bind_assoc, pure_bind]

/-- A loop fails if its first step does. -/
theorem Fails.iterate (fails : Fails (step a) s) : Fails (iterate a step) s := by
  have first (measure : List Token) : Fails (iterateFrom step measure a) s := by
    cases measure <;> exact fails.bind _
  exact (first s.ahead).of_run' (run'_bind_of_ok (run'_get s))

end ViewModifiers.Interface.TokenReader
