import ViewModifiers.Stylesheet.Untyped

/-!
# Runs of readers

A run of a reader is taken apart along the order of its steps: a step that succeeds hands over its
value and its cursor, a step that fails ends the run. An attempt turns a failure into a value and
is the only place where a cursor goes back.
-/

namespace ViewModifiers.Stylesheet

/-- A sign in a call whose places do not matter. -/
def sign (kind : TokenKind) : Token := ⟨kind, kind.label, .start⟩

/-- A token other than a sign in such a call. -/
def word (kind : TokenKind) (value : String) : Token := ⟨kind, value, .start⟩

variable {α β : Type}

/-- One result behind another one is there exactly if both are. -/
theorem bind_eq_ok_iff {ε : Type} {x : Except ε α} {f : α → Except ε β} {b : β} :
    x >>= f = .ok b ↔ ∃ a, x = .ok a ∧ f a = .ok b := by
  cases x with
  | error e => exact ⟨nofun, fun ⟨_, impossible, _⟩ => nomatch impossible⟩
  | ok a =>
    constructor
    · intro h
      exact ⟨a, rfl, h⟩
    · rintro ⟨a', isA, h⟩
      cases isA
      exact h

namespace Reader

/-! ## Sequences -/

theorem run'_bind_of_ok {r : Reader α} {f : α → Reader β} {c c₁ : Cursor} {a : α}
    (h : r.run' c = (.ok a, c₁)) : (r >>= f).run' c = (f a).run' c₁ := by
  rw [run'_bind, h]

theorem run'_bind_of_error {r : Reader α} {f : α → Reader β} {c c₁ : Cursor} {e : Failure}
    (h : r.run' c = (.error e, c₁)) : (r >>= f).run' c = (.error e, c₁) := by
  rw [run'_bind, h]

theorem run'_bind_congr {r : Reader α} {f g : α → Reader β} {c : Cursor}
    (same : ∀ a c', (f a).run' c' = (g a).run' c') : (r >>= f).run' c = (r >>= g).run' c := by
  rw [run'_bind, run'_bind]
  rcases r.run' c with ⟨e | a, c₁⟩
  · rfl
  · exact same a c₁

/-- A sequence succeeds exactly if both of its steps do, one behind the other. -/
theorem run'_bind_eq_ok_iff {r : Reader α} {f : α → Reader β} {c c' : Cursor} {b : β} :
    (r >>= f).run' c = (.ok b, c') ↔
      ∃ a c₁, r.run' c = (.ok a, c₁) ∧ (f a).run' c₁ = (.ok b, c') := by
  rw [run'_bind]
  rcases r.run' c with ⟨e | a, c₁⟩
  · simp
  · constructor
    · intro h
      exact ⟨a, c₁, rfl, h⟩
    · rintro ⟨a', c₁', h, h'⟩
      cases h
      exact h'

theorem run'_map_eq_ok_iff {f : α → β} {r : Reader α} {c c' : Cursor} {b : β} :
    (f <$> r).run' c = (.ok b, c') ↔ ∃ a, r.run' c = (.ok a, c') ∧ f a = b := by
  rw [run'_map]
  rcases r.run' c with ⟨e | a, c₁⟩
  · simp [Except.map]
  · simp only [Except.map, Prod.mk.injEq, Except.ok.injEq]
    constructor
    · rintro ⟨hb, hc⟩
      exact ⟨a, ⟨rfl, hc⟩, hb⟩
    · rintro ⟨a', ⟨rfl, hc⟩, hb⟩
      exact ⟨hb, hc⟩

@[simp] theorem run'_get (c : Cursor) : (get : Reader Cursor).run' c = (.ok c, c) := rfl

/-! ## Single tokens -/

@[simp] theorem run'_isAtKey (c : Cursor) :
    isAtKey.run' c =
      (.ok (decide (c.current.kind = .name) && decide ((c.peek 1).kind = .colon)), c) := rfl

@[simp] theorem run'_isAtWord (word : String) (c : Cursor) :
    (isAtWord word).run' c =
      (.ok (decide (c.current.kind = .name) && decide (c.current.value = word)), c) := rfl

@[simp] theorem run'_key (c : Cursor) : key.run' c = (.ok c.current.value, c.rest.rest) := rfl

/-! ## Lists -/

/-- A closing bracket ends a list, whether there are items in front of it or not. -/
theorem run'_itemsFrom_of_close {item : Reader α} {measure : List Token} {found : List α}
    {c : Cursor} (h : c.current.kind = .closeBracket) :
    (itemsFrom item measure found).run' c = (.ok found.reverse, c) := by
  have none : (nextItem item).run' c = (.ok none, c) := by
    rw [nextItem, run'_bind_of_ok (run'_isAt .closeBracket c), if_pos (decide_eq_true h)]
    rfl
  rw [itemsFrom, run'_bind_of_ok none]
  rfl

/-- Two brackets are an empty list. -/
theorem run'_bracketed_of_empty {what : Expectation} {item : Reader α} {c : Cursor}
    (opened : c.current.kind = .openBracket) (closed : c.rest.current.kind = .closeBracket) :
    (bracketed what item).run' c = (.ok [], c.rest.rest) := by
  have start : (expectAs what .openBracket).run' c = (.ok c.current, c.rest) := by
    rw [run'_expectAs, if_pos opened]
  have stop : (expect .closeBracket).run' c.rest = (.ok c.rest.current, c.rest.rest) := by
    rw [expect, run'_expectAs, if_pos closed]
  rw [bracketed, run'_bind_of_ok start, run'_bind_of_ok (run'_get c.rest),
    run'_bind_of_ok (run'_itemsFrom_of_close closed), run'_bind_of_ok stop]
  rfl

/-! ## Attempts -/

theorem run'_attemptAny_of_ok {r : Reader α} {c c' : Cursor} {a : α}
    (h : r.run' c = (.ok a, c')) : (attemptAny r).run' c = (.ok (.ok a), c') :=
  run'_attemptFor_ok h

/-- An attempt that captures every failure goes back to where it started. -/
theorem run'_attemptAny_of_error {r : Reader α} {c c' : Cursor} {e : Failure}
    (h : r.run' c = (.error e, c')) : (attemptAny r).run' c = (.ok (.error e), c) :=
  run'_attemptFor_error h

theorem run'_attempt_of_ok {r : Reader α} {c c' : Cursor} {a : α} (h : r.run' c = (.ok a, c')) :
    (attempt r).run' c = (.ok (.ok a), c') :=
  run'_attemptFor_ok h

theorem run'_attempt_of_error {r : Reader α} {c c' : Cursor} {e : Failure}
    (h : r.run' c = (.error e, c')) :
    (attempt r).run' c = if e.isStylesheet then (.ok (.error e), c) else (.error e, c') :=
  run'_attemptFor_error h

/-! ## Outcomes

Where a reader fails does not matter to those who go back.
-/

/-- What a reader makes of a cursor, without the place where it fails. -/
def outcome (r : Reader α) (c : Cursor) : Except Failure (α × Cursor) :=
  match r.run' c with
  | (.ok a, c') => .ok (a, c')
  | (.error e, _) => .error e

theorem outcome_of_ok {r : Reader α} {c c' : Cursor} {a : α} (h : r.run' c = (.ok a, c')) :
    r.outcome c = .ok (a, c') := by
  rw [outcome, h]

theorem outcome_of_error {r : Reader α} {c c' : Cursor} {e : Failure}
    (h : r.run' c = (.error e, c')) : r.outcome c = .error e := by
  rw [outcome, h]

theorem outcome_bind_of_ok {r : Reader α} {f : α → Reader β} {c c₁ : Cursor} {a : α}
    (h : r.run' c = (.ok a, c₁)) : (r >>= f).outcome c = (f a).outcome c₁ := by
  rw [outcome, outcome, run'_bind_of_ok h]

theorem outcome_bind_of_error {r : Reader α} {f : α → Reader β} {c c₁ : Cursor} {e : Failure}
    (h : r.run' c = (.error e, c₁)) : (r >>= f).outcome c = .error e := by
  rw [outcome, run'_bind_of_error h]

/-- Readers of one outcome both succeed alike or both fail alike, wherever they stop then. -/
theorem outcome_eq_cases {r r' : Reader α} {c : Cursor} (same : r'.outcome c = r.outcome c) :
    (∃ a c₁, r.run' c = (.ok a, c₁) ∧ r'.run' c = (.ok a, c₁)) ∨
      ∃ e c₁ c₁', r.run' c = (.error e, c₁) ∧ r'.run' c = (.error e, c₁') := by
  rcases run : r.run' c with ⟨e | a, c₁⟩
  · rcases run' : r'.run' c with ⟨e' | a', c₁'⟩
    · rw [outcome_of_error run, outcome_of_error run'] at same
      cases same
      exact .inr ⟨e, c₁, c₁', rfl, rfl⟩
    · rw [outcome_of_error run, outcome_of_ok run'] at same
      cases same
  · rcases run' : r'.run' c with ⟨e' | a', c₁'⟩
    · rw [outcome_of_ok run, outcome_of_error run'] at same
      cases same
    · rw [outcome_of_ok run, outcome_of_ok run'] at same
      cases same
      exact .inl ⟨a, c₁, rfl, rfl⟩

/-- A sequence depends on its first step only through the outcome of that step. -/
theorem outcome_bind_congr {r r' : Reader α} {f : α → Reader β} {c : Cursor}
    (same : r'.outcome c = r.outcome c) : (r' >>= f).outcome c = (r >>= f).outcome c := by
  rcases outcome_eq_cases same with ⟨a, c₁, run, run'⟩ | ⟨e, c₁, c₁', run, run'⟩
  · rw [outcome_bind_of_ok run, outcome_bind_of_ok run']
  · rw [outcome_bind_of_error run, outcome_bind_of_error run']

end Reader

end ViewModifiers.Stylesheet
