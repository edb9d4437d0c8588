import ViewModifiers.Proofs.Stylesheet.Grammar

/-!
# What readers use up

A reader that succeeds has taken tokens off the front of its cursor. `UsesUp` says what they and the
result are like, and passes through sequences in the order of their steps.
-/

namespace ViewModifiers.Stylesheet

/-- One cursor stands behind another one, with certain tokens between them. -/
structure Cursor.Passes (c : Cursor) (used : List Token) (c' : Cursor) : Prop where
  ahead : c.ahead = used ++ c'.ahead
  finish : c'.finish = c.finish

namespace Cursor

theorem passes_refl (c : Cursor) : c.Passes [] c := ⟨rfl, rfl⟩

theorem Passes.eq {c c' : Cursor} (nothing : c.Passes [] c') : c' = c := by
  rcases c with ⟨ahead, finish⟩
  rcases c' with ⟨ahead', finish'⟩
  have sameAhead : ahead = ahead' := nothing.ahead
  have sameFinish : finish' = finish := nothing.finish
  rw [sameAhead, sameFinish]

theorem Passes.trans {c c₁ c₂ : Cursor} {ts ts' : List Token} (first : c.Passes ts c₁)
    (second : c₁.Passes ts' c₂) : c.Passes (ts ++ ts') c₂ where
  ahead := by rw [first.ahead, second.ahead, List.append_assoc]
  finish := by rw [second.finish, first.finish]

/-- Behind a token that is not the end of the text. -/
theorem passes_rest {c : Cursor} (more : c.current.kind ≠ .endOfText) :
    c.Passes [c.current] c.rest := by
  rcases c with ⟨_ | ⟨t, ts⟩, finish⟩
  · exact (more rfl).elim
  · exact ⟨rfl, rfl⟩

theorem peek_one (c : Cursor) : c.peek 1 = c.rest.current := by
  rcases c with ⟨_ | ⟨t, _ | ⟨u, us⟩⟩, finish⟩
  · rfl
  · rfl
  · rfl

end Cursor

namespace Reader

variable {α β : Type} {c : Cursor}

/-- What a reader uses up at a cursor and gives, if it succeeds there. -/
def UsesUpAt (r : Reader α) (c : Cursor) (P : List Token → α → Prop) : Prop :=
  ∀ a c', r.run' c = (.ok a, c') → ∃ used, c.Passes used c' ∧ P used a

/-- What a reader uses up and gives wherever it succeeds. -/
def UsesUp (r : Reader α) (P : List Token → α → Prop) : Prop := ∀ c, r.UsesUpAt c P

/-! ## Sequences -/

theorem UsesUpAt.mono {r : Reader α} {P Q : List Token → α → Prop} (h : r.UsesUpAt c P)
    (imp : ∀ ts a, P ts a → Q ts a) : r.UsesUpAt c Q := by
  intro a c' run
  obtain ⟨used, passes, holds⟩ := h a c' run
  exact ⟨used, passes, imp used a holds⟩

theorem UsesUp.mono {r : Reader α} {P Q : List Token → α → Prop} (h : r.UsesUp P)
    (imp : ∀ ts a, P ts a → Q ts a) : r.UsesUp Q :=
  fun c => (h c).mono imp

theorem usesUpAt_pure {a : α} {P : List Token → α → Prop} (h : P [] a) :
    (pure a : Reader α).UsesUpAt c P := by
  intro b c' run
  cases run
  exact ⟨[], c.passes_refl, h⟩

/-- A step behind another one uses up what stands behind the tokens of that one. -/
theorem UsesUpAt.bind {r : Reader α} {f : α → Reader β} {P : List Token → α → Prop}
    {Q : List Token → β → Prop} (first : r.UsesUpAt c P)
    (second : ∀ a ts c₁, P ts a → c.Passes ts c₁ →
      (f a).UsesUpAt c₁ fun ts' b => Q (ts ++ ts') b) : (r >>= f).UsesUpAt c Q := by
  intro b c' run
  obtain ⟨a, c₁, run₁, run₂⟩ := run'_bind_eq_ok_iff.1 run
  obtain ⟨ts, passes, holds⟩ := first a c₁ run₁
  obtain ⟨ts', passes', holds'⟩ := second a ts c₁ holds passes b c' run₂
  exact ⟨ts ++ ts', passes.trans passes', holds'⟩

/-- A step that does not move the cursor uses up nothing. -/
theorem usesUpAt_bind_of_look {r : Reader α} {f : α → Reader β} {a : α}
    {Q : List Token → β → Prop} (look : r.run' c = (.ok a, c)) (rest : (f a).UsesUpAt c Q) :
    (r >>= f).UsesUpAt c Q := by
  intro b c' run
  rw [run'_bind_of_ok look] at run
  exact rest b c' run

theorem UsesUpAt.map {r : Reader α} {f : α → β} {P : List Token → α → Prop}
    {Q : List Token → β → Prop} (h : r.UsesUpAt c P) (imp : ∀ ts a, P ts a → Q ts (f a)) :
    (f <$> r).UsesUpAt c Q := by
  intro b c' run
  obtain ⟨a, inner, rfl⟩ := run'_map_eq_ok_iff.1 run
  obtain ⟨used, passes, holds⟩ := h a c' inner
  exact ⟨used, passes, imp used a holds⟩

theorem usesUpAt_of_error {r : Reader α} {P : List Token → α → Prop}
    (failed : ∃ e c', r.run' c = (.error e, c')) : r.UsesUpAt c P := by
  intro a c' run
  obtain ⟨e, c₁, failed⟩ := failed
  rw [failed] at run
  cases run

theorem usesUpAt_throw (e : Failure) (P : List Token → α → Prop) :
    (throw e : Reader α).UsesUpAt c P :=
  usesUpAt_of_error ⟨e, c, rfl⟩

theorem usesUpAt_failAt (t : Token) (cause : Cause) (P : List Token → α → Prop) :
    (failAt t cause : Reader α).UsesUpAt c P :=
  usesUpAt_of_error ⟨_, c, rfl⟩

theorem usesUpAt_fail (cause : Cause) (P : List Token → α → Prop) :
    (fail cause : Reader α).UsesUpAt c P :=
  usesUpAt_of_error ⟨_, c, rfl⟩

theorem usesUpAt_failExpecting (what : Expectation) (P : List Token → α → Prop) :
    (failExpecting what : Reader α).UsesUpAt c P :=
  usesUpAt_of_error ⟨_, c, rfl⟩

/-! ## Single tokens -/

theorem usesUpAt_advance (more : c.current.kind ≠ .endOfText) :
    advance.UsesUpAt c fun ts t => ts = [t] ∧ t = c.current := by
  intro t c' run
  cases run
  exact ⟨[c.current], Cursor.passes_rest more, rfl, rfl⟩

theorem usesUp_expectAs (what : Expectation) {kind : TokenKind} (more : kind ≠ .endOfText) :
    (expectAs what kind).UsesUp fun ts t => ts = [t] ∧ t.kind = kind := by
  intro c t c' run
  rw [run'_expectAs] at run
  by_cases there : c.current.kind = kind
  · rw [if_pos there] at run
    cases run
    exact ⟨[c.current], Cursor.passes_rest (by rw [there]; exact more), rfl, there⟩
  · rw [if_neg there] at run
    cases run

theorem usesUp_expect {kind : TokenKind} (more : kind ≠ .endOfText) :
    (expect kind).UsesUp fun ts t => ts = [t] ∧ t.kind = kind :=
  usesUp_expectAs (.sign kind) more

theorem usesUp_accept {kind : TokenKind} (more : kind ≠ .endOfText) :
    (accept kind).UsesUp fun ts found =>
      (found = true ∧ ∃ t : Token, t.kind = kind ∧ ts = [t]) ∨ (found = false ∧ ts = []) := by
  intro c found c' run
  rw [run'_accept] at run
  by_cases there : c.current.kind = kind
  · rw [if_pos there] at run
    cases run
    exact ⟨[c.current], Cursor.passes_rest (by rw [there]; exact more),
      .inl ⟨rfl, c.current, there, rfl⟩⟩
  · rw [if_neg there] at run
    cases run
    exact ⟨[], c.passes_refl, .inr ⟨rfl, rfl⟩⟩

/-- A key, where there is one. -/
theorem usesUpAt_key (isKey : c.current.kind = .name) (isColon : (c.peek 1).kind = .colon) :
    key.UsesUpAt c fun ts k =>
      ∃ name colon : Token, ts = [name, colon] ∧ name.kind = .name ∧ colon.kind = .colon ∧
        k = name.value := by
  intro k c' run
  rw [Cursor.peek_one] at isColon
  have first : c.Passes [c.current] c.rest := Cursor.passes_rest (by simp [isKey])
  have second : c.rest.Passes [c.rest.current] c.rest.rest :=
    Cursor.passes_rest (by simp [isColon])
  cases run
  exact ⟨_, first.trans second, c.current, c.rest.current, rfl, isKey, isColon, rfl⟩

/-! ## Lists -/

section Lists

variable {item : Reader α} {Q : List Token → α → Prop}

theorem usesUp_nextItem (each : item.UsesUp Q) :
    (nextItem item).UsesUp fun ts next =>
      (next = none ∧ ts = []) ∨ (∃ a, next = some (a, false) ∧ Q ts a) ∨
        ∃ a tokens comma, next = some (a, true) ∧ comma.kind = .comma ∧
          ts = tokens ++ [comma] ∧ Q tokens a := by
  intro c
  refine usesUpAt_bind_of_look (run'_isAt .closeBracket c) ?_
  by_cases closed : c.current.kind = .closeBracket
  · rw [if_pos (decide_eq_true closed)]
    exact usesUpAt_pure (.inl ⟨rfl, rfl⟩)
  · rw [if_neg (by simpa using closed)]
    refine (each c).bind fun a ts c₁ holds _ => ?_
    refine ((usesUp_accept (by decide)) c₁).bind fun found ts' c₂ followed _ => ?_
    apply usesUpAt_pure
    rw [List.append_nil]
    rcases followed with ⟨rfl, comma, isComma, rfl⟩ | ⟨rfl, rfl⟩
    · exact .inr (.inr ⟨a, ts, comma, rfl, isComma, rfl, holds⟩)
    · exact .inr (.inl ⟨a, rfl, by rwa [List.append_nil]⟩)

theorem usesUp_itemsFrom (each : item.UsesUp Q) (measure : List Token) (found : List α) :
    (itemsFrom item measure found).UsesUp fun ts _ =>
      ∃ items, Separated items ts ∧ ∀ tokens ∈ items, ∃ a, Q tokens a := by
  induction measure generalizing found with
  | nil =>
    intro c
    rw [itemsFrom]
    refine ((usesUp_nextItem each) c).bind fun next ts c₁ holds _ => ?_
    rcases holds with ⟨rfl, rfl⟩ | ⟨a, rfl, holds⟩ | ⟨a, tokens, comma, rfl, isComma, rfl, holds⟩
    · exact usesUpAt_pure ⟨[], .none, by simp⟩
    · exact usesUpAt_pure ⟨[ts], by simpa using .last ts, by simpa using ⟨a, holds⟩⟩
    · exact usesUpAt_fail _ _
  | cons _ measure ih =>
    intro c
    rw [itemsFrom]
    refine ((usesUp_nextItem each) c).bind fun next ts c₁ holds _ => ?_
    rcases holds with ⟨rfl, rfl⟩ | ⟨a, rfl, holds⟩ | ⟨a, tokens, comma, rfl, isComma, rfl, holds⟩
    · exact usesUpAt_pure ⟨[], .none, by simp⟩
    · exact usesUpAt_pure ⟨[ts], by simpa using .last ts, by simpa using ⟨a, holds⟩⟩
    · refine (ih (a :: found) c₁).mono fun rest _ later => ?_
      obtain ⟨items, separated, all⟩ := later
      refine ⟨tokens :: items, ?_, ?_⟩
      · rw [List.append_assoc]
        exact .more tokens comma isComma items rest separated
      · intro other there
        rcases List.mem_cons.1 there with rfl | there
        · exact ⟨a, holds⟩
        · exact all other there

/-- A list in brackets, by what its items are like. -/
theorem usesUp_bracketed (what : Expectation) (each : item.UsesUp Q) :
    (bracketed what item).UsesUp fun ts _ =>
      ∃ items, Bracketed items ts ∧ ∀ tokens ∈ items, ∃ a, Q tokens a := by
  intro c
  refine ((usesUp_expectAs what (by decide)) c).bind fun opening _ c₁ isOpening _ => ?_
  obtain ⟨rfl, isOpening⟩ := isOpening
  refine usesUpAt_bind_of_look (run'_get c₁) ?_
  refine (usesUp_itemsFrom each c₁.ahead [] c₁).bind fun _ inner c₂ within _ => ?_
  obtain ⟨items, separated, all⟩ := within
  refine ((usesUp_expect (by decide)) c₂).bind fun closing _ _ isClosing _ => ?_
  obtain ⟨rfl, isClosing⟩ := isClosing
  apply usesUpAt_pure
  refine ⟨items, ?_, all⟩
  rw [List.append_nil]
  exact .mk opening closing isOpening isClosing inner separated

end Lists

end Reader

end ViewModifiers.Stylesheet
