import ViewModifiers.Proofs.Stylesheet.Consumption
import ViewModifiers.Proofs.Stylesheet.Depth

/-!
# One call in two texts

A call may be written in two texts, at different places and with different things behind it. Two
cursors then go through it side by side (`Alongside`): ahead of both are the same tokens, up to the
end of the call. Wherever a bracket or a brace is open, the next token belongs to the call, so
readers decide alike at both cursors (`RunsAlike`), and those of values leave them side by side
(`Follows`).
-/

namespace ViewModifiers.Stylesheet

/-- What a token is, apart from where it stands. -/
def Token.content (t : Token) : TokenKind × String := (t.kind, t.value)

theorem Token.kind_eq {t u : Token} (same : t.content = u.content) : t.kind = u.kind :=
  congrArg Prod.fst same

theorem Token.value_eq {t u : Token} (same : t.content = u.content) : t.value = u.value :=
  congrArg Prod.snd same

/-- Two failures say alike whether the stylesheet, and whether the name of the modifier, is to
blame. -/
structure Failure.BlamesAlike (e e' : Failure) : Prop where
  stylesheet : e.isStylesheet = e'.isStylesheet
  modifier : e.isModifierError = e'.isModifierError

/-! ## Two cursors -/

namespace Cursor

/-- Two cursors stand at the same place of a call that is written in two texts. Ahead are the same
tokens, not more than some number of them, which close the brackets and braces that are open; then
comes what stands behind the call in either text. -/
inductive Alongside (behind behind' : Cursor) (n k : Nat) : Cursor → Cursor → Prop where
  | mk (ts ts' : List Token) (same : ts.map Token.content = ts'.map Token.content)
      (closes : Closes n ts) (few : ts.length ≤ k) :
      Alongside behind behind' n k ⟨ts ++ behind.ahead, behind.finish⟩
        ⟨ts' ++ behind'.ahead, behind'.finish⟩

variable {behind behind' c c' : Cursor} {n m j k : Nat}

theorem Alongside.mono (along : Alongside behind behind' n j c c') (le : j ≤ k) :
    Alongside behind behind' n k c c' := by
  obtain ⟨ts, ts', same, closes, few⟩ := along
  exact .mk ts ts' same closes (Nat.le_trans few le)

/-- The number of tokens may be taken to be as small as it is. -/
theorem Alongside.exists_le (along : Alongside behind behind' n k c c') :
    ∃ j ≤ k, j ≤ c.ahead.length ∧ j ≤ c'.ahead.length ∧ Alongside behind behind' n j c c' := by
  obtain ⟨ts, ts', same, closes, few⟩ := along
  have lengths := congrArg List.length same
  rw [List.length_map, List.length_map] at lengths
  refine ⟨ts.length, few, ?_, ?_, .mk ts ts' same closes (Nat.le_refl _)⟩
  · rw [List.length_append]
    omega
  · rw [List.length_append]
    omega

/-- Where nothing is open any more, the call is over. -/
theorem Alongside.eq_behind (along : Alongside behind behind' 0 k c c') :
    c = behind ∧ c' = behind' := by
  obtain ⟨ts, ts', same, closes, few⟩ := along
  obtain rfl := closes_zero_iff.1 closes
  obtain rfl := List.map_eq_nil_iff.1 same.symm
  exact ⟨rfl, rfl⟩

/-- Where something is open, the next token belongs to the call. -/
theorem Alongside.next (along : Alongside behind behind' (n + 1) k c c') :
    c.current.content = c'.current.content ∧
      ∃ j < k, Alongside behind behind' (c.current.kind.depthBehind (n + 1)) j c.rest c'.rest := by
  obtain ⟨ts, ts', same, closes, few⟩ := along
  obtain ⟨t, us, rfl, closes⟩ := closes.exists_cons
  cases ts' with
  | nil => cases same
  | cons t' us' =>
    obtain ⟨first, later⟩ := List.cons_eq_cons.1 same
    exact ⟨first, us.length, few, .mk us us' later closes (Nat.le_refl _)⟩

theorem Alongside.pos (along : Alongside behind behind' (n + 1) k c c') : 0 < k := by
  obtain ⟨-, j, fewer, -⟩ := along.next
  omega

theorem Alongside.kind (along : Alongside behind behind' (n + 1) k c c') :
    c.current.kind = c'.current.kind :=
  Token.kind_eq along.next.1

theorem Alongside.value (along : Alongside behind behind' (n + 1) k c c') :
    c.current.value = c'.current.value :=
  Token.value_eq along.next.1

/-- Behind a token that is neither a bracket nor a brace. -/
theorem Alongside.rest (along : Alongside behind behind' (n + 1) k c c')
    (level : c.current.kind.depthBehind (n + 1) = n + 1) :
    Alongside behind behind' (n + 1) k c.rest c'.rest := by
  obtain ⟨-, j, fewer, along⟩ := along.next
  rw [level] at along
  exact along.mono (Nat.le_of_lt fewer)

/-- A token and the one behind it, if the first is neither a bracket nor a brace. -/
theorem Alongside.pair_iff (along : Alongside behind behind' (n + 1) k c c')
    (first second : TokenKind) (level : first.depthBehind (n + 1) = n + 1) :
    c.current.kind = first ∧ (c.peek 1).kind = second ↔
      c'.current.kind = first ∧ (c'.peek 1).kind = second := by
  rw [peek_one, peek_one, ← along.kind]
  apply and_congr_right
  intro isFirst
  rw [(along.rest (isFirst ▸ level)).kind]

/-- Two cursors stand at the start of a call: behind its brace, they are alongside. -/
structure AtCall (behind behind' : Cursor) (n k : Nat) (c c' : Cursor) : Prop where
  opens : c.current.kind = .openBrace
  opens' : c'.current.kind = .openBrace
  inside : Alongside behind behind' (n + 1) k c.rest c'.rest

theorem Alongside.atCall (along : Alongside behind behind' (n + 1) k c c')
    (opens : c.current.kind = .openBrace) : ∃ j < k, AtCall behind behind' (n + 1) j c c' := by
  obtain ⟨-, j, fewer, later⟩ := along.next
  rw [opens] at later
  exact ⟨j, fewer, opens, along.kind ▸ opens, later⟩

end Cursor

open Cursor

namespace Reader

variable {α β γ δ : Type} {c c' behind behind' : Cursor} {n m j k : Nat}

/-! ## Two runs -/

/-- Two readers run alike at two cursors: both succeed, with results and cursors of some sort, or
both fail and the same is to blame. -/
inductive RunsAlike (r r' : Reader α) (c c' : Cursor) (Q : α → α → Cursor → Cursor → Prop) : Prop
  | ok (a a' : α) (s s' : Cursor) (run : r.run' c = (.ok a, s)) (run' : r'.run' c' = (.ok a', s'))
      (holds : Q a a' s s')
  | error (e e' : Failure) (s s' : Cursor) (run : r.run' c = (.error e, s))
      (run' : r'.run' c' = (.error e', s')) (alike : e.BlamesAlike e')

variable {P : β → β → Cursor → Cursor → Prop} {Q : α → α → Cursor → Cursor → Prop}

theorem RunsAlike.mono {Q' : α → α → Cursor → Cursor → Prop} {r r' : Reader α}
    (alike : RunsAlike r r' c c' Q) (weaker : ∀ a a' s s', Q a a' s s' → Q' a a' s s') :
    RunsAlike r r' c c' Q' := by
  cases alike with
  | ok a a' s s' run run' holds => exact .ok a a' s s' run run' (weaker a a' s s' holds)
  | error e e' s s' run run' alike => exact .error e e' s s' run run' alike

theorem runsAlike_pure {a a' : α} (holds : Q a a' c c') : RunsAlike (pure a) (pure a') c c' Q :=
  .ok a a' c c' rfl rfl holds

theorem runsAlike_throw {e e' : Failure} (alike : e.BlamesAlike e') :
    RunsAlike (throw e) (throw e') c c' Q :=
  .error e e' c c' rfl rfl alike

theorem RunsAlike.bind {r r' : Reader β} {f f' : β → Reader α} (first : RunsAlike r r' c c' P)
    (second : ∀ b b' s s', P b b' s s' → RunsAlike (f b) (f' b') s s' Q) :
    RunsAlike (r >>= f) (r' >>= f') c c' Q := by
  cases first with
  | ok b b' s s' run run' holds =>
    cases second b b' s s' holds with
    | ok a a' t t' ran ran' holds =>
      exact .ok a a' t t' ((run'_bind_of_ok run).trans ran) ((run'_bind_of_ok run').trans ran')
        holds
    | error e e' t t' ran ran' alike =>
      exact .error e e' t t' ((run'_bind_of_ok run).trans ran) ((run'_bind_of_ok run').trans ran')
        alike
  | error e e' s s' run run' alike =>
    exact .error e e' s s' (run'_bind_of_error run) (run'_bind_of_error run') alike

theorem RunsAlike.map {r r' : Reader β} {f f' : β → α}
    (alike : RunsAlike r r' c c' fun b b' s s' => Q (f b) (f' b') s s') :
    RunsAlike (f <$> r) (f' <$> r') c c' Q := by
  rw [map_eq_pure_bind, map_eq_pure_bind]
  exact alike.bind fun b b' s s' holds => runsAlike_pure holds

/-- Looks at the tokens ahead. -/
theorem runsAlike_look {r r' : Reader β} {b b' : β} {f f' : β → Reader α}
    (look : r.run' c = (.ok b, c)) (look' : r'.run' c' = (.ok b', c'))
    (later : RunsAlike (f b) (f' b') c c' Q) : RunsAlike (r >>= f) (r' >>= f') c c' Q := by
  have looked : RunsAlike r r' c c' fun a a' s s' => a = b ∧ a' = b' ∧ s = c ∧ s' = c' :=
    .ok b b' c c' look look' ⟨rfl, rfl, rfl, rfl⟩
  refine looked.bind fun a a' s s' same => ?_
  obtain ⟨rfl, rfl, rfl, rfl⟩ := same
  exact later

/-- A reader that does not look at the tokens at all. -/
theorem runsAlike_same {r : Reader α} {given : Except Failure α}
    (gives : ∀ c, r.run' c = (given, c)) :
    RunsAlike r r c c' fun a a' s s' => a = a' ∧ s = c ∧ s' = c' := by
  cases given with
  | ok a => exact .ok a a c c' (gives c) (gives c') ⟨rfl, rfl, rfl⟩
  | error e => exact .error e e c c' (gives c) (gives c') ⟨rfl, rfl⟩

theorem runsAlike_ite {p p' : Prop} [Decidable p] [Decidable p'] {r₁ r₁' r₂ r₂' : Reader α}
    (same : p ↔ p') (first : p → RunsAlike r₁ r₁' c c' Q)
    (second : ¬p → RunsAlike r₂ r₂' c c' Q) :
    RunsAlike (if p then r₁ else r₂) (if p' then r₁' else r₂') c c' Q := by
  by_cases holds : p
  · rw [if_pos holds, if_pos (same.1 holds)]
    exact first holds
  · rw [if_neg holds, if_neg fun holds' => holds (same.2 holds')]
    exact second holds

theorem runsAlike_failAt (t t' : Token) (cause cause' : Cause) :
    RunsAlike (failAt t cause) (failAt t' cause') c c' Q :=
  runsAlike_throw ⟨rfl, rfl⟩

theorem runsAlike_fail (cause cause' : Cause) : RunsAlike (fail cause) (fail cause') c c' Q :=
  runsAlike_look (run'_current c) (run'_current c') (runsAlike_failAt _ _ _ _)

theorem runsAlike_failExpecting (what : Expectation) :
    RunsAlike (failExpecting what) (failExpecting what) c c' Q :=
  runsAlike_look (run'_current c) (run'_current c') (runsAlike_failAt _ _ _ _)

/-- Attempts: what is captured is captured in both runs, and both cursors go back. -/
theorem runsAlike_attemptFor {r r' : Reader α} {captured : Failure → Bool}
    (alike : RunsAlike r r' c c' Q)
    (decides : ∀ e e', Failure.BlamesAlike e e' → captured e = captured e') :
    RunsAlike (attemptFor captured r) (attemptFor captured r') c c' fun result result' s s' =>
      (∃ a a', result = .ok a ∧ result' = .ok a' ∧ Q a a' s s') ∨
        ∃ e e', result = .error e ∧ result' = .error e' ∧ e.BlamesAlike e' ∧ s = c ∧ s' = c' := by
  cases alike with
  | ok a a' s s' run run' holds =>
    exact .ok _ _ s s' (run'_attemptFor_ok run) (run'_attemptFor_ok run')
      (.inl ⟨a, a', rfl, rfl, holds⟩)
  | error e e' s s' run run' alike =>
    have tried : (attemptFor captured r).run' c = _ := run'_attemptFor_error run
    have tried' : (attemptFor captured r').run' c' = _ := run'_attemptFor_error run'
    rw [← decides e e' alike] at tried'
    cases captures : captured e with
    | true =>
      rw [captures] at tried tried'
      exact .ok _ _ c c' tried tried' (.inr ⟨e, e', rfl, rfl, alike, rfl, rfl⟩)
    | false =>
      rw [captures] at tried tried'
      exact .error e e' s s' tried tried' alike

theorem runsAlike_lookingAhead {r r' : Reader α} (alike : RunsAlike r r' c c' Q) :
    RunsAlike (lookingAhead r) (lookingAhead r') c c' fun a a' s s' =>
      (∃ t t', Q a a' t t') ∧ s = c ∧ s' = c' := by
  cases alike with
  | ok a a' s s' run run' holds =>
    refine .ok a a' c c' ?_ ?_ ⟨⟨s, s', holds⟩, rfl, rfl⟩
    · rw [run'_lookingAhead, run]
    · rw [run'_lookingAhead, run']
  | error e e' s s' run run' alike =>
    refine .error e e' c c' ?_ ?_ alike
    · rw [run'_lookingAhead, run]
    · rw [run'_lookingAhead, run']

/-! ## Single tokens -/

/-- The token that comes next is used up. -/
theorem runsAlike_advance (along : Alongside behind behind' (n + 1) k c c') :
    RunsAlike advance advance c c' fun t t' s s' =>
      t = c.current ∧ t' = c'.current ∧
        ∃ j < k, Alongside behind behind' (c.current.kind.depthBehind (n + 1)) j s s' :=
  .ok _ _ _ _ (run'_advance c) (run'_advance c') ⟨rfl, rfl, along.next.2⟩

theorem runsAlike_expectAs (what : Expectation) (kind : TokenKind)
    (along : Alongside behind behind' (n + 1) k c c') :
    RunsAlike (expectAs what kind) (expectAs what kind) c c' fun t t' s s' =>
      t.content = t'.content ∧
        ∃ j < k, Alongside behind behind' (kind.depthBehind (n + 1)) j s s' := by
  have same : c.current.kind = kind ↔ c'.current.kind = kind := by rw [along.kind]
  refine runsAlike_look (run'_isAt kind c) (run'_isAt kind c') ?_
  refine runsAlike_ite (by simpa using same) (fun here => ?_) fun _ => runsAlike_failExpecting what
  refine (runsAlike_advance along).mono fun t t' s s' taken => ?_
  obtain ⟨rfl, rfl, later⟩ := taken
  rw [of_decide_eq_true here] at later
  exact ⟨along.next.1, later⟩

theorem runsAlike_expect (kind : TokenKind) (along : Alongside behind behind' (n + 1) k c c') :
    RunsAlike (expect kind) (expect kind) c c' fun t t' s s' =>
      t.content = t'.content ∧
        ∃ j < k, Alongside behind behind' (kind.depthBehind (n + 1)) j s s' :=
  runsAlike_expectAs _ kind along

theorem runsAlike_accept (kind : TokenKind) (along : Alongside behind behind' (n + 1) k c c') :
    RunsAlike (accept kind) (accept kind) c c' fun found found' s s' =>
      (found = true ∧ found' = true ∧
        ∃ j < k, Alongside behind behind' (kind.depthBehind (n + 1)) j s s') ∨
      (found = false ∧ found' = false ∧ Alongside behind behind' (n + 1) k s s') := by
  have same : c.current.kind = kind ↔ c'.current.kind = kind := by rw [along.kind]
  refine runsAlike_look (run'_isAt kind c) (run'_isAt kind c') ?_
  refine runsAlike_ite (by simpa using same) (fun here => ?_) fun _ => ?_
  · refine (runsAlike_advance along).bind fun t t' s s' taken => runsAlike_pure ?_
    rw [of_decide_eq_true here] at taken
    exact .inl ⟨rfl, rfl, taken.2.2⟩
  · exact runsAlike_pure (.inr ⟨rfl, rfl, along⟩)

/-- A key, where there is one. -/
theorem runsAlike_key (along : Alongside behind behind' (n + 1) k c c')
    (isName : c.current.kind = .name) (isColon : (c.peek 1).kind = .colon) :
    RunsAlike key key c c' fun name name' s s' =>
      name = name' ∧ Alongside behind behind' (n + 1) k s s' := by
  rw [peek_one] at isColon
  have first := along.rest (by rw [isName]; rfl)
  have second := first.rest (by rw [isColon]; rfl)
  exact .ok _ _ _ _ (run'_key c) (run'_key c') ⟨along.value, second⟩

/-- Whether a key comes next. -/
theorem runsAlike_ite_isAtKey {r₁ r₁' r₂ r₂' : Reader α}
    (along : Alongside behind behind' (n + 1) k c c')
    (first : c.current.kind = .name → (c.peek 1).kind = .colon → RunsAlike r₁ r₁' c c' Q)
    (second : RunsAlike r₂ r₂' c c' Q) :
    RunsAlike (do if ← isAtKey then r₁ else r₂) (do if ← isAtKey then r₁' else r₂') c c' Q := by
  refine runsAlike_look (run'_isAtKey c) (run'_isAtKey c') (runsAlike_ite ?_ (fun here => ?_) ?_)
  · simpa using along.pair_iff .name .colon rfl
  · simp only [Bool.and_eq_true, decide_eq_true_eq] at here
    exact first here.1 here.2
  · exact fun _ => second

/-- Whether a word comes next. -/
theorem runsAlike_ite_isAtWord (word : String) {r₁ r₁' r₂ r₂' : Reader α}
    (along : Alongside behind behind' (n + 1) k c c')
    (first : c.current.kind = .name → RunsAlike r₁ r₁' c c' Q)
    (second : RunsAlike r₂ r₂' c c' Q) :
    RunsAlike (do if ← isAtWord word then r₁ else r₂) (do if ← isAtWord word then r₁' else r₂')
      c c' Q := by
  refine runsAlike_look (run'_isAtWord word c) (run'_isAtWord word c')
    (runsAlike_ite ?_ (fun here => ?_) ?_)
  · rw [along.kind, along.value]
  · simp only [Bool.and_eq_true, decide_eq_true_eq] at here
    exact first here.1
  · exact fun _ => second

/-- Whether a token of a kind comes next. -/
theorem runsAlike_ite_isAt (kind : TokenKind) {r₁ r₁' r₂ r₂' : Reader α}
    (along : Alongside behind behind' (n + 1) k c c')
    (first : c.current.kind = kind → RunsAlike r₁ r₁' c c' Q)
    (second : RunsAlike r₂ r₂' c c' Q) :
    RunsAlike (do if ← isAt kind then r₁ else r₂) (do if ← isAt kind then r₁' else r₂') c c' Q := by
  refine runsAlike_look (run'_isAt kind c) (run'_isAt kind c')
    (runsAlike_ite ?_ (fun here => ?_) ?_)
  · rw [along.kind]
  · exact first (of_decide_eq_true here)
  · exact fun _ => second

/-! ## Values -/

/-- Wherever two cursors go through a call with not too many tokens ahead, readers run alike and
leave the cursors side by side, at the depth where they were. The results have the same view. -/
def Follows (behind behind' : Cursor) (k : Nat) (view : α → γ) (r r' : Reader α) : Prop :=
  ∀ n c c', ∀ j ≤ k, Alongside behind behind' (n + 1) j c c' →
    RunsAlike r r' c c' fun a a' s s' => view a = view a' ∧ Alongside behind behind' (n + 1) j s s'

variable {view : α → γ} {item item' : Reader α}

theorem Follows.mono (follows : Follows behind behind' k view item item') (le : j ≤ k) :
    Follows behind behind' j view item item' :=
  fun n c c' i le' => follows n c c' i (Nat.le_trans le' le)

/-- Where something is open, a token is ahead. -/
theorem follows_zero : Follows behind behind' 0 view item item' :=
  fun _ _ _ _ le along => absurd (Nat.lt_of_lt_of_le along.pos le) (Nat.lt_irrefl 0)

theorem Follows.map {other : β → δ} {f : α → β} (follows : Follows behind behind' k view item item')
    (views : ∀ a a', view a = view a' → other (f a) = other (f a')) :
    Follows behind behind' k other (f <$> item) (f <$> item') :=
  fun n c c' j le along => RunsAlike.map <|
    (follows n c c' j le along).mono fun a a' _ _ holds => ⟨views a a' holds.1, holds.2⟩

/-! ## Lists -/

theorem runsAlike_nextItem (each : Follows behind behind' k view item item') (le : j ≤ k)
    (along : Alongside behind behind' (n + 1) j c c') :
    RunsAlike (nextItem item) (nextItem item') c c' fun next next' s s' =>
      (next = none ∧ next' = none ∧ Alongside behind behind' (n + 1) j s s') ∨
      (∃ a a', next = some (a, false) ∧ next' = some (a', false) ∧ view a = view a' ∧
        Alongside behind behind' (n + 1) j s s') ∨
      ∃ a a', next = some (a, true) ∧ next' = some (a', true) ∧ view a = view a' ∧
        ∃ i < j, Alongside behind behind' (n + 1) i s s' := by
  refine runsAlike_ite_isAt .closeBracket along (fun _ => ?_) ?_
  · exact runsAlike_pure (.inl ⟨rfl, rfl, along⟩)
  · refine (each n c c' j le along).bind fun a a' s s' ⟨same, along⟩ => ?_
    refine (runsAlike_accept .comma along).bind fun b b' t t' accepted => runsAlike_pure ?_
    rcases accepted with ⟨rfl, rfl, later⟩ | ⟨rfl, rfl, along⟩
    · exact .inr (.inr ⟨a, a', rfl, rfl, same, later⟩)
    · exact .inr (.inl ⟨a, a', rfl, rfl, same, along⟩)

/-- Items are read alike as long as there are enough tokens to measure both lists. -/
theorem runsAlike_itemsFrom (each : Follows behind behind' k view item item')
    {measure measure' : List Token} {found found' : List α} (le : j ≤ k)
    (bound : j ≤ measure.length) (bound' : j ≤ measure'.length)
    (same : found.map view = found'.map view)
    (along : Alongside behind behind' (n + 1) j c c') :
    RunsAlike (itemsFrom item measure found) (itemsFrom item' measure' found') c c'
      fun items items' s s' =>
        items.map view = items'.map view ∧ Alongside behind behind' (n + 1) j s s' := by
  induction measure generalizing measure' found found' j c c' with
  | nil => exact absurd (Nat.lt_of_lt_of_le along.pos bound) (Nat.lt_irrefl 0)
  | cons t measure ih =>
    cases measure' with
    | nil => exact absurd (Nat.lt_of_lt_of_le along.pos bound') (Nat.lt_irrefl 0)
    | cons t' measure' =>
      rw [itemsFrom, itemsFrom]
      refine (runsAlike_nextItem each le along).bind fun next next' s s' known => ?_
      rcases known with ⟨rfl, rfl, along⟩ | ⟨a, a', rfl, rfl, alike, along⟩ |
        ⟨a, a', rfl, rfl, alike, i, fewer, along⟩
      · refine runsAlike_pure ⟨?_, along⟩
        rw [List.map_reverse, List.map_reverse, same]
      · refine runsAlike_pure ⟨?_, along⟩
        rw [List.map_reverse, List.map_reverse, List.map_cons, List.map_cons, same, alike]
      · have more : (a :: found).map view = (a' :: found').map view := by
          rw [List.map_cons, List.map_cons, same, alike]
        rw [List.length_cons] at bound bound'
        refine (ih (by omega) (by omega) (by omega) more along).mono fun _ _ _ _ holds => ?_
        exact ⟨holds.1, holds.2.mono (Nat.le_of_lt fewer)⟩

/-- A list in brackets: the items are read behind a bracket that has been used up. -/
theorem follows_bracketed (what : Expectation) (each : Follows behind behind' k view item item') :
    Follows behind behind' (k + 1) (List.map view) (bracketed what item)
      (bracketed what item') := by
  intro n c c' j le along
  refine (runsAlike_expectAs what .openBracket along).bind fun _ _ s s' ⟨_, i, fewer, along⟩ => ?_
  refine runsAlike_look (run'_get s) (run'_get s') ?_
  obtain ⟨i', le', bound, bound', along⟩ := along.exists_le
  have none : ([] : List α).map view = [].map view := rfl
  have items := runsAlike_itemsFrom each (by omega) bound bound' none along
  refine items.bind fun items items' t t' ⟨same, along⟩ => ?_
  refine (runsAlike_expect .closeBracket along).bind fun _ _ u u' ⟨_, i'', fewer', along⟩ => ?_
  exact runsAlike_pure ⟨same, along.mono (by omega)⟩

end Reader

end ViewModifiers.Stylesheet
