import Mathlib.Data.List.Forall2
import ViewModifiers.Proofs.Stylesheet.Grammar

/-!
# What readers take

Tokens that a reader takes as a whole and what it makes of them, whatever stands behind them or as
an item of a list. A list in brackets is taken item by item.
-/

namespace ViewModifiers.Stylesheet

/-- Where an item starts, a list does not end. -/
theorem StartsItem.not_atClose {tokens tail : List Token} {finish : Source.Position}
    (starts : StartsItem tokens) :
    ¬decide ((⟨tokens ++ tail, finish⟩ : Cursor).current.kind = .closeBracket) = true := by
  obtain ⟨t, rest, rfl, notClosing⟩ := starts
  rw [decide_eq_true_eq]
  exact notClosing

theorem Separated.length_le {items : List (List Token)} {tokens : List Token}
    (separated : Separated items tokens) (starts : ∀ item ∈ items, StartsItem item) :
    items.length ≤ tokens.length := by
  induction separated with
  | none => exact Nat.le_refl 0
  | last item =>
    obtain ⟨t, rest, rfl, _⟩ := starts item List.mem_cons_self
    simp
  | more item comma _ items tokens _ ih =>
    have later := ih fun other there => starts other (List.mem_cons_of_mem item there)
    simp only [List.length_cons, List.length_append]
    omega

namespace Reader

variable {α β : Type}

/-- A reader takes tokens as a whole and makes something of them, whatever stands behind them. -/
def Takes (r : Reader α) (tokens : List Token) (a : α) : Prop :=
  ∀ tail finish, r.run' ⟨tokens ++ tail, finish⟩ = (.ok a, ⟨tail, finish⟩)

/-- A reader takes tokens as a whole if a comma or the end of a list stands behind them. -/
def TakesInList (r : Reader α) (tokens : List Token) (a : α) : Prop :=
  ∀ next tail finish, EndsItem next →
    r.run' ⟨tokens ++ next :: tail, finish⟩ = (.ok a, ⟨next :: tail, finish⟩)

theorem Takes.inList {r : Reader α} {tokens : List Token} {a : α} (h : r.Takes tokens a) :
    r.TakesInList tokens a := by
  intro next tail finish _
  exact h (next :: tail) finish

/-- A reader takes tokens as a whole if a comma or the end of a list stands behind them, and gives
something of a sort. -/
def GivesInList (r : Reader α) (tokens : List Token) (P : α → Prop) : Prop :=
  ∀ next tail finish, EndsItem next →
    ∃ a, P a ∧ r.run' ⟨tokens ++ next :: tail, finish⟩ = (.ok a, ⟨next :: tail, finish⟩)

/-! ## Sequences -/

theorem Takes.bind {r : Reader α} {f : α → Reader β} {ts ts' : List Token} {a : α} {b : β}
    (first : r.Takes ts a) (second : (f a).Takes ts' b) : (r >>= f).Takes (ts ++ ts') b := by
  intro tail finish
  rw [List.append_assoc, run'_bind_of_ok (first (ts' ++ tail) finish)]
  exact second tail finish

theorem Takes.map {r : Reader α} {ts : List Token} {a : α} (h : r.Takes ts a) (f : α → β) :
    (f <$> r).Takes ts (f a) := by
  intro tail finish
  exact run'_map_eq_ok_iff.2 ⟨a, h tail finish, rfl⟩

/-! ## Single tokens -/

theorem run'_expectAs_cons {what : Expectation} {kind : TokenKind} {t : Token} {ts : List Token}
    {finish : Source.Position} (h : t.kind = kind) :
    (expectAs what kind).run' ⟨t :: ts, finish⟩ = (.ok t, ⟨ts, finish⟩) := by
  rw [run'_expectAs, Cursor.current_cons, if_pos h, Cursor.rest_cons]

theorem takes_expectAs (what : Expectation) {kind : TokenKind} {t : Token}
    (h : t.kind = kind) : (expectAs what kind).Takes [t] t :=
  fun _ _ => run'_expectAs_cons h

theorem takes_expect {kind : TokenKind} {t : Token} (h : t.kind = kind) :
    (expect kind).Takes [t] t :=
  takes_expectAs (.sign kind) h

theorem run'_accept_cons {kind : TokenKind} {t : Token} {ts : List Token}
    {finish : Source.Position} (h : t.kind = kind) :
    (accept kind).run' ⟨t :: ts, finish⟩ = (.ok true, ⟨ts, finish⟩) := by
  rw [run'_accept, Cursor.current_cons, if_pos h, Cursor.rest_cons]

theorem run'_accept_cons_of_ne {kind : TokenKind} {t : Token} {ts : List Token}
    {finish : Source.Position} (h : t.kind ≠ kind) :
    (accept kind).run' ⟨t :: ts, finish⟩ = (.ok false, ⟨t :: ts, finish⟩) := by
  rw [run'_accept, Cursor.current_cons, if_neg h]

/-! ## Lists -/

section Lists

variable {item : Reader α} {a : α} {tokens : List Token}

/-- An item with a comma behind it. -/
theorem run'_nextItem_of_comma {comma : Token} {tail : List Token} {finish : Source.Position}
    (run : item.run' ⟨tokens ++ comma :: tail, finish⟩ = (.ok a, ⟨comma :: tail, finish⟩))
    (starts : StartsItem tokens) (isComma : comma.kind = .comma) :
    (nextItem item).run' ⟨tokens ++ comma :: tail, finish⟩ =
      (.ok (some (a, true)), ⟨tail, finish⟩) := by
  rw [nextItem, run'_bind_of_ok (run'_isAt .closeBracket _), if_neg starts.not_atClose,
    run'_bind_of_ok run, run'_bind_of_ok (run'_accept_cons isComma)]
  rfl

/-- The last item of a list. -/
theorem run'_nextItem_of_close {closing : Token} {tail : List Token} {finish : Source.Position}
    (run : item.run' ⟨tokens ++ closing :: tail, finish⟩ = (.ok a, ⟨closing :: tail, finish⟩))
    (starts : StartsItem tokens) (isClosing : closing.kind = .closeBracket) :
    (nextItem item).run' ⟨tokens ++ closing :: tail, finish⟩ =
      (.ok (some (a, false)), ⟨closing :: tail, finish⟩) := by
  rw [nextItem, run'_bind_of_ok (run'_isAt .closeBracket _), if_neg starts.not_atClose,
    run'_bind_of_ok run, run'_bind_of_ok (run'_accept_cons_of_ne (by simp [isClosing]))]
  rfl

variable {items : List (List Token × β)} {sort : β → α → Prop}

/-- All items of a list with what is made of them, if the measure suffices for them. -/
theorem exists_run'_itemsFrom {inner : List Token} {closing : Token}
    (separated : Separated (items.map (·.1)) inner)
    (gives : ∀ i ∈ items, item.GivesInList i.1 (sort i.2)) (starts : ∀ i ∈ items, StartsItem i.1)
    (isClosing : closing.kind = .closeBracket) (measure : List Token)
    (bound : items.length ≤ measure.length) (found : List α) (tail : List Token)
    (finish : Source.Position) :
    ∃ given, List.Forall₂ sort (items.map (·.2)) given ∧
      (itemsFrom item measure found).run' ⟨inner ++ closing :: tail, finish⟩ =
        (.ok (found.reverse ++ given), ⟨closing :: tail, finish⟩) := by
  generalize parts : items.map (·.1) = itemTokens at separated
  induction separated generalizing items measure found with
  | none =>
    obtain rfl := List.map_eq_nil_iff.1 parts
    refine ⟨[], .nil, ?_⟩
    rw [List.append_nil]
    exact run'_itemsFrom_of_close isClosing
  | last tokens =>
    obtain ⟨i, rfl, rfl⟩ := List.map_eq_singleton_iff.1 parts
    obtain ⟨a, known, read⟩ := gives i List.mem_cons_self closing tail finish (.inr isClosing)
    have run := run'_nextItem_of_close read (starts i List.mem_cons_self) isClosing
    refine ⟨[a], .cons known .nil, ?_⟩
    rw [itemsFrom, run'_bind_of_ok run, ← List.reverse_cons]
    rfl
  | more tokens comma isComma itemTokens inner _ ih =>
    obtain ⟨i, items, rfl, rfl, rfl⟩ := List.map_eq_cons_iff.1 parts
    obtain ⟨a, known, read⟩ :=
      gives i List.mem_cons_self comma (inner ++ closing :: tail) finish (.inl isComma)
    have run := run'_nextItem_of_comma read (starts i List.mem_cons_self) isComma
    cases measure with
    | nil => cases bound
    | cons _ measure =>
      obtain ⟨given, each, later⟩ := ih (fun j there => gives j (List.mem_cons_of_mem i there))
        (fun j there => starts j (List.mem_cons_of_mem i there)) measure (by simpa using bound)
        (a :: found) rfl
      refine ⟨a :: given, .cons known each, ?_⟩
      rw [List.append_assoc, List.cons_append, itemsFrom, run'_bind_of_ok run]
      refine later.trans ?_
      rw [List.reverse_cons, List.append_assoc]
      rfl

/-- A list in brackets, with what is made of its items. -/
theorem exists_run'_bracketed (what : Expectation) (list : Bracketed (items.map (·.1)) tokens)
    (gives : ∀ i ∈ items, item.GivesInList i.1 (sort i.2)) (starts : ∀ i ∈ items, StartsItem i.1)
    (tail : List Token) (finish : Source.Position) :
    ∃ given, List.Forall₂ sort (items.map (·.2)) given ∧
      (bracketed what item).run' ⟨tokens ++ tail, finish⟩ = (.ok given, ⟨tail, finish⟩) := by
  obtain ⟨opening, closing, isOpening, isClosing, inner, separated⟩ := list
  have bound : items.length ≤ (inner ++ closing :: tail).length := by
    have items_le := separated.length_le (by simpa using starts)
    rw [List.length_map] at items_le
    rw [List.length_append]
    omega
  obtain ⟨given, each, within⟩ := exists_run'_itemsFrom separated gives starts isClosing
    (inner ++ closing :: tail) bound [] tail finish
  refine ⟨given, each, ?_⟩
  rw [List.cons_append, List.cons_append, List.append_assoc, List.singleton_append, bracketed,
    run'_bind_of_ok (run'_expectAs_cons isOpening), run'_bind_of_ok (run'_get _),
    run'_bind_of_ok within, expect, run'_bind_of_ok (run'_expectAs_cons isClosing)]
  rfl

theorem takes_bracketed (what : Expectation) {items : List (List Token × α)}
    (list : Bracketed (items.map (·.1)) tokens) (takes : ∀ i ∈ items, item.TakesInList i.1 i.2)
    (starts : ∀ i ∈ items, StartsItem i.1) :
    (bracketed what item).Takes tokens (items.map (·.2)) := by
  intro tail finish
  obtain ⟨given, same, run⟩ := exists_run'_bracketed what list
    (fun i there next tail finish ends => ⟨i.2, rfl, takes i there next tail finish ends⟩)
    starts tail finish
  rw [List.forall₂_eq_eq_eq] at same
  rw [run, same]

end Lists

end Reader

end ViewModifiers.Stylesheet
