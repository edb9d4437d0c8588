import ViewModifiers.Proofs.Interface.Runs

/-!
# Brackets that pair up

A group is read up to the bracket that closes it. It steps over whatever pairs up inside
(`groupFrom_of_balanced`), so a group of balanced tokens is read as a whole.
-/

namespace ViewModifiers.Interface

open Source TokenReader

/-- Tokens whose brackets pair up. -/
inductive Balanced : List Token → Prop
  | nil : Balanced []
  | plain {t : Token} {ts : List Token} (opens : t.kind.closer? = none)
      (closes : t.kind.isCloser = false) (later : Balanced ts) : Balanced (t :: ts)
  | group {opening closing : Token} {inner ts : List Token}
      (pair : opening.kind.closer? = some closing.kind) (inside : Balanced inner)
      (later : Balanced ts) : Balanced (opening :: (inner ++ closing :: ts))

theorem Balanced.of_flat {ts : List Token}
    (flat : ∀ t ∈ ts, t.kind.closer? = none ∧ t.kind.isCloser = false) : Balanced ts := by
  induction ts with
  | nil => exact .nil
  | cons t ts ih =>
    obtain ⟨opens, closes⟩ := flat t List.mem_cons_self
    exact .plain opens closes (ih fun u there => flat u (List.mem_cons_of_mem t there))

namespace TokenKind

theorem closer?_of_isCloser {kind : TokenKind} (closes : kind.isCloser = true) :
    kind.closer? = none := by
  cases kind <;> first | rfl | cases closes

theorem isCloser_of_closer? {kind closer : TokenKind} (opens : kind.closer? = some closer) :
    closer.isCloser = true := by
  cases kind <;> cases opens <;> rfl

end TokenKind

/-! ## Steps of a group -/

section Steps

variable {opener t : Token} {p : Position} {due : List TokenKind} {found ts : List Token}

theorem groupFrom_of_opens {closer : TokenKind} (opens : t.kind.closer? = some closer) :
    groupFrom opener p due found (t :: ts) =
      groupFrom opener p (closer :: due) (t :: found) ts := by
  rw [groupFrom, opens]

theorem groupFrom_of_plain (opens : t.kind.closer? = none) (closes : t.kind.isCloser = false) :
    groupFrom opener p due found (t :: ts) = groupFrom opener p due (t :: found) ts := by
  rw [groupFrom, opens]
  exact if_neg (Bool.eq_false_iff.1 closes)

/-- The bracket that is due ends the group if nothing else is due. -/
theorem groupFrom_of_due (closes : t.kind.isCloser = true) :
    groupFrom opener p (t.kind :: due) found (t :: ts) =
      if due.isEmpty then (.ok found.reverse, ⟨ts, p⟩)
      else groupFrom opener p due (t :: found) ts := by
  rw [groupFrom, TokenKind.closer?_of_isCloser closes]
  exact (if_pos closes).trans (if_pos rfl)

theorem groupFrom_of_not_due (closes : t.kind.isCloser = true) (other : due.head? ≠ some t.kind) :
    groupFrom opener p due found (t :: ts) =
      (.error ⟨.mismatchedBracket t.value, t.position⟩, ⟨ts, p⟩) := by
  rw [groupFrom, TokenKind.closer?_of_isCloser closes]
  exact (if_pos closes).trans (if_neg other)

/-- A group that ends with a single bracket has nothing else due. -/
theorem eq_singleton_of_groupFrom {due : List TokenKind} {inner : List Token} {s : TokenStream}
    (closes : t.kind.isCloser = true)
    (run : groupFrom opener p due found [t] = (.ok inner, s)) : s.ahead = [] ∧ due = [t.kind] := by
  by_cases first : due.head? = some t.kind
  · obtain ⟨later, rfl⟩ := List.head?_eq_some_iff.1 first
    rw [groupFrom_of_due closes] at run
    cases later with
    | nil =>
      cases run
      exact ⟨rfl, rfl⟩
    | cons d later => cases run
  · rw [groupFrom_of_not_due closes first] at run
    cases run

/-- Tokens that pair up leave the brackets that are due as they are. -/
theorem groupFrom_of_balanced {inner : List Token} (inside : Balanced inner) {d : TokenKind} :
    groupFrom opener p (d :: due) found (inner ++ ts) =
      groupFrom opener p (d :: due) (inner.reverse ++ found) ts := by
  induction inside generalizing d due found ts with
  | nil => rfl
  | @plain t inner opens closes _ ih =>
    rw [List.cons_append, groupFrom_of_plain opens closes, ih, List.reverse_cons,
      List.append_assoc, List.singleton_append]
  | @group opening closing inner later pair _ _ ihInside ihLater =>
    have closes := TokenKind.isCloser_of_closer? pair
    rw [List.cons_append, List.append_assoc, List.cons_append, groupFrom_of_opens pair, ihInside,
      groupFrom_of_due closes, if_neg (by simp), ihLater]
    simp only [List.reverse_cons, List.reverse_append, List.append_assoc, List.cons_append,
      List.nil_append]

end Steps

/-! ## Whole groups -/

section Groups

variable {opening closing : Token} {inner : List Token}

theorem run'_bracketGroup (pair : opening.kind.closer? = some closing.kind)
    (inside : Balanced inner) (ts : List Token) (p : Position) :
    bracketGroup.run' ⟨opening :: (inner ++ closing :: ts), p⟩ = (.ok inner, ⟨ts, p⟩) := by
  have closes := TokenKind.isCloser_of_closer? pair
  rw [run'_bracketGroup_cons pair, groupFrom_of_balanced inside, groupFrom_of_due closes,
    List.append_nil, List.reverse_reverse]
  rfl

/-- A group is read if its parenthesis stands right behind a token. -/
theorem run'_groupBehind?_some {last : Token} (follows : last.isFollowedBy opening = true)
    (opens : opening.kind = .openParen) (closes : closing.kind = .closeParen)
    (inside : Balanced inner) (ts : List Token) (p : Position) :
    (groupBehind? last).run' ⟨opening :: (inner ++ closing :: ts), p⟩ =
      (.ok (some inner), ⟨ts, p⟩) := by
  have pair : opening.kind.closer? = some closing.kind := by rw [opens, closes]; rfl
  rw [groupBehind?, run'_bind_of_ok (run'_current _), TokenStream.current_cons, opens, follows]
  exact run'_bind_of_ok (run'_bracketGroup pair inside ts p)

/-- A group goes up to the bracket that is due next, with tokens that pair up in front of it. -/
theorem exists_of_groupFrom {opener : Token} {p : Position} {d : TokenKind} {due : List TokenKind}
    {found ts inner : List Token} {u : TokenStream}
    (run : groupFrom opener p (d :: due) found ts = (.ok inner, u)) :
    ∃ body closing rest, ts = body ++ closing :: rest ∧ Balanced body ∧ closing.kind = d ∧
      (if due.isEmpty then ((.ok (body.reverse ++ found).reverse, ⟨rest, p⟩) :
          Except SyntaxError (List Token) × TokenStream)
        else groupFrom opener p due (closing :: (body.reverse ++ found)) rest) =
          (.ok inner, u) := by
  induction length : ts.length using Nat.strongRecOn generalizing d due found ts with
  | ind n ih =>
    cases ts with
    | nil => cases run
    | cons t ts =>
      subst length
      rcases opens : t.kind.closer? with _ | closer
      · by_cases closes : t.kind.isCloser = true
        · by_cases first : d = t.kind
          · subst first
            rw [groupFrom_of_due closes] at run
            exact ⟨[], t, ts, rfl, .nil, rfl, run⟩
          · have other : (d :: due).head? ≠ some t.kind := fun is => first (Option.some.inj is)
            rw [groupFrom_of_not_due closes other] at run
            cases run
        · have plain := Bool.eq_false_iff.2 closes
          rw [groupFrom_of_plain opens plain] at run
          obtain ⟨body, closing, rest, rfl, inside, kind, run⟩ := ih _ (Nat.lt_succ_self _) run rfl
          refine ⟨t :: body, closing, rest, rfl, .plain opens plain inside, kind, ?_⟩
          rwa [List.reverse_cons, List.append_assoc, List.singleton_append]
      · rw [groupFrom_of_opens opens] at run
        obtain ⟨body, closing, rest, rfl, inside, kind, run⟩ := ih _ (Nat.lt_succ_self _) run rfl
        -- behind the inner group the outer one goes on
        have fewer : rest.length < (t :: (body ++ closing :: rest)).length := by
          simp only [List.length_cons, List.length_append]
          omega
        obtain ⟨body', closing', rest', rfl, inside', kind', run⟩ := ih _ fewer run rfl
        have pair : t.kind.closer? = some closing.kind := by rw [opens, kind]
        refine ⟨t :: (body ++ closing :: body'), closing', rest', ?_, .group pair inside inside',
          kind', ?_⟩
        · simp
        · simpa using run

/-- A group that is read stands at the front of its stream, and what is inside it pairs up. -/
theorem exists_of_bracketGroup {s u : TokenStream} (opens : s.current.kind.closer?.isSome = true)
    (run : bracketGroup.run' s = (.ok inner, u)) :
    ∃ opening closing rest, s.ahead = opening :: (inner ++ closing :: rest) ∧
      opening.kind.closer? = some closing.kind ∧ Balanced inner ∧ u = ⟨rest, s.finish⟩ := by
  obtain ⟨ts, p⟩ := s
  cases ts with
  | nil => cases opens
  | cons t ts =>
    obtain ⟨closer, pair⟩ := Option.isSome_iff_exists.1 opens
    rw [TokenStream.current_cons] at pair
    rw [run'_bracketGroup_cons pair] at run
    obtain ⟨body, closing, rest, rfl, inside, kind, run⟩ := exists_of_groupFrom run
    cases run
    refine ⟨t, closing, rest, ?_, ?_, ?_, rfl⟩
    · simp
    · rw [pair, kind]
    · simpa using inside

end Groups

end ViewModifiers.Interface
