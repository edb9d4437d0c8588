import ViewModifiers.Proofs.Interface.Brackets
import ViewModifiers.Proofs.Interface.Reading

/-!
# Passing over expressions

An expression is passed one token or one bracketed group at a time, up to a token that ends it
(`expressionStep_cases`). A default value ends at a comma or at a closing parenthesis. So exactly
those values are passed as a whole whose commas all stand inside brackets
(`run'_passExpression_iff`). Angle brackets are no brackets here.
-/

namespace ViewModifiers.Interface

open Source TokenReader

/-! ## Steps -/

section Steps

variable {terminators : List TokenKind} {inner : List Token} {s u : TokenStream}

/-- Passes a token or a group of an expression, unless the expression ends. -/
def expressionStep (terminators : List TokenKind) (_ : Unit) : TokenReader (Unit ⊕ Unit) := do
  let t ← current
  if t.kind = .endOfFile || terminators.contains t.kind then return .inr ()
  else
    if t.kind.closer?.isSome then let _ ← bracketGroup else let _ ← advance
    return .inl ()

theorem passExpression_eq (terminators : List TokenKind) :
    passExpression terminators = iterate () (expressionStep terminators) := rfl

theorem run'_expressionStep_of_end (ends : s.current.kind ∈ .endOfFile :: terminators) :
    (expressionStep terminators ()).run' s = (.ok (.inr ()), s) := by
  have stops : (decide (s.current.kind = .endOfFile) || terminators.contains s.current.kind) =
      true := by
    simpa using ends
  rw [expressionStep, run'_bind_of_ok (run'_current s), if_pos stops]
  rfl

theorem run'_expressionStep_of_not_end (goesOn : s.current.kind ∉ .endOfFile :: terminators) :
    (expressionStep terminators ()).run' s = (do
      if s.current.kind.closer?.isSome then let _ ← bracketGroup else let _ ← advance
      return .inl () : TokenReader (Unit ⊕ Unit)).run' s := by
  have more : (decide (s.current.kind = .endOfFile) || terminators.contains s.current.kind) ≠
      true := by
    simpa using goesOn
  rw [expressionStep, run'_bind_of_ok (run'_current s), if_neg more]

theorem run'_expressionStep_of_plain (goesOn : s.current.kind ∉ .endOfFile :: terminators)
    (plain : s.current.kind.closer? = none) :
    (expressionStep terminators ()).run' s = (.ok (.inl ()), s.rest) := by
  rw [run'_expressionStep_of_not_end goesOn, plain]
  rfl

theorem run'_expressionStep_of_group (goesOn : s.current.kind ∉ .endOfFile :: terminators)
    (opens : s.current.kind.closer?.isSome = true) (run : bracketGroup.run' s = (.ok inner, u)) :
    (expressionStep terminators ()).run' s = (.ok (.inl ()), u) := by
  rw [run'_expressionStep_of_not_end goesOn, if_pos opens]
  exact run'_bind_of_ok run

/-- An expression ends, or a group or a token is passed. -/
theorem expressionStep_cases {next : Unit ⊕ Unit}
    (run : (expressionStep terminators ()).run' s = (.ok next, u)) :
    (next = .inr () ∧ u = s ∧ s.current.kind ∈ .endOfFile :: terminators) ∨
      (next = .inl () ∧ s.current.kind ∉ .endOfFile :: terminators ∧
        (s.current.kind.closer? = none ∧ u = s.rest ∨
          s.current.kind.closer?.isSome = true ∧
            ∃ inner, bracketGroup.run' s = (.ok inner, u))) := by
  by_cases ends : s.current.kind ∈ .endOfFile :: terminators
  · rw [run'_expressionStep_of_end ends] at run
    cases run
    exact .inl ⟨rfl, rfl, ends⟩
  · rcases opens : s.current.kind.closer? with _ | closer
    · rw [run'_expressionStep_of_plain ends opens] at run
      cases run
      exact .inr ⟨rfl, ends, .inl ⟨rfl, rfl⟩⟩
    · have isSome : s.current.kind.closer?.isSome = true := by rw [opens]; rfl
      rw [run'_expressionStep_of_not_end ends, if_pos isSome] at run
      obtain ⟨inner, v, ran, run⟩ := exists_of_run'_bind run
      cases run
      exact .inr ⟨rfl, ends, .inr ⟨rfl, inner, ran⟩⟩

end Steps

/-! ## Default values -/

/-- Expressions with brackets that pair up and with all commas inside brackets. -/
inductive IsDefault : List Token → Prop
  | nil : IsDefault []
  | plain {t : Token} {ts : List Token} (opens : t.kind.closer? = none)
      (closes : t.kind.isCloser = false) (noComma : t.kind ≠ .comma) (real : t.kind ≠ .endOfFile)
      (later : IsDefault ts) : IsDefault (t :: ts)
  | group {opening closing : Token} {inner ts : List Token}
      (pair : opening.kind.closer? = some closing.kind) (inside : Balanced inner)
      (later : IsDefault ts) : IsDefault (opening :: (inner ++ closing :: ts))

/-- The kinds of the tokens that end a default value. -/
def defaultEnds : List TokenKind := [.comma, .closeParen]

section Values

variable {e us : List Token}

/-- A value is empty, or its first token or group is passed and a shorter value is left. -/
theorem IsDefault.exists_step (value : IsDefault e) :
    e = [] ∨ ∃ later, IsDefault later ∧ later.length < e.length ∧ ∀ us p,
      (expressionStep defaultEnds ()).run' ⟨e ++ us, p⟩ = (.ok (.inl ()), ⟨later ++ us, p⟩) := by
  cases value with
  | nil => exact .inl rfl
  | @plain t ts opens closes noComma real later =>
    refine .inr ⟨ts, later, Nat.lt_succ_self _, fun us p => ?_⟩
    have noParen : t.kind ≠ .closeParen := by
      rintro is
      rw [is] at closes
      cases closes
    exact run'_expressionStep_of_plain (by simp [defaultEnds, noComma, real, noParen]) opens
  | @group opening closing inner ts pair inside later =>
    refine .inr ⟨ts, later, by simp; omega, fun us p => ?_⟩
    have goesOn : opening.kind ∉ .endOfFile :: defaultEnds := by
      intro ends
      simp only [defaultEnds, List.mem_cons, List.not_mem_nil, or_false] at ends
      rcases ends with is | is | is <;> rw [is] at pair <;> cases pair
    have opens : opening.kind.closer?.isSome = true := by rw [pair]; rfl
    rw [List.cons_append, List.append_assoc, List.cons_append]
    exact run'_expressionStep_of_group goesOn opens (run'_bracketGroup pair inside _ _)

/-- A value is passed as a whole. -/
theorem steps_of_isDefault (value : IsDefault e) (us : List Token) (p : Position) :
    Steps (expressionStep defaultEnds) () ⟨e ++ us, p⟩ () ⟨us, p⟩ := by
  induction length : e.length using Nat.strongRecOn generalizing e with
  | ind n ih =>
    subst length
    obtain rfl | ⟨later, value', fewer, run⟩ := value.exists_step
    · exact .refl _ _
    · refine .next (run us p) ?_ (ih _ fewer value' rfl)
      simpa using fewer

theorem run'_passExpression_of_isDefault (value : IsDefault e) (ends : nextKind us ∈ defaultEnds)
    (p : Position) : (passExpression defaultEnds).run' ⟨e ++ us, p⟩ = (.ok (), ⟨us, p⟩) := by
  rw [passExpression_eq]
  refine run'_iterate (steps_of_isDefault value us p) (run'_expressionStep_of_end ?_)
  rw [kind_current]
  exact List.mem_cons_of_mem _ ends

/-- Tokens with brackets that pair up are a value, or one ends in them at a comma. -/
theorem Balanced.isDefault_or (balanced : Balanced e) (real : ∀ t ∈ e, t.kind ≠ .endOfFile) :
    IsDefault e ∨ ∃ front comma back, e = front ++ comma :: back ∧ IsDefault front ∧
      comma.kind = .comma := by
  induction balanced with
  | nil => exact .inl .nil
  | @plain t ts opens closes _ ih =>
    by_cases comma : t.kind = .comma
    · exact .inr ⟨[], t, ts, rfl, .nil, comma⟩
    · have here := real t List.mem_cons_self
      obtain value | ⟨front, c, back, rfl, value, kind⟩ :=
        ih fun u there => real u (List.mem_cons_of_mem t there)
      · exact .inl (.plain opens closes comma here value)
      · exact .inr ⟨t :: front, c, back, rfl, .plain opens closes comma here value, kind⟩
  | @group opening closing inner ts pair inside _ _ ih =>
    obtain value | ⟨front, c, back, rfl, value, kind⟩ := ih fun u there => real u (by simp [there])
    · exact .inl (.group pair inside value)
    · exact .inr ⟨opening :: (inner ++ closing :: front), c, back, by simp,
        .group pair inside value, kind⟩

/-- Exactly the values are passed as a whole. -/
theorem run'_passExpression_iff (balanced : Balanced e) (real : ∀ t ∈ e, t.kind ≠ .endOfFile)
    (ends : nextKind us ∈ defaultEnds) (p : Position) :
    (passExpression defaultEnds).run' ⟨e ++ us, p⟩ = (.ok (), ⟨us, p⟩) ↔ IsDefault e := by
  constructor
  · intro run
    obtain value | ⟨front, comma, back, rfl, value, kind⟩ := balanced.isDefault_or real
    · exact value
    · have stops : nextKind (comma :: (back ++ us)) ∈ defaultEnds := by
        rw [nextKind_cons, kind]
        decide
      rw [List.append_assoc, List.cons_append, run'_passExpression_of_isDefault value stops] at run
      have same := congrArg (fun result => result.2.ahead.length) run
      simp at same
      omega
  · intro value
    exact run'_passExpression_of_isDefault value ends p

end Values

end ViewModifiers.Interface
