import ViewModifiers.Dispatch.Dispatcher
import ViewModifiers.Proofs.Stylesheet.Runs
import ViewModifiers.Proofs.Text.NameTable

/-!
# Runs of the alternatives of a dispatcher

What the reader of a modifier, the readers for kinds of content and the dispatcher do at a cursor,
told by the runs of what they try. Overloads are tried at the cursor behind the head of the call,
everything else at the start of the call.
-/

namespace ViewModifiers.Dispatch

open Catalog Stylesheet Text Reader

variable {α : Type}

/-- A reader fails at a cursor, and the stylesheet is to blame. -/
def RejectsAt (r : Reader α) (c : Cursor) : Prop :=
  ∃ e c', r.run' c = (.error e, c') ∧ e.isStylesheet = true

/-- A reader fails at a cursor, for whatever reason. -/
def FailsAt (r : Reader α) (c : Cursor) : Prop := ∃ e c', r.run' c = (.error e, c')

/-! ## Overloads -/

/-- The overload at an index accepts a call behind its head, and the ones before it blame the
stylesheet. -/
structure AcceptsFirst (r : Registry) (signatures : List Signature) (c c' : Cursor) (k : Nat)
    (s : Signature) (values : List Value) : Prop where
  signature : signatures[k]? = some s
  rejected : ∀ j < k, ∀ t, signatures[j]? = some t → RejectsAt (overloadArguments r t) c
  accepted : (overloadArguments r s).run' c = (.ok values, c')

section Overloads

variable {r r' : Registry} {m : Modifier} {start : Token} {c c' : Cursor}

theorem acceptsFirst_zero_iff {s₀ s : Signature} {rest : List Signature} {values : List Value} :
    AcceptsFirst r (s₀ :: rest) c c' 0 s values ↔
      s₀ = s ∧ (overloadArguments r s₀).run' c = (.ok values, c') := by
  constructor
  · rintro ⟨hs, -, accepted⟩
    simp only [List.getElem?_cons_zero, Option.some.injEq] at hs
    subst hs
    exact ⟨rfl, accepted⟩
  · rintro ⟨rfl, accepted⟩
    exact ⟨rfl, by omega, accepted⟩

theorem acceptsFirst_succ_iff {s₀ s : Signature} {rest : List Signature} {k : Nat}
    {values : List Value} :
    AcceptsFirst r (s₀ :: rest) c c' (k + 1) s values ↔
      RejectsAt (overloadArguments r s₀) c ∧ AcceptsFirst r rest c c' k s values := by
  constructor
  · rintro ⟨hs, rejected, accepted⟩
    refine ⟨rejected 0 (by omega) s₀ rfl, by simpa using hs, ?_, accepted⟩
    intro j hj t ht
    exact rejected (j + 1) (by omega) t (by simpa using ht)
  · rintro ⟨first, hs, rejected, accepted⟩
    refine ⟨by simpa using hs, ?_, accepted⟩
    intro j hj t ht
    cases j with
    | zero =>
      simp only [List.getElem?_cons_zero, Option.some.injEq] at ht
      subst ht
      exact first
    | succ j => exact rejected j (by omega) t (by simpa using ht)

/-- Index 0 is the overload that is tried now, any later one is found in the rest. -/
theorem exists_acceptsFirst_cons_iff {s₀ : Signature} {rest : List Signature} {first : Nat}
    {found : Signature × Nat × List Value} :
    (∃ k s values, found = (s, first + k, values) ∧
        AcceptsFirst r (s₀ :: rest) c c' k s values) ↔
      (∃ values, found = (s₀, first, values) ∧
        (overloadArguments r s₀).run' c = (.ok values, c')) ∨
      RejectsAt (overloadArguments r s₀) c ∧
        ∃ k s values, found = (s, first + 1 + k, values) ∧
          AcceptsFirst r rest c c' k s values := by
  constructor
  · rintro ⟨k, s, values, rfl, accepts⟩
    cases k with
    | zero =>
      obtain ⟨rfl, accepted⟩ := acceptsFirst_zero_iff.1 accepts
      exact .inl ⟨values, rfl, accepted⟩
    | succ k =>
      obtain ⟨rejected, accepts⟩ := acceptsFirst_succ_iff.1 accepts
      exact .inr ⟨rejected, k, s, values, by rw [Nat.add_assoc, Nat.add_comm 1 k], accepts⟩
  · rintro (⟨values, rfl, accepted⟩ | ⟨rejected, k, s, values, rfl, accepts⟩)
    · exact ⟨0, s₀, values, rfl, acceptsFirst_zero_iff.2 ⟨rfl, accepted⟩⟩
    · exact ⟨k + 1, s, values, by rw [Nat.add_assoc, Nat.add_comm 1 k],
        acceptsFirst_succ_iff.2 ⟨rejected, accepts⟩⟩

/-- The overload that is found is the first one that accepts; the ones before it blame the
stylesheet. -/
theorem run'_firstOverload_eq_ok_iff (signatures : List Signature) (first : Nat)
    (failures : List Failure) {found : Signature × Nat × List Value} :
    (firstOverload r m start (signatures.zipIdx first) failures).run' c = (.ok found, c') ↔
      ∃ k s values, found = (s, first + k, values) ∧
        AcceptsFirst r signatures c c' k s values := by
  induction signatures generalizing first failures with
  | nil =>
    constructor
    · intro h
      cases h
    · rintro ⟨k, s, values, -, accepts⟩
      cases accepts.signature
  | cons s₀ rest ih =>
    rw [exists_acceptsFirst_cons_iff, List.zipIdx_cons, firstOverload]
    rcases run : (overloadArguments r s₀).run' c with ⟨e | values, c₁⟩
    · have tried := run'_attempt_of_error run
      by_cases blame : e.isStylesheet = true
      · rw [if_pos blame] at tried
        rw [run'_bind_of_ok tried, ih]
        constructor
        · intro later
          exact .inr ⟨⟨e, c₁, run, blame⟩, later⟩
        · rintro (⟨values, -, accepted⟩ | ⟨-, later⟩)
          · cases accepted
          · exact later
      · rw [if_neg blame] at tried
        rw [run'_bind_of_error tried]
        constructor
        · intro h
          cases h
        · rintro (⟨values, -, accepted⟩ | ⟨⟨e', c₂, run', blame'⟩, -⟩)
          · cases accepted
          · rw [run] at run'
            cases run'
            exact (blame blame').elim
    · rw [run'_bind_of_ok (run'_attempt_of_ok run)]
      constructor
      · intro h
        cases h
        exact .inl ⟨values, rfl, rfl⟩
      · rintro (⟨values', rfl, accepted⟩ | ⟨⟨e, c₂, run', -⟩, -⟩)
        · cases accepted
          rfl
        · rw [run] at run'
          cases run'

/-- Overloads of the same outcomes are found alike. -/
theorem outcome_firstOverload_congr (signatures : List (Signature × Nat))
    (failures : List Failure)
    (alike : ∀ s ∈ signatures,
      (overloadArguments r' s.1).outcome c = (overloadArguments r s.1).outcome c) :
    (firstOverload r' m start signatures failures).outcome c =
      (firstOverload r m start signatures failures).outcome c := by
  induction signatures generalizing failures with
  | nil => rfl
  | cons s rest ih =>
    have tail := fun fs => ih fs fun t ht => alike t (List.mem_cons_of_mem s ht)
    rw [firstOverload, firstOverload]
    rcases outcome_eq_cases (alike s List.mem_cons_self) with
      ⟨values, c₁, run, run'⟩ | ⟨e, c₁, c₁', run, run'⟩
    · rw [outcome_bind_of_ok (run'_attempt_of_ok run), outcome_bind_of_ok (run'_attempt_of_ok run')]
    · have tried := run'_attempt_of_error run
      have tried' := run'_attempt_of_error run'
      by_cases blame : e.isStylesheet = true
      · rw [if_pos blame] at tried tried'
        rw [outcome_bind_of_ok tried, outcome_bind_of_ok tried']
        exact tail (e :: failures)
      · rw [if_neg blame] at tried tried'
        rw [outcome_bind_of_error tried, outcome_bind_of_error tried']

end Overloads

/-! ## Modifiers -/

section Modifier

variable {r r' : Registry} {m : Modifier} {c c₁ : Cursor} {metadata : Metadata Value}

theorem run'_readModifier (head : callHead.run' c = (.ok (m.name, metadata), c₁)) :
    (readModifier r m).run' c =
      (do
        let found ← firstOverload r m c.current m.signatures.zipIdx []
        return (⟨m, found.2.1, found.1, found.2.2, metadata⟩ : ParsedModifier)).run' c₁ := by
  rw [readModifier, run'_bind_of_ok (run'_current c), run'_bind_of_ok head]
  dsimp only
  rw [if_neg (not_not_intro rfl)]

/-- A call of a modifier is read as its first overload that accepts the call behind the head. -/
theorem run'_readModifier_eq_ok_iff (head : callHead.run' c = (.ok (m.name, metadata), c₁))
    {p : ParsedModifier} {c' : Cursor} :
    (readModifier r m).run' c = (.ok p, c') ↔
      ∃ k s values, p = ⟨m, k, s, values, metadata⟩ ∧
        AcceptsFirst r m.signatures c₁ c' k s values := by
  rw [run'_readModifier head, run'_bind_eq_ok_iff]
  constructor
  · rintro ⟨found, c₂, hfound, hp⟩
    obtain ⟨k, s, values, rfl, accepts⟩ := (run'_firstOverload_eq_ok_iff _ _ _).1 hfound
    cases hp
    exact ⟨k, s, values, by rw [Nat.zero_add], accepts⟩
  · rintro ⟨k, s, values, rfl, accepts⟩
    refine ⟨(s, 0 + k, values), c', ?_, by rw [Nat.zero_add, run'_pure]⟩
    exact (run'_firstOverload_eq_ok_iff _ _ _).2 ⟨k, s, values, rfl, accepts⟩

/-- What becomes of a call of a modifier depends on the types of its arguments only through the
outcomes of its overloads behind the head. -/
theorem outcome_readModifier_congr
    (alike : ∀ head c₁, callHead.run' c = (.ok head, c₁) → ∀ s ∈ m.signatures,
      (overloadArguments r' s).outcome c₁ = (overloadArguments r s).outcome c₁) :
    (readModifier r' m).outcome c = (readModifier r m).outcome c := by
  rw [readModifier, readModifier, outcome_bind_of_ok (run'_current c),
    outcome_bind_of_ok (run'_current c)]
  rcases head : callHead.run' c with ⟨e | ⟨name, metadata⟩, c₁⟩
  · rw [outcome_bind_of_error head, outcome_bind_of_error head]
  · rw [outcome_bind_of_ok head, outcome_bind_of_ok head]
    dsimp only
    by_cases other : name ≠ m.name
    · rw [if_pos other, if_pos other]
    · rw [if_neg other, if_neg other]
      apply outcome_bind_congr
      apply outcome_firstOverload_congr
      intro s hs
      exact alike _ _ head s.1 (List.fst_mem_of_mem_zipIdx hs)

end Modifier

namespace Dispatcher

variable {d : Dispatcher} {c c₁ : Cursor} {name : String} {metadata : Metadata Value}

/-! ## Kinds of content -/

/-- A modifier for a kind of content is read from the start of the call, if the kind has its
name. -/
theorem run'_readContent (kind : ContentKind)
    (head : callHead.run' c = (.ok (name, metadata), c₁)) :
    (d.readContent kind).run' c =
      if (d.names kind).contains name then ((d.content kind).getD anyModifier).run' c
      else (.error (.malformed ⟨.notHandled name kind, c.current.position⟩), c) := by
  have ahead : (lookingAhead callHead).run' c = (.ok (name, metadata), c) := by
    rw [run'_lookingAhead, head]
  rw [readContent, run'_bind_of_ok (run'_current c), run'_bind_of_ok ahead]
  by_cases known : (d.names kind).contains name = true
  · dsimp only
    rw [if_pos known, known]
    rfl
  · dsimp only
    rw [if_neg known, Bool.eq_false_iff.2 known]
    rfl

/-! ## The dispatcher -/

/-- Without a head, nothing is tried. -/
theorem run'_read_of_no_head {e : Failure} (head : callHead.run' c = (.error e, c₁)) :
    d.read.run' c = (.error e, c) := by
  have ahead : (lookingAhead callHead).run' c = (.error e, c) := by rw [run'_lookingAhead, head]
  rw [read, run'_bind_of_error ahead]

/-- The alternatives are tried in their order, each from the start of the call. -/
theorem run'_read (head : callHead.run' c = (.ok (name, metadata), c₁)) :
    d.read.run' c =
      match (d.readBuiltin name metadata).run' c with
      | (.ok found, c') => (.ok found, c')
      | (.error failure, _) =>
        match (d.readContent .text).run' c with
        | (.ok v, c') => (.ok ⟨.anyText, .value v⟩, c')
        | (.error _, _) =>
          match (d.readContent .image).run' c with
          | (.ok v, c') => (.ok ⟨.anyImage, .value v⟩, c')
          | (.error _, _) =>
            match d.custom.run' c with
            | (.ok v, c') => (.ok ⟨.custom, .value v⟩, c')
            | (.error e, _) => (.error (d.finalFailure name metadata failure e), c) := by
  have ahead : (lookingAhead callHead).run' c = (.ok (name, metadata), c) := by
    rw [run'_lookingAhead, head]
  rw [read, run'_bind_of_ok ahead]
  rcases builtin : (d.readBuiltin name metadata).run' c with ⟨failure | found, c'⟩
  · rw [run'_bind_of_ok (run'_attemptAny_of_error builtin)]
    rcases text : (d.readContent .text).run' c with ⟨e | v, c'⟩
    · rw [run'_bind_of_ok (run'_attemptAny_of_error text)]
      rcases image : (d.readContent .image).run' c with ⟨e | v, c'⟩
      · rw [run'_bind_of_ok (run'_attemptAny_of_error image)]
        rcases custom : d.custom.run' c with ⟨e | v, c'⟩
        · rw [run'_bind_of_ok (run'_attemptAny_of_error custom)]
          rfl
        · rw [run'_bind_of_ok (run'_attemptAny_of_ok custom)]
          rfl
      · rw [run'_bind_of_ok (run'_attemptAny_of_ok image)]
        rfl
    · rw [run'_bind_of_ok (run'_attemptAny_of_ok text)]
      rfl
  · rw [run'_bind_of_ok (run'_attemptAny_of_ok builtin)]
    rfl

end Dispatcher

end ViewModifiers.Dispatch
