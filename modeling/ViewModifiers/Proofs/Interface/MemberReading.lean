import ViewModifiers.Proofs.Interface.FunctionReading

/-!
# Members read back

Imports, enum cases, properties and the headings of declarations with members are read back up to
where the next declaration begins. No declaration is skipped over: in front of what ends a
declaration, skipping stops at once (`run'_passDeclaration_none`).
-/

namespace ViewModifiers.Interface

open Source Text TokenReader TypeReader DeclarationReader

variable {ts : List Token}

/-- A step of skipping a declaration. -/
def passStep (first : Bool) : TokenReader (Bool ⊕ Unit) := do
  let t ← current
  if t.kind = .endOfFile || t.kind = .closeBrace then return .inr ()
  else if t.kind.closer?.isSome then
    let _ ← bracketGroup
    return .inl false
  else if t.kind = .closeParen || t.kind = .closeBracket then
    failAt t (.unexpected t.value)
  else if first then
    let _ ← advance
    return .inl false
  else if beginsDeclaration t then return .inr ()
  else
    let next ← peek 1
    if isModifierWord t && (beginsDeclaration next || isModifierWord next) then return .inr ()
    else
      let _ ← advance
      return .inl false

theorem passDeclaration_eq (first : Bool) : passDeclaration first = iterate first passStep := rfl

/-- Skipping stops in front of what ends a declaration. -/
theorem run'_passStep_none (ends : EndsItem ts) (finish : Position) :
    (passStep false).run' ⟨ts, finish⟩ = (.ok (.inr ()), ⟨ts, finish⟩) := by
  rw [passStep, run'_bind_of_ok (run'_current _)]
  cases ends with
  | finish => rfl
  | @brace t us closes =>
    rw [TokenStream.current_cons, closes]
    rfl
  | @begins t us begins =>
    obtain ⟨kind, value, p⟩ := t
    cases kind with
    | atSign => rfl
    | semicolon => rfl
    | keyword word =>
      change (if beginsDeclaration ⟨.keyword word, value, p⟩ then _ else _ :
        TokenReader (Bool ⊕ Unit)).run' _ = _
      rw [if_pos begins]
      rfl
    | _ => cases begins
  | @modifier t u us modifies next =>
    obtain ⟨kind, value, p⟩ := t
    have word : kind = .identifier := by
      rw [isModifierWord, Bool.and_eq_true, decide_eq_true_eq] at modifies
      exact modifies.1
    subst word
    have stops : (isModifierWord ⟨.identifier, value, p⟩ &&
        (beginsDeclaration u || isModifierWord u)) = true := by rw [modifies, next, Bool.and_self]
    change (if isModifierWord ⟨.identifier, value, p⟩ &&
      (beginsDeclaration u || isModifierWord u) then _ else _ :
        TokenReader (Bool ⊕ Unit)).run' _ = _
    rw [if_pos stops]
    rfl

/-- Nothing is skipped in front of what ends a declaration. -/
theorem run'_passDeclaration_none (ends : EndsItem ts) (finish : Position) :
    (passDeclaration false).run' ⟨ts, finish⟩ = (.ok (), ⟨ts, finish⟩) := by
  rw [passDeclaration_eq]
  exact run'_iterate (.refl _ _) (run'_passStep_none ends finish)

/-! ## Imports -/

/-- Reads one more name behind a dot, if there is one. -/
def dottedStep (found : List String × Token) :
    TokenReader ((List String × Token) ⊕ (List String × Token)) := do
  if (← isAt .dot) && (← peek 1).kind.isNameLike then
    let _ ← advance
    let t ← advance
    return .inl (t.value :: found.1, t)
  else return .inr (found.1.reverse, found.2)

theorem run'_dottedStep_dot (found : List String × Token) (dot : String) (p : Position) {t : Token}
    (isName : t.kind.isNameLike = true) (us : List Token) (finish : Position) :
    (dottedStep found).run' ⟨⟨.dot, dot, p⟩ :: t :: us, finish⟩ =
      (.ok (.inl (t.value :: found.1, t)), ⟨us, finish⟩) := by
  have atName : (decide ((TokenStream.current ⟨⟨.dot, dot, p⟩ :: t :: us, finish⟩).kind = .dot) &&
      (TokenStream.peek ⟨⟨.dot, dot, p⟩ :: t :: us, finish⟩ 1).kind.isNameLike) = true := isName
  rw [dottedStep, run'_bind_of_ok (run'_isAt _ _), run'_bind_of_ok (run'_peek _ _), atName]
  rfl

theorem run'_dottedStep_none (found : List String × Token) (finish : Position)
    (noDot : nextKind ts ≠ .dot) :
    (dottedStep found).run' ⟨ts, finish⟩ =
      (.ok (.inr (found.1.reverse, found.2)), ⟨ts, finish⟩) := by
  rw [dottedStep, run'_bind_of_ok (run'_isAt_none noDot finish)]
  rfl

/-- Names behind dots are read one by one. -/
theorem exists_steps_dotted (names : List String) (found : List String × Token) (p : Position)
    (ts : List Token) (finish : Position) :
    ∃ last, Steps dottedStep found
      ⟨placed p (names.flatMap fun n => [Piece.sign .dot, .word n]) ++ ts, finish⟩
      (names.reverse ++ found.1, last) ⟨ts, finish⟩ := by
  induction names generalizing p found with
  | nil => exact ⟨found.2, .refl _ _⟩
  | cons n names ih =>
    obtain ⟨last, steps⟩ := ih (n :: found.1, ⟨wordKind n, n, p.after ['.']⟩)
      ((p.after ['.']).after n.toList)
    refine ⟨last, .next (run'_dottedStep_dot found _ _ (isNameLike_wordKind n) _ finish) ?_ ?_⟩
    · exact Nat.lt_add_of_pos_right (by decide : 0 < 2)
    · rw [List.reverse_cons, List.append_assoc]
      exact steps

/-- Names with dots between them are read up to what is no dot. -/
theorem run'_dottedNames (n : String) (names : List String) (p : Position)
    (finish : Position) (noDot : nextKind ts ≠ .dot) :
    ∃ last, dottedNames.run' ⟨placed p (dottedPieces (n :: names)) ++ ts, finish⟩ =
      (.ok (n :: names, last), ⟨ts, finish⟩) := by
  obtain ⟨last, steps⟩ := exists_steps_dotted names ([n], ⟨wordKind n, n, p⟩)
    (p.after n.toList) ts finish
  have nameRead (us : List Token) := run'_expectName_cons (t := ⟨wordKind n, n, p⟩)
    (isNameLike_wordKind n) us finish
  have pieces : dottedPieces (n :: names) =
      .word n :: names.flatMap fun n => [Piece.sign .dot, .word n] := by
    rw [dottedPieces, List.map_cons, joined_cons, List.flatMap_map]
    rfl
  refine ⟨last, ?_⟩
  rw [pieces, placed_word, List.cons_append, dottedNames, run'_bind_of_ok (nameRead _)]
  refine (run'_iterate steps (run'_dottedStep_none _ finish noDot)).trans ?_
  rw [List.reverse_append, List.reverse_reverse]
  rfl

/-- What an import names is read. -/
theorem run'_importName {names : List String} (some : names ≠ [])
    (each : ∀ n ∈ names, IsDeclared n) (p : Position) (finish : Position) (ends : EndsItem ts) :
    importName.run' ⟨placed p (.word "import" :: .space :: dottedPieces names) ++ ts, finish⟩ =
      (.ok (joinWith "." names), ⟨ts, finish⟩) := by
  obtain ⟨n, names, rfl⟩ := List.exists_cons_of_ne_nil some
  obtain ⟨last, namesRead⟩ := run'_dottedNames n names ((p.after "import".toList).next ' ') finish
    (ends.ne rfl)
  obtain ⟨xs, begins⟩ := exists_dottedPieces n names
  have noKind : nextKind (placed ((p.after "import".toList).next ' ')
      (dottedPieces (n :: names)) ++ ts) = .identifier := by
    rw [begins, placed_word]
    exact (each n List.mem_cons_self).1.wordKind
  have nameRead : dottedName.run' ⟨placed ((p.after "import".toList).next ' ')
      (dottedPieces (n :: names)) ++ ts, finish⟩ =
        (.ok (joinWith "." (n :: names)), ⟨ts, finish⟩) := by
    rw [dottedName, run'_bind_of_ok namesRead]
    rfl
  rw [placed_word, placed_space, List.cons_append, importName, run'_bind_of_ok (run'_advance _),
    TokenStream.rest_cons, run'_bind_of_ok (run'_isAtAny _ _), kind_current, noKind]
  exact nameRead

/-! ## Enum cases -/

theorem reads_associatedValue {t : TypeExpr} (isType : IsFullType t) :
    Reads associatedValue t.pieces t fun _ ts => nextKind ts ∈ [.comma, .closeParen] := by
  intro p ts finish next
  have ends := ends_of_mem_comma_closeParen next
  obtain ⟨noName, different⟩ : (nextKind ts).isNameLike = false ∧ nextKind ts ∉ [.colon, .equals] :=
    (by decide : ∀ k ∈ [TokenKind.comma, .closeParen],
      k.isNameLike = false ∧ k ∉ [.colon, .equals]) _ next
  rw [List.mem_cons, List.mem_singleton, not_or] at different
  have noColon : kindBehindNames ts ≠ .colon := by
    rw [kindBehindNames_of_sign rfl noName]
    exact different.1
  rw [associatedValue,
    run'_bind_of_ok (run'_label?_none finish (isType.kindBehindNames_ne_colon p noColon)),
    run'_bind_of_ok (reads_readType isType p ts finish ends),
    run'_bind_of_ok (run'_defaultValue?_none finish different.2)]
  rfl

/-- Associated values are read if there are any. -/
theorem run'_associatedValues {types : List TypeExpr} (each : ∀ t ∈ types, IsFullType t)
    (p finish : Position) (noOpening : nextKind ts ≠ .openParen) :
    associatedValues.run' ⟨placed p (associatedPieces types) ++ ts, finish⟩ =
      (.ok types, ⟨ts, finish⟩) := by
  by_cases none : types = []
  · subst none
    exact run'_bind_of_ok (run'_accept_none noOpening finish)
  · have starts : ∀ t ∈ types, ∀ (p : Position) us,
        nextKind (placed p t.pieces ++ us) ≠ .closeParen :=
      fun t there => (each t there).nextKind_ne (by decide)
    have list := reads_commaList (f := TypeExpr.pieces) (g := id) (by decide)
      (fun t there => reads_associatedValue (each t there)) starts fun _ _ _ => List.mem_cons_self
    have listRead (q : Position) (us : List Token) (next : nextKind us = .closeParen) :=
      list q us finish ⟨fun _ => by simp [next], next⟩
    rw [List.map_id] at listRead
    rw [associatedPieces, if_neg (by simpa using none), parenPieces, placed_sign, placed_append,
      List.cons_append, List.append_assoc, associatedValues,
      run'_bind_of_ok (run'_accept_self _ _ _ _ _), if_pos rfl,
      run'_bind_of_ok (listRead _ _ rfl)]
    exact run'_bind_of_ok (run'_expect_self _ _ _ _ _)

/-- A clause with one enum case is read up to the end of its declaration. -/
theorem run'_enumCases (name : String) {associated : List TypeExpr}
    (each : ∀ t ∈ associated, IsFullType t) (availability : Availability) (p finish : Position)
    (ends : EndsItem ts) :
    (enumCases availability).run'
        ⟨placed p (.word "case" :: .space :: .word name :: associatedPieces associated) ++ ts,
          finish⟩ =
      (.ok [⟨name, associated, availability, (p.after "case".toList).next ' '⟩],
        ⟨ts, finish⟩) := by
  have noRawValue : rawValue?.run' ⟨ts, finish⟩ = (.ok (), ⟨ts, finish⟩) :=
    run'_bind_of_ok (run'_accept_none (ends.ne rfl) finish)
  have caseRead (q r : Position) : (enumCase availability).run'
      ⟨⟨wordKind name, name, q⟩ :: (placed r (associatedPieces associated) ++ ts), finish⟩ =
        (.ok ⟨name, associated, availability, q⟩, ⟨ts, finish⟩) := by
    rw [enumCase, run'_bind_of_ok (run'_expectName_cons (isNameLike_wordKind name) _ finish),
      run'_bind_of_ok (run'_associatedValues each _ finish (ends.ne rfl)),
      run'_bind_of_ok noRawValue]
    rfl
  rw [placed_word, placed_space, placed_word, List.cons_append, List.cons_append, enumCases]
  refine (run'_bind_of_ok (run'_expect_keyword .enumCase _ _ _)).trans ?_
  exact run'_iterate (.refl _ _) (run'_itemStep_last (ends.ne rfl) (caseRead _ _) [])

/-! ## Properties -/

/-- A property is read with its type, and nothing is skipped behind it. -/
theorem run'_property (word name : String) {type : TypeExpr} (isType : IsFullType type)
    (modifiers : List String) (availability : Availability) (p finish : Position)
    (ends : EndsItem ts) :
    (property modifiers availability).run'
        ⟨placed p (.word word :: .space :: typedPieces name type) ++ ts, finish⟩ =
      (.ok (some ⟨name, type, modifiers, availability, p⟩), ⟨ts, finish⟩) := by
  have typeRead (q : Position) := reads_readType isType q ts finish ends.ends
  rw [typedPieces, placed_word, placed_space, placed_word, placed_sign, placed_space,
    List.cons_append, List.cons_append, List.cons_append, property,
    run'_bind_of_ok (run'_advance _), TokenStream.rest_cons, run'_bind_of_ok (run'_isAtName _),
    run'_bind_of_ok (run'_peek _ _), TokenStream.current_cons, kind_peek_one,
    isNameLike_wordKind name]
  refine (run'_bind_of_ok (run'_advance _)).trans ?_
  refine (run'_bind_of_ok (run'_expect_self _ _ _ _ _)).trans ?_
  refine (run'_bind_of_ok (typeRead _)).trans ?_
  exact run'_bind_of_ok (run'_passDeclaration_none ends finish)

/-! ## Declarations with members -/

theorem run'_typeName {kind : TypeKind} {subject : TypeExpr} (isSubject : IsSubject kind subject)
    (p finish : Position) (ends : Ends reservedWords typeStops ts) :
    (typeName kind).run' ⟨placed p subject.pieces ++ ts, finish⟩ =
      (.ok subject.text, ⟨ts, finish⟩) := by
  have read := reads_readType isSubject.ungrouped p ts finish ends
  rw [IsSubject] at isSubject
  rw [typeName]
  split at isSubject
  · next extending =>
    rw [if_pos extending, run'_bind_of_ok read]
    rfl
  · next notExtending =>
    obtain ⟨name, -, rfl⟩ := isSubject
    have noGenerics : nextKind ts ≠ .lessThan := ends.ne (by decide)
    rw [if_neg notExtending, TypeExpr.pieces, placed_word, List.cons_append,
      run'_bind_of_ok (run'_expectName_cons (isNameLike_wordKind name) _ finish)]
    refine (run'_bind_of_ok (run'_isAt_none noGenerics finish)).trans ?_
    rw [TypeExpr.text_named]
    rfl

theorem reads_inheritedType {t : TypeExpr} (isType : IsFullType t) :
    ReadsType reservedWords inheritedType t := by
  intro p ts finish ends
  have noClass : nextKind (placed p t.pieces ++ ts) ≠ .keyword .classType :=
    isType.nextKind_ne (by decide) p ts
  rw [inheritedType, run'_bind_of_ok (run'_accept_none noClass finish)]
  exact reads_readType isType p ts finish ends

end ViewModifiers.Interface
