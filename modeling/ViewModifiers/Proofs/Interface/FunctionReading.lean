import ViewModifiers.Proofs.Interface.Expressions
import ViewModifiers.Proofs.Interface.HeadingReading

/-!
# Functions read back

A function is read back from its word up to the next declaration. The generic parameters have at
most one constraint where they stand; the requirements behind the result add the later ones, as the
names of the parameters differ (`withRequirements_laterConstraints`).
-/

namespace ViewModifiers.Interface

open Source Text TokenReader DeclarationReader

/-! ## Generic parameters -/

section Generics

variable {generics : List TypeVariable}

/-- A generic parameter with the constraint that stands at it. -/
def withFirstConstraint (v : TypeVariable) : TypeVariable := ⟨v.name, v.constraints.take 1⟩

theorem IsDeclared.ne_each {name : String} (isName : IsDeclared name) : name ≠ "each" := by
  rintro rfl
  exact isName.2 (by decide)

/-- A generic parameter is read in front of everything that ends a type and is no colon. -/
theorem reads_genericParameter {v : TypeVariable} (isName : IsDeclared v.name)
    (constraints : ∀ t ∈ v.constraints, IsFullType t) :
    Reads genericParameter (variablePieces v) (withFirstConstraint v) fun _ ts =>
      Ends reservedWords typeStops ts ∧ nextKind ts ≠ .colon := by
  intro p ts finish ⟨ends, noColon⟩
  have noPack : decide (v.name = "each") = false := decide_eq_false isName.ne_each
  have nameRead (us : List Token) :
      genericParameter.run' ⟨⟨wordKind v.name, v.name, p⟩ :: us, finish⟩ =
        (do if ← accept .colon then return ⟨v.name, [← readType]⟩ else return ⟨v.name, []⟩ :
          TokenReader TypeVariable).run' ⟨us, finish⟩ := by
    rw [genericParameter, run'_bind_of_ok (run'_expectName_cons (isNameLike_wordKind _) us finish),
      run'_bind_of_ok (run'_isAtName _), noPack, Bool.false_and, if_neg Bool.false_ne_true,
      run'_bind_of_ok (run'_pure _ _)]
  rw [variablePieces, withFirstConstraint]
  cases given : v.constraints with
  | nil =>
    refine (nameRead ts).trans ?_
    rw [run'_bind_of_ok (run'_accept_none noColon finish)]
    rfl
  | cons first later =>
    have isType := constraints first (given ▸ List.mem_cons_self)
    have typeRead (q : Position) := reads_readType isType q ts finish ends
    refine (nameRead _).trans ?_
    refine (run'_bind_of_ok (run'_accept_self _ _ _ _ _)).trans ?_
    rw [if_pos rfl]
    refine (run'_bind_of_ok (typeRead _)).trans ?_
    rfl

/-- Generic parameters are read if there are any, and a reader goes on with them. -/
theorem run'_genericParameters {α : Type}
    (each : ∀ v ∈ generics, IsDeclared v.name ∧ ∀ t ∈ v.constraints, IsFullType t)
    (f : List TypeVariable → TokenReader α) (p : Position) (ts : List Token) (finish : Position)
    (noOpening : nextKind ts ≠ .lessThan) :
    (do let generics ← if ← isAt .lessThan then genericParameters else pure []
        f generics : TokenReader α).run'
        ⟨placed p (argumentPieces (generics.map variablePieces)) ++ ts, finish⟩ =
      (f (generics.map withFirstConstraint)).run' ⟨ts, finish⟩ := by
  have comma (q p : Position) (us : List Token) :
      Ends reservedWords typeStops (⟨.comma, ",", p⟩ :: us) ∧
        nextKind (⟨.comma, ",", p⟩ :: us) ≠ .colon :=
    ⟨ends_of_sign .comma rfl (by decide) rfl, TokenKind.noConfusion⟩
  have starts : ∀ v ∈ generics, ∀ (p : Position) us,
      nextKind (placed p (variablePieces v) ++ us) ≠ .greaterThan := by
    intro v _ p us
    rw [variablePieces]
    split <;> exact wordKind_ne rfl v.name
  by_cases none : generics = []
  · subst none
    exact run'_bind_of_ok (run'_isAt_none noOpening finish)
  · have list := reads_commaList (by decide)
      (fun v there => reads_genericParameter (each v there).1 (each v there).2) starts comma
    have listRead (q : Position) (us : List Token) (next : nextKind us = .greaterThan) :=
      list q us finish ⟨fun _ => ⟨ends_of_sign .greaterThan next (by decide) rfl,
        by rw [next]; exact TokenKind.noConfusion⟩, next⟩
    have clauseRead (less greater : String) (p q r : Position) : genericParameters.run'
        ⟨⟨.lessThan, less, p⟩ :: (placed q (commaPieces (generics.map variablePieces)) ++
          ⟨.greaterThan, greater, r⟩ :: ts), finish⟩ =
        (.ok (generics.map withFirstConstraint), ⟨ts, finish⟩) := by
      rw [genericParameters, run'_bind_of_ok (run'_expect_self _ _ _ _ _),
        run'_bind_of_ok (listRead _ _ rfl), run'_bind_of_ok (run'_expect_self _ _ _ _ _)]
      rfl
    rw [argumentPieces, if_neg (by simpa using none), placed_sign, placed_append, List.cons_append,
      List.append_assoc, run'_bind_of_ok (run'_isAt _ _), if_pos (by rfl)]
    exact run'_bind_of_ok (clauseRead _ _ _ _ _)

theorem laterConstraints_cons (v : TypeVariable) (generics : List TypeVariable) :
    laterConstraints (v :: generics) =
      v.constraints.tail.map (fun t => (v.name, t)) ++ laterConstraints generics :=
  List.flatMap_cons

/-- No requirement is found by a name that no parameter has. -/
theorem filter_laterConstraints_of_not_mem {name : String}
    (absent : name ∉ generics.map TypeVariable.name) :
    (laterConstraints generics).filter (·.1 == name) = [] := by
  rw [List.filter_eq_nil_iff]
  intro r there same
  obtain ⟨v, listed, later⟩ := List.mem_flatMap.1 there
  obtain ⟨t, -, rfl⟩ := List.mem_map.1 later
  obtain rfl : v.name = name := by simpa using same
  exact absent (List.mem_map_of_mem listed)

/-- The requirements on each of some parameters are found by its name. -/
theorem filter_laterConstraints (distinct : (generics.map TypeVariable.name).Nodup)
    {v : TypeVariable} (there : v ∈ generics) :
    ((laterConstraints generics).filter (·.1 == v.name)).map (·.2) = v.constraints.tail := by
  have own (u : TypeVariable) : ((u.constraints.tail.map fun t => (u.name, t)).filter
      (·.1 == u.name)).map (·.2) = u.constraints.tail := by
    rw [List.filter_eq_self.2, List.map_map]
    · exact List.map_id _
    · exact List.forall_mem_map.2 fun _ _ => beq_self_eq_true _
  induction generics with
  | nil => cases there
  | cons u generics ih =>
    rw [List.map_cons, List.nodup_cons] at distinct
    rw [laterConstraints_cons, List.filter_append, List.map_append]
    rcases List.mem_cons.1 there with rfl | later
    · rw [filter_laterConstraints_of_not_mem distinct.1, own, List.map_nil, List.append_nil]
    · have other : u.name ≠ v.name := fun same =>
        distinct.1 (same ▸ List.mem_map_of_mem later)
      have none : (u.constraints.tail.map fun t => (u.name, t)).filter (·.1 == v.name) = [] := by
        rw [List.filter_eq_nil_iff]
        exact List.forall_mem_map.2 fun _ _ => by simpa using other
      rw [none, List.map_nil, List.nil_append, ih distinct.2 later]

/-- The requirements behind a function put back the constraints that do not stand at its generic
parameters. -/
theorem withRequirements_laterConstraints (distinct : (generics.map TypeVariable.name).Nodup) :
    withRequirements (generics.map withFirstConstraint) (laterConstraints generics) = generics := by
  rw [withRequirements, List.map_map]
  refine (List.map_congr_left fun v there => ?_).trans (List.map_id generics)
  have found := filter_laterConstraints distinct there
  have whole : v.constraints.take 1 ++ v.constraints.tail = v.constraints := by
    rw [← List.drop_one, List.take_append_drop]
  change TypeVariable.mk v.name (v.constraints.take 1 ++
    ((laterConstraints generics).filter (·.1 == v.name)).map (·.2)) = v
  rw [found, whole]

end Generics

/-! ## Requirements -/

section Requirements

variable {ts : List Token}

theorem wordKind_where : wordKind "where" = .keyword .whereClause := wordKind_spelling .whereClause

theorem TypeExpr.text_named (name : String) : (TypeExpr.named name []).text = name := by
  rw [TypeExpr.text]
  exact String.append_empty

/-- A requirement on a name is read up to what ends its type. -/
theorem reads_requirement {name : String} {t : TypeExpr} (isName : IsDeclared name)
    (isType : IsFullType t) :
    Reads requirement (typedPieces name t) (some (name, t))
      fun _ => Ends reservedWords typeStops := by
  intro p ts finish ends
  have subjectRead (us : List Token) (next : nextKind us = .colon) :
      readType.run' ⟨⟨wordKind name, name, p⟩ :: us, finish⟩ =
        (.ok (.named name []), ⟨us, finish⟩) :=
    reads_readType isName.isFullType p us finish (ends_of_sign .colon next (by decide) rfl)
  have typeRead (q : Position) := reads_readType isType q ts finish ends
  rw [typedPieces, placed_word, placed_sign, placed_space, List.cons_append, List.cons_append,
    requirement, run'_bind_of_ok (subjectRead _ rfl), run'_bind_of_ok (run'_accept_self _ _ _ _ _),
    if_pos rfl, run'_bind_of_ok (typeRead _), TypeExpr.text_named]
  rfl

/-- The requirements behind a function are read up to the next declaration. -/
theorem reads_whereClause {requirements : List (String × TypeExpr)} (some : requirements ≠ [])
    (each : ∀ r ∈ requirements, IsDeclared r.1 ∧ IsFullType r.2) :
    Reads whereClause (.word "where" :: .space ::
      commaPieces (requirements.map fun r => typedPieces r.1 r.2)) requirements
      fun _ => EndsItem := by
  intro p ts finish ends
  have list := reads_commaSeparated some
    (fun r there => reads_requirement (each r there).1 (each r there).2)
    fun _ _ _ => ends_of_sign .comma rfl (by decide) rfl
  have listRead (q : Position) := list q ts finish ⟨fun _ => ends.ends, ends.ne rfl⟩
  rw [placed_word, placed_space, wordKind_where, List.cons_append, whereClause,
    run'_bind_of_ok (run'_expect_self _ _ _ _ _), run'_bind_of_ok (listRead _),
    List.filterMap_map]
  exact Prod.ext (congrArg Except.ok List.filterMap_some) rfl

/-- The requirements behind a function are read if there are any, and a reader goes on with the
generic parameters that have all their constraints. -/
theorem run'_whereClause {α : Type} {generics : List TypeVariable}
    (each : ∀ v ∈ generics, IsDeclared v.name ∧ ∀ t ∈ v.constraints, IsFullType t)
    (distinct : (generics.map TypeVariable.name).Nodup) (f : List TypeVariable → TokenReader α)
    (p finish : Position) (ends : EndsItem ts) :
    (do let generics ←
          if ← isAt (.keyword .whereClause) then
            pure (withRequirements (generics.map withFirstConstraint) (← whereClause))
          else pure (generics.map withFirstConstraint)
        f generics : TokenReader α).run'
        ⟨placed p (wherePieces (laterConstraints generics)) ++ ts, finish⟩ =
      (f generics).run' ⟨ts, finish⟩ := by
  have whole := withRequirements_laterConstraints distinct
  by_cases none : laterConstraints generics = []
  · have noClause : nextKind ts ≠ .keyword .whereClause := ends.ne rfl
    have unchanged : withRequirements (generics.map withFirstConstraint) [] =
        generics.map withFirstConstraint := by
      rw [withRequirements]
      simp
    rw [none, unchanged] at whole
    rw [none, whole]
    exact run'_bind_of_ok (run'_isAt_none noClause finish)
  · have clauseRead := reads_whereClause none
      (fun r there => writable_of_mem_laterConstraints each there) (p.next ' ') ts finish ends
    have atClause (q : Position) (xs : List Piece) (us : List Token) :
        (isAt (.keyword .whereClause)).run' ⟨placed q (.word "where" :: xs) ++ us, finish⟩ =
          (.ok true, ⟨placed q (.word "where" :: xs) ++ us, finish⟩) := by
      rw [run'_isAt, kind_current, placed_word, List.cons_append, nextKind_cons, wordKind_where,
        decide_eq_true rfl]
    rw [wherePieces, if_neg (by simpa using none), placed_space,
      run'_bind_of_ok (atClause _ _ _), if_pos rfl, run'_bind_of_ok clauseRead, whole]
    rfl

end Requirements

/-! ## Parameters -/

section Parameters

/-- One token that is no bracket is passed as an expression. -/
theorem run'_passExpression_single {terminators : List TokenKind} {t : Token} {ts : List Token}
    (noBracket : t.kind.closer? = none) (noEnd : t.kind ∉ .endOfFile :: terminators)
    (ends : nextKind ts ∈ terminators) (finish : Position) :
    (passExpression terminators).run' ⟨t :: ts, finish⟩ = (.ok (), ⟨ts, finish⟩) := by
  have first : (expressionStep terminators ()).run' ⟨t :: ts, finish⟩ =
      (.ok (.inl ()), ⟨ts, finish⟩) := run'_expressionStep_of_plain noEnd noBracket
  rw [passExpression_eq]
  refine run'_iterate (.single first (Nat.lt_succ_self _)) (run'_expressionStep_of_end ?_)
  rw [kind_current]
  exact List.mem_cons_of_mem _ ends

/-- A value is one token, which is neither a bracket nor the end of a parameter. -/
theorem WrittenLiteral.exists_placed (literal : WrittenLiteral) (p : Position) :
    ∃ kind value, placed p [literal.piece] = [⟨kind, value, p⟩] ∧ kind.closer? = none ∧
      kind ∉ [.endOfFile, .comma, .closeParen] := by
  cases literal with
  | number text => exact ⟨.number, text, rfl, rfl, by decide⟩
  | string text => exact ⟨.string, text, rfl, rfl, by decide⟩
  | word text =>
    refine ⟨wordKind text, text, rfl, ?_⟩
    obtain kind | ⟨word, kind⟩ := kind_eq_of_isNameLike (isNameLike_wordKind text)
    · rw [kind]
      exact ⟨rfl, by decide⟩
    · rw [kind]
      exact ⟨rfl, by simp⟩

theorem run'_defaultValue?_none {ts : List Token} (finish : Position)
    (noEquals : nextKind ts ≠ .equals) :
    defaultValue?.run' ⟨ts, finish⟩ = (.ok false, ⟨ts, finish⟩) := by
  rw [defaultValue?, run'_bind_of_ok (run'_accept_none noEquals finish)]
  rfl

/-- A default value is read up to what stands behind it. -/
theorem reads_defaultValue? (default : Option WrittenLiteral) :
    Reads defaultValue? (defaultPieces default) default.isSome fun _ ts =>
      nextKind ts ∈ [.comma, .closeParen] := by
  intro p ts finish ends
  cases default with
  | none =>
    have noEquals : nextKind ts ≠ .equals := fun equals =>
      absurd (equals ▸ ends : TokenKind.equals ∈ [.comma, .closeParen]) (by decide)
    exact run'_defaultValue?_none finish noEquals
  | some literal =>
    obtain ⟨kind, value, tokens, noBracket, noEnd⟩ :=
      literal.exists_placed (((p.next ' ').after TokenKind.equals.label.toList).next ' ')
    have passed (q : Position) :
        (passExpression [.comma, .closeParen]).run' ⟨⟨kind, value, q⟩ :: ts, finish⟩ =
          (.ok (), ⟨ts, finish⟩) := run'_passExpression_single noBracket noEnd ends finish
    rw [defaultPieces, placed_space, placed_sign, placed_space, tokens, List.cons_append,
      List.singleton_append, defaultValue?, run'_bind_of_ok (run'_accept_self _ _ _ _ _),
      if_pos rfl, run'_bind_of_ok (passed _)]
    rfl

/-- The attributes of a parameter are those of a heading without modifiers. -/
theorem run'_readAttributes_plain {names : List String} (words : ∀ name ∈ names, IsWord name)
    (p finish : Position) {ts : List Token} (next : (nextKind ts).isNameLike = true) :
    readAttributes.run' ⟨placed p (attributePieces names) ++ ts, finish⟩ =
      (.ok (names.map fun name => ⟨name, none⟩, .always), ⟨ts, finish⟩) := by
  have ne {kind : TokenKind} (noName : kind.isNameLike = false) : nextKind ts ≠ kind := by
    rintro rfl
    rw [next] at noName
    cases noName
  have noAvailability : (names.map WrittenAttribute.plain).filterMap
      WrittenAttribute.availability? = [] := by
    rw [List.filterMap_map]
    exact List.filterMap_eq_nil_iff.2 fun _ _ => rfl
  have writable : (WrittenHeading.mk (names.map .plain) []).Writable := by
    refine ⟨List.forall_mem_map.2 words, ?_, nofun⟩
    rw [noAvailability]
    exact Nat.zero_le 1
  have read := run'_readAttributes writable p finish (ne rfl) (ne rfl) (ne rfl)
  rw [WrittenHeading.declared, WrittenHeading.availability, ← List.head?_filterMap,
    noAvailability, List.flatMap_map, List.map_map] at read
  exact read

/-- What stands behind a parameter ends its type. -/
theorem ends_of_mem_comma_closeParen {ts : List Token}
    (next : nextKind ts ∈ [.comma, .closeParen]) : Ends reservedWords typeStops ts :=
  ends_of_not_mem fun stop =>
    absurd stop ((by decide : ∀ k ∈ [TokenKind.comma, .closeParen], k ∉ typeStops) _ next)

/-- Reads a parameter behind its attributes and names. -/
def parameterBehindNames (attributes : List Attribute) (firstName : String)
    (secondName : Option String) : TokenReader DeclaredParameter := do
  let _ ← expect .colon
  let type ← readType
  let hasDefault ← defaultValue?
  return { firstName, secondName, type, attributes, hasDefault }

theorem run'_parameterBehindNames {q : WrittenParameter} (writable : q.Writable)
    (firstName : String) (secondName : Option String) (attributes : List Attribute) (colon : String)
    (p r : Position) {ts : List Token} (finish : Position)
    (ends : nextKind ts ∈ [.comma, .closeParen]) :
    (parameterBehindNames attributes firstName secondName).run'
        ⟨⟨.colon, colon, p⟩ ::
          (placed r (q.type.pieces ++ defaultPieces q.default) ++ ts), finish⟩ =
      (.ok ⟨firstName, secondName, q.type, attributes, q.default.isSome⟩, ⟨ts, finish⟩) := by
  have defaultRead (r : Position) := reads_defaultValue? q.default r ts finish ends
  have behind (r : Position) : Ends reservedWords typeStops
      (placed r (defaultPieces q.default) ++ ts) := by
    cases q.default with
    | some => exact ends_of_sign .equals rfl (by decide) rfl
    | none => exact ends_of_mem_comma_closeParen ends
  have typeRead (u : Position) := reads_readType writable.type r _ finish (behind u)
  rw [placed_append, List.append_assoc, parameterBehindNames,
    run'_bind_of_ok (run'_expect_self _ _ _ _ _), run'_bind_of_ok (typeRead _),
    run'_bind_of_ok (defaultRead _)]
  rfl

/-- A parameter is read up to the comma or the parenthesis behind it. -/
theorem reads_parameter {q : WrittenParameter} (writable : q.Writable) :
    Reads parameter q.pieces q.declared fun _ ts => nextKind ts ∈ [.comma, .closeParen] := by
  intro p ts finish ends
  have attributesRead (us : List Token) (next : (nextKind us).isNameLike = true) :=
    run'_readAttributes_plain writable.attributes p finish next
  have nameRead (name : String) (r : Position) (us : List Token) :=
    run'_expectName_cons (t := ⟨wordKind name, name, r⟩) (isNameLike_wordKind name) us finish
  have whole (secondName : Option String) (p r : Position) := run'_parameterBehindNames writable
    q.firstName secondName (q.attributes.map fun name => ⟨name, none⟩) ":" p r finish ends
  rw [WrittenParameter.pieces, WrittenParameter.declared, placed_append, List.append_assoc,
    parameter]
  cases second : q.secondName with
  | none =>
    refine (run'_bind_of_ok (attributesRead _ ?_)).trans ?_
    · exact isNameLike_wordKind _
    refine (run'_bind_of_ok (nameRead _ _ _)).trans ?_
    refine (run'_bind_of_ok (run'_isAt _ _)).trans ?_
    exact whole none _ _
  | some name =>
    refine (run'_bind_of_ok (attributesRead _ ?_)).trans ?_
    · exact isNameLike_wordKind _
    refine (run'_bind_of_ok (nameRead _ _ _)).trans ?_
    refine (run'_bind_of_ok (run'_isAt_none ?_ finish)).trans ?_
    · exact wordKind_ne rfl name
    rw [if_neg Bool.false_ne_true]
    refine (run'_bind_of_ok (nameRead _ _ _)).trans ?_
    exact whole (some name) _ _

end Parameters

/-! ## Functions -/

section Functions

variable {ts : List Token}

/-- The function that is declared at a place. -/
def WrittenFunction.declared (f : WrittenFunction) (attributes : List Attribute)
    (modifiers : List String) (availability : Availability) (position : Position) :
    DeclaredFunction where
  name := f.name
  parameters := f.parameters.map WrittenParameter.declared
  generics := f.generics
  result := f.result
  attributes := attributes
  modifiers := modifiers
  availability := availability
  position := position

/-- A result is read if there is one, and a reader goes on with it. -/
theorem run'_result {α : Type} {result : Option TypeExpr}
    (isType : ∀ t, result = some t → IsFullType t) (f : Option TypeExpr → TokenReader α)
    (p finish : Position) (ends : Ends reservedWords typeStops ts) :
    (do let result ← if ← accept .arrow then pure (some (← readType)) else pure none
        f result : TokenReader α).run'
        ⟨placed p (resultPieces result) ++ ts, finish⟩ = (f result).run' ⟨ts, finish⟩ := by
  cases result with
  | none =>
    have noArrow : nextKind ts ≠ .arrow := ends.ne (by decide)
    exact run'_bind_of_ok (run'_accept_none noArrow finish)
  | some t =>
    have typeRead (q : Position) := reads_readType (isType t rfl) q ts finish ends
    rw [resultPieces, placed_space, placed_sign, placed_space, List.cons_append,
      run'_bind_of_ok (run'_accept_self _ _ _ _ _), if_pos rfl, run'_bind_of_ok (typeRead _)]
    rfl

/-- The words for the effects of a function. -/
def effectWords : List TokenKind :=
  [.keyword .asynchronous, .keyword .throwing, .keyword .rethrowing]

/-- Uses up an effect with its arguments, if one stands here. -/
def effect? : TokenReader (Option Unit) := do
  if ← isAtAny effectWords then
    let effect ← advance
    let _ ← groupBehind? effect
    return some ()
  else return none

/-- No effects are read in front of what is none. -/
theorem run'_effects_none (finish : Position) (noEffect : nextKind ts ∉ effectWords) :
    (many effect?).run' ⟨ts, finish⟩ = (.ok [], ⟨ts, finish⟩) := by
  have notAt : effectWords.contains (nextKind ts) = false := by simpa using noEffect
  refine run'_many_none ?_
  rw [effect?, run'_bind_of_ok (run'_isAtAny _ _), kind_current, notAt]
  rfl

/-- A result does not begin like an effect. -/
theorem nextKind_resultPieces (result : Option TypeExpr) (p : Position)
    (ends : Ends reservedWords typeStops ts) :
    nextKind (placed p (resultPieces result) ++ ts) ∉ effectWords := by
  cases result with
  | none =>
    have among : ∀ k ∈ effectWords, k ∈ typeStops := by decide
    exact fun effect => ends.kind (among _ effect)
  | some t => exact (by decide : TokenKind.arrow ∉ effectWords)

/-- A clause of requirements ends the type in front of it. -/
theorem ends_wherePieces (requirements : List (String × TypeExpr)) (p : Position)
    (ends : EndsItem ts) :
    Ends reservedWords typeStops (placed p (wherePieces requirements) ++ ts) := by
  rw [wherePieces]
  split
  · exact ends.ends
  · have next : wordKind "where" ∉ typeStops := by
      rw [wordKind_where]
      decide
    exact ends_of_not_mem next

/-- The parameters of a function are read up to the closing parenthesis. -/
theorem run'_parameterList {parameters : List WrittenParameter}
    (writable : ∀ q ∈ parameters, q.Writable) (p finish : Position)
    (closes : nextKind ts = .closeParen) :
    parameterList.run' ⟨placed p (commaPieces (parameters.map WrittenParameter.pieces)) ++ ts,
      finish⟩ = (.ok (parameters.map WrittenParameter.declared), ⟨ts, finish⟩) := by
  have starts : ∀ q ∈ parameters, ∀ (p : Position) us,
      nextKind (placed p q.pieces ++ us) ≠ .closeParen := by
    intro q _ p us
    rw [WrittenParameter.pieces]
    rcases q.attributes with _ | ⟨a, attributes⟩
    · rcases q.secondName <;> exact wordKind_ne rfl q.firstName
    · exact TokenKind.noConfusion
  have read := reads_commaList (by decide) (fun q there => reads_parameter (writable q there))
    starts (fun _ _ _ => List.mem_cons_self)
  exact read p ts finish ⟨fun _ => by simp [closes], closes⟩

/-- Reads a function behind its name and its generic parameters. -/
def functionBehindClause (word : Token) (attributes : List Attribute) (modifiers : List String)
    (availability : Availability) (name : String) (generics : List TypeVariable) :
    TokenReader DeclaredFunction := do
  let _ ← expect .openParen
  let parameters ← parameterList
  let _ ← expect .closeParen
  let _ ← many effect?
  let result ← if ← accept .arrow then pure (some (← readType)) else pure none
  let generics ←
    if ← isAt (.keyword .whereClause) then pure (withRequirements generics (← whereClause))
    else pure generics
  if ← isAt .openBrace then
    let _ ← bracketGroup
  return { name, parameters, generics, result, attributes, modifiers, availability,
           position := word.position }

/-- Reads a function behind its name. -/
def functionBehindName (word : Token) (attributes : List Attribute) (modifiers : List String)
    (availability : Availability) (name : String) : TokenReader DeclaredFunction := do
  let generics ← if ← isAt .lessThan then genericParameters else pure []
  functionBehindClause word attributes modifiers availability name generics

/-- Reads a function behind its word. -/
def functionBehindWord (word : Token) (attributes : List Attribute) (modifiers : List String)
    (availability : Availability) : TokenReader DeclaredFunction :=
  functionName >>= functionBehindName word attributes modifiers availability

/-- A function is read from its word on. -/
theorem run'_function_eq (attributes : List Attribute) (modifiers : List String)
    (availability : Availability) (p : Position) (us : List Token) (finish : Position) :
    (function attributes modifiers availability).run'
        ⟨⟨wordKind "func", "func", p⟩ :: us, finish⟩ =
      (functionBehindWord ⟨wordKind "func", "func", p⟩ attributes modifiers availability).run'
        ⟨us, finish⟩ :=
  run'_bind_of_ok (run'_expect_keyword .function _ _ _)

/-- A function is read behind its name up to the end of its declaration. -/
theorem run'_functionBehindName {f : WrittenFunction} (writable : f.WritableBehindName)
    (word : Token) (attributes : List Attribute) (modifiers : List String)
    (availability : Availability) (p finish : Position) (ends : EndsItem ts) :
    (functionBehindName word attributes modifiers availability f.name).run'
        ⟨placed p f.behindName ++ ts, finish⟩ =
      (.ok (f.declared attributes modifiers availability word.position), ⟨ts, finish⟩) := by
  have clauseEnds (q : Position) := ends_wherePieces (laterConstraints f.generics) q ends
  have noBody : nextKind ts ≠ .openBrace := ends.ne rfl
  rw [WrittenFunction.behindName, parenPieces, placed_append, List.append_assoc, List.cons_append,
    placed_sign, List.cons_append, List.append_assoc, placed_append, List.append_assoc,
    List.singleton_append, placed_sign, List.cons_append, placed_append, List.append_assoc,
    functionBehindName]
  refine (run'_genericParameters writable.generics _ _ _ finish TokenKind.noConfusion).trans ?_
  rw [functionBehindClause]
  refine (run'_bind_of_ok (run'_expect_self _ _ _ _ _)).trans ?_
  refine (run'_bind_of_ok (run'_parameterList writable.parameters _ finish rfl)).trans ?_
  refine (run'_bind_of_ok (run'_expect_self _ _ _ _ _)).trans ?_
  have noEffect (q r : Position) := nextKind_resultPieces f.result q (clauseEnds r)
  refine (run'_bind_of_ok (run'_effects_none finish (noEffect _ _))).trans ?_
  refine (run'_result writable.result _ _ finish (clauseEnds _)).trans ?_
  refine (run'_whereClause writable.generics writable.distinct _ _ finish ends).trans ?_
  exact run'_bind_of_ok (run'_isAt_none noBody finish)

/-- A function is read up to the end of its declaration. -/
theorem run'_function {f : WrittenFunction} (writable : f.Writable) (attributes : List Attribute)
    (modifiers : List String) (availability : Availability) (p : Position)
    (finish : Position) (ends : EndsItem ts) :
    (function attributes modifiers availability).run' ⟨placed p f.pieces ++ ts, finish⟩ =
      (.ok (f.declared attributes modifiers availability p), ⟨ts, finish⟩) := by
  have nameRead (q : Position) (us : List Token) : functionName.run'
      ⟨⟨wordKind f.name, f.name, q⟩ :: us, finish⟩ = (.ok f.name, ⟨us, finish⟩) := by
    rw [functionName, run'_bind_of_ok (run'_current _), TokenStream.current_cons,
      if_pos (isNameLike_wordKind f.name), run'_bind_of_ok (run'_advance _)]
    rfl
  refine (run'_function_eq attributes modifiers availability p _ finish).trans ?_
  refine (run'_bind_of_ok (nameRead _ _)).trans ?_
  exact run'_functionBehindName writable.behindName _ attributes modifiers availability _ finish
    ends

end Functions

end ViewModifiers.Interface
