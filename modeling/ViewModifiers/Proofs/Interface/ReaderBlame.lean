import ViewModifiers.Proofs.Interface.Blame
import ViewModifiers.Proofs.Interface.FunctionReading

/-!
# What readers of types and declarations blame

Every reader of an interface fails at a token, and so at the place of one.
-/

namespace ViewModifiers.Interface

open Source TokenReader

variable {P : Position → Prop}

/-! ## Types -/

namespace TypeReader

variable {type : TokenReader TypeExpr} {nested : TypeLayer → TokenReader TypeExpr}

theorem stays_genericArguments (inside : Stays P type) : Stays P (genericArguments type) :=
  (stays_accept _).bind fun _ _ => blames_ite
    ((stays_commaSeparated inside).bind fun _ _ => (blames_expect _).bind fun _ _ => stays_pure _)
    (stays_pure _)

theorem stays_label? : Stays P label? := by
  refine blames_current.bind fun _ _ => (blames_peek 1).bind fun _ _ => blames_ite ?_ ?_
  · exact blames_advance.bind fun _ _ => blames_advance.bind fun _ _ => stays_pure _
  · refine blames_current.bind fun _ _ => (blames_peek 1).bind fun _ _ =>
      (blames_peek 2).bind fun _ _ => blames_ite ?_ (stays_pure _)
    exact blames_advance.bind fun _ _ => blames_advance.bind fun _ _ =>
      blames_advance.bind fun _ _ => stays_pure _

theorem stays_tupleElement (inside : Stays P type) : Stays P (tupleElement type) :=
  stays_label?.bind fun _ _ => inside.bind fun _ _ => stays_pure _

theorem stays_functionEffects : Stays P functionEffects := by
  refine stays_iterate (fun effects => ?_) _
  refine (stays_isAtAny _).bind fun _ _ => blames_ite ?_ (stays_pure _)
  refine blames_advance.bind fun word _ => blames_ite (stays_pure _) ?_
  exact (stays_groupBehind? word).bind fun _ _ => stays_pure _

theorem stays_parenthesized (inside : Stays P type) : Stays P (parenthesized type) := by
  refine (blames_expect _).bind fun _ _ => ?_
  refine (stays_commaList _ (stays_tupleElement inside)).bind fun elements _ => ?_
  refine (blames_expect _).bind fun _ _ => stays_functionEffects.bind fun effects _ => ?_
  refine (stays_accept _).bind fun _ _ => blames_ite ?_ (blames_ite (blames_fail _) ?_)
  · exact inside.bind fun _ _ => stays_pure _
  · split
    · exact stays_pure _
    · exact stays_pure _

theorem stays_bracketed (inside : Stays P type) : Stays P (bracketed type) := by
  refine blames_advance.bind fun _ _ => inside.bind fun _ _ => (stays_accept _).bind fun _ _ => ?_
  refine blames_ite ?_ ((blames_expect _).bind fun _ _ => stays_pure _)
  exact inside.bind fun _ _ => (blames_expect _).bind fun _ _ => stays_pure _

section

variable (inside : ∀ l, Stays P (nested l))

include inside

theorem stays_primary : Stays P (primary nested) := by
  refine blames_current.bind fun t here => ?_
  split
  · exact blames_advance.bind fun _ _ => (inside _).bind fun _ _ => stays_pure _
  · exact blames_advance.bind fun _ _ => (inside _).bind fun _ _ => stays_pure _
  · exact stays_parenthesized (inside _)
  · exact stays_bracketed (inside _)
  · refine blames_advance.bind fun _ _ => stays_isAtName.bind fun _ _ => blames_ite (inside _) ?_
    exact (stays_genericArguments (inside _)).bind fun _ _ => stays_pure _
  · exact blames_failAt here _

theorem stays_marks (start : TypeExpr) : Stays P (marks (nested .full) start) := by
  refine stays_iterate (fun t => ?_) start
  refine (stays_accept _).bind fun _ _ => blames_ite (stays_pure _) ?_
  refine (stays_accept _).bind fun _ _ => blames_ite (stays_pure _) ?_
  refine (stays_accept _).bind fun _ _ => blames_ite (stays_pure _) ?_
  refine (stays_isAt _).bind fun _ _ => (blames_peek 1).bind fun _ _ =>
    blames_ite ?_ (stays_pure _)
  refine blames_advance.bind fun _ _ => blames_advance.bind fun name _ => ?_
  refine blames_ite (stays_pure _) (blames_ite (stays_pure _) ?_)
  exact (stays_genericArguments (inside _)).bind fun _ _ => stays_pure _

theorem stays_marked : Stays P (marked nested) :=
  (stays_primary inside).bind fun _ _ => stays_marks inside _

theorem stays_composed : Stays P (composed nested) := by
  refine (stays_marked inside).bind fun first _ => Blames.bind (stays_many ?_) fun others _ =>
    blames_ite (stays_pure _) (stays_pure _)
  refine (stays_accept _).bind fun _ _ => blames_ite ?_ (stays_pure _)
  exact (stays_marked inside).bind fun _ _ => stays_pure _

omit inside in
theorem stays_typeAttribute? : Stays P typeAttribute? := by
  refine (stays_accept _).bind fun _ _ => blames_ite ?_ (stays_pure _)
  refine stays_dottedNames.bind fun found _ => ?_
  exact (stays_groupBehind? _).bind fun _ _ => stays_pure _

omit inside in
theorem stays_specifier? : Stays P specifier? := by
  refine (stays_isAt _).bind fun _ _ => blames_ite ?_ ?_
  · exact blames_advance.bind fun _ _ => stays_pure _
  · refine (stays_isAtWord _).bind fun _ _ => (blames_peek 1).bind fun _ _ => ?_
    exact blames_ite (blames_advance.bind fun _ _ => stays_pure _) (stays_pure _)

theorem stays_full : Stays P (full nested) :=
  (stays_many stays_typeAttribute?).bind fun _ _ => stays_specifier?.bind fun _ _ =>
    (stays_composed inside).bind fun _ _ => blames_ite (stays_pure _) (stays_pure _)

theorem stays_layer (l : TypeLayer) : Stays P (layer nested l) := by
  cases l with
  | primary => exact stays_primary inside
  | composed => exact stays_composed inside
  | full => exact stays_full inside

end

theorem stays_layerFrom (measure : List Token) (l : TypeLayer) : Stays P (layerFrom measure l) := by
  induction measure generalizing l with
  | nil => exact stays_layer (fun _ => blames_fail _) l
  | cons t measure ih => exact stays_layer ih l

end TypeReader

open TypeReader

theorem stays_readType : Stays P readType :=
  stays_get.bind fun _ _ => stays_layerFrom _ _

/-! ## Attributes -/

theorem stays_attribute? : Stays P AttributeReader.attribute? := by
  refine (stays_accept _).bind fun _ _ => blames_ite ?_ (stays_pure _)
  refine stays_dottedNames.bind fun found _ => (stays_groupBehind? _).bind fun inner _ => ?_
  cases inner with
  | none => exact stays_pure _
  | some inner => exact stays_pure _

theorem stays_readAttributes : Stays P readAttributes :=
  (stays_many stays_attribute?).bind fun _ _ => stays_pure _

/-! ## Declarations -/

namespace DeclarationReader

theorem stays_passDeclaration (useFirst : Bool) : Stays P (passDeclaration useFirst) := by
  refine stays_iterate (fun first => blames_current.bind fun t here => ?_) useFirst
  refine blames_ite (stays_pure _) (blames_ite ?_ (blames_ite (blames_failAt here _) ?_))
  · exact stays_bracketGroup.bind fun _ _ => stays_pure _
  · refine blames_ite (blames_advance.bind fun _ _ => stays_pure _) (blames_ite (stays_pure _) ?_)
    refine (blames_peek 1).bind fun _ _ => blames_ite (stays_pure _) ?_
    exact blames_advance.bind fun _ _ => stays_pure _

theorem stays_classModifiesNext : Stays P classModifiesNext :=
  (blames_peek 1).bind fun _ _ => stays_pure _

theorem stays_modifier? : Stays P modifier? := by
  refine blames_current.bind fun t _ => stays_classModifiesNext.bind fun _ _ => ?_
  refine blames_ite ?_ (stays_pure _)
  exact blames_advance.bind fun _ _ => (stays_groupBehind? t).bind fun _ _ => stays_pure _

theorem stays_modifiers : Stays P modifiers := stays_many stays_modifier?

theorem stays_genericParameter : Stays P genericParameter := by
  refine blames_expectName.bind fun first _ => stays_isAtName.bind fun _ _ => ?_
  extract_lets behindName
  have behind (name : String) : Stays P (behindName name) := by
    refine (stays_accept _).bind fun _ _ => blames_ite ?_ (stays_pure _)
    exact stays_readType.bind fun _ _ => stays_pure _
  refine blames_ite ?_ ?_
  · exact blames_advance.bind fun _ _ => (stays_pure _).bind fun name _ => behind name
  · exact (stays_pure _).bind fun name _ => behind name

theorem stays_genericParameters : Stays P genericParameters :=
  (blames_expect _).bind fun _ _ => (stays_commaList _ stays_genericParameter).bind fun _ _ =>
    (blames_expect _).bind fun _ _ => stays_pure _

theorem stays_requirement : Stays P requirement := by
  refine stays_readType.bind fun _ _ => (stays_accept _).bind fun _ _ => blames_ite ?_ ?_
  · exact stays_readType.bind fun _ _ => stays_pure _
  · refine blames_current.bind fun _ _ => blames_ite ?_ (blames_fail _)
    exact blames_advance.bind fun _ _ => stays_readType.bind fun _ _ => stays_pure _

theorem stays_whereClause : Stays P whereClause :=
  (blames_expect _).bind fun _ _ => (stays_commaSeparated stays_requirement).bind fun _ _ =>
    stays_pure _

theorem stays_defaultValue? : Stays P defaultValue? :=
  (stays_accept _).bind fun _ _ => blames_ite
    ((stays_passExpression _).bind fun _ _ => stays_pure _) (stays_pure _)

theorem stays_parameter : Stays P parameter := by
  refine stays_readAttributes.bind fun _ _ => blames_expectName.bind fun _ _ => ?_
  refine (stays_isAt _).bind fun _ _ => ?_
  extract_lets behindNames
  have behind (secondName : Option String) : Stays P (behindNames secondName) :=
    (blames_expect _).bind fun _ _ => stays_readType.bind fun _ _ =>
      stays_defaultValue?.bind fun _ _ => stays_pure _
  refine blames_ite ?_ ?_
  · exact (stays_pure _).bind fun name _ => behind name
  · exact blames_expectName.bind fun _ _ => (stays_pure _).bind fun name _ => behind name

theorem stays_associatedValues : Stays P associatedValues := by
  refine (stays_accept _).bind fun _ _ => blames_ite ?_ (stays_pure _)
  refine (stays_commaList _ ?_).bind fun _ _ => (blames_expect _).bind fun _ _ => stays_pure _
  exact stays_label?.bind fun _ _ => stays_readType.bind fun _ _ =>
    stays_defaultValue?.bind fun _ _ => stays_pure _

theorem stays_rawValue? : Stays P rawValue? := by
  refine (stays_accept _).bind fun _ _ => blames_ite ?_ (stays_pure _)
  refine blames_current.bind fun _ _ => ?_
  extract_lets literal
  have behind : Stays P (literal ()) := blames_advance.bind fun _ _ => stays_pure _
  exact blames_ite (blames_advance.bind fun _ _ => behind) behind

theorem stays_enumCases (availability : Availability) : Stays P (enumCases availability) := by
  refine (blames_expect _).bind fun _ _ => stays_commaSeparated ?_
  exact blames_expectName.bind fun _ _ => stays_associatedValues.bind fun _ _ =>
    stays_rawValue?.bind fun _ _ => stays_pure _

theorem stays_functionName : Stays P functionName := by
  refine blames_current.bind fun first here => blames_ite ?_ ?_
  · exact blames_advance.bind fun _ _ => stays_pure _
  · refine Blames.bind (stays_iterate (fun found => ?_) []) fun parts _ =>
      blames_ite (blames_failAt here _) (stays_pure _)
    refine blames_current.bind fun _ _ => blames_ite (stays_pure _) ?_
    exact blames_advance.bind fun _ _ => stays_pure _

theorem stays_effect? : Stays P effect? := by
  refine (stays_isAtAny _).bind fun _ _ => blames_ite ?_ (stays_pure _)
  exact blames_advance.bind fun effect _ => (stays_groupBehind? effect).bind fun _ _ => stays_pure _

section

variable {α : Type}

/-- Generic parameters, if there are any, and what is done behind them. -/
theorem stays_ite_genericParameters {f : List TypeVariable → TokenReader α}
    (behind : ∀ generics, Stays P (f generics)) :
    Stays P (do let generics ← if ← isAt .lessThan then genericParameters else pure []
                f generics) :=
  (stays_isAt _).bind fun _ _ => blames_ite
    (stays_genericParameters.bind fun generics _ => behind generics)
    ((stays_pure _).bind fun generics _ => behind generics)

/-- A result, if there is one, and what is done behind it. -/
theorem stays_ite_result {f : Option TypeExpr → TokenReader α}
    (behind : ∀ result, Stays P (f result)) :
    Stays P (do let result ← if ← accept .arrow then pure (some (← readType)) else pure none
                f result) :=
  (stays_accept _).bind fun _ _ => blames_ite
    (stays_readType.bind fun _ _ => (stays_pure _).bind fun result _ => behind result)
    ((stays_pure _).bind fun result _ => behind result)

/-- Requirements, if there are any, and what is done behind them. -/
theorem stays_ite_whereClause {generics : List TypeVariable}
    {f : List TypeVariable → TokenReader α} (behind : ∀ generics, Stays P (f generics)) :
    Stays P (do let generics ←
                  if ← isAt (.keyword .whereClause) then
                    pure (withRequirements generics (← whereClause))
                  else pure generics
                f generics) :=
  (stays_isAt _).bind fun _ _ => blames_ite
    (stays_whereClause.bind fun _ _ => (stays_pure _).bind fun generics _ => behind generics)
    ((stays_pure _).bind fun generics _ => behind generics)

/-- The types that a declaration inherits from, if there are any, and what is done behind them. -/
theorem stays_ite_inherits {f : List TypeExpr → TokenReader α}
    (behind : ∀ inherits, Stays P (f inherits)) :
    Stays P (do let inherits ←
                  if ← accept .colon then commaSeparated inheritedType else pure []
                f inherits) := by
  have inherited : Stays P inheritedType :=
    (stays_accept _).bind fun _ _ => blames_ite (stays_pure _) stays_readType
  exact (stays_accept _).bind fun _ _ => blames_ite
    ((stays_commaSeparated inherited).bind fun inherits _ => behind inherits)
    ((stays_pure _).bind fun inherits _ => behind inherits)

/-- Requirements that are dropped, if there are any, and what is done behind them. -/
theorem stays_ite_droppedClause {r : TokenReader α} (behind : Stays P r) :
    Stays P (do if ← isAt (.keyword .whereClause) then
                  let _ ← whereClause
                r) :=
  (stays_isAt _).bind fun _ _ => blames_ite (stays_whereClause.bind fun _ _ => behind) behind

end

theorem stays_function (attributes : List Attribute) (modifiers : List String)
    (availability : Availability) : Stays P (function attributes modifiers availability) := by
  refine (blames_expect _).bind fun word _ => stays_functionName.bind fun name _ => ?_
  refine stays_ite_genericParameters fun generics => (blames_expect _).bind fun _ _ => ?_
  refine (stays_commaList _ stays_parameter).bind fun parameters _ => ?_
  refine (blames_expect _).bind fun _ _ => (stays_many stays_effect?).bind fun _ _ => ?_
  refine stays_ite_result fun result => stays_ite_whereClause fun generics => ?_
  refine (stays_isAt _).bind fun _ _ => blames_ite ?_ (stays_pure _)
  exact stays_bracketGroup.bind fun _ _ => stays_pure _

theorem stays_property (modifiers : List String) (availability : Availability) :
    Stays P (property modifiers availability) := by
  refine blames_advance.bind fun word _ => stays_isAtName.bind fun _ _ => ?_
  refine (blames_peek 1).bind fun _ _ => blames_ite ?_ ?_
  · refine blames_advance.bind fun name _ => (blames_expect _).bind fun _ _ => ?_
    refine stays_readType.bind fun type _ => (stays_passDeclaration _).bind fun _ _ => ?_
    exact stays_pure _
  · exact (stays_passDeclaration _).bind fun _ _ => stays_pure _

theorem stays_importName : Stays P importName :=
  blames_advance.bind fun _ _ => (stays_isAtAny _).bind fun _ _ => blames_ite
    (blames_advance.bind fun _ _ => stays_dottedName) stays_dottedName

theorem stays_typeName (kind : TypeKind) : Stays P (typeName kind) := by
  refine blames_ite (stays_readType.bind fun _ _ => stays_pure _) ?_
  refine blames_expectName.bind fun name _ => (stays_isAt _).bind fun _ _ => ?_
  exact blames_ite (stays_genericParameters.bind fun _ _ => stays_pure _) (stays_pure _)

/-! ## Members -/

variable {body : TokenReader Members}

theorem stays_typeDeclaration (bodies : Stays P body) (kind : TypeKind)
    (attributes : List Attribute) (modifiers : List String) (availability : Availability) :
    Stays P (typeDeclaration body kind attributes modifiers availability) := by
  refine blames_advance.bind fun word _ => (stays_typeName kind).bind fun name _ => ?_
  refine stays_ite_inherits fun inherits => stays_ite_droppedClause ?_
  refine (blames_expect _).bind fun _ _ => bodies.bind fun members _ => ?_
  exact (blames_expect _).bind fun _ _ => stays_pure _

theorem stays_declarationBehind (bodies : Stays P body) (members : Members)
    (attributes : List Attribute) (modifiers : List String) (availability : Availability) :
    Stays P (declarationBehind body members attributes modifiers availability) := by
  refine blames_current.bind fun t _ => ?_
  have property : Stays P (do
      let found ← property modifiers availability
      return { members with properties := found.toList ++ members.properties }) :=
    (stays_property modifiers availability).bind fun _ _ => stays_pure _
  have passed : Stays P (do passDeclaration true; return members) :=
    (stays_passDeclaration true).bind fun _ _ => stays_pure _
  split
  · exact stays_importName.bind fun _ _ => stays_pure _
  · exact (stays_function attributes modifiers availability).bind fun _ _ => stays_pure _
  · exact (stays_enumCases availability).bind fun _ _ => stays_pure _
  · exact property
  · exact property
  · split
    · next kind _ =>
      refine (stays_typeDeclaration bodies kind attributes modifiers availability).bind ?_
      exact fun _ _ => stays_pure _
    · exact passed
  · exact passed

theorem stays_declaration (bodies : Stays P body) (members : Members) :
    Stays P (declaration body members) :=
  stays_readAttributes.bind fun found _ => stays_modifiers.bind fun modifiers _ =>
    stays_declarationBehind bodies members found.1 modifiers found.2

theorem stays_membersWith (bodies : Stays P body) (terminator : TokenKind) :
    Stays P (membersWith body terminator) := by
  refine stays_iterate (fun members => blames_current.bind fun t _ => ?_) _
  refine blames_ite (stays_pure _) (blames_ite ?_ (blames_ite (blames_fail _) ?_))
  · exact blames_advance.bind fun _ _ => stays_pure _
  · exact (stays_declaration bodies members).bind fun _ _ => stays_pure _

theorem stays_membersFrom (measure : List Token) (terminator : TokenKind) :
    Stays P (membersFrom measure terminator) := by
  induction measure generalizing terminator with
  | nil => exact stays_membersWith (blames_fail _) terminator
  | cons t measure ih => exact stays_membersWith (ih .closeBrace) terminator

end DeclarationReader

open DeclarationReader

theorem stays_readSourceFile : Stays P readSourceFile := by
  have members : Stays P (members .endOfFile) := stays_get.bind fun _ _ => stays_membersFrom _ _
  exact members.bind fun _ _ => stays_pure _

end ViewModifiers.Interface
