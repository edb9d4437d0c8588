import ViewModifiers.Proofs.Interface.Expressions
import ViewModifiers.Proofs.Interface.TypesAlike

/-!
# Default values of parameters

A default value is passed over up to the next comma or closing parenthesis outside brackets. So it
may be any expression whose commas stand inside brackets, a single literal for one, and the
parameters that are read are the same for all of them (`readsParameters_iff_of_sameButDefaults`).
Angle brackets are no brackets here: a value with a comma between generic arguments is cut off at
the comma.
-/

namespace ViewModifiers.Interface

open Source Text TokenReader DeclarationReader

variable {ts ts' us us' h h' e e' : List Token} {p p' : Position} {s s' u : TokenStream}
  {Value Value' : List Token → Prop}

/-! ## Brackets that are closed -/

/-- Tokens that close every bracket that they open. -/
inductive ClosesBrackets : List Token → Prop
  | nil : ClosesBrackets []
  | plain {t : Token} {ts : List Token} (opens : t.kind.closer? = none)
      (later : ClosesBrackets ts) : ClosesBrackets (t :: ts)
  | group {opening closing : Token} {inner ts : List Token}
      (pair : opening.kind.closer? = some closing.kind) (inside : Balanced inner)
      (later : ClosesBrackets ts) : ClosesBrackets (opening :: (inner ++ closing :: ts))

section Groups

variable {t opening closing : Token} {inner : List Token}

theorem exists_group_of_shape (same : shape (opening :: (inner ++ closing :: ts)) = shape us) :
    ∃ opening' inner' closing' ts', us = opening' :: (inner' ++ closing' :: ts') ∧
      opening.content = opening'.content ∧ shape inner = shape inner' ∧
      closing.content = closing'.content ∧ shape ts = shape ts' := by
  obtain ⟨opening', us, rfl, opens, -, behind⟩ := exists_cons_of_shape same
  obtain ⟨inner', us, rfl, inside, behind⟩ := exists_append_of_shape behind
  obtain ⟨closing', ts', rfl, closes, -, later⟩ := exists_cons_of_shape behind
  exact ⟨opening', inner', closing', ts', rfl, opens, inside, closes, later⟩

theorem Balanced.of_shape (balanced : Balanced ts) (same : shape ts = shape ts') :
    Balanced ts' := by
  induction balanced generalizing ts' with
  | nil =>
    rw [eq_nil_of_shape same]
    exact .nil
  | plain opens closes _ ih =>
    obtain ⟨t', us, rfl, content, -, later⟩ := exists_cons_of_shape same
    rw [Token.kind_eq content] at opens closes
    exact .plain opens closes (ih later)
  | group pair _ _ ihInside ihLater =>
    obtain ⟨opening', inner', closing', us, rfl, opens, inside, closes, later⟩ :=
      exists_group_of_shape same
    rw [Token.kind_eq opens, Token.kind_eq closes] at pair
    exact .group pair (ihInside inside) (ihLater later)

/-- Balanced tokens close their brackets, also in front of others that do. -/
theorem ClosesBrackets.append (balanced : Balanced h) (closed : ClosesBrackets ts) :
    ClosesBrackets (h ++ ts) := by
  induction balanced with
  | nil => exact closed
  | plain opens _ _ ih => exact .plain opens ih
  | group pair inside _ _ ih =>
    rw [List.cons_append, List.append_assoc, List.cons_append]
    exact .group pair inside ih

theorem Balanced.closesBrackets (balanced : Balanced ts) : ClosesBrackets ts := by
  simpa using ClosesBrackets.append balanced .nil

/-- Without its first token, which may be a bracket, the others still close theirs. -/
theorem ClosesBrackets.tail (closed : ClosesBrackets (t :: ts)) : ClosesBrackets ts := by
  cases closed with
  | plain _ later => exact later
  | group pair inside later =>
    have opens := TokenKind.closer?_of_isCloser (TokenKind.isCloser_of_closer? pair)
    exact .append inside (.plain opens later)

theorem ClosesBrackets.exists_group (closed : ClosesBrackets (t :: ts))
    (opens : t.kind.closer?.isSome = true) :
    ∃ inner closing later, ts = inner ++ closing :: later ∧
      t.kind.closer? = some closing.kind ∧ Balanced inner ∧ ClosesBrackets later := by
  cases closed with
  | plain none =>
    rw [none] at opens
    cases opens
  | group pair inside later => exact ⟨_, _, _, rfl, pair, inside, later⟩

theorem ClosesBrackets.of_shape (closed : ClosesBrackets ts) (same : shape ts = shape ts') :
    ClosesBrackets ts' := by
  induction closed generalizing ts' with
  | nil =>
    rw [eq_nil_of_shape same]
    exact .nil
  | plain opens _ ih =>
    obtain ⟨t', us, rfl, content, -, later⟩ := exists_cons_of_shape same
    rw [Token.kind_eq content] at opens
    exact .plain opens (ih later)
  | group pair inside _ ih =>
    obtain ⟨opening', inner', closing', us, rfl, opens, contents, closes, later⟩ :=
      exists_group_of_shape same
    rw [Token.kind_eq opens, Token.kind_eq closes] at pair
    exact .group pair (inside.of_shape contents) (ih later)

end Groups

/-! ## Tokens that differ in default values -/

/-- Tokens that differ only in default values, with values of some form on either side. In front of
a value all brackets that are opened are closed, and a comma or a closing parenthesis stands behind
it. -/
inductive SameButDefaults (Value Value' : List Token → Prop) : List Token → List Token → Prop
  | rest {ts ts' : List Token} (same : shape ts = shape ts') : SameButDefaults Value Value' ts ts'
  | value {h h' e e' us us' : List Token} {t t' : Token} (closed : ClosesBrackets h)
      (same : shape h = shape h') (sign : t.kind = .equals) (sign' : t'.kind = .equals)
      (value : Value e) (value' : Value' e') (ends : nextKind us ∈ defaultEnds)
      (later : SameButDefaults Value Value' us us') :
      SameButDefaults Value Value' (h ++ t :: (e ++ us)) (h' ++ t' :: (e' ++ us'))

theorem SameButDefaults.nextKind_eq (same : SameButDefaults Value Value' ts ts') :
    nextKind ts = nextKind ts' := by
  cases same with
  | rest same => exact nextKind_eq_of_shape same
  | @value h h' e e' us us' t t' closed same sign sign' =>
    cases h with
    | nil =>
      rw [eq_nil_of_shape same]
      exact sign.trans sign'.symm
    | cons x h =>
      obtain ⟨x', h', rfl, content, -⟩ := exists_cons_of_shape same
      exact Token.kind_eq content

theorem SameButDefaults.symm (same : SameButDefaults Value Value' ts ts') :
    SameButDefaults Value' Value ts' ts := by
  induction same with
  | rest same => exact .rest same.symm
  | value closed same sign sign' value value' ends later ih =>
    rw [later.nextKind_eq] at ends
    exact .value (closed.of_shape same) same.symm sign' sign value' value ends ih

/-! ## The simulation -/

/-- What is left in two streams differs only in default values. -/
def AlikeButDefaults (s s' : TokenStream) : Prop :=
  SameButDefaults IsDefault IsDefault s.ahead s'.ahead

/-- A token in front of others of one shape is taken alike, if no parenthesis is behind them. -/
theorem took_of_shape {x x' : Token} (same : shape (x :: ts) = shape (x' :: ts'))
    (noParen : nextKind us ≠ .openParen)
    (along : SameButDefaults IsDefault IsDefault (ts ++ us) (ts' ++ us')) (p p' : Position) :
    Took AlikeButDefaults (x' :: (ts' ++ us')).length x x' ⟨ts ++ us, p⟩ ⟨ts' ++ us', p'⟩ := by
  obtain ⟨_, _, ⟨⟩, content, touches, later⟩ := exists_cons_of_shape same
  refine ⟨content, along, Nat.lt_succ_self _, ?_⟩
  intro paren
  cases ts with
  | nil =>
    rw [List.nil_append, kind_current] at paren
    exact absurd paren noParen
  | cons y ts =>
    obtain ⟨y', ts', rfl, -⟩ := exists_cons_of_shape later
    exact touches

/-- A group is taken alike from tokens of one shape, whatever stands behind them. -/
theorem inStep_bracketGroup_of_shape {opening closing : Token} {inner : List Token}
    (pair : opening.kind.closer? = some closing.kind)
    (inside : Balanced inner) (same : shape (opening :: (inner ++ closing :: ts)) = shape h')
    (us us' : List Token) (p p' : Position) :
    ∃ ts', shape ts = shape ts' ∧
      InStep never bracketGroup bracketGroup ⟨(opening :: (inner ++ closing :: ts)) ++ us, p⟩
        ⟨h' ++ us', p'⟩ fun found found' t t' =>
          found.map Token.content = found'.map Token.content ∧
            t = ⟨ts ++ us, p⟩ ∧ t' = ⟨ts' ++ us', p'⟩ := by
  obtain ⟨opening', inner', closing', ts', rfl, opens, contents, closes, later⟩ :=
    exists_group_of_shape same
  have pair' : opening'.kind.closer? = some closing'.kind := by
    rw [← Token.kind_eq opens, ← Token.kind_eq closes, pair]
  refine ⟨ts', later, ?_⟩
  intro found t run
  rw [List.cons_append, List.append_assoc, List.cons_append, run'_bracketGroup pair inside] at run
  cases run
  refine .inr ⟨inner', ⟨ts' ++ us', p'⟩, ?_, contents_eq_of_shape contents, rfl, rfl⟩
  rw [List.cons_append, List.append_assoc, List.cons_append]
  exact run'_bracketGroup pair' (inside.of_shape contents) _ _

theorem simulation_alikeButDefaults : Simulation AlikeButDefaults where
  kind := by
    rintro ⟨ts, p⟩ ⟨ts', p'⟩ same
    rw [kind_current, kind_current]
    exact SameButDefaults.nextKind_eq same
  next := by
    rintro ⟨ts, p⟩ ⟨ts', p'⟩ same noSign real
    rw [kind_current] at noSign real
    cases (same : SameButDefaults IsDefault IsDefault ts ts') with
    | rest same =>
      cases ts with
      | nil => exact absurd rfl real
      | cons x ts =>
        obtain ⟨x', ts', rfl, -, -, later⟩ := exists_cons_of_shape same
        have none : nextKind [] ≠ .openParen := by decide
        have along : SameButDefaults IsDefault IsDefault (ts ++ []) (ts' ++ []) := by
          simpa using .rest later
        simpa using took_of_shape same none along p p'
    | @value h h' e e' us us' t t' closed same sign sign' value value' ends later =>
      cases h with
      | nil => exact absurd sign noSign
      | cons x h =>
        obtain ⟨x', h', rfl, -, -, behind⟩ := exists_cons_of_shape same
        have noParen : nextKind (t :: (e ++ us)) ≠ .openParen := by
          rw [nextKind_cons, sign]
          decide
        have along := SameButDefaults.value closed.tail behind sign sign' value value' ends later
        exact took_of_shape same noParen along p p'
  group := by
    rintro ⟨ts, p⟩ ⟨ts', p'⟩ same opens
    cases (same : SameButDefaults IsDefault IsDefault ts ts') with
    | rest same =>
      intro inner u run
      obtain ⟨opening, closing, rest, split, pair, inside, rfl⟩ := exists_of_bracketGroup opens run
      obtain rfl : ts = _ := split
      obtain ⟨rest', later, inStep⟩ := inStep_bracketGroup_of_shape pair inside same [] [] p p'
      simp only [List.append_nil] at inStep
      obtain ⟨⟨⟩⟩ | ⟨inner', u', run', contents, -, rfl⟩ := inStep _ _ run
      exact .inr ⟨inner', _, run', contents, .rest later⟩
    | @value h h' e e' us us' t t' closed same sign sign' value value' ends later =>
      cases h with
      | nil =>
        have none : t.kind.closer? = none := by rw [sign]; rfl
        have opens : t.kind.closer?.isSome = true := opens
        rw [none] at opens
        cases opens
      | cons x h =>
        obtain ⟨inner, closing, h, rfl, pair, inside, closed⟩ := closed.exists_group opens
        obtain ⟨h', behind, inStep⟩ := inStep_bracketGroup_of_shape pair inside same
          (t :: (e ++ us)) (t' :: (e' ++ us')) p p'
        refine inStep.imp ?_
        rintro found found' _ _ ⟨contents, rfl, rfl⟩
        exact ⟨contents, .value closed behind sign sign' value value' ends later⟩

/-! ## Values -/

/-- Two streams stand in values that may differ, or differ only in later ones. -/
inductive Passing : TokenStream → TokenStream → Prop
  | along {s s' : TokenStream} (along : AlikeButDefaults s s') : Passing s s'
  | inside {e e' us us' : List Token} (p p' : Position) (value : IsDefault e)
      (value' : IsDefault e') (ends : nextKind us ∈ defaultEnds)
      (later : SameButDefaults IsDefault IsDefault us us') : Passing ⟨e ++ us, p⟩ ⟨e' ++ us', p'⟩

theorem passing_rest (along : AlikeButDefaults s s') (real : s.current.kind ≠ .endOfFile) :
    Passing s.rest s'.rest := by
  obtain ⟨ts, p⟩ := s
  obtain ⟨ts', p'⟩ := s'
  rw [kind_current] at real
  cases (along : SameButDefaults IsDefault IsDefault ts ts') with
  | rest same =>
    cases ts with
    | nil => exact absurd rfl real
    | cons x ts =>
      obtain ⟨x', ts', rfl, -, -, later⟩ := exists_cons_of_shape same
      exact .along (.rest later)
  | @value h h' e e' us us' t t' closed same sign sign' value value' ends later =>
    cases h with
    | nil =>
      obtain rfl := eq_nil_of_shape same
      exact .inside p p' value value' ends later
    | cons x h =>
      obtain ⟨x', h', rfl, -, -, behind⟩ := exists_cons_of_shape same
      exact .along (.value closed.tail behind sign sign' value value' ends later)

/-- A step in one stream is made in the other one too, or not until the value ends. -/
theorem Passing.goesOn (passing : Passing s s') {b : Unit}
    (run : (expressionStep defaultEnds ()).run' s = (.ok (.inl b), u)) :
    ∃ b' u', Steps (expressionStep defaultEnds) () s' b' u' ∧ Passing u u' := by
  cases passing with
  | along along =>
    have kind := simulation_alikeButDefaults.kind along
    obtain ⟨⟨⟩, -⟩ | ⟨-, goesOn, step⟩ := expressionStep_cases run
    have real : s.current.kind ≠ .endOfFile := fun is => goesOn (is ▸ List.mem_cons_self)
    have goesOn' : s'.current.kind ∉ .endOfFile :: defaultEnds := kind ▸ goesOn
    obtain ⟨plain, rfl⟩ | ⟨opens, inner, ran⟩ := step
    · exact ⟨(), s'.rest, .single (run'_expressionStep_of_plain goesOn' (kind ▸ plain))
        (TokenStream.length_rest_lt (kind ▸ real)), passing_rest along real⟩
    · obtain ⟨⟨⟩⟩ | ⟨inner', u', ran', -, along⟩ :=
        simulation_alikeButDefaults.group along opens inner _ ran
      have opens' : s'.current.kind.closer?.isSome = true := kind ▸ opens
      have step := run'_expressionStep_of_group goesOn' opens' ran'
      exact ⟨(), u', .single step (length_lt_of_bracketGroup opens' ran'), .along along⟩
  | @inside e e' us us' p p' value value' ends later =>
    obtain rfl | ⟨e, value, -, step⟩ := value.exists_step
    · rw [List.nil_append, run'_expressionStep_of_end (by simp [ends])] at run
      cases run
    · -- the other stream waits in front of its own value
      rw [step us p] at run
      cases run
      exact ⟨(), _, .refl _ _, .inside p p' value value' ends later⟩

/-- Where one stream ends its value, the other one passes its own as a whole. -/
theorem Passing.ends (passing : Passing s s') {b : Unit}
    (run : (expressionStep defaultEnds ()).run' s = (.ok (.inr b), u)) :
    ∃ u', Steps (expressionStep defaultEnds) () s' () u' ∧
      (expressionStep defaultEnds ()).run' u' = (.ok (.inr ()), u') ∧ AlikeButDefaults u u' := by
  cases passing with
  | along along =>
    obtain ⟨-, rfl, ends⟩ | ⟨⟨⟩, -⟩ := expressionStep_cases run
    rw [simulation_alikeButDefaults.kind along] at ends
    exact ⟨s', .refl _ _, run'_expressionStep_of_end ends, along⟩
  | @inside e e' us us' p p' value value' ends later =>
    obtain rfl | ⟨e, value, -, step⟩ := value.exists_step
    · rw [List.nil_append, run'_expressionStep_of_end (by simp [ends])] at run
      cases run
      rw [later.nextKind_eq] at ends
      have last : (expressionStep defaultEnds ()).run' ⟨us', p'⟩ = (.ok (.inr ()), ⟨us', p'⟩) :=
        run'_expressionStep_of_end (by simp [ends])
      exact ⟨⟨us', p'⟩, steps_of_isDefault value' us' p', last, later⟩
    · rw [step us p] at run
      cases run

theorem agree_passExpression (passing : Passing s s') :
    Agree AlikeButDefaults (passExpression defaultEnds) (passExpression defaultEnds) s s'
      (s'.ahead.length + 1) := by
  have passes : InStep never (passExpression defaultEnds) (passExpression defaultEnds) s s'
      fun _ _ t t' => AlikeButDefaults t t' := by
    rw [passExpression_eq]
    refine inStep_iterate_of_matched (fun _ _ t t' => Passing t t') ?_ ?_ passing
    · intro _ _ t t' b u passing run
      exact passing.goesOn run
    · intro _ _ t t' b u passing run
      obtain ⟨u', steps, last, along⟩ := passing.ends run
      exact ⟨(), u', (), u', steps, last, along⟩
  intro a t run
  obtain ⟨⟨⟩⟩ | ⟨a', t', run', along⟩ := passes a t run
  have leaves : Leaves True (passExpression defaultEnds) s' (s'.ahead.length + 1) :=
    leaves_passExpression defaultEnds s'
  exact .inr ⟨a', t', run', rfl, along, (leaves.of_ok run').2⟩

/-! ## Parameters -/

theorem agree_defaultValue? (along : AlikeButDefaults s s') :
    Agree AlikeButDefaults defaultValue? defaultValue? s s' (s'.ahead.length + 1) := by
  refine inStep_ite_accept_of_iff (simulation_alikeButDefaults.kind_iff along .equals)
    (fun sign => ?_) fun _ => agree_pure along (Nat.lt_succ_self _)
  have real : s.current.kind ≠ .endOfFile := by
    rw [sign]
    decide
  have real' : s'.current.kind ≠ .endOfFile := simulation_alikeButDefaults.kind along ▸ real
  have shorter := TokenStream.length_rest_lt real'
  refine Agree.bind (agree_passExpression (passing_rest along real)) fun _ t t' along fewer => ?_
  exact agree_pure along (by omega)

theorem agree_parameter (along : AlikeButDefaults s s') :
    Agree AlikeButDefaults parameter parameter s s' s'.ahead.length := by
  have sim := simulation_alikeButDefaults
  refine Agree.bind (agree_readAttributes sim along) ?_
  rintro ⟨attributes, availability⟩ t t' along le
  refine (sim.expectName along).bind fun first first' u u' took => ?_
  have shorter := took.fewer
  refine inStep_look (run'_isAt .colon u) (run'_isAt .colon u') ?_
  rw [Token.value_eq took.content, decide_eq_decide.2 (sim.kind_iff took.along .colon)]
  extract_lets behindNames
  have behind (second : Option String) {v v' : TokenStream} (along : AlikeButDefaults v v')
      (le : v'.ahead.length ≤ u'.ahead.length) :
      Agree AlikeButDefaults (behindNames second) (behindNames second) v v' s'.ahead.length := by
    refine (sim.expect along (by decide) (by decide)).bind fun _ _ x x' colon => ?_
    have less := colon.fewer
    refine Agree.bind (agree_readType sim colon.along) fun type y y' along fewer => ?_
    refine Agree.bind (agree_defaultValue? along) fun given z z' along le => ?_
    exact agree_pure along (by omega)
  refine inStep_ite Iff.rfl (fun _ => ?_) fun _ => ?_
  · exact inStep_look (run'_pure _ _) (run'_pure _ _) (behind _ took.along (Nat.le_refl _))
  · refine (sim.expectName took.along).bind fun second second' v v' took' => ?_
    rw [Token.value_eq took'.content]
    exact inStep_look (run'_pure _ _) (run'_pure _ _)
      (behind _ took'.along (Nat.le_of_lt took'.fewer))

theorem agree_parameterList (along : AlikeButDefaults s s') :
    Agree AlikeButDefaults parameterList parameterList s s' (s'.ahead.length + 1) :=
  agree_commaList simulation_alikeButDefaults .closeParen
    (fun _ _ along _ => agree_parameter along) along

/-- Some parameters are read up to the closing parenthesis behind them. -/
def ReadsParameters (s : TokenStream) (parameters : List DeclaredParameter) : Prop :=
  ∃ t, parameterList.run' s = (.ok parameters, t) ∧ t.current.kind = .closeParen

theorem ReadsParameters.of_alike {parameters : List DeclaredParameter}
    (reads : ReadsParameters s parameters) (along : AlikeButDefaults s s') :
    ReadsParameters s' parameters := by
  obtain ⟨t, run, closes⟩ := reads
  obtain ⟨⟨⟩⟩ | ⟨_, t', run', rfl, along, -⟩ := agree_parameterList along _ _ run
  rw [simulation_alikeButDefaults.kind along] at closes
  exact ⟨t', run', closes⟩

/-- **Default values**: the same parameters are read up to their closing parenthesis whatever their
default values are, as long as these have all commas inside brackets. Exactly such values are passed
as a whole. -/
theorem readsParameters_iff_of_sameButDefaults
    (same : SameButDefaults IsDefault IsDefault ts ts') (p p' : Position) :
    (∀ parameters, ReadsParameters ⟨ts, p⟩ parameters ↔ ReadsParameters ⟨ts', p'⟩ parameters) ∧
      ∀ e us q, Balanced e → (∀ t ∈ e, t.kind ≠ .endOfFile) → nextKind us ∈ defaultEnds →
        ((passExpression defaultEnds).run' ⟨e ++ us, q⟩ = (.ok (), ⟨us, q⟩) ↔ IsDefault e) := by
  refine ⟨fun parameters => ⟨fun reads => ?_, fun reads => ?_⟩, ?_⟩
  · exact reads.of_alike same
  · exact reads.of_alike same.symm
  · intro e us q balanced real ends
    exact run'_passExpression_iff balanced real ends q

/-! ## Two parameters with different values -/

/-- A parameter in front of its default value. -/
def defaultedPieces : List Piece := [.word "a", .sign .colon, .space, .word "A", .space]

/-- Another parameter, with a comma in front of it and the closing parenthesis behind it. -/
def requiredPieces : List Piece :=
  [.sign .comma, .space, .word "b", .sign .colon, .space, .word "B", .sign .closeParen]

/-- The tokens of both parameters, the first one with a value. -/
def withValue (value : List Token) : List Token :=
  placed .start defaultedPieces ++ ⟨.equals, "=", ⟨1, 6⟩⟩ :: (value ++ placed ⟨2, 1⟩ requiredPieces)

/-- Both parameters. -/
def bothParameters : List DeclaredParameter :=
  [⟨"a", none, .named "A" [], [], true⟩, ⟨"b", none, .named "B" [], [], false⟩]

/-- A literal. -/
def zeroLiteral : List Token := [⟨.number, "0", ⟨1, 8⟩⟩]

/-- The call `f(1, 2)`. -/
def twoArgumentCall : List Token :=
  ⟨.identifier, "f", ⟨1, 8⟩⟩ :: ⟨.openParen, "(", ⟨1, 9⟩⟩ ::
    ([⟨.number, "1", ⟨1, 10⟩⟩, ⟨.comma, ",", ⟨1, 11⟩⟩, ⟨.number, "2", ⟨1, 13⟩⟩] ++
      [⟨.closeParen, ")", ⟨1, 14⟩⟩])

theorem sameButDefaults_withValue (value : Value e) (value' : Value' e') :
    SameButDefaults Value Value' (withValue e) (withValue e') := by
  have flat : Balanced (placed .start defaultedPieces) := .of_flat (by decide)
  exact .value flat.closesBrackets rfl rfl rfl value value' (by decide) (.rest rfl)

theorem readsParameters_zero : ReadsParameters ⟨withValue zeroLiteral, .start⟩ bothParameters :=
  ⟨⟨[⟨.closeParen, ")", ⟨2, 7⟩⟩], .start⟩, rfl, rfl⟩

theorem readsParameters_call :
    ReadsParameters ⟨withValue twoArgumentCall, .start⟩ bothParameters := by
  have isCall : IsDefault twoArgumentCall := by
    apply IsDefault.plain rfl rfl (by decide) (by decide)
    exact .group rfl (.of_flat (by decide)) .nil
  have isLiteral : IsDefault zeroLiteral := .plain rfl rfl (by decide) (by decide) .nil
  have same := sameButDefaults_withValue isCall isLiteral
  exact ((readsParameters_iff_of_sameButDefaults same .start .start).1 _).2 readsParameters_zero

/-! ## Generic arguments -/

/-- Expressions with all commas inside brackets, where angle brackets are brackets too, possibly
inside such ones. -/
inductive IsGenericDefault : Bool → List Token → Prop
  | nil {inside : Bool} : IsGenericDefault inside []
  | plain {inside : Bool} {t : Token} {ts : List Token} (opens : t.kind.closer? = none)
      (closes : t.kind.isCloser = false) (noAngle : t.kind ∉ [.lessThan, .greaterThan])
      (noComma : inside = false → t.kind ≠ .comma) (later : IsGenericDefault inside ts) :
      IsGenericDefault inside (t :: ts)
  | group {inside : Bool} {opening closing : Token} {inner ts : List Token}
      (pair : opening.kind.closer? = some closing.kind) (within : Balanced inner)
      (later : IsGenericDefault inside ts) :
      IsGenericDefault inside (opening :: (inner ++ closing :: ts))
  | arguments {inside : Bool} {opening closing : Token} {inner ts : List Token}
      (opens : opening.kind = .lessThan) (closes : closing.kind = .greaterThan)
      (within : IsGenericDefault true inner) (later : IsGenericDefault inside ts) :
      IsGenericDefault inside (opening :: (inner ++ closing :: ts))

/-- One literal. -/
inductive IsLiteral : List Token → Prop
  | mk {t : Token} (kind : t.kind ∈ [.number, .string]) : IsLiteral [t]

/-- The generic arguments `B, C`. -/
def twoTypes : List Token :=
  [⟨.identifier, "B", ⟨1, 10⟩⟩, ⟨.comma, ",", ⟨1, 11⟩⟩, ⟨.identifier, "C", ⟨1, 13⟩⟩]

/-- The call `D<B, C>()`. -/
def genericCall : List Token :=
  ⟨.identifier, "D", ⟨1, 8⟩⟩ :: ⟨.lessThan, "<", ⟨1, 9⟩⟩ :: (twoTypes ++
    ⟨.greaterThan, ">", ⟨1, 14⟩⟩ :: ⟨.openParen, "(", ⟨1, 15⟩⟩ ::
      ([] ++ [⟨.closeParen, ")", ⟨1, 16⟩⟩]))

/-- With a comma between generic arguments, a value may not be replaced by a literal: `C` is read as
the name of a parameter. -/
theorem not_readsParameters_genericCall :
    ¬∀ ts ts' p p' parameters, SameButDefaults (IsGenericDefault false) IsLiteral ts ts' →
      (ReadsParameters ⟨ts, p⟩ parameters ↔ ReadsParameters ⟨ts', p'⟩ parameters) := by
  intro always
  have within : IsGenericDefault true twoTypes :=
    .plain rfl rfl (by decide) nofun (.plain rfl rfl (by decide) nofun
      (.plain rfl rfl (by decide) nofun .nil))
  have isGeneric : IsGenericDefault false genericCall :=
    .plain rfl rfl (by decide) (by decide) (.arguments rfl rfl within (.group rfl .nil .nil))
  have isLiteral : IsLiteral zeroLiteral := .mk (by decide)
  have same := sameButDefaults_withValue isGeneric isLiteral
  obtain ⟨t, run, -⟩ := (always _ _ .start .start bothParameters same).2 readsParameters_zero
  have fails : (parameterList.run' ⟨withValue genericCall, .start⟩).1 =
      .error ⟨.expectedName ">", ⟨1, 14⟩⟩ := rfl
  rw [run] at fails
  cases fails

end ViewModifiers.Interface
