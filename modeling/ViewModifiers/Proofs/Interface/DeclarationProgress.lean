import ViewModifiers.Proofs.Interface.FunctionReading
import ViewModifiers.Proofs.Interface.TypeProgress

/-!
# Progress of reading declarations

Reading a declaration uses up a token wherever members are read: attributes and modifiers may be
missing, and what stands there may be nothing that is known, but then the first token of it is
skipped. So a whole interface is read to its end, or a fault of its text is found.
-/

namespace ViewModifiers.Interface

open TokenReader TypeReader

namespace DeclarationReader

variable {excused : Prop} {s : TokenStream} {n : Nat}

/-! ## Skipping -/

/-- While a declaration is passed: a token of it has been used up, or its first one is still to be
used up, whatever it is. -/
def Passing (n : Nat) (first : Bool) (s : TokenStream) : Prop :=
  s.ahead.length < n ∨ first = true ∧ s.ahead.length ≤ n ∧ s.current.kind ≠ .endOfFile ∧
    s.current.kind ≠ .closeBrace

theorem Passing.length_le {first : Bool} (passing : Passing n first s) : s.ahead.length ≤ n :=
  passing.elim Nat.le_of_lt fun later => later.2.1

/-- If nothing has been used up, it is the same token that comes next. -/
theorem Passing.of_isLeftOf {s' : TokenStream} (passing : Passing n true s) (left : s'.IsLeftOf s) :
    Passing n true s' := by
  rcases passing with fewer | ⟨first, le, open_⟩
  · exact .inl (Nat.lt_of_le_of_lt left.ahead.length_le fewer)
  · rcases Nat.lt_or_ge s'.ahead.length s.ahead.length with fewer | same
    · exact .inl (Nat.lt_of_lt_of_le fewer le)
    · have ahead := left.ahead.eq_of_length_le same
      obtain rfl : s' = s := by
        cases s'; cases s
        simp only [TokenStream.mk.injEq]
        exact ⟨ahead, left.finish⟩
      exact .inr ⟨first, le, open_⟩

theorem leaves_passDeclaration {first : Bool} (passing : Passing n first s) :
    Leaves excused (passDeclaration first) s n := by
  refine fares_iterate (Passing n) passing fun first s' passing => ?_
  have le := passing.length_le
  refine fares_look (run'_current s') ?_
  split
  · next ends =>
    -- At the end of the scope only a token that was used up can have let the loop come here.
    simp only [Bool.or_eq_true, decide_eq_true_eq] at ends
    rcases passing with fewer | ⟨_, _, noFile, noBrace⟩
    · exact fares_pure fewer
    · exact (ends.elim noFile noBrace).elim
  · next more =>
    have real : s'.current.kind ≠ .endOfFile := fun ends => more (by rw [ends]; rfl)
    split
    · next opens =>
      refine (leaves_bracketGroup opens).bind fun _ s₁ fewer => ?_
      exact fares_pure ⟨fewer, .inl (by omega)⟩
    · split
      · exact fares_failAt _ rfl
      · split
        · refine (leaves_advance real).bind fun _ s₁ fewer => ?_
          exact fares_pure ⟨fewer, .inl (by omega)⟩
        · next notFirst =>
          have below : s'.ahead.length < n := passing.resolve_right fun later => notFirst later.1
          split
          · exact fares_pure below
          · refine fares_look (run'_peek 1 s') ?_
            split
            · exact fares_pure below
            · refine (leaves_advance real).bind fun _ s₁ fewer => ?_
              exact fares_pure ⟨fewer, .inl (by omega)⟩

/-! ## Modifiers -/

theorem ne_endOfFile_of_isModifierWord {t : Token} (isWord : isModifierWord t = true) :
    t.kind ≠ .endOfFile := by
  have kind : t.kind = .identifier := by
    simp only [isModifierWord, Bool.and_eq_true, decide_eq_true_eq] at isWord
    exact isWord.1
  rw [kind]
  decide

theorem fares_modifier? (s : TokenStream) : FaresIfAny excused modifier? s := by
  refine fares_look (run'_current s) (fares_look (run'_classModifiesNext s) ?_)
  split
  · next modifies =>
    have real : s.current.kind ≠ .endOfFile := by
      simp only [Bool.or_eq_true, Bool.and_eq_true, decide_eq_true_eq] at modifies
      rcases modifies with isWord | ⟨isClass, _⟩
      · exact ne_endOfFile_of_isModifierWord isWord
      · rw [isClass]; decide
    refine (leaves_advance real).bind fun _ s₁ fewer₁ => ?_
    refine (leaves_groupBehind? s.current s₁).bind fun _ s₂ le₂ => ?_
    exact fares_pure (show s₂.ahead.length < s.ahead.length by omega)
  · exact fares_pure (Nat.lt_succ_self _)

theorem leaves_modifiers (s : TokenStream) :
    Leaves excused modifiers s (s.ahead.length + 1) :=
  leaves_many fun s' _ => fares_modifier? s'

/-! ## Parts of declarations -/

theorem leaves_genericParameter (s : TokenStream) :
    Leaves excused genericParameter s s.ahead.length := by
  refine (leaves_expectName s).bind fun first s₁ fewer₁ => ?_
  refine fares_look (run'_isAtName s₁) ?_
  extract_lets behindName
  have behind (name : String) (s₂ : TokenStream) (le₂ : s₂.ahead.length < s₁.ahead.length + 1) :
      Leaves excused (behindName name) s₂ s.ahead.length := by
    refine fares_ite_accept (by decide) (fun fewer => ?_) (fares_pure (by omega))
    refine (leaves_readType s₂.rest).bind fun t s₃ fewer₃ => ?_
    exact fares_pure (by omega)
  split
  · refine (leaves_advance_le s₁).bind fun name s₂ le₂ => ?_
    exact fares_look (run'_pure _ _) (behind _ s₂ le₂)
  · exact fares_look (run'_pure _ _) (behind _ s₁ (Nat.lt_succ_self _))

theorem leaves_genericParameters (s : TokenStream) :
    Leaves excused genericParameters s s.ahead.length := by
  refine (leaves_expect (by decide) s).bind fun _ s₁ fewer₁ => ?_
  refine (leaves_commaList _ fun s' _ => leaves_genericParameter s').bind fun _ s₂ le₂ => ?_
  refine (leaves_expect (by decide) s₂).bind fun _ s₃ fewer₃ => ?_
  exact fares_pure (by omega)

theorem leaves_requirement (s : TokenStream) : Leaves excused requirement s s.ahead.length := by
  refine (leaves_readType s).bind fun subject s₁ fewer₁ => ?_
  refine fares_ite_accept (by decide) (fun fewer => ?_) ?_
  · refine (leaves_readType s₁.rest).bind fun t s₂ fewer₂ => ?_
    exact fares_pure (by omega)
  · refine fares_look (run'_current s₁) ?_
    split
    · refine (leaves_advance_le s₁).bind fun _ s₂ le₂ => ?_
      refine (leaves_readType s₂).bind fun _ s₃ fewer₃ => ?_
      exact fares_pure (by omega)
    · exact fares_fail rfl

theorem leaves_whereClause (s : TokenStream) : Leaves excused whereClause s s.ahead.length := by
  refine (leaves_expect (by decide) s).bind fun _ s₁ fewer₁ => ?_
  refine (leaves_commaSeparated fun s' _ => leaves_requirement s').bind fun _ s₂ fewer₂ => ?_
  exact fares_pure (by omega)

theorem leaves_defaultValue? (s : TokenStream) :
    Leaves excused defaultValue? s (s.ahead.length + 1) := by
  refine fares_ite_accept (by decide) (fun fewer => ?_) (fares_pure (Nat.lt_succ_self _))
  refine (leaves_passExpression _ s.rest).bind fun _ s₁ le₁ => ?_
  exact fares_pure (by omega)

theorem leaves_parameter (s : TokenStream) : Leaves excused parameter s s.ahead.length := by
  refine (leaves_readAttributes s).bind fun attributes s₁ le₁ => ?_
  refine (leaves_expectName s₁).bind fun first s₂ fewer₂ => ?_
  refine fares_look (run'_isAt .colon s₂) ?_
  extract_lets behindNames
  have behind (secondName : Option String) (s₃ : TokenStream)
      (le₃ : s₃.ahead.length < s₂.ahead.length + 1) :
      Leaves excused (behindNames secondName) s₃ s.ahead.length := by
    refine (leaves_expect (by decide) s₃).bind fun _ s₄ fewer₄ => ?_
    refine (leaves_readType s₄).bind fun type s₅ fewer₅ => ?_
    refine (leaves_defaultValue? s₅).bind fun hasDefault s₆ le₆ => ?_
    exact fares_pure (by omega)
  split
  · exact fares_look (run'_pure _ _) (behind none s₂ (Nat.lt_succ_self _))
  · refine (leaves_expectName s₂).bind fun second s₃ fewer₃ => ?_
    exact fares_look (run'_pure _ _) (behind _ s₃ (Nat.lt_succ_of_lt fewer₃))

theorem leaves_associatedValue (s : TokenStream) :
    Leaves excused associatedValue s s.ahead.length := by
  refine (leaves_label? s).bind fun _ s₁ le₁ => ?_
  refine (leaves_readType s₁).bind fun type s₂ fewer₂ => ?_
  refine (leaves_defaultValue? s₂).bind fun _ s₃ le₃ => ?_
  exact fares_pure (by omega)

theorem leaves_associatedValues (s : TokenStream) :
    Leaves excused associatedValues s (s.ahead.length + 1) := by
  refine fares_ite_accept (by decide) (fun fewer => ?_) (fares_pure (Nat.lt_succ_self _))
  refine (leaves_commaList _ fun s' _ => leaves_associatedValue s').bind fun types s₁ le₁ => ?_
  refine (leaves_expect (by decide) s₁).bind fun _ s₂ fewer₂ => ?_
  exact fares_pure (by omega)

theorem leaves_rawValue? (s : TokenStream) : Leaves excused rawValue? s (s.ahead.length + 1) := by
  refine fares_ite_accept (by decide) (fun fewer => ?_) (fares_pure (Nat.lt_succ_self _))
  refine fares_look (run'_current s.rest) ?_
  extract_lets literal
  have behind (s₁ : TokenStream) (le₁ : s₁.ahead.length < s.rest.ahead.length + 1) :
      Leaves excused (literal ()) s₁ (s.ahead.length + 1) := by
    refine (leaves_advance_le s₁).bind fun _ s₂ le₂ => ?_
    exact fares_pure (by omega)
  split
  · exact (leaves_advance_le s.rest).bind fun _ s₁ le₁ => behind s₁ le₁
  · exact behind s.rest (Nat.lt_succ_self _)

/-! ## Declarations -/

theorem leaves_enumCase (availability : Availability) (s : TokenStream) :
    Leaves excused (enumCase availability) s s.ahead.length := by
  refine (leaves_expectName s).bind fun name s₁ fewer₁ => ?_
  refine (leaves_associatedValues s₁).bind fun associated s₂ le₂ => ?_
  refine (leaves_rawValue? s₂).bind fun _ s₃ le₃ => ?_
  exact fares_pure (by omega)

theorem leaves_enumCases (availability : Availability) (s : TokenStream) :
    Leaves excused (enumCases availability) s s.ahead.length := by
  refine (leaves_expect (by decide) s).bind fun _ s₁ fewer₁ => ?_
  refine Leaves.mono ?_ (Nat.le_of_lt fewer₁)
  exact leaves_commaSeparated fun s' _ => leaves_enumCase availability s'

theorem leaves_functionName (s : TokenStream) :
    Leaves excused functionName s (s.ahead.length + 1) := by
  refine fares_look (run'_current s) ?_
  split
  · exact (leaves_advance_le s).bind fun _ s₁ le₁ => fares_pure le₁
  · refine Fares.bind (P := fun _ s₁ => s₁.ahead.length < s.ahead.length + 1) ?_
      fun parts s₁ le₁ => ?_
    · refine fares_iterate_le (Nat.le_refl _) fun found s' inner => ?_
      refine fares_look (run'_current s') ?_
      split
      · exact fares_pure (Nat.lt_succ_of_le inner)
      · next more =>
        have real : s'.current.kind ≠ .endOfFile := fun ends => more (by rw [ends]; rfl)
        refine (leaves_advance real).bind fun _ s₁ fewer => ?_
        exact fares_pure ⟨fewer, trivial⟩
    · split
      · exact fares_failAt _ rfl
      · exact fares_pure le₁

theorem fares_effect? (s : TokenStream) : FaresIfAny excused effect? s := by
  refine fares_ite_isAtAny (by decide) (fun real => ?_) (fares_pure (Nat.lt_succ_self _))
  refine (leaves_advance real).bind fun effect s₁ fewer₁ => ?_
  refine (leaves_groupBehind? effect s₁).bind fun _ s₂ le₂ => ?_
  exact fares_pure (show s₂.ahead.length < s.ahead.length by omega)

section

variable {α : Type} {Q : α → TokenStream → Prop}

/-- Generic parameters, if there are any, and what is done behind them. -/
theorem fares_genericParameters {f : List TypeVariable → TokenReader α}
    (behind : ∀ generics s₁, s₁.ahead.length ≤ s.ahead.length →
      Fares excused (f generics) s₁ Q) :
    Fares excused (do let generics ← if ← isAt .lessThan then genericParameters else pure []
                      f generics) s Q := by
  refine fares_ite_isAt (fun _ => ?_) ?_
  · exact (leaves_genericParameters s).bind fun generics s₁ fewer => behind generics s₁ (by omega)
  · exact fares_look (run'_pure _ _) (behind [] s (Nat.le_refl _))

/-- A result, if there is one, and what is done behind it. -/
theorem fares_result {f : Option TypeExpr → TokenReader α}
    (behind : ∀ result s₁, s₁.ahead.length ≤ s.ahead.length → Fares excused (f result) s₁ Q) :
    Fares excused (do let result ← if ← accept .arrow then pure (some (← readType)) else pure none
                      f result) s Q := by
  refine fares_ite_accept (by decide) (fun fewer => ?_) ?_
  · refine (leaves_readType s.rest).bind fun t s₁ fewer₁ => ?_
    exact fares_look (run'_pure _ _) (behind _ s₁ (by omega))
  · exact fares_look (run'_pure _ _) (behind none s (Nat.le_refl _))

/-- Requirements, if there are any, and what is done behind them. -/
theorem fares_whereClause {generics : List TypeVariable} {f : List TypeVariable → TokenReader α}
    (behind : ∀ generics s₁, s₁.ahead.length ≤ s.ahead.length →
      Fares excused (f generics) s₁ Q) :
    Fares excused (do let generics ←
                        if ← isAt (.keyword .whereClause) then
                          pure (withRequirements generics (← whereClause))
                        else pure generics
                      f generics) s Q := by
  refine fares_ite_isAt (fun _ => ?_) ?_
  · refine (leaves_whereClause s).bind fun requirements s₁ fewer => ?_
    exact fares_look (run'_pure _ _) (behind _ s₁ (Nat.le_of_lt fewer))
  · exact fares_look (run'_pure _ _) (behind generics s (Nat.le_refl _))

end

theorem leaves_function (attributes : List Attribute) (modifiers : List String)
    (availability : Availability) (s : TokenStream) :
    Leaves excused (function attributes modifiers availability) s s.ahead.length := by
  refine (leaves_expect (by decide) s).bind fun word s₁ fewer₁ => ?_
  refine (leaves_functionName s₁).bind fun name s₂ le₂ => ?_
  refine fares_genericParameters fun generics s₃ le₃ => ?_
  refine (leaves_expect (by decide) s₃).bind fun _ s₄ fewer₄ => ?_
  refine (leaves_commaList _ fun s' _ => leaves_parameter s').bind fun parameters s₅ le₅ => ?_
  refine (leaves_expect (by decide) s₅).bind fun _ s₆ fewer₆ => ?_
  refine (leaves_many fun s' _ => fares_effect? s').bind fun _ s₇ le₇ => ?_
  refine fares_result fun result s₈ le₈ => ?_
  refine fares_whereClause fun generics s₉ le₉ => ?_
  refine fares_ite_isAt (fun opens => ?_) (fares_pure (by omega))
  refine (leaves_bracketGroup (by rw [opens]; rfl)).bind fun _ s₁₀ fewer₁₀ => ?_
  exact fares_pure (by omega)

theorem leaves_property (modifiers : List String) (availability : Availability)
    (more : s.current.kind ≠ .endOfFile) :
    Leaves excused (property modifiers availability) s s.ahead.length := by
  refine (leaves_advance more).bind fun word s₁ fewer₁ => ?_
  refine fares_look (run'_isAtName s₁) (fares_look (run'_peek 1 s₁) ?_)
  split
  · refine (leaves_advance_le s₁).bind fun name s₂ le₂ => ?_
    refine (leaves_expect (by decide) s₂).bind fun _ s₃ fewer₃ => ?_
    refine (leaves_readType s₃).bind fun type s₄ fewer₄ => ?_
    refine (leaves_passDeclaration (n := s.ahead.length) (.inl (by omega))).bind
      fun _ s₅ fewer₅ => ?_
    exact fares_pure fewer₅
  · exact (leaves_passDeclaration (.inl fewer₁)).bind fun _ s₂ fewer₂ => fares_pure fewer₂

theorem leaves_importName (more : s.current.kind ≠ .endOfFile) :
    Leaves excused importName s s.ahead.length := by
  refine (leaves_advance more).bind fun _ s₁ fewer₁ => ?_
  have named (s₂ : TokenStream) : Leaves excused dottedName s₂ s₂.ahead.length :=
    (leaves_dottedNames s₂).bind fun _ s₃ fewer₃ => fares_pure fewer₃
  refine fares_ite_isAtAny (by decide) (fun real => ?_) ((named s₁).mono (by omega))
  exact (leaves_advance real).bind fun _ s₂ fewer₂ => (named s₂).mono (by omega)

theorem leaves_typeName (kind : TypeKind) (s : TokenStream) :
    Leaves excused (typeName kind) s s.ahead.length := by
  rw [typeName]
  split
  · exact (leaves_readType s).bind fun subject s₁ fewer₁ => fares_pure fewer₁
  · refine (leaves_expectName s).bind fun name s₁ fewer₁ => ?_
    refine fares_ite_isAt (fun _ => ?_) (fares_pure fewer₁)
    refine (leaves_genericParameters s₁).bind fun _ s₂ fewer₂ => ?_
    exact fares_pure (by omega)

theorem leaves_inheritedType (s : TokenStream) :
    Leaves excused inheritedType s s.ahead.length :=
  fares_ite_accept (by decide) (fun fewer => fares_pure fewer) (leaves_readType s)

/-! ## Members -/

/-- A reader of bodies takes nothing but tokens wherever fewer than a number of them are left. -/
def TakesBelow (excused : Prop) (body : TokenReader Members) (n : Nat) : Prop :=
  ∀ s, s.ahead.length < n → Leaves excused body s (s.ahead.length + 1)

variable {body : TokenReader Members}

theorem TakesBelow.mono {m : Nat} (bodies : TakesBelow excused body n) (le : m ≤ n) :
    TakesBelow excused body m :=
  fun s few => bodies s (Nat.lt_of_lt_of_le few le)

/-- The types that a declaration inherits from, if there are any, and what is done behind them. -/
theorem fares_inherits {α : Type} {Q : α → TokenStream → Prop}
    {f : List TypeExpr → TokenReader α}
    (behind : ∀ inherits s₁, s₁.ahead.length ≤ s.ahead.length →
      Fares excused (f inherits) s₁ Q) :
    Fares excused (do let inherits ←
                        if ← accept .colon then commaSeparated inheritedType else pure []
                      f inherits) s Q := by
  refine fares_ite_accept (by decide) (fun fewer => ?_) ?_
  · refine (leaves_commaSeparated fun s' _ => leaves_inheritedType s').bind
      fun inherits s₁ fewer₁ => ?_
    exact behind inherits s₁ (by omega)
  · exact fares_look (run'_pure _ _) (behind [] s (Nat.le_refl _))

/-- Requirements that are dropped, if there are any, and what is done behind them. -/
theorem fares_droppedClause {α : Type} {Q : α → TokenStream → Prop} {r : TokenReader α}
    (behind : ∀ s₁, s₁.ahead.length ≤ s.ahead.length → Fares excused r s₁ Q) :
    Fares excused (do if ← isAt (.keyword .whereClause) then
                        let _ ← whereClause
                      r) s Q := by
  refine fares_ite_isAt (fun _ => ?_) (behind s (Nat.le_refl _))
  exact (leaves_whereClause s).bind fun _ s₁ fewer₁ => behind s₁ (Nat.le_of_lt fewer₁)

theorem leaves_typeDeclaration (kind : TypeKind) (attributes : List Attribute)
    (modifiers : List String) (availability : Availability)
    (more : s.current.kind ≠ .endOfFile)
    (bodies : TakesBelow excused body s.ahead.length) :
    Leaves excused (typeDeclaration body kind attributes modifiers availability) s
      s.ahead.length := by
  refine (leaves_advance more).bind fun word s₁ fewer₁ => ?_
  refine (leaves_typeName kind s₁).bind fun name s₂ fewer₂ => ?_
  refine fares_inherits fun inherits s₃ le₃ => ?_
  refine fares_droppedClause fun s₄ le₄ => ?_
  refine (leaves_expect (by decide) s₄).bind fun _ s₅ fewer₅ => ?_
  refine (bodies s₅ (by omega)).bind fun members s₆ le₆ => ?_
  refine (leaves_expect (by decide) s₆).bind fun _ s₇ fewer₇ => ?_
  exact fares_pure (by omega)

/-- Behind its attributes and modifiers a declaration uses up a token, unless one has been used up
for these. -/
theorem leaves_declarationBehind (members : Members) (attributes : List Attribute)
    (modifiers : List String) (availability : Availability) (passing : Passing n true s)
    (bodies : TakesBelow excused body s.ahead.length) :
    Leaves excused (declarationBehind body members attributes modifiers availability) s n := by
  have le := passing.length_le
  refine fares_look (run'_current s) ?_
  split
  · next word =>
    have more : s.current.kind ≠ .endOfFile := by rw [word]; decide
    refine (leaves_importName more).bind fun name s₁ fewer₁ => ?_
    exact fares_pure (by omega)
  · refine (leaves_function attributes modifiers availability s).bind fun f s₁ fewer₁ => ?_
    exact fares_pure (by omega)
  · refine (leaves_enumCases availability s).bind fun cases s₁ fewer₁ => ?_
    exact fares_pure (by omega)
  · next word =>
    have more : s.current.kind ≠ .endOfFile := by rw [word]; decide
    refine (leaves_property modifiers availability more).bind fun p s₁ fewer₁ => ?_
    exact fares_pure (by omega)
  · next word =>
    have more : s.current.kind ≠ .endOfFile := by rw [word]; decide
    refine (leaves_property modifiers availability more).bind fun p s₁ fewer₁ => ?_
    exact fares_pure (by omega)
  · next word _ _ _ _ _ isWord =>
    have more : s.current.kind ≠ .endOfFile := by rw [isWord]; nofun
    split
    · next kind _ =>
      refine (leaves_typeDeclaration kind attributes modifiers availability more bodies).bind
        fun type s₁ fewer₁ => ?_
      exact fares_pure (by omega)
    · exact (leaves_passDeclaration passing).bind fun _ s₁ fewer₁ => fares_pure fewer₁
  · exact (leaves_passDeclaration passing).bind fun _ s₁ fewer₁ => fares_pure fewer₁

theorem leaves_declaration (members : Members) (passing : Passing n true s)
    (bodies : TakesBelow excused body s.ahead.length) :
    Leaves excused (declaration body members) s n := by
  refine (leaves_readAttributes s).left.bind fun found s₁ ⟨left₁, le₁⟩ => ?_
  refine (leaves_modifiers s₁).left.bind fun modifiers s₂ ⟨left₂, le₂⟩ => ?_
  have passing₂ := passing.of_isLeftOf (left₂.trans left₁)
  exact leaves_declarationBehind members _ modifiers _ passing₂ (bodies.mono (by omega))

/-- Where members stop: at the end of their scope or of the file. -/
def StopsAt (terminator : TokenKind) (n : Nat) (s : TokenStream) : Prop :=
  s.ahead.length < n ∧ (s.current.kind = terminator ∨ s.current.kind = .endOfFile)

theorem fares_membersWith (terminator : TokenKind)
    (bodies : TakesBelow excused body s.ahead.length) :
    Fares excused (membersWith body terminator) s
      fun _ s' => StopsAt terminator (s.ahead.length + 1) s' := by
  refine fares_iterate_le (Nat.le_refl _) fun members s' inner => ?_
  refine fares_look (run'_current s') ?_
  split
  · next ends =>
    simp only [Bool.or_eq_true, decide_eq_true_eq] at ends
    exact fares_pure ⟨Nat.lt_succ_of_le inner, ends⟩
  · next more =>
    have real : s'.current.kind ≠ .endOfFile := fun ends => more (by rw [ends]; simp)
    split
    · refine (leaves_advance real).bind fun _ s₁ fewer₁ => ?_
      exact fares_pure ⟨fewer₁, trivial⟩
    · split
      · exact fares_fail rfl
      · next noBrace =>
        have passing : Passing s'.ahead.length true s' :=
          .inr ⟨rfl, Nat.le_refl _, real, noBrace⟩
        refine (leaves_declaration members passing (bodies.mono inner)).bind
          fun members s₁ fewer₁ => ?_
        exact fares_pure ⟨fewer₁, trivial⟩

/-- The members of a scope are read to its end if there are enough tokens to measure the nesting. -/
theorem fares_membersFrom (measure : List Token) (terminator : TokenKind)
    (bound : excused ∨ s.ahead.length ≤ measure.length) :
    Fares excused (membersFrom measure terminator) s
      fun _ s' => StopsAt terminator (s.ahead.length + 1) s' := by
  induction measure generalizing s terminator with
  | nil =>
    refine fares_membersWith terminator fun s' fewer => ?_
    rcases bound with excuse | le
    · exact fares_of_error rfl (.inr excuse)
    · exact absurd (Nat.lt_of_lt_of_le fewer le) (Nat.not_lt_zero _)
  | cons t measure ih =>
    refine fares_membersWith terminator fun s' fewer => ?_
    have bound' : excused ∨ s'.ahead.length ≤ measure.length :=
      bound.imp_right fun le => Nat.le_of_lt_succ (Nat.lt_of_lt_of_le fewer le)
    exact (ih .closeBrace bound').mono fun _ _ stops => stops.1

end DeclarationReader

open DeclarationReader AttributeReader

theorem fares_readSourceFile (s : TokenStream) :
    Fares False readSourceFile s fun _ s' => s'.current.kind = .endOfFile := by
  have members : Fares False (members .endOfFile) s
      fun _ s' => StopsAt .endOfFile (s.ahead.length + 1) s' :=
    fares_look (run'_get s) (fares_membersFrom s.ahead .endOfFile (.inr (Nat.le_refl _)))
  exact members.bind fun members s₁ stops => fares_pure (stops.2.elim id id)

/-- Any tokens that have one end of the file, behind all others, are read up to that end, or a fault
of the text is found; no loop or nesting outruns them, and a bracket is looked for only where there
is one. Each declaration that is read among the members of a scope uses up a token. A token is
looked up only where the list of all tokens has one, and no argument of an attribute is empty. -/
theorem readSourceFile_progress (s : TokenStream) (whole : ∀ t ∈ s.ahead, t.kind ≠ .endOfFile) :
    (match readSourceFile.run' s with
      | (.ok _, s') => s' = ⟨[], s.finish⟩
      | (.error e, _) => e.fault.isTextual = true) ∧
    (∀ measure members members' s₁ s₂, s₁.current.kind ∉ [.endOfFile, .semicolon, .closeBrace] →
      (declaration (membersFrom measure .closeBrace) members).run' s₁ = (.ok members', s₂) →
      s₂.IsLeftOf s₁ ∧ s₂.ahead.length < s₁.ahead.length) ∧
    (∀ (used : List Token) (s₁ : TokenStream) (distance : Nat),
      (used ++ s₁.toList)[min (used.length + distance) ((used ++ s₁.toList).length - 1)]? =
        some (s₁.peek distance)) ∧
    ∀ tokens, ∀ item ∈ itemsBetweenCommas tokens, item ≠ [] := by
  refine ⟨?_, ?_, TokenStream.getElem?_min, ne_nil_of_mem_itemsBetweenCommas⟩
  · rcases (fares_readSourceFile s).cases with ⟨file, s', run, left, ends⟩ | ⟨e, s', run, fault⟩
    · rw [run]
      have nothing : s'.ahead = [] :=
        TokenStream.ahead_eq_nil (fun t there => whole t (left.ahead.subset there)) ends
      cases s'
      exact congr (congrArg TokenStream.mk nothing) left.finish
    · rw [run]
      exact fault.resolve_right id
  · intro measure members members' s₁ s₂ begins run
    simp only [List.mem_cons, List.not_mem_nil, or_false, not_or] at begins
    have passing : Passing s₁.ahead.length true s₁ :=
      .inr ⟨rfl, Nat.le_refl _, begins.1, begins.2.2⟩
    have bodies : TakesBelow True (membersFrom measure .closeBrace) s₁.ahead.length :=
      fun _ _ =>
        (fares_membersFrom measure .closeBrace (.inl trivial)).mono fun _ _ stops => stops.1
    exact (leaves_declaration members passing bodies).of_ok run

/-- A call, which declares nothing, and a semicolon. -/
def callTokens : TokenStream :=
  ⟨[⟨.identifier, "assert", ⟨1, 1⟩⟩, ⟨.openParen, "(", ⟨1, 7⟩⟩, ⟨.closeParen, ")", ⟨1, 8⟩⟩,
    ⟨.semicolon, ";", ⟨1, 9⟩⟩], ⟨1, 10⟩⟩

theorem readSourceFile_progress_callTokens :
    (∀ t ∈ callTokens.ahead, t.kind ≠ .endOfFile) ∧
      (readSourceFile.run' callTokens).2 = ⟨[], ⟨1, 10⟩⟩ ∧
      ((declaration (membersFrom [] .closeBrace) .empty).run' callTokens).2.ahead.length <
        callTokens.ahead.length := by
  have whole : ∀ t ∈ callTokens.ahead, t.kind ≠ .endOfFile := by decide
  obtain ⟨reads, usesUp, _, _⟩ := readSourceFile_progress callTokens whole
  have run : readSourceFile.run' callTokens =
    (.ok ⟨[], [], []⟩, (readSourceFile.run' callTokens).2) := rfl
  rw [run] at reads
  exact ⟨whole, reads, (usesUp [] .empty .empty callTokens _ (by decide) rfl).2⟩

end ViewModifiers.Interface
