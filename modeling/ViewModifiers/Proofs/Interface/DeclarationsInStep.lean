import ViewModifiers.Proofs.Interface.DeclarationProgress
import ViewModifiers.Proofs.Interface.TypesInStep
import ViewModifiers.Proofs.Interface.Written

/-!
# Declarations in step

Functions, enum cases and the headings of declarations with members are read alike in front of a
brace and in front of another declaration. What they declare differs in nothing but where it stands.
-/

namespace ViewModifiers.Interface

open Source TokenReader TypeReader

variable {α : Type} {w : Setting} {s s' : TokenStream} {n : Nat}

/-- No token is left, not even the brace. -/
def isGone (s : TokenStream) : Prop := s.ahead = []

/-- Where the end of the tokens is certain, a type is read alike. -/
theorem inStep_readType_of_decided (decided : w.Decided) (start : w.Start s s') :
    InStep never readType readType s s' fun t t' u u' =>
      t = t' ∧ w.Along u u' ∧ u.ahead.length < s.ahead.length :=
  (inStep_readType start).mono (fun _ unsure => unsure.1 decided) fun _ _ _ _ => id

namespace DeclarationReader

/-! ## Generic parameters and requirements -/

theorem keeps_genericParameter (w : Setting) (n : Nat) :
    w.Keeps w.Over n id genericParameter genericParameter := by
  intro s s' start _
  by_cases isOver : w.Over s.rest
  · exact inStep_of_usesUp isOver (leaves_genericParameter s)
  · refine (inStep_expectName start.along).bind fun name name' t t' ⟨_, took⟩ => ?_
    have shorter := took.shorter
    have next := took.along.next_of_not_over (took.rest ▸ isOver)
    refine inStep_look (run'_isAtName t) (run'_isAtName t') ?_
    extract_lets behindName
    have behind (first : String) {u u' : TokenStream} (along : w.Along u u')
        (le : u.ahead.length ≤ t.ahead.length) :
        InStep w.Over (behindName first) (behindName first) u u' fun a a' v v' =>
          a = a' ∧ w.Along v v' ∧ v.ahead.length < s.ahead.length := by
      refine inStep_ite_accept rfl along (fun colon next => ?_) fun _ => ?_
      · have less := next.shorter
        refine (inStep_readType (next.start (by rw [colon]; decide))).bind_of_lost ?_ ?_
        · rintro type v unsure _ _ ⟨⟩
          exact unsure.2
        · rintro type _ v v' ⟨rfl, along, fewer⟩
          exact inStep_pure ⟨rfl, along, by omega⟩
      · exact inStep_pure ⟨rfl, along, by omega⟩
    rw [Token.value_eq took.linked.content, Token.kind_eq next.content]
    refine inStep_ite Iff.rfl (fun _ => ?_) fun _ => ?_
    · refine (inStep_advance next).bind fun second second' u u' second => ?_
      rw [Token.value_eq second.linked.content]
      exact inStep_look (run'_pure _ _) (run'_pure _ _)
        (behind _ second.along (Nat.le_of_lt second.shorter))
    · exact inStep_look (run'_pure _ _) (run'_pure _ _) (behind _ took.along (Nat.le_refl _))

theorem inStep_genericParameters (along : w.Along s s') :
    InStep never genericParameters genericParameters s s' fun generics generics' t t' =>
      generics = generics' ∧ w.Along t t' ∧ t.ahead.length < s.ahead.length := by
  refine (inStep_expect (by decide) along).bind fun _ _ t t' ⟨opens, took⟩ => ?_
  have shorter := took.shorter
  have list := inStep_commaList (show mayFollow .greaterThan = false from rfl)
    (keeps_genericParameter w t.ahead.length) (fun _ => id) (staysLost_over leaves_genericParameter)
    (took.start (by rw [opens]; decide)) (Nat.le_refl _)
  refine list.bind_of_lost ?_ fun generics generics' u u' ⟨same, along, le⟩ => ?_
  · intro generics u isOver a v run
    exact absurd run (isOver.not_expect (by decide) (by decide))
  · obtain rfl : generics = generics' := by simpa using same
    refine (inStep_expect (by decide) along).bind fun _ _ v v' ⟨_, took⟩ => ?_
    have less := took.shorter
    exact inStep_pure ⟨rfl, took.along, by omega⟩

/-- Where nothing is left, there is no sign of equality. -/
theorem not_equality_of_over (isOver : w.Over s) {r : TokenReader α} {fault : Fault} {a : α}
    {u : TokenStream} :
    (do let t ← current
        if t.kind = .symbol && t.value = "==" then r else fail fault : TokenReader α).run' s ≠
      (.ok a, u) := by
  rw [run'_bind_of_ok (run'_current s), decide_eq_false (isOver.current_ne (by decide) (by decide))]
  nofun

theorem keeps_requirement (w : Setting) (n : Nat) :
    w.Keeps w.Unsure n id requirement requirement := by
  intro s s' start _
  refine (inStep_readType start).bind_of_lost ?_ ?_
  · intro subject t unsure a u run
    rw [unsure.2.run'_ite_accept rfl] at run
    exact absurd run (not_equality_of_over unsure.2)
  · rintro subject _ t t' ⟨rfl, along, fewer⟩
    refine inStep_ite_accept rfl along (fun colon next => ?_) fun _ => ?_
    · have shorter := next.shorter
      refine (inStep_readType (next.start (by rw [colon]; decide))).bind_of_lost ?_ ?_
      · rintro type u unsure _ _ ⟨⟩
        exact unsure
      · rintro type _ u u' ⟨rfl, along, fewer⟩
        exact inStep_pure ⟨rfl, along, by omega⟩
    · by_cases isOver : w.Over t
      · intro a u run
        exact absurd run (not_equality_of_over isOver)
      · have next := along.next_of_not_over isOver
        refine inStep_look (run'_current t) (run'_current t') ?_
        rw [Token.kind_eq next.content, Token.value_eq next.content]
        refine inStep_ite Iff.rfl (fun sign => ?_) fun _ => inStep_of_fails rfl
        have noDot : t.current.kind ≠ .dot := by
          rw [Token.kind_eq next.content, of_decide_eq_true (Bool.and_eq_true_iff.1 sign).1]
          decide
        refine (inStep_advance next).bind fun _ _ u u' took => ?_
        have shorter := took.shorter
        refine (inStep_readType (took.start noDot)).bind_of_lost ?_ ?_
        · rintro type v unsure _ _ ⟨⟩
          exact unsure
        · rintro type _ v v' ⟨rfl, along, fewer⟩
          exact inStep_pure ⟨rfl, along, by omega⟩

theorem inStep_whereClause (along : w.Along s s') :
    InStep w.Unsure whereClause whereClause s s' fun requirements requirements' t t' =>
      requirements = requirements' ∧ w.Along t t' ∧ t.ahead.length < s.ahead.length := by
  refine (inStep_expect (by decide) along).bind fun _ _ t t' ⟨word, took⟩ => ?_
  have shorter := took.shorter
  have list := inStep_commaSeparated (keeps_requirement w t.ahead.length) (fun _ unsure => unsure.2)
    (staysLost_unsure leaves_requirement) t t' (took.start (by rw [word]; decide)) (Nat.le_refl _)
  refine list.bind_of_lost ?_ fun requirements requirements' u u' ⟨same, along, fewer⟩ => ?_
  · rintro requirements u unsure _ _ ⟨⟩
    exact unsure
  · obtain rfl : requirements = requirements' := by simpa using same
    exact inStep_pure ⟨rfl, along, Nat.lt_trans fewer shorter⟩

theorem inStep_whereClause_of_decided (decided : w.Decided) (along : w.Along s s') :
    InStep never whereClause whereClause s s' fun requirements requirements' t t' =>
      requirements = requirements' ∧ w.Along t t' ∧ t.ahead.length < s.ahead.length :=
  (inStep_whereClause along).mono (fun _ unsure => unsure.1 decided) fun _ _ _ _ => id

/-! ## Parameters -/

theorem inStep_defaultValue? (along : w.Along s s') :
    InStep w.Over defaultValue? defaultValue? s s' fun given given' t t' =>
      given = given' ∧ w.Along t t' ∧ t.ahead.length ≤ s.ahead.length := by
  by_cases isOver : w.Over s
  · exact fun given t run => .inl (staysLost_over leaves_defaultValue? s isOver given t run)
  · have next := along.next_of_not_over isOver
    refine inStep_ite_accept_of_iff (by rw [Token.kind_eq next.content]) (fun _ => ?_) fun _ => ?_
    · have shorter := next.shorter
      refine (inStep_passExpression _ next.along).bind_of_lost ?_ fun _ _ t t' ⟨along, le⟩ => ?_
      · rintro _ t isOver _ _ ⟨⟩
        exact isOver
      · exact inStep_pure ⟨rfl, along, by omega⟩
    · exact inStep_pure ⟨rfl, along, Nat.le_refl _⟩

theorem keeps_parameter (w : Setting) (n : Nat) : w.Keeps w.Over n id parameter parameter := by
  intro s s' start _
  refine (inStep_readAttributes start).bind_of_lost ?_ ?_
  · intro attributes t isOver a u run
    exact absurd run isOver.not_expectName
  · rintro ⟨attributes, availability⟩ _ t t' ⟨rfl, start, le⟩
    refine (inStep_expectName start.along).bind fun first first' u u' ⟨_, took⟩ => ?_
    have shorter := took.shorter
    refine inStep_look (run'_isAt .colon u) (run'_isAt .colon u') ?_
    have colon : u.current.kind = .colon ↔ u'.current.kind = .colon := took.along.kind_iff rfl
    rw [Token.value_eq took.linked.content, decide_eq_decide.2 colon]
    extract_lets behindNames
    have behind (second : Option String) {v v' : TokenStream} (along : w.Along v v')
        (le : v.ahead.length ≤ u.ahead.length) :
        InStep w.Over (behindNames second) (behindNames second) v v' fun a a' v v' =>
          a = a' ∧ w.Along v v' ∧ v.ahead.length < s.ahead.length := by
      refine (inStep_expect (by decide) along).bind fun _ _ x x' ⟨colon, took⟩ => ?_
      have less := took.shorter
      refine (inStep_readType (took.start (by rw [colon]; decide))).bind_of_lost ?_ ?_
      · intro type y unsure a z run
        obtain ⟨given, z', ran, run⟩ := exists_of_run'_bind run
        cases run
        exact staysLost_over leaves_defaultValue? y unsure.2 _ _ ran
      · rintro type _ y y' ⟨rfl, along, fewer⟩
        refine (inStep_defaultValue? along).bind_of_lost ?_ ?_
        · rintro given z isOver _ _ ⟨⟩
          exact isOver
        · rintro given _ z z' ⟨rfl, along, le⟩
          exact inStep_pure ⟨rfl, along, by omega⟩
    refine inStep_ite Iff.rfl (fun _ => ?_) fun _ => ?_
    · exact inStep_look (run'_pure _ _) (run'_pure _ _) (behind _ took.along (Nat.le_refl _))
    · refine (inStep_expectName took.along).bind fun second second' v v' ⟨_, second⟩ => ?_
      rw [Token.value_eq second.linked.content]
      exact inStep_look (run'_pure _ _) (run'_pure _ _)
        (behind _ second.along (Nat.le_of_lt second.shorter))

/-! ## Enum cases -/

theorem keeps_associatedValue (w : Setting) (n : Nat) :
    w.Keeps w.Over n id associatedValue associatedValue := by
  intro s s' start _
  by_cases isOver : w.Over s.rest
  · exact inStep_of_usesUp isOver (leaves_associatedValue s)
  · refine (inStep_label? start isOver).bind ?_
    rintro label _ t t' ⟨rfl, start, le⟩
    refine (inStep_readType start).bind_of_lost ?_ ?_
    · intro type u unsure a v run
      obtain ⟨given, v', ran, run⟩ := exists_of_run'_bind run
      cases run
      exact staysLost_over leaves_defaultValue? u unsure.2 _ _ ran
    · rintro type _ u u' ⟨rfl, along, fewer⟩
      refine (inStep_defaultValue? along).bind_of_lost ?_ ?_
      · rintro given v isOver _ _ ⟨⟩
        exact isOver
      · rintro given _ v v' ⟨rfl, along, le'⟩
        exact inStep_pure ⟨rfl, along, by omega⟩

theorem inStep_associatedValues (along : w.Along s s') :
    InStep never associatedValues associatedValues s s' fun types types' t t' =>
      types = types' ∧ w.Along t t' ∧ t.ahead.length ≤ s.ahead.length := by
  refine inStep_ite_accept rfl along (fun opens next => ?_) fun _ => ?_
  · have shorter := next.shorter
    have stays : StaysLost w.Over associatedValue := staysLost_over leaves_associatedValue
    have list := inStep_commaList (show mayFollow .closeParen = false from rfl)
      (keeps_associatedValue w s.rest.ahead.length) (fun _ => id) stays
      (next.start (by rw [opens]; decide)) (Nat.le_refl _)
    refine list.bind_of_lost ?_ fun types types' t t' ⟨same, along, le⟩ => ?_
    · intro types t isOver a u run
      exact absurd run (isOver.not_expect (by decide) (by decide))
    · obtain rfl : types = types' := by simpa using same
      refine (inStep_expect (by decide) along).bind fun _ _ u u' ⟨_, took⟩ => ?_
      have less := took.shorter
      exact inStep_pure ⟨rfl, took.along, by omega⟩
  · exact inStep_pure ⟨rfl, along, Nat.le_refl _⟩

/-- The last token of a value may be the brace behind the declaration; then no token is left. -/
theorem inStep_advance_literal (along : w.Along s s') :
    InStep isGone (do let _ ← advance) (do let _ ← advance) s s' fun _ _ t t' =>
      w.Along t t' ∧ t.ahead.length ≤ s.ahead.length := by
  rcases along.cases with ⟨isOver, -⟩ | next
  · rintro _ _ ⟨⟩
    exact .inl (congrArg List.tail isOver)
  · refine (inStep_advance next).bind fun _ _ t t' took => ?_
    exact inStep_pure ⟨took.along, Nat.le_of_lt took.shorter⟩

theorem inStep_rawValue? (noEquals : nextKind w.behind ≠ .equals) (along : w.Along s s') :
    InStep isGone rawValue? rawValue? s s' fun _ _ t t' =>
      w.Along t t' ∧ t.ahead.length ≤ s.ahead.length := by
  refine inStep_ite_accept_of_iff (along.kind_iff_of_ne (by decide) noEquals) (fun sign => ?_)
    fun _ => inStep_pure ⟨along, Nat.le_refl _⟩
  have next := along.next (by rw [sign]; decide)
  have shorter := next.shorter
  refine inStep_look (run'_current s.rest) (run'_current s'.rest) ?_
  extract_lets literal
  have behind {t t' : TokenStream} (along : w.Along t t')
      (le : t.ahead.length ≤ s.ahead.length) :
      InStep isGone (literal ()) (literal ()) t t' fun _ _ u u' =>
        w.Along u u' ∧ u.ahead.length ≤ s.ahead.length :=
    (inStep_advance_literal along).imp fun _ _ _ _ ends => ⟨ends.1, Nat.le_trans ends.2 le⟩
  rcases next.along.cases with ⟨isOver, -⟩ | next'
  · have noSign : s.rest.current.kind ≠ .symbol :=
      Setting.Over.current_ne (w := w) (.inl isOver) (by decide) (by decide)
    rw [decide_eq_false noSign, Bool.false_and, if_neg Bool.false_ne_true]
    rintro _ _ ⟨⟩
    exact .inl (congrArg List.tail isOver)
  · rw [Token.kind_eq next'.content, Token.value_eq next'.content]
    refine inStep_ite Iff.rfl (fun _ => ?_) fun _ => ?_
    · refine (inStep_advance next').bind fun _ _ t t' took => ?_
      have less := took.shorter
      exact behind took.along (by omega)
    · exact behind next.along (by omega)

theorem keeps_enumCase (noEquals : nextKind w.behind ≠ .equals) (availability : Availability)
    (n : Nat) :
    w.Keeps isGone n DeclaredCase.unplaced (enumCase availability) (enumCase availability) := by
  intro s s' start _
  refine (inStep_expectName start.along).bind fun name name' t t' ⟨_, took⟩ => ?_
  have shorter := took.shorter
  refine (inStep_associatedValues took.along).bind ?_
  rintro associated _ u u' ⟨rfl, along, le⟩
  refine (inStep_rawValue? noEquals along).bind_of_lost ?_ fun _ _ v v' ⟨along, le'⟩ => ?_
  · rintro _ v gone _ _ ⟨⟩
    exact gone
  · refine inStep_pure ⟨?_, along, by omega⟩
    rw [DeclaredCase.unplaced, DeclaredCase.unplaced, Token.value_eq took.linked.content]

/-- A clause of enum cases, in front of anything but a sign of equality. -/
theorem inStep_enumCases (noEquals : nextKind w.behind ≠ .equals) (availability : Availability)
    (along : w.Along s s') :
    InStep isGone (enumCases availability) (enumCases availability) s s' fun cases cases' t t' =>
      cases.map DeclaredCase.unplaced = cases'.map DeclaredCase.unplaced ∧ w.Along t t' := by
  refine (inStep_expect (by decide) along).bind fun _ _ t t' ⟨word, took⟩ => ?_
  refine (inStep_commaSeparated (keeps_enumCase noEquals availability t.ahead.length) ?_ ?_ t t'
    (took.start (by rw [word]; decide)) (Nat.le_refl _)).imp ?_
  · exact fun t gone => .inr gone
  · intro t gone a u run
    exact absurd run (Setting.Over.not_expectName (w := w) (.inr gone))
  · exact fun cases cases' u u' ⟨same, along, _⟩ => ⟨same, along⟩

/-! ## Functions -/

/-- Reads one more sign of an operator, unless its parameters begin. -/
def signStep (found : List String) : TokenReader (List String ⊕ List String) := do
  let t ← current
  if t.kind = .openParen || t.kind = .endOfFile
      || (!found.isEmpty && t.kind = .lessThan) then return .inr found.reverse
  else return .inl ((← advance).value :: found)

theorem inStep_signs (along : w.Along s s') :
    InStep w.Over (iterate [] signStep) (iterate [] signStep) s s' fun found found' t t' =>
      found = found' ∧ w.Along t t' ∧ t.ahead.length ≤ s.ahead.length := by
  refine inStep_iterate (fun found found' t t' => found = found' ∧ w.Along t t' ∧
    t.ahead.length ≤ s.ahead.length) (fun _ _ _ _ inv => inv.2.1) ?_ ?_
    ⟨rfl, along, Nat.le_refl _⟩
  · refine fun found => staysLost_over (fun t => ?_ : ∀ t, Fares True _ t fun _ _ => True)
    refine fares_look (run'_current t) ?_
    split
    · exact fares_pure trivial
    · exact (leaves_advance_le t).bind fun _ _ _ => fares_pure trivial
  · rintro found _ t t' more ⟨rfl, along, le⟩
    have next := along.next_of_not_over more
    refine inStep_look (run'_current t) (run'_current t') ?_
    rw [Token.kind_eq next.content]
    refine inStep_ite Iff.rfl (fun _ => inStep_pure ⟨rfl, along, le⟩) fun _ => ?_
    refine (inStep_advance next).bind fun sign sign' u u' took => ?_
    have less := took.shorter
    rw [Token.value_eq took.linked.content]
    exact inStep_pure ⟨less, rfl, took.along, by omega⟩

theorem inStep_functionName (along : w.Along s s') :
    InStep w.Over functionName functionName s s' fun name name' t t' =>
      name = name' ∧ w.Along t t' ∧ t.ahead.length ≤ s.ahead.length := by
  by_cases isOver : w.Over s
  · exact fun name t run => .inl (staysLost_over leaves_functionName s isOver name t run)
  · have next := along.next_of_not_over isOver
    refine inStep_look (run'_current s) (run'_current s') ?_
    refine inStep_ite (by rw [Token.kind_eq next.content]) (fun _ => ?_) fun _ => ?_
    · refine (inStep_advance next).bind fun name name' t t' took => ?_
      rw [Token.value_eq took.linked.content]
      exact inStep_pure ⟨rfl, took.along, Nat.le_of_lt took.shorter⟩
    · refine (inStep_signs along).bind_of_lost ?_ ?_
      · intro found t isOver a u run
        split at run <;> cases run
        exact isOver
      · rintro found _ t t' ⟨rfl, along, le⟩
        refine inStep_ite Iff.rfl (fun _ => inStep_of_fails rfl) fun _ => ?_
        exact inStep_pure ⟨rfl, along, le⟩

theorem inStep_effects (along : w.Along s s') :
    InStep never (many effect?) (many effect?) s s' fun _ _ t t' =>
      w.Along t t' ∧ t.ahead.length ≤ s.ahead.length := by
  have effects : InStep never (many effect?) (many effect?) s s' fun found found' t t' =>
      found.map id = found'.map id ∧ w.Along t t' ∧ t.ahead.length ≤ s.ahead.length := by
    refine inStep_many (fun _ _ along => along) (fun _ isLost => isLost.elim) ?_ along
    intro t t' _ along _
    refine inStep_ite_isAtAny (by decide) along (fun word next => ?_) fun _ => ?_
    · have noDot : t.current.kind ≠ .dot := fun dot => absurd (dot ▸ word) (by decide)
      refine (inStep_advance next).bind fun effect effect' u u' took => ?_
      have less := took.shorter
      refine (inStep_groupBehind? took.linked (took.start noDot)).bind fun _ _ v v' behind => ?_
      exact inStep_pure ⟨rfl, behind.2.1.along, Nat.lt_of_le_of_lt behind.2.2 less⟩
    · exact inStep_pure ⟨rfl, along, Nat.lt_succ_self _⟩
  exact effects.imp fun _ _ _ _ ends => ends.2

section Behind

variable {lost : TokenStream → Prop} {Q : α → α → TokenStream → TokenStream → Prop}

/-- Generic parameters, if there are any, and what is done behind them. -/
theorem inStep_ite_genericParameters {f f' : List TypeVariable → TokenReader α}
    (along : w.Along s s')
    (behind : ∀ generics t t', w.Along t t' → InStep lost (f generics) (f' generics) t t' Q) :
    InStep lost
      (do let generics ← if ← isAt .lessThan then genericParameters else pure []
          f generics)
      (do let generics ← if ← isAt .lessThan then genericParameters else pure []
          f' generics) s s' Q := by
  refine inStep_ite_isAt rfl along (fun _ _ => ?_) fun _ => ?_
  · refine (inStep_genericParameters along).bind ?_
    rintro generics _ t t' ⟨rfl, along, -⟩
    exact behind generics t t' along
  · exact inStep_look (run'_pure _ _) (run'_pure _ _) (behind [] s s' along)

/-- A result, if there is one, and what is done behind it. -/
theorem inStep_ite_result (decided : w.Decided) {f f' : Option TypeExpr → TokenReader α}
    (along : w.Along s s')
    (behind : ∀ result t t', w.Along t t' → InStep lost (f result) (f' result) t t' Q) :
    InStep lost
      (do let result ← if ← accept .arrow then pure (some (← readType)) else pure none
          f result)
      (do let result ← if ← accept .arrow then pure (some (← readType)) else pure none
          f' result) s s' Q := by
  refine inStep_ite_accept rfl along (fun arrow next => ?_) fun _ => ?_
  · refine (inStep_readType_of_decided decided (next.start (by rw [arrow]; decide))).bind ?_
    rintro result _ t t' ⟨rfl, along, -⟩
    exact inStep_look (run'_pure _ _) (run'_pure _ _) (behind _ t t' along)
  · exact inStep_look (run'_pure _ _) (run'_pure _ _) (behind none s s' along)

/-- Requirements, if there are any, and what is done behind them. -/
theorem inStep_ite_whereClause (decided : w.Decided) {generics : List TypeVariable}
    {f f' : List TypeVariable → TokenReader α} (along : w.Along s s')
    (behind : ∀ generics t t', w.Along t t' → InStep lost (f generics) (f' generics) t t' Q) :
    InStep lost
      (do let generics ←
            if ← isAt (.keyword .whereClause) then
              pure (withRequirements generics (← whereClause))
            else pure generics
          f generics)
      (do let generics ←
            if ← isAt (.keyword .whereClause) then
              pure (withRequirements generics (← whereClause))
            else pure generics
          f' generics) s s' Q := by
  refine inStep_ite_isAt rfl along (fun _ _ => ?_) fun _ => ?_
  · refine (inStep_whereClause_of_decided decided along).bind ?_
    rintro requirements _ t t' ⟨rfl, along, -⟩
    exact inStep_look (run'_pure _ _) (run'_pure _ _) (behind _ t t' along)
  · exact inStep_look (run'_pure _ _) (run'_pure _ _) (behind generics s s' along)

end Behind

/-- A function, in front of anything but a body. -/
theorem inStep_function (decided : w.Decided) (noBody : nextKind w.behind ≠ .openBrace)
    (attributes : List Attribute) (modifiers : List String) (availability : Availability)
    (along : w.Along s s') :
    InStep isGone (function attributes modifiers availability)
      (function attributes modifiers availability) s s' fun f f' t t' =>
        f.unplaced = f'.unplaced ∧ w.Along t t' := by
  refine (inStep_expect (by decide) along).bind fun word word' t t' ⟨_, took⟩ => ?_
  refine (inStep_functionName took.along).bind_of_lost ?_ ?_
  · intro name t isOver a u run
    rw [isOver.run'_ite_isAt rfl, run'_bind_of_ok (run'_pure _ _)] at run
    exact absurd run (isOver.not_expect (by decide) (by decide))
  · rintro name _ t t' ⟨rfl, along, -⟩
    refine inStep_ite_genericParameters along fun generics t t' along => ?_
    refine (inStep_expect (by decide) along).bind fun _ _ t t' ⟨opens, took⟩ => ?_
    have list := inStep_commaList (show mayFollow .closeParen = false from rfl)
      (keeps_parameter w t.ahead.length) (fun _ => id) (staysLost_over leaves_parameter)
      (took.start (by rw [opens]; decide)) (Nat.le_refl _)
    refine list.bind_of_lost ?_ fun parameters parameters' t t' ⟨same, along, _⟩ => ?_
    · intro parameters t isOver a u run
      exact absurd run (isOver.not_expect (by decide) (by decide))
    · obtain rfl : parameters = parameters' := by simpa using same
      refine (inStep_expect (by decide) along).bind fun _ _ t t' ⟨_, took⟩ => ?_
      refine (inStep_effects took.along).bind fun _ _ t t' ⟨along, _⟩ => ?_
      refine inStep_ite_result decided along fun result t t' along => ?_
      refine inStep_ite_whereClause decided along fun generics t t' along => ?_
      have declared : DeclaredFunction.unplaced ⟨name, parameters, generics, result, attributes,
          modifiers, availability, word.position⟩ = DeclaredFunction.unplaced ⟨name, parameters,
            generics, result, attributes, modifiers, availability, word'.position⟩ := rfl
      refine inStep_ite_isAt_of_iff (along.kind_iff_of_ne (by decide) noBody) (fun body => ?_)
        fun _ => inStep_pure ⟨declared, along⟩
      refine (inStep_bracketGroup (by rw [body]; rfl) along).bind_of_lost ?_ ?_
      · rintro found t ⟨gone, -⟩ _ _ ⟨⟩
        exact gone
      · rintro found found' t t' ⟨-, start, -⟩
        exact inStep_pure ⟨declared, start.along⟩

/-! ## Headings of scopes -/

/-- Reads what stands in front of the members of a declaration: its word, its name and the types
that it inherits from. -/
def scopeHeading (kind : TypeKind) : TokenReader (Token × String × List TypeExpr) := do
  let word ← advance
  let name ← typeName kind
  let inherits ← if ← accept .colon then commaSeparated inheritedType else pure []
  if ← isAt (.keyword .whereClause) then
    let _ ← whereClause
  return (word, name, inherits)

/-- A declaration with members is read as its heading, and then its body in braces. -/
theorem typeDeclaration_eq (body : TokenReader Members) (kind : TypeKind)
    (attributes : List Attribute) (modifiers : List String) (availability : Availability) :
    typeDeclaration body kind attributes modifiers availability = (do
      let (word, name, inherits) ← scopeHeading kind
      let _ ← expect .openBrace
      let members ← body
      let _ ← expect .closeBrace
      return (⟨kind, name, inherits, attributes, modifiers, availability, members.functions,
        members.cases, members.properties, members.types, word.position⟩ : DeclaredType)) := by
  rw [typeDeclaration, scopeHeading]
  simp only [bind_assoc, pure_bind]
  refine bind_congr fun word => bind_congr fun name => bind_congr fun colon => ?_
  cases colon
  · simp only [Bool.false_eq_true, ↓reduceIte, bind_assoc]
    refine bind_congr fun clause => ?_
    cases clause
    · simp only [Bool.false_eq_true, ↓reduceIte, pure_bind]
    · simp only [↓reduceIte, bind_assoc, pure_bind]
  · simp only [↓reduceIte, bind_assoc]
    refine bind_congr fun inherits => bind_congr fun clause => ?_
    cases clause
    · simp only [Bool.false_eq_true, ↓reduceIte, pure_bind]
    · simp only [↓reduceIte, bind_assoc, pure_bind]

theorem leaves_scopeHeading {excused : Prop} (kind : TypeKind) (s : TokenStream) :
    Leaves excused (scopeHeading kind) s (s.ahead.length + 1) := by
  refine (leaves_advance_le s).bind fun word s₁ le₁ => ?_
  refine (leaves_typeName kind s₁).bind fun name s₂ fewer₂ => ?_
  refine fares_inherits fun inherits s₃ le₃ => ?_
  refine fares_droppedClause fun s₄ le₄ => ?_
  exact fares_pure (by omega)

theorem inStep_typeName (decided : w.Decided) (kind : TypeKind) (start : w.Start s s') :
    InStep never (typeName kind) (typeName kind) s s' fun name name' t t' =>
      name = name' ∧ w.Along t t' := by
  refine inStep_ite Iff.rfl (fun _ => ?_) fun _ => ?_
  · refine (inStep_readType_of_decided decided start).bind ?_
    rintro subject _ t t' ⟨rfl, along, -⟩
    exact inStep_pure ⟨rfl, along⟩
  · refine (inStep_expectName start.along).bind fun name name' t t' ⟨_, took⟩ => ?_
    rw [Token.value_eq took.linked.content]
    refine inStep_ite_isAt rfl took.along (fun _ _ => ?_) fun _ => inStep_pure ⟨rfl, took.along⟩
    refine (inStep_genericParameters took.along).bind ?_
    rintro generics _ u u' ⟨-, along, -⟩
    exact inStep_pure ⟨rfl, along⟩

theorem keeps_inheritedType (decided : w.Decided) (n : Nat) :
    w.Keeps never n id inheritedType inheritedType := by
  intro s s' start _
  by_cases isOver : w.Over s
  · intro type t run
    have absent : s.current.kind ≠ .keyword .classType := isOver.current_ne (by decide) (by decide)
    rw [inheritedType, run'_bind_of_ok ((run'_accept _ s).trans (if_neg absent)),
      if_neg Bool.false_ne_true] at run
    exact absurd run (not_readType_of_over isOver)
  · have next := start.along.next_of_not_over isOver
    refine inStep_ite_accept_of_iff (by rw [Token.kind_eq next.content]) (fun _ => ?_) fun _ => ?_
    · exact inStep_pure ⟨rfl, next.along, next.shorter⟩
    · exact inStep_readType_of_decided decided start

theorem inStep_scopeHeading (decided : w.Decided) (kind : TypeKind) (next : w.Next s s')
    (noDot : s.current.kind ≠ .dot) :
    InStep never (scopeHeading kind) (scopeHeading kind) s s' fun heading heading' t t' =>
      heading.2 = heading'.2 ∧ w.Along t t' := by
  refine (inStep_advance next).bind fun word word' t t' took => ?_
  refine (inStep_typeName decided kind (took.start noDot)).bind ?_
  rintro name _ t t' ⟨rfl, along⟩
  have behind (inherits : List TypeExpr) {t t' : TokenStream} (along : w.Along t t') :
      InStep never
        (do if ← isAt (.keyword .whereClause) then
              let _ ← whereClause
            return (word, name, inherits) : TokenReader (Token × String × List TypeExpr))
        (do if ← isAt (.keyword .whereClause) then
              let _ ← whereClause
            return (word', name, inherits)) t t'
        fun heading heading' t t' => heading.2 = heading'.2 ∧ w.Along t t' := by
    refine inStep_ite_isAt rfl along (fun _ _ => ?_) fun _ => inStep_pure ⟨rfl, along⟩
    refine (inStep_whereClause_of_decided decided along).bind ?_
    rintro requirements _ u u' ⟨-, along, -⟩
    exact inStep_pure ⟨rfl, along⟩
  refine inStep_ite_accept rfl along (fun colon next => ?_) fun _ => ?_
  · have list := inStep_commaSeparated (keeps_inheritedType decided t.rest.ahead.length)
      (fun _ isLost => isLost.elim) (fun _ isLost => isLost.elim) _ _
      (next.start (by rw [colon]; decide)) (Nat.le_refl _)
    refine list.bind fun inherits inherits' u u' ⟨same, along, _⟩ => ?_
    obtain rfl : inherits = inherits' := by simpa using same
    exact behind inherits along
  · exact inStep_look (run'_pure _ _) (run'_pure _ _) (behind [] along)

end DeclarationReader

end ViewModifiers.Interface
