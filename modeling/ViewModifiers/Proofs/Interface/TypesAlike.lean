import ViewModifiers.Proofs.Interface.Simulation
import ViewModifiers.Proofs.Interface.TypesInStep

/-!
# Types under a simulation

Types are read alike from two streams that a simulation relates. No type has a sign of equality
outside brackets, so the simulation goes on to the end of the type. The nesting of types is measured
by the tokens ahead, of which either stream may have more; it is the second stream that has to have
enough of them.
-/

namespace ViewModifiers.Interface

open Source TokenReader TypeReader

variable {R : TokenStream → TokenStream → Prop} {s s' : TokenStream} {m n : Nat}

/-- Two readers read types alike wherever fewer than a number of tokens are left. -/
def ReadsAlike (R : TokenStream → TokenStream → Prop) (r r' : TokenReader TypeExpr) (n : Nat) :
    Prop :=
  ∀ t t', R t t' → t'.ahead.length < n → Agree R r r' t t' t'.ahead.length

theorem ReadsAlike.mono {r r' : TokenReader TypeExpr} (reads : ReadsAlike R r r' n) (le : m ≤ n) :
    ReadsAlike R r r' m :=
  fun t t' along few => reads t t' along (Nat.lt_of_lt_of_le few le)

namespace TypeReader

variable {type type' : TokenReader TypeExpr}

theorem agree_quantified (word : Quantifier) (reads : ReadsAlike R type type' s'.ahead.length)
    (took : Took R s'.ahead.length s.current s'.current s.rest s'.rest) :
    Agree R (do let _ ← advance; return TypeExpr.quantified word (← type))
      (do let _ ← advance; return TypeExpr.quantified word (← type')) s s' s'.ahead.length := by
  have fewer := took.fewer
  refine inStep_advance_bind ?_
  refine Agree.bind (reads _ _ took.along fewer) fun t u u' along less => ?_
  exact agree_pure along (by omega)

section Parts

variable (sim : Simulation R)

include sim

/-! ## Parts of types -/

theorem agree_genericArguments (reads : ReadsAlike R type type' s'.ahead.length)
    (along : R s s') :
    Agree R (genericArguments type) (genericArguments type') s s' (s'.ahead.length + 1) := by
  refine sim.ite_accept along (by decide) (by decide) (fun took => ?_) ?_
  · have less := took.fewer
    have list := agree_commaSeparated sim
      (fun t t' along le => reads t t' along (Nat.lt_of_le_of_lt le less)) took.along
    refine Agree.bind list fun arguments t t' along fewer => ?_
    refine (sim.expect along (by decide) (by decide)).bind fun _ _ u u' took => ?_
    have := took.fewer
    exact agree_pure took.along (by omega)
  · exact agree_pure along (Nat.lt_succ_self _)

theorem agree_label? (along : R s s') : Agree R label? label? s s' (s'.ahead.length + 1) := by
  have none : Agree R (pure none) (pure none : TokenReader (Option String)) s s'
      (s'.ahead.length + 1) :=
    agree_pure along (Nat.lt_succ_self _)
  refine inStep_look (run'_current s) (run'_current s')
    (inStep_look (run'_peek 1 s) (run'_peek 1 s') ?_)
  rw [TokenStream.peek_one, TokenStream.peek_one]
  by_cases isName : s.current.kind.isNameLike = true
  · have name := sim.took_of_isNameLike along isName
    rw [← sim.kind along, ← sim.kind name.along, isName, Bool.true_and]
    refine inStep_ite Iff.rfl (fun labelled => ?_) fun _ => ?_
    · have colon := sim.took name.along (of_decide_eq_true labelled) (by decide) (by decide)
      have fewer := name.fewer
      have less := colon.fewer
      refine inStep_advance_bind (inStep_advance_bind ?_)
      rw [Token.value_eq name.content]
      exact agree_pure colon.along (by omega)
    · refine inStep_look (run'_current s) (run'_current s')
        (inStep_look (run'_peek 1 s) (run'_peek 1 s')
          (inStep_look (run'_peek 2 s) (run'_peek 2 s') ?_))
      rw [TokenStream.peek_one, TokenStream.peek_one, TokenStream.peek_two, TokenStream.peek_two,
        ← sim.kind along, ← sim.kind name.along, isName, Bool.true_and]
      by_cases isName' : s.rest.current.kind.isNameLike = true
      · have second := sim.took_of_isNameLike name.along isName'
        rw [← sim.kind second.along, isName', Bool.true_and]
        refine inStep_ite Iff.rfl (fun labelled => ?_) fun _ => none
        have colon := sim.took second.along (of_decide_eq_true labelled) (by decide) (by decide)
        have fewer := name.fewer
        have fewer' := second.fewer
        have less := colon.fewer
        refine inStep_advance_bind (inStep_advance_bind (inStep_advance_bind ?_))
        rw [Token.value_eq name.content]
        exact agree_pure colon.along (by omega)
      · rw [Bool.eq_false_iff.2 isName', Bool.false_and, Bool.false_and]
        exact none
  · rw [← sim.kind along, Bool.eq_false_iff.2 isName, Bool.false_and, Bool.false_and]
    refine inStep_look (run'_current s) (run'_current s')
      (inStep_look (run'_peek 1 s) (run'_peek 1 s')
        (inStep_look (run'_peek 2 s) (run'_peek 2 s') ?_))
    rw [← sim.kind along, Bool.eq_false_iff.2 isName]
    exact none

theorem agree_tupleElement (reads : ReadsAlike R type type' n) (along : R s s')
    (few : s'.ahead.length < n) :
    Agree R (tupleElement type) (tupleElement type') s s' s'.ahead.length := by
  refine Agree.bind (agree_label? sim along) fun label t t' along le => ?_
  refine Agree.bind (reads t t' along (by omega)) fun a u u' along fewer => ?_
  exact agree_pure along (by omega)

theorem agree_functionEffects (along : R s s') :
    Agree R functionEffects functionEffects s s' (s'.ahead.length + 1) := by
  refine inStep_iterate_of_each (SameState R s'.ahead.length) ?_ ⟨rfl, along, Nat.le_refl _⟩
  rintro ⟨isAsync, throws⟩ _ t t' ⟨rfl, along, le⟩
  refine sim.ite_isAtAny along (fun word => ?_) ?_
  · have took := sim.next along (fun sign => by rw [sign] at word; revert word; decide)
      fun ends => by rw [ends] at word; revert word; decide
    have less := took.fewer
    refine inStep_advance_bind (inStep_ite (by rw [sim.kind along]) (fun _ => ?_) fun _ => ?_)
    · exact inStep_pure ⟨less, rfl, took.along, by omega⟩
    · refine (agree_groupBehind? sim took).bind fun _ _ u u' ⟨_, along, fewer⟩ => ?_
      exact inStep_pure ⟨fewer, rfl, along, by omega⟩
  · exact inStep_pure ⟨rfl, along, by omega⟩

theorem agree_parenthesized (reads : ReadsAlike R type type' s'.ahead.length) (along : R s s') :
    Agree R (parenthesized type) (parenthesized type') s s' s'.ahead.length := by
  refine (sim.expect along (by decide) (by decide)).bind fun _ _ t t' took => ?_
  have fewer := took.fewer
  have list := agree_commaList sim .closeParen
    (fun u u' along le => agree_tupleElement sim reads along (Nat.lt_of_le_of_lt le fewer))
    took.along
  refine Agree.bind list fun elements u u' along le => ?_
  refine (sim.expect along (by decide) (by decide)).bind fun _ _ v v' took => ?_
  have fewer' := took.fewer
  refine Agree.bind (agree_functionEffects sim took.along) ?_
  rintro ⟨isAsync, throws⟩ x x' along le'
  refine sim.ite_accept along (by decide) (by decide) (fun arrow => ?_) ?_
  · have less := arrow.fewer
    refine Agree.bind (reads _ _ arrow.along (by omega)) fun result y y' along fewer => ?_
    exact agree_pure along (by omega)
  · refine inStep_ite Iff.rfl (fun _ => inStep_of_fails rfl) fun _ => ?_
    split
    · exact agree_pure along (by omega)
    · exact agree_pure along (by omega)

theorem agree_bracketed (reads : ReadsAlike R type type' s'.ahead.length)
    (took : Took R s'.ahead.length s.current s'.current s.rest s'.rest) :
    Agree R (bracketed type) (bracketed type') s s' s'.ahead.length := by
  have fewer := took.fewer
  refine inStep_advance_bind ?_
  refine Agree.bind (reads _ _ took.along fewer) fun element t t' along less => ?_
  refine sim.ite_accept along (by decide) (by decide) (fun colon => ?_) ?_
  · have less' := colon.fewer
    refine Agree.bind (reads _ _ colon.along (by omega)) fun value u u' along fewer' => ?_
    refine (sim.expect along (by decide) (by decide)).bind fun _ _ v v' took => ?_
    have := took.fewer
    exact agree_pure took.along (by omega)
  · refine (sim.expect along (by decide) (by decide)).bind fun _ _ u u' took => ?_
    have := took.fewer
    exact agree_pure took.along (by omega)

theorem agree_marks (reads : ReadsAlike R type type' s'.ahead.length) (start : TypeExpr)
    (along : R s s') :
    Agree R (marks type start) (marks type' start) s s' (s'.ahead.length + 1) := by
  refine inStep_iterate_of_each (SameState R s'.ahead.length) ?_ ⟨rfl, along, Nat.le_refl _⟩
  rintro t _ u u' ⟨rfl, along, le⟩
  have mark (t : TypeExpr) (took : Took R u'.ahead.length u.current u'.current u.rest u'.rest) :
      InStep never (return .inl t : TokenReader (TypeExpr ⊕ TypeExpr)) (return .inl t)
        u.rest u'.rest (AfterSteps (SameState R s'.ahead.length)
          (fun t t' u u' => t = t' ∧ R u u' ∧ u'.ahead.length < s'.ahead.length + 1)
          u'.ahead.length) := by
    have less := took.fewer
    exact inStep_pure ⟨less, rfl, took.along, by omega⟩
  refine sim.ite_accept along (by decide) (by decide) (mark _) ?_
  refine sim.ite_accept along (by decide) (by decide) (mark _) ?_
  refine sim.ite_accept along (by decide) (by decide) (mark _) ?_
  refine sim.ite_dotted along (fun dot name => ?_) ?_
  · have fewer := dot.fewer
    have less := name.fewer
    refine inStep_advance_bind (inStep_advance_bind ?_)
    rw [Token.value_eq name.content]
    refine inStep_ite Iff.rfl (fun _ => ?_) fun _ => ?_
    · exact inStep_pure ⟨by omega, rfl, name.along, by omega⟩
    · refine inStep_ite Iff.rfl (fun _ => ?_) fun _ => ?_
      · exact inStep_pure ⟨by omega, rfl, name.along, by omega⟩
      · refine Agree.bind (agree_genericArguments sim (reads.mono (by omega)) name.along) ?_
        intro arguments v v' along le'
        exact inStep_pure ⟨by omega, rfl, along, by omega⟩
  · exact inStep_pure ⟨rfl, along, by omega⟩

theorem agree_typeAttribute? (along : R s s') :
    AgreeIfAny R typeAttribute? typeAttribute? s s' := by
  refine sim.ite_accept along (by decide) (by decide) (fun took => ?_) ?_
  · refine (agree_dottedNames sim took.along).bind ?_
    rintro ⟨names, last⟩ ⟨names', last'⟩ t t' ⟨same, taken⟩
    obtain rfl : names = names' := same
    refine (agree_groupBehind? sim taken).bind fun _ _ u u' ⟨_, along, fewer⟩ => ?_
    have less : u'.ahead.length < s'.ahead.length := Nat.lt_trans fewer took.fewer
    exact inStep_pure ⟨rfl, along, less⟩
  · exact inStep_pure ⟨rfl, along, Nat.lt_succ_self _⟩

theorem agree_specifier? (along : R s s') :
    Agree R specifier? specifier? s s' (s'.ahead.length + 1) := by
  have take (took : Took R s'.ahead.length s.current s'.current s.rest s'.rest) :
      Agree R (return some (← advance).value) (return some (← advance).value) s s'
        (s'.ahead.length + 1) := by
    refine inStep_advance_bind ?_
    rw [Token.value_eq took.content]
    exact agree_pure took.along (Nat.lt_succ_of_lt took.fewer)
  refine sim.ite_isAt along (fun word => take (sim.took along word (by decide) (by decide))) ?_
  refine inStep_look (run'_isAtWord _ s) (run'_isAtWord _ s')
    (inStep_look (run'_peek 1 s) (run'_peek 1 s') ?_)
  rw [TokenStream.peek_one, TokenStream.peek_one, ← sim.kind along]
  by_cases word : s.current.kind = .identifier
  · have took := sim.took along word (by decide) (by decide)
    rw [sim.kind took.along, Token.value_eq took.content]
    exact inStep_ite Iff.rfl (fun _ => take took) fun _ => agree_pure along (Nat.lt_succ_self _)
  · rw [decide_eq_false word, Bool.false_and, Bool.false_and, Bool.false_and]
    exact agree_pure along (Nat.lt_succ_self _)

/-! ## Layers -/

variable {nested nested' : TypeLayer → TokenReader TypeExpr}

theorem agree_primary (reads : ∀ l, ReadsAlike R (nested l) (nested' l) s'.ahead.length)
    (along : R s s') : Agree R (primary nested) (primary nested') s s' s'.ahead.length := by
  refine inStep_look (run'_current s) (run'_current s') ?_
  rw [← sim.kind along]
  split
  · next word =>
    exact agree_quantified .some (reads .composed) (sim.took along word (by decide) (by decide))
  · next word =>
    exact agree_quantified .any (reads .composed) (sim.took along word (by decide) (by decide))
  · exact agree_parenthesized sim (reads .full) along
  · next word =>
    exact agree_bracketed sim (reads .full) (sim.took along word (by decide) (by decide))
  · next word =>
    have took := sim.took along word (by decide) (by decide)
    have fewer := took.fewer
    refine inStep_advance_bind ?_
    rw [Token.value_eq took.content]
    refine inStep_look (run'_isAtName s.rest) (run'_isAtName s'.rest) ?_
    rw [sim.kind took.along]
    refine inStep_ite Iff.rfl (fun _ => ?_) fun _ => ?_
    · exact (reads .primary _ _ took.along fewer).mono (Nat.le_of_lt fewer)
    · refine Agree.bind (agree_genericArguments sim ((reads .full).mono (by omega)) took.along) ?_
      intro arguments t t' along le
      exact agree_pure along (by omega)
  · exact inStep_of_fails rfl

theorem agree_marked (reads : ∀ l, ReadsAlike R (nested l) (nested' l) s'.ahead.length)
    (along : R s s') : Agree R (marked nested) (marked nested') s s' s'.ahead.length := by
  refine Agree.bind (agree_primary sim reads along) fun first t t' along fewer => ?_
  exact (agree_marks sim ((reads .full).mono (by omega)) first along).mono (by omega)

theorem agree_composed (reads : ∀ l, ReadsAlike R (nested l) (nested' l) s'.ahead.length)
    (along : R s s') : Agree R (composed nested) (composed nested') s s' s'.ahead.length := by
  refine Agree.bind (agree_marked sim reads along) fun first t t' along fewer => ?_
  have others : Agree R
      (many do if ← accept .ampersand then return some (← marked nested) else return none)
      (many do if ← accept .ampersand then return some (← marked nested') else return none)
      t t' (t'.ahead.length + 1) := by
    refine agree_many (fun u u' along le => ?_) along
    refine sim.ite_accept along (by decide) (by decide) (fun took => ?_) ?_
    · have less := took.fewer
      refine Agree.bind (agree_marked sim (fun l => (reads l).mono (by omega)) took.along) ?_
      intro a v v' along fewer'
      exact inStep_pure ⟨rfl, along, Nat.lt_trans fewer' less⟩
    · exact inStep_pure ⟨rfl, along, Nat.lt_succ_self _⟩
  refine Agree.bind others fun found u u' along le => ?_
  refine inStep_ite Iff.rfl (fun _ => ?_) fun _ => ?_
  · exact agree_pure along (by omega)
  · exact agree_pure along (by omega)

theorem agree_full (reads : ∀ l, ReadsAlike R (nested l) (nested' l) s'.ahead.length)
    (along : R s s') : Agree R (full nested) (full nested') s s' s'.ahead.length := by
  have attributes := agree_many (fun _ _ along _ => agree_typeAttribute? sim along) along
  refine Agree.bind attributes fun found t t' along le => ?_
  refine Agree.bind (agree_specifier? sim along) fun specifier u u' along le' => ?_
  refine Agree.bind (agree_composed sim (fun l => (reads l).mono (by omega)) along) ?_
  intro base v v' along fewer
  refine inStep_ite Iff.rfl (fun _ => ?_) fun _ => ?_
  · exact agree_pure along (by omega)
  · exact agree_pure along (by omega)

theorem agree_layer (reads : ∀ l, ReadsAlike R (nested l) (nested' l) s'.ahead.length)
    (l : TypeLayer) (along : R s s') :
    Agree R (layer nested l) (layer nested' l) s s' s'.ahead.length := by
  cases l with
  | primary => exact agree_primary sim reads along
  | composed => exact agree_composed sim reads along
  | full => exact agree_full sim reads along

/-- The nesting of a type is measured in the second stream by enough tokens. -/
theorem agree_layerFrom (measure measure' : List Token) (l : TypeLayer) (along : R s s')
    (enough : s'.ahead.length ≤ measure'.length) :
    Agree R (layerFrom measure l) (layerFrom measure' l) s s' s'.ahead.length := by
  induction measure generalizing s s' measure' l with
  | nil =>
    have none (nested' : TypeLayer → TokenReader TypeExpr) (l : TypeLayer) :
        ReadsAlike R (fail .nestedTooDeeply) (nested' l) s'.ahead.length :=
      fun _ _ _ _ => inStep_of_fails rfl
    cases measure' with
    | nil => exact agree_layer sim (none _) l along
    | cons x' measure' => exact agree_layer sim (none _) l along
  | cons x measure ih =>
    cases measure' with
    | nil =>
      rw [List.length_nil] at enough
      exact agree_layer sim (fun _ _ _ _ few => absurd few (by omega)) l along
    | cons x' measure' =>
      rw [List.length_cons] at enough
      exact agree_layer sim (fun l t t' along few => ih measure' l along (by omega)) l along

end Parts

end TypeReader

/-- A type is read alike. -/
theorem agree_readType (sim : Simulation R) (along : R s s') :
    Agree R readType readType s s' s'.ahead.length :=
  inStep_look (run'_get s) (run'_get s')
    (agree_layerFrom sim s.ahead s'.ahead .full along (Nat.le_refl _))

end ViewModifiers.Interface
