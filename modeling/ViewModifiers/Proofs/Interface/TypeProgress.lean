import ViewModifiers.Interface.TypeReader
import ViewModifiers.Proofs.Interface.Progress

/-!
# Progress of reading types

Reading a type uses up a token. Each part of a type does so over readers of nested types that do,
and a nested type is read only where fewer tokens are left than at the start of the type around it.
So the tokens ahead are enough to measure the nesting.
-/

namespace ViewModifiers.Interface

open TokenReader TypeReader

/-- A reader uses up a token wherever fewer than a number of tokens are left. -/
def UsesUpBelow {α : Type} (excused : Prop) (r : TokenReader α) (n : Nat) : Prop :=
  ∀ s, s.ahead.length < n → Leaves excused r s s.ahead.length

theorem UsesUpBelow.mono {α : Type} {excused : Prop} {r : TokenReader α} {m n : Nat}
    (usesUp : UsesUpBelow excused r n) (le : m ≤ n) : UsesUpBelow excused r m :=
  fun s few => usesUp s (Nat.lt_of_lt_of_le few le)

namespace TypeReader

variable {excused : Prop} {type : TokenReader TypeExpr} {s : TokenStream} {n : Nat}

/-! ## Parts of types -/

theorem leaves_genericArguments (usesUp : UsesUpBelow excused type s.ahead.length) :
    Leaves excused (genericArguments type) s (s.ahead.length + 1) := by
  refine fares_ite_accept (by decide) (fun fewer => ?_) (fares_pure (Nat.lt_succ_self _))
  refine (leaves_commaSeparated fun s' inner => usesUp s' (by omega)).bind fun _ s₁ fewer₁ => ?_
  refine (leaves_expect (by decide) s₁).bind fun _ s₂ fewer₂ => ?_
  exact fares_pure (by omega)

theorem leaves_label? (s : TokenStream) : Leaves excused label? s (s.ahead.length + 1) := by
  refine fares_look (run'_current s) (fares_look (run'_peek 1 s) ?_)
  split
  · refine (leaves_advance_le s).bind fun name s₁ le₁ => ?_
    refine (leaves_advance_le s₁).bind fun _ s₂ le₂ => ?_
    exact fares_pure (by omega)
  · refine fares_look (run'_current s) (fares_look (run'_peek 1 s) (fares_look (run'_peek 2 s) ?_))
    split
    · refine (leaves_advance_le s).bind fun name s₁ le₁ => ?_
      refine (leaves_advance_le s₁).bind fun _ s₂ le₂ => ?_
      refine (leaves_advance_le s₂).bind fun _ s₃ le₃ => ?_
      exact fares_pure (by omega)
    · exact fares_pure (Nat.lt_succ_self _)

theorem usesUpBelow_tupleElement (usesUp : UsesUpBelow excused type n) :
    UsesUpBelow excused (tupleElement type) n := by
  intro s few
  refine (leaves_label? s).bind fun label s₁ le₁ => ?_
  refine (usesUp s₁ (by omega)).bind fun t s₂ fewer₂ => ?_
  exact fares_pure (by omega)

theorem leaves_functionEffects (s : TokenStream) :
    Leaves excused functionEffects s (s.ahead.length + 1) := by
  refine fares_iterate_le (Nat.le_refl _) fun found s' inner => ?_
  refine fares_ite_isAtAny (by decide) (fun real => ?_) (fares_pure (Nat.lt_succ_of_le inner))
  refine (leaves_advance real).bind fun word s₁ fewer₁ => ?_
  split
  · exact fares_pure ⟨fewer₁, trivial⟩
  · refine (leaves_groupBehind? word s₁).bind fun _ s₂ le₂ => ?_
    exact fares_pure ⟨by omega, trivial⟩

theorem leaves_parenthesized (usesUp : UsesUpBelow excused type s.ahead.length) :
    Leaves excused (parenthesized type) s s.ahead.length := by
  refine (leaves_expect (by decide) s).bind fun _ s₁ fewer₁ => ?_
  have elements := leaves_commaList (s := s₁) .closeParen
    fun s' inner => usesUpBelow_tupleElement usesUp s' (by omega)
  refine elements.bind fun elements s₂ le₂ => ?_
  refine (leaves_expect (by decide) s₂).bind fun _ s₃ fewer₃ => ?_
  refine (leaves_functionEffects s₃).bind fun effects s₄ le₄ => ?_
  refine fares_ite_accept (by decide) (fun fewer => ?_) ?_
  · refine (usesUp s₄.rest (by omega)).bind fun result s₅ fewer₅ => ?_
    exact fares_pure (by omega)
  · split
    · exact fares_fail rfl
    · split
      · exact fares_pure (by omega)
      · exact fares_pure (by omega)

theorem leaves_bracketed (opens : s.current.kind ≠ .endOfFile)
    (usesUp : UsesUpBelow excused type s.ahead.length) :
    Leaves excused (bracketed type) s s.ahead.length := by
  refine (leaves_advance opens).bind fun _ s₁ fewer₁ => ?_
  refine (usesUp s₁ fewer₁).bind fun element s₂ fewer₂ => ?_
  refine fares_ite_accept (by decide) (fun fewer => ?_) ?_
  · refine (usesUp s₂.rest (by omega)).bind fun value s₃ fewer₃ => ?_
    refine (leaves_expect (by decide) s₃).bind fun _ s₄ fewer₄ => ?_
    exact fares_pure (by omega)
  · refine (leaves_expect (by decide) s₂).bind fun _ s₃ fewer₃ => ?_
    exact fares_pure (by omega)

theorem leaves_marks (start : TypeExpr) (usesUp : UsesUpBelow excused type s.ahead.length) :
    Leaves excused (marks type start) s (s.ahead.length + 1) := by
  refine fares_iterate_le (Nat.le_refl _) fun t s' inner => ?_
  refine fares_ite_accept (by decide) (fun fewer => fares_pure ⟨fewer, trivial⟩) ?_
  refine fares_ite_accept (by decide) (fun fewer => fares_pure ⟨fewer, trivial⟩) ?_
  refine fares_ite_accept (by decide) (fun fewer => fares_pure ⟨fewer, trivial⟩) ?_
  refine fares_ite_dotted (fun dot => ?_) (fares_pure (Nat.lt_succ_of_le inner))
  refine (leaves_advance dot).bind fun _ s₁ fewer₁ => ?_
  refine (leaves_advance_le s₁).bind fun name s₂ le₂ => ?_
  split
  · exact fares_pure ⟨by omega, trivial⟩
  · split
    · exact fares_pure ⟨by omega, trivial⟩
    · refine (leaves_genericArguments (usesUp.mono (by omega))).bind fun _ s₃ le₃ => ?_
      exact fares_pure ⟨by omega, trivial⟩

theorem fares_typeAttribute? (s : TokenStream) : FaresIfAny excused typeAttribute? s := by
  refine fares_ite_accept (by decide) (fun fewer => ?_) (fares_pure (Nat.lt_succ_self _))
  refine (leaves_dottedNames s.rest).bind fun found s₁ fewer₁ => ?_
  refine (leaves_groupBehind? found.2 s₁).bind fun _ s₂ le₂ => ?_
  exact fares_pure (show s₂.ahead.length < s.ahead.length by omega)

theorem leaves_specifier? (s : TokenStream) :
    Leaves excused specifier? s (s.ahead.length + 1) := by
  refine fares_ite_isAt (fun _ => ?_) ?_
  · exact (leaves_advance_le s).bind fun _ s₁ le₁ => fares_pure le₁
  · refine fares_look (run'_isAtWord ownershipWords s) (fares_look (run'_peek 1 s) ?_)
    split
    · exact (leaves_advance_le s).bind fun _ s₁ le₁ => fares_pure le₁
    · exact fares_pure (Nat.lt_succ_self _)

/-! ## Layers -/

variable {nested : TypeLayer → TokenReader TypeExpr}

theorem leaves_quantified (word : Quantifier) (more : s.current.kind ≠ .endOfFile)
    (usesUp : UsesUpBelow excused type s.ahead.length) :
    Leaves excused (do let _ ← advance; return TypeExpr.quantified word (← type)) s
      s.ahead.length := by
  refine (leaves_advance more).bind fun _ s₁ fewer₁ => ?_
  refine (usesUp s₁ fewer₁).bind fun t s₂ fewer₂ => ?_
  exact fares_pure (by omega)

theorem leaves_primary (usesUp : ∀ l, UsesUpBelow excused (nested l) s.ahead.length) :
    Leaves excused (primary nested) s s.ahead.length := by
  refine fares_look (run'_current s) ?_
  split
  · next word => exact leaves_quantified .some (by rw [word]; decide) (usesUp .composed)
  · next word => exact leaves_quantified .any (by rw [word]; decide) (usesUp .composed)
  · exact leaves_parenthesized (usesUp .full)
  · next opens => exact leaves_bracketed (by rw [opens]; decide) (usesUp .full)
  · next word =>
    refine (leaves_advance (by rw [word]; decide)).bind fun _ s₁ fewer₁ => ?_
    refine fares_look (run'_isAtName s₁) ?_
    split
    · exact (usesUp .primary s₁ fewer₁).mono (Nat.le_of_lt fewer₁)
    · refine (leaves_genericArguments ((usesUp .full).mono (Nat.le_of_lt fewer₁))).bind
        fun arguments s₂ le₂ => ?_
      exact fares_pure (by omega)
  · exact fares_failAt _ rfl

theorem leaves_marked (usesUp : ∀ l, UsesUpBelow excused (nested l) s.ahead.length) :
    Leaves excused (marked nested) s s.ahead.length := by
  refine (leaves_primary usesUp).bind fun first s₁ fewer₁ => ?_
  exact (leaves_marks first ((usesUp .full).mono (Nat.le_of_lt fewer₁))).mono (by omega)

/-- The other parts of a composition. -/
theorem leaves_others (usesUp : ∀ l, UsesUpBelow excused (nested l) s.ahead.length) :
    Leaves excused
      (many do if ← accept .ampersand then return some (← marked nested) else return none) s
      (s.ahead.length + 1) := by
  refine leaves_many fun s' inner => ?_
  refine fares_ite_accept (by decide) (fun fewer => ?_) (fares_pure (Nat.lt_succ_self _))
  refine (leaves_marked fun l => (usesUp l).mono (by omega)).bind fun t s₂ fewer₂ => ?_
  exact fares_pure (show s₂.ahead.length < s'.ahead.length by omega)

theorem leaves_composed (usesUp : ∀ l, UsesUpBelow excused (nested l) s.ahead.length) :
    Leaves excused (composed nested) s s.ahead.length := by
  refine (leaves_marked usesUp).bind fun first s₁ fewer₁ => ?_
  refine (leaves_others fun l => (usesUp l).mono (by omega)).bind fun others s₂ le₂ => ?_
  split
  · exact fares_pure (by omega)
  · exact fares_pure (by omega)

theorem leaves_full (usesUp : ∀ l, UsesUpBelow excused (nested l) s.ahead.length) :
    Leaves excused (full nested) s s.ahead.length := by
  refine (leaves_many fun s' _ => fares_typeAttribute? s').bind fun attributes s₁ le₁ => ?_
  refine (leaves_specifier? s₁).bind fun specifier s₂ le₂ => ?_
  refine (leaves_composed fun l => (usesUp l).mono (by omega)).bind fun base s₃ fewer₃ => ?_
  split
  · exact fares_pure (by omega)
  · exact fares_pure (by omega)

theorem leaves_layer (usesUp : ∀ l, UsesUpBelow excused (nested l) s.ahead.length)
    (l : TypeLayer) : Leaves excused (layer nested l) s s.ahead.length := by
  cases l with
  | primary => exact leaves_primary usesUp
  | composed => exact leaves_composed usesUp
  | full => exact leaves_full usesUp

theorem leaves_layerFrom (measure : List Token) (bound : s.ahead.length ≤ measure.length)
    (l : TypeLayer) : Leaves excused (layerFrom measure l) s s.ahead.length := by
  induction measure generalizing s l with
  | nil => exact leaves_layer (fun _ s' few => absurd (Nat.lt_of_lt_of_le few bound) (by simp)) l
  | cons t measure ih =>
    exact leaves_layer (fun l s' few => ih (Nat.le_of_lt_succ (Nat.lt_of_lt_of_le few bound)) l) l

end TypeReader

/-- Reading a type uses up a token. -/
theorem leaves_readType {excused : Prop} (s : TokenStream) :
    Leaves excused readType s s.ahead.length :=
  fares_look (run'_get s) (leaves_layerFrom s.ahead (Nat.le_refl _) .full)

end ViewModifiers.Interface
