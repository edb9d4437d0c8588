import ViewModifiers.Proofs.Interface.MemberReading
import ViewModifiers.Proofs.Interface.Shape

/-!
# Skipping over tokens

Whatever a declaration that is not kept holds outside its brackets begins no other declaration and
modifies none (`Quiet`). Skipping goes through such tokens without a stop. Where the next
declaration has modifiers with arguments, skipping goes on through these; it stops in front of the
first modifier that something to modify is right behind (`Modifying.exists_passed`).
-/

namespace ViewModifiers.Interface

open Source TokenReader DeclarationReader

/-! ## Quiet tokens -/

/-- Tokens whose brackets pair up, and which hold nothing outside of them that may begin, modify or
end a declaration. -/
inductive Quiet : List Token → Prop
  | nil : Quiet []
  | plain {t : Token} {ts : List Token} (opens : t.kind.closer? = none)
      (closes : t.kind.isCloser = false) (real : t.kind ≠ .endOfFile)
      (begins : beginsDeclaration t = false) (modifies : isModifierWord t = false)
      (later : Quiet ts) : Quiet (t :: ts)
  | group {opening closing : Token} {inner ts : List Token}
      (pair : opening.kind.closer? = some closing.kind) (inside : Balanced inner)
      (later : Quiet ts) : Quiet (opening :: (inner ++ closing :: ts))

/-- Tokens that are the same up to a bracket behind a group are so inside and behind it. -/
theorem exists_group_of_contents {opening closing : Token} {inner later ts : List Token}
    (same : (opening :: (inner ++ closing :: later)).map Token.content = ts.map Token.content) :
    ∃ opening' inner' closing' later', ts = opening' :: (inner' ++ closing' :: later') ∧
      opening.content = opening'.content ∧ closing.content = closing'.content ∧
        inner.map Token.content = inner'.map Token.content ∧
          later.map Token.content = later'.map Token.content := by
  obtain ⟨opening', rest, rfl, first, rest'⟩ := List.map_eq_cons_iff.1 same.symm
  rw [List.map_append, List.map_cons] at rest'
  obtain ⟨inner', behind, rfl, inside, behind'⟩ := List.map_eq_append_iff.1 rest'
  obtain ⟨closing', later', rfl, last, later'⟩ := List.map_eq_cons_iff.1 behind'
  exact ⟨opening', inner', closing', _, rfl, first.symm, last.symm, inside.symm, later'.symm⟩

theorem Balanced.of_contents {ts ts' : List Token} (balanced : Balanced ts)
    (same : ts.map Token.content = ts'.map Token.content) : Balanced ts' := by
  induction balanced generalizing ts' with
  | nil =>
    obtain rfl : ts' = [] := by simpa using same.symm
    exact .nil
  | plain opens closes _ ih =>
    obtain ⟨t', ts', rfl, first, later⟩ := List.map_eq_cons_iff.1 same.symm
    have kind := Token.kind_eq first
    exact .plain (kind ▸ opens) (kind ▸ closes) (ih later.symm)
  | group pair _ _ ihInside ihLater =>
    obtain ⟨opening', inner', closing', later', rfl, first, last, inside, later⟩ :=
      exists_group_of_contents same
    refine .group ?_ (ihInside inside) (ihLater later)
    rw [← Token.kind_eq first, ← Token.kind_eq last, pair]

theorem Quiet.of_contents {ts ts' : List Token} (quiet : Quiet ts)
    (same : ts.map Token.content = ts'.map Token.content) : Quiet ts' := by
  induction quiet generalizing ts' with
  | nil =>
    obtain rfl : ts' = [] := by simpa using same.symm
    exact .nil
  | plain opens closes real begins modifies _ ih =>
    obtain ⟨t', ts', rfl, first, later⟩ := List.map_eq_cons_iff.1 same.symm
    have kind := Token.kind_eq first
    exact .plain (kind ▸ opens) (kind ▸ closes) (kind ▸ real)
      (beginsDeclaration_eq first ▸ begins) (isModifierWord_eq first ▸ modifies) (ih later.symm)
  | group pair inside _ ih =>
    obtain ⟨opening', inner', closing', later', rfl, first, last, sameInside, later⟩ :=
      exists_group_of_contents same
    refine .group ?_ (inside.of_contents sameInside) (ih later)
    rw [← Token.kind_eq first, ← Token.kind_eq last, pair]

section Steps

variable {t opening closing : Token} {inner : List Token}

theorem run'_passStep_group (first : Bool) (pair : opening.kind.closer? = some closing.kind)
    (inside : Balanced inner) (us : List Token) (p : Position) :
    (passStep first).run' ⟨opening :: (inner ++ closing :: us), p⟩ =
      (.ok (.inl false), ⟨us, p⟩) := by
  have more :
      ¬(decide (opening.kind = .endOfFile) || decide (opening.kind = .closeBrace)) = true := by
    cases kind : opening.kind <;> rw [kind] at pair <;> first | decide | cases pair
  rw [passStep, run'_bind_of_ok (run'_current _), TokenStream.current_cons, if_neg more,
    if_pos (by rw [pair]; rfl), run'_bind_of_ok (run'_bracketGroup pair inside us p)]
  rfl

/-- A token that is no bracket is skipped, if it is the first one or stops nothing. -/
theorem run'_passStep_plain {first : Bool} {us : List Token} (opens : t.kind.closer? = none)
    (closes : t.kind.isCloser = false) (real : t.kind ≠ .endOfFile)
    (goes : first = true ∨ beginsDeclaration t = false ∧ (isModifierWord t = false ∨
      ∃ u vs, us = u :: vs ∧ beginsDeclaration u = false ∧ isModifierWord u = false))
    (p : Position) : (passStep first).run' ⟨t :: us, p⟩ = (.ok (.inl false), ⟨us, p⟩) := by
  have other {kind : TokenKind} (closer : kind.isCloser = true) : t.kind ≠ kind := by
    rintro rfl
    rw [closer] at closes
    cases closes
  have open_ : ¬((none : Option TokenKind).isSome = true) := Bool.false_ne_true
  rw [passStep, run'_bind_of_ok (run'_current _), TokenStream.current_cons, decide_eq_false real,
    decide_eq_false (other rfl), Bool.or_self, if_neg Bool.false_ne_true, opens, if_neg open_,
    decide_eq_false (other rfl), decide_eq_false (other rfl), Bool.or_self,
    if_neg Bool.false_ne_true]
  cases first with
  | true => rfl
  | false =>
    obtain ⟨begins, stops⟩ := goes.resolve_left Bool.false_ne_true
    have noStop : (isModifierWord t && (beginsDeclaration (TokenStream.peek ⟨t :: us, p⟩ 1) ||
        isModifierWord (TokenStream.peek ⟨t :: us, p⟩ 1))) = false := by
      rcases stops with modifies | ⟨u, vs, rfl, begins, modifies⟩
      · rw [modifies, Bool.false_and]
      · rw [show TokenStream.peek ⟨t :: u :: vs, p⟩ 1 = u from rfl, begins, modifies, Bool.or_self,
          Bool.and_false]
    rw [if_neg Bool.false_ne_true, begins, if_neg Bool.false_ne_true,
      run'_bind_of_ok (run'_peek _ _), noStop]
    rfl

end Steps

theorem Quiet.steps {ts : List Token} (quiet : Quiet ts) (us : List Token) (p : Position) :
    Steps passStep false ⟨ts ++ us, p⟩ false ⟨us, p⟩ := by
  induction quiet with
  | nil => exact .refl _ _
  | @plain t ts opens closes real begins modifies _ ih =>
    exact .next (run'_passStep_plain opens closes real (.inr ⟨begins, .inl modifies⟩) p)
      (Nat.lt_succ_self _) ih
  | @group opening closing inner ts pair inside _ ih =>
    rw [List.cons_append, List.append_assoc, List.cons_append]
    refine .next (run'_passStep_group false pair inside _ p) ?_ ih
    simp only [List.length_cons, List.length_append]
    omega

/-! ## Modifiers -/

/-- Modifiers in front of a declaration, with their arguments if they have any. -/
inductive Modifying : List Token → List String → Prop
  | nil : Modifying [] []
  | word {t : Token} {ts : List Token} {names : List String}
      (modifies : isModifierWord t = true ∨ t.kind = .keyword .classType)
      (later : Modifying ts names) : Modifying (t :: ts) (t.value :: names)
  | arguments {t opening closing : Token} {inner ts : List Token} {names : List String}
      (modifies : isModifierWord t = true) (follows : t.isFollowedBy opening = true)
      (opens : opening.kind = .openParen) (closes : closing.kind = .closeParen)
      (inside : Balanced inner) (later : Modifying ts names) :
      Modifying (t :: opening :: (inner ++ closing :: ts)) (t.value :: names)

namespace Modifying

variable {ts us : List Token} {names : List String}

theorem of_plain {words : List Token}
    (plain : ∀ t ∈ words, isModifierWord t = true ∨ t.kind = .keyword .classType) :
    Modifying words (words.map Token.value) := by
  induction words with
  | nil => exact .nil
  | cons t words ih =>
    have later := ih fun u there => plain u (List.mem_cons_of_mem t there)
    exact .word (plain t List.mem_cons_self) later

theorem kind_of_isModifierWord {t : Token} (modifies : isModifierWord t = true) :
    t.kind = .identifier := by
  rw [isModifierWord, Bool.and_eq_true, decide_eq_true_eq] at modifies
  exact modifies.1

theorem beginsDeclaration_of_class {t : Token} (isClass : t.kind = .keyword .classType) :
    beginsDeclaration t = true := by
  rw [beginsDeclaration, isClass]
  rfl

/-- Behind modifiers there is always something that they modify. -/
theorem exists_next (modifying : Modifying ts names) (begins : BeginsItem us) :
    ∃ u vs, ts ++ us = u :: vs ∧ u.kind.isNameLike = true ∧
      (beginsDeclaration u || isModifierWord u) = true := by
  cases modifying with
  | nil =>
    obtain ⟨word, value, p, vs, rfl, declares⟩ := begins.begins
    exact ⟨_, _, rfl, rfl, by rw [declares]; rfl⟩
  | word modifies =>
    refine ⟨_, _, rfl, ?_⟩
    rcases modifies with modifies | isClass
    · exact ⟨by rw [kind_of_isModifierWord modifies]; rfl, by rw [modifies, Bool.or_true]⟩
    · exact ⟨by rw [isClass]; rfl, by rw [beginsDeclaration_of_class isClass]; rfl⟩
  | arguments modifies =>
    refine ⟨_, _, rfl, ?_⟩
    exact ⟨by rw [kind_of_isModifierWord modifies]; rfl, by rw [modifies, Bool.or_true]⟩

theorem endsItem_cons {t : Token}
    (modifies : isModifierWord t = true ∨ t.kind = .keyword .classType)
    (later : Modifying ts names) (begins : BeginsItem us) : EndsItem (t :: (ts ++ us)) := by
  obtain ⟨u, vs, tokens, -, next⟩ := later.exists_next begins
  rcases modifies with modifies | isClass
  · rw [tokens]
    exact .modifier modifies next
  · exact .begins (beginsDeclaration_of_class isClass)

/-- Modifiers without arguments stand behind a whole declaration. -/
theorem endsItem_of_plain {words : List Token}
    (plain : ∀ t ∈ words, isModifierWord t = true ∨ t.kind = .keyword .classType)
    (begins : BeginsItem us) : EndsItem (words ++ us) := by
  cases words with
  | nil => exact begins.endsItem
  | cons t words =>
    have later := of_plain fun u there => plain u (List.mem_cons_of_mem t there)
    exact endsItem_cons (plain t List.mem_cons_self) later begins

/-- Skipping stops in front of the modifiers of a declaration, or in front of some of them. -/
theorem exists_passed (modifying : Modifying ts names) (begins : BeginsItem us) (p : Position) :
    ∃ ts' names', Modifying ts' names' ∧ ts'.length ≤ ts.length ∧
      Steps passStep false ⟨ts ++ us, p⟩ false ⟨ts' ++ us, p⟩ ∧ EndsItem (ts' ++ us) := by
  induction modifying with
  | nil => exact ⟨[], [], .nil, Nat.le_refl _, .refl _ _, begins.endsItem⟩
  | @word t ts names modifies later =>
    exact ⟨t :: ts, _, .word modifies later, Nat.le_refl _, .refl _ _,
      endsItem_cons modifies later begins⟩
  | @arguments t opening closing inner ts names modifies follows opens closes inside later ih =>
    have word := kind_of_isModifierWord modifies
    have pair : opening.kind.closer? = some closing.kind := by rw [opens, closes]; rfl
    obtain ⟨ts', names', passed, shorter, steps, ends⟩ := ih
    refine ⟨ts', names', passed, ?_, ?_, ends⟩
    · simp only [List.length_cons, List.length_append]
      omega
    · have goes : beginsDeclaration t = false ∧ (isModifierWord t = false ∨ ∃ u vs,
          opening :: (inner ++ closing :: (ts ++ us)) = u :: vs ∧ beginsDeclaration u = false ∧
            isModifierWord u = false) := by
        refine ⟨by rw [beginsDeclaration, word], .inr ⟨_, _, rfl, ?_, ?_⟩⟩
        · rw [beginsDeclaration, opens]
        · rw [isModifierWord, opens]
          rfl
      rw [List.cons_append, List.cons_append, List.append_assoc, List.cons_append]
      refine .next (run'_passStep_plain (by rw [word]; rfl) (by rw [word]; rfl)
        (by rw [word]; decide) (.inr goes) p) (Nat.lt_succ_self _) ?_
      refine .next (run'_passStep_group false pair inside _ p) ?_ steps
      simp only [List.length_cons, List.length_append]
      omega

/-- A modifier is read with the group behind it, if there is one. -/
theorem run'_modifier?_some {t : Token} {vs : List Token} {group : Option (List Token)}
    {p : Position}
    (modifies : isModifierWord t = true ∨ t.kind = .keyword .classType ∧
      ∃ u ws, us = u :: ws ∧ u.kind.isNameLike = true ∧
        (beginsDeclaration u || isModifierWord u) = true)
    (behind : (groupBehind? t).run' ⟨us, p⟩ = (.ok group, ⟨vs, p⟩)) :
    modifier?.run' ⟨t :: us, p⟩ = (.ok (some t.value), ⟨vs, p⟩) := by
  have isModifier : (isModifierWord t || (decide (t.kind = .keyword .classType) &&
      (beginsDeclaration (TokenStream.peek ⟨t :: us, p⟩ 1) &&
        decide ((TokenStream.peek ⟨t :: us, p⟩ 1).kind ≠ .atSign) ||
          isModifierWord (TokenStream.peek ⟨t :: us, p⟩ 1)))) = true := by
    rcases modifies with modifies | ⟨isClass, u, ws, rfl, isName, next⟩
    · rw [modifies, Bool.true_or]
    · have noSign : decide (u.kind ≠ .atSign) = true :=
        decide_eq_true (by intro is; rw [is] at isName; cases isName)
      rw [show TokenStream.peek ⟨t :: u :: ws, p⟩ 1 = u from rfl, isClass, noSign, Bool.and_true,
        next, Bool.or_eq_true]
      exact .inr rfl
  rw [modifier?, run'_bind_of_ok (run'_current _), TokenStream.current_cons,
    run'_bind_of_ok (run'_classModifiesNext _), if_pos isModifier,
    run'_bind_of_ok (run'_advance _), TokenStream.rest_cons, run'_bind_of_ok behind]
  rfl

/-- Modifiers are read with their arguments, up to the word of the declaration. -/
theorem steps_modifiers (modifying : Modifying ts names) (begins : BeginsItem us)
    (found : List String) (p : Position) :
    Steps (manyStep modifier?) found ⟨ts ++ us, p⟩ (names.reverse ++ found) ⟨us, p⟩ := by
  induction modifying generalizing found with
  | nil => exact .refl _ _
  | @word t ts names modifies later ih =>
    have next := later.exists_next begins
    have behind : (groupBehind? t).run' ⟨ts ++ us, p⟩ = (.ok none, ⟨ts ++ us, p⟩) := by
      refine run'_groupBehind?_none p fun u vs same paren => ?_
      obtain ⟨v, ws, same', isName, -⟩ := next
      rw [same] at same'
      cases same'
      rw [paren] at isName
      cases isName
    rw [List.reverse_cons, List.append_assoc, List.singleton_append, List.cons_append]
    refine .next ?_ (Nat.lt_succ_self _) (ih (t.value :: found))
    have read := run'_modifier?_some (modifies.imp_right fun isClass => ⟨isClass, next⟩) behind
    exact run'_bind_of_ok read
  | @arguments t opening closing inner ts names modifies follows opens closes inside later ih =>
    have behind := run'_groupBehind?_some follows opens closes inside (ts ++ us) p
    rw [List.reverse_cons, List.append_assoc, List.singleton_append, List.cons_append,
      List.cons_append, List.append_assoc, List.cons_append]
    refine .next (run'_bind_of_ok (run'_modifier?_some (.inl modifies) behind)) ?_
      (ih (t.value :: found))
    simp only [List.length_cons, List.length_append]
    omega

theorem run'_modifiers (modifying : Modifying ts names) (begins : BeginsItem us) (p : Position) :
    modifiers.run' ⟨ts ++ us, p⟩ = (.ok names, ⟨us, p⟩) := by
  refine run'_iterate (modifying.steps_modifiers begins [] p) ?_
  refine (run'_bind_of_ok (run'_modifier?_none begins p)).trans ?_
  rw [List.append_nil, List.reverse_reverse]
  rfl

end Modifying

end ViewModifiers.Interface
