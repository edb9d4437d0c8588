import ViewModifiers.Interface.AttributeReader
import ViewModifiers.Interface.DeclarationReader

/-!
# Shapes of tokens

A reader sees of a token what it is and whether the next one starts right behind it; where the
tokens stand shows in nothing but positions. The shape of tokens is all that (`shape`). What the
arguments of an attribute say depends on their contents alone.
-/

namespace ViewModifiers.Interface

open TokenReader AttributeReader DeclarationReader

/-- What a token is, apart from where it stands. -/
def Token.content (t : Token) : TokenKind × String := (t.kind, t.value)

/-- Whether the first of some tokens starts right behind a token. -/
def Token.touches (t : Token) (ts : List Token) : Bool := ts.head?.any t.isFollowedBy

/-- What tokens are, and which of them touch each other. -/
def shape : List Token → List ((TokenKind × String) × Bool)
  | [] => []
  | t :: ts => (t.content, t.touches ts) :: shape ts

variable {t t' u u' : Token} {ts ts' us : List Token}

theorem Token.kind_eq (same : t.content = t'.content) : t.kind = t'.kind :=
  congrArg Prod.fst same

theorem Token.value_eq (same : t.content = t'.content) : t.value = t'.value :=
  congrArg Prod.snd same

theorem length_shape (ts : List Token) : (shape ts).length = ts.length := by
  induction ts with
  | nil => rfl
  | cons t ts ih => rw [shape, List.length_cons, List.length_cons, ih]

theorem length_eq_of_shape (same : shape ts = shape ts') : ts.length = ts'.length := by
  rw [← length_shape, same, length_shape]

theorem exists_cons_of_shape (same : shape (t :: ts) = shape us) :
    ∃ t' ts', us = t' :: ts' ∧ t.content = t'.content ∧ t.touches ts = t'.touches ts' ∧
      shape ts = shape ts' := by
  cases us with
  | nil => cases same
  | cons t' ts' =>
    simp only [shape, List.cons.injEq, Prod.mk.injEq] at same
    exact ⟨t', ts', rfl, same.1.1, same.1.2, same.2⟩

theorem eq_nil_of_shape (same : shape [] = shape us) : us = [] :=
  List.eq_nil_of_length_eq_zero (length_eq_of_shape same).symm

theorem contents_eq_of_shape (same : shape ts = shape ts') :
    ts.map Token.content = ts'.map Token.content := by
  induction ts generalizing ts' with
  | nil => rw [eq_nil_of_shape same]
  | cons t ts ih =>
    obtain ⟨t', us, rfl, content, -, later⟩ := exists_cons_of_shape same
    rw [List.map_cons, List.map_cons, content, ih later]

/-- Tokens of one shape come apart at the same place. -/
theorem exists_append_of_shape {xs : List Token} (same : shape (xs ++ ts) = shape us) :
    ∃ xs' ts', us = xs' ++ ts' ∧ shape xs = shape xs' ∧ shape ts = shape ts' := by
  induction xs generalizing us with
  | nil => exact ⟨[], us, rfl, rfl, same⟩
  | cons x xs ih =>
    obtain ⟨x', us', rfl, content, touches, later⟩ := exists_cons_of_shape same
    obtain ⟨xs', ts', rfl, shapes, rest⟩ := ih later
    refine ⟨x' :: xs', ts', rfl, ?_, rest⟩
    have inside : x.touches xs = x'.touches xs' := by
      cases xs with
      | nil => rw [eq_nil_of_shape shapes]; rfl
      | cons y ys =>
        obtain ⟨y', ys', rfl, -⟩ := exists_cons_of_shape shapes
        exact touches
    rw [shape, shape, content, inside, shapes]

/-! ## What depends on contents -/

theorem beginsDeclaration_eq (same : t.content = t'.content) :
    beginsDeclaration t = beginsDeclaration t' := by
  rw [beginsDeclaration, beginsDeclaration, Token.kind_eq same]

theorem isModifierWord_eq (same : t.content = t'.content) :
    isModifierWord t = isModifierWord t' := by
  rw [isModifierWord, isModifierWord, Token.kind_eq same, Token.value_eq same]

/-- A token without its place. -/
def Token.unplaced (t : Token) : Token := { t with position := .start }

theorem map_unplaced_eq (same : ts.map Token.content = ts'.map Token.content) :
    ts.map Token.unplaced = ts'.map Token.unplaced := by
  have placeless : Token.unplaced = (fun c => ⟨c.1, c.2, .start⟩) ∘ Token.content := rfl
  rw [placeless, ← List.map_map, ← List.map_map, same]

theorem argumentText_unplaced (ts : List Token) :
    argumentText (ts.map Token.unplaced) = argumentText ts := by
  rw [argumentText, argumentText, List.map_map]
  rfl

theorem splitFrom_unplaced (depth : Int) (item ts : List Token) :
    splitFrom depth (item.map Token.unplaced) (ts.map Token.unplaced) =
      (splitFrom depth item ts).map (·.map Token.unplaced) := by
  induction ts generalizing depth item with
  | nil => cases item <;> simp [splitFrom]
  | cons t ts ih =>
    have behind (depth' : Int) (comma : Prop) [Decidable comma] :
        (if comma then
            if (item.map Token.unplaced).isEmpty then splitFrom depth' [] (ts.map Token.unplaced)
            else (item.map Token.unplaced).reverse :: splitFrom depth' [] (ts.map Token.unplaced)
          else splitFrom depth' (t.unplaced :: item.map Token.unplaced) (ts.map Token.unplaced)) =
        (if comma then
            if item.isEmpty then splitFrom depth' [] ts
            else item.reverse :: splitFrom depth' [] ts
          else splitFrom depth' (t :: item) ts).map (·.map Token.unplaced) := by
      rw [List.isEmpty_map]
      split
      · split
        · exact ih depth' []
        · rw [List.map_cons, List.map_reverse]
          exact congrArg _ (ih depth' [])
      · exact ih depth' (t :: item)
    exact behind _ _

theorem noteItem_unplaced (subject : String) (notes : Notes) (item : List Token) :
    noteItem subject notes (item.map Token.unplaced) = noteItem subject notes item := by
  rcases item with _ | ⟨head, _ | ⟨second, _ | ⟨third, rest⟩⟩⟩
  · rfl
  · rfl
  · rfl
  · cases second with
    | mk kind value position => cases kind <;> rfl

theorem longFormPlatform?_unplaced (items : List (List Token)) :
    longFormPlatform? (items.map (·.map Token.unplaced)) = longFormPlatform? items := by
  rcases items with _ | ⟨_ | ⟨t, _ | ⟨u, item⟩⟩, items⟩
  · rfl
  · rfl
  · rfl
  · rfl

theorem availabilityOf_unplaced (ts : List Token) :
    availabilityOf (ts.map Token.unplaced) = availabilityOf ts := by
  have items : itemsBetweenCommas (ts.map Token.unplaced) =
      (itemsBetweenCommas ts).map (·.map Token.unplaced) := splitFrom_unplaced 0 [] ts
  simp only [availabilityOf, items, longFormPlatform?_unplaced, ← List.map_tail, List.foldl_map,
    ← apply_ite (List.map (List.map Token.unplaced)), noteItem_unplaced]

/-- The text of an argument list and the availability it gives are a matter of contents. -/
theorem arguments_eq (same : ts.map Token.content = ts'.map Token.content) :
    argumentText ts = argumentText ts' ∧ availabilityOf ts = availabilityOf ts' := by
  have unplaced := map_unplaced_eq same
  rw [← argumentText_unplaced ts, ← argumentText_unplaced ts', ← availabilityOf_unplaced ts,
    ← availabilityOf_unplaced ts', unplaced]
  exact ⟨rfl, rfl⟩

end ViewModifiers.Interface
