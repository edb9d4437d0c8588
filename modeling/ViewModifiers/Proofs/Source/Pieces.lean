import ViewModifiers.Source.Position

/-!
# Texts in pieces

A text that is written out consists of pieces. Each piece knows its characters and the tokens that
it stands for, and a scanner ends it where the rest of the text begins (`Spelled.Fits`). Where every
piece of a text fits in front of what stands behind it, the tokens of the text are those of its
pieces at the places that they have.
-/

namespace ViewModifiers.Source

/-- Pieces of texts. -/
class Spelled (α : Type) (τ : outParam Type) where
  /-- The characters of a piece. -/
  spelling : α → List Char
  /-- The tokens of a piece that starts at a position. -/
  tokens : α → Position → List τ
  /-- A scanner ends a piece where a text begins. -/
  Fits : α → List Char → Prop

variable {α τ : Type} [Spelled α τ]

/-- The characters of pieces. -/
def spell (xs : List α) : List Char := xs.flatMap Spelled.spelling

/-- The tokens of pieces that start at a position. -/
def placed : Position → List α → List τ
  | _, [] => []
  | p, x :: xs => Spelled.tokens x p ++ placed (p.after (Spelled.spelling x)) xs

/-- Each piece fits in front of the pieces and the text behind it. -/
def Fitting : List α → List Char → Prop
  | [], _ => True
  | x :: xs, rest => Spelled.Fits x (spell xs ++ rest) ∧ Fitting xs rest

/-- Lists of pieces with some pieces between each two. -/
def joined (between : List α) : List (List α) → List α
  | [] => []
  | [xs] => xs
  | xs :: ys :: rest => xs ++ between ++ joined between (ys :: rest)

variable {rest : List Char} {xs ys between : List α} {items : List (List α)}

@[simp] theorem spell_nil : spell ([] : List α) = [] := rfl

theorem spell_cons (x : α) (xs : List α) : spell (x :: xs) = Spelled.spelling x ++ spell xs :=
  List.flatMap_cons

theorem spell_append (xs ys : List α) : spell (xs ++ ys) = spell xs ++ spell ys :=
  List.flatMap_append

theorem placed_append (p : Position) (xs ys : List α) :
    placed p (xs ++ ys) = placed p xs ++ placed (p.after (spell xs)) ys := by
  induction xs generalizing p with
  | nil => rfl
  | cons x xs ih =>
    rw [List.cons_append, placed, ih, placed, spell_cons, Position.after_append,
      List.append_assoc]

theorem Fitting.append (first : Fitting xs (spell ys ++ rest)) (second : Fitting ys rest) :
    Fitting (xs ++ ys) rest := by
  induction xs with
  | nil => exact second
  | cons x xs ih =>
    obtain ⟨fits, later⟩ := first
    refine ⟨?_, ih later⟩
    change Spelled.Fits x (spell (xs ++ ys) ++ rest)
    rwa [spell_append, List.append_assoc]

theorem fitting_flatMap {β : Type} {f : β → List α} {bs : List β}
    (each : ∀ b ∈ bs, ∀ rest, Fitting (f b) rest) (rest : List Char) :
    Fitting (bs.flatMap f) rest := by
  induction bs with
  | nil => trivial
  | cons b bs ih =>
    rw [List.flatMap_cons]
    refine (each b List.mem_cons_self _).append ?_
    exact ih fun c there => each c (List.mem_cons_of_mem b there)

theorem joined_cons_of_ne_nil (xs : List α) (others : items ≠ []) :
    joined between (xs :: items) = xs ++ between ++ joined between items := by
  obtain ⟨ys, rest, rfl⟩ := List.exists_cons_of_ne_nil others
  rfl

theorem joined_cons (xs : List α) (items : List (List α)) :
    joined between (xs :: items) = xs ++ items.flatMap (between ++ ·) := by
  induction items generalizing xs with
  | nil => simp [joined]
  | cons ys items ih =>
    rw [joined, ih, List.flatMap_cons, List.append_assoc, List.append_assoc]

/-- Each item is part of the items with pieces between them. -/
theorem sublist_joined (there : xs ∈ items) : xs.Sublist (joined between items) := by
  induction items with
  | nil => cases there
  | cons ys items ih =>
    rcases List.mem_cons.1 there with rfl | later
    · rw [joined_cons]
      exact List.sublist_append_left _ _
    · rw [joined_cons_of_ne_nil ys (List.ne_nil_of_mem later)]
      exact (ih later).trans (List.sublist_append_right _ _)

/-- Items fit with pieces between them, if each of them and the pieces between them fit in front of
the texts of a certain sort, and such a text begins behind each of them. -/
theorem fitting_joined {Apart : List Char → Prop}
    (each : ∀ xs ∈ items, ∀ rest, Apart rest → Fitting xs rest)
    (begins : ∀ rest, Apart (spell between ++ rest)) (ends : ∀ rest, Fitting between rest)
    (apart : Apart rest) : Fitting (joined between items) rest := by
  induction items with
  | nil => trivial
  | cons xs items ih =>
    have first := each xs List.mem_cons_self
    have later := ih fun ys there => each ys (List.mem_cons_of_mem xs there)
    cases items with
    | nil => exact first rest apart
    | cons ys items =>
      refine Fitting.append ?_ later
      exact (first _ (begins _)).append (ends _)

end ViewModifiers.Source
