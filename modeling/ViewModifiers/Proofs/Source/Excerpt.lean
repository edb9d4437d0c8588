import ViewModifiers.Proofs.Source.Offset
import ViewModifiers.Source.Excerpt

/-!
# What an excerpt shows

The rendering of an excerpt numbers its lines. Where the excerpt is taken around a place of the
text, the line of this place stands in it under its own number, with the caret right below it and
some lines on either side, as many as the radius allows (`render_around`).
-/

namespace ViewModifiers.Source.Excerpt

open Text

/-- A line under its number. -/
def numbered (n : Nat) (l : String) : String := padNumber n ++ " | " ++ l

/-- Lines under their numbers, counted from a number on. -/
def numberedFrom : Nat → List String → List String
  | _, [] => []
  | n, l :: ls => numbered n l :: numberedFrom (n + 1) ls

variable {line : Nat} {column : Int}

/-- Lines behind the one that is meant are only numbered. -/
theorem renderFrom_of_lt {n : Nat} (behind : line < n) (ls : List String) :
    renderFrom line column n ls = numberedFrom n ls := by
  induction ls generalizing n with
  | nil => rfl
  | cons l ls ih =>
    have other : (n : Int) ≠ line := by omega
    rw [renderFrom, if_neg other, ih (Nat.lt_succ_of_lt behind)]
    rfl

/-- The lines in front of the one that is meant are only numbered, and the caret stands below that
one. -/
theorem renderFrom_append {n : Nat} (before : List String) (l : String) (after : List String)
    (here : n + before.length = line) :
    renderFrom line column n (before ++ l :: after) =
      numberedFrom n before ++ numbered line l :: caretLine column ::
        numberedFrom (line + 1) after := by
  induction before generalizing n with
  | nil =>
    obtain rfl : n = line := here
    rw [List.nil_append, renderFrom, if_pos rfl, renderFrom_of_lt (Nat.lt_succ_self n)]
    rfl
  | cons first before ih =>
    have other : (n : Int) ≠ line := by
      rw [List.length_cons] at here
      omega
    have later : n + 1 + before.length = line := by
      rw [List.length_cons] at here
      omega
    rw [List.cons_append, renderFrom, if_neg other, ih later]
    rfl

/-- The lines around one of them, as many as a radius allows. -/
theorem window_around (front : List String) (l : String) (back : List String) (radius : Nat) :
    window (front ++ l :: back) (front.length - radius)
        (min ((front ++ l :: back).length : Int) (front.length + 1 + radius)) =
      front.drop (front.length - radius) ++ l :: back.take radius := by
  have stop : (min ((front ++ l :: back).length : Int) (front.length + 1 + radius)).toNat =
      front.length + (min back.length radius + 1) := by
    rw [List.length_append, List.length_cons]
    omega
  have positive : ¬min ((front ++ l :: back).length : Int) (front.length + 1 + radius) < 0 := by
    omega
  have taken : back.take (min back.length radius) = back.take radius := by
    rw [Nat.min_comm, ← List.take_take, List.take_length]
  unfold window
  simp only [if_neg positive, stop]
  rw [List.take_length_add_append, List.take_succ_cons, taken,
    List.drop_append_of_le_length (Nat.sub_le _ _)]

/-- How a place of a text is shown: its line stands under its own number, the caret right below it,
and no more than some lines stand on either side. The column is at most one behind the end of the
line. -/
def ShowsPlace (text : String) (p : Position) (radius : Nat) (shown : List String) : Prop :=
  ∃ front before l after back,
    fields '\n' text = front ++ before ++ l :: (after ++ back) ∧
    front.length + before.length + 1 = p.line ∧ p.column ≤ l.length + 1 ∧
    before.length ≤ radius ∧ after.length ≤ radius ∧
    shown = numberedFrom (front.length + 1) before ++ numbered p.line l ::
      caretLine p.column :: numberedFrom (p.line + 1) after

/-- Only the empty text is one empty line. -/
theorem eq_nil_of_pieces {cs : List Char} (single : pieces '\n' cs = [[]]) : cs = [] := by
  cases cs with
  | nil => rfl
  | cons c cs =>
    obtain ⟨first, rest, split⟩ := List.exists_cons_of_ne_nil (pieces_ne_nil '\n' cs)
    rw [pieces_cons, split, cutBefore] at single
    split at single <;> cases single

/-- The lines around a line are not a single empty one, unless the whole text is empty or the empty
line stands alone. -/
theorem window_ne_empty {text l : String} {front back : List String} {radius : Nat}
    (notEmpty : text ≠ "") (visible : radius ≠ 0 ∨ l ≠ "")
    (lines : fields '\n' text = front ++ l :: back) :
    front.drop (front.length - radius) ++ l :: back.take radius ≠ [""] := by
  intro single
  have isLine : l ∈ [""] := single ▸ List.mem_append_right _ List.mem_cons_self
  have nonzero : radius ≠ 0 := visible.resolve_right (not_not_intro (List.mem_singleton.1 isLine))
  have lengths := congrArg List.length single
  rw [List.length_append, List.length_drop, List.length_cons, List.length_take,
    List.length_singleton] at lengths
  have noFront : front = [] := List.length_eq_zero_iff.1 (by omega)
  have noBack : back = [] := List.length_eq_zero_iff.1 (by omega)
  subst noFront noBack
  obtain rfl : l = "" := by simpa using single
  obtain ⟨piece, whole, isEmpty⟩ := List.map_eq_singleton_iff.1 lines
  obtain rfl : piece = [] := by simpa using congrArg String.toList isEmpty
  have nothing : text.toList = [] := eq_nil_of_pieces whole
  exact notEmpty (by simpa using nothing)

/-- An excerpt around a line shows this line. -/
theorem render_around {text l : String} {front back : List String} {radius : Nat}
    (notEmpty : text ≠ "") (visible : radius ≠ 0 ∨ l ≠ "")
    (lines : fields '\n' text = front ++ l :: back) (file : String) (column : Int) :
    (around file (front.length + 1 : Nat) column text radius).render =
      numberedFrom (front.length - radius + 1) (front.drop (front.length - radius)) ++
        numbered (front.length + 1) l :: caretLine column ::
        numberedFrom (front.length + 1 + 1) (back.take radius) := by
  have first : (max 1 (((front.length + 1 : Nat) : Int) - radius)).toNat =
      front.length - radius + 1 := by
    omega
  have last : min ((front ++ l :: back).length : Int) (((front.length + 1 : Nat) : Int) + radius) =
      min ((front ++ l :: back).length : Int) (front.length + 1 + radius) :=
    rfl
  have shown : around file (front.length + 1 : Nat) column text radius =
      ⟨file, (front.length + 1 : Nat), column,
        some (front.drop (front.length - radius) ++ l :: back.take radius),
        front.length - radius + 1⟩ := by
    unfold around
    simp only [lines, first, last, Nat.add_sub_cancel, window_around]
  have notSingle := window_ne_empty notEmpty visible lines
  rw [shown, render]
  simp only [if_neg (not_or.2 ⟨List.append_ne_nil_of_right_ne_nil _ (List.cons_ne_nil l _),
    notSingle⟩)]
  apply renderFrom_append
  rw [List.length_drop]
  omega

/-- An excerpt around a place of a text shows this place, if the text is not empty. -/
theorem showsPlace_around {text : String} (notEmpty : text ≠ "") (file : String) (n : Nat)
    {radius : Nat} (nonzero : radius ≠ 0) :
    ShowsPlace text (.ofOffset text.toList n) radius
      (around file (Position.ofOffset text.toList n).line (Position.ofOffset text.toList n).column
        text radius).render := by
  obtain ⟨before, line, behind, split, count, inside⟩ := Position.exists_line text.toList n
  have lines : fields '\n' text =
      before.map String.ofList ++ String.ofList line :: behind.map String.ofList := by
    rw [fields, split, List.map_append, List.map_cons]
  have number : (before.map String.ofList).length + 1 = (Position.ofOffset text.toList n).line := by
    rw [List.length_map, count]
  set front := before.map String.ofList
  set back := behind.map String.ofList
  refine ⟨front.take (front.length - radius), front.drop (front.length - radius),
    String.ofList line, back.take radius, back.drop radius, ?_, ?_, ?_, ?_, ?_, ?_⟩
  · rw [List.take_append_drop, List.take_append_drop, lines]
  · rw [List.length_take, List.length_drop]
    omega
  · rwa [String.length_ofList]
  · rw [List.length_drop]
    omega
  · exact List.length_take_le _ _
  · rw [← number, render_around notEmpty (.inl nonzero) lines, List.length_take,
      Nat.min_eq_left (Nat.sub_le _ _)]

end ViewModifiers.Source.Excerpt
