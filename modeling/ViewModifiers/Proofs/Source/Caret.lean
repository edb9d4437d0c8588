import Mathlib.Data.List.TakeWhile
import ViewModifiers.Proofs.Source.Excerpt

/-!
# Where the caret stands

An excerpt prints a line of the text behind its number, and the caret line below it has a margin of
its own. Numbers are padded to four places, and the margin is as wide as such a number; so the caret
stands below the character that it means up to line 9999, and to the left of it from there on
(`caret_below_iff`).
-/

namespace ViewModifiers.Source.Excerpt

open Text

/-- The number in front of a printed line, with the bar behind it. -/
def lineNumber (n : Nat) : String := padNumber n ++ " | "

/-- The part of a line of the text that stands in front of an offset. -/
def lineUpTo (text : String) (n : Nat) : String :=
  String.ofList (Position.lastLine (text.toList.take n))

/-- The part of a line of the text from an offset on. -/
def lineFrom (text : String) (n : Nat) : String :=
  String.ofList ((text.toList.drop n).takeWhile (· ≠ '\n'))

/-- The number of characters in front of the caret. -/
def caretColumn (s : String) : Nat := (s.toList.takeWhile (· ≠ '^')).length

/-! ## The two margins -/

/-- A number takes four places, or as many as it has digits. -/
theorem length_padNumber (n : Nat) : (padNumber n).length = max 4 n.repr.length := by
  have digits : n.repr.toList.length = n.repr.length := String.length_toList
  unfold padNumber
  simp only [String.length_ofList, List.length_append, List.length_replicate, digits]
  omega

theorem length_lineNumber (n : Nat) : (lineNumber n).length = max 4 n.repr.length + 3 := by
  have bar : " | ".length = 3 := rfl
  unfold lineNumber
  rw [String.length_append, length_padNumber, bar]

/-- The margin of the caret line takes seven places. -/
theorem caretColumn_caretLine (before : Nat) :
    caretColumn (caretLine (1 + before : Nat)) = 7 + before := by
  have bar : ∀ c ∈ "     | ".toList, decide (c ≠ '^') = true := List.all_eq_true.1 (by decide)
  have margin : ∀ c ∈ "     | ".toList ++ List.replicate before ' ', decide (c ≠ '^') = true := by
    intro c there
    rcases List.mem_append.1 there with inBar | inBlanks
    · exact bar c inBar
    · rw [List.eq_of_mem_replicate inBlanks]
      decide
  have blanks : (((1 + before : Nat) : Int) - 1).toNat = before := by omega
  have line : (caretLine (1 + before : Nat)).toList =
      ("     | ".toList ++ List.replicate before ' ') ++ ['^'] := by
    unfold caretLine
    rw [blanks]
    simp
  unfold caretColumn
  rw [line, List.takeWhile_append_of_pos margin]
  simp
  omega

/-- The margins agree where the number has at most four digits. -/
theorem caretColumn_eq_iff (line : Nat) (before : String) :
    caretColumn (caretLine (1 + before.length : Nat)) = (lineNumber line ++ before).length ↔
      line ≤ 9999 := by
  have digits : line.repr.length ≤ 4 ↔ line < 10000 := Nat.length_repr_le_iff (by decide : 0 < 4)
  rw [caretColumn_caretLine, String.length_append, length_lineNumber]
  omega

/-! ## The line of an offset -/

/-- The first piece of a text goes up to the first separator. -/
theorem takeWhile_of_pieces {sep : Char} {cs first : List Char} {behind : List (List Char)}
    (split : pieces sep cs = first :: behind) : cs.takeWhile (· ≠ sep) = first := by
  induction cs generalizing first behind with
  | nil =>
    cases split
    rfl
  | cons c cs ih =>
    obtain ⟨piece, rest, later⟩ := List.exists_cons_of_ne_nil (pieces_ne_nil sep cs)
    rw [pieces_cons, later, cutBefore] at split
    by_cases cut : c = sep
    · rw [if_pos cut] at split
      cases split
      rw [List.takeWhile_cons_of_neg (by simp [cut])]
    · rw [if_neg cut] at split
      cases split
      rw [List.takeWhile_cons_of_pos (by simp [cut]), ih later]

/-- The line of an offset consists of its two parts, and its number tells how many lines stand in
front of it. -/
theorem exists_fields (text : String) (n : Nat) :
    ∃ front back, fields '\n' text = front ++ (lineUpTo text n ++ lineFrom text n) :: back ∧
      front.length + 1 = (Position.ofOffset text.toList n).line := by
  obtain ⟨first, behind, later⟩ :=
    List.exists_cons_of_ne_nil (pieces_ne_nil '\n' (text.toList.drop n))
  obtain ⟨before, count, split⟩ := Position.exists_pieces (text.toList.take n) _ later
  rw [List.take_append_drop] at split
  refine ⟨before.map String.ofList, behind.map String.ofList, ?_, ?_⟩
  · unfold fields lineUpTo lineFrom
    rw [split, takeWhile_of_pieces later, List.map_append, List.map_cons, String.ofList_append]
  · rw [List.length_map, count, Nat.add_comm]
    rfl

theorem head?_lineFrom {text : String} {n : Nat} {c : Char} (here : text.toList[n]? = some c)
    (inLine : c ≠ '\n') : (lineFrom text n).toList.head? = some c := by
  have next : text.toList.drop n = c :: text.toList.drop (n + 1) :=
    List.drop_eq_getElem?_toList_append ▸ by simp [here]
  unfold lineFrom
  rw [String.toList_ofList, next, List.takeWhile_cons_of_pos (by simpa using inLine)]
  rfl

/-! ## Excerpts -/

section Excerpts

variable {text : String} {n radius : Nat} {p : Position}

/-- The excerpt around an offset prints the line of the offset, with the caret line right below. -/
theorem exists_caretLine (notEmpty : text ≠ "")
    (visible : radius ≠ 0 ∨ lineUpTo text n ++ lineFrom text n ≠ "")
    (denotes : p = .ofOffset text.toList n) (file : String) :
    ∃ above below, (around file p.line p.column text radius).render =
      above ++ (lineNumber p.line ++ lineUpTo text n ++ lineFrom text n) ::
        caretLine p.column :: below := by
  obtain ⟨front, back, lines, number⟩ := exists_fields text n
  have line : p.line = front.length + 1 := by rw [denotes, number]
  have shown := render_around notEmpty visible lines file p.column
  rw [line, shown, String.append_assoc]
  exact ⟨_, _, rfl⟩

/-- **The caret and its line**: the excerpt around an offset prints the line of the offset with the
caret line right below. The caret stands in the column of the character at the offset exactly if the
line number has at most four digits. -/
theorem caret_below_iff (notEmpty : text ≠ "")
    (visible : radius ≠ 0 ∨ lineUpTo text n ++ lineFrom text n ≠ "")
    (denotes : p = .ofOffset text.toList n) (file : String) :
    (∃ above below, (around file p.line p.column text radius).render =
      above ++ (lineNumber p.line ++ lineUpTo text n ++ lineFrom text n) ::
        caretLine p.column :: below) ∧
    (∀ c, text.toList[n]? = some c → c ≠ '\n' → (lineFrom text n).toList.head? = some c) ∧
    (caretColumn (caretLine p.column) = (lineNumber p.line ++ lineUpTo text n).length ↔
      p.line ≤ 9999) := by
  have column : p.column = 1 + (lineUpTo text n).length := by
    unfold lineUpTo
    rw [denotes, String.length_ofList]
    rfl
  constructor
  · exact exists_caretLine notEmpty visible denotes file
  · constructor
    · intro c here inLine
      exact head?_lineFrom here inLine
    · rw [column]
      exact caretColumn_eq_iff p.line (lineUpTo text n)

/-- The caret below the last character of a text of two lines. -/
theorem caret_below_second_line :
    caretColumn (caretLine 3) = (lineNumber 2 ++ lineUpTo "a\nbcd" 4).length :=
  (caret_below_iff (by decide : "a\nbcd" ≠ "") (.inl (by decide : 2 ≠ 0))
    (by decide : (⟨2, 3⟩ : Position) = .ofOffset "a\nbcd".toList 4) "a.swiftinterface").2.2.2
    (by decide)

/-- A text with a single character behind some line ends. -/
def lowText (n : Nat) : String := String.ofList (List.replicate n '\n' ++ ['x'])

theorem ofOffset_lowText (n : Nat) : Position.ofOffset (lowText n).toList n = ⟨1 + n, 1⟩ := by
  have front : (lowText n).toList.take n = List.replicate n '\n' := by
    unfold lowText
    rw [String.toList_ofList, List.take_left' List.length_replicate]
  have noColumn : Position.lastLine (List.replicate n '\n') = [] := by
    cases n with
    | zero => rfl
    | succ n => rw [List.replicate_succ', Position.lastLine_newline]
  have lines : Position.lineEnds (List.replicate n '\n') = n := List.count_replicate_self
  unfold Position.ofOffset
  rw [front, noColumn, lines]
  rfl

theorem lowText_ne_empty (n : Nat) : lowText n ≠ "" := by
  unfold lowText
  simp

/-- On line ten thousand the caret stands in front of its character. -/
theorem caret_left_of_far_character :
    (∃ above below, (around "a.swiftinterface" 10000 1 (lowText 9999) 2).render =
      above ++ (lineNumber 10000 ++ lineUpTo (lowText 9999) 9999 ++ lineFrom (lowText 9999) 9999) ::
        caretLine 1 :: below) ∧
    caretColumn (caretLine 1) < (lineNumber 10000 ++ lineUpTo (lowText 9999) 9999).length := by
  constructor
  · have denotes : (⟨10000, 1⟩ : Position) = .ofOffset (lowText 9999).toList 9999 :=
      (ofOffset_lowText 9999).symm
    exact exists_caretLine (lowText_ne_empty 9999) (.inl (by decide : 2 ≠ 0)) denotes _
  · have number : (lineNumber 10000).length = 8 := by decide
    have caret : caretColumn (caretLine 1) = 7 := caretColumn_caretLine 0
    rw [String.length_append, number, caret]
    omega

end Excerpts

end ViewModifiers.Source.Excerpt
