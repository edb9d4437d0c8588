import Mathlib.Data.List.Induction
import ViewModifiers.Source.Position
import ViewModifiers.Text.Split

/-!
# Positions of offsets

A position denotes an offset of a text: its line tells how many line ends stand before the offset,
and its column how far the last of them is away. Reading a text from its start moves over these
positions (`after_start`), and each of them lies on a line of the text, at most one column behind
its end (`exists_line`).
-/

namespace ViewModifiers.Source.Position

open Text

/-- The line ends in a text. -/
def lineEnds (cs : List Char) : Nat := cs.count '\n'

/-- The characters of a text behind its last line end. -/
def lastLine (cs : List Char) : List Char := (cs.reverse.takeWhile (· ≠ '\n')).reverse

/-- The position of an offset in a text. -/
def ofOffset (cs : List Char) (n : Nat) : Position :=
  ⟨1 + lineEnds (cs.take n), 1 + (lastLine (cs.take n)).length⟩

theorem lineEnds_append (cs ds : List Char) : lineEnds (cs ++ ds) = lineEnds cs + lineEnds ds :=
  List.count_append

theorem lineEnds_single {c : Char} (other : c ≠ '\n') : lineEnds [c] = 0 :=
  List.count_eq_zero.2 (by simpa using Ne.symm other)

theorem lastLine_newline (cs : List Char) : lastLine (cs ++ ['\n']) = [] := by
  unfold lastLine
  rw [List.reverse_append, List.reverse_singleton, List.singleton_append,
    List.takeWhile_cons_of_neg (by simp), List.reverse_nil]

theorem lastLine_concat {c : Char} (other : c ≠ '\n') (cs : List Char) :
    lastLine (cs ++ [c]) = lastLine cs ++ [c] := by
  unfold lastLine
  rw [List.reverse_append, List.reverse_singleton, List.singleton_append,
    List.takeWhile_cons_of_pos (by simpa using other), List.reverse_cons]

/-- A text is read from its start to the position of its end. -/
theorem after_start (cs : List Char) :
    start.after cs = ⟨1 + lineEnds cs, 1 + (lastLine cs).length⟩ := by
  induction cs using List.reverseRecOn with
  | nil => rfl
  | append_singleton cs c ih =>
    rw [after_append, ih, after_cons, after_nil, next, lineEnds_append]
    by_cases newline : c = '\n'
    · subst newline
      rw [if_pos rfl, lastLine_newline]
      rfl
    · rw [if_neg newline, lastLine_concat newline, List.length_append]
      rw [lineEnds_single newline]
      rfl

theorem ofOffset_eq (cs : List Char) (n : Nat) : ofOffset cs n = start.after (cs.take n) :=
  (after_start _).symm

/-- Behind the end of a text there are no more positions. -/
theorem ofOffset_min (cs : List Char) (n : Nat) :
    ofOffset cs (min n cs.length) = ofOffset cs n := by
  rw [ofOffset, ofOffset, ← List.take_take, List.take_length]

theorem ofOffset_add (cs : List Char) (n m : Nat) :
    ofOffset cs (n + m) = (ofOffset cs n).after ((cs.drop n).take m) := by
  rw [ofOffset_eq, ofOffset_eq, List.take_add, after_append]

/-- A position of a text: it denotes an offset of it, which is its end at most. -/
def LiesIn (cs : List Char) (p : Position) : Prop := ∃ n ≤ cs.length, p = ofOffset cs n

theorem liesIn_ofOffset (cs : List Char) (n : Nat) : (ofOffset cs n).LiesIn cs :=
  ⟨min n cs.length, Nat.min_le_right _ _, (ofOffset_min cs n).symm⟩

/-! ## Lines -/

/-- The line that is being read is cut in two: one part of it has been read, and the lines before it
are those that have ended. -/
theorem exists_pieces (cs ds : List Char) {first : List Char} {behind : List (List Char)}
    (later : pieces '\n' ds = first :: behind) :
    ∃ before, before.length = lineEnds cs ∧
      pieces '\n' (cs ++ ds) = before ++ (lastLine cs ++ first) :: behind := by
  induction cs using List.reverseRecOn generalizing ds first behind with
  | nil => exact ⟨[], rfl, later⟩
  | append_singleton cs c ih =>
    rw [List.append_assoc, List.singleton_append, lineEnds_append]
    by_cases newline : c = '\n'
    · subst newline
      have cut : pieces '\n' ('\n' :: ds) = [] :: first :: behind := by
        rw [pieces_cons, later, cutBefore, if_pos rfl]
      obtain ⟨before, count, split⟩ := ih ('\n' :: ds) cut
      refine ⟨before ++ [lastLine cs], ?_, ?_⟩
      · rw [List.length_append, count]
        rfl
      · rw [split, lastLine_newline, List.append_nil, List.append_assoc]
        rfl
    · have cut : pieces '\n' (c :: ds) = (c :: first) :: behind := by
        rw [pieces_cons, later, cutBefore, if_neg newline]
      obtain ⟨before, count, split⟩ := ih (c :: ds) cut
      have none : lineEnds [c] = 0 := lineEnds_single newline
      refine ⟨before, ?_, ?_⟩
      · rw [count, none, Nat.add_zero]
      · rw [split, lastLine_concat newline, List.append_assoc]
        rfl

/-- The line of an offset: the lines before it are counted by its line, and its column is at most
one behind its end. -/
theorem exists_line (cs : List Char) (n : Nat) :
    ∃ before line behind, pieces '\n' cs = before ++ line :: behind ∧
      before.length + 1 = (ofOffset cs n).line ∧ (ofOffset cs n).column ≤ line.length + 1 := by
  obtain ⟨first, behind, later⟩ := List.exists_cons_of_ne_nil (pieces_ne_nil '\n' (cs.drop n))
  obtain ⟨before, count, split⟩ := exists_pieces (cs.take n) (cs.drop n) later
  rw [List.take_append_drop] at split
  refine ⟨before, lastLine (cs.take n) ++ first, behind, split, ?_, ?_⟩
  · rw [count, Nat.add_comm]
    rfl
  · show 1 + (lastLine (cs.take n)).length ≤ _
    rw [List.length_append]
    omega

end ViewModifiers.Source.Position
