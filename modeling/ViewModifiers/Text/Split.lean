/-!
# Cutting and joining texts

Texts are cut as lists of characters. `pieces` never returns the empty list: a text without the
separator is one piece, and joining the pieces gives the text back.
-/

namespace ViewModifiers.Text

/-- Puts a character in front of the first piece, or ends that piece at a separator. -/
def cutBefore (sep c : Char) : List (List Char) → List (List Char)
  | [] => if c = sep then [[], []] else [[c]]
  | piece :: rest => if c = sep then [] :: piece :: rest else (c :: piece) :: rest

/-- The pieces of a text between the occurrences of a separator. -/
def pieces (sep : Char) (cs : List Char) : List (List Char) :=
  cs.foldr (cutBefore sep) [[]]

@[simp] theorem pieces_nil (sep : Char) : pieces sep [] = [[]] := rfl

theorem pieces_cons (sep c : Char) (cs : List Char) :
    pieces sep (c :: cs) = cutBefore sep c (pieces sep cs) := rfl

theorem pieces_ne_nil (sep : Char) (cs : List Char) : pieces sep cs ≠ [] := by
  cases cs with
  | nil => simp
  | cons c cs =>
    rw [pieces_cons]
    cases pieces sep cs <;> simp only [cutBefore] <;> split <;> simp

/-- A text without the separator is one piece. -/
theorem pieces_of_not_mem {sep : Char} {cs : List Char} (absent : sep ∉ cs) :
    pieces sep cs = [cs] := by
  induction cs with
  | nil => rfl
  | cons c cs ih =>
    have other : c ≠ sep := fun same => absent (same ▸ List.mem_cons_self)
    have later := ih fun there => absent (List.mem_cons_of_mem c there)
    rw [pieces_cons, later, cutBefore, if_neg other]

/-- What stands in a text is a separator, or stands in one of the pieces. -/
theorem exists_mem_pieces (sep : Char) {c : Char} {cs : List Char} (there : c ∈ cs) :
    c = sep ∨ ∃ piece ∈ pieces sep cs, c ∈ piece := by
  induction cs with
  | nil => cases there
  | cons d cs ih =>
    rw [pieces_cons]
    obtain ⟨first, rest, split⟩ := List.exists_cons_of_ne_nil (pieces_ne_nil sep cs)
    rw [split] at ih ⊢
    rw [cutBefore]
    by_cases cut : d = sep
    · rw [if_pos cut]
      rcases List.mem_cons.1 there with rfl | later
      · exact .inl cut
      · exact (ih later).imp_right fun ⟨piece, listed, within⟩ =>
          ⟨piece, List.mem_cons_of_mem [] listed, within⟩
    · rw [if_neg cut]
      rcases List.mem_cons.1 there with rfl | later
      · exact .inr ⟨c :: first, List.mem_cons_self, List.mem_cons_self⟩
      · rcases ih later with same | ⟨piece, listed, within⟩
        · exact .inl same
        · rcases List.mem_cons.1 listed with rfl | listed
          · exact .inr ⟨d :: piece, List.mem_cons_self, List.mem_cons_of_mem d within⟩
          · exact .inr ⟨piece, List.mem_cons_of_mem _ listed, within⟩

/-- The pieces of a string between the occurrences of a separator. -/
def fields (sep : Char) (s : String) : List String :=
  (pieces sep s.toList).map String.ofList

/-- Strings with a text between each two. -/
def joinWith (between : String) : List String → String
  | [] => ""
  | [s] => s
  | s :: t :: rest => s ++ between ++ joinWith between (t :: rest)

/-- What follows the last separator, or the whole string if it has none. -/
def lastField (sep : Char) (s : String) : String :=
  (fields sep s).getLastD s

theorem lastField_of_not_mem {sep : Char} {s : String} (absent : sep ∉ s.toList) :
    lastField sep s = s := by
  rw [lastField, fields, pieces_of_not_mem absent, List.map_singleton, String.ofList_toList]
  rfl

/-- How many characters stand before the first occurrence of a pattern. -/
def distanceTo (pattern : List Char) : List Char → Option Nat
  | [] => if pattern.isEmpty then some 0 else none
  | c :: cs =>
    if pattern.isPrefixOf (c :: cs) then some 0 else (distanceTo pattern cs).map (· + 1)

/-- A text without the given character at its two ends. -/
def trimChar (c : Char) (cs : List Char) : List Char :=
  ((cs.dropWhile (· == c)).reverse.dropWhile (· == c)).reverse

/-- A string with every occurrence of a character replaced by a text. -/
def replaceChar (c : Char) (by_ : String) (s : String) : String :=
  String.join (s.toList.map fun d => if d = c then by_ else String.singleton d)

end ViewModifiers.Text
