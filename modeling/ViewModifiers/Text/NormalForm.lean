import ViewModifiers.Text.Decomposition

/-!
# The form in which names are compared

Two spellings of an identifier are one name if they have the same compatible form: every character
is replaced by what it stands for, and the marks behind a letter are ordered by their classes. (To
put letters and marks together again afterwards would not tell more names apart.) ASCII characters
stand for nothing else.
-/

namespace ViewModifiers.Text

/-- The letters of a syllable of Hangul: the syllables are numbered by their first consonant, their
vowel and their last consonant, of which the last may be missing. -/
def syllableLetters (index : Nat) : List Char :=
  let first := Char.ofNat (0x1100 + index / 588)
  let vowel := Char.ofNat (0x1161 + index % 588 / 28)
  if index % 28 = 0 then [first, vowel] else [first, vowel, Char.ofNat (0x11A7 + index % 28)]

/-- What a character stands for. -/
def compatible (c : Char) : List Char :=
  if 0xAC00 ≤ c.toNat ∧ c.toNat ≤ 0xD7A3 then syllableLetters (c.toNat - 0xAC00)
  else (compatibles.lookup c).getD [c]

/-- Adds a character to a reversed text: a mark goes in front of the marks of higher classes at the
end of the text. -/
def putMark (c : Char) : List Char → List Char
  | [] => [c]
  | d :: ds =>
    if 0 < markClass c ∧ markClass c < markClass d then d :: putMark c ds else c :: d :: ds

/-- A text whose marks are ordered. -/
def orderMarks (cs : List Char) : List Char := (cs.foldl (fun done c => putMark c done) []).reverse

/-- Whether a text is plain ASCII. -/
def isAscii (s : String) : Bool := s.toList.all fun c => c.toNat < 128

/-- The form of a name in which it is compared with others. -/
def normalForm (s : String) : String :=
  if isAscii s then s else String.ofList (orderMarks (s.toList.flatMap compatible))

theorem normalForm_of_isAscii {s : String} (plain : isAscii s = true) : normalForm s = s := by
  rw [normalForm, if_pos plain]

end ViewModifiers.Text
