import Mathlib.Data.List.DropRight
import ViewModifiers.Text.Blank
import ViewModifiers.Text.Digit
import ViewModifiers.Text.Letter

/-!
# Trimming

Trimming leaves a text alone exactly if no blank stands at its ends, which is so once it is trimmed.
-/

namespace ViewModifiers.Text

variable {cs ds : List Char}

/-- The code points of the blank characters. -/
def blankPoints : List Nat :=
  blankRanges.flatMap fun r => (List.range (r.2 + 1 - r.1)).map (r.1 + ·)

theorem mem_blankPoints {c : Char} (blank : isBlank c = true) : c.toNat ∈ blankPoints := by
  obtain ⟨r, listed, low, high⟩ := Ranges.exists_mem_of_contains blank
  refine List.mem_flatMap.2 ⟨r, listed, List.mem_map.2 ⟨c.toNat - r.1, ?_, by omega⟩⟩
  rw [List.mem_range]
  omega

/-- No blank is a letter. -/
theorem isLetter_of_isBlank {c : Char} (blank : isBlank c = true) : isLetter c = false := by
  have apart : ∀ n ∈ blankPoints, letterRanges.contains n = false := by decide +kernel
  exact apart _ (mem_blankPoints blank)

/-- No blank is a decimal digit. -/
theorem isDecimal_of_isBlank {c : Char} (blank : isBlank c = true) : isDecimal c = false := by
  have apart : ∀ n ∈ blankPoints, (digitValueFrom decimalZeros n).isSome = false := by
    decide +kernel
  exact apart _ (mem_blankPoints blank)

/-- A text that no blank stands in front of. -/
def StartsPlain (cs : List Char) : Prop := ∀ c ∈ cs.head?, isBlank c = false

/-- A text that no blank stands behind. -/
def EndsPlain (cs : List Char) : Prop := ∀ c ∈ cs.getLast?, isBlank c = false

theorem startsPlain_append {cs : List Char} (starts : StartsPlain cs) (nonempty : cs ≠ [])
    (ds : List Char) : StartsPlain (cs ++ ds) := by
  obtain ⟨c, rest, rfl⟩ := List.exists_cons_of_ne_nil nonempty
  exact starts

theorem endsPlain_concat {c : Char} (plain : isBlank c = false) (cs : List Char) :
    EndsPlain (cs ++ [c]) := by
  intro d last
  rw [List.getLast?_concat] at last
  cases last
  exact plain

theorem trimFront_eq_self (starts : StartsPlain cs) : trimFront cs = cs := by
  cases cs with
  | nil => rfl
  | cons c cs => exact List.dropWhile_cons_of_neg (by simp [starts c rfl])

theorem trimFront_blank (cs : List Char) : trimFront (' ' :: cs) = trimFront cs :=
  List.dropWhile_cons_of_pos (by decide)

theorem startsPlain_trimFront (cs : List Char) : StartsPlain (trimFront cs) := by
  intro c first
  have := List.head?_dropWhile_not isBlank cs
  rw [show List.dropWhile isBlank cs = trimFront cs from rfl, first] at this
  simpa using this

theorem EndsPlain.startsPlain_reverse (ends : EndsPlain cs) : StartsPlain cs.reverse := by
  intro c first
  exact ends c (by simpa using first)

theorem trimBlanks_eq_self (starts : StartsPlain cs) (ends : EndsPlain cs) :
    trimBlanks cs = cs := by
  rw [trimBlanks, trimFront_eq_self starts, trimFront_eq_self ends.startsPlain_reverse,
    List.reverse_reverse]

/-- A blank in front of a text does not matter. -/
theorem trimBlanks_blank (cs : List Char) : trimBlanks (' ' :: cs) = trimBlanks cs := by
  rw [trimBlanks, trimFront_blank]
  rfl

theorem startsPlain_trimBlanks (cs : List Char) : StartsPlain (trimBlanks cs) := by
  obtain ⟨rest, split⟩ := List.rdropWhile_prefix isBlank (trimFront cs)
  change trimBlanks cs ++ rest = trimFront cs at split
  intro c first
  apply startsPlain_trimFront cs c
  rw [← split, List.head?_append, first]
  rfl

theorem endsPlain_trimBlanks (cs : List Char) : EndsPlain (trimBlanks cs) := by
  intro c last
  apply startsPlain_trimFront (trimFront cs).reverse c
  simpa [trimBlanks] using last

/-- A trimmed text has no blanks left to trim. -/
theorem trimBlanks_trimBlanks (cs : List Char) : trimBlanks (trimBlanks cs) = trimBlanks cs :=
  trimBlanks_eq_self (startsPlain_trimBlanks cs) (endsPlain_trimBlanks cs)

theorem trimBlanks_sublist (cs : List Char) : (trimBlanks cs).Sublist cs :=
  (List.rdropWhile_prefix isBlank (trimFront cs)).sublist.trans (List.dropWhile_sublist isBlank)

theorem length_trimBlanks_le (cs : List Char) : (trimBlanks cs).length ≤ cs.length :=
  (trimBlanks_sublist cs).length_le

end ViewModifiers.Text
