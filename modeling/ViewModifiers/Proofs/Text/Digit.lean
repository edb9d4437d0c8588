import ViewModifiers.Text.Digit
import ViewModifiers.Text.Letter

/-!
# Digits among the word characters

Every character that counts as a digit has a numeric value, so a number begins with a word
character. The tables are compared range by range.
-/

namespace ViewModifiers.Text

/-- Whether the code points between two bounds lie in one of the ranges. -/
def Ranges.covers : Ranges → Nat → Nat → Bool
  | [], _, _ => false
  | (low, high) :: rest, first, last =>
    if first < low then false else last ≤ high || Ranges.covers rest first last

theorem Ranges.contains_of_covers {ranges : Ranges} {first last n : Nat}
    (covered : ranges.covers first last = true) (low : first ≤ n) (high : n ≤ last) :
    ranges.contains n = true := by
  induction ranges with
  | nil => cases covered
  | cons r rest ih =>
    rw [covers] at covered
    split at covered
    · cases covered
    · next above =>
      rw [Bool.or_eq_true, decide_eq_true_eq] at covered
      rw [contains, if_neg (by omega), Bool.or_eq_true, decide_eq_true_eq]
      rcases covered with within | later
      · exact .inl (by omega)
      · exact .inr (ih later)

theorem exists_zero_of_digitValueFrom {zeros : List Nat} {n d : Nat}
    (value : digitValueFrom zeros n = some d) : ∃ base ∈ zeros, base ≤ n ∧ n < base + 10 := by
  induction zeros with
  | nil => cases value
  | cons base rest ih =>
    rw [digitValueFrom] at value
    split at value
    · cases value
    · split at value
      · exact ⟨base, List.mem_cons_self, by omega, by omega⟩
      · obtain ⟨later, there, bounds⟩ := ih value
        exact ⟨later, List.mem_cons_of_mem base there, bounds⟩

/-- Every digit has a numeric value. -/
theorem isAlphanumeric_of_isDigit {c : Char} (digit : isDigit c = true) :
    isAlphanumeric c = true := by
  have decimals : (decimalZeros.all fun base => numericRanges.covers base (base + 9)) = true := by
    decide +kernel
  have lone : (loneDigitRanges.all fun r => numericRanges.covers r.1 r.2) = true := by
    decide +kernel
  have numeric : numericRanges.contains c.toNat = true := by
    rw [isDigit, Bool.or_eq_true] at digit
    rcases digit with decimal | known
    · obtain ⟨d, value⟩ := Option.isSome_iff_exists.1 decimal
      obtain ⟨base, listed, low, high⟩ := exists_zero_of_digitValueFrom value
      exact Ranges.contains_of_covers (List.all_eq_true.1 decimals base listed) low (by omega)
    · obtain ⟨r, listed, low, high⟩ := Ranges.exists_mem_of_contains known
      exact Ranges.contains_of_covers (List.all_eq_true.1 lone r listed) low high
  rw [isAlphanumeric, numeric, Bool.or_true]

end ViewModifiers.Text
