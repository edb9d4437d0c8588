import Mathlib.Algebra.Group.Nat.Defs
import Mathlib.Data.List.TakeWhile
import ViewModifiers.Numeral.Decimal

/-!
# Numbers that consist of digits

A run of digits is a double however long it is, but a whole number only up to a limit.
-/

namespace ViewModifiers.Numeral

open Text

/-- A run of the digits from zero to nine. -/
def AllDigits (cs : List Char) : Prop := ∀ c ∈ cs, 48 ≤ c.toNat ∧ c.toNat ≤ 57

variable {c : Char} {cs : List Char}

theorem AllDigits.head (digits : AllDigits (c :: cs)) : 48 ≤ c.toNat ∧ c.toNat ≤ 57 :=
  digits c List.mem_cons_self

theorem AllDigits.tail (digits : AllDigits (c :: cs)) : AllDigits cs :=
  fun d there => digits d (List.mem_cons_of_mem c there)

theorem digitValue?_of_bounds (h : 48 ≤ c.toNat ∧ c.toNat ≤ 57) :
    digitValue? c = some (c.toNat - 48) := by
  rw [digitValue?, decimalZeros, digitValueFrom, if_neg (by omega), if_pos (by omega)]

theorem isDecimal_of_bounds (h : 48 ≤ c.toNat ∧ c.toNat ≤ 57) : isDecimal c = true := by
  rw [isDecimal, digitValue?_of_bounds h]
  rfl

theorem isDigit_of_bounds (h : 48 ≤ c.toNat ∧ c.toNat ≤ 57) : isDigit c = true := by
  rw [isDigit, isDecimal_of_bounds h]
  rfl

theorem isBlank_of_bounds (h : 48 ≤ c.toNat ∧ c.toNat ≤ 57) : isBlank c = false := by
  obtain ⟨low, high⟩ := h
  simp [isBlank, Ranges.contains, blankRanges]
  omega

theorem isPadding_of_bounds (h : 48 ≤ c.toNat ∧ c.toNat ≤ 57) : isPadding c = false := by
  rw [isPadding, isBlank_of_bounds h]
  rfl

theorem ne_of_bounds (h : 48 ≤ c.toNat ∧ c.toNat ≤ 57) : c ≠ '-' ∧ c ≠ '+' ∧ c ≠ '_' := by
  refine ⟨?_, ?_, ?_⟩
  · rintro rfl
    exact absurd h.1 (by decide)
  · rintro rfl
    exact absurd h.1 (by decide)
  · rintro rfl
    exact absurd h.2 (by decide)

/-! ## Whole numbers -/

theorem digitsFrom_of_digits (digits : AllDigits cs) (n : Nat) :
    digitsFrom n cs = some (Nat.ofDigitChars 10 cs n) := by
  induction cs generalizing n with
  | nil => rw [digitsFrom, Nat.ofDigitChars_nil]
  | cons c cs ih =>
    rw [digitsFrom, digitValue?_of_bounds digits.head, Nat.ofDigitChars_cons]
    exact ih digits.tail (10 * n + (c.toNat - 48))

theorem withoutUnderscores_of_digits (digits : AllDigits cs) :
    withoutUnderscores cs = some cs := by
  fun_induction withoutUnderscores cs with
  | case1 => rfl
  | case2 => exact absurd rfl (ne_of_bounds digits.head).2.2
  | case3 => rfl
  | case4 => exact absurd rfl (ne_of_bounds digits.tail.head).2.2
  | case5 => exact absurd rfl (ne_of_bounds digits.tail.head).2.2
  | case6 c d cs _ _ ih => rw [ih digits.tail]; rfl

theorem dropWhile_isPadding_of_digits (digits : AllDigits cs) : cs.dropWhile isPadding = cs := by
  cases cs with
  | nil => rfl
  | cons c cs => rw [List.dropWhile_cons_of_neg (by simp [isPadding_of_bounds digits.head])]

theorem trimPadding_of_digits (digits : AllDigits cs) : trimPadding cs = cs := by
  have reversed : AllDigits cs.reverse := fun c there => digits c (List.mem_reverse.1 there)
  rw [trimPadding, dropWhile_isPadding_of_digits digits, dropWhile_isPadding_of_digits reversed,
    List.reverse_reverse]

theorem trimPadding_of_minus (digits : AllDigits cs) (nonempty : cs ≠ []) :
    trimPadding ('-' :: cs) = '-' :: cs := by
  have last : ∃ d ds, cs.reverse = d :: ds :=
    List.exists_cons_of_ne_nil (List.reverse_ne_nil_iff.2 nonempty)
  obtain ⟨d, ds, reversed⟩ := last
  have isDigit : isPadding d = false :=
    isPadding_of_bounds (digits d (List.mem_reverse.1 (reversed ▸ List.mem_cons_self)))
  rw [trimPadding, List.dropWhile_cons_of_neg (by decide), List.reverse_cons, reversed,
    List.cons_append, List.dropWhile_cons_of_neg (by simp [isDigit]), ← List.cons_append,
    ← reversed, ← List.reverse_cons, List.reverse_reverse]

theorem readNatural?_of_digits (digits : AllDigits cs) (nonempty : cs ≠ []) :
    readNatural? cs =
      if cs.length ≤ digitLimit then some (Nat.ofDigitChars 10 cs 0) else none := by
  have notEmpty : cs.isEmpty = false := List.isEmpty_eq_false_iff.2 nonempty
  rw [readNatural?, digitsFrom_of_digits digits, notEmpty, Bool.false_or]
  by_cases short : cs.length ≤ digitLimit
  · rw [if_neg (by simpa using short), if_pos short]
  · rw [if_pos (by simpa using short), if_neg short]

theorem readMagnitude?_of_digits (digits : AllDigits cs) (nonempty : cs ≠ []) :
    readMagnitude? cs =
      if cs.length ≤ digitLimit then some (Nat.ofDigitChars 10 cs 0) else none := by
  rw [← readNatural?_of_digits digits nonempty, readMagnitude?,
    withoutUnderscores_of_digits digits]
  rfl

theorem readInteger?_of_digits (digits : AllDigits cs) :
    readInteger? cs = (readMagnitude? cs).map fun n : Nat => (n : Int) := by
  rw [readInteger?, trimPadding_of_digits digits]
  split
  · exact absurd rfl (ne_of_bounds digits.head).1
  · exact absurd rfl (ne_of_bounds digits.head).2.1
  · cases readMagnitude? cs <;> rfl

/-- A run of digits is a whole number exactly up to the limit. -/
theorem readInteger?_isSome_iff (digits : AllDigits cs) (nonempty : cs ≠ []) :
    (readInteger? cs).isSome = true ↔ cs.length ≤ digitLimit := by
  rw [readInteger?_of_digits digits, readMagnitude?_of_digits digits nonempty]
  split <;> simp_all

/-! ## Whole numbers that were written out -/

theorem allDigits_toDigits (n : Nat) : AllDigits (Nat.toDigits 10 n) := by
  intro c there
  have isDigit := Nat.isDigit_of_mem_toDigits (by decide) (by decide) there
  rw [Char.isDigit, Bool.and_eq_true, decide_eq_true_eq, decide_eq_true_eq] at isDigit
  exact isDigit

/-- A whole number is written with the digits of its magnitude, behind a sign if it is negative. -/
theorem toList_toString (n : Int) :
    (toString n).toList =
      if 0 ≤ n then Nat.toDigits 10 n.natAbs else '-' :: Nat.toDigits 10 n.natAbs := by
  rw [Int.toString_eq_repr, Int.repr_eq_if]
  by_cases sign : 0 ≤ n
  · have magnitude : n.toNat = n.natAbs := by omega
    rw [if_pos sign, if_pos sign, magnitude, Nat.repr_eq_ofList_toDigits, String.toList_ofList]
  · have magnitude : (-n).toNat = n.natAbs := by omega
    rw [if_neg sign, if_neg sign, magnitude, Nat.repr_eq_ofList_toDigits, String.toList_append,
      String.toList_ofList (l := Nat.toDigits 10 n.natAbs)]
    rfl

/-- A whole number that was written out is read again, unless it has too many digits. -/
theorem readInteger?_toString (n : Int) :
    readInteger? (toString n).toList = if n.natAbs < 10 ^ digitLimit then some n else none := by
  have digits := allDigits_toDigits n.natAbs
  have nonempty : Nat.toDigits 10 n.natAbs ≠ [] := Nat.toDigits_ne_nil
  have short : (Nat.toDigits 10 n.natAbs).length ≤ digitLimit ↔ n.natAbs < 10 ^ digitLimit :=
    Nat.length_toDigits_le_iff (by decide) (by decide)
  have magnitude := readMagnitude?_of_digits digits nonempty
  rw [Nat.ofDigitChars_ten_toDigits] at magnitude
  simp only [short] at magnitude
  rw [toList_toString]
  by_cases sign : 0 ≤ n
  · rw [if_pos sign, readInteger?_of_digits digits, magnitude]
    split
    · rw [Option.map_some, Int.natAbs_of_nonneg sign]
    · rfl
  · rw [if_neg sign, readInteger?, trimPadding_of_minus digits nonempty]
    change (readMagnitude? (Nat.toDigits 10 n.natAbs) >>= fun m => pure (m : Int)).map (-·) = _
    rw [magnitude]
    split
    · have negative : -(n.natAbs : Int) = n := by omega
      exact congrArg some negative
    · rfl

/-! ## Doubles -/

theorem ofChars_of_digits (digits : AllDigits cs) :
    DecimalParts.ofChars cs = ⟨false, cs, [], []⟩ := by
  have decimal : ∀ c ∈ cs, isDecimal c = true := fun c there =>
    isDecimal_of_bounds (digits c there)
  have whole : cs.takeWhile isDecimal = cs := List.takeWhile_eq_self_iff.2 decimal
  have nothing : cs.dropWhile isDecimal = [] := List.dropWhile_eq_nil_iff.2 decimal
  have unsigned : cs.head? ≠ some '-' := by
    cases cs with
    | nil => decide
    | cons c cs => simpa using (ne_of_bounds digits.head).1
  simp [DecimalParts.ofChars, unsigned, whole, nothing]

/-- A run of digits is a double, however long it is. -/
theorem readDecimal?_isSome (digits : AllDigits cs) (nonempty : cs ≠ []) :
    (readDecimal? cs).isSome = true := by
  have mantissa : readDigits? (cs ++ []) = some (Nat.ofDigitChars 10 cs 0) := by
    rw [List.append_nil, readDigits?, if_neg (by simpa using nonempty),
      digitsFrom_of_digits digits]
  rw [readDecimal?, ofChars_of_digits digits]
  simp only [mantissa, readExponent?]
  rfl

end ViewModifiers.Numeral
