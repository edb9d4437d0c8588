import ViewModifiers.Text.Ranges

/-!
# Digits of all scripts

A decimal digit has a value from 0 to 9 in a positional script; each such script has its ten digits
in a row, so the table lists its zero. Other characters, such as superscripts and circled digits,
count as digits although no number can be read from them.
-/

namespace ViewModifiers.Text

/-- The zeros of the decimal scripts of Unicode 14, in increasing order. -/
def decimalZeros : List Nat :=
  [48, 1632, 1776, 1984, 2406, 2534, 2662, 2790, 2918, 3046, 3174, 3302, 3430, 3558, 3664, 3792,
    3872, 4160, 4240, 6112, 6160, 6470, 6608, 6784, 6800, 6992, 7088, 7232, 7248, 42528, 43216,
    43264, 43472, 43504, 43600, 44016, 65296, 66720, 68912, 69734, 69872, 69942, 70096, 70384,
    70736, 70864, 71248, 71360, 71472, 71904, 72016, 72784, 73040, 73120, 92768, 92864, 93008,
    120782, 120792, 120802, 120812, 120822, 123200, 123632, 125264, 130032]

/-- The digits that belong to no positional script. -/
def loneDigitRanges : Ranges :=
  [(178, 179), (185, 185), (4969, 4977), (6618, 6618), (8304, 8304), (8308, 8313), (8320, 8329),
    (9312, 9320), (9332, 9340), (9352, 9360), (9450, 9450), (9461, 9469), (9471, 9471),
    (10102, 10110), (10112, 10120), (10122, 10130), (68160, 68163), (69216, 69224),
    (69714, 69722), (127232, 127242)]

/-- The value of a digit in its script, from the scripts' zeros. -/
def digitValueFrom : List Nat → Nat → Option Nat
  | [], _ => none
  | base :: rest, n =>
    if n < base then none else if n < base + 10 then some (n - base) else digitValueFrom rest n

/-- The value of a decimal digit of any script. -/
def digitValue? (c : Char) : Option Nat := digitValueFrom decimalZeros c.toNat

/-- Whether a character is a decimal digit of some script. -/
def isDecimal (c : Char) : Bool := (digitValue? c).isSome

/-- Whether a character counts as a digit, with or without a place value. -/
def isDigit (c : Char) : Bool := isDecimal c || loneDigitRanges.contains c.toNat

theorem digitValueFrom_lt {zeros : List Nat} {n d : Nat} (h : digitValueFrom zeros n = some d) :
    d < 10 := by
  induction zeros with
  | nil => simp [digitValueFrom] at h
  | cons base rest ih =>
    unfold digitValueFrom at h
    split at h
    · simp at h
    · split at h
      · simp only [Option.some.injEq] at h
        omega
      · exact ih h

end ViewModifiers.Text
