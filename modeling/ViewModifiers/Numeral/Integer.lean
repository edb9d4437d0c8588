import ViewModifiers.Text.Blank
import ViewModifiers.Text.Digit

/-!
# Reading integers

An integer is written with decimal digits of any scripts, a sign in front and single underscores
between digits; blanks around it do not count. A text of more than 4300 digits is refused, and so
is a digit without a place value.
-/

namespace ViewModifiers.Numeral

open Text

/-- The longest run of digits that is converted. -/
def digitLimit : Nat := 4300

/-- The value of digits behind a number that has been read already. -/
def digitsFrom : Nat → List Char → Option Nat
  | n, [] => some n
  | n, c :: cs =>
    match digitValue? c with
    | none => none
    | some d => digitsFrom (10 * n + d) cs

/-- The number written by a run of decimal digits. -/
def readNatural? (cs : List Char) : Option Nat :=
  if cs.isEmpty || digitLimit < cs.length then none else digitsFrom 0 cs

/-- The digits of a text in which underscores stand singly between digits. -/
def withoutUnderscores : List Char → Option (List Char)
  | [] => some []
  | '_' :: _ => none
  | [c] => some [c]
  | c :: '_' :: d :: cs =>
    if d = '_' then none else (withoutUnderscores (d :: cs)).map (c :: ·)
  | c :: d :: cs => (withoutUnderscores (d :: cs)).map (c :: ·)

/-- The blanks around an integer: all but the information separators. -/
def isPadding (c : Char) : Bool := isBlank c && !(0x1C ≤ c.toNat && c.toNat ≤ 0x1F)

/-- The text without padding at its two ends. -/
def trimPadding (cs : List Char) : List Char :=
  ((cs.dropWhile isPadding).reverse.dropWhile isPadding).reverse

/-- The number written by digits with underscores between them. -/
def readMagnitude? (cs : List Char) : Option Nat := withoutUnderscores cs >>= readNatural?

/-- The integer written by a text. -/
def readInteger? (cs : List Char) : Option Int :=
  match trimPadding cs with
  | '-' :: ds => (readMagnitude? ds).map fun n => -(n : Int)
  | '+' :: ds => (readMagnitude? ds).map fun n => (n : Int)
  | ds => (readMagnitude? ds).map fun n => (n : Int)

end ViewModifiers.Numeral
