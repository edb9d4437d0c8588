import ViewModifiers.Numeral.Binary64

/-!
# The shortest decimal of a double

A double is shown with the fewest digits that read back as the same double, and of those digits the
nearest ones. Numbers from 0.0001 up to below 10^16 are written positionally.
-/

namespace ViewModifiers.Numeral

/-- A positive rational number. -/
structure Ratio where
  numerator : Nat
  denominator : Nat
  deriving Repr

/-- `n * 2 ^ e`. -/
def Ratio.ofBinary (n : Nat) (e : Int) : Ratio :=
  if e < 0 then ⟨n, Nat.pow 2 e.natAbs⟩ else ⟨n * Nat.pow 2 e.natAbs, 1⟩

/-- A number times a power of ten. -/
def Ratio.scale (r : Ratio) (e : Int) : Ratio :=
  if e < 0 then ⟨r.numerator, r.denominator * Nat.pow 10 e.natAbs⟩
  else ⟨r.numerator * Nat.pow 10 e.natAbs, r.denominator⟩

/-- How many zeros stand between the point and the first digit of a number below one. -/
def leadingZeros : Nat → Nat → Nat → Nat
  | 0, _, _ => 0
  | n + 1, a, b => if a * 10 ≥ b then 0 else leadingZeros n (a * 10) b + 1

/-- The exponent `p` with the number below `10 ^ p` but not below `10 ^ (p - 1)`. -/
def Ratio.decimalPoint (r : Ratio) : Int :=
  let whole := r.numerator / r.denominator
  if whole = 0 then -(leadingZeros 400 r.numerator r.denominator : Int) else digitCount whole

/-- The numbers that round to a double: quarters of its unit in the last place. -/
structure Neighbourhood where
  low : Nat
  value : Nat
  high : Nat
  exponent : Int
  closed : Bool

/-- The numbers that round to a finite double. -/
def Finite.neighbourhood (x : Finite) : Neighbourhood :=
  let m := 4 * x.significand
  ⟨m - (if x.isPowerOfTwo then 1 else 2), m, m + 2, x.exponent - 2, x.significand % 2 = 0⟩

/-- Whether a multiple of `10 ^ unit` rounds to the double. -/
def Neighbourhood.holds (h : Neighbourhood) (multiple : Nat) (unit : Int) : Bool :=
  let low := (Ratio.ofBinary h.low h.exponent).scale (-unit)
  let high := (Ratio.ofBinary h.high h.exponent).scale (-unit)
  if h.closed then
    low.numerator ≤ multiple * low.denominator && multiple * high.denominator ≤ high.numerator
  else low.numerator < multiple * low.denominator && multiple * high.denominator < high.numerator

/-- The multiple of `10 ^ unit` nearest to the double among those that round to it. -/
def Neighbourhood.hit? (h : Neighbourhood) (unit : Int) : Option Nat :=
  let v := (Ratio.ofBinary h.value h.exponent).scale (-unit)
  let below := v.numerator / v.denominator
  let rest := v.numerator % v.denominator
  let first := if 2 * rest < v.denominator ∨ (2 * rest = v.denominator ∧ below % 2 = 0)
    then below else below + 1
  let second := if first = below then below + 1 else below
  if h.holds first unit then some first else if h.holds second unit then some second else none

/-- The shortest digits of a positive double and the place of the decimal point in them, trying
more and more digits. -/
def shortestFrom (h : Neighbourhood) (point : Int) : Nat → Nat → Nat × Int
  | 0, count => ((h.hit? (point - count)).getD 0, point - count)
  | n + 1, count =>
    match h.hit? (point - count) with
    | some digits => (digits, point - count)
    | none => shortestFrom h point n (count + 1)

/-- Digits without trailing zeros, with the unit of their last place. -/
def trimZeros : Nat → Nat → Int → Nat × Int
  | 0, digits, unit => (digits, unit)
  | n + 1, digits, unit =>
    if digits ≠ 0 ∧ digits % 10 = 0 then trimZeros n (digits / 10) (unit + 1) else (digits, unit)

/-- The shortest digits of a nonzero finite double and the unit of their last place. -/
def Finite.shortest (x : Finite) : Nat × Int :=
  let h := x.neighbourhood
  let (digits, unit) :=
    shortestFrom h (Ratio.ofBinary h.value h.exponent).decimalPoint 16 1
  trimZeros 20 digits unit

/-- A run of zeros. -/
def zeros (n : Nat) : String := String.ofList (List.replicate n '0')

/-- An exponent with its sign and at least two digits. -/
def exponentText (e : Int) : String :=
  let digits := toString e.natAbs
  "e" ++ (if e < 0 then "-" else "+") ++ zeros (2 - digits.length) ++ digits

/-- Digits with a decimal point `point` places behind their start. -/
def positional (digits : String) (point : Int) : String :=
  if point ≤ 0 then "0." ++ zeros point.natAbs ++ digits
  else if (digits.length : Int) ≤ point then
    digits ++ zeros (point.toNat - digits.length) ++ ".0"
  else
    let cs := digits.toList
    String.ofList (cs.take point.toNat) ++ "." ++ String.ofList (cs.drop point.toNat)

/-- Digits with one of them before the point, and an exponent. -/
def scientific (digits : String) (exponent : Int) : String :=
  let cs := digits.toList
  let mantissa := if cs.length ≤ 1 then digits
    else String.ofList (cs.take 1) ++ "." ++ String.ofList (cs.drop 1)
  mantissa ++ exponentText exponent

/-- A finite double as text. -/
def Finite.text (x : Finite) : String :=
  let sign := if x.negative then "-" else ""
  if x.significand = 0 then sign ++ "0.0"
  else
    let (digits, unit) := x.shortest
    let shown := toString digits
    let point := unit + shown.length
    sign ++ (if -4 < point ∧ point ≤ 16 then positional shown point
      else scientific shown (point - 1))

end ViewModifiers.Numeral
