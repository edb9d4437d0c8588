/-!
# Reading and taking apart floating-point numbers

Doubles are read from decimals with correct rounding. `Finite` is a double as a whole number of
units of a power of two, which is what exact comparisons need.
-/

namespace ViewModifiers.Numeral

/-- How many decimal digits a number has. -/
def digitCount (n : Nat) : Nat := (Nat.toDigits 10 n).length

/-- The decimal exponents beyond which every number is infinite, or rounds to zero. -/
def exponentLimit : Int := 400

/-- The double nearest to `mantissa * 10 ^ exponent`. -/
def nearest (mantissa : Nat) (exponent : Int) : Float :=
  if mantissa = 0 then 0
  else
    let magnitude := exponent + digitCount mantissa
    if magnitude > exponentLimit then 1.0 / 0.0
    else if magnitude < -exponentLimit then 0
    else if exponent < 0 then Float.ofScientific mantissa true exponent.natAbs
    else Float.ofScientific mantissa false exponent.natAbs

/-- The double nearest to a signed decimal. -/
def signedNearest (negative : Bool) (mantissa : Nat) (exponent : Int) : Float :=
  if negative then -(nearest mantissa exponent) else nearest mantissa exponent

/-- A finite double: `significand * 2 ^ exponent`, with its sign. -/
structure Finite where
  negative : Bool
  significand : Nat
  exponent : Int
  /-- Whether the next smaller double is only half as far away as the next larger one. -/
  isPowerOfTwo : Bool
  deriving DecidableEq, Repr

/-- The kinds of doubles. -/
inductive Parts
  | finite (x : Finite)
  | infinite (negative : Bool)
  | notANumber
  deriving DecidableEq, Repr

/-- Takes apart the bits of a double. -/
def partsOfBits (bits : Nat) : Parts :=
  let negative := decide (bits / Nat.pow 2 63 % 2 = 1)
  let biased : Nat := bits / Nat.pow 2 52 % Nat.pow 2 11
  let fraction := bits % Nat.pow 2 52
  if biased = 2047 then if fraction = 0 then .infinite negative else .notANumber
  else if biased = 0 then .finite ⟨negative, fraction, -1074, false⟩
  else
    let isPowerOfTwo := decide (fraction = 0 ∧ biased > 1)
    .finite ⟨negative, fraction + Nat.pow 2 52, (biased : Int) - 1075, isPowerOfTwo⟩

/-- Takes apart a double. -/
def partsOf (x : Float) : Parts := partsOfBits x.toBits.toNat

end ViewModifiers.Numeral
