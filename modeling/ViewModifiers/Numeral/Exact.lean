import ViewModifiers.Numeral.Binary64

/-!
# Exact values

Whole numbers and doubles are compared by the exact number that they stand for, so that both zeros
are one number and a whole number equals the double of the same value, whatever its size.
-/

namespace ViewModifiers.Numeral

/-- A number by its exact value. -/
inductive Exact
  | finite (value : Dyadic)
  | infinite (negative : Bool)
  deriving DecidableEq

/-- The value of a finite double. -/
def Finite.value (x : Finite) : Dyadic :=
  .ofIntWithPrec (if x.negative then -(x.significand : Int) else x.significand) (-x.exponent)

/-- The value of a whole number. -/
def Exact.ofInt (n : Int) : Exact := .finite (.ofInt n)

/-- The value of a double, if it is a number. -/
def Exact.ofFloat? (x : Float) : Option Exact :=
  match partsOf x with
  | .finite x => some (.finite x.value)
  | .infinite negative => some (.infinite negative)
  | .notANumber => none

end ViewModifiers.Numeral
