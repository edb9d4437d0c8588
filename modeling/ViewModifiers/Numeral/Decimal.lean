import ViewModifiers.Numeral.Binary64
import ViewModifiers.Numeral.Integer

/-!
# Reading decimal numbers

A decimal number has a whole part and may have a sign in front, a fraction and an exponent, all in
digits of any scripts. It is read as the nearest double, however long it is.
-/

namespace ViewModifiers.Numeral

open Text

/-- A number taken apart: what is left of its text is not part of the number. -/
structure DecimalParts where
  negative : Bool
  whole : List Char
  fraction : List Char
  exponent : List Char
  deriving DecidableEq, Repr

/-- The parts of a decimal number; the exponent starts with its letter, or is empty. -/
def DecimalParts.ofChars (cs : List Char) : DecimalParts :=
  let negative := cs.head? = some '-'
  let body := if negative then cs.tail else cs
  match body.dropWhile isDecimal with
  | '.' :: ds =>
    ⟨negative, body.takeWhile isDecimal, ds.takeWhile isDecimal, ds.dropWhile isDecimal⟩
  | ds => ⟨negative, body.takeWhile isDecimal, [], ds⟩

/-- The number written by digits, of which there has to be one. -/
def readDigits? (cs : List Char) : Option Nat := if cs.isEmpty then none else digitsFrom 0 cs

/-- The exponent written behind its letter; none at all counts as zero. -/
def readExponent? : List Char → Option Int
  | [] => some 0
  | e :: cs =>
    if e = 'e' || e = 'E' then
      match cs with
      | '-' :: ds => (readDigits? ds).map fun n => -(n : Int)
      | '+' :: ds => (readDigits? ds).map fun n => (n : Int)
      | ds => (readDigits? ds).map fun n => (n : Int)
    else none

/-- The double nearest to the number that a text writes. -/
def readDecimal? (cs : List Char) : Option Float := do
  let parts := DecimalParts.ofChars cs
  let mantissa ← readDigits? (parts.whole ++ parts.fraction)
  let exponent ← readExponent? parts.exponent
  return signedNearest parts.negative mantissa (exponent - parts.fraction.length)

end ViewModifiers.Numeral
