import ServiceHealth.Decimal.Scaled
import ServiceHealth.Decimal.Shortest

/-!
# Written floating-point numbers

Two written forms. Messages about wrong input show a number with its shortest digits, positional
up to sixteen digits before the point, and with an exponent that has a sign. Metric samples use
the scaled digits, positional up to twenty-one digits before the point, and an exponent with a
sign only below zero. Both forms tell a floating-point number from a whole one by a point or an
exponent.
-/
namespace ServiceHealth.Decimal

/-- Puts a minus before the text of a number whose sign bit is set. -/
def signed (x : Float) (magnitude : List Char) : String :=
  String.ofList (if isNegative x then '-' :: magnitude else magnitude)

def signedExponent (e : Int) : List Char :=
  (if e < 0 then '-' else '+') :: Nat.toDigits 10 e.natAbs

/-- A number as messages show it. -/
def messageText (x : Float) : String :=
  signed x <|
    if x == 0.0 then "0.0".toList
    else
      let d := (Binary.ofFloat x).shortest
      let e := d.point - 1
      if -5 ≤ e ∧ e ≤ 15 then d.positional
      else d.scientific ++ 'e' :: signedExponent e

/-- A number as metric samples show it. -/
def sampleText (x : Float) : String :=
  signed x <|
    if x == 0.0 then "0.0".toList
    else
      let d := (Binary.ofFloat x).scaledDigits
      let n := d.point
      if -6 < n ∧ n ≤ 21 then d.positional
      else d.scientific ++ 'e' :: (toString (n - 1)).toList

end ServiceHealth.Decimal
