/-!
# Binary floating-point numbers taken apart

A finite number of 64 bits stands for `significand · 2 ^ exponent`. The decimal writers work on
these two whole numbers in exact arithmetic.
-/
namespace ServiceHealth.Decimal

/-- A value `significand · 2 ^ exponent`. -/
structure Binary where
  significand : Nat
  exponent : Int
  deriving DecidableEq, Repr

/-- The magnitude of a finite number; its sign is dropped. -/
def Binary.ofFloat (x : Float) : Binary :=
  let bits := x.toBits.toNat
  let fraction : Nat := bits % Nat.pow 2 52
  let field : Nat := bits / Nat.pow 2 52 % Nat.pow 2 11
  if field = 0 then ⟨fraction, -1074⟩ else ⟨Nat.pow 2 52 + fraction, (field : Int) - 1075⟩

/-- The neighbour below is half as far away as the one above, because the number is a power of
two and not the smallest of its kind. -/
def Binary.isNarrowBelow (b : Binary) : Bool :=
  b.significand = Nat.pow 2 52 && b.exponent > -1074

/-- The sign bit is set. -/
def isNegative (x : Float) : Bool :=
  x.toBits.toNat / Nat.pow 2 63 = 1

/-- A decimal number `digits · 10 ^ exponent`. -/
structure Digits where
  digits : List Char
  exponent : Int
  deriving DecidableEq, Repr

/-- The position of the decimal point, counted from the first digit. -/
def Digits.point (d : Digits) : Int :=
  d.exponent + d.digits.length

/-- The digits with the point after the first `n` of them, both sides filled with zeros so that
at least one digit stands before and after the point. -/
def Digits.positional (d : Digits) : List Char :=
  let n := d.point
  if n ≤ 0 then '0' :: '.' :: List.replicate (-n).toNat '0' ++ d.digits
  else if n < d.digits.length then
    d.digits.take n.toNat ++ '.' :: d.digits.drop n.toNat
  else d.digits ++ List.replicate d.exponent.toNat '0' ++ ['.', '0']

/-- The digits with the point after the first; a single digit has none. -/
def Digits.scientific (d : Digits) : List Char :=
  match d.digits with
  | [] => []
  | [c] => [c]
  | c :: rest => c :: '.' :: rest

end ServiceHealth.Decimal
