import ServiceHealth.Json.Basic

/-!
# Written numbers

A numeral has whole digits, perhaps fraction digits and perhaps an exponent. A numeral without
fraction and exponent stands for a whole number as long as 64 bits hold it; the others stand for
the floating-point number that one multiplication or division by a power of ten gives. Only as
many digits as fit into 64 bits take part; further whole digits count as places.
-/
namespace ServiceHealth.Json

/-- The characters of a text; `none` stands for a byte that belongs to no character. -/
abbrev Input := List (Option Char)

def digit? : Option Char → Option Nat
  | some c => if '0' ≤ c ∧ c ≤ '9' then some (c.toNat - '0'.toNat) else none
  | none => none

/-- Takes the digits at the front. -/
def spanDigits : Input → List Nat × Input
  | [] => ([], [])
  | c :: rest =>
      match digit? c with
      | some d =>
          let (digits, rest) := spanDigits rest
          (d :: digits, rest)
      | none => ([], c :: rest)

/-- A power of ten written after an `e`. -/
structure Power where
  negative : Bool
  digits : List Nat

structure Numeral where
  negative : Bool
  whole : List Nat
  fraction : List Nat
  power : Option Power

/-- Reads the fraction digits after a point; without a point there are none. -/
def Numeral.fraction? : Input → Option (List Nat × Input)
  | some '.' :: rest =>
      match spanDigits rest with
      | ([], _) => none
      | found => some found
  | rest => some ([], rest)

def Numeral.powerDigits? (negative : Bool) (s : Input) : Option (Option Power × Input) :=
  match spanDigits s with
  | ([], _) => none
  | (digits, rest) => some (some ⟨negative, digits⟩, rest)

def Numeral.signedPower? : Input → Option (Option Power × Input)
  | some '-' :: rest => powerDigits? true rest
  | some '+' :: rest => powerDigits? false rest
  | rest => powerDigits? false rest

/-- Reads an exponent after an `e`; without one there is none. -/
def Numeral.power? : Input → Option (Option Power × Input)
  | some 'e' :: rest => signedPower? rest
  | some 'E' :: rest => signedPower? rest
  | rest => some (none, rest)

/-- Reads whole digits: a zero only by itself. -/
def Numeral.whole? (s : Input) : Option (List Nat × Input) :=
  match spanDigits s with
  | ([], _) => none
  | (0 :: _ :: _, _) => none
  | found => some found

/-- Reads a numeral whose sign has been read. -/
def Numeral.read? (negative : Bool) (s : Input) : Option (Numeral × Input) := do
  let (whole, s) ← whole? s
  let (fraction, s) ← fraction? s
  let (power, s) ← power? s
  return (⟨negative, whole, fraction, power⟩, s)

/-- A decimal number in the making: significant digits and the place of the last one. -/
structure Scaled where
  significand : Nat
  place : Int

/-- One more digit still fits into 64 bits. -/
def Scaled.fits (a : Scaled) (d : Nat) : Bool :=
  a.significand * 10 + d < Nat.pow 2 64

/-- Takes whole digits. From the first one that does not fit all count as places. -/
def Scaled.takeWhole (a : Scaled) : List Nat → Scaled
  | [] => a
  | d :: rest =>
      if a.fits d then takeWhole ⟨a.significand * 10 + d, a.place⟩ rest
      else ⟨a.significand, a.place + (rest.length + 1)⟩

/-- Takes fraction digits. From the first one that does not fit all are dropped. -/
def Scaled.takeFraction (a : Scaled) : List Nat → Scaled
  | [] => a
  | d :: rest =>
      if a.fits d then takeFraction ⟨a.significand * 10 + d, a.place - 1⟩ rest else a

/-- Divides by powers of ten, the largest of which is `10 ^ 308`. -/
def divideByPower (x : Float) (n : Nat) : Nat → Float
  | 0 => 0.0
  | more + 1 =>
      if n ≤ 308 then x / Float.ofScientific 1 false n
      else if x == 0.0 then x
      else divideByPower (x / Float.ofScientific 1 false 308) (n - 308) more

/-- The floating-point magnitude, unless it is out of range. -/
def Scaled.magnitude? (a : Scaled) : Option Float :=
  let x := a.significand.toUInt64.toFloat
  if a.place < 0 then some (divideByPower x (-a.place).toNat 4)
  else if 308 < a.place then
    if x == 0.0 then some x else none
  else
    let y := x * Float.ofScientific 1 false a.place.toNat
    if y.isInf then none else some y

/-- The exponent, unless it is `Nat.pow 2 31` or more. -/
def Power.magnitude? (p : Power) : Option Nat :=
  let n := p.digits.foldl (fun n d => n * 10 + d) 0
  if n < Nat.pow 2 31 then some n else none

/-- The magnitude that digits and exponent stand for. With an exponent too large to count, zero
stays zero, a large number is out of range and a small one becomes zero. -/
def Scaled.power? (a : Scaled) (p : Power) : Option Float :=
  match p.magnitude? with
  | some n => Scaled.magnitude? ⟨a.significand, if p.negative then a.place - n else a.place + n⟩
  | none => if a.significand = 0 || p.negative then some 0.0 else none

/-- The number that a numeral stands for, unless it is out of range. -/
def Numeral.number? (n : Numeral) : Option Number :=
  let whole := Scaled.takeWhole ⟨0, 0⟩ n.whole
  let all := whole.takeFraction n.fraction
  let real (x : Option Float) : Option Number :=
    x.map fun x => .real (if n.negative then -x else x)
  match n.fraction, n.power with
  | _, some p => real (all.power? p)
  | _ :: _, none => real all.magnitude?
  | [], none =>
      if whole.place ≠ 0 then real whole.magnitude?
      else if !n.negative then some (.natural whole.significand)
      else if whole.significand = 0 || Nat.pow 2 63 < whole.significand then
        real (some whole.significand.toUInt64.toFloat)
      else some (.negative whole.significand)

end ServiceHealth.Json
