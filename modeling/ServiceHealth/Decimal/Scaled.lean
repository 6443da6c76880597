import ServiceHealth.Decimal.Binary

/-!
# Short decimal numbers by scaled words

Digits of a positive binary number, found with 64-bit words. The number and the two halves to its
neighbours are scaled by a power of ten, itself rounded to 64 bits, so that the integral part fits
into 32 bits. Digits are drawn from the upper half until the rest is inside the interval. The
interval is narrowed by one unit at each end, which makes up for the rounding; so the result
always reads back, but now and then it is one digit longer than need be.
-/
namespace ServiceHealth.Decimal

/-- Halves of a unit go up when a product is cut to its upper 64 bits. -/
def Binary.mul (a b : Binary) : Binary :=
  ⟨(a.significand * b.significand + Nat.pow 2 63) / Nat.pow 2 64, a.exponent + b.exponent + 64⟩

/-- Shifts the significand to the left until it fills 64 bits. -/
def Binary.fill (b : Binary) : Binary :=
  let shift := 63 - Nat.log2 b.significand
  ⟨b.significand * Nat.pow 2 shift, b.exponent - shift⟩

/-- `num / den` rounded to the nearest whole number, halves up. -/
def roundDiv (num den : Nat) : Nat :=
  (2 * num + den) / (2 * den)

/-- `num / den · 2 ^ -e` rounded. -/
def scaledDiv (num den : Nat) (e : Int) : Nat :=
  roundDiv (num * Nat.pow 2 (-e).toNat) (den * Nat.pow 2 e.toNat)

/-- The power of ten with a significand of 64 bits. -/
def powerOfTen (k : Int) : Binary :=
  let num := Nat.pow 10 k.toNat
  let den := Nat.pow 10 (-k).toNat
  let e : Int := (Nat.log2 num : Int) - Nat.log2 den - 63
  let q := scaledDiv num den e
  if q < Nat.pow 2 63 then ⟨scaledDiv num den (e - 1), e - 1⟩ else ⟨q, e⟩

/-- One of the powers of ten with exponents -348, -340, … 340, the first whose product with a
64-bit number of the given exponent has an integral part of at most 32 bits. -/
def scalingPower (exponent : Int) : Int :=
  let place := Float.ofInt (-61 - exponent) * 0.30102999566398114 + 347.0
  let k := place.ceil.toUInt64.toNat
  (k / 8 + 1 : Nat) * 8 - 348

/-- A candidate for the last digit: digits so far, last one first, and how far the number they
stand for lies below the upper end. -/
structure Candidate where
  digits : List Nat
  rest : Nat

/-- Lowers the last digit as long as that brings the candidate nearer to the value, which lies
`distance` below the upper end, and keeps it within `width`. -/
def Candidate.settle (width place distance : Nat) : Nat → Candidate → Candidate
  | 0, c => c
  | more + 1, c =>
      match c.digits with
      | d :: digits =>
          if c.rest < distance && place ≤ width - c.rest &&
              (c.rest + place < distance || distance - c.rest > c.rest + place - distance) then
            settle width place distance more ⟨(d - 1) :: digits, c.rest + place⟩
          else c
      | [] => c

/-- Puts a digit in front, unless it would be a leading zero. -/
def pushDigit (d : Nat) (digits : List Nat) : List Nat :=
  if d = 0 && digits.isEmpty then digits else d :: digits

/-- Draws digits of the fraction `part / unit`. `factor` is the power of ten that the fraction has
been multiplied by; it is taken as zero from the ninth digit on, so that such digits are never
lowered. -/
def fractionDigits (unit distance : Nat) (width part : Nat) (digits : List Nat) (drawn : Nat) :
    Nat → List Nat × Int
  | 0 => (digits, -drawn)
  | more + 1 =>
      let part := part * 10
      let width := width * 10
      let digits := pushDigit (part / unit) digits
      let part := part % unit
      let drawn := drawn + 1
      if part < width then
        let factor := if drawn < 9 then Nat.pow 10 drawn else 0
        ((Candidate.settle width unit (distance * factor) 9 ⟨digits, part⟩).digits, -drawn)
      else fractionDigits unit distance width part digits drawn more

/-- Draws digits of the integral part, from the place `10 ^ places` down, and then those of the
fraction. -/
def wholeDigits (unit distance width fraction : Nat) (whole : Nat) (digits : List Nat) :
    Nat → List Nat × Int
  | 0 => fractionDigits unit distance width fraction digits 0 20
  | place + 1 =>
      let power := Nat.pow 10 place
      let digits := pushDigit (whole / power) digits
      let rest := whole % power * unit + fraction
      if rest ≤ width then
        ((Candidate.settle width (power * unit) distance 9 ⟨digits, rest⟩).digits, place)
      else wholeDigits unit distance width fraction (whole % power) digits place

/-- Short digits of a positive number. -/
def Binary.scaledDigits (b : Binary) : Digits :=
  let high := Binary.fill ⟨2 * b.significand + 1, b.exponent - 1⟩
  let low : Binary :=
    if b.significand = Nat.pow 2 52 then ⟨4 * b.significand - 1, b.exponent - 2⟩
    else ⟨2 * b.significand - 1, b.exponent - 1⟩
  let low : Binary :=
    ⟨low.significand * Nat.pow 2 (low.exponent - high.exponent).toNat, high.exponent⟩
  let k := scalingPower high.exponent
  let power := powerOfTen k
  let value := b.fill.mul power
  let top := (high.mul power).significand - 1
  let width := top - ((low.mul power).significand + 1)
  let unit := Nat.pow 2 (-value.exponent).toNat
  let whole := top / unit
  let (digits, exponent) :=
    wholeDigits unit (top - value.significand) width (top % unit) whole []
      (Nat.toDigits 10 whole).length
  ⟨digits.reverse.map Nat.digitChar, exponent - k⟩

end ServiceHealth.Decimal
