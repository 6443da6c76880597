import ServiceHealth.Decimal.Binary

/-!
# Shortest decimal numbers

The decimal number with the fewest digits among those that read back as a given binary number,
and of these the nearest to it; of two that are as near, the one whose last digit is even. The
numbers that read back form an interval around the value, with its ends exactly when the
significand is even. If an interval holds a point of the grid of `n` digits, it holds one of the
two points next to the value, so these are the only candidates.
-/
namespace ServiceHealth.Decimal

/-- A positive value with the interval of numbers that round to it, as fractions over `scale`. -/
structure Neighbourhood where
  low : Nat
  value : Nat
  high : Nat
  scale : Nat
  closed : Bool

/-- The interval of a binary number. The unit is a quarter of the last place. -/
def Binary.neighbourhood (b : Binary) : Neighbourhood :=
  let up := Nat.pow 2 (b.exponent - 2).toNat
  { low := (4 * b.significand - if b.isNarrowBelow then 1 else 2) * up
    value := 4 * b.significand * up
    high := (4 * b.significand + 2) * up
    scale := Nat.pow 2 (2 - b.exponent).toNat
    closed := b.significand % 2 = 0 }

namespace Neighbourhood

/-- The number `n · 10 ^ k` rounds to the value. -/
def holds (h : Neighbourhood) (n : Nat) (k : Int) : Bool :=
  let x := n * Nat.pow 10 k.toNat * h.scale
  let unit := Nat.pow 10 (-k).toNat
  if h.closed then h.low * unit ≤ x && x ≤ h.high * unit
  else h.low * unit < x && x < h.high * unit

/-- The multiple of `10 ^ k` below the value or equal to it. -/
def below (h : Neighbourhood) (k : Int) : Nat :=
  h.value * Nat.pow 10 (-k).toNat / (h.scale * Nat.pow 10 k.toNat)

/-- The next multiple of `10 ^ k` is nearer than the one below, or as near and even. -/
def isNearerAbove (h : Neighbourhood) (k : Int) : Bool :=
  let middle := (2 * h.below k + 1) * (h.scale * Nat.pow 10 k.toNat)
  let value := 2 * (h.value * Nat.pow 10 (-k).toNat)
  middle < value || (middle = value && h.below k % 2 = 1)

/-- The nearest multiple of `10 ^ k` that rounds to the value, if any does. -/
def nearest? (h : Neighbourhood) (k : Int) : Option Nat :=
  let n := h.below k
  let first := if h.isNearerAbove k then n + 1 else n
  let second := if h.isNearerAbove k then n else n + 1
  if h.holds first k then some first
  else if h.holds second k then some second
  else none

/-- Tries ever finer grids. -/
def search (h : Neighbourhood) (k : Int) : Nat → Nat × Int
  | 0 => (h.below k, k)
  | more + 1 =>
      match h.nearest? k with
      | some n => (n, k)
      | none => search h (k - 1) more

end Neighbourhood

/-- The power of ten of the first digit of a positive fraction. -/
def leadingPlace (num den : Nat) : Int :=
  if den ≤ num then (Nat.toDigits 10 (num / den)).length - 1
  else -(Nat.toDigits 10 ((den + num - 1) / num - 1)).length

/-- The shortest digits of a positive number. Seventeen of them always suffice; the first grid
tried is one place above the leading digit, for a number that rounds up to the next power. -/
def Binary.shortest (b : Binary) : Digits :=
  let h := b.neighbourhood
  let (n, k) := h.search (leadingPlace h.value h.scale + 1) 18
  ⟨Nat.toDigits 10 n, k⟩

end ServiceHealth.Decimal
