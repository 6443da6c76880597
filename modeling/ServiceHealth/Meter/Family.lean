import ServiceHealth.Decimal.Text
import ServiceHealth.Table

/-!
# Metric families

A family holds one value for each combination of label values. There are counters, gauges and
histograms; a histogram counts observations by the first bucket whose bound they do not exceed,
and sums them up in the order in which they come.
-/
namespace ServiceHealth.Meter

/-- Label values in the order of the family's label names. -/
abbrev Labels := List String

abbrev Family (α : Type) := Table Labels α

def Family.increment (f : Family UInt64) (labels : Labels) : Family UInt64 :=
  f.insert labels ((f.get? labels).getD 0 + 1)

/-- The bounds of finite buckets, each twice the one before. -/
def bounds (count : Nat) : List Float :=
  (List.range count).map fun i => (Nat.pow 2 i).toUInt64.toFloat * 0.001

/-- Observations by size. The last count is of those beyond all bounds. -/
structure Histogram where
  bounds : List Float
  counts : List UInt64
  sum : Float
  total : UInt64

namespace Histogram

def empty (bounds : List Float) : Histogram :=
  ⟨bounds, List.replicate (bounds.length + 1) 0, 0.0, 0⟩

/-- The first bucket that holds a value. -/
def bucketOf (bounds : List Float) (x : Float) : Nat :=
  bounds.findIdx fun b => x ≤ b

def observe (h : Histogram) (x : Float) : Histogram :=
  { h with
    counts := h.counts.modify (bucketOf h.bounds x) (· + 1)
    sum := h.sum + x
    total := h.total + 1 }

def cumulate (total : UInt64) : List UInt64 → List UInt64
  | [] => []
  | n :: rest => (total + n) :: cumulate (total + n) rest

/-- How many observations do not exceed each bound, and how many there are. -/
def cumulative (h : Histogram) : List UInt64 := cumulate 0 h.counts

end Histogram

end ServiceHealth.Meter
