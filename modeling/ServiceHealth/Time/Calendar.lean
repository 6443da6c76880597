/-!
# Calendar dates

Days are counted from 1970-01-01 in the proleptic Gregorian calendar. Both directions walk: the
days of a date are the sum of the whole years and months before it, and the date of a day is found
by taking whole years and then whole months off the count.
-/
namespace ServiceHealth.Time

/-- Years divisible by four, of the centuries only those divisible by four hundred. -/
def isLeap (year : Nat) : Bool :=
  year % 4 = 0 && (year % 100 != 0 || year % 400 = 0)

def daysInYear (year : Nat) : Nat :=
  if isLeap year then 366 else 365

def monthLengths (year : Nat) : List Nat :=
  [31, if isLeap year then 29 else 28, 31, 30, 31, 30, 31, 31, 30, 31, 30, 31]

/-- A date; month and day count from one. -/
structure Date where
  year : Nat
  month : Nat
  day : Nat
  deriving DecidableEq, Repr

/-- The date occurs in the calendar and is not before 1970. -/
def Date.isValid (d : Date) : Bool :=
  1970 ≤ d.year && 1 ≤ d.month && 1 ≤ d.day &&
    (match (monthLengths d.year)[d.month - 1]? with
      | some length => d.day ≤ length
      | none => false)

/-- The days of the `count` years from 1970 on. -/
def daysOfYears : Nat → Nat
  | 0 => 0
  | count + 1 => daysOfYears count + daysInYear (1970 + count)

def Date.toDays (d : Date) : Nat :=
  let months := (monthLengths d.year).take (d.month - 1)
  daysOfYears (d.year - 1970) + months.foldl (· + ·) 0 + (d.day - 1)

/-- Takes whole months off a count of days. The result counts month and day from zero. -/
def splitMonths : List Nat → Nat → Nat × Nat
  | [], days => (0, days)
  | length :: rest, days =>
      if days < length then (0, days)
      else
        let (month, day) := splitMonths rest (days - length)
        (month + 1, day)

/-- Takes whole years off a count of days. -/
def splitYears (year days : Nat) : Nat × Nat :=
  if days < daysInYear year then (year, days)
  else splitYears (year + 1) (days - daysInYear year)
termination_by days
decreasing_by
  have : 0 < daysInYear year := by unfold daysInYear; split <;> omega
  omega

/-- The date that lies `days` after 1970-01-01. -/
def Date.ofDays (days : Nat) : Date :=
  let (year, dayOfYear) := splitYears 1970 days
  let (month, day) := splitMonths (monthLengths year) dayOfYear
  ⟨year, month + 1, day + 1⟩

end ServiceHealth.Time
