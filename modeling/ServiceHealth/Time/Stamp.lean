import ServiceHealth.Text.Utf8
import ServiceHealth.Time.Calendar

/-!
# Timestamps

A timestamp is a number of nanoseconds since 1970-01-01T00:00:00Z. Its written form is
`YYYY-MM-DDTHH:MM:SSZ`, with exactly nine fraction digits before the `Z` when the second is not
whole. Reading is more lenient than writing: a blank may stand for the `T`, the zone may be
missing or `+00:00`, a second 60 counts as 59, and a fraction may have any number of digits, those
after the ninth being dropped.
-/
namespace ServiceHealth

structure Timestamp where
  nanos : Nat
  deriving DecidableEq, Repr, Inhabited

namespace Timestamp

instance : LE Timestamp := ⟨fun a b => a.nanos ≤ b.nanos⟩
instance : LT Timestamp := ⟨fun a b => a.nanos < b.nanos⟩

theorem le_iff {a b : Timestamp} : a ≤ b ↔ a.nanos ≤ b.nanos := Iff.rfl

/-- Nanoseconds in a second. -/
def second : Nat := 1000000000

/-- The timestamp so many seconds and nanoseconds after 1970-01-01T00:00:00Z. -/
def ofSeconds (seconds nanos : Nat) : Timestamp := ⟨seconds * second + nanos⟩

/-- A number in decimal, filled up with zeros on the left. -/
def padded (width n : Nat) : List Char :=
  let digits := Nat.toDigits 10 n
  List.replicate (width - digits.length) '0' ++ digits

def text (t : Timestamp) : String :=
  let seconds := t.nanos / second
  let fraction := t.nanos % second
  let date := Time.Date.ofDays (seconds / 86400)
  let time := seconds % 86400
  String.ofList <|
    padded 4 date.year ++ '-' :: padded 2 date.month ++ '-' :: padded 2 date.day ++
    'T' :: padded 2 (time / 3600) ++ ':' :: padded 2 (time / 60 % 60) ++
    ':' :: padded 2 (time % 60) ++
    (if fraction = 0 then ['Z'] else '.' :: padded 9 fraction ++ ['Z'])

def digit? (c : Char) : Option Nat :=
  if '0' ≤ c ∧ c ≤ '9' then some (c.toNat - '0'.toNat) else none

def twoDigits? (a b : Char) : Option Nat := do
  return (← digit? a) * 10 + (← digit? b)

/-- The nanoseconds of a fraction, whose next digit counts `unit`. It ends with the text, with a
final `Z`, or with a plus sign that five more bytes follow, whatever they are. -/
def fraction? (unit : Nat) : List Char → Option Nat
  | [] => some 0
  | c :: rest =>
      if c = 'Z' then
        if rest = [] then some 0 else none
      else if c = '+' ∧ Text.byteLength rest = 5 then some 0
      else do
        let d ← digit? c
        let lower ← fraction? (unit / 10) rest
        return unit * d + lower

/-- The nanoseconds that the text after the seconds stands for. After a `Z` up to five bytes are
passed over. -/
def zone? : List Char → Option Nat
  | [] => some 0
  | '.' :: rest => fraction? 100000000 rest
  | 'Z' :: rest => if Text.byteLength rest ≤ 5 then some 0 else none
  | rest => if rest = "+00:00".toList then some 0 else none

/-- Reads a written timestamp. -/
def ofChars? : List Char → Option Timestamp
  | y1 :: y2 :: y3 :: y4 :: '-' :: m1 :: m2 :: '-' :: d1 :: d2 :: sep :: h1 :: h2 :: ':' ::
      n1 :: n2 :: ':' :: s1 :: s2 :: rest => do
    let century ← twoDigits? y1 y2
    let year ← twoDigits? y3 y4
    let month ← twoDigits? m1 m2
    let day ← twoDigits? d1 d2
    let hour ← twoDigits? h1 h2
    let minute ← twoDigits? n1 n2
    let seconds ← twoDigits? s1 s2
    let date : Time.Date := ⟨century * 100 + year, month, day⟩
    guard ((sep = 'T' ∨ sep = ' ') ∧ date.isValid ∧ hour ≤ 23 ∧ minute ≤ 59 ∧ seconds ≤ 60)
    let nanos ← zone? rest
    return ofSeconds (date.toDays * 86400 + hour * 3600 + minute * 60 + min seconds 59) nanos
  | _ => none

def ofText? (s : String) : Option Timestamp := ofChars? s.toList

end Timestamp

/-- A length of time, such as the time that a probe took. -/
structure Span where
  nanos : Nat
  deriving DecidableEq, Repr, Inhabited

namespace Span

def ofMillis (ms : Nat) : Span := ⟨ms * 1000000⟩

def ofSeconds (seconds nanos : Nat) : Span := ⟨seconds * Timestamp.second + nanos⟩

/-- The whole milliseconds, as far as 64 bits hold them. -/
def millis (s : Span) : Nat := s.nanos / 1000000 % Nat.pow 2 64

/-- The seconds as a binary floating-point number: whole seconds and fraction are rounded apart
and then added. -/
def seconds (s : Span) : Float :=
  (s.nanos / Timestamp.second).toUInt64.toFloat +
    (s.nanos % Timestamp.second).toUInt64.toFloat / 1e9

end Span

end ServiceHealth
