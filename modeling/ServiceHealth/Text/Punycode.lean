/-!
# Punycode

Host names are ASCII. A label with other characters is written as its ASCII characters, a hyphen
and, in the order of their code points, the positions of the others as differences in base
thirty-six, each of them with as few digits as a bias that follows the earlier ones allows.
-/
namespace ServiceHealth.Text.Punycode

/-- A digit of base thirty-six: letters first. -/
def digit (n : Nat) : Char :=
  Char.ofNat (if n < 26 then 'a'.toNat + n else '0'.toNat + (n - 26))

/-- The least value of a last digit at a position. -/
def threshold (position bias : Nat) : Nat := max 1 (min 26 (position - bias))

theorem one_le_threshold (position bias : Nat) : 1 ≤ threshold position bias :=
  Nat.le_max_left _ _

/-- The digits of a difference, the least significant first. -/
def digits (bias position n : Nat) : List Char :=
  let t := threshold position bias
  if n < t then [digit n]
  else digit (t + (n - t) % (36 - t)) :: digits bias (position + 36) ((n - t) / (36 - t))
termination_by n
decreasing_by
  have := one_le_threshold position bias
  exact Nat.lt_of_le_of_lt (Nat.div_le_self _ _) (by omega)

/-- Divides by thirty-five as long as a number is large, and counts thirty-six each time. -/
def shrink (n count : Nat) : Nat × Nat :=
  if 455 < n then shrink (n / 35) (count + 36) else (n, count)
termination_by n
decreasing_by exact Nat.div_lt_self (by omega) (by omega)

/-- The bias after a difference, `count` characters having been written. -/
def nextBias (delta count : Nat) (first : Bool) : Nat :=
  let delta := if first then delta / 700 else delta / 2
  let (n, steps) := shrink (delta + delta / count) 0
  steps + 36 * n / (n + 38)

/-- A label in the course of being written. -/
structure Progress where
  out : List Char
  delta : Nat
  bias : Nat
  count : Nat
  first : Bool

/-- Passes a character while those with code point `n` are written. -/
def Progress.pass (n : Nat) (p : Progress) (c : Char) : Progress :=
  if c.toNat < n then { p with delta := p.delta + 1 }
  else if c.toNat = n then
    { out := p.out ++ digits p.bias 36 p.delta
      delta := 0
      bias := nextBias p.delta (p.count + 1) p.first
      count := p.count + 1
      first := false }
  else p

/-- Writes the characters with the given code points, which ascend; `next` is the least one that
has not been written. -/
def Progress.writeAll (cs : List Char) : Progress → Nat → List Nat → Progress
  | p, _, [] => p
  | p, next, n :: rest =>
      let p := { p with delta := p.delta + (n - next) * (p.count + 1) }
      let p := cs.foldl (pass n) p
      writeAll cs { p with delta := p.delta + 1 } (n + 1) rest

def encode (cs : List Char) : List Char :=
  let plain := cs.filter (·.toNat < 0x80)
  let others := ((cs.filter (0x80 ≤ ·.toNat)).map Char.toNat).eraseDups.mergeSort (· ≤ ·)
  let stem := if plain.isEmpty then [] else plain ++ ['-']
  stem ++ (Progress.writeAll cs ⟨[], 0, 72, plain.length, true⟩ 0x80 others).out

/-- The number of characters in the longest label that is written. -/
def maxLength : Nat := 1000

/-- The written form of a label, unless it is too long. -/
def encode? (cs : List Char) : Option (List Char) :=
  if cs.length ≤ maxLength then some (encode cs) else none

def digitValue? (c : Char) : Option Nat :=
  if c.isLower then some (c.toNat - 'a'.toNat)
  else if c.isDigit then some (c.toNat - '0'.toNat + 26)
  else none

/-- Reads the digits of a difference, the next of which counts `weight` times; weights have at
most thirty-two bits. Returns what follows the last digit, too. -/
def readDigits? (bias position weight n : Nat) : List Char → Option (Nat × List Char)
  | [] => none
  | c :: rest =>
      match digitValue? c with
      | none => none
      | some d =>
          let next := weight * (36 - threshold position bias)
          if d < threshold position bias then some (n + d * weight, rest)
          else if 0xFFFFFFFF < next then none
          else readDigits? bias (position + 36) next (n + d * weight) rest

theorem length_lt_of_readDigits? {bias position weight n : Nat} {cs : List Char}
    {r : Nat × List Char} (h : readDigits? bias position weight n cs = some r) :
    r.2.length < cs.length := by
  induction cs generalizing position weight n with
  | nil => simp [readDigits?] at h
  | cons c rest ih =>
      simp only [readDigits?] at h
      split at h
      · exact absurd h (by simp)
      · split at h
        · rw [← Option.some.inj h]; simp
        · split at h
          · exact absurd h (by simp)
          · exact Nat.lt_succ_of_lt (ih h)

/-- Puts in the characters that differences stand for. `next` is the least code point of the next
one, and `place` the first place where it may stand. -/
def insertAll? (bias next place : Nat) (first : Bool) (out cs : List Char) : Option (List Char) :=
  if cs.isEmpty then some out
  else
    match h : readDigits? bias 36 1 0 cs with
    | none => none
    | some (delta, rest) =>
        let count := out.length + 1
        let n := next + (place + delta) / count
        let place := (place + delta) % count
        if n.isValidChar then
          insertAll? (nextBias delta count first) n (place + 1) false
            (out.insertIdx place (Char.ofNat n)) rest
        else none
termination_by cs.length
decreasing_by exact length_lt_of_readDigits? h

/-- Splits a written label at its last hyphen, unless that is its first character. -/
def splitStem (cs : List Char) : List Char × List Char :=
  let code := (cs.reverse.takeWhile (· != '-')).reverse
  let stem := cs.take (cs.length - code.length - 1)
  if stem.isEmpty then ([], cs) else (stem, code)

/-- Reads a written label in lower case, of at most two thousand characters. -/
def decode? (cs : List Char) : Option (List Char) :=
  if 2000 < cs.length then none
  else
    let (stem, code) := splitStem cs
    if stem.any (0x80 ≤ ·.toNat) then none else insertAll? 72 0x80 0 true stem code

end ServiceHealth.Text.Punycode
