import ServiceHealth.Text.Utf8

/-!
# Internet addresses

Addresses of both versions, with their written forms. Of version 4 there are four octets, written
without leading zeros. Of version 6 there are eight groups, of which one run of zeros may be left
out and the last two may be written as an address of version 4.
-/
namespace ServiceHealth.Net

/-- A digit of a base up to sixteen. -/
def isDigitOf (base : Nat) (c : Char) : Bool :=
  match Text.hexValue? c with
  | some d => d < base
  | none => false

def digitsValue (base : Nat) (digits : List Char) : Nat :=
  digits.foldl (fun n c => n * base + (Text.hexValue? c).getD 0) 0

def hexText (n : Nat) : String := String.ofList (Nat.toDigits 16 n)

/-- Reads all digits at the front as a number up to a limit. -/
def readNumber (base limit : Nat) (s : List Char) : Option (Nat × List Char) :=
  let digits := s.takeWhile (isDigitOf base)
  let n := digitsValue base digits
  if digits.isEmpty || limit < n then none else some (n, s.drop digits.length)

structure Ipv4 where
  first : UInt8
  second : UInt8
  third : UInt8
  fourth : UInt8
  deriving DecidableEq, Repr

namespace Ipv4

def readOctet (s : List Char) : Option (UInt8 × List Char) :=
  let digits := s.takeWhile Char.isDigit
  if 3 < digits.length || (1 < digits.length && digits.head? = some '0') then none
  else (readNumber 10 255 s).map fun r => (r.1.toUInt8, r.2)

def readNextOctet : List Char → Option (UInt8 × List Char)
  | '.' :: rest => readOctet rest
  | _ => none

def read (s : List Char) : Option (Ipv4 × List Char) := do
  let (a, s) ← readOctet s
  let (b, s) ← readNextOctet s
  let (c, s) ← readNextOctet s
  let (d, s) ← readNextOctet s
  return (⟨a, b, c, d⟩, s)

/-- The address with a number as its thirty-two bits. -/
def ofNat (n : Nat) : Ipv4 :=
  ⟨(n / 0x1000000).toUInt8, (n / 0x10000).toUInt8, (n / 0x100).toUInt8, n.toUInt8⟩

/-- The address as two groups of sixteen bits. -/
def groups (a : Ipv4) : List UInt16 :=
  [a.first.toUInt16 * 256 + a.second.toUInt16, a.third.toUInt16 * 256 + a.fourth.toUInt16]

def text (a : Ipv4) : String :=
  ".".intercalate ([a.first, a.second, a.third, a.fourth].map fun o => toString o.toNat)

end Ipv4

structure Ipv6 where
  groups : List UInt16
  length_groups : groups.length = 8
  deriving DecidableEq, Repr

namespace Ipv6

def ofGroups? (groups : List UInt16) : Option Ipv6 :=
  if h : groups.length = 8 then some ⟨groups, h⟩ else none

/-- Groups at the front of a text. They are mixed if the last two were written as an address of
version 4. -/
structure Groups where
  groups : List UInt16
  mixed : Bool
  rest : List Char

/-- Reads a group of at most four digits. -/
def readGroup (s : List Char) : Option (UInt16 × List Char) :=
  if 4 < (s.takeWhile (isDigitOf 16)).length then none
  else (readNumber 16 0xFFFF s).map fun r => (r.1.toUInt16, r.2)

def passColon : List Char → Option (List Char)
  | ':' :: rest => some rest
  | _ => none

/-- Reads as many groups as there are, up to a number. Groups but for the first follow a colon. -/
def readGroups (first : Bool) : Nat → List Char → Groups
  | 0, s => ⟨[], false, s⟩
  | room + 1, s =>
      let body := if first then some s else passColon s
      let mixed := if room = 0 then none else body.bind Ipv4.read
      match mixed with
      | some (a, rest) => ⟨a.groups, true, rest⟩
      | none =>
          match body.bind readGroup with
          | some (g, rest) =>
              let more := readGroups false room rest
              { more with groups := g :: more.groups }
          | none => ⟨[], false, s⟩

/-- Reads an address. Two colons stand for at least one group of zero. -/
def read (s : List Char) : Option (Ipv6 × List Char) :=
  let head := readGroups true 8 s
  if head.groups.length = 8 then (ofGroups? head.groups).map (·, head.rest)
  else if head.mixed then none
  else
    match head.rest with
    | ':' :: ':' :: rest =>
        let tail := readGroups true (7 - head.groups.length) rest
        let zeros := List.replicate (8 - head.groups.length - tail.groups.length) 0
        (ofGroups? (head.groups ++ zeros ++ tail.groups)).map (·, tail.rest)
    | _ => none

/-- Where the longest run of zeros begins, and its length; the first one of several. -/
def zeroRun (groups : List UInt16) : Nat × Nat :=
  let runs := (List.range 8).map fun i => (i, ((groups.drop i).takeWhile (· = 0)).length)
  runs.foldl (fun best run => if best.2 < run.2 then run else best) (0, 0)

def groupsText (groups : List UInt16) : String :=
  ":".intercalate (groups.map fun g => hexText g.toNat)

/-- The written form, in groups only: a run of at least two zeros is left out. -/
def plainText (a : Ipv6) : String :=
  let (start, length) := zeroRun a.groups
  if 1 < length then
    groupsText (a.groups.take start) ++ "::" ++ groupsText (a.groups.drop (start + length))
  else groupsText a.groups

/-- The written form. An address that stands for one of version 4 ends with that one. -/
def text (a : Ipv6) : String :=
  match a.groups with
  | [0, 0, 0, 0, 0, 0xFFFF, g, h] => "::ffff:" ++ (Ipv4.ofNat (g.toNat * 65536 + h.toNat)).text
  | _ => a.plainText

end Ipv6

/-- A whole text is an address of either version. -/
def isAddress (s : String) : Bool :=
  ((Ipv4.read s.toList).map (·.2.isEmpty)).getD false ||
    ((Ipv6.read s.toList).map (·.2.isEmpty)).getD false

end ServiceHealth.Net
