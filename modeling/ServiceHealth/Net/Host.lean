import ServiceHealth.Net.Ip
import ServiceHealth.Net.Name.Label

/-!
# Hosts of URLs

A host is an internet address or a name. A name is read after its percent escapes have been
decoded, in its usual spelling and in ASCII. A name that ends in a number is an address of
version 4 and may be written in the old ways: with fewer parts, the last of which then counts for
the missing ones, and with parts in base eight or sixteen.
-/
namespace ServiceHealth.Net

inductive Host where
  | ipv4 (address : Ipv4)
  | ipv6 (address : Ipv6)
  | name (text : String)
  deriving DecidableEq, Repr

namespace Host

/-- The labels of a name; the empty one after a final point does not count. -/
def parts (cs : List Char) : List (List Char) :=
  let all := Text.pieces (· = '.') cs
  if 1 < all.length && all.getLast? = some [] then all.dropLast else all

/-- A part of an old address of version 4: decimal, or octal after a zero, or hexadecimal after
`0x`. -/
def partValue? : List Char → Option Nat
  | [] => none
  | '0' :: x :: rest =>
      if x = 'x' || x = 'X' then valueIn? 16 rest else valueIn? 8 (x :: rest)
  | s => valueIn? 10 s
where
  valueIn? (base : Nat) (digits : List Char) : Option Nat :=
    if digits.all (isDigitOf base) then some (digitsValue base digits) else none

/-- The last part is a number. -/
def endsInNumber (cs : List Char) : Bool :=
  match (parts cs).getLast? with
  | some last => !last.isEmpty && (last.all Char.isDigit || (partValue? last).isSome)
  | none => false

/-- An address of version 4 with up to four parts. -/
def oldIpv4? (cs : List Char) : Option Ipv4 := do
  let numbers ← (parts cs).mapM partValue?
  guard (numbers.length ≤ 4)
  let last ← numbers.getLast?
  let front := numbers.dropLast
  guard (front.all (· ≤ 255) && last < Nat.pow 256 (4 - front.length))
  let high := front.foldl (fun n part => n * 256 + part) 0
  return .ofNat (high * Nat.pow 256 (4 - front.length) + last)

/-- May stand in a name: neither a control or a space nor a mark of URLs. -/
def isNameChar (c : Char) : Bool :=
  0x21 ≤ c.toNat && c.toNat < 0x7F && !"#%/:<>?@[\\]^|".toList.contains c

def ofChars? : List Char → Option Host
  | '[' :: rest =>
      match Ipv6.read rest with
      | some (a, [']']) => some (.ipv6 a)
      | _ => none
  | s => do
      let name ← Name.ascii? (← Text.percentDecode? s).toList
      guard (!name.isEmpty && name.all isNameChar)
      if endsInNumber name then return .ipv4 (← oldIpv4? name)
      else return .name (String.ofList name)

def text : Host → String
  | .ipv4 a => a.text
  | .ipv6 a => "[" ++ a.plainText ++ "]"
  | .name s => s

end Host

end ServiceHealth.Net
