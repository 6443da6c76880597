import ServiceHealth.Net.Ip

/-!
# Socket addresses

An internet address with a port, as a server listens on. The address of version 6 stands in
brackets and may have a scope, which is a number.
-/
namespace ServiceHealth.Net

inductive Socket where
  | v4 (address : Ipv4) (port : UInt16)
  | v6 (address : Ipv6) (scope : UInt32) (port : UInt16)
  deriving DecidableEq, Repr

namespace Socket

/-- A port after its colon; it may have leading zeros. -/
def port? : List Char → Option UInt16
  | ':' :: rest =>
      match readNumber 10 0xFFFF rest with
      | some (n, []) => some n.toUInt16
      | _ => none
  | _ => none

/-- Reads the number of a scope; without one it is zero. -/
def readScope : List Char → UInt32 × List Char
  | '%' :: rest =>
      match readNumber 10 0xFFFFFFFF rest with
      | some (n, after) => (n.toUInt32, after)
      | none => (0, '%' :: rest)
  | s => (0, s)

def ofChars? : List Char → Option Socket
  | '[' :: rest => do
      let (a, rest) ← Ipv6.read rest
      match readScope rest with
      | (scope, ']' :: rest) => return .v6 a scope (← port? rest)
      | _ => none
  | s => do
      let (a, rest) ← Ipv4.read s
      return .v4 a (← port? rest)

def ofText? (s : String) : Option Socket := ofChars? s.toList

/-- The written form. A scope of zero is left out. -/
def text : Socket → String
  | .v4 a port => a.text ++ ":" ++ toString port.toNat
  | .v6 a scope port =>
      let scope := if scope = 0 then "" else "%" ++ toString scope.toNat
      "[" ++ a.text ++ scope ++ "]:" ++ toString port.toNat

end Socket

end ServiceHealth.Net
