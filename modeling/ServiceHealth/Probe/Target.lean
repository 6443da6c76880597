import ServiceHealth.Probe.Basic
import ServiceHealth.Text.Basic

/-!
# Where a probe goes

The address and port of an instance, refined by three metadata entries: the scheme and the path of
the health endpoint for HTTP, and another port for TCP. An entry that makes no sense is ignored.
-/
namespace ServiceHealth.Probe

inductive Scheme where
  | http
  | https
  deriving DecidableEq, Repr

def Scheme.name : Scheme → String
  | .http => "http"
  | .https => "https"

/-- The scheme that a metadata entry names; plain HTTP for any other text. -/
def Scheme.ofEntry (entry : Option String) : Scheme :=
  if (entry.map fun s => Text.lowerAscii (Text.trim s)) = some "https" then .https else .http

/-- The path that a metadata entry names: trimmed, with a slash in front. -/
def pathOfEntry (entry : Option String) : String :=
  match entry.map Text.trim with
  | some p =>
      if p.toList.head? = some '/' then p
      else if p.isEmpty then "/health"
      else "/" ++ p
  | none => "/health"

/-- The port that a metadata entry names, if it is one. -/
def portOfEntry (entry : Option String) : Option UInt16 := do
  let n ← Text.number? 0xFFFF (Text.trim (← entry))
  return n.toUInt16

/-- What a probe is aimed at. -/
structure Target where
  serviceId : String
  address : String
  port : UInt16
  protocol : Protocol
  scheme : Scheme
  path : String
  deriving DecidableEq, Repr

namespace Target

/-- The target of an instance, with its metadata given as a lookup. -/
def aim (serviceId address : String) (port : UInt16) (protocol : Protocol)
    (lookup : String → Option String) : Target where
  serviceId := serviceId
  address := address
  port :=
    match protocol with
    | .tcp => (portOfEntry (lookup "tcp_port")).getD port
    | .http => port
  protocol := protocol
  scheme := Scheme.ofEntry (lookup "scheme")
  path := pathOfEntry (lookup "health_check_endpoint")

/-- Host and port. An address with colons is put into brackets, unless it begins with one. -/
def authority (t : Target) : String :=
  let port := ":" ++ toString t.port.toNat
  if t.address.toList.contains ':' && t.address.toList.head? != some '[' then
    "[" ++ t.address ++ "]" ++ port
  else t.address ++ port

/-- The URL that an HTTP probe asks for. -/
def url (t : Target) : String :=
  t.scheme.name ++ "://" ++ t.authority ++ t.path

end Target

end ServiceHealth.Probe
