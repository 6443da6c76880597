import ServiceHealth.Time.Stamp

/-!
# Probes

A probe is one attempt to reach an instance. Whatever happens is folded into an outcome, so that
the health rules see nothing but success or failure.
-/
namespace ServiceHealth.Probe

/-- How an instance is probed. -/
inductive Protocol where
  | http
  | tcp
  deriving DecidableEq, Repr, Inhabited

def Protocol.name : Protocol → String
  | .http => "http"
  | .tcp => "tcp"

/-- The sort of result that a probe had. -/
inductive Kind where
  | success
  | timeout
  | connectionRefused
  | protocolError
  | unknown
  deriving DecidableEq, Repr

def Kind.name : Kind → String
  | .success => "success"
  | .timeout => "timeout"
  | .connectionRefused => "connection_refused"
  | .protocolError => "protocol_error"
  | .unknown => "unknown"

/-- The result of a probe. -/
structure Outcome where
  success : Bool
  latency : Span
  kind : Kind
  message : String
  statusCode : Option UInt16
  deriving DecidableEq, Repr

namespace Outcome

/-- The outcome of a kind: a success exactly if the kind says so. -/
def ofKind (kind : Kind) (latency : Span) (message : String) : Outcome :=
  ⟨kind = .success, latency, kind, message, none⟩

def succeeded (latency : Span) (message : String) : Outcome := ofKind .success latency message

/-- A probe that got no answer in time. -/
def timedOut (latency : Span) : Outcome := ofKind .timeout latency "Probe timed out"

def withStatusCode (o : Outcome) (code : UInt16) : Outcome := { o with statusCode := some code }

end Outcome

end ServiceHealth.Probe
