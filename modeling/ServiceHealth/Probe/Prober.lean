import ServiceHealth.Net.Url
import ServiceHealth.Probe.Header
import ServiceHealth.Probe.Target

/-!
# Probers

A prober makes one attempt to reach a target and folds whatever happens into an outcome. A TCP
attempt succeeds if a connection is made, an HTTP attempt if the answer has a status from 200 to
299. What the network makes of an attempt is given as a `Network`.
-/
namespace ServiceHealth.Probe

/-- Why the system makes no connection. -/
inductive SystemFault where
  | refused
  | reset
  | aborted
  | addressNotAvailable
  | timedOut
  | networkUnreachable
  | unresolved
  deriving DecidableEq, Repr

def SystemFault.message : SystemFault → String
  | .refused => "Connection refused (os error 111)"
  | .reset => "Connection reset by peer (os error 104)"
  | .aborted => "Software caused connection abort (os error 103)"
  | .addressNotAvailable => "Cannot assign requested address (os error 99)"
  | .timedOut => "Connection timed out (os error 110)"
  | .networkUnreachable => "Network is unreachable (os error 101)"
  | .unresolved =>
      "failed to lookup address information: Temporary failure in name resolution"

def SystemFault.kind : SystemFault → Kind
  | .refused | .reset | .aborted | .addressNotAvailable => .connectionRefused
  | .timedOut => .timeout
  | .networkUnreachable | .unresolved => .unknown

/-- The kind of a request for which no connection was made. -/
def SystemFault.requestKind (f : SystemFault) : Kind :=
  if f.kind = .timeout then .timeout else .connectionRefused

/-- How an attempt to connect ends. It is late if the prober's time is over first. -/
inductive Connection where
  | made
  | failed (fault : SystemFault)
  | late

/-- How a request ends. It is broken if what came over the connection was no answer, and redirected
if that happened too often or without end, last from a URL. -/
inductive Reply where
  | status (code : UInt16)
  | notConnected (fault : SystemFault)
  | broken
  | redirected (last : Net.Url)
  | late

/-- What a network makes of attempts, and how long each of them takes. -/
structure Network where
  connect : (address : String) → (port : UInt16) → Connection
  ask : Net.Url → List Header → Reply
  latency : Span

/-- The network of a host that is connected to none. It knows no names but its own. -/
def Network.none : Network where
  connect address _ :=
    .failed (if Net.isAddress address || address = "localhost" then .networkUnreachable
      else .unresolved)
  ask _ _ := .notConnected .networkUnreachable
  latency := ⟨0⟩

/-- Ways to probe: by one protocol, or by that of the target. -/
inductive Prober where
  | tcp
  | http (headers : List Header)
  | network (headers : List Header)
  deriving DecidableEq, Repr

namespace Prober

def name : Prober → String
  | .tcp => "tcp"
  | .http _ => "http"
  | .network _ => "network"

def makeHttp (headers : List Header) : Except Error Prober := do
  Header.checkAll headers
  return .http headers

def makeNetwork (headers : List Header) : Except Error Prober := do
  Header.checkAll headers
  return .network headers

def failureMessage (what : String) (url : Option Net.Url) : String :=
  "HTTP request failed: " ++ what ++
    match url with
    | some u => " for url (" ++ u.text ++ ")"
    | none => ""

/-- One attempt to connect. -/
def connect (net : Network) (t : Target) : Outcome :=
  match net.connect t.address t.port with
  | .made => .succeeded net.latency "TCP connection successful"
  | .failed f => .ofKind f.kind net.latency ("Connection failed: " ++ f.message)
  | .late => .timedOut net.latency

def ofStatus (latency : Span) (code : UInt16) : Outcome :=
  let kind := if 200 ≤ code && code < 300 then Kind.success else .protocolError
  (Outcome.ofKind kind latency ("HTTP " ++ toString code.toNat)).withStatusCode code

def ask (net : Network) (headers : List Header) (t : Target) : Outcome :=
  let failed (kind : Kind) (what : String) (url : Option Net.Url) : Outcome :=
    .ofKind kind net.latency (failureMessage what url)
  match Net.Url.ofText? t.url with
  | none => failed .unknown "builder error" none
  | some u =>
      let u := u.withoutCredentials
      if !u.isTarget then failed .unknown "builder error" u
      else
        match net.ask u headers with
        | .status code => ofStatus net.latency code
        | .notConnected f => failed f.requestKind "error sending request" u
        | .broken => failed .protocolError "error sending request" u
        | .redirected last => failed .protocolError "error following redirect" last
        | .late => .timedOut net.latency

/-- One attempt. -/
def probe (net : Network) (t : Target) : Prober → Outcome
  | .tcp => connect net t
  | .http headers => ask net headers t
  | .network headers =>
      match t.protocol with
      | .tcp => connect net t
      | .http => ask net headers t

end Prober

end ServiceHealth.Probe
