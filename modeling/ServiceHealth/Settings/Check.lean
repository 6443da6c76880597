import ServiceHealth.Settings.Basic
import ServiceHealth.Settings.Fault

/-!
# Checking settings

`check` looks at single fields, first those of the server section; only if they are in order it
looks at those of probing, and then it reports all that are wrong. `setup` makes a setup.
-/
namespace ServiceHealth.Settings

/-- The socket address that the server section names, blanks around it aside. -/
def Server.socket? (s : Server) : Option Net.Socket := Net.Socket.ofText? (Text.trim s.listenAddr)

/-- Reports a field unless a condition holds. -/
def require (field : String) (rule : Rule) (holds : Bool) : List FieldFault :=
  if holds then [] else [⟨field, rule⟩]

def Server.faults (s : Server) : List FieldFault :=
  require "listen_addr" .socketAddress s.socket?.isSome

def Probing.faults (p : Probing) : List FieldFault :=
  require "probe_interval_seconds" .range
      (1 ≤ p.probeIntervalSeconds && p.probeIntervalSeconds ≤ 86400) ++
    require "http_timeout_seconds" .range
      (1 ≤ p.httpTimeoutSeconds && p.httpTimeoutSeconds ≤ 300) ++
    require "tcp_timeout_seconds" .range
      (1 ≤ p.tcpTimeoutSeconds && p.tcpTimeoutSeconds ≤ 300) ++
    require "failure_threshold" .range (1 ≤ p.failureThreshold) ++
    require "recovery_threshold" .range (1 ≤ p.recoveryThreshold) ++
    require "max_concurrent_probes" .range
      (1 ≤ p.maxConcurrentProbes && p.maxConcurrentProbes ≤ 10000)

def report : List FieldFault → Except Fault Unit
  | [] => .ok ()
  | faults => .error (.fields faults)

/-- Checks the values of single fields. -/
def check (s : Settings) : Except Fault Unit := do
  report s.server.faults
  report s.probing.faults

def setup (s : Settings) : Except Fault Setup := do
  let listen ←
    match s.server.socket? with
    | some a => .ok a
    | none => .error (.setup .listenAddress)
  let thresholds ← nested (Thresholds.make s.probing.failureThreshold s.probing.recoveryThreshold)
  let headers ← nested (Probe.Header.ofEntries s.probing.httpHeaders)
  return {
    listen := listen
    probeInterval := .ofSeconds s.probing.probeIntervalSeconds.toNat 0
    httpTimeout := .ofSeconds s.probing.httpTimeoutSeconds.toNat 0
    tcpTimeout := .ofSeconds s.probing.tcpTimeoutSeconds.toNat 0
    thresholds := thresholds
    headers := headers
    pool := s.probing.maxConcurrentProbes
    metered := s.metrics.enabled }
where
  nested {α : Type} : Except Error α → Except Fault α
    | .ok a => .ok a
    | .error e => .error (.setup (.nested e))

end ServiceHealth.Settings
