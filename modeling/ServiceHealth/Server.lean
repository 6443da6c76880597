import ServiceHealth.Fleet.Basic
import ServiceHealth.Probe.Prober
import ServiceHealth.Settings.Basic

/-!
# Servers

A server is a monitor with all that its setup asks for. It can be made of a setup exactly if the
headers of the setup may stand in a request.
-/
namespace ServiceHealth

/-- A monitor ready to run. -/
structure Server where
  setup : Setup
  prober : Probe.Prober
  fleet : Fleet

/-- A server with an empty fleet. -/
def Server.make (setup : Setup) : Except Error Server := do
  let prober ← Probe.Prober.makeNetwork setup.headers
  return ⟨setup, prober, .empty setup.thresholds setup.metered⟩

/-- Why a server cannot listen at its address. -/
inductive Server.ListenFault where
  | inUse
  deriving DecidableEq, Repr

def Server.ListenFault.message : ListenFault → String
  | .inUse => "Address already in use (os error 98)"

end ServiceHealth
