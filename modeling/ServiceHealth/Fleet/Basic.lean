import ServiceHealth.Health.Report
import ServiceHealth.Meter.Meters
import ServiceHealth.Service.Catalog

/-!
# The fleet

The fleet joins the catalog of instances, their standings, the board of reports and the meters. Its
calls keep the four in step: only active instances have a standing, and the results of probes that
come in after an instance has left are discarded. A call returns its answer with the new fleet,
also when it fails.
-/
namespace ServiceHealth

/-- Everything the monitor knows. Without meters nothing is counted. -/
structure Fleet where
  catalog : Catalog
  standings : Standings
  board : Board
  meters : Option Meters

/-- What became of a probe that counted. -/
structure Applied where
  report : Report
  transition : Option Transition
  deriving DecidableEq

namespace Fleet

def empty (thresholds : Thresholds) (metered : Bool) : Fleet :=
  ⟨.empty, .empty thresholds, .empty, if metered then some .initial else none⟩

/-- Changes the meters, if there are any. -/
def meter (f : Fleet) (change : Meters → Meters) : Fleet :=
  { f with meters := f.meters.map change }

/-- Forgets the health of an instance that is back. -/
def forgetHealth (f : Fleet) (i : Instance) : Fleet :=
  { f with
      standings := f.standings.remove i.serviceId
      board := f.board.remove i.serviceId }.meter (·.removeInstance i.serviceId i.serviceName)

/-- Brings the description of an instance on the board up to date. -/
def refresh (f : Fleet) (i : Instance) : Fleet := { f with board := (f.board.refresh i).2 }

/-- Registers an instance. One that had left starts with a clean slate; one that had not keeps
its health. -/
def register (now : Timestamp) (r : Registration) (f : Fleet) : Except Error Instance × Fleet :=
  match f.catalog.register now r with
  | .ok (done, catalog) =>
      let f := { f with catalog := catalog }
      let i := done.record
      (.ok i, if done.isRevival then f.forgetHealth i else f.refresh i)
  | .error e => (.error e, f)

/-- Marks an instance as having left and drops its standing; its last report stays. -/
def deregister (now : Timestamp) (id : String) (f : Fleet) : Except Error Instance × Fleet :=
  match f.catalog.deregister now id with
  | .ok (i, catalog) =>
      (.ok i, { f with catalog := catalog, standings := f.standings.remove id }.meter
        (·.removeInstance i.serviceId i.serviceName))
  | .error e => (.error e, f)

def updateMetadata (id : String) (pairs : List (String × String)) (f : Fleet) :
    Except Error Instance × Fleet :=
  match f.catalog.updateMetadata id pairs with
  | .ok (i, catalog) => (.ok i, { f with catalog := catalog }.refresh i)
  | .error e => (.error e, f)

/-- Drops the health of an instance, and its record too if it has left. The answer is the last
report; if there is none but a record, one is made up. -/
def purge (id : String) (f : Fleet) : Except Error Report × Fleet :=
  let (cached, board) := f.board.purge id
  let standing := f.standings.get? id
  let (purged, catalog) := f.catalog.purge id
  let f := { f with board := board, standings := f.standings.remove id, catalog := catalog }
  let report : Option Report :=
    match cached with
    | .ok r => some r
    | .error _ =>
        (purged.or (catalog.find? id)).map fun i => .make i (standing.getD .initial) none
  match report with
  | some r => (.ok r, f.meter (·.removeInstance r.serviceId r.serviceName))
  | none => (.error (.notFound .report id), f)

/-- Takes the outcome of a probe into account. The probe was sent to the instance as it was at the
time; the outcome counts only if there still is an active record. Whether there is one is asked
once. A call is whole, so nothing can come between, and to ask again after the standing is recorded
and after the gauges are set would give the same answer. -/
def applyOutcome (now : Timestamp) (probed : Instance) (outcome : Probe.Outcome) (f : Fleet) :
    Option Applied × Fleet :=
  let f := f.meter (·.recordProbe probed.serviceName probed.protocol outcome.kind outcome.latency)
  match (f.catalog.find? probed.serviceId).filter Instance.isActive with
  | none => (none, f.meter Meters.recordDiscarded)
  | some current =>
      let id := current.serviceId
      let ((standing, transition), standings) :=
        f.standings.record now id probed.protocol outcome
      let report := Report.make current standing (some outcome)
      let f := { f with standings := standings, board := (f.board.post report).2 }
      let f := f.meter (·.setInstance id current.serviceName standing.status standing.successes
        standing.failures)
      let f :=
        match transition with
        | some t => f.meter (·.recordTransition current.serviceName t)
        | none => f
      (some ⟨report, transition⟩, f)

/-- The active instances of a service whose last report says that they are healthy. -/
def healthyInstances (f : Fleet) (name : String) : List Instance :=
  (f.catalog.ofService name).filter fun i =>
    i.isActive && ((f.board.find? i.serviceId).map Report.isHealthy).getD false

/-- A change of the fleet. -/
inductive Call where
  | register (r : Registration)
  | deregister (id : String)
  | updateMetadata (id : String) (pairs : List (String × String))
  | purge (id : String)
  | applyOutcome (probed : Instance) (outcome : Probe.Outcome)

inductive Answer where
  | record (result : Except Error Instance)
  | report (result : Except Error Report)
  | applied (result : Option Applied)

def perform (now : Timestamp) (f : Fleet) : Call → Answer × Fleet
  | .register r => let (a, f) := f.register now r; (.record a, f)
  | .deregister id => let (a, f) := f.deregister now id; (.record a, f)
  | .updateMetadata id pairs => let (a, f) := f.updateMetadata id pairs; (.record a, f)
  | .purge id => let (a, f) := f.purge id; (.report a, f)
  | .applyOutcome probed outcome =>
      let (a, f) := f.applyOutcome now probed outcome; (.applied a, f)

/-- Carries calls out, each with its own reading of the clock. -/
def run (f : Fleet) : List (Timestamp × Call) → Fleet
  | [] => f
  | (now, call) :: rest => (f.perform now call).2.run rest

end Fleet

end ServiceHealth
