import ServiceHealth.Fleet.Basic

/-!
# Probe rounds

A round probes every instance that is active when it begins. Probes are sent out in the order of
the ids, as many at a time as the pool has room for, and their outcomes are applied as they come
in. A round that is cut short sends out no more probes but waits for those under way.

A round moves by steps; which step comes next is up to the world, so that what holds for every
sequence of steps holds for every timing.
-/
namespace ServiceHealth

/-- What a round did. -/
structure Round.Summary where
  instances : Nat
  dispatched : Nat
  applied : Nat
  discarded : Nat
  transitions : Nat
  cancelled : Bool
  deriving DecidableEq, Repr

/-- A round of probes: the instances that have not been probed yet, those whose probes are under
way, the earliest first, and what was done so far. -/
structure Round where
  waiting : List Instance
  flying : List Instance
  summary : Round.Summary

namespace Round

/-- A round over all instances that are active. -/
def ofFleet (f : Fleet) : Round :=
  let instances := f.catalog.active
  ⟨instances, [], ⟨instances.length, 0, 0, 0, 0, false⟩⟩

/-- How many probes may be under way at a time: at least one. -/
def room (pool : Nat) : Nat := max 1 pool

/-- No probe is left to send or to wait for. -/
def isOver (r : Round) : Bool := r.waiting.isEmpty && r.flying.isEmpty

/-- Sends out the next probe, if there is one and the pool has room. -/
def dispatch? (pool : Nat) (r : Round) : Option (Instance × Round) :=
  match r.waiting with
  | [] => none
  | i :: rest =>
      if r.flying.length < room pool then
        some (i, { r with
          waiting := rest
          flying := r.flying ++ [i]
          summary := { r.summary with dispatched := r.summary.dispatched + 1 } })
      else none

/-- Sends out no more probes. The round counts as cancelled if some were left. -/
def cancel (r : Round) : Round :=
  if r.waiting.isEmpty then r
  else { r with waiting := [], summary := { r.summary with cancelled := true } }

/-- Takes the probe of an instance off those under way. -/
def landed (r : Round) (id : String) : Round :=
  { r with flying := r.flying.eraseP (·.serviceId = id) }

/-- Counts what became of an outcome. -/
def Summary.count (s : Summary) : Option Applied → Summary
  | some a =>
      { s with
        applied := s.applied + 1
        transitions := s.transitions + (if a.transition.isSome then 1 else 0) }
  | none => { s with discarded := s.discarded + 1 }

def land (now : Timestamp) (probed : Instance) (outcome : Probe.Outcome) (r : Round) (f : Fleet) :
    Round × Fleet :=
  let (applied, f) := f.applyOutcome now probed outcome
  ({ r.landed probed.serviceId with summary := r.summary.count applied }, f)

/-- Records a finished round in the meters. -/
def record (duration : Span) (f : Fleet) : Fleet :=
  f.meter fun m =>
    ((m.recordRound duration).setActive f.catalog.activeCount).setTally f.standings.tally

/-- What can happen during a round. The probe of an instance is answered, or it is lost and ends
without an outcome; and the fleet may be changed from outside. -/
inductive Step where
  | dispatch
  | answer (id : String) (outcome : Probe.Outcome)
  | lose (id : String)
  | cancel
  | call (c : Fleet.Call)

/-- Makes a step, if it is possible. -/
def step? (pool : Nat) (now : Timestamp) (r : Round) (f : Fleet) : Step → Option (Round × Fleet)
  | .dispatch => (r.dispatch? pool).map fun d => (d.2, f)
  | .answer id outcome =>
      (r.flying.find? (·.serviceId = id)).map fun i => r.land now i outcome f
  | .lose id => (r.flying.find? (·.serviceId = id)).map fun _ => (r.landed id, f)
  | .cancel => some (r.cancel, f)
  | .call c => some (r, (f.perform now c).2)

/-- Makes steps one after the other, each at its own time. -/
def steps? (pool : Nat) : List (Timestamp × Step) → Round → Fleet → Option (Round × Fleet)
  | [], r, f => some (r, f)
  | (now, s) :: rest, r, f => (r.step? pool now f s).bind fun (r, f) => steps? pool rest r f

end Round

end ServiceHealth
