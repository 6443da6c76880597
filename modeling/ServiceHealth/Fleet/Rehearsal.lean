import ServiceHealth.Fleet.Round

/-!
# Rehearsals

A rehearsal runs rounds of probes on a clock of its own, with answers written down beforehand. Time
counts milliseconds from the start of the rehearsal and passes only when all that is left to do is
to wait. Things that happen at the same time happen in this order: requests from outside, probes
that end, in the order in which they began, and probes that begin.

A rehearsal is either of a single round or of the loop of rounds: the first at once, each next one
an interval after the one before was due. A round that is more than five milliseconds late moves
the plan: the next one is due an interval after its start.
-/
namespace ServiceHealth

/-- What a probe is answered, and after how many milliseconds. A probe without an outcome dies. -/
structure Rehearsal.Reply where
  delay : Nat
  outcome : Option Probe.Outcome

/-- The answer of an instance that has none left. -/
def Rehearsal.Reply.usual : Rehearsal.Reply :=
  ⟨0, some (.succeeded (.ofMillis 1) "HTTP 200")⟩

/-- The answers that instances have left, by id. -/
abbrev Rehearsal.Scripts := Table String (List Rehearsal.Reply)

/-- Adds answers to those that an instance has left. -/
def Rehearsal.addReplies (s : Scripts) (id : String) (replies : List Reply) : Scripts :=
  s.insert id ((s.get? id).getD [] ++ replies)

def Rehearsal.addAllReplies (s : Scripts) (replies : List (String × List Reply)) : Scripts :=
  replies.foldl (fun s r => addReplies s r.1 r.2) s

/-- A probe that began. -/
structure Rehearsal.Start where
  time : Nat
  probed : Instance

/-- A probe under way. -/
structure Rehearsal.Flight where
  due : Nat
  probed : Instance
  outcome : Option Probe.Outcome

/-- Something that happens from outside: the fleet is changed, with an answer, or further answers
of instances are written down, or the rehearsal is asked to stop. -/
inductive Rehearsal.Event (α : Type) where
  | stop
  | act (action : Fleet → α × Fleet)
  | script (replies : List (String × List Rehearsal.Reply)) (answer : α)

/-- What the rehearsal is about to do. A round under way was due at a time and began then or later;
while there is none, the next one is due at a time. -/
inductive Rehearsal.Phase where
  | probing (due began : Nat)
  | resting (due : Nat)
  | ended (time : Nat)
  deriving DecidableEq, Repr

/-- The plan of a rehearsal: the milliseconds between rounds, or none for a single round, and the
reading of the clock at each time. -/
structure Rehearsal.Plan where
  pool : Nat
  interval : Option Nat
  clock : Nat → Timestamp

/-- A rehearsal at some time, with what is still to happen from outside. -/
structure Rehearsal (α : Type) where
  time : Nat
  fleet : Fleet
  scripts : Rehearsal.Scripts
  phase : Rehearsal.Phase
  round : Round
  flights : List Rehearsal.Flight
  events : List (Nat × Rehearsal.Event α)
  stopping : Bool
  starts : List Rehearsal.Start
  maxInFlight : Nat
  answers : List (Nat × α)

namespace Rehearsal

variable {α : Type}

/-- A rehearsal that has not begun. -/
def ofFleet (fleet : Fleet) (scripts : Scripts) (events : List (Nat × Event α)) (stopping : Bool) :
    Rehearsal α :=
  { time := 0, fleet, scripts, phase := .resting 0, round := ⟨[], [], ⟨0, 0, 0, 0, 0, false⟩⟩
    flights := [], events, stopping, starts := [], maxInFlight := 0, answers := [] }

def takeReply (r : Rehearsal α) (id : String) : Reply × Rehearsal α :=
  match (r.scripts.get? id).getD [] with
  | reply :: rest => (reply, { r with scripts := r.scripts.insert id rest })
  | [] => (.usual, r)

def land (p : Plan) (r : Rehearsal α) (flight : Flight) : Rehearsal α :=
  match flight.outcome with
  | some outcome =>
      let (round, fleet) := r.round.land (p.clock r.time) flight.probed outcome r.fleet
      { r with round := round, fleet := fleet }
  | none => { r with round := r.round.landed flight.probed.serviceId }

/-- A probe begins; one that is answered without delay ends at once. -/
def launch (p : Plan) (r : Rehearsal α) (i : Instance) : Rehearsal α :=
  let (reply, r) := r.takeReply i.serviceId
  let flight : Flight := ⟨r.time + reply.delay, i, reply.outcome⟩
  let r := { r with
    starts := r.starts ++ [Start.mk r.time i]
    maxInFlight := max r.maxInFlight (r.flights.length + 1) }
  if reply.delay = 0 then r.land p flight else { r with flights := r.flights ++ [flight] }

/-- Begins probes as long as the pool has room. -/
def launchAll (p : Plan) : Nat → Rehearsal α → Rehearsal α
  | 0, r => r
  | more + 1, r =>
      match r.round.dispatch? p.pool with
      | some (i, round) => launchAll p more ({ r with round := round }.launch p i)
      | none => r

def beginRound (p : Plan) (due : Nat) (r : Rehearsal α) : Rehearsal α :=
  let round := Round.ofFleet r.fleet
  { r with
      phase := .probing due r.time
      round := if r.stopping then round.cancel else round }.launchAll p round.waiting.length

/-- The time at which the next round is due after one that was due at a time and began then or
later. -/
def nextDue (interval due began : Nat) : Nat :=
  if due + 5 < began then began + interval else due + interval

/-- Ends a round that has nothing left to do. The loop goes on unless it is to stop. -/
def endRound (p : Plan) (due began : Nat) (r : Rehearsal α) : Rehearsal α :=
  { r with
    fleet := Round.record (.ofMillis (r.time - began)) r.fleet
    phase :=
      match p.interval with
      | some interval =>
          if r.stopping || r.round.summary.cancelled then .ended r.time
          else .resting (nextDue interval due began)
      | none => .ended r.time }

/-- Something happens from outside. -/
def happen (time : Nat) (event : Event α) (rest : List (Nat × Event α)) (r : Rehearsal α) :
    Rehearsal α :=
  let r := { r with time := max r.time time, events := rest }
  match event with
  | .act action =>
      let (answer, fleet) := action r.fleet
      { r with fleet := fleet, answers := r.answers ++ [(time, answer)] }
  | .script replies answer =>
      { r with
        scripts := addAllReplies r.scripts replies
        answers := r.answers ++ [(time, answer)] }
  | .stop =>
      { r with
        stopping := true
        round := r.round.cancel
        phase :=
          match r.phase with
          | .resting _ => .ended r.time
          | phase => phase }

/-- The probes that end first end, and others take their place. -/
def landFirst (p : Plan) (time : Nat) (r : Rehearsal α) : Rehearsal α :=
  let (now, later) := r.flights.partition (·.due ≤ time)
  let r := now.foldl (land p) { r with time := time, flights := later }
  r.launchAll p r.round.waiting.length

/-- What the rehearsal does next by itself, and when. -/
def next (p : Plan) (r : Rehearsal α) : Option (Nat × (Rehearsal α → Rehearsal α)) :=
  match r.phase with
  | .probing due began =>
      match (r.flights.map (·.due)).min? with
      | some time => some (time, landFirst p time)
      | none => some (r.time, endRound p due began)
  | .resting due =>
      let time := max r.time due
      some (time, fun r => { r with time := time }.beginRound p due)
  | .ended _ => none

def advance (p : Plan) (r : Rehearsal α) : Rehearsal α :=
  match r.next p, r.events with
  | some (time, act), (when, event) :: rest =>
      if when ≤ time then r.happen when event rest else act r
  | some (_, act), [] => act r
  | none, (when, event) :: rest => r.happen when event rest
  | none, [] => r

def goOn (p : Plan) : Nat → Rehearsal α → Rehearsal α
  | 0, r => r
  | more + 1, r => goOn p more (r.advance p)

/-- More steps than a rehearsal can take: rounds are at least an interval apart and end for good at
the last event, and each takes a step for every instance and one for its begin and its end. -/
def patience (p : Plan) (r : Rehearsal α) : Nat :=
  let horizon := ((r.events.map Prod.fst).max?).getD 0
  let rounds := horizon / max 1 (p.interval.getD 1) + 2
  rounds * (r.fleet.catalog.size + r.events.length + 3) + r.events.length

def run (p : Plan) (r : Rehearsal α) : Rehearsal α :=
  let r :=
    if p.interval.isNone then r.beginRound p 0
    else if r.stopping then { r with phase := .ended 0 }
    else r
  r.goOn p (r.patience p)

def endTime (r : Rehearsal α) : Nat :=
  match r.phase with
  | .ended time => time
  | _ => r.time

end Rehearsal

end ServiceHealth
