import ServiceHealth.Fleet.Round

/-!
# The watch

The watch is the loop of rounds. A round begins when the watch rests, and the next one not before it
is over. A watch that is asked to stop sends out no more probes: a round under way is cut short, and
no further round begins.

Like a round the watch moves by steps. When a round is due is up to the world too, so that what
holds for every sequence of steps holds for every interval and every delay.
-/
namespace ServiceHealth

inductive Watch.Phase where
  | resting
  | probing (r : Round)
  | ended

/-- The loop of rounds over a fleet. -/
structure Watch where
  fleet : Fleet
  phase : Watch.Phase
  stopping : Bool

namespace Watch

/-- A watch that has not begun its first round. -/
def start (f : Fleet) : Watch := ⟨f, .resting, false⟩

def isOver (w : Watch) : Bool :=
  match w.phase with
  | .ended => true
  | _ => false

/-- What can happen to a watch. Between its rounds and during them it may be asked to stop, and the
fleet may be changed from outside. -/
inductive Step where
  | begin
  | round (s : Round.Step)
  | finish (duration : Span)
  | ask
  | leave
  | call (c : Fleet.Call)

/-- Probes are sent until the watch is asked to stop, and no round is cut short before. -/
def allows (stopping : Bool) : Round.Step → Bool
  | .dispatch => !stopping
  | .cancel => stopping
  | _ => true

def step? (pool : Nat) (now : Timestamp) (w : Watch) : Step → Option Watch
  | .begin =>
      match w.phase with
      | .resting =>
          if w.stopping then none else some { w with phase := .probing (.ofFleet w.fleet) }
      | _ => none
  | .round s =>
      match w.phase with
      | .probing r =>
          if allows w.stopping s then
            (r.step? pool now w.fleet s).map fun (r, f) =>
              { w with fleet := f, phase := .probing r }
          else none
      | _ => none
  | .finish duration =>
      match w.phase with
      | .probing r =>
          if r.isOver then
            some { w with
              fleet := Round.record duration w.fleet
              phase := if r.summary.cancelled then .ended else .resting }
          else none
      | _ => none
  | .ask => some { w with stopping := true }
  | .leave =>
      match w.phase with
      | .resting => if w.stopping then some { w with phase := .ended } else none
      | _ => none
  | .call c => some { w with fleet := (w.fleet.perform now c).2 }

def steps? (pool : Nat) : List (Timestamp × Step) → Watch → Option Watch
  | [], w => some w
  | (now, s) :: rest, w => (w.step? pool now s).bind (steps? pool rest)

end Watch

end ServiceHealth
