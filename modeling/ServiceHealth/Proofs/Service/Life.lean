import Mathlib.Data.List.DropRight
import Mathlib.Data.List.Induction
import ServiceHealth.Proofs.Lookup

/-!
# The life of a record

A record mixes what its first registration said with what the latest one said and what was written
since. All of it is a matter of the calls about one id since its record was last removed: that is
the life of the record, and the catalog holds what this life leads to.
-/
namespace ServiceHealth.Catalog

inductive Call where
  | register (r : Registration)
  | deregister (id : String)
  | updateMetadata (id : String) (pairs : List (String × String))
  | purge (id : String)

/-- The catalog after a call; one that fails leaves it. -/
def perform (now : Timestamp) (c : Catalog) : Call → Catalog
  | .register r =>
      match c.register now r with
      | .ok (_, next) => next
      | .error _ => c
  | .deregister id =>
      match c.deregister now id with
      | .ok (_, next) => next
      | .error _ => c
  | .updateMetadata id pairs =>
      match c.updateMetadata id pairs with
      | .ok (_, next) => next
      | .error _ => c
  | .purge id => (c.purge id).2

def run (c : Catalog) : List (Timestamp × Call) → Catalog
  | [] => c
  | (now, call) :: rest => (c.perform now call).run rest

/-- What a call means for the record under an id. -/
inductive Event where
  | registered (now : Timestamp) (r : Registration)
  | left (now : Timestamp)
  | wrote (pairs : List (String × String))
  | removed

namespace Event

def registration? : Event → Option (Timestamp × Registration)
  | .registered now r => some (now, r)
  | _ => none

def leftAt? : Event → Option Timestamp
  | .left now => some now
  | _ => none

def pairs : Event → List (String × String)
  | .wrote pairs => pairs
  | _ => []

def isRemoval : Event → Bool
  | .removed => true
  | _ => false

def act (e : Event) (record : Option Instance) : Option Instance :=
  match e with
  | .registered now r => some (.ofRegistration r ((record.map (·.registeredAt)).getD now))
  | .left now =>
      record.map fun i => { i with deregisteredAt := some (i.deregisteredAt.getD now) }
  | .wrote pairs => record.map fun i => { i with metadata := i.metadata.merge pairs }
  | .removed => none

/-- The events after the last removal. -/
def sinceRemoval (events : List Event) : List Event := events.rtakeWhile fun e => !e.isRemoval

theorem sinceRemoval_concat (events : List Event) (e : Event) :
    sinceRemoval (events ++ [e]) = if e.isRemoval then [] else sinceRemoval events ++ [e] := by
  rw [sinceRemoval, List.rtakeWhile_concat]
  cases e.isRemoval <;> rfl

end Event

/-- Accepted registrations count under the id of the instance, departures and writes under the id
that they name, and so does a purge that removes a record. -/
def event? (c : Catalog) (id : String) (now : Timestamp) : Call → Option Event
  | .register r => if r.serviceId = id ∧ r.check.isOk then some (.registered now r) else none
  | .deregister subject => if subject = id then some (.left now) else none
  | .updateMetadata subject pairs => if subject = id then some (.wrote pairs) else none
  | .purge subject => if subject = id ∧ (c.purge subject).1.isSome then some .removed else none

/-- What calls mean for the record under an id, in their order. -/
def events (id : String) (c : Catalog) : List (Timestamp × Call) → List Event
  | [] => []
  | (now, call) :: rest => (c.event? id now call).toList ++ events id (c.perform now call) rest

/-- A life under way: when it began, the latest registration, and what happened since that. -/
structure Life where
  began : Timestamp
  latest : Registration
  since : List Event

/-- The life that some events make up. It begins with the first registration; without one there is
none. -/
def Life.ofEvents? (events : List Event) : Option Life :=
  match events.filterMap Event.registration? with
  | [] => none
  | first :: later =>
      some
        { began := first.1
          latest := (later.getLastD first).2
          since := events.rtakeWhile fun e => e.registration?.isNone }

namespace Life

/-- The metadata written since the latest registration, in its order. -/
def written (l : Life) : List (String × String) := l.since.flatMap Event.pairs

/-- The time of the first departure since the latest registration. -/
def left? (l : Life) : Option Timestamp := l.since.findSome? Event.leftAt?

def record (l : Life) (id : String) : Instance where
  serviceId := id
  serviceName := l.latest.serviceName
  address := l.latest.address
  port := l.latest.port
  protocol := l.latest.protocol
  metadata := l.latest.metadata.merge l.written
  registeredAt := l.began
  deregisteredAt := l.left?

/-- One more event that is no registration. -/
def extend (l : Life) (e : Event) : Life := { l with since := l.since ++ [e] }

theorem record_extend_left (l : Life) (id : String) (now : Timestamp) :
    (l.extend (.left now)).record id =
      { l.record id with deregisteredAt := some ((l.record id).deregisteredAt.getD now) } := by
  have hwritten : (l.extend (.left now)).written = l.written := by
    simp [written, extend, Event.pairs]
  have hleft : (l.extend (.left now)).left? = some (l.left?.getD now) := by
    rw [left?, extend, List.findSome?_append, ← left?]
    cases l.left? <;> rfl
  simp only [record, hwritten, hleft]
  rfl

theorem record_extend_wrote (l : Life) (id : String) (pairs : List (String × String)) :
    (l.extend (.wrote pairs)).record id =
      { l.record id with metadata := (l.record id).metadata.merge pairs } := by
  have hwritten : (l.extend (.wrote pairs)).written = l.written ++ pairs := by
    simp [written, extend, Event.pairs]
  have hleft : (l.extend (.wrote pairs)).left? = l.left? := by
    rw [left?, extend, List.findSome?_append, ← left?]
    exact Option.or_none
  simp only [record, hwritten, hleft, Metadata.merge, List.foldl_append]
  rfl

/-- A registration goes on with the life under way, or begins one. -/
theorem ofEvents?_concat_registered (events : List Event) (now : Timestamp) (r : Registration) :
    ofEvents? (events ++ [.registered now r]) =
      some ⟨((ofEvents? events).map began).getD now, r, []⟩ := by
  have hsince : (events ++ [Event.registered now r]).rtakeWhile
      (fun e => e.registration?.isNone) = [] :=
    List.rtakeWhile_concat_neg _ _ _ (by simp [Event.registration?])
  have hmap : (events ++ [Event.registered now r]).filterMap Event.registration? =
      events.filterMap Event.registration? ++ [(now, r)] := List.filterMap_append
  rw [ofEvents?, ofEvents?, hsince, hmap]
  cases events.filterMap Event.registration? with
  | nil => rfl
  | cons first later => simp

/-- Any other event adds to the life under way. -/
theorem ofEvents?_concat_other (events : List Event) {e : Event} (he : e.registration? = none) :
    ofEvents? (events ++ [e]) = (ofEvents? events).map (·.extend e) := by
  have hsince : (events ++ [e]).rtakeWhile (fun e => e.registration?.isNone) =
      events.rtakeWhile (fun e => e.registration?.isNone) ++ [e] :=
    List.rtakeWhile_concat_pos _ _ _ (by simp [he])
  have hmap : (events ++ [e]).filterMap Event.registration? =
      events.filterMap Event.registration? := by
    simp [he]
  rw [ofEvents?, ofEvents?, hsince, hmap]
  cases events.filterMap Event.registration? <;> rfl

/-- A life that goes on leads to what the event makes of the record that it led to before. -/
theorem record_concat {id : String} {e : Event}
    (hid : ∀ now r, e = .registered now r → r.serviceId = id) (events : List Event) :
    (ofEvents? (Event.sinceRemoval (events ++ [e]))).map (·.record id) =
      e.act ((ofEvents? (Event.sinceRemoval events)).map (·.record id)) := by
  rw [Event.sinceRemoval_concat]
  cases e with
  | registered now r =>
    obtain rfl := hid now r rfl
    simp only [Event.isRemoval, Bool.false_eq_true, if_false, Event.act, Option.map_map,
      ofEvents?_concat_registered]
    rfl
  | left now =>
    simp only [Event.isRemoval, Bool.false_eq_true, if_false, Event.act, Option.map_map,
      ofEvents?_concat_other _ (e := .left now) rfl, Function.comp_def, record_extend_left]
  | wrote pairs =>
    simp only [Event.isRemoval, Bool.false_eq_true, if_false, Event.act, Option.map_map,
      ofEvents?_concat_other _ (e := .wrote pairs) rfl, Function.comp_def, record_extend_wrote]
  | removed => rfl

end Life

variable {c : Catalog}

/-- A record that gives way to a newer version of itself. -/
theorem find?_replace (hc : c.Keyed) (change : Instance → Instance)
    (hsame : ∀ i, (change i).serviceId = i.serviceId) (subject id : String) :
    (((c.find? subject).map fun i => c.put (change i)).getD c).find? id =
      if subject = id then (c.find? id).map change else c.find? id := by
  cases hfind : c.find? subject with
  | none =>
    split
    · subst id
      simp [hfind]
    · rfl
  | some i =>
    rw [Option.map_some, Option.getD_some, find?_put, hsame, hc subject i hfind]
    by_cases hid : subject = id
    · subst id
      simp [hfind]
    · rw [if_neg hid, if_neg (Ne.symm hid)]

/-- What a call means for a record is what it does to it. -/
theorem find?_perform (hc : c.Keyed) (id : String) (now : Timestamp) (call : Call) :
    (c.perform now call).find? id =
      (c.event? id now call).elim (c.find? id) fun e => e.act (c.find? id) := by
  cases call with
  | register r =>
    simp only [perform, register_eq, event?]
    cases hcheck : r.check with
    | error cause => simp [Except.isOk, Except.toBool]
    | ok _ =>
      have hserved (since : Timestamp) :
          (Instance.ofRegistration r since).serviceId = r.serviceId := rfl
      by_cases hid : r.serviceId = id
      · subst id
        simp [hserved, Except.isOk, Except.toBool, Event.act]
      · simp [hserved, hid, Ne.symm hid]
  | deregister subject =>
    have hperform : c.perform now (.deregister subject) = ((c.find? subject).map fun i =>
        c.put { i with deregisteredAt := some (i.deregisteredAt.getD now) }).getD c := by
      rw [perform, deregister_eq]
      cases c.find? subject <;> rfl
    rw [hperform, event?, find?_replace hc
      (fun i => { i with deregisteredAt := some (i.deregisteredAt.getD now) }) fun _ => rfl]
    split <;> rfl
  | updateMetadata subject pairs =>
    have hperform : c.perform now (.updateMetadata subject pairs) = ((c.find? subject).map fun i =>
        c.put { i with metadata := i.metadata.merge pairs }).getD c := by
      rw [perform, updateMetadata_eq]
      cases c.find? subject <;> rfl
    rw [hperform, event?,
      find?_replace hc (fun i => { i with metadata := i.metadata.merge pairs }) fun _ => rfl]
    split <;> rfl
  | purge subject =>
    simp only [perform, find?_purge, event?, purge_fst]
    by_cases hid : subject = id
    · subst id
      cases hfind : c.find? subject with
      | none => simp
      | some i => cases hi : i.isActive <;> simp [Option.filter, hi, Event.act]
    · simp [hid, Ne.symm hid]

theorem serviceId_of_event? {id : String} {now since : Timestamp} {call : Call} {r : Registration}
    (h : c.event? id now call = some (.registered since r)) : r.serviceId = id := by
  cases call with
  | register r' =>
    simp only [event?, Option.ite_none_right_eq_some, Option.some.injEq] at h
    obtain ⟨⟨hid, -⟩, heq⟩ := h
    cases heq
    exact hid
  | _ => simp [event?] at h

theorem keyed_empty : empty.Keyed := fun _ _ h => by contradiction

theorem keyed_perform (hc : c.Keyed) (now : Timestamp) (call : Call) :
    (c.perform now call).Keyed := by
  intro id i hi
  rw [find?_perform hc] at hi
  cases hevent : c.event? id now call with
  | none =>
    rw [hevent] at hi
    exact hc id i hi
  | some e =>
    rw [hevent] at hi
    cases e with
    | registered since r =>
      obtain rfl := Option.some.inj hi
      exact serviceId_of_event? hevent
    | left since =>
      obtain ⟨j, hj, rfl⟩ := Option.map_eq_some_iff.mp hi
      exact hc id j hj
    | wrote pairs =>
      obtain ⟨j, hj, rfl⟩ := Option.map_eq_some_iff.mp hi
      exact hc id j hj
    | removed => contradiction

theorem run_concat (c : Catalog) (calls : List (Timestamp × Call)) (now : Timestamp)
    (call : Call) : c.run (calls ++ [(now, call)]) = (c.run calls).perform now call := by
  induction calls generalizing c with
  | nil => rfl
  | cons first rest ih => exact ih _

theorem events_concat (c : Catalog) (id : String) (calls : List (Timestamp × Call))
    (now : Timestamp) (call : Call) : events id c (calls ++ [(now, call)]) =
      events id c calls ++ ((c.run calls).event? id now call).toList := by
  induction calls generalizing c with
  | nil => simp [events, run]
  | cons first rest ih =>
    rw [List.cons_append, events, events, ih, List.append_assoc]
    rfl

theorem keyed_run (hc : c.Keyed) (calls : List (Timestamp × Call)) : (c.run calls).Keyed := by
  induction calls generalizing c with
  | nil => exact hc
  | cons first rest ih => exact ih (keyed_perform hc first.1 first.2)

/-- The life of the record under an id after some calls. -/
def life? (id : String) (calls : List (Timestamp × Call)) : Option Life :=
  Life.ofEvents? (Event.sinceRemoval (events id empty calls))

/-- The record under an id is the one that its life leads to. -/
theorem find?_run (id : String) (calls : List (Timestamp × Call)) :
    (empty.run calls).find? id = (life? id calls).map (·.record id) := by
  -- from the right, since the latest registration decides on the description
  induction calls using List.reverseRecOn with
  | nil => rfl
  | append_singleton calls last ih =>
    obtain ⟨now, call⟩ := last
    rw [run_concat, find?_perform (keyed_run keyed_empty calls), life?, events_concat, ih]
    cases hevent : (empty.run calls).event? id now call with
    | none =>
      rw [Option.toList_none, List.append_nil]
      rfl
    | some e =>
      have hid (since : Timestamp) (r : Registration) (he : e = .registered since r) :
          r.serviceId = id := serviceId_of_event? (he ▸ hevent)
      rw [Option.toList_some, Life.record_concat hid]
      rfl

/-- A registration that is accepted answers with the record that it replaces, which had left exactly
if the instance is back. -/
theorem register_of_check {now : Timestamp} {r : Registration} (h : r.check = .ok ())
    (c : Catalog) : ∃ done, c.register now r = .ok (done, c.perform now (.register r)) ∧
      done.previous = c.find? r.serviceId ∧
      (c.perform now (.register r)).find? r.serviceId = some done.record ∧
      (done.isRevival ↔ ∃ i ∈ c.find? r.serviceId, i.deregisteredAt.isSome) := by
  refine ⟨⟨.ofRegistration r (((c.find? r.serviceId).map (·.registeredAt)).getD now),
    c.find? r.serviceId⟩, ?_, rfl, ?_, ?_⟩
  · rw [perform, register_eq, h]
  · rw [perform, register_eq, h]
    exact (find?_put ..).trans (if_pos rfl)
  · rw [Registered.isRevival]
    cases c.find? r.serviceId with
    | none => simp
    | some i => cases hi : i.deregisteredAt <;> simp [Instance.isActive, hi]

-- An instance that left twice and came back has been registered since the first time.
example :
    let orders : Registration := ⟨"i1", "orders", "10.0.0.5", 8080, .http, .empty⟩
    let c := empty.run [(⟨1⟩, .register orders), (⟨2⟩, .deregister "i1"), (⟨3⟩, .deregister "i1"),
      (⟨4⟩, .register { orders with port := 9090 }), (⟨5⟩, .register { orders with port := 0 })]
    (c.find? "i1").map (fun i => (i.registeredAt, i.port, i.deregisteredAt)) =
      some (⟨1⟩, 9090, none) := by decide

end ServiceHealth.Catalog
