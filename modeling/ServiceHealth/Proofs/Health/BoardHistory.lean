import Mathlib.Data.List.DropRight
import Mathlib.Data.List.Induction
import ServiceHealth.Proofs.Fleet.InStep

/-!
# The history of a report

A report on the board is written in two ways: posting replaces the whole of it, refreshing only its
description. What is stored is the last report that was posted since the last purge, described as
the last refresh since then said.
-/
namespace ServiceHealth

/-- Two reports say the same about the health of an instance. -/
structure Report.SameHealth (r s : Report) : Prop where
  status : r.status = s.status
  failures : r.failures = s.failures
  successes : r.successes = s.successes
  lastProbe : r.lastProbe = s.lastProbe
  lastProbeType : r.lastProbeType = s.lastProbeType
  message : r.message = s.message
  latencyMs : r.latencyMs = s.latencyMs

theorem Report.SameHealth.refl (r : Report) : r.SameHealth r := ⟨rfl, rfl, rfl, rfl, rfl, rfl, rfl⟩

theorem Report.SameHealth.describe (r : Report) (i : Instance) : (r.describe i).SameHealth r :=
  ⟨rfl, rfl, rfl, rfl, rfl, rfl, rfl⟩

namespace Board

inductive Call where
  | post (r : Report)
  | refresh (i : Instance)
  | purge (id : String)

def perform (b : Board) : Call → Board
  | .post r => (b.post r).2
  | .refresh i => (b.refresh i).2
  | .purge id => (b.purge id).2

def run (b : Board) (calls : List Call) : Board := calls.foldl perform b

/-- What a call means for the report under an id. -/
inductive Event where
  | posted (r : Report)
  | described (i : Instance)
  | purged

namespace Event

def isPurge : Event → Bool
  | .purged => true
  | _ => false

/-- What is posted or described is the instance with an id. -/
def IsAbout (id : String) : Event → Prop
  | .posted r => r.serviceId = id
  | .described i => i.serviceId = id
  | .purged => True

def act (e : Event) (report : Option Report) : Option Report :=
  match e with
  | .posted r => some r
  | .described i => report.map (·.describe i)
  | .purged => none

/-- The events after the last purge. -/
def sincePurge (events : List Event) : List Event := events.rtakeWhile fun e => !e.isPurge

theorem sincePurge_concat (events : List Event) (e : Event) :
    sincePurge (events ++ [e]) = if e.isPurge then [] else sincePurge events ++ [e] := by
  rw [sincePurge, List.rtakeWhile_concat]
  cases e.isPurge <;> rfl

end Event

/-- Posts and refreshes count under the id of what they carry, and a purge counts under the id that
it names if it succeeds. -/
def event? (b : Board) (id : String) : Call → Option Event
  | .post r => if r.serviceId = id then some (.posted r) else none
  | .refresh i => if i.serviceId = id then some (.described i) else none
  | .purge subject => if subject = id ∧ (b.purge subject).1.isOk then some .purged else none

/-- What calls mean for the report under an id, in their order. -/
def events (id : String) (b : Board) : List Call → List Event
  | [] => []
  | call :: rest => (b.event? id call).toList ++ events id (b.perform call) rest

/-- What a board that began with nothing stores after events without a purge: nothing as long as
nothing was posted, and otherwise the last report that was posted, with the last description that
came after it. -/
inductive Tells : List Event → Option Report → Prop
  | nothing {events : List Event} (h : ∀ r, .posted r ∉ events) : Tells events none
  | report (before : List Event) (r : Report) (later : List Instance) :
      Tells (before ++ .posted r :: later.map .described)
        (some (later.getLast?.elim r r.describe))

theorem Tells.isSome_iff {events : List Event} {stored : Option Report}
    (h : Tells events stored) : stored.isSome ↔ ∃ r, .posted r ∈ events := by
  cases h with
  | nothing hnone => exact iff_of_false (by simp) fun ⟨r, hr⟩ => hnone r hr
  | report before r later => exact iff_of_true rfl ⟨r, by simp⟩

theorem Tells.of_some {events : List Event} {r : Report} (h : Tells events (some r)) :
    ∃ (before : List Event) (posted : Report) (later : List Instance),
      events = before ++ .posted posted :: later.map .described ∧
      r = later.getLast?.elim posted posted.describe := by
  cases h with
  | report before posted later => exact ⟨before, posted, later, rfl, rfl⟩

theorem Tells.act {events : List Event} {stored : Option Report}
    (h : Tells (Event.sincePurge events) stored) (e : Event) :
    Tells (Event.sincePurge (events ++ [e])) (e.act stored) := by
  rw [Event.sincePurge_concat]
  cases e with
  | posted r => exact .report (Event.sincePurge events) r []
  | purged => exact .nothing (by simp [Event.isPurge])
  | described i =>
    simp only [Event.isPurge, Bool.false_eq_true, if_false]
    generalize Event.sincePurge events = since at h
    cases h with
    | nothing hnone => exact .nothing (by simpa using hnone)
    | report before r later =>
      have hsplit : before ++ Event.posted r :: later.map .described ++ [.described i] =
          before ++ .posted r :: (later ++ [i]).map .described := by simp
      have hstored : Event.act (.described i) (some (later.getLast?.elim r r.describe)) =
          some ((later ++ [i]).getLast?.elim r r.describe) := by
        rw [List.getLast?_concat]
        cases later.getLast? <;> rfl
      rw [hsplit, hstored]
      exact .report before r (later ++ [i])

variable {b : Board}

theorem isOk_purge (b : Board) (id : String) : (b.purge id).1.isOk = (b.find? id).isSome := by
  rw [purge_eq]
  cases b.find? id <;> rfl

/-- What a call means for a report is what it does to it. -/
theorem find?_perform (b : Board) (id : String) (call : Call) :
    (b.perform call).find? id =
      (b.event? id call).elim (b.find? id) fun e => e.act (b.find? id) := by
  cases call with
  | post r =>
    rw [perform, event?, find?_post]
    by_cases hid : r.serviceId = id
    · rw [if_pos hid, if_pos hid.symm]
      rfl
    · rw [if_neg hid, if_neg (Ne.symm hid)]
      rfl
  | refresh i =>
    rw [perform, event?, find?_refresh]
    by_cases hid : i.serviceId = id
    · rw [if_pos hid, if_pos hid.symm]
      rfl
    · rw [if_neg hid, if_neg (Ne.symm hid)]
      rfl
  | purge subject =>
    have hperform : b.perform (.purge subject) = b.remove subject := rfl
    rw [hperform, event?, isOk_purge, find?_remove]
    by_cases hid : subject = id
    · subst id
      cases b.find? subject <;> simp [Event.act]
    · simp [hid, Ne.symm hid]

theorem isAbout_of_event? {id : String} {call : Call} {e : Event}
    (h : b.event? id call = some e) : e.IsAbout id := by
  cases call with
  | post r =>
    obtain ⟨hid, rfl⟩ : r.serviceId = id ∧ .posted r = e := by simpa [event?] using h
    exact hid
  | refresh i =>
    obtain ⟨hid, rfl⟩ : i.serviceId = id ∧ .described i = e := by simpa [event?] using h
    exact hid
  | purge subject =>
    simp only [event?, Option.ite_none_right_eq_some, Option.some.injEq] at h
    obtain ⟨-, rfl⟩ := h
    trivial

theorem isAbout_of_mem_events {id : String} {calls : List Call} {e : Event}
    (h : e ∈ events id b calls) : e.IsAbout id := by
  induction calls generalizing b with
  | nil => contradiction
  | cons call rest ih =>
    obtain h | h := List.mem_append.mp h
    · exact isAbout_of_event? (Option.mem_toList.mp h)
    · exact ih h

theorem keyed_empty : empty.Keyed := fun _ _ h => by contradiction

theorem keyed_perform (hb : b.Keyed) (call : Call) : (b.perform call).Keyed := by
  intro id r hr
  rw [find?_perform] at hr
  cases hevent : b.event? id call with
  | none =>
    rw [hevent] at hr
    exact hb id r hr
  | some e =>
    rw [hevent] at hr
    cases e with
    | posted r' =>
      obtain rfl := Option.some.inj hr
      exact isAbout_of_event? hevent
    | described i =>
      obtain ⟨r', hr', rfl⟩ := Option.map_eq_some_iff.mp hr
      exact hb id r' hr'
    | purged => contradiction

theorem keyed_run (hb : b.Keyed) (calls : List Call) : (b.run calls).Keyed := by
  induction calls generalizing b with
  | nil => exact hb
  | cons first rest ih => exact ih (keyed_perform hb first)

theorem run_concat (b : Board) (calls : List Call) (call : Call) :
    b.run (calls ++ [call]) = (b.run calls).perform call := by
  rw [run, List.foldl_concat]
  rfl

theorem events_concat (b : Board) (id : String) (calls : List Call) (call : Call) :
    events id b (calls ++ [call]) =
      events id b calls ++ ((b.run calls).event? id call).toList := by
  induction calls generalizing b with
  | nil => simp [events, run]
  | cons first rest ih =>
    rw [List.cons_append, events, events, ih, List.append_assoc]
    rfl

/-- The report under an id is what the calls about it since the last purge tell. -/
theorem tells_run (id : String) (calls : List Call) :
    Tells (Event.sincePurge (events id empty calls)) ((empty.run calls).find? id) := by
  -- from the right, since the last post and the last refresh decide
  induction calls using List.reverseRecOn with
  | nil => exact .nothing (by simp [events, Event.sincePurge])
  | append_singleton calls call ih =>
    rw [run_concat, find?_perform, events_concat]
    cases (empty.run calls).event? id call with
    | none =>
      rw [Option.toList_none, List.append_nil]
      exact ih
    | some e => exact ih.act e

theorem isSome_find?_refresh (b : Board) (i : Instance) (id : String) :
    ((b.refresh i).2.find? id).isSome = (b.find? id).isSome := by
  rw [find?_refresh]
  split
  · exact Option.isSome_map
  · rfl

/-- The board is its history. After every run of calls there is a report under an id exactly if one
was posted under it since the last purge that succeeded. It is stored under its own id, it says of
the health what the last of these said, and it is described as the last refresh after that one said,
or as it was posted if there was none. Refreshing tells whether there is a report, and makes none.
All reports are listed once, in the order of the ids, and those on a service are the ones among them
that now carry its name, letter case aside. -/
theorem board_is_history (calls : List Call) :
    let b := empty.run calls
    (∀ id, (∃ r, b.get id = .ok r) ↔
      ∃ posted, Event.posted posted ∈ Event.sincePurge (events id empty calls)) ∧
    (∀ id r, b.get id = .ok r → r.serviceId = id ∧ ∃ before posted later,
      Event.sincePurge (events id empty calls) =
        before ++ .posted posted :: later.map .described ∧
      r.SameHealth posted ∧ (later = [] → r = posted) ∧ ∀ i ∈ later.getLast?, r.Describes i) ∧
    (∀ i, ((b.refresh i).1 ↔ ∃ r, b.get i.serviceId = .ok r) ∧
      ∀ id, (∃ r, (b.refresh i).2.get id = .ok r) ↔ ∃ r, b.get id = .ok r) ∧
    b.all.Pairwise (fun r s => r.serviceId < s.serviceId) ∧
    (∀ id r, b.get id = .ok r ↔ r ∈ b.all ∧ r.serviceId = id) ∧
    ∀ name, b.ofService name =
      b.all.filter fun r => Text.fold r.serviceName = Text.fold name := by
  intro b
  have hb : b.Keyed := keyed_run keyed_empty calls
  have htells (id : String) :
      Tells (Event.sincePurge (events id empty calls)) (b.find? id) := tells_run id calls
  refine ⟨fun id => ?_, fun id r hget => ?_, fun i => ⟨?_, fun id => ?_⟩, all_ascending hb,
    fun id r => ?_, b.ofService_eq⟩
  · simp only [get_eq_ok_iff]
    rw [← Option.isSome_iff_exists]
    exact (htells id).isSome_iff
  · rw [get_eq_ok_iff] at hget
    have hid := hb id r hget
    obtain ⟨before, posted, later, hevents, hr⟩ := (hget ▸ htells id).of_some
    refine ⟨hid, before, posted, later, hevents, ?_⟩
    cases hlast : later.getLast? with
    | none =>
      obtain rfl : r = posted := by rw [hr, hlast]; rfl
      exact ⟨.refl r, fun _ => rfl, by simp⟩
    | some i =>
      obtain rfl : r = posted.describe i := by rw [hr, hlast]; rfl
      refine ⟨.describe posted i, fun hnil => by simp [hnil] at hlast, fun j hj => ?_⟩
      obtain rfl := Option.some.inj hj
      have hmem : Event.described i ∈ Event.sincePurge (events id empty calls) := by
        rw [hevents]
        simp [List.mem_of_getLast? hlast]
      have hsame : i.serviceId = id :=
        isAbout_of_mem_events ((List.rtakeWhile_suffix _ _).subset hmem)
      exact Report.describes_describe (hid.trans hsame.symm)
  · simp only [get_eq_ok_iff]
    rw [← Option.isSome_iff_exists]
    rfl
  · simp only [get_eq_ok_iff]
    rw [← Option.isSome_iff_exists, ← Option.isSome_iff_exists, isSome_find?_refresh]
  · rw [get_eq_ok_iff, mem_all hb]
    constructor
    · intro hfind
      have hid := hb id r hfind
      exact ⟨hid ▸ hfind, hid⟩
    · rintro ⟨hfind, rfl⟩
      exact hfind

end Board

end ServiceHealth
