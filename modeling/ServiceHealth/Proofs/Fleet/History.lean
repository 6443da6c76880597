import ServiceHealth.Proofs.Fleet.InStep
import ServiceHealth.Proofs.Health.Hysteresis

/-!
# Health is history

The fleet keeps standings in a table that registrations, purges and late outcomes reach from many
sides. Under one id all this comes down to a list: the outcomes that counted since the health was
last reset. The standing is what those outcomes make of the initial one.
-/
namespace ServiceHealth.Fleet

/-- What a call means for the health under one id. -/
inductive Event where
  | reading (r : Reading)
  | reset

namespace Event

def isReset : Event → Bool
  | .reading _ => false
  | .reset => true

/-- The outcome that counts, if it is one. -/
def reading? : Event → Option Reading
  | .reading r => some r
  | .reset => none

/-- The outcomes after the last reset. -/
def sinceReset (events : List Event) : List Reading :=
  (events.rtakeWhile fun e => !e.isReset).filterMap reading?

@[simp] theorem sinceReset_nil : sinceReset [] = [] := rfl

@[simp] theorem sinceReset_concat_reset (events : List Event) :
    sinceReset (events ++ [.reset]) = [] := by
  simp [sinceReset, isReset]

@[simp] theorem sinceReset_concat_reading (events : List Event) (r : Reading) :
    sinceReset (events ++ [.reading r]) = sinceReset events ++ [r] := by
  simp [sinceReset, isReset, reading?]

theorem sinceReset_append_of_nil {first : List Event} (h : sinceReset first = [])
    (second : List Event) : sinceReset (first ++ second) = sinceReset second := by
  induction second using List.reverseRecOn with
  | nil => simpa using h
  | append_singleton second e ih =>
    rw [← List.append_assoc]
    cases e with
    | reset => rw [sinceReset_concat_reset, sinceReset_concat_reset]
    | reading r => rw [sinceReset_concat_reading, sinceReset_concat_reading, ih]

end Event

/-- An outcome counts under the id of its instance as long as the record there is active. The
health is reset by an instance that leaves and by a purge, if they succeed. -/
def event? (f : Fleet) (id : String) (now : Timestamp) : Call → Option Event
  | .applyOutcome probed outcome =>
      if probed.serviceId = id ∧ f.catalog.isActive id then
        some (.reading ⟨now, probed.protocol, outcome⟩)
      else none
  | .deregister subject =>
      if subject = id ∧ (f.deregister now subject).1.isOk then some .reset else none
  | .purge subject => if subject = id ∧ (f.purge subject).1.isOk then some .reset else none
  | .register _ => none
  | .updateMetadata _ _ => none

/-- What calls mean for the health under one id, in their order. -/
def events (id : String) (f : Fleet) : List (Timestamp × Call) → List Event
  | [] => []
  | (now, c) :: rest => (f.event? id now c).toList ++ events id (f.perform now c).2 rest

/-- The outcomes that count under an id after calls. -/
def readings (f : Fleet) (id : String) (calls : List (Timestamp × Call)) : List Reading :=
  Event.sinceReset (f.events id calls)

theorem events_append (f : Fleet) (id : String) (first second : List (Timestamp × Call)) :
    f.events id (first ++ second) = f.events id first ++ (f.run first).events id second := by
  induction first generalizing f with
  | nil => rfl
  | cons call rest ih => simp [events, run, ih]

theorem events_concat (f : Fleet) (id : String) (calls : List (Timestamp × Call))
    (call : Timestamp × Call) : f.events id (calls ++ [call]) =
      f.events id calls ++ ((f.run calls).event? id call.1 call.2).toList := by
  simp [events_append, events]

theorem event?_of_ne {f : Fleet} {id : String} {c : Call} (hid : id ≠ c.subject)
    (now : Timestamp) : f.event? id now c = none := by
  cases c with
  | register r => rfl
  | deregister subject => exact if_neg fun h => hid h.1.symm
  | updateMetadata subject pairs => rfl
  | purge subject => exact if_neg fun h => hid h.1.symm
  | applyOutcome probed outcome => exact if_neg fun h => hid h.1.symm

variable {f : Fleet} {id : String}

/-- What a call means for the standing under an id is what it does to it. -/
theorem standing_perform (hf : f.catalog.Keyed) (h : (f.entry id).InStep) (now : Timestamp)
    (c : Call) :
    ((f.perform now c).2.entry id).standing = match f.event? id now c with
      | none => (f.entry id).standing
      | some .reset => none
      | some (.reading r) => some ((((f.entry id).standing.getD .initial).observe
          f.standings.thresholds r.time r.protocol r.outcome).1) := by
  by_cases hid : id = c.subject
  · subst id
    rw [entry_perform_self now hf c]
    cases c with
    | register r =>
      simp only [Entry.perform, Entry.register, event?]
      split
      · rfl
      split
      · rename_i hleft
        exact (h.standing_eq_none hleft).symm
      · rfl
    | deregister subject =>
      have hanswer := (deregister_entry now subject hf subject).1
      simp only [Entry.perform, event?, Call.subject, hanswer, true_and]
      cases hrecord : (f.entry subject).record <;> simp [Entry.deregister, hrecord, Except.isOk,
        Except.toBool]
    | updateMetadata subject pairs =>
      simp only [Entry.perform, Entry.updateMetadata, event?]
      split <;> rfl
    | purge subject =>
      have hanswer := (purge_entry f subject subject).1
      simp only [Entry.perform, event?, Call.subject, hanswer, true_and]
      -- a purge fails where nothing is held, and then there is no standing to lose
      cases hrecord : (f.entry subject).record with
      | none =>
        obtain ⟨hs, hr⟩ := h.eq_none hrecord
        simp only [Call.subject] at hs hr
        simp [Entry.purge, hrecord, hs, hr, Except.isOk, Except.toBool]
      | some i => cases hr : (f.entry subject).report <;> simp [Entry.purge, hrecord, hr,
          Except.isOk, Except.toBool]
    | applyOutcome probed outcome =>
      have hrecord : (f.entry probed.serviceId).record = f.catalog.find? probed.serviceId := rfl
      simp only [Entry.perform, Entry.applyOutcome, event?, Call.subject, Catalog.isActive_eq,
        hrecord, true_and, ← Option.isSome_filter]
      cases (f.catalog.find? probed.serviceId).filter Instance.isActive <;> rfl
  · rw [entry_perform_of_ne now id hf hid, event?_of_ne hid]

/-- The standing that readings lead to; none if there were no readings. -/
def standingAfter (t : Thresholds) (readings : List Reading) : Option Standing :=
  if readings = [] then none else some (Standing.initial.after t readings)

theorem standingAfter_getD (t : Thresholds) (readings : List Reading) :
    (standingAfter t readings).getD .initial = Standing.initial.after t readings := by
  unfold standingAfter
  split
  · subst readings
    rfl
  · rfl

/-- After every run the standing under an id is what the readings since the last reset lead to. -/
theorem standing_run (t : Thresholds) (metered : Bool) (calls : List (Timestamp × Call))
    (id : String) : (((empty t metered).run calls).entry id).standing =
      standingAfter t ((empty t metered).readings id calls) := by
  induction calls using List.reverseRecOn with
  | nil => rfl
  | append_singleton calls call ih =>
    have hkeyed := keyed_run t metered calls
    have hstep := entry_inStep_run t metered calls id
    rw [run_concat, standing_perform hkeyed hstep, readings, events_concat]
    cases ((empty t metered).run calls).event? id call.1 call.2 with
    | none => simpa [readings] using ih
    | some e =>
      cases e with
      | reset => simp [standingAfter]
      | reading r =>
        rw [ih, standingAfter_getD, thresholds_run]
        simp [standingAfter, readings]

/-- The answer to an outcome: it counts exactly if the record is active, and the change of status
is the one that the standing makes. -/
theorem applyOutcome_answer (hf : f.catalog.Keyed) (now : Timestamp) (probed : Instance)
    (outcome : Probe.Outcome) :
    ((f.applyOutcome now probed outcome).1.isSome ↔ f.catalog.isActive probed.serviceId) ∧
    ∀ a ∈ (f.applyOutcome now probed outcome).1, a.transition =
      (((f.entry probed.serviceId).standing.getD .initial).observe f.standings.thresholds now
        probed.protocol outcome).2 := by
  have hrecord : (f.entry probed.serviceId).record = f.catalog.find? probed.serviceId := rfl
  rw [(applyOutcome_entry now probed.serviceId hf probed outcome).1, Catalog.isActive_eq,
    ← Option.isSome_filter, Entry.applyOutcome, hrecord]
  cases (f.catalog.find? probed.serviceId).filter Instance.isActive with
  | none => simp
  | some current => simp

/-- A call that says nothing about the health under an id: it is about another id, it writes
metadata, or it registers an instance. An instance that comes back has lost its standing before. -/
def Bystander (id : String) : Call → Prop
  | .register _ => True
  | .updateMetadata _ _ => True
  | c => c.subject ≠ id

theorem standing_of_bystander (hf : f.catalog.Keyed) (h : (f.entry id).InStep) (now : Timestamp)
    {c : Call} (hc : Bystander id c) :
    ((f.perform now c).2.entry id).standing = (f.entry id).standing := by
  rw [standing_perform hf h]
  cases c with
  | register r => rfl
  | updateMetadata subject pairs => rfl
  | deregister subject => rw [event?_of_ne (Ne.symm hc)]
  | purge subject => rw [event?_of_ne (Ne.symm hc)]
  | applyOutcome probed outcome => rw [event?_of_ne (Ne.symm hc)]

/-- Health is history: after every run the standing under an id is that of the outcomes which
counted there since the last reset, taken in their order from the initial standing. The next
outcome for the id counts exactly if the record is active, and is answered with the change of
status that it makes of that standing. Calls that are no business of the id's health leave it. -/
theorem standing_is_history (t : Thresholds) (metered : Bool) (calls : List (Timestamp × Call))
    (id : String) :
    let f := (empty t metered).run calls
    let readings := (empty t metered).readings id calls
    f.standings.get? id =
      (if readings = [] then none else some (Standing.initial.after t readings)) ∧
    (∀ now probed outcome, probed.serviceId = id →
      ((f.applyOutcome now probed outcome).1.isSome ↔ f.catalog.isActive id) ∧
      ∀ a ∈ (f.applyOutcome now probed outcome).1, a.transition =
        ((Standing.initial.after t readings).observe t now probed.protocol outcome).2) ∧
    ∀ now c, Bystander id c → (f.perform now c).2.standings.get? id = f.standings.get? id := by
  intro f readings
  have hkeyed : f.catalog.Keyed := keyed_run t metered calls
  have hstep : (f.entry id).InStep := entry_inStep_run t metered calls id
  have hstanding : (f.entry id).standing = standingAfter t readings :=
    standing_run t metered calls id
  have ht : f.standings.thresholds = t := thresholds_run t metered calls
  refine ⟨hstanding, ?_, fun now c hc => standing_of_bystander hkeyed hstep now hc⟩
  rintro now probed outcome rfl
  have hanswer := applyOutcome_answer hkeyed now probed outcome
  rwa [hstanding, standingAfter_getD, ht] at hanswer

end ServiceHealth.Fleet
