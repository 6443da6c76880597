import ServiceHealth.Proofs.Fleet.Entry

/-!
# The order of times

The clock is read when an instance registers for the first time, when it leaves and when it is
probed. As long as the clock does not go back, what it said stands in this order: a report is taken
away when an instance that had left returns, and an instance that has left is not probed.
-/
namespace ServiceHealth

theorem Timestamp.le_trans {a b c : Timestamp} (hab : a ≤ b) (hbc : b ≤ c) : a ≤ c := by
  rw [le_iff] at *
  omega

theorem Timestamp.le_refl (a : Timestamp) : a ≤ a := Nat.le_refl a.nanos

namespace Fleet

namespace Entry

/-- The times under an id are in order, and none of them is later than `now`. -/
structure Timely (now : Timestamp) (e : Entry) : Prop where
  registered : ∀ i ∈ e.record, i.registeredAt ≤ now
  left : ∀ i ∈ e.record, ∀ leaving ∈ i.deregisteredAt, i.registeredAt ≤ leaving ∧ leaving ≤ now
  probed : ∀ r ∈ e.report, ∃ i ∈ e.record, ∃ probe ∈ r.lastProbe,
    i.registeredAt ≤ probe ∧ probe ≤ now ∧ ∀ leaving ∈ i.deregisteredAt, probe ≤ leaving

variable {t : Thresholds} {before now : Timestamp} {e : Entry}

theorem timely_start (now : Timestamp) : Timely now ⟨none, none, none⟩ := by
  constructor <;> simp

theorem Timely.later (h : e.Timely before) (hnow : before ≤ now) : e.Timely now where
  registered i hi := Timestamp.le_trans (h.registered i hi) hnow
  left i hi leaving hleaving := by
    obtain ⟨hregistered, hbefore⟩ := h.left i hi leaving hleaving
    exact ⟨hregistered, Timestamp.le_trans hbefore hnow⟩
  probed r hr := by
    obtain ⟨i, hi, probe, hprobe, hregistered, hbefore, hleft⟩ := h.probed r hr
    exact ⟨i, hi, probe, hprobe, hregistered, Timestamp.le_trans hbefore hnow, hleft⟩

/-- Without a report only the times of the record are in question. -/
theorem Timely.forget (h : e.Timely now) {record : Option Instance} {standing : Option Standing}
    (hrecord : ∀ i ∈ record, ∀ leaving ∈ i.deregisteredAt, ∃ j ∈ e.record,
      i.registeredAt = j.registeredAt ∧ leaving ∈ j.deregisteredAt)
    (hregistered : ∀ i ∈ record, i.registeredAt ≤ now) : Timely now ⟨record, standing, none⟩ where
  registered := hregistered
  left i hi leaving hleaving := by
    obtain ⟨j, hj, hsame, hleft⟩ := hrecord i hi leaving hleaving
    rw [hsame]
    exact h.left j hj leaving hleft
  probed r hr := by simp at hr

/-- A new record with the same health may take the place of one with the same times. -/
theorem Timely.describe (h : e.Timely now) {i : Instance} (hregistered : i.registeredAt ≤ now)
    (hsame : ∀ j ∈ e.record, i.registeredAt = j.registeredAt ∧ i.deregisteredAt = j.deregisteredAt)
    (hfresh : e.record = none → i.deregisteredAt = none) : (e.describe i).Timely now where
  registered j hj := by
    obtain rfl : i = j := by simpa [Entry.describe] using hj
    exact hregistered
  left j hj leaving hleaving := by
    obtain rfl : i = j := by simpa [Entry.describe] using hj
    cases hrecord : e.record with
    | none =>
      rw [hfresh hrecord] at hleaving
      simp at hleaving
    | some old =>
      obtain ⟨hat, hleft⟩ := hsame old hrecord
      rw [hat]
      exact h.left old hrecord leaving (hleft ▸ hleaving)
  probed r hr := by
    obtain ⟨shown, hshown, rfl⟩ := Option.map_eq_some_iff.mp hr
    obtain ⟨old, hold, probe, hprobe, hafter, hbefore, hleft⟩ := h.probed shown hshown
    obtain ⟨hat, hsame⟩ := hsame old hold
    refine ⟨i, rfl, probe, hprobe, ?_, hbefore, ?_⟩
    · rwa [hat]
    · rwa [hsame]

/-- An instance that leaves does so after its last probe; if it had left before, nothing is new. -/
theorem Timely.leave (h : e.Timely now) {i : Instance} (hi : e.record = some i) : Timely now
    ⟨some { i with deregisteredAt := some (i.deregisteredAt.getD now) }, none, e.report⟩ where
  registered j hj := by
    obtain rfl := Option.some.inj hj
    exact h.registered i hi
  left j hj leaving hleaving := by
    obtain rfl := Option.some.inj hj
    cases hleft : i.deregisteredAt with
    | none =>
      obtain rfl : now = leaving := by simpa [hleft] using hleaving
      exact ⟨h.registered i hi, Timestamp.le_refl now⟩
    | some past =>
      obtain rfl : past = leaving := by simpa [hleft] using hleaving
      exact h.left i hi past hleft
  probed r hr := by
    obtain ⟨j, hj, probe, hprobe, hafter, hbefore, hended⟩ := h.probed r hr
    obtain rfl : i = j := Option.some.inj (hi.symm.trans hj)
    refine ⟨_, rfl, probe, hprobe, hafter, hbefore, fun leaving hleaving => ?_⟩
    cases hleft : i.deregisteredAt with
    | none =>
      obtain rfl : now = leaving := by simpa [hleft] using hleaving
      exact hbefore
    | some past =>
      obtain rfl : past = leaving := by simpa [hleft] using hleaving
      exact hended past hleft

/-- The times stay in order with every call that does not come earlier. -/
theorem Timely.perform (h : e.Timely now) (c : Call) : (e.perform t now c).2.Timely now := by
  cases c with
  | register r =>
    simp only [Entry.perform, register]
    split
    · exact h
    have hregistered : ((e.record.map (·.registeredAt)).getD now) ≤ now := by
      cases hrecord : e.record with
      | none => exact Timestamp.le_refl now
      | some i => exact h.registered i hrecord
    split
    · refine h.forget (fun i hi leaving hleaving => ?_) fun i hi => ?_
      · obtain rfl := Option.some.inj hi
        simp [Instance.ofRegistration] at hleaving
      · obtain rfl := Option.some.inj hi
        exact hregistered
    · rename_i hleft
      refine h.describe hregistered (fun j hj => ?_) fun _ => rfl
      have hactive : j.deregisteredAt = none := by
        simpa [hasLeft, Option.mem_def.mp hj, Instance.isActive] using hleft
      exact ⟨by simp [Instance.ofRegistration, Option.mem_def.mp hj], hactive.symm⟩
  | deregister id =>
    simp only [Entry.perform, deregister]
    split
    · exact h
    · rename_i i hi
      exact h.leave hi
  | updateMetadata id pairs =>
    simp only [Entry.perform, updateMetadata]
    split
    · exact h
    · rename_i i hi
      refine h.describe (h.registered i hi) (fun j hj => ?_) fun hnone => ?_
      · obtain rfl : i = j := Option.some.inj (hi.symm.trans hj)
        exact ⟨rfl, rfl⟩
      · rw [hi] at hnone
        contradiction
  | purge id =>
    have hkept {i : Instance} (hi : i ∈ e.record.filter Instance.isActive) : i ∈ e.record :=
      Option.eq_some_of_filter_eq_some hi
    exact h.forget (fun i hi leaving hleaving => ⟨i, hkept hi, rfl, hleaving⟩)
      fun i hi => h.registered i (hkept hi)
  | applyOutcome probed outcome =>
    simp only [Entry.perform, applyOutcome]
    split
    · exact h
    · rename_i current hcurrent
      obtain ⟨hrecord, hactive⟩ := Option.filter_eq_some_iff.mp hcurrent
      have hthere : current.deregisteredAt = none := by simpa [Instance.isActive] using hactive
      constructor
      case registered =>
        intro i hi
        obtain rfl := Option.some.inj hi
        exact h.registered current hrecord
      case left =>
        intro i hi leaving hleaving
        obtain rfl := Option.some.inj hi
        simp [hthere] at hleaving
      case probed =>
        intro r hr
        obtain rfl := Option.some.inj hr
        refine ⟨current, rfl, now, rfl, h.registered current hrecord, Timestamp.le_refl now, ?_⟩
        simp [hthere]

end Entry

/-- The clock did not go back between calls. -/
def Ascending (calls : List (Timestamp × Call)) : Prop := (calls.map Prod.fst).Pairwise (· ≤ ·)

theorem ascending_concat {calls : List (Timestamp × Call)} {call : Timestamp × Call} :
    Ascending (calls ++ [call]) ↔ Ascending calls ∧ ∀ past ∈ calls, past.1 ≤ call.1 := by
  simp [Ascending, List.pairwise_append]

/-- After calls of which none came later than `now`. -/
theorem timely_run (t : Thresholds) (metered : Bool) {calls : List (Timestamp × Call)}
    (h : Ascending calls) {now : Timestamp} (hnow : ∀ call ∈ calls, call.1 ≤ now) (id : String) :
    (((empty t metered).run calls).entry id).Timely now := by
  induction calls using List.reverseRecOn generalizing now with
  | nil => exact Entry.timely_start now
  | append_singleton calls call ih =>
    obtain ⟨hcalls, hlast⟩ := ascending_concat.mp h
    have hbefore := ih hcalls hlast
    have hlater : call.1 ≤ now := hnow call (by simp)
    rw [run_concat, (perform_entry call.1 id (keyed_run t metered calls) call.2).2]
    split
    · exact (hbefore.perform call.2).later hlater
    · exact hbefore.later hlater

theorem exists_time_after (calls : List (Timestamp × Call)) :
    ∃ now : Timestamp, ∀ call ∈ calls, call.1 ≤ now := by
  induction calls with
  | nil => exact ⟨⟨0⟩, by simp⟩
  | cons first rest ih =>
    obtain ⟨now, hnow⟩ := ih
    refine ⟨⟨max first.1.nanos now.nanos⟩, fun call hcall => ?_⟩
    obtain rfl | hcall := List.mem_cons.mp hcall
    · exact Nat.le_max_left call.1.nanos now.nanos
    · exact Timestamp.le_trans (hnow call hcall) (Nat.le_max_right first.1.nanos now.nanos)

/-- Times tell one story. Take calls between which the clock never goes back, and the fleet at any
point on the way. An instance that has left did so after it registered. A report has the time of a
last probe, which is not before the instance of its id registered and, if that has left, not after
it left. -/
theorem times_tell_one_story (t : Thresholds) (metered : Bool)
    (calls : List (Timestamp × Call)) (h : Ascending calls) (past : List (Timestamp × Call))
    (hpast : past <+: calls) (id : String) :
    let f := (empty t metered).run past
    (∀ i ∈ f.catalog.find? id, ∀ leaving ∈ i.deregisteredAt, i.registeredAt ≤ leaving) ∧
    ∀ r ∈ f.board.find? id, ∃ probe, r.lastProbe = some probe ∧
      ∃ i ∈ f.catalog.find? id, i.registeredAt ≤ probe ∧
        ∀ leaving ∈ i.deregisteredAt, probe ≤ leaving := by
  intro f
  have hascending : Ascending past := h.sublist (hpast.sublist.map Prod.fst)
  obtain ⟨now, hnow⟩ := exists_time_after past
  have htimely : (f.entry id).Timely now := timely_run t metered hascending hnow id
  refine ⟨fun i hi leaving hleaving => (htimely.left i hi leaving hleaving).1, fun r hr => ?_⟩
  obtain ⟨i, hi, probe, hprobe, hafter, -, hended⟩ := htimely.probed r hr
  exact ⟨probe, hprobe, i, hi, hafter, hended⟩

/-- An instance leaves, returns and leaves again. An outcome that comes in while it is away does not
count; the report that stays is of the last probe before it left for the second time. -/
theorem times_tell_one_story_after_return :
    let orders : Registration := ⟨"i1", "orders", "10.0.0.5", 8080, .http, .empty⟩
    let i := Instance.ofRegistration orders ⟨3⟩
    let answer := Probe.Outcome.succeeded ⟨5⟩ "HTTP 200"
    let calls : List (Timestamp × Call) := [(⟨3⟩, .register orders), (⟨4⟩, .applyOutcome i answer),
      (⟨6⟩, .deregister "i1"), (⟨7⟩, .applyOutcome i answer), (⟨8⟩, .register orders),
      (⟨9⟩, .applyOutcome i answer), (⟨9⟩, .deregister "i1"), (⟨11⟩, .applyOutcome i answer)]
    let f := (empty ⟨1, 1⟩ false).run calls
    Ascending calls ∧
    (f.catalog.find? "i1").map (fun i => (i.registeredAt, i.deregisteredAt)) =
      some (⟨3⟩, some ⟨9⟩) ∧
    (∃ r, f.board.find? "i1" = some r ∧ r.lastProbe = some ⟨9⟩) ∧
    (∀ i ∈ f.catalog.find? "i1", ∀ leaving ∈ i.deregisteredAt, i.registeredAt ≤ leaving) ∧
    ∀ r ∈ f.board.find? "i1", ∃ probe, r.lastProbe = some probe ∧
      ∃ i ∈ f.catalog.find? "i1", i.registeredAt ≤ probe ∧
        ∀ leaving ∈ i.deregisteredAt, probe ≤ leaving := by
  intro orders i answer calls f
  have hascending : Ascending calls := by simp [Ascending, calls, Timestamp.le_iff]
  have hrecord : (f.catalog.find? "i1").map (fun i => (i.registeredAt, i.deregisteredAt)) =
      some (⟨3⟩, some ⟨9⟩) := by decide
  have hreport : (f.board.find? "i1").map (·.lastProbe) = some (some ⟨9⟩) := by decide
  exact ⟨hascending, hrecord, Option.map_eq_some_iff.mp hreport,
    times_tell_one_story ⟨1, 1⟩ false calls hascending calls (List.prefix_refl calls) "i1"⟩

end Fleet

end ServiceHealth
