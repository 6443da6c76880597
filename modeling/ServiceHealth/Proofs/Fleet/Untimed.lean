import ServiceHealth.Proofs.Fleet.Stores

/-!
# Apart from the time

The clock is read into standings and reports and never looked at again. So a fleet without its
readings of the clock moves by itself: nothing else in it, and no answer, depends on them.
-/
namespace ServiceHealth

/-- The standing with every reading of the clock put back to zero. -/
def Standing.untimed (s : Standing) : Standing :=
  { s with lastProbeAt := s.lastProbeAt.map fun _ => ⟨0⟩ }

def Report.untimed (r : Report) : Report :=
  { r with lastProbe := r.lastProbe.map fun _ => ⟨0⟩ }

namespace Standing

theorem succeed_untimed (recovery : UInt32) (s : Standing) :
    s.untimed.succeed recovery = ((s.succeed recovery).1.untimed, (s.succeed recovery).2) := by
  by_cases h : s.status ≠ .healthy ∧ recovery ≤ countUp s.successes
  · rw [succeed, succeed, if_pos h]
    exact if_pos h
  · rw [succeed, succeed, if_neg h]
    exact if_neg h

theorem fail_untimed (failure : UInt32) (s : Standing) :
    s.untimed.fail failure = ((s.fail failure).1.untimed, (s.fail failure).2) := by
  by_cases h : s.status ≠ .unhealthy ∧ failure ≤ countUp s.failures
  · rw [fail, fail, if_pos h]
    exact if_pos h
  · rw [fail, fail, if_neg h]
    exact if_neg h

theorem observe_untimed (t : Thresholds) (now : Timestamp) (protocol : Probe.Protocol)
    (outcome : Probe.Outcome) (s : Standing) :
    s.untimed.observe t ⟨0⟩ protocol outcome =
      ((s.observe t now protocol outcome).1.untimed, (s.observe t now protocol outcome).2) := by
  simp only [observe]
  cases outcome.success with
  | true =>
    simp only [if_true, succeed_untimed]
    rfl
  | false =>
    simp only [Bool.false_eq_true, if_false, fail_untimed]
    rfl

end Standing

theorem Report.make_untimed (i : Instance) (s : Standing) (outcome : Option Probe.Outcome) :
    make i s.untimed outcome = (make i s outcome).untimed := rfl

def Applied.untimed (a : Applied) : Applied := { a with report := a.report.untimed }

namespace Fleet

def Entry.untimed (e : Entry) : Entry :=
  ⟨e.record, e.standing.map Standing.untimed, e.report.map Report.untimed⟩

/-- The fleet with every reading of the clock put back to zero in standings and reports. -/
def untimed (f : Fleet) : Fleet :=
  { f with
    standings := { f.standings with table := f.standings.table.map Standing.untimed }
    board := ⟨f.board.reports.map Report.untimed⟩ }

theorem entry_untimed (f : Fleet) (id : String) : f.untimed.entry id = (f.entry id).untimed := by
  simp only [entry, untimed, Entry.untimed, Standings.get?, Board.find?, Table.get?_map]

theorem Entry.applyOutcome_untimed (t : Thresholds) (now : Timestamp) (probed : Instance)
    (outcome : Probe.Outcome) (e : Entry) : e.untimed.applyOutcome t ⟨0⟩ probed outcome =
      ((e.applyOutcome t now probed outcome).1.map Applied.untimed,
        (e.applyOutcome t now probed outcome).2.untimed) := by
  have hstanding : (e.standing.map Standing.untimed).getD .initial =
      (e.standing.getD .initial).untimed := by
    cases e.standing <;> rfl
  have hrecord : e.untimed.record = e.record := rfl
  simp only [applyOutcome, hrecord]
  cases e.record.filter Instance.isActive with
  | none => rfl
  | some current =>
    simp only [Entry.untimed, hstanding, Standing.observe_untimed t now, Report.make_untimed]
    rfl

/-- Fleets are the same apart from the time if their entries are. -/
theorem sameStores_untimed {f g : Fleet} (ht : f.standings.thresholds = g.standings.thresholds)
    (h : ∀ id, (f.entry id).untimed = (g.entry id).untimed) : f.untimed.SameStores g.untimed :=
  sameStores_of_entry ht fun id => by rw [entry_untimed, entry_untimed, h id]

theorem SameStores.thresholds {f g : Fleet} (h : f.untimed.SameStores g.untimed) :
    f.standings.thresholds = g.standings.thresholds := by
  have hthresholds := congrArg Standings.thresholds h.standings
  exact hthresholds

end Fleet

end ServiceHealth
