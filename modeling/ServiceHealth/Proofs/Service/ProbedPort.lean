import ServiceHealth.Proofs.Probe.Target
import ServiceHealth.Proofs.Service.Life
import ServiceHealth.Proofs.Service.Metadata

/-!
# The port that is probed

No record has the port zero, since a registration with it is refused. But for TCP an entry of the
metadata may name another port, and that is read when a probe is sent, long after registrations and
writes have been accepted. An entry that is no port is passed over; zero is read as a port. So the
port that is probed is zero exactly if the last entry said so.
-/
namespace ServiceHealth

theorem Registration.port_ne_zero_of_check {r : Registration} (h : r.check = .ok ()) :
    r.port ≠ 0 := by
  intro hport
  simp only [check, hport, if_true] at h
  split at h
  · contradiction
  split at h
  · contradiction
  split at h <;> contradiction

/-- Where the instance's own port is not zero, only an entry can lead a probe there. -/
theorem Instance.port_target_eq_zero_iff {i : Instance} (h : i.port ≠ 0) : i.target.port = 0 ↔
    i.protocol = .tcp ∧ ∃ s, i.metadata.get? "tcp_port" = some s ∧ Text.Writes (Text.trim s) 0 := by
  cases hprotocol : i.protocol with
  | http =>
    rw [port_target_of_http hprotocol]
    exact iff_of_false h fun hzero => by simp at hzero
  | tcp =>
    have hentry : Probe.portOfEntry (i.metadata.get? "tcp_port") = some 0 ↔
        ∃ s, i.metadata.get? "tcp_port" = some s ∧ Text.Writes (Text.trim s) 0 :=
      Probe.portOfEntry_eq_some_iff
    rw [port_target, hprotocol, ← hentry]
    cases Probe.portOfEntry (i.metadata.get? "tcp_port") with
    | none => simpa using h
    | some port => simp

namespace Catalog

/-- The entries that came with the latest registration and those written since, in their order. -/
def Life.entries (l : Life) : List (String × String) := l.latest.metadata.toList ++ l.written

/-- A look-up in a record gives the value that was given last in its life, in whatever spelling of
the key. -/
theorem Life.get?_record (l : Life) (id key : String) : (l.record id).metadata.get? key =
    (Metadata.lastUnder (Text.fold key) l.entries).map Prod.snd := by
  rw [Metadata.get?_eq, entries, Metadata.lastUnder_append, Metadata.lastUnder_toList,
    ← Metadata.stored?_merge]
  rfl

/-- Only registrations that pass the check count. -/
theorem check_of_event? {c : Catalog} {id : String} {now since : Timestamp} {call : Call}
    {r : Registration} (h : c.event? id now call = some (.registered since r)) :
    r.check = .ok () := by
  cases call with
  | register r' =>
    simp only [event?, Option.ite_none_right_eq_some, Option.some.injEq] at h
    obtain ⟨⟨-, hok⟩, heq⟩ := h
    cases heq
    cases hcheck : r.check with
    | error cause => simp [hcheck, Except.isOk, Except.toBool] at hok
    | ok _ => rfl
  | _ => simp [event?] at h

/-- After every run no record has the port zero. -/
theorem port_ne_zero_run (calls : List (Timestamp × Call)) (id : String) :
    ∀ i ∈ (empty.run calls).find? id, i.port ≠ 0 := by
  induction calls using List.reverseRecOn with
  | nil => exact fun i hi => by contradiction
  | append_singleton calls last ih =>
    obtain ⟨now, call⟩ := last
    rw [run_concat, find?_perform (keyed_run keyed_empty calls)]
    cases hevent : (empty.run calls).event? id now call with
    | none => exact ih
    | some e =>
      intro i hi
      rw [Option.elim_some, Option.mem_def] at hi
      -- of all that can happen to a record only a registration says which port it has
      cases e with
      | registered since r =>
        obtain rfl := Option.some.inj hi
        exact Registration.port_ne_zero_of_check (check_of_event? hevent)
      | left since =>
        obtain ⟨j, hj, rfl⟩ := Option.map_eq_some_iff.mp hi
        exact ih j hj
      | wrote pairs =>
        obtain ⟨j, hj, rfl⟩ := Option.map_eq_some_iff.mp hi
        exact ih j hj
      | removed => contradiction

/-- A probe is aimed at a port from 1 to 65535 unless metadata says zero. After every run of calls
an active record has such a port of its own, and so has its target, except where the instance is
probed by TCP and the last entry under the key `tcp_port`, of those that came with the latest
registration and those written since in any spelling of the key, is a number that is zero. -/
theorem probed_port_is_proper_unless_zero_is_written (calls : List (Timestamp × Call)) :
    ∀ i ∈ (empty.run calls).active,
      (1 ≤ i.port.toNat ∧ i.port.toNat ≤ 65535) ∧
      ∃ l, life? i.serviceId calls = some l ∧
        (1 ≤ i.target.port.toNat ∧ i.target.port.toNat ≤ 65535 ↔
          ¬(i.protocol = .tcp ∧ ∃ key text,
            Metadata.lastUnder "tcp_port" l.entries = some (key, text) ∧
            Text.Writes (Text.trim text) 0)) := by
  intro i hi
  have hfind := ((mem_active (keyed_run keyed_empty calls)).mp hi).1
  have hport : i.port ≠ 0 := port_ne_zero_run calls i.serviceId i hfind
  have hrange (port : UInt16) : 1 ≤ port.toNat ∧ port.toNat ≤ 65535 ↔ port ≠ 0 := by
    have hlt := port.toNat_lt
    rw [ne_eq, ← UInt16.toNat_inj, UInt16.toNat_zero]
    omega
  have hlife := find?_run i.serviceId calls
  rw [hfind] at hlife
  obtain ⟨l, hl, hrecord⟩ := Option.map_eq_some_iff.mp hlife.symm
  refine ⟨(hrange _).mpr hport, l, hl, ?_⟩
  have hkey : Text.fold "tcp_port" = "tcp_port" := by decide
  have hlookup (text : String) : i.metadata.get? "tcp_port" = some text ↔
      ∃ key, Metadata.lastUnder "tcp_port" l.entries = some (key, text) := by
    rw [← hrecord, Life.get?_record, hkey, Option.map_eq_some_iff]
    simp
  rw [hrange, ne_eq, Instance.port_target_eq_zero_iff hport]
  simp only [hlookup, ← exists_and_right]
  rw [exists_comm]

/-- An entry that says zero is made good by a later one in another spelling, with a zero in front of
the number and blanks around it. -/
theorem probed_port_is_proper_after_zero_is_overwritten :
    let cache : Registration := ⟨"cache-1", "cache", "10.0.0.9", 6379, .tcp,
      .ofList [("TCP_Port", "0")]⟩
    let calls : List (Timestamp × Call) := [(⟨0⟩, .register cache),
      (⟨1⟩, .updateMetadata "cache-1" [("tcp_port", " 06380 ")])]
    ∃ i ∈ (empty.run calls).active, ∃ l, life? i.serviceId calls = some l ∧
      Metadata.lastUnder "tcp_port" l.entries = some ("tcp_port", " 06380 ") ∧
      1 ≤ i.target.port.toNat ∧ i.target.port.toNat ≤ 65535 := by
  intro cache calls
  have hactive : (empty.run calls).active.map (·.serviceId) = ["cache-1"] := by decide
  have hlast : (life? "cache-1" calls).map (Metadata.lastUnder "tcp_port" ·.entries) =
      some (some ("tcp_port", " 06380 ")) := by decide
  have hnumber : ¬Text.Writes (Text.trim " 06380 ") 0 := fun hzero =>
    absurd (Text.number?_eq_some_iff.mpr ⟨hzero, Nat.zero_le 0xFFFF⟩) (by decide)
  obtain ⟨i, hi, hid⟩ := List.mem_map.mp (hactive ▸ List.mem_singleton_self "cache-1")
  obtain ⟨-, l, hl, hproper⟩ := probed_port_is_proper_unless_zero_is_written calls i hi
  rw [← hid, hl, Option.map_some, Option.some.injEq] at hlast
  refine ⟨i, hi, l, hl, hlast, hproper.mpr ?_⟩
  rintro ⟨-, key, text, hentry, hzero⟩
  obtain ⟨-, rfl⟩ := Prod.mk.inj (Option.some.inj (hlast.symm.trans hentry))
  exact hnumber hzero

/-- A probe can be aimed at port zero: a registration with a port of its own is accepted, and so is
the write of an entry that takes the place of that port. -/
theorem probe_is_aimed_at_port_zero :
    let cache : Registration := ⟨"cache-1", "cache", "10.0.0.9", 6379, .tcp, .empty⟩
    ∃ i ∈ (empty.run [(⟨0⟩, .register cache),
      (⟨1⟩, .updateMetadata "cache-1" [("tcp_port", "0")])]).active,
      i.port = 6379 ∧ i.target.port = 0 := by
  decide

end Catalog

end ServiceHealth
