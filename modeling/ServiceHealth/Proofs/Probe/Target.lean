import ServiceHealth.Proofs.Service.Summary
import ServiceHealth.Proofs.Text.Trimming
import ServiceHealth.Service.Instance

/-!
# What a probe is aimed at

Each of the three entries that refine a target is free text: it counts if it makes sense, blanks
aside, and is passed over if it does not. What comes of an entry makes sense again and means the
same, so a target that is written down as metadata leads to itself.
-/
namespace ServiceHealth

namespace Probe

variable {entry : Option String}

/-- A port is named by a number in decimal that fits into sixteen bits, blanks aside. -/
theorem portOfEntry_eq_some_iff {port : UInt16} : portOfEntry entry = some port ↔
    ∃ s, entry = some s ∧ Text.Writes (Text.trim s) port.toNat := by
  have hbound : port.toNat ≤ 0xFFFF := Nat.le_of_lt_succ port.toNat_lt
  cases entry with
  | none => simp [portOfEntry]
  | some s =>
    simp only [portOfEntry, Option.bind_eq_bind, Option.bind_some, Option.bind_eq_some_iff,
      Text.number?_eq_some_iff]
    constructor
    · rintro ⟨n, ⟨hn, hle⟩, hport⟩
      have hvalue : n.toUInt16.toNat = n := by
        rw [Nat.toUInt16_eq, UInt16.toNat_ofNat']
        omega
      obtain rfl : n.toUInt16 = port := Option.some.inj hport
      exact ⟨s, rfl, hvalue.symm ▸ hn⟩
    · rintro ⟨_, hs, hn⟩
      obtain rfl := Option.some.inj hs
      exact ⟨port.toNat, ⟨hn, hbound⟩, by simp⟩

/-- The metadata that leads to a target. -/
def Target.entries (t : Target) : List (String × String) :=
  [("scheme", t.scheme.name), ("health_check_endpoint", t.path),
    ("tcp_port", toString t.port.toNat)]

end Probe

namespace Instance

variable {i : Instance}

theorem port_target (i : Instance) : i.target.port =
    match i.protocol with
    | .tcp => (Probe.portOfEntry (i.metadata.get? "tcp_port")).getD i.port
    | .http => i.port := rfl

theorem port_target_of_http (h : i.protocol = .http) : i.target.port = i.port := by
  rw [port_target, h]

end Instance

end ServiceHealth
