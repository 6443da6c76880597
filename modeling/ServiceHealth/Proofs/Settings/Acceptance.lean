import ServiceHealth.Proofs.Settings.Starting

/-!
# Which settings are accepted

Settings are checked field by field and a setup is made of them afterwards, so that some limits are
looked at twice. Both succeed exactly within the limits and with complete header entries; once the
fields are in order, only an entry can still be refused.
-/
namespace ServiceHealth.Settings

open Probe (Header)

/-- The limits within which the numbers of the probing section lie. -/
structure Probing.InRange (p : Probing) : Prop where
  interval : 1 ≤ p.probeIntervalSeconds.toNat ∧ p.probeIntervalSeconds.toNat ≤ 86400
  httpTimeout : 1 ≤ p.httpTimeoutSeconds.toNat ∧ p.httpTimeoutSeconds.toNat ≤ 300
  tcpTimeout : 1 ≤ p.tcpTimeoutSeconds.toNat ∧ p.tcpTimeoutSeconds.toNat ≤ 300
  failure : 1 ≤ p.failureThreshold.toNat
  recovery : 1 ≤ p.recoveryThreshold.toNat
  pool : 1 ≤ p.maxConcurrentProbes ∧ p.maxConcurrentProbes ≤ 10000

/-- A setup is made of the values of settings: the address, the times in nanoseconds, and a header
for each entry in the same order. -/
structure Carries (s : Settings) (setup : Setup) : Prop where
  listen : Net.Socket.ofText? (Text.trim s.server.listenAddr) = some setup.listen
  probeInterval : setup.probeInterval.nanos = s.probing.probeIntervalSeconds.toNat * 1000000000
  httpTimeout : setup.httpTimeout.nanos = s.probing.httpTimeoutSeconds.toNat * 1000000000
  tcpTimeout : setup.tcpTimeout.nanos = s.probing.tcpTimeoutSeconds.toNat * 1000000000
  failure : setup.thresholds.failure = s.probing.failureThreshold
  recovery : setup.thresholds.recovery = s.probing.recoveryThreshold
  headers : List.Forall₂ (fun entry h => Header.Spells entry h ∧ h.name ≠ "" ∧ h.value ≠ "")
    s.probing.httpHeaders setup.headers
  pool : setup.pool = s.probing.maxConcurrentProbes
  metered : setup.metered = s.metrics.enabled

variable {s : Settings} {p : Probing}

theorem require_eq_nil_iff {field : String} {rule : Rule} {holds : Bool} :
    require field rule holds = [] ↔ holds := by
  cases holds <;> simp [require]

theorem report_eq_ok_iff {faults : List FieldFault} : report faults = .ok () ↔ faults = [] := by
  cases faults <;> simp [report]

theorem Probing.faults_eq_nil_iff : p.faults = [] ↔ p.InRange := by
  simp only [faults, List.append_eq_nil_iff, require_eq_nil_iff, Bool.and_eq_true,
    decide_eq_true_eq, UInt64.le_iff_toNat_le, UInt32.le_iff_toNat_le]
  constructor
  · rintro ⟨⟨⟨⟨⟨hinterval, hhttp⟩, htcp⟩, hfailure⟩, hrecovery⟩, hpool⟩
    exact ⟨hinterval, hhttp, htcp, hfailure, hrecovery, hpool⟩
  · rintro ⟨hinterval, hhttp, htcp, hfailure, hrecovery, hpool⟩
    exact ⟨⟨⟨⟨⟨hinterval, hhttp⟩, htcp⟩, hfailure⟩, hrecovery⟩, hpool⟩

theorem nanos_ofSeconds (n : Nat) : (Span.ofSeconds n 0).nanos = n * 1000000000 := by
  simp [Span.ofSeconds, Timestamp.second]

theorem check_eq_ok_iff : s.check = .ok () ↔ s.server.socket?.isSome ∧ s.probing.InRange := by
  have hserver : s.server.faults = [] ↔ s.server.socket?.isSome := require_eq_nil_iff
  rw [check, bind_eq_ok, ← hserver, ← Probing.faults_eq_nil_iff, ← report_eq_ok_iff,
    ← report_eq_ok_iff]
  exact ⟨fun ⟨_, hfirst, hsecond⟩ => ⟨hfirst, hsecond⟩, fun ⟨hfirst, hsecond⟩ =>
    ⟨(), hfirst, hsecond⟩⟩

theorem make_of_inRange (h : p.InRange) :
    Thresholds.make p.failureThreshold p.recoveryThreshold =
      .ok ⟨p.failureThreshold, p.recoveryThreshold⟩ := by
  have hfailure : p.failureThreshold ≠ 0 := fun hzero => by simpa [hzero] using h.failure
  have hrecovery : p.recoveryThreshold ≠ 0 := fun hzero => by simpa [hzero] using h.recovery
  rw [Thresholds.make, if_neg hfailure, if_neg hrecovery]

/-- Once the fields are in order, reading the entries is what is left to do. -/
theorem setup_of_check (h : s.check = .ok ()) : ∃ listen, s.setup =
    (setup.nested (Header.ofEntries s.probing.httpHeaders)).map
      (s.assemble listen ⟨s.probing.failureThreshold, s.probing.recoveryThreshold⟩) := by
  obtain ⟨hsocket, hrange⟩ := check_eq_ok_iff.mp h
  obtain ⟨listen, hlisten⟩ := Option.isSome_iff_exists.mp hsocket
  refine ⟨listen, ?_⟩
  simp only [setup, hlisten, make_of_inRange hrange]
  cases Header.ofEntries s.probing.httpHeaders <;> rfl

/-- Once the fields are in order, a setup is made unless some entry is not complete, and then the
first of these is what is reported. -/
theorem setup_cases (h : s.check = .ok ()) :
    (∃ setup, s.setup = .ok setup) ∧
      (∀ entry ∈ s.probing.httpHeaders, Header.Complete entry) ∨
    ∃ before entry after, s.probing.httpHeaders = before ++ entry :: after ∧
      (∀ e ∈ before, Header.Complete e) ∧ ¬Header.Complete entry ∧
      s.setup = .error (.setup (.nested (.config (Header.complaint entry)))) := by
  obtain ⟨listen, hsetup⟩ := setup_of_check h
  obtain ⟨⟨headers, hread⟩, hall⟩ | ⟨before, entry, after, hentries, hbefore, hnot, hfail⟩ :=
    Header.ofEntries_cases s.probing.httpHeaders
  · exact .inl ⟨⟨_, by rw [hsetup, hread]; rfl⟩, hall⟩
  · exact .inr ⟨before, entry, after, hentries, hbefore, hnot, by rw [hsetup, hfail]; rfl⟩

theorem make_eq_ok {failure recovery : UInt32} {t : Thresholds}
    (h : Thresholds.make failure recovery = .ok t) : t = ⟨failure, recovery⟩ := by
  rw [Thresholds.make] at h
  split at h
  · exact nomatch h
  split at h
  · exact nomatch h
  exact (Except.ok.inj h).symm

/-- A setup carries the values it was made of, whether or not the fields were checked. -/
theorem carries_of_setup {setup : Setup} (h : s.setup = .ok setup) : s.Carries setup := by
  have hspells := Header.spells_of_ofEntries (headers_of_setup h)
  obtain ⟨listen, thresholds, headers, hlisten, hmake, -, rfl⟩ := parts_of_setup h
  obtain rfl := make_eq_ok hmake
  exact ⟨hlisten, nanos_ofSeconds _, nanos_ofSeconds _, nanos_ofSeconds _, rfl, rfl, hspells, rfl,
    rfl⟩

/-- Settings pass the check and a setup can be made of them exactly if the address can be read, the
numbers are within their limits and every entry is complete. If they pass the check, the only thing
that can go wrong afterwards is the first entry that is not complete. A setup carries the values of
the settings. -/
theorem acceptance_is_exact (s : Settings) :
    ((s.check = .ok () ∧ ∃ setup, s.setup = .ok setup) ↔
      (∃ a, Net.Socket.ofText? (Text.trim s.server.listenAddr) = some a) ∧ s.probing.InRange ∧
        ∀ entry ∈ s.probing.httpHeaders, Header.Complete entry) ∧
    (s.check = .ok () → ∀ fault, s.setup = .error fault →
      ∃ before entry after, s.probing.httpHeaders = before ++ entry :: after ∧
        (∀ e ∈ before, Header.Complete e) ∧ ¬Header.Complete entry ∧
        fault = .setup (.nested (.config (Header.complaint entry)))) ∧
    ∀ setup, s.setup = .ok setup → s.Carries setup := by
  refine ⟨?_, fun hcheck fault hfault => ?_, fun setup hsetup => carries_of_setup hsetup⟩
  · have hchecked : s.check = .ok () ↔
        (∃ a, Net.Socket.ofText? (Text.trim s.server.listenAddr) = some a) ∧ s.probing.InRange := by
      rw [check_eq_ok_iff, Option.isSome_iff_exists]
      rfl
    rw [← and_assoc, ← hchecked, and_congr_right_iff]
    intro hcheck
    obtain ⟨hmade, hall⟩ | ⟨before, entry, after, hentries, -, hnot, hfail⟩ := setup_cases hcheck
    · exact iff_of_true hmade hall
    · have hmem : entry ∈ s.probing.httpHeaders := by simp [hentries]
      exact iff_of_false (by simp [hfail]) fun hall => hnot (hall entry hmem)
  · obtain ⟨⟨setup, hmade⟩, -⟩ | ⟨before, entry, after, hentries, hbefore, hnot, hfail⟩ :=
      setup_cases hcheck
    · rw [hmade] at hfault
      exact nomatch hfault
    · rw [hfail] at hfault
      exact ⟨before, entry, after, hentries, hbefore, hnot, (Except.error.inj hfault).symm⟩

end ServiceHealth.Settings
