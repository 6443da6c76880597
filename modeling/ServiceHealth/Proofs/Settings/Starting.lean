import ServiceHealth.Proofs.Probe.Header
import ServiceHealth.Server
import ServiceHealth.Settings.Document

/-!
# From settings to a server

The headers of the settings are looked at twice. A document is accepted if every entry has a name
and a value; a server can be made if each of them may also stand in a request. What is between the
two is said exactly.
-/
namespace ServiceHealth

namespace Settings

open Probe (Header)

variable {text : String} {s : Settings} {setup : Setup}

/-- A document is accepted only if a setup can be made of its settings. -/
theorem setup_of_ofYaml (h : ofYaml text = .ok s) : ∃ setup, s.setup = .ok setup := by
  rw [ofYaml] at h
  obtain ⟨settings, -, h⟩ := bind_eq_ok.mp h
  obtain ⟨-, -, h⟩ := bind_eq_ok.mp h
  obtain ⟨setup, hsetup, h⟩ := bind_eq_ok.mp h
  obtain rfl := Except.ok.inj h
  exact ⟨setup, hsetup⟩

theorem nested_eq_ok {α : Type} {x : Except Error α} {a : α} :
    Settings.setup.nested x = .ok a ↔ x = .ok a := by
  cases x <;> simp [Settings.setup.nested]

/-- The setup that is put together from what was read; the rest is taken as it is. -/
def assemble (s : Settings) (listen : Net.Socket) (thresholds : Thresholds)
    (headers : List Header) : Setup where
  listen := listen
  probeInterval := .ofSeconds s.probing.probeIntervalSeconds.toNat 0
  httpTimeout := .ofSeconds s.probing.httpTimeoutSeconds.toNat 0
  tcpTimeout := .ofSeconds s.probing.tcpTimeoutSeconds.toNat 0
  thresholds := thresholds
  headers := headers
  pool := s.probing.maxConcurrentProbes
  metered := s.metrics.enabled

/-- Address, thresholds and headers of a setup are read from the settings. -/
theorem parts_of_setup (h : s.setup = .ok setup) : ∃ listen thresholds headers,
    s.server.socket? = some listen ∧
    Thresholds.make s.probing.failureThreshold s.probing.recoveryThreshold = .ok thresholds ∧
    Header.ofEntries s.probing.httpHeaders = .ok headers ∧
    setup = s.assemble listen thresholds headers := by
  simp only [Settings.setup] at h
  cases hlisten : s.server.socket? with
  | none =>
    simp only [hlisten] at h
    exact nomatch h
  | some listen =>
    simp only [hlisten, bind_eq_ok, nested_eq_ok] at h
    obtain ⟨_, hsame, thresholds, hmake, headers, hheaders, h⟩ := h
    obtain rfl := Except.ok.inj hsame
    exact ⟨listen, thresholds, headers, rfl, hmake, hheaders, (Except.ok.inj h).symm⟩

/-- The headers of a setup are read from the entries of the settings. -/
theorem headers_of_setup (h : s.setup = .ok setup) :
    Header.ofEntries s.probing.httpHeaders = .ok setup.headers := by
  obtain ⟨_, _, headers, -, -, hheaders, rfl⟩ := parts_of_setup h
  exact hheaders

theorem make_eq (setup : Setup) : Server.make setup = (Header.checkAll setup.headers).map fun _ =>
    ⟨setup, .network setup.headers, .empty setup.thresholds setup.metered⟩ := by
  rw [Server.make, Probe.Prober.makeNetwork]
  cases Header.checkAll setup.headers <;> rfl

/-- What becomes of a document that is accepted. A setup can be made of its settings, and its
headers are those that the entries spell, each with a name and a value. A server can be made of the
setup exactly if every entry spells a header that may stand in a request; otherwise the failure is
that of an entry that spells another. -/
theorem loaded_settings_start_iff (h : ofYaml text = .ok s) :
    ∃ setup, s.setup = .ok setup ∧
      List.Forall₂ (fun entry h => Header.Spells entry h ∧ h.name ≠ "" ∧ h.value ≠ "")
        s.probing.httpHeaders setup.headers ∧
      ((∃ server, Server.make setup = .ok server) ↔
        ∀ entry ∈ s.probing.httpHeaders, ∃ h, Header.Spells entry h ∧ h.Sendable) ∧
      ∀ e, Server.make setup = .error e → ∃ entry ∈ s.probing.httpHeaders, ∃ h,
        Header.Spells entry h ∧ ¬h.Sendable ∧ h.check = .error e := by
  obtain ⟨setup, hsetup⟩ := setup_of_ofYaml h
  have hspells := Header.spells_of_ofEntries (headers_of_setup hsetup)
  refine ⟨setup, hsetup, hspells, ?_⟩
  rw [make_eq]
  obtain ⟨hall, hsendable⟩ | ⟨before, g, after, e, hheaders, -, hnot, hcheck, hfail⟩ :=
    Header.checkAll_cases setup.headers
  · rw [hall]
    refine ⟨iff_of_true ⟨_, rfl⟩ fun entry hentry => ?_, fun e he => nomatch he⟩
    obtain ⟨g, hg, hspelled, -⟩ := exists_of_forall₂ hspells hentry
    exact ⟨g, hspelled, hsendable g hg⟩
  · rw [hfail]
    have hg : g ∈ setup.headers := hheaders ▸ List.mem_append_right before List.mem_cons_self
    have hflipped := @List.Forall₂.flip _ _ (flip _) _ _ hspells
    obtain ⟨entry, hentry, hspelled, -⟩ := exists_of_forall₂ hflipped hg
    refine ⟨iff_of_false (by simp [Except.map]) fun hall => ?_, fun e' he => ?_⟩
    · obtain ⟨g', hspelled', hsendable⟩ := hall entry hentry
      exact hnot (hspelled'.unique hspelled ▸ hsendable)
    · obtain rfl := Except.error.inj he
      exact ⟨entry, hentry, g, hspelled, hnot, hcheck⟩

/-- An entry with two equals signs, and one with blanks around both parts and a tab in the value. -/
theorem loaded_settings_start :
    let text := "probing:\n  http_headers: ['X-Probe=a=b', \"Accept = text\\t/plain \"]\n"
    let entries := ["X-Probe=a=b", "Accept = text\t/plain "]
    let s : Settings := { probing := { httpHeaders := entries } }
    ofYaml text = .ok s ∧ ∃ setup server, s.setup = .ok setup ∧ Server.make setup = .ok server := by
  intro text entries s
  have hload : ofYaml text = .ok s := by decide +kernel
  have hsendable : ∀ entry ∈ entries, ∃ h, Header.Spells entry h ∧ h.Sendable := by
    simp only [entries, List.forall_mem_cons]
    exact ⟨⟨⟨"X-Probe", "a=b"⟩, ⟨"X-Probe".toList, "a=b".toList, by decide⟩, by decide, by decide⟩,
      ⟨⟨"Accept", "text\t/plain"⟩, ⟨"Accept ".toList, " text\t/plain ".toList, by decide⟩,
        by decide, by decide⟩, by simp⟩
  obtain ⟨setup, hsetup, -, hstarts, -⟩ := loaded_settings_start_iff hload
  obtain ⟨server, hserver⟩ := hstarts.mpr hsendable
  exact ⟨hload, setup, server, hsetup, hserver⟩

/-- A name with a blank is accepted in a document, but no server can be made of it. -/
theorem loaded_settings_do_not_start :
    ∃ s setup, ofYaml "probing:\n  http_headers: [\"Bad Header=x\"]\n" = .ok s ∧
      s.setup = .ok setup ∧
      Server.make setup = .error (.config (.headerNameInvalid "Bad Header")) := by
  have hcheck : Header.checkAll [⟨"Bad Header", "x"⟩] =
    .error (.config (.headerNameInvalid "Bad Header")) := by decide
  refine ⟨{ probing := { httpHeaders := ["Bad Header=x"] } },
    { headers := [⟨"Bad Header", "x"⟩] }, by decide +kernel, by decide +kernel, ?_⟩
  rw [make_eq, hcheck]
  rfl

end Settings

end ServiceHealth
