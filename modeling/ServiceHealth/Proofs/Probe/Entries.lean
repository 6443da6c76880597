import ServiceHealth.Proofs.Probe.Header

/-!
# The entries of given headers

A header has many entries: there may be blanks around its name and around its value. These entries
and no others are read as this header, so a list of entries is read as the headers that it was
written for. Any other entry is quoted in the error.
-/
namespace ServiceHealth.Probe.Header

/-- A header that has an entry. The value may hold equals signs, the name may not. -/
structure Proper (h : Header) : Prop where
  name_ne : h.name ≠ ""
  value_ne : h.value ≠ ""
  trim_name : Text.trim h.name = h.name
  trim_value : Text.trim h.value = h.value
  no_separator : '=' ∉ h.name.toList

/-- The entry is the name, an equals sign and the value, with any blanks around name and value. -/
def Writes (entry : String) (h : Header) : Prop :=
  ∃ name value, entry.toList = name ++ '=' :: value ∧
    Text.Padded h.name.toList name ∧ Text.Padded h.value.toList value

def faultText (entry : String) : String :=
  "Configuration error: invalid http header '" ++ entry ++
    if '=' ∈ entry.toList then "': empty name or value" else "': expected Name=Value"

variable {entry : String} {h : Header}

theorem message_complaint (entry : String) :
    (Error.config (complaint entry)).message = faultText entry := by
  by_cases hmem : '=' ∈ entry.toList
  · have hcomplaint : complaint entry = .headerPartEmpty entry := if_pos hmem
    have htext : faultText entry = "Configuration error: invalid http header '" ++ entry ++
      "': empty name or value" := congrArg _ (if_pos hmem)
    rw [hcomplaint, htext]
    show "Configuration error: " ++
      ("invalid http header '" ++ entry ++ "': empty name or value") = _
    simp only [← String.append_assoc, String.reduceAppend]
  · have hcomplaint : complaint entry = .headerWithoutSeparator entry := if_neg hmem
    have htext : faultText entry = "Configuration error: invalid http header '" ++ entry ++
      "': expected Name=Value" := congrArg _ (if_neg hmem)
    rw [hcomplaint, htext]
    show "Configuration error: " ++
      ("invalid http header '" ++ entry ++ "': expected Name=Value") = _
    simp only [← String.append_assoc, String.reduceAppend]

theorem trim_of_toList_eq {s : String} {cs : List Char} (h : s.toList = Text.trimChars cs) :
    Text.trim s = s :=
  Text.trim_eq_self (h ▸ Text.trimmed_trimChars cs)

/-- What an entry spells is proper, unless a part of it is missing. -/
theorem Spells.proper (hspells : Spells entry h) (hname : h.name ≠ "") (hvalue : h.value ≠ "") :
    h.Proper := by
  obtain ⟨before, after, -, hbefore, hfirst, hsecond⟩ := hspells
  refine ⟨hname, hvalue, trim_of_toList_eq hfirst, trim_of_toList_eq hsecond, fun hmem => ?_⟩
  obtain ⟨_, _, -, -, hpadded⟩ := Text.padded_trimChars before
  rw [hfirst] at hmem
  rw [hpadded] at hbefore
  exact hbefore (List.mem_append_right _ (List.mem_append_left _ hmem))

theorem Spells.writes (hspells : Spells entry h) : Writes entry h := by
  obtain ⟨before, after, hentry, -, hname, hvalue⟩ := hspells
  exact ⟨before, after, hentry, hname ▸ Text.padded_trimChars before,
    hvalue ▸ Text.padded_trimChars after⟩

/-- The equals sign behind the name is the first one of the entry. -/
theorem Writes.spells (hwrites : Writes entry h) (hproper : h.Proper) : Spells entry h := by
  obtain ⟨name, value, hentry, hname, hvalue⟩ := hwrites
  have hnameEnds : Text.Trimmed h.name.toList := Text.trimmed_of_trim hproper.trim_name
  have hvalueEnds : Text.Trimmed h.value.toList := Text.trimmed_of_trim hproper.trim_value
  refine ⟨name, value, hentry, ?_, (hnameEnds.trimChars_of_padded hname).symm,
    (hvalueEnds.trimChars_of_padded hvalue).symm⟩
  obtain ⟨before, after, hbefore, hafter, rfl⟩ := hname
  have hsign : Text.isBlank '=' = false := by decide
  intro hmem
  simp only [List.mem_append] at hmem
  obtain hmem | hmem | hmem := hmem
  · simp [hbefore _ hmem] at hsign
  · exact hproper.no_separator hmem
  · simp [hafter _ hmem] at hsign

/-- The entries that are read as a header are those that are written for it. -/
theorem ofEntry_eq_ok_iff_writes : ofEntry entry = .ok h ↔ h.Proper ∧ Writes entry h := by
  rw [ofEntry_eq_ok_iff]
  constructor
  · rintro ⟨hspells, hname, hvalue⟩
    exact ⟨hspells.proper hname hvalue, hspells.writes⟩
  · rintro ⟨hproper, hwrites⟩
    exact ⟨hwrites.spells hproper, hproper.name_ne, hproper.value_ne⟩

/-- The first entry that is not complete is the one that is reported. -/
theorem ofEntries_of_first {before after : List String} (hbefore : ∀ e ∈ before, Complete e)
    (hentry : ¬Complete entry) :
    ofEntries (before ++ entry :: after) = .error (.config (complaint entry)) := by
  obtain ⟨-, hall⟩ | ⟨before', entry', after', hsplit, hbefore', hentry', hfail⟩ :=
    ofEntries_cases (before ++ entry :: after)
  · exact absurd (hall entry (List.mem_append_right before List.mem_cons_self)) hentry
  · classical
    obtain ⟨-, rfl, -⟩ := @Text.append_cons_inj _ (fun e => decide ¬Complete e) before before' after
      after' entry entry' (fun e he => by simpa using hbefore e he)
      (fun e he => by simpa using hbefore' e he) (by simpa using hentry) (by simpa using hentry')
      hsplit
    exact hfail

/-- Entries are read exactly. Those that are read as given headers are the entries that are written
for them, one for each header in the same order, and each of these headers has a name and a value
that are trimmed and not empty, with no equals sign in the name. Entries are read if each has an
equals sign with more than blanks before the first one and after it. Otherwise the configuration is
at fault, and the first entry that has none is quoted. -/
theorem entries_are_read_exactly (entries : List String) :
    (∀ headers, ofEntries entries = .ok headers ↔
      List.Forall₂ (fun entry h => h.Proper ∧ Writes entry h) entries headers) ∧
    ((∃ headers, ofEntries entries = .ok headers) ↔ ∀ entry ∈ entries, Complete entry) ∧
    ∀ e, ofEntries entries = .error e ↔ ∃ before entry after, entries = before ++ entry :: after ∧
      (∀ other ∈ before, Complete other) ∧ ¬Complete entry ∧ e = .config (complaint entry) ∧
      e.message = faultText entry := by
  refine ⟨fun headers => ?_, ?_, fun e => ?_⟩
  · simp only [ofEntries_eq_ok_iff, ofEntry_eq_ok_iff_writes]
  · obtain ⟨hread, hall⟩ | ⟨before, entry, after, rfl, -, hnot, hfail⟩ := ofEntries_cases entries
    · exact iff_of_true hread hall
    · refine iff_of_false (by simp [hfail]) fun hall => hnot (hall entry ?_)
      exact List.mem_append_right before List.mem_cons_self
  · constructor
    · intro he
      obtain ⟨⟨headers, hread⟩, -⟩ | ⟨before, entry, after, hsplit, hbefore, hnot, hfail⟩ :=
        ofEntries_cases entries
      · rw [hread] at he
        contradiction
      · obtain rfl := Except.error.inj (hfail.symm.trans he)
        exact ⟨before, entry, after, hsplit, hbefore, hnot, rfl, message_complaint entry⟩
    · rintro ⟨before, entry, after, rfl, hbefore, hnot, rfl, -⟩
      exact ofEntries_of_first hbefore hnot

/-- Blanks of any kind around name and value are left out, further equals signs are kept. -/
example : ofEntries ["Authorization = Bearer a=b", "\u3000X-Probe\t=\u00a0mesh\n"] =
    .ok [⟨"Authorization", "Bearer a=b"⟩, ⟨"X-Probe", "mesh"⟩] := by decide

end ServiceHealth.Probe.Header
