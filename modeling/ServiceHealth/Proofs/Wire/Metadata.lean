import ServiceHealth.Proofs.Json.Records
import ServiceHealth.Proofs.Service.ExactMap
import ServiceHealth.Wire.Service

/-!
# Metadata, read back

Metadata goes over the wire as an object whose members are those of the map with exact keys. An
object is collected in such a map before the letter case of its names matters, so of members with
the same name the last one counts, and only different names can collide.
-/
namespace ServiceHealth

namespace Metadata

def objectOf (members : List (String × String)) : Json :=
  .ofMembers (members.map fun p => (p.1, .ofText p.2))

theorem membersOf_map (pairs : List (String × String)) :
    Json.Decoder.membersOf .text (pairs.map fun p => (some p.1, Json.ofText p.2)) = .ok pairs := by
  induction pairs with
  | nil => rfl
  | cons p pairs ih =>
    rw [List.map_cons, Json.Decoder.membersOf, ih]
    rfl

/-- An object of strings is decoded from the table that its members make up. -/
theorem decoder_objectOf (members : List (String × String)) :
    decoder (objectOf members) =
      (ofMap (.ofList members)).mapError fun e => .content [] (.refused e.message) := by
  have hmembers : Json.Decoder.map .text (objectOf members) = .ok members := by
    rw [objectOf, Json.ofMembers, List.map_map]
    exact membersOf_map members
  simp only [decoder, hmembers, bind, Except.bind]
  cases ofMap (.ofList members) with
  | error e => rfl
  | ok m => rfl

theorem faithful : Json.Faithful decoder toJson fun _ => True where
  sound _ _ _ := trivial
  plain m _ := .object fun n hn => by
    obtain ⟨e, -, rfl⟩ := List.mem_map.mp hn
    exact .text e.2
  returns m _ := by
    have hdecoder := decoder_objectOf m.toMap.entries
    rwa [Table.ofList_entries, ofMap_toMap] at hdecoder

/-- Two of the names are different, and equal but for letter case. -/
def Collide (members : List (String × String)) : Prop :=
  ∃ p ∈ members, ∃ q ∈ members, p.1 ≠ q.1 ∧ Text.fold p.1 = Text.fold q.1

variable {members : List (String × String)}

/-- Names that collide are refused, and two of them are reported. -/
theorem decoder_of_collide (h : Collide members) :
    ∃ p ∈ members, ∃ q ∈ members, p.1 < q.1 ∧ Text.fold p.1 = Text.fold q.1 ∧
      decoder (objectOf members) =
        Json.fault (.refused (Error.invalid (.keysDifferInCase p.1 q.1)).message) := by
  obtain ⟨p, hp, q, hq, hne, hfold⟩ := h
  obtain ⟨p', hp', hkeyp⟩ := Table.exists_mem_ofList hp
  obtain ⟨q', hq', hkeyq⟩ := Table.exists_mem_ofList hq
  obtain ⟨-, hapart⟩ | ⟨a, ha, b, hb, hlt, hab, herror⟩ := ofMap_cases (.ofList members)
  · -- The names are different, so the table has kept both of them.
    have hsame := hapart.eq_of_fold_eq hp' hq' (by rw [hkeyp, hkeyq, hfold])
    rw [← hkeyp, ← hkeyq, hsame] at hne
    contradiction
  · refine ⟨a, Table.mem_of_mem_ofList ha, b, Table.mem_of_mem_ofList hb, hlt, hab, ?_⟩
    rw [decoder_objectOf, herror]
    rfl

/-- Without a collision the entries are the last members of their names. -/
theorem decoder_of_not_collide (h : ¬Collide members) :
    ∃ m, decoder (objectOf members) = .ok m ∧
      ∀ p, p ∈ m.toList ↔ (members.filter fun q => q.1 = p.1).getLast? = some p := by
  obtain ⟨hok, hapart⟩ | ⟨p, hp, q, hq, hlt, hfold, -⟩ := ofMap_cases (.ofList members)
  · refine ⟨ofList (Table.ofList members).entries, ?_, fun p => ?_⟩
    · rw [decoder_objectOf, hok]
      rfl
    · rw [hapart.mem_toList_ofList, Table.mem_ofList_iff]
  · have hne : p.1 ≠ q.1 := fun heq => String.lt_irrefl _ (heq ▸ hlt)
    exact absurd ⟨p, Table.mem_of_mem_ofList hp, q, Table.mem_of_mem_ofList hq, hne, hfold⟩ h

end Metadata

end ServiceHealth
