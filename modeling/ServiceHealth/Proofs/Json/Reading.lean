import ServiceHealth.Proofs.Json.Scalars

/-!
# Written values are read back

The printer leaves no blanks and closes everything that it opens, so what it writes for a tree
spells this tree, and the reader returns it.
-/
namespace ServiceHealth.Json

/-- Values that have a written form: strings that stand for texts, and whole numbers of sixty-four
bits. -/
inductive Plain : Json → Prop where
  | null : Plain .null
  | bool (b : Bool) : Plain (.bool b)
  | number {n : Nat} (h : n < Nat.pow 2 64) : Plain (.ofNat n)
  | text (s : String) : Plain (.ofText s)
  | array {items : List Json} (h : ∀ v ∈ items, Plain v) : Plain (.array items)
  | object {members : List (String × Json)} (h : ∀ m ∈ members, Plain m.2) :
      Plain (.ofMembers members)

theorem writeItems_eq (v : Json) (items : List Json) :
    writeItems (v :: items) = separated ((v :: items).map write) ++ [']'] := by
  induction items generalizing v with
  | nil => rfl
  | cons w items ih => simp [writeItems, separated, ih w]

def Member.plain (m : String × Json) : Member := ⟨writeText m.1, some m.1, m.2.write, m.2⟩

theorem writeMembers_eq (m : String × Json) (members : List (String × Json)) :
    writeMembers ((m :: members).map fun n => (some n.1, n.2)) =
      separated (((m :: members).map Member.plain).map Member.written) ++ ['\x7d'] := by
  induction members generalizing m with
  | nil => simp [writeMembers, writeText?, separated, Member.plain, Member.written]
  | cons n members ih =>
    have hmore := ih n
    simp only [List.map_cons] at hmore
    simp only [List.map_cons, writeMembers, hmore]
    simp [writeText?, separated, Member.plain, Member.written]

/-- What is written for a value spells it. -/
theorem Plain.spells {v : Json} (hv : v.Plain) : Spells v.write v := by
  induction hv with
  | null => exact .literal (by simp [literals, write])
  | bool b =>
    cases b
    · exact .literal (by simp [literals, write])
    · exact .literal (by simp [literals, write])
  | number hn => exact spells_ofNat hn
  | text s => exact spells_writeText s
  | @array items h ih =>
    cases items with
    | nil => exact .emptyArray (s := []) (by simp [Blanks])
    | cons v items =>
      have hspells := @Spells.array ((v :: items).map fun w => (w.write, w)) (by simp)
        (by simpa using ih)
      rw [write, writeItems_eq]
      simpa [Function.comp_def] using hspells
  | @object members h ih =>
    cases members with
    | nil => exact .emptyObject (s := []) (by simp [Blanks])
    | cons m members =>
      have hspells := @Spells.object ((m :: members).map Member.plain) (by simp)
        (List.forall_mem_map.mpr fun n _ => spells_writeText n.1) (List.forall_mem_map.mpr ih)
      rw [ofMembers, write, writeMembers_eq]
      simpa [Function.comp_def, Member.plain] using hspells

/-- To decode a written value is to decode the tree. -/
theorem Plain.decode_toText {v : Json} (hv : v.Plain) {α : Type} (d : Decoder α) :
    decode d (inputOfText v.toText) = d v := by
  rw [inputOfText, toText, String.toList_ofList]
  exact hv.spells.decode d

end ServiceHealth.Json
