import ServiceHealth.Proofs.Json.Locality
import ServiceHealth.Proofs.Json.Records
import ServiceHealth.Wire.Service

/-!
# One value at the front of a text

A decoder that takes no tree with a break and only values that end with a mark of their own decodes
the value at the front of a text if and only if it decodes some front of the text as a whole. The
whole text is decoded only if nothing but blanks follows this front.
-/
namespace ServiceHealth

namespace Json

variable {α β : Type} {d : Decoder α}

/-- A text without gaps is decoded as a whole if it spells a value that is decoded. -/
theorem decode_text_eq_ok_iff {text : List Char} {a : α} :
    decode d (text.map some) = .ok a ↔ ∃ v, Spells text v ∧ d v = .ok a := by
  constructor
  · rw [decode_eq_ok_iff]
    rintro ⟨v, left, hread, hv, hblank⟩
    obtain ⟨front, htext, hfront⟩ := exists_of_read hread
    have hnone : none ∉ front := fun hmem => by
      have hsome : none ∈ text.map some := htext ▸ List.mem_append_left left hmem
      simp at hsome
    have hleft : Blanks left.reduceOption := fun c hc =>
      List.all_eq_true.mp hblank (some c) (List.reduceOption_mem_iff.mp hc)
    refine ⟨v, ?_, hv⟩
    rw [← reduceOption_map_some text, htext, List.reduceOption_append]
    exact (hfront.spells hnone).trailing hleft
  · rintro ⟨v, hspells, hv⟩
    rw [hspells.decode, hv]

/-! ### Trees without a break -/

/-- The decoder takes no tree with a break in it. -/
def Thorough (d : Decoder α) : Prop := ∀ v a, d v = .ok a → v.isWhole

theorem thorough_text : Thorough Decoder.text := by
  intro v s h
  unfold Decoder.text at h
  split at h
  · rfl
  · exact absurd h wrongType_ne_ok

theorem thorough_natural (limit : Nat) (expected : String) :
    Thorough (Decoder.natural limit expected) := by
  intro v n h
  unfold Decoder.natural at h
  split at h
  · rfl
  · rfl
  · exact absurd h wrongType_ne_ok

theorem thorough_uint16 : Thorough Decoder.uint16 := by
  intro v n h
  obtain ⟨m, hm, -⟩ := map_eq_ok.mp h
  exact thorough_natural _ _ v m hm

theorem thorough_unit : Thorough Decoder.unit := by
  intro v u h
  unfold Decoder.unit at h
  split at h
  · rfl
  · exact absurd h wrongType_ne_ok

theorem thorough_variant (known : List (String × α)) : Thorough (Decoder.variant known) := by
  intro v a h
  unfold Decoder.variant at h
  split at h
  · rfl
  · rename_i name v rest
    obtain ⟨b, -, h⟩ := bind_eq_ok.mp h
    obtain ⟨u, hu, h⟩ := bind_eq_ok.mp h
    have hv := thorough_unit v u (within_eq_ok.mp hu)
    cases rest with
    | nil => simp [isWhole, areMembersWhole, hv]
    | cons m rest => contradiction
  · contradiction

theorem Thorough.membersOf (h : Thorough d) {members : List (Option String × Json)}
    {found : List (String × α)} (hfound : Decoder.membersOf d members = .ok found) :
    areMembersWhole members := by
  induction members generalizing found with
  | nil => rfl
  | cons m members ih =>
    obtain ⟨name, v⟩ := m
    cases name with
    | none => contradiction
    | some name =>
      rw [Decoder.membersOf] at hfound
      obtain ⟨a, ha, hmore⟩ := bind_eq_ok.mp hfound
      obtain ⟨more, hmore, -⟩ := bind_eq_ok.mp hmore
      simp [areMembersWhole, h v a (within_eq_ok.mp ha), ih hmore]

namespace Record

/-- No field of the record takes a tree with a break in it. -/
def Thorough (r : Record α) : Prop := ∀ f ∈ r.fields, ∀ v, f.check v = .ok () → v.isWhole

theorem thorough_field (h : Json.Thorough d) (name : String) (trailing : Bool)
    (missing : Except Fault α) : (field name d trailing missing).Thorough := by
  intro f hf v hv
  obtain rfl := List.mem_singleton.mp hf
  obtain ⟨a, ha, -⟩ := map_eq_ok.mp hv
  exact h v a ha

theorem Thorough.map {r : Record α} (h : r.Thorough) (f : α → β) : (f <$> r).Thorough := h

theorem Thorough.seq {r : Record (α → β)} {s : Record α} (hr : r.Thorough) (hs : s.Thorough) :
    (r <*> s).Thorough := by
  intro f hf
  obtain hf | hf := List.mem_append.mp hf
  · exact hr f hf
  · exact hs f hf

theorem areMembersWhole_of_collect {fields : List Field}
    (h : ∀ f ∈ fields, ∀ v, f.check v = .ok () → v.isWhole) {seen found : List (String × Json)}
    {members : List (Option String × Json)} (hfound : collect fields seen members = .ok found) :
    areMembersWhole members := by
  induction members generalizing seen with
  | nil => rfl
  | cons m members ih =>
    obtain ⟨name, hname, ⟨seen, hmore⟩, hknown, hunknown⟩ := of_collect_cons hfound
    have hv : m.2.isWhole := by
      cases hfind : fields.find? (·.name = name) with
      | none => exact hunknown hfind
      | some f => exact h f (List.mem_of_find?_eq_some hfind) m.2 (hknown f hfind)
    simp [areMembersWhole, hv, ih hmore]

theorem areWhole_of_collectItems {title : String} {size index : Nat} {fields : List Field}
    (h : ∀ f ∈ fields, ∀ v, f.check v = .ok () → v.isWhole) {items : List Json}
    {found : List (String × Json)}
    (hfound : collectItems title size fields index items = .ok found) : areWhole items := by
  induction fields generalizing index items found with
  | nil =>
    cases items with
    | nil => rfl
    | cons v items => contradiction
  | cons f fields ih =>
    obtain ⟨hf, hfields⟩ := List.forall_mem_cons.mp h
    cases items with
    | nil => rfl
    | cons v items =>
      obtain ⟨hv, more, hmore⟩ := of_collectItems_cons hfound
      simp [areWhole, hf v hv, ih hfields hmore]

end Record

/-! ### Decoders of arrays and objects -/

/-- Every value that the decoder takes is an array or an object and has no break in it. -/
structure Compound (d : Decoder α) : Prop where
  whole : Thorough d
  nests : ∀ v a, d v = .ok a → v.Nests

/-- The value at the front of a text is decoded if and only if a front of the text is decoded as a
whole. -/
theorem Compound.decodeFirst_eq_ok_iff (h : Compound d) {s : Input} {a : α} :
    decodeFirst d s = .ok a ↔ ∃ front rest, s = front ++ rest ∧ decode d front = .ok a := by
  constructor
  · intro hfirst
    obtain ⟨v, left, hread⟩ : ∃ v left, read s = (v, left) := ⟨_, _, rfl⟩
    rw [decodeFirst, hread] at hfirst
    cases left with
    | none =>
      have hwhole := h.whole v a hfirst
      rw [not_isWhole_of_read hread] at hwhole
      contradiction
    | some left =>
      obtain ⟨front, rfl, hfront⟩ := exists_of_read hread
      have hread := hfront.read (.inr stops_nil)
      rw [List.append_nil] at hread
      exact ⟨front, left, rfl, decode_eq_ok_iff.mpr ⟨v, [], hread, hfirst, rfl⟩⟩
  · rintro ⟨front, rest, rfl, hfront⟩
    obtain ⟨v, left, hread, hv, -⟩ := decode_eq_ok_iff.mp hfront
    -- The value ends by itself, so the blanks that were left behind it may go on with anything.
    obtain ⟨front, rfl, htakes⟩ := exists_of_read hread
    rw [List.append_assoc, decodeFirst, htakes.read (.inl (h.nests v a hv)), hv]

/-- Behind a front that is decoded as a whole only blanks are passed over. -/
theorem Compound.decode_append (h : Compound d) {front : Input} {a : α}
    (hfront : decode d front = .ok a) (rest : Input) :
    decode d (front ++ rest) = if rest.all isBlank then .ok a else .error .malformed := by
  obtain ⟨v, left, hread, hv, hblank⟩ := decode_eq_ok_iff.mp hfront
  obtain ⟨front, rfl, htakes⟩ := exists_of_read hread
  have hwhole : read (front ++ (left ++ rest)) = (v, some (left ++ rest)) :=
    htakes.read (.inl (h.nests v a hv))
  rw [List.append_assoc, decode, hwhole]
  simp [hv, List.all_append, hblank, bind, Except.bind, -List.all_eq_true]

theorem Thorough.map (h : Thorough d) : Compound (Decoder.map d) where
  whole v found hfound := by
    unfold Decoder.map at hfound
    split at hfound
    · exact h.membersOf hfound
    · exact absurd hfound wrongType_ne_ok
  nests v found hfound := by
    unfold Decoder.map at hfound
    split at hfound
    · trivial
    · exact absurd hfound wrongType_ne_ok

/-- What is decoded after the decoder is decoded from what the decoder takes. -/
theorem Compound.bind (h : Compound d) (f : α → Except Fault β) :
    Compound fun v => d v >>= f where
  whole v b hb := by
    obtain ⟨a, ha, -⟩ := bind_eq_ok.mp hb
    exact h.whole v a ha
  nests v b hb := by
    obtain ⟨a, ha, -⟩ := bind_eq_ok.mp hb
    exact h.nests v a ha

theorem Record.Thorough.decoder {r : Record α} (h : r.Thorough) (title : String) :
    Compound (r.decoder title) where
  whole v a ha := by
    unfold Record.decoder at ha
    split at ha
    · obtain ⟨found, hfound, -⟩ := bind_eq_ok.mp ha
      exact Record.areMembersWhole_of_collect h hfound
    · obtain ⟨found, hfound, -⟩ := bind_eq_ok.mp ha
      exact Record.areWhole_of_collectItems h hfound
    · exact absurd ha wrongType_ne_ok
  nests v a ha := by
    unfold Record.decoder at ha
    split at ha
    · trivial
    · trivial
    · exact absurd ha wrongType_ne_ok

end Json

theorem Metadata.compound : Json.Compound decoder := Json.thorough_text.map.bind _

theorem Registration.compound : Json.Compound decoder := by
  refine Json.Record.Thorough.decoder ?_ _
  have hmetadata : Json.Thorough Metadata.decoder := Metadata.compound.whole
  refine .seq ?_ (Json.Record.thorough_field hmetadata _ _ _)
  refine .seq ?_ (Json.Record.thorough_field (Json.thorough_variant _) _ _ _)
  refine .seq ?_ (Json.Record.thorough_field Json.thorough_uint16 _ _ _)
  refine .seq ?_ (Json.Record.thorough_field Json.thorough_text _ _ _)
  refine .seq ?_ (Json.Record.thorough_field Json.thorough_text _ _ _)
  exact .map (Json.Record.thorough_field Json.thorough_text _ _ _) fields.make

end ServiceHealth
