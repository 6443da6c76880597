import Mathlib.Data.List.Nodup
import ServiceHealth.Error
import ServiceHealth.Json.Decode
import ServiceHealth.Proofs.Json.Reading

/-!
# Decoders and encoders that fit together

A decoder is faithful to an encoder if all values that it returns are well formed, and if it returns
every well-formed value from its encoding. This is known of records as soon as it is known of their
fields.
-/
namespace ServiceHealth.Json

variable {α β : Type}

/-- The decoder returns well-formed values, and returns them from their encodings. -/
structure Faithful (d : Decoder α) (encode : α → Json) (good : α → Prop) : Prop where
  sound : ∀ v a, d v = .ok a → good a
  plain : ∀ a, good a → (encode a).Plain
  returns : ∀ a, good a → d (encode a) = .ok a

variable {d : Decoder α} {encode : α → Json} {good : α → Prop}

/-- A text is decoded as a whole if a value of it is decoded and only blanks are left. -/
theorem decode_eq_ok_iff {s : Input} {a : α} :
    decode d s = .ok a ↔
      ∃ v left, read s = (v, some left) ∧ d v = .ok a ∧ left.all isBlank = true := by
  rw [decode]
  obtain ⟨v, left⟩ := read s
  rw [bind_eq_ok]
  cases left with
  | none => simp
  | some left =>
    by_cases hblank : left.all isBlank
    · simp [hblank, -List.all_eq_true]
    · simp [hblank, -List.all_eq_true]

theorem of_decode_eq_ok {s : Input} {a : α} (h : decode d s = .ok a) : d (read s).1 = .ok a := by
  obtain ⟨v, left, hread, hv, -⟩ := decode_eq_ok_iff.mp h
  rw [hread]
  exact hv

theorem Faithful.congr (h : Faithful d encode good) {same : α → Prop}
    (hsame : ∀ a, good a ↔ same a) : Faithful d encode same where
  sound v a ha := (hsame a).mp (h.sound v a ha)
  plain a ha := h.plain a ((hsame a).mpr ha)
  returns a ha := h.returns a ((hsame a).mpr ha)

/-- The value is decoded from the text that it is encoded as. -/
def RoundTrips (d : Decoder α) (encode : α → Json) (a : α) : Prop :=
  decode d (inputOfText (encode a).toText) = .ok a

theorem Faithful.roundTrips (h : Faithful d encode good) {a : α} (ha : good a) :
    RoundTrips d encode a := by
  rw [RoundTrips, (h.plain a ha).decode_toText]
  exact h.returns a ha

/-- Whatever text a value was decoded from, it is decoded again from its own. -/
def Stable (d : Decoder α) (encode : α → Json) : Prop :=
  ∀ s a, decode d s = .ok a → RoundTrips d encode a

theorem Faithful.stable (h : Faithful d encode good) : Stable d encode :=
  fun _ a hs => h.roundTrips (h.sound _ a (of_decode_eq_ok hs))

theorem eq_ok_of_toOption {result : Except Fault α} {a : α} (h : result.toOption = some a) :
    result = .ok a := toOption_eq_some_iff.mp h

theorem wrongType_ne_ok {v : Json} {expected : String} {a : α} :
    wrongType v expected ≠ .ok a := by
  unfold wrongType
  split <;> simp [fault]

theorem faithful_text : Faithful Decoder.text ofText fun _ => True where
  sound _ _ _ := trivial
  plain s _ := .text s
  returns _ _ := rfl

theorem word_eq : Nat.pow 2 64 = 18446744073709551616 := rfl

theorem natural_ofNat {n limit : Nat} (h : n ≤ limit) (expected : String) :
    Decoder.natural limit expected (ofNat n) = .ok n := if_pos h

theorem le_of_natural {limit : Nat} {expected : String} {v : Json} {n : Nat}
    (h : Decoder.natural limit expected v = .ok n) : n ≤ limit := by
  unfold Decoder.natural at h
  split at h
  · split at h
    · rename_i m hle
      exact Except.ok.inj h ▸ hle
    · contradiction
  · contradiction
  · exact absurd h wrongType_ne_ok

/-- Numbers of a fixed width are written as the naturals that they stand for. -/
theorem faithful_width {limit : Nat} (hlimit : limit < Nat.pow 2 64) {ofNatural : Nat → α}
    {toNatural : α → Nat} (hle : ∀ a, toNatural a ≤ limit)
    (hback : ∀ a, ofNatural (toNatural a) = a) (expected : String) :
    Faithful (fun v => (Decoder.natural limit expected v).map ofNatural)
      (fun a => .ofNat (toNatural a)) fun _ => True where
  sound _ _ _ := trivial
  plain a _ := .number (Nat.lt_of_le_of_lt (hle a) hlimit)
  returns a _ := by
    rw [natural_ofNat (hle a)]
    exact congrArg Except.ok (hback a)

theorem faithful_uint16 : Faithful Decoder.uint16 (fun n => .ofNat n.toNat) fun _ => True :=
  faithful_width (by decide) (fun n => Nat.le_of_lt_succ n.toNat_lt) (fun n => by simp) "u16"

theorem faithful_uint32 : Faithful Decoder.uint32 (fun n => .ofNat n.toNat) fun _ => True :=
  faithful_width (by decide) (fun n => Nat.le_of_lt_succ n.toNat_lt) (fun n => by simp) "u32"

theorem faithful_uint64 : Faithful Decoder.uint64 (fun n => .ofNat n.toNat) fun _ => True :=
  faithful_width (by decide) (fun n => Nat.le_of_lt_succ n.toNat_lt) (fun n => by simp) "u64"

/-- A count is well formed if a word of sixty-four bits holds it. -/
theorem faithful_count : Faithful Decoder.count ofNat fun n => n < Nat.pow 2 64 where
  sound v n h := by
    have hle := le_of_natural h
    rw [word_eq]
    omega
  plain n hn := .number hn
  returns n hn := by
    rw [word_eq] at hn
    exact natural_ofNat (by omega) "usize"

/-- A choice is written as the name under which it is known. -/
theorem faithful_variant {known : List (String × α)} {name : α → String}
    (h : ∀ a, known.lookup (name a) = some a) :
    Faithful (Decoder.variant known) (fun a => ofText (name a)) fun _ => True where
  sound _ _ _ := trivial
  plain a _ := .text (name a)
  returns a _ := by
    simp only [ofText, Decoder.variant, Decoder.variant.choose, h a]

/-- What may be missing is written as `null`, so no value may be. -/
theorem Faithful.nullable (h : Faithful d encode good) (hnull : ∀ a, encode a ≠ .null) :
    Faithful d.nullable (ofOption encode) fun o => ∀ a ∈ o, good a where
  sound v o hv a ha := by
    obtain rfl := Option.mem_def.mp ha
    unfold Decoder.nullable at hv
    split at hv
    · simp at hv
    · obtain ⟨b, hd, hb⟩ := map_eq_ok.mp hv
      obtain rfl := Option.some.inj hb
      exact h.sound v b hd
  plain o ho := by
    cases o with
    | none => exact .null
    | some a => exact h.plain a (ho a rfl)
  returns o ho := by
    cases o with
    | none => rfl
    | some a =>
      have ha := h.returns a (ho a rfl)
      rw [ofOption]
      unfold Decoder.nullable
      split
      · rename_i hv
        exact absurd hv (hnull a)
      · rw [ha]
        rfl

theorem within_eq_ok {step : Step} {result : Except Fault α} {a : α} :
    within step result = .ok a ↔ result = .ok a := by
  cases result with
  | error e => cases e <;> simp [within]
  | ok b => simp [within]

theorem itemsFrom_cons {index : Nat} {v : Json} {items : List Json} {l : List α} :
    Decoder.itemsFrom d index (v :: items) = .ok l ↔
      ∃ a rest, d v = .ok a ∧ Decoder.itemsFrom d (index + 1) items = .ok rest ∧ a :: rest = l := by
  simp only [Decoder.itemsFrom, bind_eq_ok, within_eq_ok, pure, Except.pure, Except.ok.injEq]
  exact ⟨fun ⟨a, ha, rest, hrest, hl⟩ => ⟨a, rest, ha, hrest, hl⟩,
    fun ⟨a, rest, ha, hrest, hl⟩ => ⟨a, ha, rest, hrest, hl⟩⟩

theorem Faithful.good_of_itemsFrom (h : Faithful d encode good) {items : List Json} {index : Nat}
    {l : List α} (hl : Decoder.itemsFrom d index items = .ok l) : ∀ a ∈ l, good a := by
  induction items generalizing index l with
  | nil =>
    obtain rfl : [] = l := by simpa [Decoder.itemsFrom] using hl
    simp
  | cons v items ih =>
    obtain ⟨a, rest, ha, hrest, rfl⟩ := itemsFrom_cons.mp hl
    intro b hb
    obtain rfl | hb := List.mem_cons.mp hb
    · exact h.sound v b ha
    · exact ih hrest b hb

theorem Faithful.itemsFrom_map (h : Faithful d encode good) {l : List α} (hl : ∀ a ∈ l, good a)
    (index : Nat) : Decoder.itemsFrom d index (l.map encode) = .ok l := by
  induction l generalizing index with
  | nil => rfl
  | cons a l ih =>
    have hrest := ih (fun b hb => hl b (List.mem_cons_of_mem a hb)) (index + 1)
    exact itemsFrom_cons.mpr ⟨a, l, h.returns a (hl a List.mem_cons_self), hrest, rfl⟩

theorem Faithful.list (h : Faithful d encode good) :
    Faithful (Decoder.list d) (fun l => .array (l.map encode)) fun l => ∀ a ∈ l, good a where
  sound v l hv := by
    unfold Decoder.list at hv
    split at hv
    · exact h.good_of_itemsFrom hv
    · exact absurd hv wrongType_ne_ok
  plain l hl := .array fun v hv => by
    obtain ⟨a, ha, rfl⟩ := List.mem_map.mp hv
    exact h.plain a (hl a ha)
  returns l hl := h.itemsFrom_map hl 0

/-! ### Records -/

namespace Record

/-- The record takes a value from what is found under names, and every field is found there. -/
structure Takes (r : Record α) (values : String → Option Json) (a : α) : Prop where
  build : r.build values = .ok a
  check : ∀ f ∈ r.fields, ∃ v, values f.name = some v ∧ f.check v = .ok ()

variable {r : Record α} {values : String → Option Json}

theorem takes_field {name : String} {trailing : Bool} {missing : Except Fault α} {v : Json} {a : α}
    (hvalue : values name = some v) (ha : d v = .ok a) :
    (field name d trailing missing).Takes values a where
  build := by
    simp only [field, hvalue]
    exact ha
  check f hf := by
    obtain rfl := List.mem_singleton.mp hf
    refine ⟨v, hvalue, ?_⟩
    simp [ha, Except.map]

theorem Takes.map {a : α} (h : r.Takes values a) (f : α → β) : (f <$> r).Takes values (f a) where
  build := by
    have hbuild := h.build
    show f <$> r.build values = .ok (f a)
    rw [hbuild]
    rfl
  check := h.check

theorem Takes.seq {r : Record (α → β)} {s : Record α} {f : α → β} {a : α} (hr : r.Takes values f)
    (hs : s.Takes values a) : (r <*> s).Takes values (f a) where
  build := by
    show r.build values <*> s.build values = .ok (f a)
    rw [hr.build, hs.build]
    rfl
  check g hg := by
    obtain hg | hg := List.mem_append.mp hg
    · exact hr.check g hg
    · exact hs.check g hg

/-- Whatever the record is built from, the result has a property. -/
def Ensures (r : Record α) (P : α → Prop) : Prop := ∀ values a, r.build values = .ok a → P a

theorem ensures_map {f : α → β} {P : β → Prop} (h : ∀ a, P (f a)) : (f <$> r).Ensures P := by
  intro values b hb
  change f <$> r.build values = .ok b at hb
  cases hr : r.build values with
  | error e => simp [hr] at hb
  | ok a =>
    obtain rfl : f a = b := by simpa [hr] using hb
    exact h a

/-- A property of the result that takes a property of the next field for granted. -/
theorem Ensures.keep {r : Record (α → β)} {s : Record α} {P : β → Prop} {Q : α → Prop}
    (hr : r.Ensures fun f => ∀ a, Q a → P (f a)) (hs : s.Ensures Q) : (r <*> s).Ensures P := by
  intro values b hb
  change r.build values <*> s.build values = .ok b at hb
  cases hf : r.build values with
  | error e =>
    rw [hf] at hb
    contradiction
  | ok f =>
    cases ha : s.build values with
    | error e =>
      rw [hf, ha] at hb
      contradiction
    | ok a =>
      rw [hf, ha] at hb
      obtain rfl : f a = b := Except.ok.inj hb
      exact hr values f hf a (hs values a ha)

/-- The next field does not matter to the property. -/
theorem Ensures.skip {r : Record (α → β)} {s : Record α} {P : β → Prop}
    (hr : r.Ensures fun f => ∀ a, P (f a)) : (r <*> s).Ensures P :=
  keep (fun values f hf a _ => hr values f hf a) fun _ _ _ => trivial

/-- What a record decoder returns was built from something. -/
theorem Ensures.decoder {P : α → Prop} (h : r.Ensures P) {title : String} {v : Json} {a : α}
    (ha : r.decoder title v = .ok a) : P a := by
  unfold Record.decoder at ha
  split at ha
  · obtain ⟨found, -, hbuild⟩ := bind_eq_ok.mp ha
    exact h _ a hbuild
  · obtain ⟨found, -, hbuild⟩ := bind_eq_ok.mp ha
    exact h _ a hbuild
  · exact absurd ha wrongType_ne_ok

/-- What is collected has been checked, the first member and then the others: a known one by its
field, and of an unknown one that it is whole. -/
theorem of_collect_cons {fields : List Field} {seen : List (String × Json)}
    {m : Option String × Json} {members : List (Option String × Json)}
    {found : List (String × Json)} (h : collect fields seen (m :: members) = .ok found) :
    ∃ name, m.1 = some name ∧ (∃ seen, collect fields seen members = .ok found) ∧
      (∀ f, fields.find? (·.name = name) = some f → f.check m.2 = .ok ()) ∧
      (fields.find? (·.name = name) = none → m.2.isWhole) := by
  obtain ⟨name, v⟩ := m
  cases name with
  | none => contradiction
  | some name =>
    rw [collect] at h
    refine ⟨name, rfl, ?_⟩
    cases hfind : fields.find? (·.name = name) with
    | none =>
      simp only [hfind] at h
      split at h
      · rename_i hwhole
        exact ⟨⟨seen, h⟩, by simp, fun _ => hwhole⟩
      · contradiction
    | some f =>
      simp only [hfind] at h
      split at h
      · contradiction
      · obtain ⟨u, hcheck, hmore⟩ := bind_eq_ok.mp h
        exact ⟨⟨_, hmore⟩, by simpa using within_eq_ok.mp hcheck, by simp⟩

theorem check_of_collect {fields : List Field} {seen found : List (String × Json)}
    {members : List (Option String × Json)} (h : collect fields seen members = .ok found)
    {name : String} {v : Json} (hmem : (some name, v) ∈ members) {f : Field}
    (hf : fields.find? (·.name = name) = some f) : f.check v = .ok () := by
  induction members generalizing seen with
  | nil => contradiction
  | cons m members ih =>
    obtain ⟨first, hname, ⟨seen, hmore⟩, hfirst, -⟩ := of_collect_cons h
    obtain rfl | hmem := List.mem_cons.mp hmem
    · obtain rfl := Option.some.inj hname
      exact hfirst f hf
    · exact ih hmore hmem

/-- What is collected of an array has been checked item by item. -/
theorem of_collectItems_cons {title : String} {size index : Nat} {f : Field} {fields : List Field}
    {v : Json} {items : List Json} {found : List (String × Json)}
    (h : collectItems title size (f :: fields) index (v :: items) = .ok found) :
    f.check v = .ok () ∧ ∃ more, collectItems title size fields (index + 1) items = .ok more := by
  rw [collectItems] at h
  obtain ⟨u, hcheck, hmore⟩ := bind_eq_ok.mp h
  obtain ⟨more, hmore, -⟩ := bind_eq_ok.mp hmore
  exact ⟨within_eq_ok.mp hcheck, more, hmore⟩

theorem check_of_collectItems {title : String} {size index k : Nat} {fields : List Field}
    {items : List Json} {found : List (String × Json)}
    (h : collectItems title size fields index items = .ok found) {f : Field} {v : Json}
    (hf : fields[k]? = some f) (hv : items[k]? = some v) : f.check v = .ok () := by
  induction fields generalizing index k items found with
  | nil => simp at hf
  | cons g fields ih =>
    cases items with
    | nil => simp at hv
    | cons w items =>
      obtain ⟨hcheck, more, hmore⟩ := of_collectItems_cons h
      cases k with
      | zero =>
        obtain rfl : g = f := Option.some.inj hf
        obtain rfl : w = v := Option.some.inj hv
        exact hcheck
      | succ k => exact ih hmore hf hv

/-- A value holds another one where a record looks for a field, under its name or in its place. -/
inductive Holds (r : Record α) (f : Field) (v : Json) : Json → Prop where
  | member {members : List (Option String × Json)} {name : String}
      (hmem : (some name, v) ∈ members) (hf : r.fields.find? (·.name = name) = some f) :
      Holds r f v (.object members)
  | item {items : List Json} {k : Nat} (hv : items[k]? = some v) (hf : r.fields[k]? = some f) :
      Holds r f v (.array items)

/-- What a record is read from passes the check of every field in it. -/
theorem Holds.check {f : Field} {v whole : Json} (h : r.Holds f v whole) {title : String} {a : α}
    (ha : r.decoder title whole = .ok a) : f.check v = .ok () := by
  cases h with
  | @member members name hmem hf =>
    obtain ⟨found, hfound, -⟩ := bind_eq_ok.mp ha
    exact check_of_collect hfound hmem hf
  | @item items k hv hf =>
    obtain ⟨found, hfound, -⟩ := bind_eq_ok.mp ha
    exact check_of_collectItems hfound hf hv

theorem lookup_eq_some_iff_mem {members : List (String × Json)}
    (h : (members.map Prod.fst).Nodup) {name : String} {v : Json} :
    members.lookup name = some v ↔ (name, v) ∈ members := by
  induction members with
  | nil => simp
  | cons m members ih =>
    obtain ⟨key, value⟩ := m
    obtain ⟨hkey, hmembers⟩ := List.nodup_cons.mp h
    by_cases hname : name = key
    · subst hname
      have hother : (name, v) ∉ members := fun hv => hkey (List.mem_map.mpr ⟨_, hv, rfl⟩)
      simp [hother, eq_comm]
    · have hne : (name == key) = false := beq_eq_false_iff_ne.mpr hname
      rw [List.lookup_cons, hne]
      simp [hname, ih hmembers]

/-- Members under different names, each of a field that it fits, are all collected. -/
theorem collect_members {fields : List Field} {seen members : List (String × Json)}
    (hnodup : ((seen ++ members).map Prod.fst).Nodup)
    (h : ∀ m ∈ members, ∃ f, fields.find? (·.name = m.1) = some f ∧ f.check m.2 = .ok ()) :
    collect fields seen (members.map fun m => (some m.1, m.2)) =
      .ok (members.reverse ++ seen) := by
  induction members generalizing seen with
  | nil => rfl
  | cons m members ih =>
    obtain ⟨key, value⟩ := m
    obtain ⟨f, hf, hcheck⟩ := h (key, value) List.mem_cons_self
    have hperm : ((((key, value) :: seen) ++ members).map Prod.fst).Nodup :=
      (List.perm_middle.map Prod.fst).nodup_iff.mp hnodup
    have hfresh : seen.lookup key = none := by
      rw [List.lookup_eq_none_iff]
      intro n hn
      have hkey : key ∉ (seen ++ members).map Prod.fst := (List.nodup_cons.mp hperm).1
      have hmem : n.1 ∈ (seen ++ members).map Prod.fst :=
        List.mem_map_of_mem (List.mem_append_left members hn)
      exact bne_iff_ne.mpr fun heq => hkey (heq ▸ hmem)
    have hmore := ih hperm fun n hn => h n (List.mem_cons_of_mem _ hn)
    simp only [List.map_cons, collect, hf, hfresh, hcheck, within]
    rw [List.reverse_cons, List.append_assoc]
    exact hmore

/-- A record is read from members that stand under the names of its fields in their order. -/
theorem Takes.decoder {r : Record α} {members : List (String × Json)} {a : α}
    (hnames : members.map Prod.fst = r.fields.map Field.name)
    (hnodup : (r.fields.map Field.name).Nodup) (h : r.Takes (members.lookup ·) a)
    (title : String) : r.decoder title (.ofMembers members) = .ok a := by
  have hkeys : (members.map Prod.fst).Nodup := hnames ▸ hnodup
  have hfits : ∀ m ∈ members, ∃ f, r.fields.find? (·.name = m.1) = some f ∧
      f.check m.2 = .ok () := by
    intro m hm
    have hname : m.1 ∈ r.fields.map Field.name := hnames ▸ List.mem_map_of_mem hm
    obtain ⟨g, hg, hgm⟩ := List.mem_map.mp hname
    have hfound : (r.fields.find? (·.name = m.1)).isSome := by
      rw [List.find?_isSome]
      exact ⟨g, hg, by simp [hgm]⟩
    obtain ⟨f, hf⟩ := Option.isSome_iff_exists.mp hfound
    have hfm : f.name = m.1 := by simpa using List.find?_some hf
    obtain ⟨v, hv, hcheck⟩ := h.check f (List.mem_of_find?_eq_some hf)
    have hlookup : members.lookup m.1 = some m.2 := (lookup_eq_some_iff_mem hkeys).mpr hm
    obtain rfl : m.2 = v := by
      rw [hfm, hlookup] at hv
      exact Option.some.inj hv
    exact ⟨f, hf, hcheck⟩
  have hcollect : collect r.fields [] (members.map fun m => (some m.1, m.2)) =
      .ok (members.reverse ++ []) := collect_members (by simpa using hkeys) hfits
  have hsame : (fun name => (members.reverse ++ []).lookup name) = (members.lookup ·) := by
    funext name
    refine Option.ext fun v => ?_
    have hreverse : (members.reverse.map Prod.fst).Nodup := by
      rwa [List.map_reverse, List.nodup_reverse]
    rw [List.append_nil, lookup_eq_some_iff_mem hreverse, lookup_eq_some_iff_mem hkeys,
      List.mem_reverse]
  have hbuild := h.build
  rw [ofMembers, Record.decoder, hcollect]
  show r.build (fun name => (members.reverse ++ []).lookup name) = .ok a
  rw [hsame, hbuild]

/-- A record decoder is faithful if the encoding lists the fields in their order. -/
theorem faithful {r : Record α} {good : α → Prop} (members : α → List (String × Json))
    (hnodup : (r.fields.map Field.name).Nodup)
    (hnames : ∀ a, (members a).map Prod.fst = r.fields.map Field.name)
    (hplain : ∀ a, good a → ∀ m ∈ members a, m.2.Plain)
    (htakes : ∀ a, good a → r.Takes ((members a).lookup ·) a) (hgood : r.Ensures good)
    (title : String) : Faithful (r.decoder title) (fun a => .ofMembers (members a)) good where
  sound _ _ ha := hgood.decoder ha
  plain a ha := .object (hplain a ha)
  returns a ha := (htakes a ha).decoder (hnames a) hnodup title

end Record

/-- A field takes a well-formed value that stands encoded under its name. -/
theorem Faithful.takes_field (h : Faithful d encode good) {name : String} {trailing : Bool}
    {missing : Except Fault α} {values : String → Option Json} {a : α} (ha : good a)
    (hvalue : values name = some (encode a)) :
    (Record.field name d trailing missing).Takes values a :=
  Record.takes_field hvalue (h.returns a ha)

/-- What is found for a field is well formed, if what stands in for it is. -/
theorem Faithful.ensures_field (h : Faithful d encode good) {name : String} {trailing : Bool}
    {missing : Except Fault α} (hmissing : ∀ a, missing = .ok a → good a) :
    (Record.field name d trailing missing).Ensures good := by
  intro values a ha
  simp only [Record.field] at ha
  split at ha
  · exact h.sound _ a ha
  · exact hmissing a ha

end ServiceHealth.Json
