import ServiceHealth.Proofs.Json.Tokens

/-!
# What the reader takes of a text

The reader takes a value from the front of a text. Where an array or an object ends does not depend
on what follows, and the front spells the value, if there are no stray bytes in it. So every text
that begins with this front is read alike.
-/
namespace ServiceHealth.Json

/-! ### Fronts -/

theorem exists_blanks (s : Input) :
    ∃ before, Blanks before ∧ s = before.map some ++ skipBlanks s := by
  induction s with
  | nil => exact ⟨[], by simp [Blanks], rfl⟩
  | cons c s ih =>
    by_cases hc : isBlank c
    · obtain ⟨before, hbefore, hs⟩ := ih
      have hskip : skipBlanks (c :: s) = skipBlanks s := List.dropWhile_cons_of_pos hc
      cases c with
      | none => contradiction
      | some c =>
        refine ⟨c :: before, List.forall_mem_cons.mpr ⟨hc, hbefore⟩, ?_⟩
        rw [hskip, List.map_cons, List.cons_append, ← hs]
    · have hskip : skipBlanks (c :: s) = c :: s := List.dropWhile_cons_of_neg hc
      exact ⟨[], by simp [Blanks], hskip.symm⟩

/-- Not only blanks. -/
def Solid (front : Input) : Prop := ∃ c ∈ front, isBlank c = false

/-- Where a solid text begins does not depend on what follows it. -/
theorem Solid.skipBlanks_append {front : Input} (h : Solid front) :
    ∃ c more, ∀ rest, skipBlanks (front ++ rest) = c :: (more ++ rest) := by
  induction front with
  | nil => simp [Solid] at h
  | cons c front ih =>
    by_cases hc : isBlank c
    · have hskip (s : Input) : skipBlanks (c :: s) = skipBlanks s := List.dropWhile_cons_of_pos hc
      obtain ⟨d, hd, hsolid⟩ := h
      obtain rfl | hd := List.mem_cons.mp hd
      · rw [hc] at hsolid
        contradiction
      · obtain ⟨d, more, hmore⟩ := ih ⟨d, hd, hsolid⟩
        exact ⟨d, more, fun rest => (hskip _).trans (hmore rest)⟩
    · exact ⟨c, front, fun rest => List.dropWhile_cons_of_neg hc⟩

/-- A solid text that does not begin with a character does not do so before another text. -/
theorem Solid.begins {front : Input} (h : Solid front) {rest : Input} {c : Char}
    (hfirst : ∀ more, skipBlanks (front ++ rest) ≠ some c :: more) (other more : Input) :
    skipBlanks (front ++ other) ≠ some c :: more := by
  obtain ⟨d, tail, hskip⟩ := h.skipBlanks_append
  rw [hskip] at hfirst ⊢
  intro heq
  obtain ⟨rfl, -⟩ := List.cons.inj heq
  exact hfirst _ rfl

/-- The value ends where the text goes on. -/
def Ends (v : Json) (rest : Input) : Prop := v.Nests ∨ Stops rest

/-- A reader takes `b` from the front of a text. -/
structure Takes {β : Type} (reader : Nat → Input → β × Option Input) (ends : β → Input → Prop)
    (spells : List Char → β → Prop) (front : Input) (b : β) : Prop where
  solid : Solid front
  spells : none ∉ front → spells front.reduceOption b
  reads : ∀ fuel rest, front.length ≤ fuel → ends b rest →
    reader fuel (front ++ rest) = (b, some rest)

/-- The characters stand for items up to and including the closing bracket. -/
def SpellsItems (s : List Char) (items : List Json) : Prop :=
  ∃ written : List (List Char × Json), written ≠ [] ∧ (∀ i ∈ written, Spells i.1 i.2) ∧
    separated (written.map Prod.fst) ++ [']'] = s ∧ written.map Prod.snd = items

/-- The characters stand for members up to and including the closing brace. -/
def SpellsMembers (s : List Char) (members : List (Option String × Json)) : Prop :=
  ∃ written : List Member, written ≠ [] ∧ (∀ m ∈ written, Spells m.writtenName (.text m.name)) ∧
    (∀ m ∈ written, Spells m.writtenValue m.value) ∧
    separated (written.map Member.written) ++ ['\x7d'] = s ∧
    written.map (fun m => (m.name, m.value)) = members

theorem SpellsItems.last {s : List Char} {v : Json} (h : Spells s v) :
    SpellsItems (s ++ [']']) [v] :=
  ⟨[(s, v)], List.cons_ne_nil _ _, List.forall_mem_singleton.mpr h, rfl, rfl⟩

theorem SpellsItems.more {s t : List Char} {v : Json} {items : List Json} (h : Spells s v)
    (hitems : SpellsItems t items) : SpellsItems (s ++ ',' :: t) (v :: items) := by
  obtain ⟨written, hne, hwritten, rfl, rfl⟩ := hitems
  obtain ⟨i, written, rfl⟩ := List.exists_cons_of_ne_nil hne
  refine ⟨(s, v) :: i :: written, List.cons_ne_nil _ _, List.forall_mem_cons.mpr ⟨h, hwritten⟩, ?_,
    rfl⟩
  simp [separated]

theorem SpellsItems.array {s : List Char} {items : List Json} (h : SpellsItems s items) :
    Spells ('[' :: s) (.array items) := by
  obtain ⟨written, hne, hwritten, rfl, rfl⟩ := h
  exact .array hne hwritten

theorem SpellsMembers.last {m : Member} (hname : Spells m.writtenName (.text m.name))
    (hvalue : Spells m.writtenValue m.value) :
    SpellsMembers (m.written ++ ['\x7d']) [(m.name, m.value)] :=
  ⟨[m], List.cons_ne_nil _ _, List.forall_mem_singleton.mpr hname,
    List.forall_mem_singleton.mpr hvalue, rfl, rfl⟩

theorem SpellsMembers.more {m : Member} {s : List Char} {members : List (Option String × Json)}
    (hname : Spells m.writtenName (.text m.name)) (hvalue : Spells m.writtenValue m.value)
    (hmembers : SpellsMembers s members) :
    SpellsMembers (m.written ++ ',' :: s) ((m.name, m.value) :: members) := by
  obtain ⟨written, hne, hnames, hvalues, rfl, rfl⟩ := hmembers
  obtain ⟨n, written, rfl⟩ := List.exists_cons_of_ne_nil hne
  refine ⟨m :: n :: written, List.cons_ne_nil _ _, List.forall_mem_cons.mpr ⟨hname, hnames⟩,
    List.forall_mem_cons.mpr ⟨hvalue, hvalues⟩, ?_, rfl⟩
  simp [separated]

theorem SpellsMembers.object {s : List Char} {members : List (Option String × Json)}
    (h : SpellsMembers s members) : Spells ('\x7b' :: s) (.object members) := by
  obtain ⟨written, hne, hnames, hvalues, rfl, rfl⟩ := h
  exact .object hne hnames hvalues

/-- The reader takes the value from the front of a text. -/
def TakesValue (front : Input) (v : Json) : Prop := Takes readValue Ends Spells front v

def TakesItems (front : Input) (items : List Json) : Prop :=
  Takes readItems (fun _ _ => True) SpellsItems front items

def TakesMembers (front : Input) (members : List (Option String × Json)) : Prop :=
  Takes readMembers (fun _ _ => True) SpellsMembers front members

theorem Spells.trailing {s after : List Char} {v : Json} (h : Spells s v) (hafter : Blanks after) :
    Spells (s ++ after) v :=
  @Spells.padded [] s after v (by simp [Blanks]) hafter h

theorem Blanks.spells {before s : List Char} {v : Json} (hbefore : Blanks before)
    (h : Spells s v) : Spells (before ++ s) v := by
  simpa using @Spells.padded before s [] v hbefore (by simp [Blanks]) h

theorem skipBlanks_mark {before : List Char} (h : Blanks before) {c : Char}
    (hc : isBlank (some c) = false) (rest : Input) :
    skipBlanks (before.map some ++ some c :: rest) = some c :: rest :=
  (skipBlanks_blanks h _).trans (skipBlanks_cons hc rest)

/-- A value ends before a mark. -/
theorem ends_mark (v : Json) {before : List Char} (h : Blanks before) {c : Char}
    (hc : c ∈ [',', ':', ']', '\x7d']) (rest : Input) :
    Ends v (before.map some ++ some c :: rest) :=
  .inr (stops_blanks h (stops_mark hc rest))

/-! ### Items and members -/

theorem takesItems_last {front : Input} {v : Json} {after : List Char} (hv : TakesValue front v)
    (hafter : Blanks after) : TakesItems (front ++ (after.map some ++ [some ']'])) [v] where
  solid := ⟨some ']', by simp, rfl⟩
  spells hnone := by
    simp only [List.mem_append, not_or] at hnone
    simpa [List.reduceOption_append, reduceOption_map_some] using
      SpellsItems.last ((hv.spells hnone.1).trailing hafter)
  reads fuel rest hfuel _ := by
    simp only [List.length_append, List.length_singleton] at hfuel
    obtain ⟨fuel, rfl⟩ : ∃ n, fuel = n + 1 := ⟨fuel - 1, by omega⟩
    have hread := hv.reads fuel _ (by omega) (ends_mark (c := ']') v hafter (by decide) rest)
    simp only [List.append_assoc, List.singleton_append]
    exact readItems_of_last hread (skipBlanks_mark hafter rfl rest)

theorem takesItems_more {front more : Input} {v : Json} {items : List Json} {after : List Char}
    (hv : TakesValue front v) (hafter : Blanks after) (hitems : TakesItems more items) :
    TakesItems (front ++ (after.map some ++ some ',' :: more)) (v :: items) where
  solid := ⟨some ',', by simp, rfl⟩
  spells hnone := by
    simp only [List.mem_append, List.mem_cons, not_or] at hnone
    obtain ⟨hfront, -, -, hmore⟩ := hnone
    simpa [List.reduceOption_append, reduceOption_map_some] using
      SpellsItems.more ((hv.spells hfront).trailing hafter) (hitems.spells hmore)
  reads fuel rest hfuel _ := by
    simp only [List.length_append, List.length_cons] at hfuel
    obtain ⟨fuel, rfl⟩ : ∃ n, fuel = n + 1 := ⟨fuel - 1, by omega⟩
    have hread := hv.reads fuel _ (by omega)
      (ends_mark (c := ',') v hafter (by decide) (more ++ rest))
    have hmore := hitems.reads fuel rest (by omega) trivial
    simp only [List.append_assoc, List.cons_append]
    rw [readItems_of_more hread (skipBlanks_mark hafter rfl _), hmore]

/-- A name, a value and the blanks behind them spell a member. -/
theorem spellsMember {name value : Input} {k : Option String} {v : Json} {behind after : List Char}
    (hk : TakesValue name (.text k)) (hbehind : Blanks behind) (hv : TakesValue value v)
    (hafter : Blanks after) (hname : none ∉ name) (hvalue : none ∉ value) :
    ∃ m : Member, m.name = k ∧ m.value = v ∧ Spells m.writtenName (.text m.name) ∧
      Spells m.writtenValue m.value ∧
      m.written = name.reduceOption ++ (behind ++ ':' :: (value.reduceOption ++ after)) :=
  ⟨⟨name.reduceOption ++ behind, k, value.reduceOption ++ after, v⟩, rfl, rfl,
    (hk.spells hname).trailing hbehind, (hv.spells hvalue).trailing hafter,
    by simp [Member.written]⟩

theorem takesMembers_last {name value : Input} {k : Option String} {v : Json}
    {behind after : List Char} (hk : TakesValue name (.text k)) (hbehind : Blanks behind)
    (hv : TakesValue value v) (hafter : Blanks after) :
    TakesMembers (name ++ (behind.map some ++
      some ':' :: (value ++ (after.map some ++ [some '\x7d'])))) [(k, v)] where
  solid := ⟨some ':', by simp, rfl⟩
  spells hnone := by
    simp only [List.mem_append, List.mem_cons, not_or] at hnone
    obtain ⟨hname, -, -, hvalue, -⟩ := hnone
    obtain ⟨m, rfl, rfl, hmname, hmvalue, hwritten⟩ :=
      spellsMember hk hbehind hv hafter hname hvalue
    simpa [List.reduceOption_append, reduceOption_map_some, hwritten] using
      SpellsMembers.last hmname hmvalue
  reads fuel rest hfuel _ := by
    simp only [List.length_append, List.length_cons] at hfuel
    obtain ⟨fuel, rfl⟩ : ∃ n, fuel = n + 1 := ⟨fuel - 1, by omega⟩
    have hname := hk.reads fuel _ (by omega) (ends_mark (c := ':') (.text k) hbehind (by decide)
      (value ++ (after.map some ++ some '\x7d' :: rest)))
    have hvalue := hv.reads fuel _ (by omega) (ends_mark (c := '\x7d') v hafter (by decide) rest)
    simp only [List.append_assoc, List.cons_append, List.nil_append]
    exact readMembers_of_last hname (skipBlanks_mark hbehind rfl _) hvalue
      (skipBlanks_mark hafter rfl rest)

theorem takesMembers_more {name value more : Input} {k : Option String} {v : Json}
    {behind after : List Char} {members : List (Option String × Json)}
    (hk : TakesValue name (.text k)) (hbehind : Blanks behind) (hv : TakesValue value v)
    (hafter : Blanks after) (hmembers : TakesMembers more members) :
    TakesMembers (name ++ (behind.map some ++
      some ':' :: (value ++ (after.map some ++ some ',' :: more)))) ((k, v) :: members) where
  solid := ⟨some ':', by simp, rfl⟩
  spells hnone := by
    simp only [List.mem_append, List.mem_cons, not_or] at hnone
    obtain ⟨hname, -, -, hvalue, -, -, hmore⟩ := hnone
    obtain ⟨m, rfl, rfl, hmname, hmvalue, hwritten⟩ :=
      spellsMember hk hbehind hv hafter hname hvalue
    simpa [List.reduceOption_append, reduceOption_map_some, hwritten] using
      SpellsMembers.more hmname hmvalue (hmembers.spells hmore)
  reads fuel rest hfuel _ := by
    simp only [List.length_append, List.length_cons] at hfuel
    obtain ⟨fuel, rfl⟩ : ∃ n, fuel = n + 1 := ⟨fuel - 1, by omega⟩
    have hname := hk.reads fuel _ (by omega) (ends_mark (c := ':') (.text k) hbehind (by decide)
      (value ++ (after.map some ++ some ',' :: (more ++ rest))))
    have hvalue := hv.reads fuel _ (by omega)
      (ends_mark (c := ',') v hafter (by decide) (more ++ rest))
    have hmore := hmembers.reads fuel rest (by omega) trivial
    simp only [List.append_assoc, List.cons_append]
    rw [readMembers_of_more hname (skipBlanks_mark hbehind rfl _) hvalue
      (skipBlanks_mark hafter rfl _), hmore]

/-! ### Values -/

theorem takesValue_emptyArray {before inside : List Char} (hbefore : Blanks before)
    (hinside : Blanks inside) :
    TakesValue (before.map some ++ some '[' :: (inside.map some ++ [some ']'])) (.array []) where
  solid := ⟨some ']', by simp, rfl⟩
  spells _ := by
    simpa [List.reduceOption_append, reduceOption_map_some] using
      hbefore.spells (.emptyArray hinside)
  reads fuel rest hfuel _ := by
    simp only [List.length_append, List.length_cons] at hfuel
    obtain ⟨fuel, rfl⟩ : ∃ n, fuel = n + 1 := ⟨fuel - 1, by omega⟩
    simp only [List.append_assoc, List.cons_append, List.nil_append]
    exact readValue_of_emptyArray (skipBlanks_mark hbefore rfl _)
      (skipBlanks_mark hinside rfl rest) fuel

theorem takesValue_emptyObject {before inside : List Char} (hbefore : Blanks before)
    (hinside : Blanks inside) :
    TakesValue (before.map some ++ some '\x7b' :: (inside.map some ++ [some '\x7d']))
      (.object []) where
  solid := ⟨some '\x7d', by simp, rfl⟩
  spells _ := by
    simpa [List.reduceOption_append, reduceOption_map_some] using
      hbefore.spells (.emptyObject hinside)
  reads fuel rest hfuel _ := by
    simp only [List.length_append, List.length_cons] at hfuel
    obtain ⟨fuel, rfl⟩ : ∃ n, fuel = n + 1 := ⟨fuel - 1, by omega⟩
    simp only [List.append_assoc, List.cons_append, List.nil_append]
    exact readValue_of_emptyObject (skipBlanks_mark hbefore rfl _)
      (skipBlanks_mark hinside rfl rest) fuel

/-- Behind its bracket an array does not begin like the end of an empty one, and this does not
change with what follows the array. -/
theorem takesValue_array {before : List Char} {front left : Input} {items : List Json}
    (hbefore : Blanks before) (hitems : TakesItems front items)
    (hfirst : ∀ more, skipBlanks (front ++ left) ≠ some ']' :: more) :
    TakesValue (before.map some ++ some '[' :: front) (.array items) where
  solid := ⟨some '[', by simp, rfl⟩
  spells hnone := by
    simp only [List.mem_append, List.mem_cons, not_or] at hnone
    simpa [List.reduceOption_append, reduceOption_map_some] using
      hbefore.spells (hitems.spells hnone.2.2).array
  reads fuel rest hfuel _ := by
    simp only [List.length_append, List.length_cons] at hfuel
    obtain ⟨fuel, rfl⟩ : ∃ n, fuel = n + 1 := ⟨fuel - 1, by omega⟩
    have hread := hitems.reads fuel rest (by omega) trivial
    simp only [List.append_assoc, List.cons_append]
    rw [readValue_of_array (skipBlanks_mark hbefore rfl _) (hitems.solid.begins hfirst rest), hread]

theorem takesValue_object {before : List Char} {front left : Input}
    {members : List (Option String × Json)} (hbefore : Blanks before)
    (hmembers : TakesMembers front members)
    (hfirst : ∀ more, skipBlanks (front ++ left) ≠ some '\x7d' :: more) :
    TakesValue (before.map some ++ some '\x7b' :: front) (.object members) where
  solid := ⟨some '\x7b', by simp, rfl⟩
  spells hnone := by
    simp only [List.mem_append, List.mem_cons, not_or] at hnone
    simpa [List.reduceOption_append, reduceOption_map_some] using
      hbefore.spells (hmembers.spells hnone.2.2).object
  reads fuel rest hfuel _ := by
    simp only [List.length_append, List.length_cons] at hfuel
    obtain ⟨fuel, rfl⟩ : ∃ n, fuel = n + 1 := ⟨fuel - 1, by omega⟩
    have hread := hmembers.reads fuel rest (by omega) trivial
    simp only [List.append_assoc, List.cons_append]
    rw [readValue_of_object (skipBlanks_mark hbefore rfl _) (hmembers.solid.begins hfirst rest),
      hread]

theorem isBlank_of_skipBlanks {s rest : Input} {c : Option Char} (h : skipBlanks s = c :: rest) :
    isBlank c = false := by
  have hhead := List.head?_dropWhile_not isBlank s
  rw [skipBlanks] at h
  rwa [h] at hhead

theorem takesValue_scalar {before : List Char} {s front left : Input} {v : Json}
    (hbefore : Blanks before) (hv : TakesScalar front v) (hs : skipBlanks s = front ++ left)
    (harray : ∀ rest, skipBlanks s ≠ some '[' :: rest)
    (hobject : ∀ rest, skipBlanks s ≠ some '\x7b' :: rest) :
    TakesValue (before.map some ++ front) v := by
  obtain ⟨c, more, rfl⟩ := hv.first
  have hblank : isBlank (some c) = false := isBlank_of_skipBlanks hs
  have hskip (rest : Input) : skipBlanks (before.map some ++ some c :: more ++ rest) =
      some c :: more ++ rest := by
    rw [List.append_assoc]
    exact skipBlanks_mark hbefore hblank _
  refine ⟨⟨some c, by simp, hblank⟩, fun hnone => ?_, fun fuel rest hfuel hends => ?_⟩
  · simp only [List.mem_append, not_or] at hnone
    simpa [List.reduceOption_append, reduceOption_map_some] using
      hbefore.spells (hv.spells hnone.2)
  · simp only [List.length_append, List.length_cons] at hfuel
    obtain ⟨fuel, rfl⟩ : ∃ n, fuel = n + 1 := ⟨fuel - 1, by omega⟩
    rw [readValue_of_scalar, hskip]
    · exact hv.reads rest (hends.resolve_left hv.flat)
    · intro rest heq
      rw [hskip] at heq
      exact harray _ (hs.trans (by rw [List.cons_append, (List.cons.inj heq).1]))
    · intro rest heq
      rw [hskip] at heq
      exact hobject _ (hs.trans (by rw [List.cons_append, (List.cons.inj heq).1]))

/-! ### What is read is taken from the front -/

/-- Whatever a reader returns is taken from a front of the text. -/
def IsLocal {β : Type} (reader : Nat → Input → β × Option Input) (takes : Input → β → Prop)
    (fuel : Nat) : Prop :=
  ∀ s b left, reader fuel s = (b, some left) → ∃ front, s = front ++ left ∧ takes front b

theorem isLocal_readItems (hvalue : IsLocal readValue TakesValue fuel)
    (hitems : IsLocal readItems TakesItems fuel) : IsLocal readItems TakesItems (fuel + 1) := by
  intro s items left h
  cases itemsRead h with
  | @more v rest _ _ _ hv hmark hfound =>
    obtain ⟨front, rfl, hfront⟩ := hvalue _ _ _ hv
    obtain ⟨after, hafter, hrest⟩ := exists_blanks rest
    obtain ⟨more, rfl, hmore⟩ := hitems _ _ _ hfound
    exact ⟨_, by rw [hrest, hmark]; simp, takesItems_more hfront hafter hmore⟩
  | @last v rest _ hv hmark =>
    obtain ⟨front, rfl, hfront⟩ := hvalue _ _ _ hv
    obtain ⟨after, hafter, hrest⟩ := exists_blanks rest
    exact ⟨_, by rw [hrest, hmark]; simp, takesItems_last hfront hafter⟩

theorem isLocal_readMembers (hvalue : IsLocal readValue TakesValue fuel)
    (hmembers : IsLocal readMembers TakesMembers fuel) :
    IsLocal readMembers TakesMembers (fuel + 1) := by
  intro s members left h
  cases membersRead h with
  | @more _ _ named _ rest _ _ _ hk hcolon hv hmark hfound =>
    obtain ⟨name, rfl, hname⟩ := hvalue _ _ _ hk
    obtain ⟨behind, hbehind, hnamed⟩ := exists_blanks named
    obtain ⟨value, rfl, hfront⟩ := hvalue _ _ _ hv
    obtain ⟨after, hafter, hrest⟩ := exists_blanks rest
    obtain ⟨more, rfl, hmore⟩ := hmembers _ _ _ hfound
    refine ⟨_, ?_, takesMembers_more hname hbehind hfront hafter hmore⟩
    rw [hnamed, hcolon, hrest, hmark]
    simp
  | @last _ _ named _ rest _ hk hcolon hv hmark =>
    obtain ⟨name, rfl, hname⟩ := hvalue _ _ _ hk
    obtain ⟨behind, hbehind, hnamed⟩ := exists_blanks named
    obtain ⟨value, rfl, hfront⟩ := hvalue _ _ _ hv
    obtain ⟨after, hafter, hrest⟩ := exists_blanks rest
    refine ⟨_, ?_, takesMembers_last hname hbehind hfront hafter⟩
    rw [hnamed, hcolon, hrest, hmark]
    simp

theorem isLocal_readValue (hitems : IsLocal readItems TakesItems fuel)
    (hmembers : IsLocal readMembers TakesMembers fuel) :
    IsLocal readValue TakesValue (fuel + 1) := by
  intro s v left h
  obtain ⟨before, hbefore, hs⟩ := exists_blanks s
  cases valueRead h with
  | @emptyArray rest _ hopen hclose =>
    obtain ⟨inside, hinside, hrest⟩ := exists_blanks rest
    refine ⟨_, ?_, takesValue_emptyArray hbefore hinside⟩
    rw [hs, hopen, hrest, hclose]
    simp
  | array hopen hfirst hrest =>
    obtain ⟨front, rfl, hfront⟩ := hitems _ _ _ hrest
    refine ⟨_, ?_, takesValue_array hbefore hfront hfirst⟩
    rw [hs, hopen]
    simp
  | @emptyObject rest _ hopen hclose =>
    obtain ⟨inside, hinside, hrest⟩ := exists_blanks rest
    refine ⟨_, ?_, takesValue_emptyObject hbefore hinside⟩
    rw [hs, hopen, hrest, hclose]
    simp
  | object hopen hfirst hrest =>
    obtain ⟨front, rfl, hfront⟩ := hmembers _ _ _ hrest
    refine ⟨_, ?_, takesValue_object hbefore hfront hfirst⟩
    rw [hs, hopen]
    simp
  | scalar harray hobject hscalar =>
    obtain ⟨front, hskip, hfront⟩ := exists_of_readScalar hscalar
    refine ⟨_, ?_, takesValue_scalar hbefore hfront hskip harray hobject⟩
    rw [hs, hskip]
    simp

/-- All three readers are local: each calls the others with less fuel. -/
theorem isLocal (fuel : Nat) : IsLocal readValue TakesValue fuel ∧
    IsLocal readItems TakesItems fuel ∧ IsLocal readMembers TakesMembers fuel := by
  induction fuel with
  | zero =>
    refine ⟨fun s v left h => ?_, fun s items left h => ?_, fun s members left h => ?_⟩
    all_goals exact nomatch (Prod.mk.inj h).2
  | succ fuel ih =>
    obtain ⟨hvalue, hitems, hmembers⟩ := ih
    exact ⟨isLocal_readValue hitems hmembers, isLocal_readItems hvalue hitems,
      isLocal_readMembers hvalue hmembers⟩

/-- What is read of a text is taken from its front. -/
theorem exists_of_read {s left : Input} {v : Json} (h : read s = (v, some left)) :
    ∃ front, s = front ++ left ∧ TakesValue front v :=
  (isLocal _).1 s v left h

/-- Every text that begins with the front is read alike. -/
theorem TakesValue.read {front rest : Input} {v : Json} (h : TakesValue front v)
    (hends : Ends v rest) : read (front ++ rest) = (v, some rest) :=
  h.reads _ rest (by rw [List.length_append]; omega) hends

/-- A text that breaks is read as a tree with a break. -/
theorem not_isWhole_of_read {s : Input} {v : Json} (h : read s = (v, none)) : v.isWhole = false :=
  (breaks _).1 s v h

end ServiceHealth.Json
