import Mathlib.Data.List.TakeWhile
import ServiceHealth.Json.Decode
import ServiceHealth.Proofs.Json.Steps

/-!
# What a JSON text stands for

The grammar of JSON as a relation between characters and trees. Blanks stand around values and
names, the characters of a string stand for themselves or are escaped in any of the ways there are,
and numerals have any digits, fractions and exponents. The reader takes every text of the grammar
for the tree that it stands for. So what is shown of a tree is known of all texts that spell it.
-/
namespace ServiceHealth.Json

def Blanks (s : List Char) : Prop := ∀ c ∈ s, isBlank (some c)

/-- The value of a digit that is known to be one. -/
def digitValue (c : Char) : Nat := c.toNat - '0'.toNat

structure SpellsDigits (s : List Char) (digits : List Nat) : Prop where
  ne_nil : s ≠ []
  isDigit : ∀ c ∈ s, c.isDigit
  values : s.map digitValue = digits

inductive SpellsFraction : List Char → List Nat → Prop where
  | absent : SpellsFraction [] []
  | point {s : List Char} {digits : List Nat} (h : SpellsDigits s digits) :
      SpellsFraction ('.' :: s) digits

inductive SpellsSign : List Char → Bool → Prop where
  | absent : SpellsSign [] false
  | plus : SpellsSign ['+'] false
  | minus : SpellsSign ['-'] true

inductive SpellsPower : List Char → Option Power → Prop where
  | absent : SpellsPower [] none
  | power {e : Char} {sign s : List Char} {negative : Bool} {digits : List Nat}
      (he : e = 'e' ∨ e = 'E') (hsign : SpellsSign sign negative) (h : SpellsDigits s digits) :
      SpellsPower (e :: (sign ++ s)) (some ⟨negative, digits⟩)

/-- The parts of a numeral behind its sign. A zero is the first of its whole digits only if it is
the only one. -/
structure Numeral.Spelled (n : Numeral) (whole fraction power : List Char) : Prop where
  whole : SpellsDigits whole n.whole
  leading : ∀ more, n.whole = 0 :: more → more = []
  fraction : SpellsFraction fraction n.fraction
  power : SpellsPower power n.power

/-- The characters of a string between its quotes and what they stand for, one by one. -/
inductive SpellsPieces : List Char → List Piece → Prop where
  | nil : SpellsPieces [] []
  | char {c : Char} {s : List Char} {pieces : List Piece} (hquote : c ≠ '"') (hslash : c ≠ '\\')
      (hcontrol : 0x20 ≤ c.toNat) (h : SpellsPieces s pieces) :
      SpellsPieces (c :: s) (.char c :: pieces)
  | letter {letter c : Char} {s : List Char} {pieces : List Piece}
      (hletter : escaped? letter = some c) (h : SpellsPieces s pieces) :
      SpellsPieces ('\\' :: letter :: s) (.char c :: pieces)
  | unit {a b c d : Char} {n : Nat} {s : List Char} {pieces : List Piece}
      (hunit : hexUnit? (some a) (some b) (some c) (some d) = some n) (h : SpellsPieces s pieces) :
      SpellsPieces ('\\' :: 'u' :: a :: b :: c :: d :: s) (.ofUnit n :: pieces)

def separated : List (List Char) → List Char
  | [] => []
  | [s] => s
  | s :: t :: rest => s ++ ',' :: separated (t :: rest)

/-- The values that have one spelling only. -/
def literals : List (List Char × Json) :=
  [(['n', 'u', 'l', 'l'], .null), (['t', 'r', 'u', 'e'], .bool true),
    (['f', 'a', 'l', 's', 'e'], .bool false)]

/-- A member of an object, and how its name and its value are written. -/
structure Member where
  writtenName : List Char
  name : Option String
  writtenValue : List Char
  value : Json

def Member.written (m : Member) : List Char := m.writtenName ++ ':' :: m.writtenValue

/-- The characters stand for the value. -/
inductive Spells : List Char → Json → Prop where
  | padded {before s after : List Char} {v : Json} (hbefore : Blanks before)
      (hafter : Blanks after) (h : Spells s v) : Spells (before ++ (s ++ after)) v
  | literal {s : List Char} {v : Json} (h : (s, v) ∈ literals) : Spells s v
  | number {n : Numeral} {whole fraction power : List Char} (hsign : n.negative = false)
      (h : n.Spelled whole fraction power) :
      Spells (whole ++ (fraction ++ power)) (.number n.number?)
  | negative {n : Numeral} {whole fraction power : List Char} (hsign : n.negative = true)
      (h : n.Spelled whole fraction power) :
      Spells ('-' :: (whole ++ (fraction ++ power))) (.number n.number?)
  | text {s : List Char} {pieces : List Piece} (h : SpellsPieces s pieces) :
      Spells ('"' :: (s ++ ['"'])) (.text ((assemble pieces).map String.ofList))
  | emptyArray {s : List Char} (h : Blanks s) : Spells ('[' :: (s ++ [']'])) (.array [])
  | array {items : List (List Char × Json)} (hne : items ≠ [])
      (hitems : ∀ i ∈ items, Spells i.1 i.2) :
      Spells ('[' :: (separated (items.map Prod.fst) ++ [']'])) (.array (items.map Prod.snd))
  | emptyObject {s : List Char} (h : Blanks s) : Spells ('\x7b' :: (s ++ ['\x7d'])) (.object [])
  | object {members : List Member} (hne : members ≠ [])
      (hnames : ∀ m ∈ members, Spells m.writtenName (.text m.name))
      (hvalues : ∀ m ∈ members, Spells m.writtenValue m.value) :
      Spells ('\x7b' :: (separated (members.map Member.written) ++ ['\x7d']))
        (.object (members.map fun m => (m.name, m.value)))

/-- The text goes on with nothing that could belong to a number. -/
def Stops (rest : Input) : Prop :=
  ∀ c ∈ rest.head?, digit? c = none ∧ c ≠ some '.' ∧ c ≠ some 'e' ∧ c ≠ some 'E'

theorem stops_nil : Stops [] := by simp [Stops]

/-- No number goes on with what stands behind names and values. -/
theorem stops_mark {c : Char} (h : c ∈ [',', ':', ']', '\x7d']) (rest : Input) :
    Stops (some c :: rest) := by
  simp only [List.mem_cons, List.not_mem_nil, or_false] at h
  obtain rfl | rfl | rfl | rfl := h
  all_goals simp [Stops, digit?]

theorem stops_blanks {s : List Char} (h : Blanks s) {rest : Input} (hrest : Stops rest) :
    Stops (s.map some ++ rest) := by
  cases s with
  | nil => exact hrest
  | cons c s =>
    have hblank := h c List.mem_cons_self
    simp only [isBlank, Bool.or_eq_true, decide_eq_true_eq] at hblank
    obtain ((rfl | rfl) | rfl) | rfl := hblank
    all_goals simp [Stops, digit?]

theorem skipBlanks_blanks {s : List Char} (h : Blanks s) (rest : Input) :
    skipBlanks (s.map some ++ rest) = skipBlanks rest := by
  induction s with
  | nil => rfl
  | cons c s ih =>
    have hblank := h c List.mem_cons_self
    have hmore := ih fun d hd => h d (List.mem_cons_of_mem c hd)
    rw [skipBlanks] at hmore ⊢
    rw [List.map_cons, List.cons_append, List.dropWhile_cons_of_pos hblank, hmore]

/-- What is no blank is not skipped. -/
theorem skipBlanks_cons {c : Char} (h : isBlank (some c) = false) (rest : Input) :
    skipBlanks (some c :: rest) = some c :: rest := by
  simp [skipBlanks, h]

/-! ### Numerals and strings -/

theorem digit?_of_isDigit {c : Char} (h : c.isDigit) : digit? (some c) = some (digitValue c) := by
  have hrange : '0' ≤ c ∧ c ≤ '9' := by
    simpa [Char.isDigit, Char.le_def] using h
  exact if_pos hrange

/-- Digits are taken up to the first character that is none. -/
theorem spanDigits_of_spells {s : List Char} {digits : List Nat} (h : SpellsDigits s digits)
    {rest : Input} (hrest : ∀ c ∈ rest.head?, digit? c = none) :
    spanDigits (s.map some ++ rest) = (digits, rest) := by
  obtain ⟨-, hdigits, rfl⟩ := h
  induction s with
  | nil =>
    cases rest with
    | nil => rfl
    | cons c rest =>
      have hc : digit? c = none := hrest c rfl
      simp [spanDigits, hc]
  | cons c s ih =>
    have hc := digit?_of_isDigit (hdigits c List.mem_cons_self)
    have hmore := ih fun d hd => hdigits d (List.mem_cons_of_mem c hd)
    simp [spanDigits, hc, hmore]

theorem SpellsDigits.values_ne_nil {s : List Char} {digits : List Nat}
    (h : SpellsDigits s digits) : digits ≠ [] := by
  obtain ⟨hne, -, rfl⟩ := h
  simpa using hne

theorem powerDigits?_of_spells {s : List Char} {digits : List Nat} (h : SpellsDigits s digits)
    (negative : Bool) {rest : Input} (hrest : Stops rest) :
    Numeral.powerDigits? negative (s.map some ++ rest) = some (some ⟨negative, digits⟩, rest) := by
  have hne := h.values_ne_nil
  rw [Numeral.powerDigits?, spanDigits_of_spells h fun c hc => (hrest c hc).1]
  split
  · simp_all
  · simp_all

theorem signedPower?_of_spells {sign s : List Char} {negative : Bool} {digits : List Nat}
    (hsign : SpellsSign sign negative) (h : SpellsDigits s digits) {rest : Input}
    (hrest : Stops rest) :
    Numeral.signedPower? ((sign ++ s).map some ++ rest) =
      some (some ⟨negative, digits⟩, rest) := by
  have hpower := powerDigits?_of_spells h negative hrest
  cases hsign with
  | plus => exact hpower
  | minus => exact hpower
  | absent =>
    -- The first digit is not taken for a sign.
    rw [← hpower, List.nil_append]
    obtain ⟨c, s, rfl⟩ := List.exists_cons_of_ne_nil h.ne_nil
    have hc := h.isDigit c List.mem_cons_self
    rw [Numeral.signedPower?.eq_def]
    split
    · simp_all [Char.isDigit]
    · simp_all [Char.isDigit]
    · rfl

/-- An exponent, or none, is found where it ends. -/
theorem power?_of_spells {s : List Char} {p : Option Power} (h : SpellsPower s p) {rest : Input}
    (hrest : Stops rest) : Numeral.power? (s.map some ++ rest) = some (p, rest) := by
  cases h with
  | absent =>
    rw [List.map_nil, List.nil_append, Numeral.power?.eq_def]
    split
    · simp_all [Stops]
    · simp_all [Stops]
    · rfl
  | power he hsign hdigits =>
    have hsigned := signedPower?_of_spells hsign hdigits hrest
    obtain rfl | rfl := he
    · exact hsigned
    · exact hsigned

/-- What follows the whole digits is no digit, and what follows the fraction no point either. -/
theorem SpellsPower.follows {s : List Char} {p : Option Power} (h : SpellsPower s p) {rest : Input}
    (hrest : Stops rest) : ∀ c ∈ (s.map some ++ rest).head?, digit? c = none ∧ c ≠ some '.' := by
  cases h with
  | absent => exact fun c hc => ⟨(hrest c hc).1, (hrest c hc).2.1⟩
  | power he hsign hdigits =>
    obtain rfl | rfl := he
    all_goals simp [digit?]

theorem SpellsFraction.follows {s : List Char} {digits : List Nat} (h : SpellsFraction s digits)
    {rest : Input} (hrest : ∀ c ∈ rest.head?, digit? c = none) :
    ∀ c ∈ (s.map some ++ rest).head?, digit? c = none := by
  cases h with
  | absent => exact hrest
  | point hdigits => simp [digit?]

/-- A fraction, or none, is found where it ends. -/
theorem fraction?_of_spells {s : List Char} {digits : List Nat} (h : SpellsFraction s digits)
    {rest : Input} (hrest : ∀ c ∈ rest.head?, digit? c = none ∧ c ≠ some '.') :
    Numeral.fraction? (s.map some ++ rest) = some (digits, rest) := by
  cases h with
  | absent =>
    rw [List.map_nil, List.nil_append, Numeral.fraction?.eq_def]
    split
    · simp_all
    · rfl
  | @point s _ hdigits =>
    have hspan := spanDigits_of_spells hdigits fun c hc => (hrest c hc).1
    have hne := hdigits.values_ne_nil
    rw [List.map_cons, List.cons_append, Numeral.fraction?, hspan]
    split
    · simp_all
    · rfl

/-- Whole digits are found where they end, if no zero leads them. -/
theorem whole?_of_spells {s : List Char} {digits : List Nat} (h : SpellsDigits s digits)
    (hleading : ∀ more, digits = 0 :: more → more = []) {rest : Input}
    (hrest : ∀ c ∈ rest.head?, digit? c = none) :
    Numeral.whole? (s.map some ++ rest) = some (digits, rest) := by
  have hne := h.values_ne_nil
  rw [Numeral.whole?, spanDigits_of_spells h hrest]
  split
  · simp_all
  · simp_all
  · rfl

/-- A numeral is read behind its sign. -/
theorem Numeral.Spelled.read {n : Numeral} {whole fraction power : List Char}
    (h : n.Spelled whole fraction power) {rest : Input} (hrest : Stops rest) :
    readNumber n.negative ((whole ++ (fraction ++ power)).map some ++ rest) =
      (.number n.number?, some rest) := by
  -- Each part ends because of what the next one, or the rest, begins with.
  have hfollows := h.power.follows hrest
  have hwhole := whole?_of_spells h.whole h.leading
    (h.fraction.follows fun c hc => (hfollows c hc).1)
  have hfraction := fraction?_of_spells h.fraction hfollows
  have hpower := power?_of_spells h.power hrest
  have hread : Numeral.read? n.negative
      (whole.map some ++ (fraction.map some ++ (power.map some ++ rest))) = some (n, rest) := by
    simp [Numeral.read?, hwhole, hfraction, hpower]
  simp only [List.map_append, List.append_assoc]
  rw [readNumber, hread]

/-- A string is read up to its closing quote, whatever follows. -/
theorem SpellsPieces.read {s : List Char} {pieces : List Piece} (h : SpellsPieces s pieces)
    (rest : Input) : readPieces (s.map some ++ some '"' :: rest) = some (pieces, rest) := by
  induction h with
  | nil => simp [readPieces]
  | char hquote hslash hcontrol h ih =>
    rw [List.map_cons, List.cons_append, readPieces_char hquote hslash hcontrol, ih]
    rfl
  | letter hletter h ih =>
    simp only [List.map_cons, List.cons_append]
    rw [readPieces_letter hletter, ih]
    rfl
  | unit hunit h ih =>
    simp only [List.map_cons, List.cons_append]
    rw [readPieces_unit hunit, ih]
    rfl

/-! ### Values -/

/-- The reader takes the characters for the value, and perhaps some blanks behind them, if nothing
follows that could belong to a number. -/
def ReadsAs (s : List Char) (v : Json) : Prop :=
  ∀ fuel rest, s.length ≤ fuel → Stops rest → ∃ left,
    readValue fuel (s.map some ++ rest) = (v, some left) ∧ skipBlanks left = skipBlanks rest

theorem readValue_blanks {s : List Char} (h : Blanks s) (fuel : Nat) (rest : Input) :
    readValue fuel (s.map some ++ rest) = readValue fuel rest := by
  cases fuel with
  | zero => simp [readValue]
  | succ fuel => rw [readValue, readValue, skipBlanks_blanks h]

theorem ReadsAs.padded {s : List Char} {v : Json} (h : ReadsAs s v) {before after : List Char}
    (hbefore : Blanks before) (hafter : Blanks after) :
    ReadsAs (before ++ (s ++ after)) v := by
  intro fuel rest hfuel hrest
  simp only [List.length_append] at hfuel
  obtain ⟨left, hread, hleft⟩ :=
    h fuel (after.map some ++ rest) (by omega) (stops_blanks hafter hrest)
  refine ⟨left, ?_, hleft.trans (skipBlanks_blanks hafter rest)⟩
  rw [List.map_append, List.append_assoc, readValue_blanks hbefore, List.map_append,
    List.append_assoc, hread]

/-- What opens neither an array nor an object is read as it stands. -/
theorem readsAs_of_readScalar {c : Char} {s : List Char} {v : Json}
    (hblank : isBlank (some c) = false) (harray : c ≠ '[') (hobject : c ≠ '\x7b')
    (h : ∀ rest, Stops rest → readScalar (some c :: (s.map some ++ rest)) = (v, some rest)) :
    ReadsAs (c :: s) v := by
  intro fuel rest hfuel hrest
  rw [List.length_cons] at hfuel
  obtain ⟨fuel, rfl⟩ : ∃ n, fuel = n + 1 := ⟨fuel - 1, by omega⟩
  refine ⟨rest, ?_, rfl⟩
  rw [List.map_cons, List.cons_append, readValue, skipBlanks_cons hblank]
  split
  · simp_all
  · simp_all
  · exact h rest hrest

theorem readsAs_literal {s : List Char} {v : Json} (h : (s, v) ∈ literals) : ReadsAs s v := by
  simp only [literals, List.mem_cons, Prod.mk.injEq, List.not_mem_nil, or_false] at h
  obtain ⟨rfl, rfl⟩ | ⟨rfl, rfl⟩ | ⟨rfl, rfl⟩ := h
  all_goals exact readsAs_of_readScalar rfl (by decide) (by decide) fun rest _ => rfl

theorem readsAs_text {s : List Char} {pieces : List Piece} (h : SpellsPieces s pieces) :
    ReadsAs ('"' :: (s ++ ['"'])) (.text ((assemble pieces).map String.ofList)) := by
  refine readsAs_of_readScalar rfl (by decide) (by decide) fun rest _ => ?_
  have hread := h.read rest
  rw [List.map_append, List.append_assoc]
  show readText (s.map some ++ some '"' :: rest) = _
  rw [readText, hread]

/-- A digit is not taken for the beginning of anything but a number. -/
theorem readScalar_of_isDigit {c : Char} (h : c.isDigit) (rest : Input) :
    readScalar (some c :: rest) = readNumber false (some c :: rest) := by
  unfold readScalar
  split
  all_goals simp_all [Char.isDigit]

/-- A digit is no blank and opens nothing. -/
theorem isDigit_apart {c : Char} (h : c.isDigit) :
    isBlank (some c) = false ∧ c ∉ ['[', ']', '\x7b', '\x7d'] := by
  have hrange : 0x30 ≤ c.toNat ∧ c.toNat ≤ 0x39 := by
    simpa [Char.isDigit, UInt32.le_iff_toNat_le] using h
  constructor
  · by_contra hblank
    simp only [isBlank, Bool.or_eq_true, decide_eq_true_eq, Bool.not_eq_false] at hblank
    obtain ((rfl | rfl) | rfl) | rfl := hblank
    all_goals simp at hrange
  · intro hmem
    simp only [List.mem_cons, List.not_mem_nil, or_false] at hmem
    obtain rfl | rfl | rfl | rfl := hmem
    all_goals simp at hrange

theorem readsAs_number {n : Numeral} {whole fraction power : List Char}
    (hsign : n.negative = false) (h : n.Spelled whole fraction power) :
    ReadsAs (whole ++ (fraction ++ power)) (.number n.number?) := by
  have hread {rest : Input} (hrest : Stops rest) := h.read hrest
  obtain ⟨c, whole, rfl⟩ := List.exists_cons_of_ne_nil h.whole.ne_nil
  have hdigit := h.whole.isDigit c List.mem_cons_self
  obtain ⟨hblank, hopens⟩ := isDigit_apart hdigit
  simp only [List.mem_cons, not_or] at hopens
  refine readsAs_of_readScalar hblank hopens.1 hopens.2.2.1 fun rest hrest => ?_
  rw [readScalar_of_isDigit hdigit, ← hsign]
  exact hread hrest

theorem readsAs_negative {n : Numeral} {whole fraction power : List Char}
    (hsign : n.negative = true) (h : n.Spelled whole fraction power) :
    ReadsAs ('-' :: (whole ++ (fraction ++ power))) (.number n.number?) := by
  refine readsAs_of_readScalar rfl (by decide) (by decide) fun rest hrest => ?_
  have hread := h.read hrest
  rwa [hsign] at hread

/-- A text that begins neither with a blank nor with a closing bracket. -/
def BeginsValue (s : Input) : Prop :=
  ∃ c rest, s = some c :: rest ∧ isBlank (some c) = false ∧ c ≠ ']' ∧ c ≠ '\x7d'

theorem beginsValue_cons {c : Char} {rest : Input} (hblank : isBlank (some c) = false)
    (hc : c ≠ ']' ∧ c ≠ '\x7d') : BeginsValue (skipBlanks (some c :: rest)) :=
  ⟨c, rest, skipBlanks_cons hblank rest, hblank, hc⟩

/-- Behind its blanks a value begins with a character that closes nothing. -/
theorem Spells.begins {s : List Char} {v : Json} (h : Spells s v) (rest : Input) :
    BeginsValue (skipBlanks (s.map some ++ rest)) := by
  induction h generalizing rest with
  | padded hbefore hafter h ih =>
    rw [List.map_append, List.append_assoc, skipBlanks_blanks hbefore, List.map_append,
      List.append_assoc]
    exact ih _
  | literal h =>
    simp only [literals, List.mem_cons, Prod.mk.injEq, List.not_mem_nil, or_false] at h
    obtain ⟨rfl, rfl⟩ | ⟨rfl, rfl⟩ | ⟨rfl, rfl⟩ := h
    all_goals exact beginsValue_cons rfl (by decide)
  | @number n whole fraction power hsign h =>
    obtain ⟨c, whole, rfl⟩ := List.exists_cons_of_ne_nil h.whole.ne_nil
    obtain ⟨hblank, hopens⟩ := isDigit_apart (h.whole.isDigit c List.mem_cons_self)
    simp only [List.mem_cons, not_or] at hopens
    exact beginsValue_cons hblank ⟨hopens.2.1, hopens.2.2.2.1⟩
  | negative hsign h => exact beginsValue_cons rfl (by decide)
  | text h => exact beginsValue_cons rfl (by decide)
  | emptyArray h => exact beginsValue_cons rfl (by decide)
  | array hne hitems ih => exact beginsValue_cons rfl (by decide)
  | emptyObject h => exact beginsValue_cons rfl (by decide)
  | object hne hnames hvalues ihnames ihvalues => exact beginsValue_cons rfl (by decide)

theorem readValue_array {rest : Input} (h : BeginsValue (skipBlanks rest)) (fuel : Nat) :
    readValue (fuel + 1) (some '[' :: rest) =
      (.array (readItems fuel rest).1, (readItems fuel rest).2) := by
  obtain ⟨c, more, hskip, -, hc, -⟩ := h
  refine readValue_of_array (skipBlanks_cons rfl rest) (fun tail hclose => hc ?_) fuel
  exact Option.some.inj (List.cons.inj (hskip.symm.trans hclose)).1

theorem readValue_object {rest : Input} (h : BeginsValue (skipBlanks rest)) (fuel : Nat) :
    readValue (fuel + 1) (some '\x7b' :: rest) =
      (.object (readMembers fuel rest).1, (readMembers fuel rest).2) := by
  obtain ⟨c, more, hskip, -, -, hc⟩ := h
  refine readValue_of_object (skipBlanks_cons rfl rest) (fun tail hclose => hc ?_) fuel
  exact Option.some.inj (List.cons.inj (hskip.symm.trans hclose)).1

/-! ### Arrays and objects -/

/-- An item is read, with more to come. -/
theorem readItems_more {s : List Char} {v : Json} (h : ReadsAs s v) {fuel : Nat}
    (hfuel : s.length ≤ fuel) (rest : Input) :
    readItems (fuel + 1) (s.map some ++ some ',' :: rest) =
      (v :: (readItems fuel rest).1, (readItems fuel rest).2) := by
  obtain ⟨left, hread, hleft⟩ := h fuel (some ',' :: rest) hfuel (stops_mark (by decide) rest)
  exact readItems_of_more hread hleft

/-- The last item is read. -/
theorem readItems_last {s : List Char} {v : Json} (h : ReadsAs s v) {fuel : Nat}
    (hfuel : s.length ≤ fuel) (rest : Input) :
    readItems (fuel + 1) (s.map some ++ some ']' :: rest) = ([v], some rest) := by
  obtain ⟨left, hread, hleft⟩ := h fuel (some ']' :: rest) hfuel (stops_mark (by decide) rest)
  exact readItems_of_last hread hleft

/-- Items that are read one by one are read up to the end of the array. -/
theorem readItems_separated {i : List Char × Json} {items : List (List Char × Json)}
    (h : ∀ j ∈ i :: items, ReadsAs j.1 j.2) {fuel : Nat}
    (hfuel : (separated ((i :: items).map Prod.fst)).length < fuel) (rest : Input) :
    readItems fuel ((separated ((i :: items).map Prod.fst)).map some ++ some ']' :: rest) =
      ((i :: items).map Prod.snd, some rest) := by
  induction items generalizing i fuel with
  | nil =>
    obtain ⟨fuel, rfl⟩ : ∃ n, fuel = n + 1 := ⟨fuel - 1, by omega⟩
    exact readItems_last (h i List.mem_cons_self) (Nat.le_of_lt_succ hfuel) rest
  | cons j items ih =>
    obtain ⟨fuel, rfl⟩ : ∃ n, fuel = n + 1 := ⟨fuel - 1, by omega⟩
    simp only [List.map_cons, separated, List.length_append, List.length_cons] at hfuel ih ⊢
    have hmore := ih (fun k hk => h k (List.mem_cons_of_mem i hk)) (by omega : _ < fuel)
    rw [List.map_append, List.append_assoc, List.map_cons, List.cons_append,
      readItems_more (h i List.mem_cons_self) (by omega), hmore]

/-- The name and the value of a member are read as they stand. -/
structure Member.ReadsAs (m : Member) : Prop where
  name : Json.ReadsAs m.writtenName (.text m.name)
  value : Json.ReadsAs m.writtenValue m.value

/-- A member is read, with more to come. -/
theorem readMembers_more {m : Member} (h : m.ReadsAs) {fuel : Nat}
    (hfuel : m.written.length ≤ fuel) (rest : Input) :
    readMembers (fuel + 1) (m.written.map some ++ some ',' :: rest) =
      ((m.name, m.value) :: (readMembers fuel rest).1, (readMembers fuel rest).2) := by
  rw [Member.written, List.length_append, List.length_cons] at hfuel
  obtain ⟨left, hvalue, hleft⟩ :=
    h.value fuel (some ',' :: rest) (by omega) (stops_mark (by decide) rest)
  obtain ⟨behind, hname, hbehind⟩ :=
    h.name fuel (some ':' :: (m.writtenValue.map some ++ some ',' :: rest)) (by omega)
      (stops_mark (by decide) _)
  rw [Member.written, List.map_append, List.append_assoc, List.map_cons, List.cons_append]
  exact readMembers_of_more hname hbehind hvalue hleft

/-- The last member is read. -/
theorem readMembers_last {m : Member} (h : m.ReadsAs) {fuel : Nat}
    (hfuel : m.written.length ≤ fuel) (rest : Input) :
    readMembers (fuel + 1) (m.written.map some ++ some '\x7d' :: rest) =
      ([(m.name, m.value)], some rest) := by
  rw [Member.written, List.length_append, List.length_cons] at hfuel
  obtain ⟨left, hvalue, hleft⟩ :=
    h.value fuel (some '\x7d' :: rest) (by omega) (stops_mark (by decide) rest)
  obtain ⟨behind, hname, hbehind⟩ :=
    h.name fuel (some ':' :: (m.writtenValue.map some ++ some '\x7d' :: rest)) (by omega)
      (stops_mark (by decide) _)
  rw [Member.written, List.map_append, List.append_assoc, List.map_cons, List.cons_append]
  exact readMembers_of_last hname hbehind hvalue hleft

/-- Members that are read one by one are read up to the end of the object. -/
theorem readMembers_separated {m : Member} {members : List Member}
    (h : ∀ n ∈ m :: members, n.ReadsAs) {fuel : Nat}
    (hfuel : (separated ((m :: members).map Member.written)).length < fuel) (rest : Input) :
    readMembers fuel
        ((separated ((m :: members).map Member.written)).map some ++ some '\x7d' :: rest) =
      ((m :: members).map fun n => (n.name, n.value), some rest) := by
  induction members generalizing m fuel with
  | nil =>
    obtain ⟨fuel, rfl⟩ : ∃ n, fuel = n + 1 := ⟨fuel - 1, by omega⟩
    exact readMembers_last (h m List.mem_cons_self) (Nat.le_of_lt_succ hfuel) rest
  | cons n members ih =>
    obtain ⟨fuel, rfl⟩ : ∃ n, fuel = n + 1 := ⟨fuel - 1, by omega⟩
    simp only [List.map_cons, separated, List.length_append, List.length_cons] at hfuel ih ⊢
    have hmore := ih (fun k hk => h k (List.mem_cons_of_mem m hk)) (by omega : _ < fuel)
    rw [List.map_append, List.append_assoc, List.map_cons, List.cons_append,
      readMembers_more (h m List.mem_cons_self) (by omega), hmore]

theorem begins_separated {s : List Char} (h : ∀ rest, BeginsValue (skipBlanks (s.map some ++ rest)))
    (more : List (List Char)) (rest : Input) :
    BeginsValue (skipBlanks ((separated (s :: more)).map some ++ rest)) := by
  cases more with
  | nil => exact h rest
  | cons t more =>
    rw [separated, List.map_append, List.append_assoc]
    exact h _

theorem readsAs_emptyArray {s : List Char} (h : Blanks s) :
    ReadsAs ('[' :: (s ++ [']'])) (.array []) := by
  intro fuel rest hfuel _
  rw [List.length_cons] at hfuel
  obtain ⟨fuel, rfl⟩ : ∃ n, fuel = n + 1 := ⟨fuel - 1, by omega⟩
  refine ⟨rest, ?_, rfl⟩
  rw [List.map_cons, List.cons_append, List.map_append, List.append_assoc]
  exact readValue_of_emptyArray (skipBlanks_cons rfl _) (skipBlanks_blanks h _) fuel

theorem readsAs_emptyObject {s : List Char} (h : Blanks s) :
    ReadsAs ('\x7b' :: (s ++ ['\x7d'])) (.object []) := by
  intro fuel rest hfuel _
  rw [List.length_cons] at hfuel
  obtain ⟨fuel, rfl⟩ : ∃ n, fuel = n + 1 := ⟨fuel - 1, by omega⟩
  refine ⟨rest, ?_, rfl⟩
  rw [List.map_cons, List.cons_append, List.map_append, List.append_assoc]
  exact readValue_of_emptyObject (skipBlanks_cons rfl _) (skipBlanks_blanks h _) fuel

theorem readsAs_array {i : List Char × Json} {items : List (List Char × Json)}
    (hbegins : ∀ rest, BeginsValue (skipBlanks (i.1.map some ++ rest)))
    (h : ∀ j ∈ i :: items, ReadsAs j.1 j.2) :
    ReadsAs ('[' :: (separated ((i :: items).map Prod.fst) ++ [']']))
      (.array ((i :: items).map Prod.snd)) := by
  intro fuel rest hfuel _
  rw [List.length_cons, List.length_append, List.length_singleton] at hfuel
  obtain ⟨fuel, rfl⟩ : ∃ n, fuel = n + 1 := ⟨fuel - 1, by omega⟩
  have hread := readItems_separated h (by omega : _ < fuel) rest
  have hfirst := begins_separated hbegins (items.map Prod.fst) (some ']' :: rest)
  refine ⟨rest, ?_, rfl⟩
  rw [List.map_cons, List.cons_append, List.map_append, List.append_assoc]
  rw [← List.map_cons] at hfirst
  exact (readValue_array hfirst fuel).trans (by rw [hread])

theorem readsAs_object {m : Member} {members : List Member}
    (hbegins : ∀ rest, BeginsValue (skipBlanks (m.writtenName.map some ++ rest)))
    (h : ∀ n ∈ m :: members, n.ReadsAs) :
    ReadsAs ('\x7b' :: (separated ((m :: members).map Member.written) ++ ['\x7d']))
      (.object ((m :: members).map fun n => (n.name, n.value))) := by
  intro fuel rest hfuel _
  rw [List.length_cons, List.length_append, List.length_singleton] at hfuel
  obtain ⟨fuel, rfl⟩ : ∃ n, fuel = n + 1 := ⟨fuel - 1, by omega⟩
  have hread := readMembers_separated h (by omega : _ < fuel) rest
  have hmember (rest : Input) : BeginsValue (skipBlanks (m.written.map some ++ rest)) := by
    rw [Member.written, List.map_append, List.append_assoc]
    exact hbegins _
  have hfirst := begins_separated hmember (members.map Member.written) (some '\x7d' :: rest)
  refine ⟨rest, ?_, rfl⟩
  rw [List.map_cons, List.cons_append, List.map_append, List.append_assoc]
  rw [← List.map_cons] at hfirst
  exact (readValue_object hfirst fuel).trans (by rw [hread])

/-- Whatever spells a value is read as that value. -/
theorem Spells.readsAs {s : List Char} {v : Json} (h : Spells s v) : ReadsAs s v := by
  -- The induction follows the spelling; the fuel goes down with the length of what is left of it.
  induction h with
  | padded hbefore hafter h ih => exact ih.padded hbefore hafter
  | literal h => exact readsAs_literal h
  | number hsign h => exact readsAs_number hsign h
  | negative hsign h => exact readsAs_negative hsign h
  | text h => exact readsAs_text h
  | emptyArray h => exact readsAs_emptyArray h
  | @array items hne hitems ih =>
    obtain ⟨i, items, rfl⟩ := List.exists_cons_of_ne_nil hne
    exact readsAs_array (hitems i List.mem_cons_self).begins ih
  | emptyObject h => exact readsAs_emptyObject h
  | @object members hne hnames hvalues ihnames ihvalues =>
    obtain ⟨m, members, rfl⟩ := List.exists_cons_of_ne_nil hne
    exact readsAs_object (hnames m List.mem_cons_self).begins fun n hn =>
      ⟨ihnames n hn, ihvalues n hn⟩

/-- A text that spells a value is read as that value, and only blanks are left. -/
theorem Spells.read {s : List Char} {v : Json} (h : Spells s v) :
    ∃ left, read (s.map some) = (v, some left) ∧ left.all isBlank = true := by
  obtain ⟨left, hread, hleft⟩ :=
    h.readsAs (2 * (s.map some).length + 2) [] (by rw [List.length_map]; omega) stops_nil
  rw [List.append_nil] at hread
  refine ⟨left, hread, List.all_eq_true.mpr ?_⟩
  exact List.dropWhile_eq_nil_iff.mp hleft

variable {α : Type} (d : Decoder α)

/-- To decode a text is to decode the tree that it spells. -/
theorem Spells.decode {s : List Char} {v : Json} (h : Spells s v) :
    decode d (s.map some) = d v := by
  obtain ⟨left, hread, hblank⟩ := h.read
  rw [Json.decode, hread]
  simp only [hblank, if_true]
  cases d v with
  | error e => rfl
  | ok a => rfl

theorem Spells.decodeFirst {s : List Char} {v : Json} (h : Spells s v) :
    decodeFirst d (s.map some) = d v := by
  obtain ⟨left, hread, -⟩ := h.read
  rw [Json.decodeFirst, hread]

end ServiceHealth.Json
