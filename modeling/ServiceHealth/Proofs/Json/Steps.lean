import ServiceHealth.Json.Reader

/-!
# One step of the reader

The reader takes a text apart step by step. Each step has an equation, and what has been read came
about by one of them. Where a text breaks off, the tree that is read of it has a break.
-/
namespace ServiceHealth.Json

/-! ### Strings -/

theorem readPieces_char {c : Char} (hquote : c ≠ '"') (hslash : c ≠ '\\')
    (hcontrol : 0x20 ≤ c.toNat) (rest : Input) :
    readPieces (some c :: rest) = pushPiece (.char c) (readPieces rest) := by
  have hlegal : ¬(c = '\\' ∨ c.toNat < 0x20) := by
    simp only [hslash, false_or]
    omega
  rw [readPieces, if_neg hlegal]
  · exact fun heq => hquote heq
  · exact fun _ _ _ _ _ _ heq => hslash heq
  · exact fun _ _ _ heq => hslash heq

theorem readPieces_letter {letter c : Char} (hletter : escaped? letter = some c) (rest : Input) :
    readPieces (some '\\' :: some letter :: rest) = pushPiece (.char c) (readPieces rest) := by
  have hne : letter ≠ 'u' := by
    rintro rfl
    contradiction
  simp [readPieces, hne, hletter]

theorem readPieces_unit {a b c d : Option Char} {n : Nat} (hunit : hexUnit? a b c d = some n)
    (rest : Input) : readPieces (some '\\' :: some 'u' :: a :: b :: c :: d :: rest) =
      pushPiece (.ofUnit n) (readPieces rest) := by
  simp [readPieces, hunit]

theorem readPieces_stray (rest : Input) :
    readPieces (none :: rest) = pushPiece .stray (readPieces rest) := by
  rw [readPieces]

/-! ### Items -/

theorem readItems_of_more {fuel : Nat} {s rest next : Input} {v : Json}
    (hv : readValue fuel s = (v, some rest)) (hmark : skipBlanks rest = some ',' :: next) :
    readItems (fuel + 1) s = (v :: (readItems fuel next).1, (readItems fuel next).2) := by
  rw [readItems, hv]
  simp only [hmark]

theorem readItems_of_last {fuel : Nat} {s rest left : Input} {v : Json}
    (hv : readValue fuel s = (v, some rest)) (hmark : skipBlanks rest = some ']' :: left) :
    readItems (fuel + 1) s = ([v], some left) := by
  rw [readItems, hv]
  simp only [hmark]

/-- What has been read of an array, and what is left of the text. -/
inductive ItemsRead (fuel : Nat) (s : Input) : List Json → Option Input → Prop where
  | more {v : Json} {rest next : Input} {items : List Json} {left : Option Input}
      (hv : readValue fuel s = (v, some rest)) (hmark : skipBlanks rest = some ',' :: next)
      (hitems : readItems fuel next = (items, left)) : ItemsRead fuel s (v :: items) left
  | last {v : Json} {rest left : Input} (hv : readValue fuel s = (v, some rest))
      (hmark : skipBlanks rest = some ']' :: left) : ItemsRead fuel s [v] (some left)
  | cut {v : Json} (hv : readValue fuel s = (v, none)) : ItemsRead fuel s [v] none
  | broken {items : List Json} (h : areWhole items = false) : ItemsRead fuel s items none

theorem itemsRead {fuel : Nat} {s : Input} {items : List Json} {left : Option Input}
    (h : readItems (fuel + 1) s = (items, left)) : ItemsRead fuel s items left := by
  rw [readItems] at h
  split at h
  · rename_i v hv
    obtain ⟨rfl, rfl⟩ := Prod.mk.inj h
    exact .cut hv
  · rename_i v rest hv
    split at h
    · rename_i next hmark
      obtain ⟨rfl, rfl⟩ := Prod.mk.inj h
      exact .more hv hmark rfl
    · rename_i left hmark
      obtain ⟨rfl, rfl⟩ := Prod.mk.inj h
      exact .last hv hmark
    · obtain ⟨rfl, rfl⟩ := Prod.mk.inj h
      exact .broken (by simp [areWhole, isWhole])

/-! ### Members -/

theorem readMembers_of_more {fuel : Nat} {s behind value rest next : Input} {k : Option String}
    {v : Json} (hk : readValue fuel s = (.text k, some behind))
    (hcolon : skipBlanks behind = some ':' :: value) (hv : readValue fuel value = (v, some rest))
    (hmark : skipBlanks rest = some ',' :: next) :
    readMembers (fuel + 1) s =
      ((k, v) :: (readMembers fuel next).1, (readMembers fuel next).2) := by
  rw [readMembers, hk]
  simp only [hcolon, hv, hmark]

theorem readMembers_of_last {fuel : Nat} {s behind value rest left : Input} {k : Option String}
    {v : Json} (hk : readValue fuel s = (.text k, some behind))
    (hcolon : skipBlanks behind = some ':' :: value) (hv : readValue fuel value = (v, some rest))
    (hmark : skipBlanks rest = some '\x7d' :: left) :
    readMembers (fuel + 1) s = ([(k, v)], some left) := by
  rw [readMembers, hk]
  simp only [hcolon, hv, hmark]

/-- What has been read of an object, and what is left of the text. -/
inductive MembersRead (fuel : Nat) (s : Input) :
    List (Option String × Json) → Option Input → Prop where
  | more {k : Option String} {v : Json} {behind value rest next : Input}
      {members : List (Option String × Json)} {left : Option Input}
      (hk : readValue fuel s = (.text k, some behind))
      (hcolon : skipBlanks behind = some ':' :: value) (hv : readValue fuel value = (v, some rest))
      (hmark : skipBlanks rest = some ',' :: next)
      (hmembers : readMembers fuel next = (members, left)) :
      MembersRead fuel s ((k, v) :: members) left
  | last {k : Option String} {v : Json} {behind value rest left : Input}
      (hk : readValue fuel s = (.text k, some behind))
      (hcolon : skipBlanks behind = some ':' :: value) (hv : readValue fuel value = (v, some rest))
      (hmark : skipBlanks rest = some '\x7d' :: left) : MembersRead fuel s [(k, v)] (some left)
  | cut {k : Option String} {v : Json} {value : Input} (hv : readValue fuel value = (v, none)) :
      MembersRead fuel s [(k, v)] none
  | broken {members : List (Option String × Json)} (h : areMembersWhole members = false) :
      MembersRead fuel s members none

theorem membersRead {fuel : Nat} {s : Input} {members : List (Option String × Json)}
    {left : Option Input} (h : readMembers (fuel + 1) s = (members, left)) :
    MembersRead fuel s members left := by
  rw [readMembers] at h
  split at h
  · rename_i k behind hk
    split at h
    · rename_i value hcolon
      split at h
      · rename_i v hv
        obtain ⟨rfl, rfl⟩ := Prod.mk.inj h
        exact .cut hv
      · rename_i v rest hv
        split at h
        · rename_i next hmark
          obtain ⟨rfl, rfl⟩ := Prod.mk.inj h
          exact .more hk hcolon hv hmark rfl
        · rename_i left hmark
          obtain ⟨rfl, rfl⟩ := Prod.mk.inj h
          exact .last hk hcolon hv hmark
        · obtain ⟨rfl, rfl⟩ := Prod.mk.inj h
          exact .broken (by simp [areMembersWhole, isWhole])
    · obtain ⟨rfl, rfl⟩ := Prod.mk.inj h
      exact .broken (by simp [areMembersWhole, isWhole])
  · obtain ⟨rfl, rfl⟩ := Prod.mk.inj h
    exact .broken (by simp [areMembersWhole, isWhole])

/-! ### Values -/

theorem readValue_of_emptyArray {s rest left : Input} (hopen : skipBlanks s = some '[' :: rest)
    (hclose : skipBlanks rest = some ']' :: left) (fuel : Nat) :
    readValue (fuel + 1) s = (.array [], some left) := by
  rw [readValue, hopen]
  simp only [hclose]

theorem readValue_of_emptyObject {s rest left : Input}
    (hopen : skipBlanks s = some '\x7b' :: rest) (hclose : skipBlanks rest = some '\x7d' :: left)
    (fuel : Nat) : readValue (fuel + 1) s = (.object [], some left) := by
  rw [readValue, hopen]
  simp only [hclose]

theorem readValue_of_array {s rest : Input} (hopen : skipBlanks s = some '[' :: rest)
    (hfirst : ∀ more, skipBlanks rest ≠ some ']' :: more) (fuel : Nat) :
    readValue (fuel + 1) s = (.array (readItems fuel rest).1, (readItems fuel rest).2) := by
  rw [readValue, hopen]
  simp only

theorem readValue_of_object {s rest : Input} (hopen : skipBlanks s = some '\x7b' :: rest)
    (hfirst : ∀ more, skipBlanks rest ≠ some '\x7d' :: more) (fuel : Nat) :
    readValue (fuel + 1) s = (.object (readMembers fuel rest).1, (readMembers fuel rest).2) := by
  rw [readValue, hopen]
  simp only

theorem readValue_of_scalar {s : Input} (harray : ∀ rest, skipBlanks s ≠ some '[' :: rest)
    (hobject : ∀ rest, skipBlanks s ≠ some '\x7b' :: rest) (fuel : Nat) :
    readValue (fuel + 1) s = readScalar (skipBlanks s) := by
  rw [readValue]
  split
  · rename_i rest hopen
    exact absurd hopen (harray rest)
  · rename_i rest hopen
    exact absurd hopen (hobject rest)
  · rfl

/-- Which value has been read, and what is left of the text. -/
inductive ValueRead (fuel : Nat) (s : Input) : Json → Option Input → Prop where
  | emptyArray {rest left : Input} (hopen : skipBlanks s = some '[' :: rest)
      (hclose : skipBlanks rest = some ']' :: left) : ValueRead fuel s (.array []) (some left)
  | array {rest : Input} {items : List Json} {left : Option Input}
      (hopen : skipBlanks s = some '[' :: rest)
      (hfirst : ∀ more, skipBlanks rest ≠ some ']' :: more)
      (hitems : readItems fuel rest = (items, left)) : ValueRead fuel s (.array items) left
  | emptyObject {rest left : Input} (hopen : skipBlanks s = some '\x7b' :: rest)
      (hclose : skipBlanks rest = some '\x7d' :: left) : ValueRead fuel s (.object []) (some left)
  | object {rest : Input} {members : List (Option String × Json)} {left : Option Input}
      (hopen : skipBlanks s = some '\x7b' :: rest)
      (hfirst : ∀ more, skipBlanks rest ≠ some '\x7d' :: more)
      (hmembers : readMembers fuel rest = (members, left)) : ValueRead fuel s (.object members) left
  | scalar {v : Json} {left : Option Input} (harray : ∀ rest, skipBlanks s ≠ some '[' :: rest)
      (hobject : ∀ rest, skipBlanks s ≠ some '\x7b' :: rest)
      (h : readScalar (skipBlanks s) = (v, left)) : ValueRead fuel s v left

theorem valueRead {fuel : Nat} {s : Input} {v : Json} {left : Option Input}
    (h : readValue (fuel + 1) s = (v, left)) : ValueRead fuel s v left := by
  rw [readValue] at h
  split at h
  · rename_i rest hopen
    split at h
    · rename_i hclose
      obtain ⟨rfl, rfl⟩ := Prod.mk.inj h
      exact .emptyArray hopen hclose
    · rename_i hfirst
      obtain ⟨rfl, rfl⟩ := Prod.mk.inj h
      exact .array hopen hfirst rfl
  · rename_i rest hopen
    split at h
    · rename_i hclose
      obtain ⟨rfl, rfl⟩ := Prod.mk.inj h
      exact .emptyObject hopen hclose
    · rename_i hfirst
      obtain ⟨rfl, rfl⟩ := Prod.mk.inj h
      exact .object hopen hfirst rfl
  · rename_i harray hobject
    exact .scalar harray hobject h

/-! ### Breaks -/

theorem eq_broken_of_readLiteral {v w : Json} {cs : List Char} {s : Input}
    (h : readLiteral v cs s = (w, none)) : w = .broken := by
  fun_induction readLiteral v cs s with
  | case1 => exact nomatch h
  | case2 c cs rest ih => exact ih h
  | case3 | case4 => exact (Prod.mk.inj h).1.symm

theorem eq_broken_of_readText {v : Json} {s : Input} (h : readText s = (v, none)) :
    v = .broken := by
  unfold readText at h
  split at h
  · exact nomatch h
  · exact (Prod.mk.inj h).1.symm

theorem eq_broken_of_readNumber {negative : Bool} {v : Json} {s : Input}
    (h : readNumber negative s = (v, none)) : v = .broken := by
  unfold readNumber at h
  split at h
  · exact nomatch h
  · exact (Prod.mk.inj h).1.symm

/-- Where nothing can be taken, the text breaks. -/
theorem eq_broken_of_readScalar {v : Json} {s : Input} (h : readScalar s = (v, none)) :
    v = .broken := by
  unfold readScalar at h
  split at h
  · exact eq_broken_of_readText h
  · exact eq_broken_of_readNumber h
  · exact eq_broken_of_readLiteral h
  · exact eq_broken_of_readLiteral h
  · exact eq_broken_of_readLiteral h
  · exact eq_broken_of_readNumber h

/-- A reader that finds no end leaves a break. -/
def Breaks {β : Type} (reader : Nat → Input → β × Option Input) (whole : β → Bool)
    (fuel : Nat) : Prop :=
  ∀ s b, reader fuel s = (b, none) → whole b = false

variable {fuel : Nat}

theorem breaks_readItems (hvalue : Breaks readValue isWhole fuel)
    (hitems : Breaks readItems areWhole fuel) : Breaks readItems areWhole (fuel + 1) := by
  intro s items h
  cases itemsRead h with
  | more _ _ hmore => simp [areWhole, hitems _ _ hmore]
  | cut hv => simp [areWhole, hvalue _ _ hv]
  | broken hbroken => exact hbroken

theorem breaks_readMembers (hvalue : Breaks readValue isWhole fuel)
    (hmembers : Breaks readMembers areMembersWhole fuel) :
    Breaks readMembers areMembersWhole (fuel + 1) := by
  intro s members h
  cases membersRead h with
  | more _ _ _ _ hmore => simp [areMembersWhole, hmembers _ _ hmore]
  | cut hv => simp [areMembersWhole, hvalue _ _ hv]
  | broken hbroken => exact hbroken

theorem breaks_readValue (hitems : Breaks readItems areWhole fuel)
    (hmembers : Breaks readMembers areMembersWhole fuel) :
    Breaks readValue isWhole (fuel + 1) := by
  intro s v h
  cases valueRead h with
  | array _ _ hrest => simp [isWhole, hitems _ _ hrest]
  | object _ _ hrest => simp [isWhole, hmembers _ _ hrest]
  | scalar _ _ hscalar =>
    rw [eq_broken_of_readScalar hscalar]
    rfl

/-- All three readers leave a break: each calls the others with less fuel. -/
theorem breaks (fuel : Nat) : Breaks readValue isWhole fuel ∧ Breaks readItems areWhole fuel ∧
    Breaks readMembers areMembersWhole fuel := by
  induction fuel with
  | zero =>
    refine ⟨fun s v h => ?_, fun s items h => ?_, fun s members h => ?_⟩
    · obtain ⟨rfl, -⟩ := Prod.mk.inj h
      rfl
    · obtain ⟨rfl, -⟩ := Prod.mk.inj h
      rfl
    · obtain ⟨rfl, -⟩ := Prod.mk.inj h
      rfl
  | succ fuel ih =>
    obtain ⟨hvalue, hitems, hmembers⟩ := ih
    exact ⟨breaks_readValue hitems hmembers, breaks_readItems hvalue hitems,
      breaks_readMembers hvalue hmembers⟩

end ServiceHealth.Json
