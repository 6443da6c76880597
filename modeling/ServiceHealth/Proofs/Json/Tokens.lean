import Mathlib.Data.List.ReduceOption
import ServiceHealth.Proofs.Json.Grammar

/-!
# What the reader takes for numbers, strings and literals

The reader takes them from the front of a text. Where a string or a literal ends does not depend on
what follows, and a number goes on as long as digits follow. What is taken spells the value, if
there are no stray bytes in it.
-/
namespace ServiceHealth.Json

theorem reduceOption_map_some (cs : List Char) : (cs.map some).reduceOption = cs := by
  simp [List.reduceOption]

/-! ### Numerals -/

theorem digit?_eq_some {c : Option Char} {d : Nat} (h : digit? c = some d) :
    ∃ x, c = some x ∧ x.isDigit ∧ digitValue x = d := by
  cases c with
  | none => contradiction
  | some x =>
    simp only [digit?, Option.ite_none_right_eq_some, Option.some.injEq] at h
    obtain ⟨hrange, hvalue⟩ := h
    exact ⟨x, rfl, by simpa [Char.isDigit, Char.le_def] using hrange, hvalue⟩

/-- What is taken for digits spells them, if there are any. -/
theorem exists_of_spanDigits {s left : Input} {digits : List Nat}
    (h : spanDigits s = (digits, left)) :
    ∃ cs : List Char, s = cs.map some ++ left ∧ (digits ≠ [] → SpellsDigits cs digits) := by
  -- Behind the last digit there are none, which spell nothing, so the induction carries the parts.
  suffices hrun : ∃ cs : List Char, s = cs.map some ++ left ∧ (∀ c ∈ cs, c.isDigit) ∧
      cs.map digitValue = digits by
    obtain ⟨cs, hs, hdigits, rfl⟩ := hrun
    exact ⟨cs, hs, fun hne => ⟨fun hnil => hne (by rw [hnil]; rfl), hdigits, rfl⟩⟩
  induction s generalizing digits with
  | nil =>
    obtain ⟨rfl, rfl⟩ := Prod.mk.inj h
    exact ⟨[], rfl, by simp, rfl⟩
  | cons c s ih =>
    rw [spanDigits] at h
    cases hc : digit? c with
    | none =>
      simp only [hc] at h
      obtain ⟨rfl, rfl⟩ := Prod.mk.inj h
      exact ⟨[], rfl, by simp, rfl⟩
    | some d =>
      obtain ⟨x, rfl, hx, rfl⟩ := digit?_eq_some hc
      simp only [hc] at h
      obtain ⟨rfl, hleft⟩ := Prod.mk.inj h
      obtain ⟨cs, hs, hdigits, hvalues⟩ := ih (Prod.ext rfl hleft)
      exact ⟨x :: cs, by rw [hs]; rfl, List.forall_mem_cons.mpr ⟨hx, hdigits⟩,
        by rw [List.map_cons, hvalues]⟩

theorem exists_of_whole? {s left : Input} {whole : List Nat}
    (h : Numeral.whole? s = some (whole, left)) :
    ∃ cs, s = cs.map some ++ left ∧ SpellsDigits cs whole ∧
      ∀ more, whole = 0 :: more → more = [] := by
  unfold Numeral.whole? at h
  split at h
  · contradiction
  · contradiction
  · rename_i digits hempty hzero
    have hspan : spanDigits s = (whole, left) := Option.some.inj h
    obtain ⟨cs, hs, hcs⟩ := exists_of_spanDigits hspan
    refine ⟨cs, hs, hcs fun hnil => hempty left (by rw [hspan, hnil]), fun more hmore => ?_⟩
    cases more with
    | nil => rfl
    | cons d more => exact absurd (by rw [hspan, hmore]) (hzero d more left)

theorem exists_of_fraction? {s left : Input} {fraction : List Nat}
    (h : Numeral.fraction? s = some (fraction, left)) :
    ∃ cs, s = cs.map some ++ left ∧ SpellsFraction cs fraction := by
  unfold Numeral.fraction? at h
  split at h
  · split at h
    · contradiction
    · rename_i rest found hempty
      have hspan : spanDigits rest = (fraction, left) := Option.some.inj h
      obtain ⟨cs, rfl, hcs⟩ := exists_of_spanDigits hspan
      exact ⟨'.' :: cs, rfl, .point (hcs fun hnil => hempty left (by rw [hspan, hnil]))⟩
  · obtain ⟨rfl, rfl⟩ := Prod.mk.inj (Option.some.inj h)
    exact ⟨[], rfl, .absent⟩

theorem exists_of_powerDigits? {s left : Input} {negative : Bool} {power : Option Power}
    (h : Numeral.powerDigits? negative s = some (power, left)) :
    ∃ cs digits, s = cs.map some ++ left ∧ SpellsDigits cs digits ∧
      power = some ⟨negative, digits⟩ := by
  unfold Numeral.powerDigits? at h
  split at h
  · contradiction
  · rename_i digits rest hempty hspan
    obtain ⟨rfl, rfl⟩ := Prod.mk.inj (Option.some.inj h)
    obtain ⟨cs, hs, hcs⟩ := exists_of_spanDigits hspan
    exact ⟨cs, digits, hs, hcs hempty, rfl⟩

theorem exists_of_signedPower? {s left : Input} {power : Option Power}
    (h : Numeral.signedPower? s = some (power, left)) :
    ∃ sign cs negative digits, s = (sign ++ cs).map some ++ left ∧ SpellsSign sign negative ∧
      SpellsDigits cs digits ∧ power = some ⟨negative, digits⟩ := by
  unfold Numeral.signedPower? at h
  split at h
  · obtain ⟨cs, digits, rfl, hcs, rfl⟩ := exists_of_powerDigits? h
    exact ⟨['-'], cs, true, digits, rfl, .minus, hcs, rfl⟩
  · obtain ⟨cs, digits, rfl, hcs, rfl⟩ := exists_of_powerDigits? h
    exact ⟨['+'], cs, false, digits, rfl, .plus, hcs, rfl⟩
  · obtain ⟨cs, digits, rfl, hcs, rfl⟩ := exists_of_powerDigits? h
    exact ⟨[], cs, false, digits, rfl, .absent, hcs, rfl⟩

theorem exists_of_power? {s left : Input} {power : Option Power}
    (h : Numeral.power? s = some (power, left)) :
    ∃ cs, s = cs.map some ++ left ∧ SpellsPower cs power := by
  unfold Numeral.power? at h
  split at h
  · obtain ⟨sign, cs, negative, digits, rfl, hsign, hcs, rfl⟩ := exists_of_signedPower? h
    exact ⟨'e' :: (sign ++ cs), rfl, .power (.inl rfl) hsign hcs⟩
  · obtain ⟨sign, cs, negative, digits, rfl, hsign, hcs, rfl⟩ := exists_of_signedPower? h
    exact ⟨'E' :: (sign ++ cs), rfl, .power (.inr rfl) hsign hcs⟩
  · obtain ⟨rfl, rfl⟩ := Prod.mk.inj (Option.some.inj h)
    exact ⟨[], rfl, .absent⟩

/-- What is taken for a numeral spells it. -/
theorem exists_of_read? {s left : Input} {negative : Bool} {n : Numeral}
    (h : Numeral.read? negative s = some (n, left)) :
    ∃ whole fraction power, s = (whole ++ (fraction ++ power)).map some ++ left ∧
      n.negative = negative ∧ n.Spelled whole fraction power := by
  simp only [Numeral.read?, Option.bind_eq_bind, Option.bind_eq_some_iff] at h
  obtain ⟨⟨digits, _⟩, hdigits, ⟨decimals, _⟩, hdecimals, ⟨exponent, _⟩, hexponent, hn⟩ := h
  obtain ⟨rfl, rfl⟩ := Prod.mk.inj (Option.some.inj hn)
  obtain ⟨whole, rfl, hwhole, hleading⟩ := exists_of_whole? hdigits
  obtain ⟨fraction, rfl, hfraction⟩ := exists_of_fraction? hdecimals
  obtain ⟨power, rfl, hpower⟩ := exists_of_power? hexponent
  exact ⟨whole, fraction, power, by simp, rfl, hwhole, hleading, hfraction, hpower⟩

/-! ### Strings -/

/-- What stands before the closing quote of a string, and the pieces that it is read as. -/
structure StandsFor (front : Input) (pieces : List Piece) : Prop where
  spells : none ∉ front → SpellsPieces front.reduceOption pieces
  reads : ∀ rest, readPieces (front ++ some '"' :: rest) = some (pieces, rest)

theorem exists_of_pushPiece {p : Piece} {found : Option (List Piece × Input)}
    {pieces : List Piece} {left : Input} (h : pushPiece p found = some (pieces, left)) :
    ∃ more, found = some (more, left) ∧ pieces = p :: more := by
  obtain ⟨⟨more, rest⟩, hfound, heq⟩ := Option.map_eq_some_iff.mp h
  obtain ⟨rfl, rfl⟩ := Prod.mk.inj heq
  exact ⟨more, hfound, rfl⟩

/-- A string ends with its closing quote, whatever follows. -/
theorem exists_of_readPieces {s left : Input} {pieces : List Piece}
    (h : readPieces s = some (pieces, left)) :
    ∃ front, s = front ++ some '"' :: left ∧ StandsFor front pieces := by
  fun_induction readPieces s generalizing pieces with
  | case1 | case4 | case6 | case7 => contradiction
  | case2 rest =>
    obtain ⟨rfl, rfl⟩ := Prod.mk.inj (Option.some.inj h)
    exact ⟨[], rfl, fun _ => .nil, fun _ => by simp [readPieces]⟩
  | case3 a b c d rest n hunit ih =>
    obtain ⟨more, hmore, rfl⟩ := exists_of_pushPiece h
    obtain ⟨front, rfl, hfront⟩ := ih hmore
    refine ⟨some '\\' :: some 'u' :: a :: b :: c :: d :: front, rfl, fun hnone => ?_,
      fun rest => ?_⟩
    · simp only [List.mem_cons, not_or] at hnone
      obtain ⟨-, -, ha, hb, hc, hd, hnone⟩ := hnone
      obtain ⟨a, rfl⟩ := Option.ne_none_iff_exists'.mp (Ne.symm ha)
      obtain ⟨b, rfl⟩ := Option.ne_none_iff_exists'.mp (Ne.symm hb)
      obtain ⟨c, rfl⟩ := Option.ne_none_iff_exists'.mp (Ne.symm hc)
      obtain ⟨d, rfl⟩ := Option.ne_none_iff_exists'.mp (Ne.symm hd)
      exact .unit hunit (hfront.spells hnone)
    · simp only [List.cons_append]
      rw [readPieces_unit hunit, hfront.reads]
      rfl
  | case5 letter rest _ c hletter ih =>
    obtain ⟨more, hmore, rfl⟩ := exists_of_pushPiece h
    obtain ⟨front, rfl, hfront⟩ := ih hmore
    refine ⟨some '\\' :: some letter :: front, rfl, fun hnone => ?_, fun rest => ?_⟩
    · simp only [List.mem_cons, not_or] at hnone
      exact .letter hletter (hfront.spells hnone.2.2)
    · rw [List.cons_append, List.cons_append, readPieces_letter hletter, hfront.reads]
      rfl
  | case8 c rest hquote _ _ hlegal ih =>
    obtain ⟨more, hmore, rfl⟩ := exists_of_pushPiece h
    obtain ⟨front, rfl, hfront⟩ := ih hmore
    rw [not_or, not_lt] at hlegal
    refine ⟨some c :: front, rfl, fun hnone => ?_, fun rest => ?_⟩
    · simp only [List.mem_cons, not_or] at hnone
      exact .char hquote hlegal.1 hlegal.2 (hfront.spells hnone.2)
    · rw [List.cons_append, readPieces_char hquote hlegal.1 hlegal.2, hfront.reads]
      rfl
  | case9 rest ih =>
    obtain ⟨more, hmore, rfl⟩ := exists_of_pushPiece h
    obtain ⟨front, rfl, hfront⟩ := ih hmore
    refine ⟨none :: front, rfl, fun hnone => absurd List.mem_cons_self hnone, fun rest => ?_⟩
    rw [List.cons_append, readPieces_stray, hfront.reads]
    rfl

/-! ### Scalars -/

theorem exists_of_readLiteral {v w : Json} {cs : List Char} {s left : Input}
    (h : readLiteral v cs s = (w, some left)) : s = cs.map some ++ left ∧ w = v := by
  fun_induction readLiteral v cs s with
  | case1 s =>
    obtain ⟨rfl, hleft⟩ := Prod.mk.inj h
    exact ⟨Option.some.inj hleft, rfl⟩
  | case2 c cs rest ih =>
    obtain ⟨rfl, rfl⟩ := ih h
    exact ⟨rfl, rfl⟩
  | case3 | case4 => cases h

/-- The value ends with a mark of its own. -/
def Nests : Json → Prop
  | .array _ | .object _ => True
  | _ => False

/-- What is taken of a text for a value that is neither an array nor an object. -/
structure TakesScalar (front : Input) (v : Json) : Prop where
  flat : ¬v.Nests
  first : ∃ c more, front = some c :: more
  spells : none ∉ front → Spells front.reduceOption v
  reads : ∀ rest, Stops rest → readScalar (front ++ rest) = (v, some rest)

theorem takesScalar_literal {cs : List Char} {v : Json} (h : (cs, v) ∈ literals) :
    TakesScalar (cs.map some) v where
  flat := by
    simp only [literals, List.mem_cons, Prod.mk.injEq, List.not_mem_nil, or_false] at h
    obtain ⟨-, rfl⟩ | ⟨-, rfl⟩ | ⟨-, rfl⟩ := h
    all_goals exact id
  first := by
    simp only [literals, List.mem_cons, Prod.mk.injEq, List.not_mem_nil, or_false] at h
    obtain ⟨rfl, rfl⟩ | ⟨rfl, rfl⟩ | ⟨rfl, rfl⟩ := h
    all_goals exact ⟨_, _, rfl⟩
  spells _ := by
    rw [reduceOption_map_some]
    exact .literal h
  reads rest _ := by
    simp only [literals, List.mem_cons, Prod.mk.injEq, List.not_mem_nil, or_false] at h
    obtain ⟨rfl, rfl⟩ | ⟨rfl, rfl⟩ | ⟨rfl, rfl⟩ := h
    all_goals rfl

theorem takesScalar_text {front : Input} {pieces : List Piece} (h : StandsFor front pieces) :
    TakesScalar (some '"' :: (front ++ [some '"']))
      (.text ((assemble pieces).map String.ofList)) where
  flat := id
  first := ⟨_, _, rfl⟩
  spells hnone := by
    simp only [List.mem_cons, List.mem_append, not_or] at hnone
    rw [List.reduceOption_cons_of_some, List.reduceOption_append]
    exact .text (h.spells hnone.2.1)
  reads rest _ := by
    rw [List.cons_append, List.append_assoc]
    show readText (front ++ some '"' :: rest) = _
    rw [readText, h.reads]

theorem takesScalar_negative {n : Numeral} {whole fraction power : List Char}
    (hsign : n.negative = true) (h : n.Spelled whole fraction power) :
    TakesScalar (('-' :: (whole ++ (fraction ++ power))).map some) (.number n.number?) where
  flat := id
  first := ⟨_, _, rfl⟩
  spells _ := by
    rw [reduceOption_map_some]
    exact .negative hsign h
  reads rest hrest := by
    have hread := h.read hrest
    rwa [hsign] at hread

theorem takesScalar_number {n : Numeral} {whole fraction power : List Char}
    (hsign : n.negative = false) (h : n.Spelled whole fraction power) :
    TakesScalar ((whole ++ (fraction ++ power)).map some) (.number n.number?) where
  flat := id
  first := by
    obtain ⟨c, whole, rfl⟩ := List.exists_cons_of_ne_nil h.whole.ne_nil
    exact ⟨c, _, rfl⟩
  spells _ := by
    rw [reduceOption_map_some]
    exact .number hsign h
  reads rest hrest := by
    have hread := h.read hrest
    rw [hsign] at hread
    obtain ⟨c, whole, rfl⟩ := List.exists_cons_of_ne_nil h.whole.ne_nil
    exact (readScalar_of_isDigit (h.whole.isDigit c List.mem_cons_self) _).trans hread

theorem exists_of_readText {s left : Input} {v : Json} (h : readText s = (v, some left)) :
    ∃ front pieces, s = front ++ some '"' :: left ∧ StandsFor front pieces ∧
      v = .text ((assemble pieces).map String.ofList) := by
  unfold readText at h
  split at h
  · rename_i pieces rest hpieces
    obtain ⟨rfl, hleft⟩ := Prod.mk.inj h
    obtain rfl := Option.some.inj hleft
    obtain ⟨front, rfl, hfront⟩ := exists_of_readPieces hpieces
    exact ⟨front, pieces, rfl, hfront, rfl⟩
  · exact nomatch h

theorem exists_of_readNumber {s left : Input} {negative : Bool} {v : Json}
    (h : readNumber negative s = (v, some left)) :
    ∃ (n : Numeral) (whole fraction power : List Char),
      s = (whole ++ (fraction ++ power)).map some ++ left ∧ n.negative = negative ∧
      n.Spelled whole fraction power ∧ v = .number n.number? := by
  unfold readNumber at h
  split at h
  · rename_i n rest hread
    obtain ⟨rfl, hleft⟩ := Prod.mk.inj h
    obtain rfl := Option.some.inj hleft
    obtain ⟨whole, fraction, power, rfl, hsign, hspelled⟩ := exists_of_read? hread
    exact ⟨n, whole, fraction, power, rfl, hsign, hspelled, rfl⟩
  · exact nomatch h

/-- A value that is neither an array nor an object is taken from the front of a text. -/
theorem exists_of_readScalar {s left : Input} {v : Json} (h : readScalar s = (v, some left)) :
    ∃ front, s = front ++ left ∧ TakesScalar front v := by
  unfold readScalar at h
  split at h
  · obtain ⟨front, pieces, rfl, hfront, rfl⟩ := exists_of_readText h
    exact ⟨some '"' :: (front ++ [some '"']), by simp, takesScalar_text hfront⟩
  · obtain ⟨n, whole, fraction, power, rfl, hsign, hspelled, rfl⟩ := exists_of_readNumber h
    exact ⟨_, rfl, takesScalar_negative hsign hspelled⟩
  · obtain ⟨rfl, rfl⟩ := exists_of_readLiteral h
    exact ⟨['t', 'r', 'u', 'e'].map some, rfl, takesScalar_literal (by simp [literals])⟩
  · obtain ⟨rfl, rfl⟩ := exists_of_readLiteral h
    exact ⟨['f', 'a', 'l', 's', 'e'].map some, rfl, takesScalar_literal (by simp [literals])⟩
  · obtain ⟨rfl, rfl⟩ := exists_of_readLiteral h
    exact ⟨['n', 'u', 'l', 'l'].map some, rfl, takesScalar_literal (by simp [literals])⟩
  · obtain ⟨n, whole, fraction, power, rfl, hsign, hspelled, rfl⟩ := exists_of_readNumber h
    exact ⟨_, rfl, takesScalar_number hsign hspelled⟩

end ServiceHealth.Json
