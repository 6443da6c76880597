import Mathlib.Tactic.IntervalCases
import ServiceHealth.Text.Basic
import ServiceHealth.Text.Utf8

/-!
# UTF-8, read back

The bytes of a text are decoded to its characters, and so are the bytes that a percent-encoded form
of the text stands for, whichever bytes are escaped and in whatever case their digits are written.
-/
namespace ServiceHealth.Text

theorem toByteArray_eq_mk (bytes : List UInt8) : bytes.toByteArray = ⟨bytes.toArray⟩ :=
  ByteArray.ext List.data_toByteArray

/-- The encoding of a character is recognised, whatever follows. -/
theorem leadingChar?_encode (c : Char) (rest : List UInt8) :
    leadingChar? (String.utf8EncodeChar c ++ rest) = some c := by
  have hsize : (String.utf8EncodeChar c).length ≤ 4 :=
    (String.length_utf8EncodeChar c).trans_le c.utf8Size_le_four
  rw [leadingChar?, List.take_append, List.take_of_length_le hsize, ← toByteArray_eq_mk,
    List.toByteArray_append]
  exact ByteArray.utf8DecodeChar?_utf8EncodeChar_append

/-- The bytes of a text are decoded to its characters, without a gap. -/
theorem decodeUtf8_encodeUtf8 (cs : List Char) : decodeUtf8 (encodeUtf8 cs) = cs.map some := by
  induction cs with
  | nil => simp [encodeUtf8, decodeUtf8]
  | cons c cs ih =>
    have hsize := String.length_utf8EncodeChar c
    have hleading := leadingChar?_encode c (encodeUtf8 cs)
    rw [encodeUtf8, List.flatMap_cons, ← encodeUtf8, List.map_cons]
    cases hbytes : String.utf8EncodeChar c with
    | nil => exact absurd hbytes String.utf8EncodeChar_ne_nil
    | cons b bytes =>
      rw [hbytes, List.cons_append] at hleading
      rw [hbytes, List.length_cons] at hsize
      rw [List.cons_append, decodeUtf8, hleading]
      simp only
      rw [← hsize, Nat.add_sub_cancel, List.drop_left, ih]

/-- Well-formed bytes are those of the text that they encode. -/
theorem fromUTF8?_encodeUtf8 (s : String) :
    String.fromUTF8? ⟨(encodeUtf8 s.toList).toArray⟩ = some s := by
  have hbytes : s.toByteArray = ⟨(encodeUtf8 s.toList).toArray⟩ := by
    rw [← toByteArray_eq_mk, ← String.utf8Encode_toList]
    rfl
  rw [← hbytes, String.fromUTF8?, dif_pos s.isValidUTF8]
  rfl

/-! ### Percent escapes -/

/-- A character that is never taken for anything else in a path. -/
def isUnreserved (c : Char) : Bool := c.isAlphanum || ['-', '.', '_', '~'].contains c

/-- A hexadecimal digit with a value, in either case. -/
def IsHexDigit (n : Nat) (c : Char) : Prop := c = Nat.digitChar n ∨ c = (Nat.digitChar n).toUpper

/-- A text stands for bytes: each byte is an escape of two digits, or an unreserved character that
has this byte as its code. -/
inductive PercentEncodes : List UInt8 → List Char → Prop where
  | nil : PercentEncodes [] []
  | plain {bytes : List UInt8} {cs : List Char} (c : Char) (hc : isUnreserved c)
      (rest : PercentEncodes bytes cs) : PercentEncodes (c.toNat.toUInt8 :: bytes) (c :: cs)
  | escape {bytes : List UInt8} {cs : List Char} (b : UInt8) {high low : Char}
      (hhigh : IsHexDigit (b.toNat / 16) high) (hlow : IsHexDigit (b.toNat % 16) low)
      (rest : PercentEncodes bytes cs) : PercentEncodes (b :: bytes) ('%' :: high :: low :: cs)

theorem hexValue?_of_isHexDigit {n : Nat} {c : Char} (hn : n < 16) (h : IsHexDigit n c) :
    hexValue? c = some n := by
  obtain rfl | rfl := h
  · interval_cases n <;> rfl
  · interval_cases n <;> rfl

theorem isUnreserved_of_isHexDigit {n : Nat} {c : Char} (hn : n < 16) (h : IsHexDigit n c) :
    isUnreserved c := by
  obtain rfl | rfl := h
  · interval_cases n <;> rfl
  · interval_cases n <;> rfl

theorem hexByte?_of_isHexDigit {b : UInt8} {high low : Char}
    (hhigh : IsHexDigit (b.toNat / 16) high) (hlow : IsHexDigit (b.toNat % 16) low) :
    hexByte? high low = some b := by
  have hb := b.toNat_lt
  have hvalue : b.toNat / 16 * 16 + b.toNat % 16 = b.toNat := by omega
  rw [hexByte?, hexValue?_of_isHexDigit (by omega) hhigh, hexValue?_of_isHexDigit (by omega) hlow]
  show some (b.toNat / 16 * 16 + b.toNat % 16).toUInt8 = some b
  rw [hvalue]
  exact congrArg some UInt8.ofNat_toNat

theorem toNat_lt_of_isUnreserved {c : Char} (h : isUnreserved c) : c.toNat < 0x80 := by
  delta isUnreserved Char.isAlphanum Char.isAlpha Char.isUpper Char.isLower Char.isDigit at h
  simp only [Bool.or_eq_true, Bool.and_eq_true, decide_eq_true_eq, List.contains_iff_mem,
    List.mem_cons, List.not_mem_nil, or_false, UInt32.le_iff_toNat_le] at h
  obtain ((⟨-, h⟩ | ⟨-, h⟩) | ⟨-, h⟩) | rfl | rfl | rfl | rfl := h
  · exact Nat.lt_of_le_of_lt h (by decide)
  · exact Nat.lt_of_le_of_lt h (by decide)
  · exact Nat.lt_of_le_of_lt h (by decide)
  all_goals decide

theorem percentBytes_of_ne {c : Char} (hc : c ≠ '%') (rest : List Char) :
    percentBytes (c :: rest) = String.utf8EncodeChar c ++ percentBytes rest := by
  rw [percentBytes]
  rintro a b rest' rfl
  contradiction

theorem PercentEncodes.percentBytes_eq {bytes : List UInt8} {cs : List Char}
    (h : PercentEncodes bytes cs) : percentBytes cs = bytes := by
  induction h with
  | nil => rfl
  | plain c hc rest ih =>
    have hne : c ≠ '%' := by
      rintro rfl
      contradiction
    have hsmall : c.val.toNat ≤ 127 := Nat.le_of_lt_succ (toNat_lt_of_isUnreserved hc)
    rw [percentBytes_of_ne hne, ih, String.utf8EncodeChar, if_pos hsmall]
    rfl
  | escape b hhigh hlow rest ih =>
    rw [percentBytes, hexByte?_of_isHexDigit hhigh hlow]
    simp only [ih]

theorem percentDecode?_of_percentEncodes {s : String} {cs : List Char}
    (h : PercentEncodes (encodeUtf8 s.toList) cs) : percentDecode? cs = some s := by
  rw [percentDecode?, h.percentBytes_eq, fromUTF8?_encodeUtf8]

/-- An escaped text is made of unreserved characters and percent signs. -/
theorem PercentEncodes.mem {bytes : List UInt8} {cs : List Char} (h : PercentEncodes bytes cs) :
    ∀ c ∈ cs, isUnreserved c ∨ c = '%' := by
  induction h with
  | nil => simp
  | plain c hc rest ih =>
    exact List.forall_mem_cons.mpr ⟨.inl hc, ih⟩
  | escape b hhigh hlow rest ih =>
    have hb := b.toNat_lt
    exact List.forall_mem_cons.mpr ⟨.inr rfl, List.forall_mem_cons.mpr
      ⟨.inl (isUnreserved_of_isHexDigit (by omega) hhigh), List.forall_mem_cons.mpr
        ⟨.inl (isUnreserved_of_isHexDigit (by omega) hlow), ih⟩⟩⟩

theorem PercentEncodes.ne_nil {bytes : List UInt8} {cs : List Char} (h : PercentEncodes bytes cs)
    (hbytes : bytes ≠ []) : cs ≠ [] := by
  cases h with
  | nil => contradiction
  | plain | escape => exact List.cons_ne_nil _ _

theorem encodeUtf8_ne_nil {s : String} (h : isAllBlank s = false) :
    encodeUtf8 s.toList ≠ [] := by
  intro hnil
  cases hs : s.toList with
  | nil => simp [isAllBlank, hs] at h
  | cons c cs =>
    rw [hs, encodeUtf8, List.flatMap_cons, List.append_eq_nil_iff] at hnil
    exact String.utf8EncodeChar_ne_nil hnil.1

end ServiceHealth.Text
