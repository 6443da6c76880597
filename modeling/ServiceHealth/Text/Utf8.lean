/-!
# UTF-8

Texts that come as bytes. A body is read leniently: a byte that belongs to no well-formed sequence
becomes a gap, so that a reader can pass over it where the content does not matter. A percent
escape stands for a byte; what is no escape stands for itself.
-/
namespace ServiceHealth.Text

/-- The character whose well-formed encoding begins the bytes. -/
def leadingChar? (bytes : List UInt8) : Option Char :=
  ByteArray.utf8DecodeChar? ⟨(bytes.take 4).toArray⟩ 0

/-- The characters that bytes encode, with a gap for every byte that belongs to none. -/
def decodeUtf8 : List UInt8 → List (Option Char)
  | [] => []
  | b :: rest =>
      match leadingChar? (b :: rest) with
      | some c => some c :: decodeUtf8 (rest.drop (c.utf8Size - 1))
      | none => none :: decodeUtf8 rest
termination_by bytes => bytes.length
decreasing_by
  · simp only [List.length_drop, List.length_cons]; omega
  · simp

def encodeUtf8 (cs : List Char) : List UInt8 := cs.flatMap String.utf8EncodeChar

def byteLength : List Char → Nat
  | [] => 0
  | c :: rest => c.utf8Size + byteLength rest

def hexValue? (c : Char) : Option Nat :=
  if '0' ≤ c ∧ c ≤ '9' then some (c.toNat - '0'.toNat)
  else if 'a' ≤ c ∧ c ≤ 'f' then some (c.toNat - 'a'.toNat + 10)
  else if 'A' ≤ c ∧ c ≤ 'F' then some (c.toNat - 'A'.toNat + 10)
  else none

def hexByte? (a b : Char) : Option UInt8 := do
  return ((← hexValue? a) * 16 + (← hexValue? b)).toUInt8

/-- The bytes of a text with percent escapes. -/
def percentBytes : List Char → List UInt8
  | '%' :: a :: b :: rest =>
      match hexByte? a b with
      | some byte => byte :: percentBytes rest
      | none => String.utf8EncodeChar '%' ++ percentBytes (a :: b :: rest)
  | c :: rest => String.utf8EncodeChar c ++ percentBytes rest
  | [] => []

/-- The text that percent escapes encode, unless their bytes are not well-formed. -/
def percentDecode? (cs : List Char) : Option String :=
  String.fromUTF8? ⟨(percentBytes cs).toArray⟩

end ServiceHealth.Text
