import Mathlib.Data.List.Basic
import ServiceHealth.Json.Printer
import ServiceHealth.Proofs.Json.Grammar

/-!
# Numbers and strings as they are written

A whole number of sixty-four bits is written without leading zeros, and in a string everything that
would end it or is not allowed there is escaped. So what is written belongs to the grammar.
-/
namespace ServiceHealth.Json

theorem digitValue_eq_zero {c : Char} (h : c.isDigit) (hzero : digitValue c = 0) : c = '0' := by
  have hlow : '0' ≤ c := by
    have hrange : '0' ≤ c ∧ c ≤ '9' := by simpa [Char.isDigit, Char.le_def] using h
    exact hrange.1
  have hle : c.toNat ≤ '0'.toNat := by
    unfold digitValue at hzero
    omega
  exact Char.le_antisymm hle hlow

/-- A number above zero does not begin with the digit zero. -/
theorem head?_toDigits_ne {n : Nat} (h : 0 < n) : (Nat.toDigits 10 n).head? ≠ some '0' := by
  induction n using Nat.strongRecOn with
  | ind n ih =>
    rw [Nat.toDigits_eq_if (by omega)]
    by_cases hsmall : n < 10
    · rw [if_pos hsmall, List.head?_cons, ne_eq, Option.some.injEq, Nat.digitChar_eq_zero]
      omega
    · have hne : Nat.toDigits 10 (n / 10) ≠ [] := Nat.toDigits_ne_nil
      rw [if_neg hsmall, List.head?_append_of_ne_nil _ hne]
      exact ih (n / 10) (by omega) (by omega)

theorem isDigit_of_mem_toDigits {n : Nat} {c : Char} (h : c ∈ Nat.toDigits 10 n) : c.isDigit :=
  Nat.isDigit_of_mem_toDigits (by omega) (by omega) h

def Numeral.ofNat (n : Nat) : Numeral := ⟨false, (Nat.toDigits 10 n).map digitValue, [], none⟩

/-- A whole number is written by its digits. -/
theorem spelled_ofNat (n : Nat) : (Numeral.ofNat n).Spelled (Nat.toDigits 10 n) [] [] where
  whole := ⟨Nat.toDigits_ne_nil, fun _ => isDigit_of_mem_toDigits, rfl⟩
  fraction := .absent
  power := .absent
  leading more hmore := by
    obtain ⟨c, digits, hdigits, hzero, rfl⟩ := List.map_eq_cons_iff.mp hmore
    by_cases hsmall : n < 10
    · rw [Nat.toDigits_of_lt_base hsmall] at hdigits
      rw [← (List.cons.inj hdigits).2, List.map_nil]
    · have hc : c.isDigit := isDigit_of_mem_toDigits (n := n) (by simp [hdigits])
      have hhead := head?_toDigits_ne (n := n) (by omega)
      rw [hdigits, List.head?_cons, digitValue_eq_zero hc hzero] at hhead
      contradiction

/-- The number that digits stand for, after a number that others stand for. -/
def valueFrom (a : Nat) (digits : List Nat) : Nat := digits.foldl (fun n d => n * 10 + d) a

theorem le_valueFrom (a : Nat) (digits : List Nat) : a ≤ valueFrom a digits := by
  induction digits generalizing a with
  | nil => exact Nat.le_refl a
  | cons d digits ih =>
    have hmore := ih (a * 10 + d)
    have hstep : valueFrom a (d :: digits) = valueFrom (a * 10 + d) digits := rfl
    omega

theorem valueFrom_toDigits (n : Nat) :
    valueFrom 0 ((Nat.toDigits 10 n).map digitValue) = n := by
  have hvalue := Nat.ofDigitChars_ten_toDigits (n := n)
  rw [Nat.ofDigitChars_eq_foldl] at hvalue
  rw [valueFrom, List.foldl_map]
  simpa [digitValue, Nat.mul_comm] using hvalue

/-- As long as the value fits into sixty-four bits all digits count. -/
theorem takeWhole_eq {a : Nat} (place : Int) {digits : List Nat}
    (h : valueFrom a digits < Nat.pow 2 64) :
    Scaled.takeWhole ⟨a, place⟩ digits = ⟨valueFrom a digits, place⟩ := by
  induction digits generalizing a with
  | nil => rfl
  | cons d digits ih =>
    have hmore : valueFrom (a * 10 + d) digits < Nat.pow 2 64 := h
    have hfits : Scaled.fits ⟨a, place⟩ d = true :=
      decide_eq_true (Nat.lt_of_le_of_lt (le_valueFrom (a * 10 + d) digits) hmore)
    rw [Scaled.takeWhole, if_pos hfits]
    exact ih hmore

/-- The numeral of a number of sixty-four bits stands for it. -/
theorem number?_ofNat {n : Nat} (hn : n < Nat.pow 2 64) :
    (Numeral.ofNat n).number? = some (.natural n) := by
  have hvalue := valueFrom_toDigits n
  have htake := takeWhole_eq 0 (hvalue.symm ▸ hn)
  simp [Numeral.ofNat, Numeral.number?, htake, hvalue]

/-- The escape of a control character stands for it. -/
theorem SpellsPieces.controlEscape {n : Nat} (hn : n < 0x20) {s : List Char} {pieces : List Piece}
    (h : SpellsPieces s pieces) :
    SpellsPieces (controlEscape n ++ s) (.char (Char.ofNat n) :: pieces) := by
  have hunit : ∀ n < 0x20, hexUnit? (some '0') (some '0') (some (Nat.digitChar (n / 16)))
      (some (Nat.digitChar (n % 16))) = some n := by decide
  have hwhole : Piece.ofUnit n = .char (Char.ofNat n) := by
    rw [Piece.ofUnit, if_neg (by omega)]
  rw [← hwhole]
  exact .unit (hunit n hn) h

/-- What is written for a character inside a string stands for that character. -/
theorem SpellsPieces.escapeChar (c : Char) {s : List Char} {pieces : List Piece}
    (h : SpellsPieces s pieces) : SpellsPieces (escapeChar c ++ s) (.char c :: pieces) := by
  unfold Json.escapeChar
  split_ifs with hquote hslash hb hf hn hr ht hcontrol
  · exact .letter (by rw [hquote]; rfl) h
  · exact .letter (by rw [hslash]; rfl) h
  · exact .letter (by rw [hb]; rfl) h
  · exact .letter (by rw [hf]; rfl) h
  · exact .letter (by rw [hn]; rfl) h
  · exact .letter (by rw [hr]; rfl) h
  · exact .letter (by rw [ht]; rfl) h
  · have hescape := h.controlEscape hcontrol
    rwa [Char.ofNat_toNat] at hescape
  · exact .char hquote hslash (Nat.not_lt.mp hcontrol) h

theorem spellsPieces_flatMap (cs : List Char) :
    SpellsPieces (cs.flatMap escapeChar) (cs.map Piece.char) := by
  induction cs with
  | nil => exact .nil
  | cons c cs ih => exact ih.escapeChar c

theorem assemble_map (cs : List Char) : assemble (cs.map Piece.char) = some cs := by
  induction cs with
  | nil => rfl
  | cons c cs ih => rw [List.map_cons, assemble, ih, Option.map_some]

/-- A written string spells the text. -/
theorem spells_writeText (s : String) : Spells (writeText s) (.ofText s) := by
  have hspells := Spells.text (spellsPieces_flatMap s.toList)
  rwa [assemble_map, Option.map_some, String.ofList_toList] at hspells

/-- A written number of sixty-four bits spells it. -/
theorem spells_ofNat {n : Nat} (hn : n < Nat.pow 2 64) : Spells (ofNat n).write (.ofNat n) := by
  have hspells := Spells.number rfl (spelled_ofNat n)
  rw [number?_ofNat hn, List.append_nil, List.append_nil] at hspells
  have hwrite : (ofNat n).write = Nat.toDigits 10 n := by simp [ofNat, write, Number.toText]
  rwa [hwrite]

end ServiceHealth.Json
