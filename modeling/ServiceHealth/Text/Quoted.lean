import ServiceHealth.Text.Basic
import ServiceHealth.Text.PrintTable

/-!
# Quoted text

How a text is shown inside a message: between double quotes, with the quote, the backslash and
the common controls escaped by a letter, and every other character that has no visible form of its
own as its code point in hexadecimal between braces.
-/
namespace ServiceHealth.Text

/-- The digits of `n` to base sixteen, in lower case and without leading zeros. -/
def hexDigits (n : Nat) : String :=
  String.ofList (Nat.toDigits 16 n)

/-- Shown as it is inside quotes. -/
def isPrintable (c : Char) : Bool :=
  !inRanges graphemeExtendRanges c.toNat && !inRanges unprintableRanges c.toNat

def quoteChar (c : Char) : String :=
  if c = '\x00' then "\\0"
  else if c = '\t' then "\\t"
  else if c = '\r' then "\\r"
  else if c = '\n' then "\\n"
  else if c = '"' then "\\\""
  else if c = '\\' then "\\\\"
  else if isPrintable c then c.toString
  else "\\u\x7b" ++ hexDigits c.toNat ++ "\x7d"

/-- A text between double quotes. -/
def quote (s : String) : String :=
  "\"" ++ String.join (s.toList.map quoteChar) ++ "\""

end ServiceHealth.Text
