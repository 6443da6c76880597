import ServiceHealth.Text.Pieces
import ServiceHealth.Text.Utf8

/-!
# Tables of code points

A compact notation for maps from characters to short texts. A row holds the images of consecutive
code points in hexadecimal, with a blank between two images and a comma between two code points
of an image.
-/
namespace ServiceHealth.Text

/-- The images of the code points from `first` on. -/
structure Row where
  first : Nat
  images : String
  deriving Repr

/-- The character whose code point hexadecimal digits stand for. -/
def coded (digits : List Char) : Char :=
  Char.ofNat (digits.foldl (fun n c => n * 16 + (hexValue? c).getD 0) 0)

/-- The code points of a row with their images. -/
def Row.entries (r : Row) : List (Nat × List Char) :=
  let images := (pieces (· = ' ') r.images.toList).map fun image =>
    (pieces (· = ',') image).map coded
  (images.zipIdx r.first).map fun e => (e.2, e.1)

def entries (rows : List Row) : List (Nat × List Char) := rows.flatMap Row.entries

end ServiceHealth.Text
