import LinkPress.Text.Hex
import LinkPress.Text.Split

set_option autoImplicit false

/- Sets of characters as ascending ranges of code points. -/
namespace LinkPress.Text

abbrev Ranges := List (Nat × Nat)

def inRanges : Ranges → Nat → Bool
  | [], _ => false
  | (first, last) :: rest, n => if n < first then false else n ≤ last || inRanges rest n

def rangeOf (text : List Char) : Nat × Nat :=
  match split '-' text with
  | [first, last] => (readHex first, readHex last)
  | _ => (readHex text, readHex text)

def rangesOf (lines : List String) : Ranges :=
  lines.flatMap fun line => (parts ' ' line.toList).map rangeOf

end LinkPress.Text
