import LinkPress.Text.CombiningTable
import LinkPress.Text.Ranges

set_option autoImplicit false

/- Composed texts: marks in their order, and every character that is made of two written as one. -/
namespace LinkPress.Text.Composition

def classes : List (Nat × Ranges) := combiningLines.map fun (n, lines) => (n, rangesOf lines)

def combiningClass (c : Char) : Nat :=
  ((classes.find? fun entry => inRanges entry.2 c.toNat).map Prod.fst).getD 0

def isVowelKiller (c : Char) : Bool := combiningClass c == 9

def readChar (digits : List Char) : Char := Char.ofNat (readHex digits)

def pairOf? (entry : List Char) : Option (Char × Char × Char) :=
  match split '=' entry with
  | [whole, halves] =>
      match split '+' halves with
      | [first, second] => some (readChar whole, readChar first, readChar second)
      | _ => none
  | _ => none

def pairs : List (Char × Char × Char) :=
  pairLines.flatMap fun line => (parts ' ' line.toList).filterMap pairOf?

/-- Syllables are numbered by consonant, vowel and final consonant; 28 of them share the first two. -/
def syllableHalves? (n : Nat) : Option (Nat × Nat) :=
  if n < 0xAC00 ∨ 0xD7A3 < n then none
  else
    let i := n - 0xAC00
    if i % 28 = 0 then some (0x1100 + i / 588, 0x1161 + i % 588 / 28)
    else some (n - i % 28, 0x11A7 + i % 28)

def syllable? (a b : Nat) : Option Nat :=
  if 0x1100 ≤ a ∧ a < 0x1113 ∧ 0x1161 ≤ b ∧ b < 0x1176 then
    some (0xAC00 + (a - 0x1100) * 588 + (b - 0x1161) * 28)
  else if 0xAC00 ≤ a ∧ a ≤ 0xD7A3 ∧ (a - 0xAC00) % 28 = 0 ∧ 0x11A7 < b ∧ b < 0x11C3 then
    some (a + (b - 0x11A7))
  else none

def halves? (c : Char) : Option (Char × Char) :=
  match syllableHalves? c.toNat with
  | some (a, b) => some (Char.ofNat a, Char.ofNat b)
  | none => (pairs.find? fun entry => entry.1 == c).map Prod.snd

def whole? (a b : Char) : Option Char :=
  match syllable? a.toNat b.toNat with
  | some n => some (Char.ofNat n)
  | none => (pairs.find? fun entry => entry.2.1 == a && entry.2.2 == b).map Prod.fst

/-- The parts of a character. `fuel` bounds how often it is taken apart; no character needs more
    than three steps. -/
def takeApart : Nat → Char → List Char
  | 0, c => [c]
  | fuel + 1, c =>
      match halves? c with
      | some (a, b) => takeApart fuel a ++ [b]
      | none => [c]

def placeMark (c : Char) (back : List Char) : List Char :=
  match back with
  | [] => [c]
  | last :: rest =>
      if combiningClass c ≠ 0 ∧ combiningClass c < combiningClass last then
        last :: placeMark c rest
      else c :: last :: rest

def decompose (text : List Char) : List Char :=
  ((text.flatMap (takeApart 4)).foldl (fun back c => placeMark c back) []).reverse

/-- Joins marks with the character that they belong to, unless a mark between them is in the way.
    `marks` are those that stay behind it, the last one first. -/
def composeFrom (start : Char) (marks : List Char) : List Char → List Char
  | [] => start :: marks.reverse
  | c :: rest =>
      let blocked := marks.head?.any fun mark => combiningClass c ≤ combiningClass mark
      match if blocked then none else whole? start c with
      | some whole => composeFrom whole marks rest
      | none =>
          if combiningClass c = 0 then start :: marks.reverse ++ composeFrom c [] rest
          else composeFrom start (c :: marks) rest

def compose (text : List Char) : List Char :=
  match decompose text with
  | [] => []
  | c :: rest => composeFrom c [] rest

def isComposed (text : List Char) : Bool := compose text == text

end LinkPress.Text.Composition
