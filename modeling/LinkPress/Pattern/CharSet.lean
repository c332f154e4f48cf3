import LinkPress.Text.Alphanumeric
import LinkPress.Text.Blank
import LinkPress.Text.Category
import LinkPress.Text.Folding
import LinkPress.Text.Split

set_option autoImplicit false

/- Sets of characters, as patterns describe them. -/
namespace LinkPress.Pattern

open LinkPress.Text (Ranges inRanges)

def caseKey (c : Char) : Char :=
  let n := c.toNat
  if n < 128 then c.toLower
  else if n = 0x1E9E then Char.ofNat 0xDF
  else if (0x1F88 ≤ n && n ≤ 0x1FAF && n / 8 % 2 == 1) then Char.ofNat (n - 8)
  else if n = 0x1FBC || n = 0x1FCC || n = 0x1FFC then Char.ofNat (n - 9)
  else if n = 0xFB05 then Char.ofNat 0xFB06
  else Text.applyRuns Text.foldRuns c

def foldedTo (n : Nat) : List Nat :=
  Text.foldRuns.filterMap fun run =>
    let source := (n : Int) - run.shift
    if 128 ≤ source && run.covers source.toNat then some source.toNat else none

def caseMates (c : Char) : List Nat :=
  let key := (caseKey c).toNat
  let upper := if 97 ≤ key && key ≤ 122 then [key - 32] else []
  let special := [0x1E9E, 0x1FBC, 0x1FCC, 0x1FFC, 0xFB05].filter fun n =>
    (caseKey (Char.ofNat n)).toNat == key
  let greek := if 0x1F80 ≤ key && key ≤ 0x1FA7 && key / 8 % 2 == 0 then [key + 8] else []
  key :: upper ++ foldedTo key ++ special ++ greek

inductive CharSet where
  | nothing
  | range (first last : Nat)
  /-- The characters that differ from one of the set in case only, and the set. -/
  | folded (set : CharSet)
  | listed (ranges : Ranges)
  | word
  | blank
  | complement (set : CharSet)
  | union (a b : CharSet)
  | intersection (a b : CharSet)
  | difference (a b : CharSet)
  | symmetric (a b : CharSet)
deriving Repr

def inRange (first last n : Nat) : Bool := first ≤ n && n ≤ last

def isWordChar (c : Char) : Bool :=
  let n := c.toNat
  if n < 128 then c.isAlphanum || c == '_'
  else
    (Text.isAlphanumeric c && !inRanges (Text.category "No") n) ||
      Text.isInCategory ["Mn", "Mc", "Me", "Pc"] c || n == 0x200C || n == 0x200D

namespace CharSet

def contains : CharSet → Char → Bool
  | .nothing, _ => false
  | .range first last, c => inRange first last c.toNat
  | .folded set, c => set.contains c || (caseMates c).any fun n => set.contains (Char.ofNat n)
  | .listed ranges, c => inRanges ranges c.toNat
  | .word, c => isWordChar c
  | .blank, c => Text.isBlank c
  | .complement set, c => !set.contains c
  | .union a b, c => a.contains c || b.contains c
  | .intersection a b, c => a.contains c && b.contains c
  | .difference a b, c => a.contains c && !b.contains c
  | .symmetric a b, c => a.contains c != b.contains c

def unionAll (sets : List CharSet) : CharSet := sets.foldr .union .nothing

def single (c : Char) : CharSet := .range c.toNat c.toNat

def ascii (pairs : List (Char × Char)) : CharSet :=
  unionAll (pairs.map fun (first, last) => .range first.toNat last.toNat)

def asciiWord : CharSet := ascii [('0', '9'), ('A', 'Z'), ('_', '_'), ('a', 'z')]

def named? (name : String) : Option CharSet :=
  match name with
  | "alnum" => some (ascii [('0', '9'), ('A', 'Z'), ('a', 'z')])
  | "alpha" => some (ascii [('A', 'Z'), ('a', 'z')])
  | "ascii" => some (.range 0 127)
  | "blank" => some (ascii [('\t', '\t'), (' ', ' ')])
  | "cntrl" => some (.union (.range 0 31) (.range 127 127))
  | "digit" => some (ascii [('0', '9')])
  | "graph" => some (ascii [('!', '~')])
  | "lower" => some (ascii [('a', 'z')])
  | "print" => some (ascii [(' ', '~')])
  | "punct" => some (ascii [('!', '/'), (':', '@'), ('[', '\x60'), ('\x7b', '~')])
  | "space" => some (ascii [('\t', '\r'), (' ', ' ')])
  | "upper" => some (ascii [('A', 'Z')])
  | "word" => some asciiWord
  | "xdigit" => some (ascii [('0', '9'), ('A', 'F'), ('a', 'f')])
  | _ => none

end CharSet
end LinkPress.Pattern
