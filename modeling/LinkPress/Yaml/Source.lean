set_option autoImplicit false

/- A YAML text with the place that has been reached in it. -/
namespace LinkPress.Yaml

def isAllowed (c : Char) : Bool :=
  let n := c.toNat
  n == 9 || n == 10 || n == 13 || (0x20 ≤ n && n ≤ 0x7E) || n == 0x85 || (0xA0 ≤ n && n ≤ 0xFFFD) ||
    0x10000 ≤ n

def isBreak (c : Char) : Bool :=
  c == '\n' || c == '\r' || c.toNat == 0x85 || c.toNat == 0x2028 || c.toNat == 0x2029

def isGap (c : Char) : Bool := c == ' ' || c == '\t'

def atSpace : List Char → Bool
  | [] => true
  | c :: _ => isGap c || isBreak c

def atLineEnd : List Char → Bool
  | [] => true
  | c :: _ => isBreak c

def isWordChar (c : Char) : Bool := c.isAlphanum || c == '-' || c == '_'

/-- A line break at the head of a text, as one character, and what follows it. The separators for
    lines and paragraphs are kept; every other break is a line feed. -/
def lineBreak? : List Char → Option (Char × List Char)
  | '\r' :: '\n' :: rest => some ('\n', rest)
  | c :: rest =>
      if !isBreak c then none
      else some (if c.toNat == 0x2028 || c.toNat == 0x2029 then c else '\n', rest)
  | [] => none

structure Source where
  rest : List Char
  index : Nat
  line : Nat
  column : Nat
deriving Repr

namespace Source

def start (text : List Char) : Source := ⟨text, 0, 0, 0⟩

def skip (source : Source) (n : Nat) : Source :=
  ⟨source.rest.drop n, source.index + n, source.line, source.column + n⟩

def skipTo (source : Source) (rest : List Char) : Source :=
  source.skip (source.rest.length - rest.length)

def skipWhile (source : Source) (p : Char → Bool) : Source :=
  source.skip (source.rest.takeWhile p).length

def nextLine? (source : Source) : Option (Char × Source) :=
  (lineBreak? source.rest).map fun (c, rest) =>
    (c, ⟨rest, source.index + (source.rest.length - rest.length), source.line + 1, 0⟩)

def nextLine (source : Source) : Source := (source.nextLine?.map Prod.snd).getD source

def skipComment (source : Source) : Source :=
  if source.rest.head? = some '#' then source.skipWhile fun c => !isBreak c else source

def atIndicator (source : Source) (mark : Char) : Bool :=
  source.column == 0 && source.rest.take 3 == [mark, mark, mark] && atSpace (source.rest.drop 3)

def atDocumentIndicator (source : Source) : Bool := source.atIndicator '-' || source.atIndicator '.'

end Source
end LinkPress.Yaml
