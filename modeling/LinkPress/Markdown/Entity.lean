import LinkPress.Markdown.EntityNames
import LinkPress.Text.Hex
import LinkPress.Text.Punctuation
import LinkPress.Text.Split

set_option autoImplicit false

/- Character references and backslash escapes. -/
namespace LinkPress.Markdown

def readDecimal (digits : List Char) : Nat :=
  digits.foldl (fun n c => 10 * n + (c.toNat - 48)) 0

def entities : List (List Char × List Char) :=
  (entityNames.flatMap fun line => Text.split ' ' line.toList).map fun entry =>
    (entry.takeWhile (· != '='),
      (Text.split '+' ((entry.dropWhile (· != '=')).drop 1)).map fun code => Char.ofNat (Text.readHex code))

def isScalar (n : Nat) : Bool := n < 0xD800 || (0xE000 ≤ n && n < 0x110000)

def charOfCode? (n : Nat) : Option Char :=
  if n = 0 then some (Char.ofNat 0xFFFD) else if isScalar n then some (Char.ofNat n) else none

def numeric? (isDigit : Char → Bool) (read : List Char → Nat) (most : Nat) (text : List Char) :
    Option (List Char × List Char) :=
  let digits := text.takeWhile isDigit
  if digits.isEmpty || most < digits.length then none
  else
    match text.dropWhile isDigit, charOfCode? (read digits) with
    | ';' :: rest, some c => some ([c], rest)
    | _, _ => none

def entity? : List Char → Option (List Char × List Char)
  | '#' :: 'x' :: text => numeric? Text.isHexDigit Text.readHex 6 text
  | '#' :: 'X' :: text => numeric? Text.isHexDigit Text.readHex 6 text
  | '#' :: text => numeric? Char.isDigit readDecimal 7 text
  | text =>
      match text.dropWhile Char.isAlphanum with
      | ';' :: rest =>
          let name := text.takeWhile Char.isAlphanum
          (entities.find? fun entry => entry.1 == name).map fun entry => (entry.2, rest)
      | _ => none

def unescapeFrom : Nat → List Char → List Char
  | 0, text => text
  | _, [] => []
  | n + 1, '\\' :: c :: rest =>
      if Text.isAsciiPunctuation c then c :: unescapeFrom n rest else '\\' :: unescapeFrom n (c :: rest)
  | n + 1, '&' :: rest =>
      match entity? rest with
      | some (text, rest) => text ++ unescapeFrom n rest
      | none => '&' :: unescapeFrom n rest
  | n + 1, '\r' :: rest => unescapeFrom n rest
  | n + 1, c :: rest => c :: unescapeFrom n rest

def unescape (text : List Char) : List Char := unescapeFrom text.length text

end LinkPress.Markdown
