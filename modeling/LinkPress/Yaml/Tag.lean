import LinkPress.Text.Hex
import LinkPress.Yaml.Source
import LinkPress.Yaml.Token

set_option autoImplicit false

/- Anchors, tags and directives. -/
namespace LinkPress.Yaml

def anchorName? (source : Source) : Option (List Char × Source) :=
  let name := source.rest.takeWhile isWordChar
  let after := source.skip name.length
  let ended := atSpace after.rest || after.rest.head?.any ("?:,]\x7d%@\x60".toList.contains ·)
  if name.isEmpty || !ended then none else some (name, after)

def byteCount? (n : Nat) : Option Nat :=
  if n < 0x80 then some 1
  else if n < 0xC0 then none
  else if n < 0xE0 then some 2
  else if n < 0xF0 then some 3
  else if n < 0xF8 then some 4
  else none

def escapedByte? : List Char → Option (Nat × List Char)
  | '%' :: a :: b :: rest => do
      let high ← Text.hexValue? a
      let low ← Text.hexValue? b
      return (16 * high + low, rest)
  | _ => none

def escapedTail? : Nat → Nat → List Char → Option (Nat × List Char)
  | 0, code, text => some (code, text)
  | n + 1, code, text =>
      match escapedByte? text with
      | some (byte, rest) => if byte / 64 = 2 then escapedTail? n (64 * code + byte % 64) rest else none
      | none => none

def escapedChar? (text : List Char) : Option (Char × List Char) := do
  let (byte, rest) ← escapedByte? text
  let count ← byteCount? byte
  let first := if count = 1 then byte else byte % Nat.pow 2 (7 - count)
  let (code, rest) ← escapedTail? (count - 1) first rest
  return (Char.ofNat code, rest)

def isUriChar (verbatim : Bool) (c : Char) : Bool :=
  isWordChar c || ";/?:@&=+$.!~*'()".toList.contains c || (verbatim && ",[]".toList.contains c)

def uriFrom (verbatim : Bool) : Nat → List Char → List Char → Option (List Char × List Char)
  | 0, read, rest => some (read.reverse, rest)
  | fuel + 1, read, text =>
      match text with
      | [] => some (read.reverse, [])
      | c :: rest =>
          if c = '%' then
            match escapedChar? text with
            | some (d, rest) => uriFrom verbatim fuel (d :: read) rest
            | none => none
          else if isUriChar verbatim c then uriFrom verbatim fuel (c :: read) rest
          else some (read.reverse, text)

def uri? (verbatim : Bool) (text : List Char) : Option (List Char × List Char) :=
  uriFrom verbatim text.length [] text

def handle? : List Char → Option (List Char × List Char)
  | '!' :: text =>
      let word := text.takeWhile isWordChar
      match text.drop word.length with
      | '!' :: rest => some ('!' :: word ++ ['!'], rest)
      | rest => some ('!' :: word, rest)
  | _ => none

def tagParts? : List Char → Option (List Char × List Char × List Char)
  | '!' :: '<' :: text => do
      let (uri, rest) ← uri? true text
      match rest with
      | '>' :: rest => if uri.isEmpty then none else return ([], uri, rest)
      | _ => none
  | text => do
      let (handle, rest) ← handle? text
      let (suffix, rest) ← uri? false rest
      if 1 < handle.length && handle.getLast? = some '!' then
        if suffix.isEmpty then none else return (handle, suffix, rest)
      else
        let suffix := handle.drop 1 ++ suffix
        if suffix.isEmpty then return ([], ['!'], rest) else return (['!'], suffix, rest)

def tag? (flow : Bool) (source : Source) : Option (Token × Source) := do
  let (handle, suffix, rest) ← tagParts? source.rest
  if atSpace rest || (flow && rest.head? = some ',') then
    return (.tag handle suffix, source.skipTo rest)
  else none

def versionNumber? (text : List Char) : Option (Nat × List Char) :=
  let digits := text.takeWhile Char.isDigit
  if digits.isEmpty || 9 < digits.length then none
  else some (digits.foldl (fun n c => 10 * n + (c.toNat - 48)) 0, text.drop digits.length)

def versionDirective? (text : List Char) : Option (Token × List Char) := do
  let (major, rest) ← versionNumber? (text.dropWhile isGap)
  match rest with
  | '.' :: rest =>
      let (minor, rest) ← versionNumber? rest
      return (.version major minor, rest)
  | _ => none

def tagDirective? (text : List Char) : Option (Token × List Char) := do
  let (handle, rest) ← handle? (text.dropWhile isGap)
  if handle != ['!'] && !(1 < handle.length && handle.getLast? = some '!') then none
  if !rest.head?.any isGap then none
  let (uri, rest) ← uri? false (rest.dropWhile isGap)
  if uri.isEmpty || !atSpace rest then none
  return (.tagDirective handle uri, rest)

def directive? (source : Source) : Option (Token × Source) := do
  let text := source.rest.drop 1
  let name := text.takeWhile isWordChar
  let rest := text.drop name.length
  if name.isEmpty || !atSpace rest then none
  let (token, rest) ←
    if name = "YAML".toList then versionDirective? rest
    else if name = "TAG".toList then tagDirective? rest
    else none
  let source := ((source.skipTo rest).skipWhile isGap).skipComment
  if atLineEnd source.rest then return (token, source.nextLine) else none

end LinkPress.Yaml
