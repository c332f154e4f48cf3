import LinkPress.Pattern.Expr
import LinkPress.Pattern.Property

set_option autoImplicit false

/- Flags and escape sequences of patterns. -/
namespace LinkPress.Pattern

structure Flags where
  fold : Bool
  multiline : Bool
  dotAll : Bool
  returns : Bool
  unicode : Bool
  spaced : Bool
deriving DecidableEq, Repr

def Flags.start : Flags := ⟨false, false, false, false, true, false⟩

def skipBlanks : Bool → List Char → List Char
  | _, [] => []
  | true, c :: rest => skipBlanks (c != '\n') rest
  | false, c :: rest =>
      if Text.isBlank c then skipBlanks false rest
      else if c = '#' then skipBlanks true rest
      else c :: rest

def Flags.trim (flags : Flags) (text : List Char) : List Char :=
  if flags.spaced then skipBlanks false text else text

inductive Atom where
  | literal (c : Char)
  | set (set : CharSet)
  | assertion (assertion : Assertion)

def Flags.fix (flags : Flags) (set : CharSet) : CharSet := if flags.fold then .folded set else set

/-- The characters outside of a set, where they are characters and not bytes. -/
def Flags.outside? (flags : Flags) (set : CharSet) : Option CharSet :=
  if flags.unicode then some (.complement set) else none

def isMeta (c : Char) : Bool := "\\.+*?()|[]\x7b\x7d^$#&-~".toList.contains c

def isEscapable (c : Char) : Bool :=
  isMeta c || (c.toNat < 128 && !c.isAlphanum && c != '<' && c != '>')

def charOf? (n : Nat) : Option Char :=
  if n < 0xD800 || (0xE000 ≤ n && n < 0x110000) then some (Char.ofNat n) else none

def hexDigits (flags : Flags) : Nat → List Char → List Char → Option (List Char × List Char)
  | 0, read, rest => some (read.reverse, rest)
  | n + 1, read, c :: rest =>
      if Text.isHexDigit c then hexDigits flags n (c :: read) (flags.trim rest) else none
  | _ + 1, _, [] => none

def bracedDigits (flags : Flags) : Nat → List Char → List Char → Option (List Char × List Char)
  | 0, _, _ => none
  | _ + 1, _, [] => none
  | n + 1, read, c :: rest =>
      if c = '}' then some (read.reverse, rest)
      else if Text.isHexDigit c then bracedDigits flags n (c :: read) (flags.trim rest)
      else none

def hexEscape? (flags : Flags) (width : Nat) (text : List Char) : Option (Atom × List Char) := do
  let (digits, rest) ← match flags.trim text with
    | '{' :: rest => bracedDigits flags (rest.length + 1) [] (flags.trim rest)
    | text => hexDigits flags width [] text
  if digits.isEmpty then none
  let c ← charOf? (Text.readHex digits)
  if !flags.unicode && 128 ≤ c.toNat then none
  return (.literal c, flags.trim rest)

def propertyName (flags : Flags) : Nat → List Char → List Char → Option (List Char × List Char)
  | 0, _, _ => none
  | _ + 1, _, [] => none
  | n + 1, read, c :: rest =>
      if c = '}' then some (read.reverse, rest) else propertyName flags n (c :: read) (flags.trim rest)

def cutAt? (mark : List Char) : List Char → Option (List Char × List Char)
  | [] => none
  | c :: rest =>
      if mark.isPrefixOf (c :: rest) then some ([], (c :: rest).drop mark.length)
      else (cutAt? mark rest).map fun (before, after) => (c :: before, after)

/-- A property, or a property and a value with `!=`, a colon or an equals sign between them. The first
    part says whether it is the characters without the property that are meant. -/
def property? (text : List Char) : Option (Bool × CharSet) :=
  let value? (name value : List Char) : Option CharSet :=
    CharSet.ofValue? (propertyKey name) (propertyKey value)
  match cutAt? ['!', '='] text, cutAt? [':'] text, cutAt? ['='] text with
  | some (name, value), _, _ => (value? name value).map fun set => (true, set)
  | none, some (name, value), _ => (value? name value).map fun set => (false, set)
  | none, none, some (name, value) => (value? name value).map fun set => (false, set)
  | none, none, none => (CharSet.ofName? (propertyKey text)).map fun set => (false, set)

def propertyEscape? (flags : Flags) (negated : Bool) (text : List Char) :
    Option (Atom × List Char) := do
  let (name, rest) ← match flags.trim text with
    | '{' :: rest => propertyName flags (rest.length + 1) [] (flags.trim rest)
    | c :: rest => if c = '\\' then none else some ([c], flags.trim rest)
    | [] => none
  let (without, set) ← property? name
  if !flags.unicode then none
  let set := flags.fix set
  return (.set (if negated != without then .complement set else set), rest)

def classEscape? (flags : Flags) (c : Char) : Option CharSet :=
  let set (letter : Char) : CharSet :=
    if letter = 'd' then
      (if flags.unicode then .listed (Text.category "Nd") else CharSet.ascii [('0', '9')])
    else if letter = 's' then
      (if flags.unicode then .blank else CharSet.ascii [('\t', '\r'), (' ', ' ')])
    else if flags.unicode then .word
    else CharSet.asciiWord
  if c.isLower then some (set c) else flags.outside? (set c.toLower)

def isEdgeChar (c : Char) : Bool := c.isAlpha || c == '-'

def edgeEscape? (flags : Flags) (text : List Char) : Option (Atom × List Char) :=
  let plain : Option (Atom × List Char) := some (.assertion (.wordEdge flags.unicode), text)
  match text with
  | '{' :: rest =>
      match flags.trim rest with
      | [] => none
      | c :: rest =>
          if !isEdgeChar c then plain
          else
            let text := c :: rest
            let name := text.takeWhile isEdgeChar
            match text.dropWhile isEdgeChar with
            | '}' :: rest =>
                (match String.ofList name with
                 | "start" => some (Assertion.wordStart flags.unicode)
                 | "end" => some (.wordEnd flags.unicode)
                 | "start-half" => some (.halfStart flags.unicode)
                 | "end-half" => some (.halfEnd flags.unicode)
                 | _ => none).map fun edge => (.assertion edge, rest)
            | _ => none
  | _ => plain

def escape? (flags : Flags) : List Char → Option (Atom × List Char)
  | [] => none
  | c :: rest =>
      if isEscapable c then some (.literal c, rest)
      else
        match c with
        | 'x' => hexEscape? flags 2 rest
        | 'u' => hexEscape? flags 4 rest
        | 'U' => hexEscape? flags 8 rest
        | 'p' => propertyEscape? flags false rest
        | 'P' => propertyEscape? flags true rest
        | 'a' => some (.literal (Char.ofNat 7), rest)
        | 'f' => some (.literal (Char.ofNat 12), rest)
        | 't' => some (.literal '\t', rest)
        | 'n' => some (.literal '\n', rest)
        | 'r' => some (.literal '\r', rest)
        | 'v' => some (.literal (Char.ofNat 11), rest)
        | 'A' => some (.assertion .textStart, rest)
        | 'z' => some (.assertion .textEnd, rest)
        | 'b' => edgeEscape? flags rest
        | 'B' => some (.assertion (.noWordEdge flags.unicode), rest)
        | '<' => some (.assertion (.wordStart flags.unicode), rest)
        | '>' => some (.assertion (.wordEnd flags.unicode), rest)
        | _ =>
            if "dswDSW".toList.contains c then (classEscape? flags c).map fun set => (.set set, rest)
            else none

end LinkPress.Pattern
