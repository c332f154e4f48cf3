import LinkPress.Yaml.Scalar
import LinkPress.Yaml.Tag

set_option autoImplicit false

/- From a text to its tokens. Indentation opens and closes block collections, and a colon turns
   what stands in front of it on the same line into a key: the token for the key is put in at the
   place where that text began. -/
namespace LinkPress.Yaml

structure KeyStart where
  required : Bool
  tokens : Nat
  index : Nat
  line : Nat
  column : Nat

/-- `tokens` is kept last one first. `keys` has an entry for each open flow collection, the
    innermost first, and one for the block around them. `indents` are the columns of the open
    blocks, innermost first. -/
structure Scanner where
  source : Source
  tokens : List Token
  keys : List (Option KeyStart)
  keyAllowed : Bool
  indents : List Nat

namespace Scanner

def start (text : List Char) : Scanner := ⟨.start text, [], [none], true, []⟩

def inFlow (s : Scanner) : Bool := 1 < s.keys.length

def add (s : Scanner) (token : Token) : Scanner := { s with tokens := token :: s.tokens }

def insert (s : Scanner) (n : Nat) (token : Token) : Scanner :=
  let behind := s.tokens.length - n
  { s with tokens := s.tokens.take behind ++ token :: s.tokens.drop behind }

def skip (s : Scanner) (n : Nat) : Scanner := { s with source := s.source.skip n }

def key? (s : Scanner) : Option KeyStart := s.keys.head?.join

def setKey (s : Scanner) (key : Option KeyStart) : Scanner := { s with keys := key :: s.keys.drop 1 }

def dropKey (s : Scanner) : Option Scanner :=
  if s.key?.any KeyStart.required then none else some (s.setKey none)

def saveKey (s : Scanner) : Option Scanner :=
  if !s.keyAllowed then some s
  else do
    let required := !s.inFlow && s.indents.head? == some s.source.column
    let kept ← s.dropKey
    return kept.setKey
      (some ⟨required, s.tokens.length, s.source.index, s.source.line, s.source.column⟩)

def isStale (s : Scanner) (key : KeyStart) : Bool :=
  key.line < s.source.line || key.index + 1024 < s.source.index

def dropStale (s : Scanner) : Option Scanner :=
  if s.keys.any fun key => key.any fun key => s.isStale key && key.required then none
  else some { s with keys := s.keys.map fun key => key.filter fun key => !s.isStale key }

def openBlock (s : Scanner) (column place : Nat) (token : Token) : Scanner :=
  if s.inFlow || !s.indents.head?.all (· < column) then s
  else { s.insert place token with indents := column :: s.indents }

def closeBlocks (s : Scanner) (depth : Nat) : Scanner :=
  if s.inFlow then s
  else
    let closed := s.indents.takeWhile (depth ≤ ·)
    { s with
      tokens := List.replicate closed.length .blockEnd ++ s.tokens
      indents := s.indents.drop closed.length }

def toNextToken : Nat → Scanner → Scanner
  | 0, s => s
  | fuel + 1, s =>
      let isSkipped (c : Char) := c == ' ' || ((s.inFlow || !s.keyAllowed) && c == '\t')
      let source := (s.source.skipWhile isSkipped).skipComment
      match source.nextLine? with
      | some (_, next) =>
          toNextToken fuel { s with source := next, keyAllowed := s.keyAllowed || !s.inFlow }
      | none => { s with source := source }

def documentMark (s : Scanner) (token : Token) : Option Scanner := do
  let s ← (s.closeBlocks 0).dropKey
  return ({ s with keyAllowed := false }.skip 3).add token

def directive (s : Scanner) : Option Scanner := do
  let s ← (s.closeBlocks 0).dropKey
  let (token, source) ← directive? s.source
  return { s with keyAllowed := false, source := source }.add token

def flowStart (s : Scanner) (token : Token) : Option Scanner := do
  let s ← s.saveKey
  return ({ s with keys := none :: s.keys, keyAllowed := true }.skip 1).add token

def flowEnd (s : Scanner) (token : Token) : Option Scanner := do
  let s ← s.dropKey
  let keys := if s.inFlow then s.keys.drop 1 else s.keys
  return ({ s with keys := keys, keyAllowed := false }.skip 1).add token

def flowEntry (s : Scanner) : Option Scanner := do
  let s ← s.dropKey
  return ({ s with keyAllowed := true }.skip 1).add .flowEntry

def enterBlock (s : Scanner) (token : Token) : Option Scanner :=
  if s.inFlow then some s
  else if !s.keyAllowed then none
  else some (s.openBlock s.source.column s.tokens.length token)

def blockEntry (s : Scanner) : Option Scanner := do
  let s ← (← s.enterBlock .blockSequence).dropKey
  return ({ s with keyAllowed := true }.skip 1).add .blockEntry

def keyMark (s : Scanner) : Option Scanner := do
  let s ← (← s.enterBlock .blockMapping).dropKey
  return ({ s with keyAllowed := !s.inFlow }.skip 1).add .key

def valueMark (s : Scanner) : Option Scanner :=
  match s.key? with
  | some key =>
      let s := (s.insert key.tokens .key).openBlock key.column key.tokens .blockMapping
      some (({ s.setKey none with keyAllowed := false }.skip 1).add .value)
  | none => do
      let s ← s.enterBlock .blockMapping
      return ({ s with keyAllowed := !s.inFlow }.skip 1).add .value

def content (s : Scanner) (scan : Source → Option (Token × Source)) : Option Scanner := do
  let s ← s.saveKey
  let (token, source) ← scan s.source
  return { s with keyAllowed := false, source := source }.add token

def quotedScalar (s : Scanner) (single : Bool) : Option Scanner :=
  s.content fun source => (quotedScalar? single source).map fun (text, source) =>
    (.scalar text .quoted, source)

def anchor (s : Scanner) (token : List Char → Token) : Option Scanner :=
  s.content fun source => (anchorName? (source.skip 1)).map fun (name, source) => (token name, source)

def blockScalar (s : Scanner) (literal : Bool) : Option Scanner := do
  let s ← s.dropKey
  let (text, source) ← blockScalar? literal s.indents.head? s.source
  return { s with keyAllowed := true, source := source }.add
    (.scalar text (if literal then .literal else .folded))

def plainScalar (s : Scanner) : Option Scanner := do
  let s ← s.saveKey
  let least := s.indents.head?.elim 0 (· + 1)
  let (text, newLine, source) ← plainScalar? s.inFlow least s.source
  return { s with keyAllowed := newLine, source := source }.add (.scalar text .plain)

def startsPlain (flow : Bool) (c : Char) (rest : List Char) : Bool :=
  !("-?:,[]\x7b\x7d#&*!|>'\"%@\x60".toList.contains c) || (c == '-' && !rest.head?.any isGap) ||
    (!flow && (c == '?' || c == ':') && !atSpace rest)

def token (s : Scanner) (c : Char) (rest : List Char) : Option Scanner :=
  if s.source.column = 0 && c = '%' then s.directive
  else if s.source.atIndicator '-' then s.documentMark .documentStart
  else if s.source.atIndicator '.' then s.documentMark .documentEnd
  else if c = '[' then s.flowStart .flowSequence
  else if c = '{' then s.flowStart .flowMapping
  else if c = ']' then s.flowEnd .flowSequenceEnd
  else if c = '}' then s.flowEnd .flowMappingEnd
  else if c = ',' then s.flowEntry
  else if c = '-' && atSpace rest then s.blockEntry
  else if c = '?' && (s.inFlow || atSpace rest) then s.keyMark
  else if c = ':' && (s.inFlow || atSpace rest) then s.valueMark
  else if c = '*' then s.anchor .reference
  else if c = '&' then s.anchor .anchor
  else if c = '!' then s.content (tag? s.inFlow)
  else if c = '|' && !s.inFlow then s.blockScalar true
  else if c = '>' && !s.inFlow then s.blockScalar false
  else if c = '\'' then s.quotedScalar true
  else if c = '"' then s.quotedScalar false
  else if !atSpace (c :: rest) && startsPlain s.inFlow c rest then s.plainScalar
  else none

def finish (s : Scanner) : Option (List Token) :=
  (s.closeBlocks 0).dropKey.map fun s => s.tokens.reverse

def run (s : Scanner) : Nat → Option (List Token)
  | 0 => s.finish
  | fuel + 1 => do
      let s := toNextToken (s.source.rest.length + 1) s
      let s ← s.dropStale
      let s := s.closeBlocks (s.source.column + 1)
      match s.source.rest with
      | [] => s.finish
      | c :: rest => (← s.token c rest).run fuel

end Scanner

def isByteOrderMark (c : Char) : Bool := c.toNat == 0xFEFF

/-- The tokens of a text, unless it is no YAML. A mark of the byte order may stand in front of it,
    and one more counts as a column. -/
def tokens? (text : List Char) : Option (List Token) :=
  if !text.all isAllowed then none
  else
    let text := if text.head?.any isByteOrderMark then text.drop 1 else text
    let scanner := Scanner.start text
    (if text.head?.any isByteOrderMark then scanner.skip 1 else scanner).run (text.length + 1)

end LinkPress.Yaml
