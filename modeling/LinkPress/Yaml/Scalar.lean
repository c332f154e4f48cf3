import LinkPress.Text.Hex
import LinkPress.Yaml.Source

set_option autoImplicit false

/- The text of scalars: plain ones, quoted ones and blocks. -/
namespace LinkPress.Yaml

structure Gap where
  spaces : List Char
  newLine : Bool
  first : Option Char
  breaks : List Char

def Gap.empty : Gap := ⟨[], false, none, []⟩

/-- What a gap stands for: one line break is a space, more of them are one less. -/
def Gap.text (gap : Gap) : List Char :=
  if !gap.newLine then gap.spaces
  else
    match gap.first with
    | some '\n' => if gap.breaks.isEmpty then [' '] else gap.breaks
    | some c => c :: gap.breaks
    | none => gap.breaks

def gapFrom (least : Nat) : Nat → Gap → Source → Option (Gap × Source)
  | 0, gap, source => some (gap, source)
  | fuel + 1, gap, source =>
      match source.rest with
      | [] => some (gap, source)
      | c :: _ =>
          if isGap c then
            if gap.newLine then
              if c = '\t' && source.column < least then none else gapFrom least fuel gap (source.skip 1)
            else gapFrom least fuel { gap with spaces := gap.spaces ++ [c] } (source.skip 1)
          else
            match source.nextLine? with
            | none => some (gap, source)
            | some (c, next) =>
                if gap.newLine then gapFrom least fuel { gap with breaks := gap.breaks ++ [c] } next
                else gapFrom least fuel { gap with newLine := true, first := some c } next

def readGap (least : Nat) (gap : Gap) (source : Source) : Option (Gap × Source) :=
  gapFrom least source.rest.length gap source

def isFlowMark (c : Char) : Bool := c == ',' || c == '[' || c == ']' || c == '{' || c == '}'

def plainWord (flow : Bool) : List Char → Option (List Char)
  | [] => some []
  | c :: rest =>
      if atSpace (c :: rest) then some []
      else if flow && c == ':' && rest.head?.any (fun d => isFlowMark d || d == '?') then none
      else if (c == ':' && atSpace rest) || (flow && isFlowMark c) then some []
      else (plainWord flow rest).map (c :: ·)

def plainFrom (flow : Bool) (least : Nat) :
    Nat → List Char → Gap → Source → Option (List Char × Bool × Source)
  | 0, text, gap, source => some (text, gap.newLine, source)
  | fuel + 1, text, gap, source =>
      if source.atDocumentIndicator || source.rest.head? = some '#' then
        some (text, gap.newLine, source)
      else do
        let word ← plainWord flow source.rest
        let (text, gap) := if word.isEmpty then (text, gap) else (text ++ gap.text ++ word, .empty)
        let source := source.skip word.length
        if source.rest.isEmpty || !atSpace source.rest then return (text, gap.newLine, source)
        let (gap, source) ← readGap least gap source
        if !flow && source.column < least then return (text, gap.newLine, source)
        plainFrom flow least fuel text gap source

def plainScalar? (flow : Bool) (least : Nat) (source : Source) :
    Option (List Char × Bool × Source) :=
  plainFrom flow least (source.rest.length + 1) [] .empty source

def namedEscape? (c : Char) : Option Char :=
  match c with
  | '0' => some (Char.ofNat 0)
  | 'a' => some (Char.ofNat 7)
  | 'b' => some (Char.ofNat 8)
  | 't' => some '\t'
  | '\t' => some '\t'
  | 'n' => some '\n'
  | 'v' => some (Char.ofNat 11)
  | 'f' => some (Char.ofNat 12)
  | 'r' => some '\r'
  | 'e' => some (Char.ofNat 27)
  | ' ' => some ' '
  | '"' => some '"'
  | '/' => some '/'
  | '\\' => some '\\'
  | 'N' => some (Char.ofNat 0x85)
  | '_' => some (Char.ofNat 0xA0)
  | 'L' => some (Char.ofNat 0x2028)
  | 'P' => some (Char.ofNat 0x2029)
  | _ => none

def codeWidth? (c : Char) : Option Nat :=
  match c with
  | 'x' => some 2
  | 'u' => some 4
  | 'U' => some 8
  | _ => none

def codeEscape? (width : Nat) (text : List Char) : Option Char :=
  let digits := text.take width
  match digits.mapM Text.hexValue? with
  | none => none
  | some values =>
      let n := values.foldl (fun n v => 16 * n + v) 0
      if digits.length < width || (0xD800 ≤ n && n ≤ 0xDFFF) || 0x10FFFF < n then none
      else some (Char.ofNat n)

def escape? : List Char → Option (Char × Nat)
  | [] => none
  | c :: rest =>
      match namedEscape? c, codeWidth? c with
      | some d, _ => some (d, 1)
      | none, some width => (codeEscape? width rest).map fun d => (d, width + 1)
      | none, none => none

def quoteOf (single : Bool) : Char := if single then '\'' else '"'

def quotedWord (single : Bool) : Nat → List Char → List Char → Option (List Char × List Char)
  | 0, read, rest => some (read.reverse, rest)
  | fuel + 1, read, text =>
      match text with
      | [] => some (read.reverse, [])
      | c :: rest =>
          if atSpace text then some (read.reverse, text)
          else if c = quoteOf single then
            if single && rest.head? = some '\'' then quotedWord single fuel ('\'' :: read) (rest.drop 1)
            else some (read.reverse, text)
          else if !single && c == '\\' then
            if rest.head?.any isBreak then some (read.reverse, text)
            else
              match escape? rest with
              | some (d, width) => quotedWord single fuel (d :: read) (rest.drop width)
              | none => none
          else quotedWord single fuel (c :: read) rest

def quotedFrom (single : Bool) : Nat → List Char → Source → Option (List Char × Source)
  | 0, _, _ => none
  | fuel + 1, text, source =>
      if source.atDocumentIndicator || source.rest.isEmpty then none
      else do
        let (word, rest) ← quotedWord single source.rest.length [] source.rest
        let text := text ++ word
        let source := source.skipTo rest
        let folded := source.rest.head? = some '\\'
        let source := if folded then (source.skip 1).nextLine else source
        if source.rest.head? = some (quoteOf single) then return (text, source.skip 1)
        let (gap, source) ← readGap 0 { Gap.empty with newLine := folded } source
        quotedFrom single fuel (text ++ gap.text) source

def quotedScalar? (single : Bool) (source : Source) : Option (List Char × Source) :=
  quotedFrom single source.rest.length [] (source.skip 1)

inductive Chomping where
  | strip
  | clip
  | keep
deriving DecidableEq, Repr

def chomping? : Option Char → Option Chomping
  | some '+' => some .keep
  | some '-' => some .strip
  | _ => none

def increment? (text : List Char) : Option (Option Nat) :=
  match text with
  | c :: _ => if !c.isDigit then some none else if c = '0' then none else some (some (c.toNat - 48))
  | [] => some none

def blockHeader? (source : Source) : Option (Chomping × Option Nat × Source) :=
  match chomping? source.rest.head? with
  | some chomping => do
      let source := source.skip 1
      let increment ← increment? source.rest
      return (chomping, increment, source.skip (if increment.isSome then 1 else 0))
  | none => do
      let increment ← increment? source.rest
      let source := source.skip (if increment.isSome then 1 else 0)
      match increment, chomping? source.rest.head? with
      | some _, some chomping => return (chomping, increment, source.skip 1)
      | _, _ => return (.clip, increment, source)

def blockBreaks (indent : Option Nat) :
    Nat → Nat → List Char → Source → Option (List Char × Nat × Source)
  | 0, most, breaks, source => some (breaks, most, source)
  | fuel + 1, most, breaks, source =>
      let spaces := (source.rest.takeWhile (· == ' ')).length
      let source := source.skip (match indent with
        | some n => min spaces (n - source.column)
        | none => spaces)
      let most := max most source.column
      let within := match indent with
        | some n => decide (source.column < n)
        | none => true
      if within && source.rest.head? = some '\t' then none
      else
        match source.nextLine? with
        | some (c, next) => blockBreaks indent fuel most (breaks ++ [c]) next
        | none => some (breaks, most, source)

/-- The lines of a block. `pending` is the break behind the line before, and `indented` says that
    the line before starts with a blank. -/
def blockLines (literal : Bool) (indent : Nat) : Nat → List Char → List Char → List Char → Bool →
    Source → Option (List Char × List Char × List Char × Source)
  | 0, text, pending, breaks, _, source => some (text, pending, breaks, source)
  | fuel + 1, text, pending, breaks, indented, source =>
      if source.column ≠ indent || source.rest.isEmpty then some (text, pending, breaks, source)
      else do
        let blank := source.rest.head?.any isGap
        let joint :=
          if !literal && pending == ['\n'] && !indented && !blank then
            (if breaks.isEmpty then [' '] else breaks)
          else pending ++ breaks
        let line := source.rest.takeWhile fun c => !isBreak c
        let source := source.skip line.length
        let (pending, source) := match source.nextLine? with
          | some (c, next) => ([c], next)
          | none => ([], source)
        let (breaks, _, source) ← blockBreaks (some indent) (source.rest.length + 1) 0 [] source
        blockLines literal indent fuel (text ++ joint ++ line) pending breaks blank source

def blockScalar? (literal : Bool) (outer : Option Nat) (source : Source) :
    Option (List Char × Source) := do
  let (chomping, increment, source) ← blockHeader? (source.skip 1)
  let source := (source.skipWhile isGap).skipComment
  if !atLineEnd source.rest then none
  let source := source.nextLine
  let given := increment.map (outer.getD 0 + ·)
  let (breaks, most, source) ← blockBreaks given (source.rest.length + 1) 0 [] source
  let indent := given.getD (max most (max 1 (outer.elim 0 (· + 1))))
  let (text, pending, breaks, source) ←
    blockLines literal indent (source.rest.length + 1) [] [] breaks false source
  return (text ++ (match chomping with
    | .strip => []
    | .clip => pending
    | .keep => pending ++ breaks), source)

end LinkPress.Yaml
