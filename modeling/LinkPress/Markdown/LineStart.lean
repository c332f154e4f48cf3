import LinkPress.Document.Event
import LinkPress.Markdown.Label
import LinkPress.Markdown.Options
import LinkPress.Markdown.RawHtml

set_option autoImplicit false

/- What the start of a line can be: a rule, a heading, a fence, the marker of a list item, the line
   under the head of a table. Each function looks at the text of one line behind its indentation. -/
namespace LinkPress.Markdown

open LinkPress.Document (ColumnAlignment)

def isRule (text : List Char) : Bool :=
  match text with
  | [] => false
  | c :: _ =>
      (c == '*' || c == '-' || c == '_') && text.all (fun d => d == c || d == ' ' || d == '\t') &&
        3 ≤ text.count c

def atxLevel? (text : List Char) : Option Nat :=
  let level := (text.takeWhile (· == '#')).length
  if 1 ≤ level && level ≤ 6 && ((text.drop level).head?.all isSpace) then some level else none

def setextLevel? (text : List Char) : Option Nat :=
  match text with
  | [] => none
  | c :: _ =>
      if (c == '=' || c == '-') && (text.dropWhile (· == c)).all isGap then
        some (if c == '=' then 1 else 2)
      else none

structure Fence where
  mark : Char
  length : Nat
deriving DecidableEq, Repr

def backtick : Char := '\x60'

def fence? (text : List Char) : Option Fence :=
  match text with
  | [] => none
  | c :: _ =>
      if c = backtick || c = '~' then
        let length := (text.takeWhile (· == c)).length
        if length < 3 || (c = backtick && (text.drop length).contains backtick) then none
        else some ⟨c, length⟩
      else none

def closesFence (fence : Fence) (text : List Char) : Bool :=
  fence.length ≤ (text.takeWhile (· == fence.mark)).length &&
    (text.dropWhile (· == fence.mark)).all (· == ' ')

/-- The mark behind a number, or the mark itself, and the number. -/
structure Marker where
  mark : Char
  number : Nat
deriving DecidableEq, Repr

def Marker.ordered (marker : Marker) : Bool := marker.mark == '.' || marker.mark == ')'

def marker? (text : List Char) : Option (Marker × Nat) :=
  let ends (rest : List Char) := rest.isEmpty || rest.head? == some ' ' || rest.head? == some '\t'
  match text with
  | [] => none
  | c :: rest =>
      if c = '-' || c = '+' || c = '*' then
        if isRule text || !ends rest then none else some (⟨c, 0⟩, 1)
      else
        let digits := text.takeWhile Char.isDigit
        if digits.isEmpty || 9 < digits.length then none
        else
          match text.drop digits.length with
          | d :: after =>
              if (d = ')' || d = '.') && ends after then
                some (⟨d, readDecimal digits⟩, digits.length + 1)
              else none
          | [] => none

def listMarker? (cursor : Cursor) (outer : Nat) : Option (Marker × Nat × Cursor) :=
  match marker? cursor.rest with
  | none => none
  | some (marker, width) =>
      let behind : Cursor := ⟨cursor.rest.drop width, cursor.column + width, 0⟩
      let behind := (behind.skip 1).2
      let indent := outer + width + 1
      if behind.isBlank then some (marker, indent, behind)
      else
        let (extra, inside) := behind.skipUpTo 4
        if extra < 4 then some (marker, indent + extra, inside) else some (marker, indent, behind)

def taskMarker? (cursor : Cursor) : Option (Bool × Cursor) :=
  let start := (cursor.skipUpTo 3).2
  match start.rest with
  | '[' :: c :: ']' :: d :: rest =>
      if !isGap d then none
      else
        let behind : Cursor := ⟨d :: rest, start.column + 3, 0⟩
        if isGap c then some (false, behind)
        else if c = 'x' || c = 'X' then some (true, behind)
        else none
  | _ => none

def noteStart? : List Char → Option (List Char × List Char)
  | '[' :: '^' :: text =>
      match label? 0 text with
      | some (label, ':' :: rest) => some (label, rest.dropWhile isGap)
      | _ => none
  | _ => none

structure ColumnScan where
  alignment : ColumnAlignment
  atStart : Bool
  hyphen : Bool

def ColumnScan.start : ColumnScan := ⟨.none, true, false⟩

def ColumnScan.colon (scan : ColumnScan) : ColumnScan :=
  { scan with
    atStart := false
    alignment :=
      match scan.atStart, scan.alignment with
      | true, .none => .left
      | false, .left => .center
      | false, .none => .right
      | _, alignment => alignment }

def columnsFrom (scan : ColumnScan) (done : List ColumnAlignment) (pipe : Bool) :
    List Char → Option (List ColumnAlignment × Bool)
  | [] => some ((if scan.atStart then done else scan.alignment :: done).reverse, pipe)
  | c :: rest =>
      if c = ' ' then columnsFrom scan done pipe rest
      else if c = ':' then columnsFrom scan.colon done pipe rest
      else if c = '-' then columnsFrom { scan with atStart := false, hyphen := true } done pipe rest
      else if c = '|' then
        if scan.hyphen then columnsFrom .start (scan.alignment :: done) true rest else none
      else none

def tableColumns? (cursor : Cursor) : Option (List ColumnAlignment) :=
  let (spaces, start) := cursor.skipUpTo 4
  if 3 < spaces || start.rest.isEmpty then none
  else
    let (pipe, text) := match start.rest with
      | '|' :: rest => (true, rest)
      | text => (false, text)
    match columnsFrom .start [] pipe text with
    | some (columns, true) => if text.contains '-' then some columns else none
    | _ => none

/-- The pipes of a line that no backslash precedes: how many, and what follows the last one. -/
def pipesFrom (escaped : Bool) (count : Nat) (behind : List Char) : List Char → Nat × List Char
  | [] => (count, behind)
  | c :: rest =>
      if c = '|' && !escaped then pipesFrom false (count + 1) rest rest
      else pipesFrom (c = '\\') count behind rest

def headWidth? (text : List Char) : Option Nat :=
  let (count, behind) := pipesFrom false 0 [] text
  if count = 0 then none
  else
    let count := if (text.dropWhile isGap).head? = some '|' then count - 1 else count
    some (if behind.all isGap then count else count + 1)

def cellFrom (read : List Char) : List Char → List Char × List Char
  | [] => (read.reverse, [])
  | '\\' :: '|' :: rest => cellFrom ('|' :: read) rest
  | c :: rest => if c = '|' then (read.reverse, c :: rest) else cellFrom (c :: read) rest

def cellsFrom : Nat → List Char → List (List Char)
  | 0, _ => []
  | n + 1, text =>
      let text := match text with
        | '|' :: rest => rest
        | text => text
      let text := text.dropWhile isGap
      if text.isEmpty then []
      else
        let (cell, rest) := cellFrom [] text
        cell :: cellsFrom n rest

def cells (text : List Char) : List (List Char) := cellsFrom text.length text

end LinkPress.Markdown
