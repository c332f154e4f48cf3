import LinkPress.Markdown.LineStart

set_option autoImplicit false

/- The blocks of a document, built line by line. Open containers are matched against the start of
   each line; a leaf block then takes as many lines as belong to it. -/
namespace LinkPress.Markdown

open LinkPress.Document (ColumnAlignment)

structure HeadingMarks where
  id : Option (List Char)
  classes : List (List Char)
  attributes : List (List Char × Option (List Char))
deriving DecidableEq, Repr

inductive Block where
  | paragraph (text : List Char)
  | heading (level : Nat) (marks : HeadingMarks) (text : List Char)
  | code (info : Option (List Char)) (text : List Char)
  | html (lines : List (List Char × Line))
  | rule
  | table (columns : List ColumnAlignment) (head : List (List Char)) (rows : List (List (List Char)))
  | task (done : Bool)
  | quote (children : List Block)
  | item (children : List Block)
  | list (start : Option Nat) (tight : Bool) (items : List Block)
  | note (label : List Char) (children : List Block)

inductive Container where
  | quote
  | list (marker : Marker) (tight : Bool)
  | item (indent : Nat)
  | note (label : List Char)
deriving DecidableEq, Repr

structure OpenBlock where
  container : Container
  children : List Block

def OpenBlock.close (block : OpenBlock) : Block :=
  let children := block.children.reverse
  match block.container with
  | .quote => .quote children
  | .list marker tight => .list (if marker.ordered then some marker.number else none) tight children
  | .item _ => .item children
  | .note label => .note label children

/-- `frames` are the open containers, innermost first; `root` the closed blocks outside of them,
    last one first. -/
structure Builder where
  options : ReaderOptions
  root : List Block
  frames : List OpenBlock
  /-- The line before was blank where that matters for the looseness of a list. -/
  lastBlank : Bool
  emptyItem : Bool
  definitions : List Definition
  notes : List (List Char)

namespace Builder

def start (options : ReaderOptions) : Builder := ⟨options, [], [], false, false, [], []⟩

def add (b : Builder) (block : Block) : Builder :=
  match b.frames with
  | [] => { b with root := block :: b.root }
  | frame :: outer => { b with frames := { frame with children := block :: frame.children } :: outer }

def openBlock (b : Builder) (container : Container) : Builder :=
  { b with frames := ⟨container, []⟩ :: b.frames }

def pop (b : Builder) : Builder :=
  match b.frames with
  | [] => b
  | frame :: outer => { b with frames := outer }.add frame.close

def closeTo (b : Builder) (n : Nat) : Nat → Builder
  | 0 => b
  | fuel + 1 => if n < b.frames.length then b.pop.closeTo n fuel else b

def closeDown (b : Builder) (n : Nat) : Builder := b.closeTo n b.frames.length

def continues (container : Container) (cursor : Cursor) : Option Cursor :=
  match container with
  | .list _ _ => some cursor
  | .quote =>
      match (cursor.skip 3).2.skipChar? '>' with
      | some cursor => some (cursor.skip 1).2
      | none => none
  | .item indent =>
      let (enough, inside) := cursor.skip indent
      if enough || inside.atEnd then some inside else none
  | .note _ =>
      let (enough, inside) := cursor.skip 4
      if enough || inside.atEnd then some inside else none

def matchFrames : List OpenBlock → Cursor → Nat × Cursor
  | [], cursor => (0, cursor)
  | frame :: inner, cursor =>
      match continues frame.container cursor with
      | some inside =>
          let (n, inside) := matchFrames inner inside
          (n + 1, inside)
      | none => (0, cursor)

def matchLine (b : Builder) (line : Line) : Nat × Cursor :=
  matchFrames b.frames.reverse (Cursor.ofChars line.body)

def inside? (b : Builder) (line : Line) : Option Cursor :=
  let (n, cursor) := b.matchLine line
  if n = b.frames.length then some cursor else none

def setLoose : OpenBlock → OpenBlock
  | ⟨.list marker _, children⟩ => ⟨.list marker false, children⟩
  | block => block

def finishEmptyItem (b : Builder) : Builder :=
  let b' := match b.emptyItem && b.lastBlank, b.frames with
    | true, ⟨.item _, _⟩ :: _ => b.pop
    | _, _ => b
  { b' with emptyItem := false }

def finishList (b : Builder) : Builder :=
  let b := b.finishEmptyItem
  let b := match b.frames with
    | ⟨.list _ _, _⟩ :: _ => b.pop
    | _ => b
  if !b.lastBlank then b
  else
    match b.frames with
    | top :: parent :: outer => { b with frames := top :: setLoose parent :: outer, lastBlank := false }
    | _ => { b with lastBlank := false }

def startList (b : Builder) (marker : Marker) : Builder :=
  { b.openBlock (.list marker true) with lastBlank := false }

def continueList (b : Builder) (marker : Marker) : Builder :=
  let b := b.finishEmptyItem
  match b.frames with
  | ⟨.list open' _, children⟩ :: outer =>
      if open'.mark = marker.mark then
        if b.lastBlank then
          { b with frames := ⟨.list open' false, children⟩ :: outer, lastBlank := false }
        else b
      else b.finishList.startList marker
  | [] => b.startList marker
  | _ => b.finishList.startList marker

def isNote : OpenBlock → Bool
  | ⟨.note _, _⟩ => true
  | _ => false

def startNote (b : Builder) (label : List Char) : Builder :=
  let b := b.finishList
  let b := match b.frames with
    | frame :: _ => if isNote frame then b.pop else b
    | [] => b
  { b with notes := labelKey label :: b.notes }.openBlock (.note label)

/-- Opens the containers that start on a line. The last component says that the line is used up
    because it holds no more than the marker of an item. -/
def openContainers : Nat → Builder → Cursor → Builder × Cursor × Bool
  | 0, b, cursor => (b, cursor, false)
  | fuel + 1, b, cursor =>
      let (outer, start) := cursor.skipUpTo 4
      if 4 ≤ outer then (b, cursor, false)
      else
        match (if b.options.footnotes then noteStart? start.rest else none) with
        | some (label, rest) => openContainers fuel (b.startNote label) (Cursor.ofChars rest)
        | none =>
            match listMarker? start outer with
            | some (marker, indent, inside) =>
                let b := (b.continueList marker).openBlock (.item indent)
                if inside.isBlank then ({ b with emptyItem := true }, inside, true)
                else
                  match (if b.options.taskLists then taskMarker? inside else none) with
                  | some (done, inside) => openContainers fuel (b.add (.task done)) inside
                  | none => openContainers fuel b inside
            | none =>
                match start.skipChar? '>' with
                | some inside =>
                    openContainers fuel (b.finishList.openBlock .quote) (inside.skip 1).2
                | none => (b, cursor, false)

def blankLine (b : Builder) : Builder :=
  match b.frames with
  | ⟨.quote, _⟩ :: _ => b
  | ⟨.item indent, children⟩ :: outer =>
      { b with
        frames := ⟨.item (if b.emptyItem then 0 else indent), children⟩ :: outer
        lastBlank := true }
  | _ => { b with lastBlank := true }

def tableAt? (b : Builder) (text : List Char) (more : List Line) : Option (List ColumnAlignment) :=
  match more with
  | [] => none
  | line :: _ =>
      match headWidth? text, (b.inside? line).bind tableColumns? with
      | some width, some columns => if width = columns.length then some columns else none
      | _, _ => none

/-- Whether the marker of an item ends a paragraph: one that counts from another number than one
    does not, nor does one with nothing on its own line and on the next. -/
def interruptsByMarker (inTable current : Bool) (text : List Char) (more : List Line) : Bool :=
  match marker? text with
  | none => false
  | some (marker, width) =>
      !current || inTable ||
        ((!marker.ordered || marker.number == 1) &&
          !((text.drop width).all isGap && more.head?.all fun line => line.body.all isGap))

def interruptsText (b : Builder) (inTable current : Bool) (text : List Char) (more : List Line) :
    Bool :=
  text.isEmpty || isRule text || (atxLevel? text).isSome || (fence? text).isSome ||
    text.head? == some '>' || interruptsByMarker inTable current text more ||
    (match text with
     | '<' :: rest => (htmlEnd? rest).isSome || opensBlock rest
     | _ => false) ||
    (b.options.footnotes && (noteStart? text).isSome)

def interrupts (b : Builder) (current : Bool) (text : List Char) (more : List Line) : Bool :=
  b.interruptsText false current text more ||
    (b.options.tables && text.head? == some '|' && (b.tableAt? text more).isSome)

structure Gathered where
  text : List Char
  level : Option Nat
  lines : Nat

def gatherFrom (b : Builder) (ending : List Char) : List Line → Gathered
  | [] => ⟨[], none, 0⟩
  | line :: more =>
      let (n, cursor) := b.matchLine line
      let current := n == b.frames.length
      let (deep, inner) := cursor.skip 4
      let level := if !deep && current then setextLevel? inner.rest else none
      if inner.skipAll.atEnd then ⟨[], none, 0⟩
      else if level.isSome then ⟨[], level, 1⟩
      else if !deep && b.interrupts current inner.rest more then ⟨[], none, 0⟩
      else
        let rest := b.gatherFrom line.ending more
        ⟨ending ++ cursor.rest ++ rest.text, rest.level, rest.lines + 1⟩

def gather (b : Builder) (text : List Char) (ending : List Char) (more : List Line) : Gathered :=
  let rest := b.gatherFrom ending more
  ⟨text ++ rest.text, rest.level, rest.lines + 1⟩

end Builder
end LinkPress.Markdown
