import LinkPress.Markdown.Heading

set_option autoImplicit false

/- Reading the lines of a document into blocks. -/
namespace LinkPress.Markdown.Builder

open LinkPress.Document (ColumnAlignment)

def spaces (n : Nat) : List Char := List.replicate n ' '

def codeEnd (line : Line) : List Char := if line.ending.length = 2 then ['\n'] else line.ending

/-- The lines of an indented block behind its first, and how many lines they are. A pair is the
    text of a line and whether it is blank. -/
def indentedLines (b : Builder) : List Line → List (List Char × Bool)
  | [] => []
  | line :: more =>
      match b.inside? line with
      | none => []
      | some cursor =>
          let (enough, inner) := cursor.skip 4
          if enough || inner.atEnd then
            (spaces inner.pending ++ inner.rest ++ codeEnd line, inner.isBlank) :: b.indentedLines more
          else []

def indentedCode (b : Builder) (inner : Cursor) (line : Line) (more : List Line) :
    Builder × List Line :=
  let b := b.finishList
  let following := b.indentedLines more
  let kept := (following.reverse.dropWhile Prod.snd).reverse
  let text := spaces inner.pending ++ inner.rest ++ codeEnd line ++ (kept.map Prod.fst).flatten
  let blankEnd := kept.length < following.length
  ({ b.add (.code none text) with lastBlank := blankEnd }, more.drop following.length)

def fencedLines (b : Builder) (fence : Fence) (indent : Nat) : List Line → List Char × Nat
  | [] => ([], 0)
  | line :: more =>
      match b.inside? line with
      | none => ([], 0)
      | some cursor =>
          let inner := (cursor.skip indent).2
          let (deep, close) := inner.skip (4 - indent)
          if !deep && closesFence fence close.rest then ([], 1)
          else
            let (text, n) := b.fencedLines fence indent more
            (spaces inner.pending ++ inner.rest ++ codeEnd line ++ text, n + 1)

def fencedCode (b : Builder) (fence : Fence) (indent : Nat) (text : List Char) (more : List Line) :
    Builder × List Line :=
  let b := b.finishList
  let info := (trimSpaces (text.drop fence.length))
  let (code, n) := b.fencedLines fence indent more
  (b.add (.code (some (unescape info)) code), more.drop n)

def htmlLines (b : Builder) (mark : Option (List Char)) (previous : List Char) :
    List Line → List (List Char × Line)
  | [] => []
  | line :: more =>
      let ended := match mark with
        | some mark => containsMark mark previous
        | none => false
      match b.inside? line with
      | none => []
      | some cursor =>
          if ended || (mark.isNone && cursor.isBlank) then []
          else
            (spaces cursor.pending, ⟨cursor.rest, line.ending⟩) ::
              b.htmlLines mark cursor.rest more

def htmlBlock (b : Builder) (mark : Option (List Char)) (indent : Nat) (text : List Char)
    (line : Line) (more : List Line) : Builder × List Line :=
  let b := b.finishList
  let following := b.htmlLines mark text more
  (b.add (.html ((spaces indent, ⟨text, line.ending⟩) :: following)), more.drop following.length)

/-- What kind of HTML block a text opens, if any: the mark at its end, or `none` for a block that
    ends at a blank line. -/
def htmlStart? (text : List Char) : Option (Option (List Char)) :=
  match text with
  | '<' :: rest =>
      match htmlEnd? rest with
      | some mark => some (some mark)
      | none => if opensBlock rest || isTagLine rest then some none else none
  | _ => none

def tableRows (b : Builder) : List Line → List (List (List Char))
  | [] => []
  | line :: more =>
      match b.inside? line with
      | none => []
      | some cursor =>
          let text := cursor.skipAll.rest
          let row := cells text
          if b.interruptsText true true text more || row.isEmpty then []
          else row :: b.tableRows more

def fitRow (width : Nat) (row : List (List Char)) : List (List Char) :=
  row.take width ++ List.replicate (width - row.length) []

def table (b : Builder) (columns : List ColumnAlignment) (text : List Char) (more : List Line) :
    Builder × List Line :=
  let rows := b.tableRows (more.drop 1)
  let fit := fitRow columns.length
  (b.add (.table columns (fit (cells text)) (rows.map fit)), more.drop (rows.length + 1))

def lineEnds (text : List Char) : Nat :=
  (linesOf text).countP fun line => !line.ending.isEmpty

def paragraph (b : Builder) (text : List Char) (line : Line) (more : List Line) :
    Builder × List Line :=
  let gathered := b.gather text line.ending more
  match definition? gathered.text with
  | some (found, rest) =>
      ({ b with definitions := found :: b.definitions },
        more.drop (lineEnds gathered.text - lineEnds rest))
  | none =>
      let b := b.finishList
      match if b.options.tables then b.tableAt? text more else none with
      | some columns => b.table columns text more
      | none =>
          let block := match gathered.level with
            | some level => setextHeading b.options level gathered.text
            | none => .paragraph gathered.text
          (b.add block, more.drop (gathered.lines - 1))

def leaf (b : Builder) (cursor : Cursor) (line : Line) (more : List Line) : Builder × List Line :=
  let (indent, inner) := cursor.skipUpTo 4
  if indent = 4 then b.indentedCode inner line more
  else
    let text := inner.rest
    match htmlStart? text with
    | some mark => b.htmlBlock mark (max cursor.pending indent) text line more
    | none =>
        if isRule text then (b.finishList.add .rule, more)
        else
          match atxLevel? text with
          | some level => (b.finishList.add (atxHeading b.options level (text.drop level)), more)
          | none =>
              match fence? text with
              | some fence => b.fencedCode fence indent text more
              | none => b.paragraph text line more

def step (b : Builder) (line : Line) (more : List Line) : Builder × List Line :=
  let (n, cursor) := b.matchLine line
  let (b, cursor, usedUp) := (b.closeDown n).openContainers (line.body.length + 1) cursor
  if usedUp then (b, more)
  else if cursor.isBlank then (b.blankLine, more)
  else b.leaf cursor line more

def run : Nat → Builder → List Line → Builder
  | 0, b, _ => b
  | _, b, [] => b
  | fuel + 1, b, line :: more =>
      let next := b.step line more
      run fuel next.1 next.2

def read (options : ReaderOptions) (text : List Char) : Builder :=
  let lines := linesOf text
  (run lines.length (start options) lines).closeDown 0

end LinkPress.Markdown.Builder
