import LinkPress.Markdown.Inline
import LinkPress.Markdown.Parse

set_option autoImplicit false

/- From a text to a document: its blocks become elements, and their texts are read for links and
   emphasis. -/
namespace LinkPress.Markdown

open LinkPress.Document

def element (tag : Tag) (children : List Node) : Node := .element tag (some tag.closing) children

def headingOf (level : Nat) (marks : HeadingMarks) : Heading :=
  ⟨level, marks.id.map String.ofList, marks.classes.map String.ofList,
    marks.attributes.map fun (name, value) => (String.ofList name, value.map String.ofList)⟩

/-- A line of HTML with the blanks in front of it. A line end of two characters is an event of its
    own with its last character. -/
def htmlNodes (entry : List Char × Line) : List Node :=
  let (blanks, line) := entry
  let before := if blanks.isEmpty then [] else [textNode blanks]
  let html (text : List Char) : Node := .leaf (.html (String.ofList text))
  before ++
    (if line.ending.length = 2 then [html line.body, html ['\n']] else [html (line.body ++ line.ending)])

def codeNodes (text : List Char) : List Node := if text.isEmpty then [] else [textNode text]

def rowNodes (references : References) (row : List (List Char)) : Reading (List Node) :=
  row.mapM fun cell => return element .tableCell (← inlineNodes references cell)

def tableNode (references : References) (columns : List ColumnAlignment) (head : List (List Char))
    (rows : List (List (List Char))) : Reading Node := do
  let head := element .tableHead (← rowNodes references head)
  let rows ← rows.mapM fun row => return element .tableRow (← rowNodes references row)
  return element (.table columns) (head :: rows)

mutual
def Block.nodes (references : References) (tight : Bool) : Block → Reading (List Node)
  | .paragraph text => do
      let nodes ← inlineNodes references text
      return if tight then nodes else [element .paragraph nodes]
  | .heading level marks text => return [element (.heading (headingOf level marks)) (← inlineNodes references text)]
  | .code info text => return [element (.codeBlock (info.map String.ofList)) (codeNodes text)]
  | .html lines => return [element .htmlBlock (lines.flatMap htmlNodes)]
  | .rule => return [.leaf .rule]
  | .table columns head rows => return [← tableNode references columns head rows]
  | .task done => return [.leaf (.task done)]
  | .quote children => return [element (.blockquote none) (← blockNodes references false children)]
  | .item children => return [element .item (← blockNodes references tight children)]
  | .list start tight items => return [element (.list start) (← blockNodes references tight items)]
  | .note label children =>
      return [element (.footnoteDefinition (String.ofList label)) (← blockNodes references false children)]

def blockNodes (references : References) (tight : Bool) : List Block → Reading (List Node)
  | [] => return []
  | block :: rest => return (← block.nodes references tight) ++ (← blockNodes references tight rest)
end

/-- How much references may add to a document: as much as it has, and some if it is short. -/
def referenceBudget (text : List Char) : Nat := max (Text.byteCount text) 100000

def read (options : ReaderOptions) (text : String) : List Node :=
  let b := Builder.read options text.toList
  let references : References := ⟨options, b.definitions.reverse, b.notes⟩
  let nodes := ((blockNodes references false b.root.reverse).run (referenceBudget text.toList)).1
  ofEvents (toEvents nodes)

end LinkPress.Markdown
