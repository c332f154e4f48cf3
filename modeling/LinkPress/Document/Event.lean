set_option autoImplicit false

/- A document as a sequence of events: elements are opened and closed, and everything between is
   a single event of its own. -/
namespace LinkPress.Document

inductive LinkKind where
  | inline
  | reference
  | referenceUnknown
  | collapsed
  | collapsedUnknown
  | shortcut
  | shortcutUnknown
  | autolink
  | email
  | wiki (piped : Bool)
deriving DecidableEq, Repr

structure Link where
  kind : LinkKind
  url : String
  title : String
  id : String
deriving DecidableEq, Repr

inductive ColumnAlignment where
  | none
  | left
  | center
  | right
deriving DecidableEq, Repr

inductive Alert where
  | note
  | tip
  | important
  | warning
  | caution
deriving DecidableEq, Repr

inductive MetadataStyle where
  | yaml
  | pluses
deriving DecidableEq, Repr

structure Heading where
  level : Nat
  id : Option String
  classes : List String
  attributes : List (String × Option String)
deriving DecidableEq, Repr

inductive Tag where
  | paragraph
  | heading (heading : Heading)
  | blockquote (alert : Option Alert)
  /-- A fenced block has the text behind its fence, an indented one has none. -/
  | codeBlock (info : Option String)
  | htmlBlock
  /-- An ordered list has the number of its first item. -/
  | list (start : Option Nat)
  | item
  | footnoteDefinition (label : String)
  | definitionList
  | definitionTitle
  | definition
  | table (alignments : List ColumnAlignment)
  | tableHead
  | tableRow
  | tableCell
  | emphasis
  | strong
  | strikethrough
  | superscript
  | subscript
  | link (link : Link)
  | image (link : Link)
  | metadata (style : MetadataStyle)
deriving DecidableEq, Repr

inductive Closing where
  | paragraph
  | heading (level : Nat)
  | blockquote (alert : Option Alert)
  | codeBlock
  | htmlBlock
  | list (ordered : Bool)
  | item
  | footnoteDefinition
  | definitionList
  | definitionTitle
  | definition
  | table
  | tableHead
  | tableRow
  | tableCell
  | emphasis
  | strong
  | strikethrough
  | superscript
  | subscript
  | link
  | image
  | metadata (style : MetadataStyle)
deriving DecidableEq, Repr

def Tag.closing : Tag → Closing
  | .paragraph => .paragraph
  | .heading head => .heading head.level
  | .blockquote alert => .blockquote alert
  | .codeBlock _ => .codeBlock
  | .htmlBlock => .htmlBlock
  | .list start => .list start.isSome
  | .item => .item
  | .footnoteDefinition _ => .footnoteDefinition
  | .definitionList => .definitionList
  | .definitionTitle => .definitionTitle
  | .definition => .definition
  | .table _ => .table
  | .tableHead => .tableHead
  | .tableRow => .tableRow
  | .tableCell => .tableCell
  | .emphasis => .emphasis
  | .strong => .strong
  | .strikethrough => .strikethrough
  | .superscript => .superscript
  | .subscript => .subscript
  | .link _ => .link
  | .image _ => .image
  | .metadata style => .metadata style

inductive Event where
  | start (tag : Tag)
  | close (closing : Closing)
  | text (text : String)
  | code (text : String)
  | html (text : String)
  | inlineHtml (text : String)
  | inlineMath (text : String)
  | displayMath (text : String)
  | footnoteReference (label : String)
  | softBreak
  | hardBreak
  | rule
  | task (done : Bool)
deriving DecidableEq, Repr

def mergeText : List Event → List Event
  | [] => []
  | .text first :: rest =>
      match mergeText rest with
      | .text second :: more => .text (first ++ second) :: more
      | more => .text first :: more
  | event :: rest => event :: mergeText rest

end LinkPress.Document
