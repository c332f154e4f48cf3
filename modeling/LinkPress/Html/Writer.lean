import LinkPress.Document.Event
import LinkPress.Html.Escape

set_option autoImplicit false

/- HTML from a sequence of events, written in one pass. -/
namespace LinkPress.Html

open LinkPress.Document

structure Alternative where
  depth : Nat
  title : String
deriving DecidableEq, Repr

structure Writer where
  out : String
  atLineStart : Bool
  hidden : Bool
  inHead : Bool
  alignments : List ColumnAlignment
  column : Nat
  numbered : List String
  alternative : Option Alternative
deriving DecidableEq, Repr

namespace Writer

def start : Writer := ⟨"", true, false, true, [], 0, [], none⟩

def endsLine (text : String) : Bool := text.toList.getLast? == some '\n'

/-- Adds text that says nothing about where the line ends. -/
def put (w : Writer) (text : String) : Writer := { w with out := w.out ++ text }

def write (w : Writer) (text : String) : Writer :=
  if text = "" then w else { w with out := w.out ++ text, atLineStart := endsLine text }

def writeLine (w : Writer) (text : String) : Writer :=
  w.write (if w.atLineStart then text else "\n" ++ text)

def number (w : Writer) (label : String) : Nat × Writer :=
  match w.numbered.idxOf? label with
  | some n => (n + 1, w)
  | none => (w.numbered.length + 1, { w with numbered := w.numbered ++ [label] })

def levelName (level : Nat) : String := "h" ++ toString level

def attr (name : String) (value : String) : String :=
  " " ++ name ++ "=\"" ++ escapeAttribute value ++ "\""

def headingTag (heading : Heading) : String :=
  "<" ++ levelName heading.level ++
    (match heading.id with
     | some id => attr "id" id
     | none => "") ++
    (if heading.classes.isEmpty then ""
     else " class=\"" ++ " ".intercalate (heading.classes.map escapeAttribute) ++ "\"") ++
    String.join (heading.attributes.map fun (name, value) =>
      attr (escapeAttribute name) (value.getD "")) ++ ">"

def alertClass : Option Alert → String
  | none => ""
  | some .note => " class=\"markdown-alert-note\""
  | some .tip => " class=\"markdown-alert-tip\""
  | some .important => " class=\"markdown-alert-important\""
  | some .warning => " class=\"markdown-alert-warning\""
  | some .caution => " class=\"markdown-alert-caution\""

def alignStyle : Option ColumnAlignment → String
  | some .left => " style=\"text-align: left\""
  | some .center => " style=\"text-align: center\""
  | some .right => " style=\"text-align: right\""
  | _ => ""

def language (info : String) : String := String.ofList (info.toList.takeWhile (· != ' '))

def codeTag : Option String → String
  | none => "<pre><code>"
  | some info =>
      if language info = "" then "<pre><code>"
      else "<pre><code class=\"language-" ++ escapeAttribute (language info) ++ "\">"

def titleAttribute (title : String) : String :=
  if title = "" then "" else "\" title=\"" ++ escapeAttribute title

def scheme : LinkKind → String
  | .email => "mailto:"
  | _ => ""

def linkTag (link : Link) : String :=
  "<a href=\"" ++ scheme link.kind ++ escapeAddress link.url ++ titleAttribute link.title ++ "\">"

def listTag : Option Nat → String
  | none => "<ul>\n"
  | some 1 => "<ol>\n"
  | some n => "<ol start=\"" ++ toString n ++ "\">\n"

def cellName (w : Writer) : String := if w.inHead then "th" else "td"

def startTag (w : Writer) : Tag → Writer
  | .htmlBlock => w
  | .paragraph => w.writeLine "<p>"
  | .heading heading => w.writeLine (headingTag heading)
  | .table alignments => { w with alignments := alignments }.write "<table>"
  | .tableHead => { w with inHead := true, column := 0 }.write "<thead><tr>"
  | .tableRow => { w with column := 0 }.write "<tr>"
  | .tableCell => w.write ("<" ++ w.cellName ++ alignStyle w.alignments[w.column]? ++ ">")
  | .blockquote alert => w.writeLine ("<blockquote" ++ alertClass alert ++ ">\n")
  | .codeBlock info => w.writeLine (codeTag info)
  | .list start => w.writeLine (listTag start)
  | .item => w.writeLine "<li>"
  | .definitionList => w.writeLine "<dl>\n"
  | .definitionTitle => w.writeLine "<dt>"
  | .definition => w.writeLine "<dd>"
  | .subscript => w.write "<sub>"
  | .superscript => w.write "<sup>"
  | .emphasis => w.write "<em>"
  | .strong => w.write "<strong>"
  | .strikethrough => w.write "<del>"
  | .link link => w.write (linkTag link)
  | .image image =>
      { w.write ("<img src=\"" ++ escapeAddress image.url ++ "\" alt=\"") with
        alternative := some ⟨0, image.title⟩ }
  | .footnoteDefinition label =>
      let w := w.writeLine ("<div class=\"footnote-definition\" id=\"" ++ escapeAttribute label ++
        "\"><sup class=\"footnote-definition-label\">")
      let (n, w) := w.number label
      w.write (toString n ++ "</sup>")
  | .metadata _ => { w with hidden := true }

def endTag (w : Writer) : Closing → Writer
  | .htmlBlock => w
  | .paragraph => w.write "</p>\n"
  | .heading level => w.write ("</" ++ levelName level ++ ">\n")
  | .table => w.write "</tbody></table>\n"
  | .tableHead => { w.write "</tr></thead><tbody>\n" with inHead := false }
  | .tableRow => w.write "</tr>\n"
  | .tableCell => { w.write ("</" ++ w.cellName ++ ">") with column := w.column + 1 }
  | .blockquote _ => w.write "</blockquote>\n"
  | .codeBlock => w.write "</code></pre>\n"
  | .list true => w.write "</ol>\n"
  | .list false => w.write "</ul>\n"
  | .item => w.write "</li>\n"
  | .definitionList => w.write "</dl>\n"
  | .definitionTitle => w.write "</dt>\n"
  | .definition => w.write "</dd>\n"
  | .emphasis => w.write "</em>"
  | .strong => w.write "</strong>"
  | .strikethrough => w.write "</del>"
  | .superscript => w.write "</sup>"
  | .subscript => w.write "</sub>"
  | .link => w.write "</a>"
  | .image => w
  | .footnoteDefinition => w.write "</div>\n"
  | .metadata _ => { w with hidden := false }

def endImage (w : Writer) (alternative : Alternative) : Writer :=
  { w.write (titleAttribute alternative.title ++ "\" />") with alternative := none }

def alternativeStep (w : Writer) (alternative : Alternative) : Event → Writer
  | .start _ => { w with alternative := some { alternative with depth := alternative.depth + 1 } }
  | .close _ =>
      if alternative.depth = 0 then w.endImage alternative
      else { w with alternative := some { alternative with depth := alternative.depth - 1 } }
  | .text text | .code text | .inlineHtml text =>
      { w.put (escapeAttribute text) with atLineStart := endsLine text }
  | .html _ => w
  | .inlineMath text => (w.write "$").put (escapeAttribute text) |>.write "$"
  | .displayMath text => (w.write "$$").put (escapeAttribute text) |>.write "$$"
  | .softBreak | .hardBreak | .rule => w.write " "
  | .footnoteReference label =>
      let (n, w) := w.number label
      w.write ("[" ++ toString n ++ "]")
  | .task true => w.write "[x]"
  | .task false => w.write "[ ]"

def bodyStep (w : Writer) : Event → Writer
  | .start tag => w.startTag tag
  | .close closing => w.endTag closing
  | .text text =>
      if w.hidden then w else { w.put (escapeBody text) with atLineStart := endsLine text }
  | .code text => w.write ("<code>" ++ escapeBody text ++ "</code>")
  | .inlineMath text =>
      w.write ("<span class=\"math math-inline\">" ++ escapeAttribute text ++ "</span>")
  | .displayMath text =>
      w.write ("<span class=\"math math-display\">" ++ escapeAttribute text ++ "</span>")
  | .html text | .inlineHtml text => w.write text
  | .softBreak => w.write "\n"
  | .hardBreak => w.write "<br />\n"
  | .rule => w.writeLine "<hr />\n"
  | .footnoteReference label =>
      let w := w.write ("<sup class=\"footnote-reference\"><a href=\"#" ++
        escapeAttribute label ++ "\">")
      let (n, w) := w.number label
      w.write (toString n ++ "</a></sup>")
  | .task true => w.write "<input disabled=\"\" type=\"checkbox\" checked=\"\"/>\n"
  | .task false => w.write "<input disabled=\"\" type=\"checkbox\"/>\n"

def step (w : Writer) (event : Event) : Writer :=
  match w.alternative with
  | some alternative => w.alternativeStep alternative event
  | none => w.bodyStep event

def finish (w : Writer) : String :=
  match w.alternative with
  | some alternative => (w.endImage alternative).out
  | none => w.out

end Writer

def ofEvents (events : List Event) : String := (events.foldl Writer.step Writer.start).finish

end LinkPress.Html
