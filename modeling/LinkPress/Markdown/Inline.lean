import LinkPress.Markdown.Emphasis
import LinkPress.Markdown.Label
import LinkPress.Markdown.LineStart
import LinkPress.Markdown.Options
import LinkPress.Markdown.RawHtml

set_option autoImplicit false

/- The text of a paragraph, a heading or a cell: code, links, images, raw HTML, line breaks and
   marks, read from left to right. -/
namespace LinkPress.Markdown

open LinkPress.Document (Link LinkKind Node)

structure References where
  options : ReaderOptions
  definitions : List Definition
  notes : List (List Char)

/-- The definition of a label. What references add to a document is limited: `budget` is how many bytes
    of addresses and titles may still be added, and what is left of it is answered too. -/
def References.find? (references : References) (budget : Nat) (label : List Char) : Option (Definition × Nat) :=
  let key := labelKey label
  if budget = 0 then none
  else (references.definitions.find? fun definition => definition.key == key).map fun definition =>
    (definition, budget - Text.byteCount definition.url - Text.byteCount definition.title)

def References.hasNote (references : References) (label : List Char) : Bool :=
  references.notes.contains (labelKey label)

structure Bracket where
  image : Bool
  /-- The bracket of a link is disabled once a link has been read inside of it. -/
  enabled : Bool
  before : List Piece
  source : List Char

/-- `pieces` are those behind the last open bracket, last one first, and `previous` is the
    character in front of the text that is left. `dead` has the places, counted from the end, of
    closing brackets that have been tried as the end of a reference. -/
structure Scan where
  pieces : List Piece
  brackets : List Bracket
  dead : List Nat
  previous : Option Char
  budget : Nat

namespace Scan

def start (budget : Nat) : Scan := ⟨[], [], [], none, budget⟩

def add (scan : Scan) (piece : Piece) (last : Char) : Scan :=
  { scan with pieces := piece :: scan.pieces, previous := some last }

def addText (scan : Scan) (text : List Char) : Scan :=
  { scan with pieces := .text text :: scan.pieces, previous := text.getLast?.or scan.previous }

def addNode (scan : Scan) (node : Node) (last : Char) : Scan := scan.add (.node node) last

def bracketText (image : Bool) : List Char := if image then ['!', '['] else ['[']

def openBracket (scan : Scan) (image : Bool) (source : List Char) : Scan :=
  { scan with
    pieces := []
    brackets := ⟨image, true, scan.pieces, source⟩ :: scan.brackets
    previous := some '[' }

def withBrackets (pieces : List Piece) : List Bracket → List Piece
  | [] => pieces
  | bracket :: outer =>
      withBrackets (pieces ++ .text (bracketText bracket.image) :: bracket.before) outer

inductive Reference where
  | link (label : List Char)
  | note (label : List Char)

def reference? (options : ReaderOptions) (text : List Char) : Option (Reference × List Char) :=
  let note := match text with
    | '^' :: rest => if options.footnotes && rest.head? != some ']' then label? 0 rest else none
    | _ => none
  match note with
  | some (label, rest) => some (.note label, rest)
  | none => (label? 1 text).map fun (label, rest) => (.link label, rest)

def disable (bracket : Bracket) : Bracket := { bracket with enabled := false }

def closeLink (scan : Scan) (bracket : Bracket) (outer : List Bracket) (link : Link) (last : Char) :
    Scan :=
  let children := pairMarks scan.pieces.reverse
  let node : Node :=
    if bracket.image then .element (.image link) (some .image) children
    else .element (.link link) (some .link) children
  { scan with
    pieces := .node node :: bracket.before
    brackets := if bracket.image then outer else outer.map disable
    previous := some last }

def closeNote (scan : Scan) (bracket : Bracket) (outer : List Bracket) (label : List Char) : Scan :=
  let before := if bracket.image then .text ['!'] :: bracket.before else bracket.before
  let note : Piece := .node (.leaf (.footnoteReference (String.ofList label)))
  { scan with pieces := withBrackets (note :: before) outer, brackets := [], previous := some ']' }

def referenceForm (options : ReaderOptions) (rest : List Char) :
    LinkKind × Option (List Char) × List Char :=
  match rest with
  | '[' :: ']' :: after => (.collapsed, none, after)
  | '[' :: text =>
      match reference? options text with
      | some (.link label, after) => (.reference, some label, after)
      | _ => (.shortcut, none, rest)
  | _ => (.shortcut, none, rest)

def closeBracket (references : References) (scan : Scan) (rest : List Char) : Scan × List Char :=
  match scan.brackets with
  | [] => (scan.addText [']'], rest)
  | bracket :: outer =>
      let asText (scan : Scan) : Scan × List Char :=
        ({ scan with pieces := withBrackets scan.pieces [bracket], brackets := outer }.addText [']'],
          rest)
      let inlineLink := match rest with
        | '(' :: text => inlineLink? text
        | _ => none
      if !bracket.image && !bracket.enabled then asText scan
      else
        match inlineLink with
        | some (url, title, after) =>
            let link : Link := ⟨.inline, String.ofList url, String.ofList title, ""⟩
            (scan.closeLink bracket outer link ')', after)
        | none =>
            let (kind, given, after) := referenceForm references.options rest
            let scan :=
              if given.isSome then { scan with dead := after.length :: scan.dead } else scan
            if given.isNone && scan.dead.contains rest.length then asText scan
            else
              let found := match given with
                | some label => some (Reference.link label, after)
                | none =>
                    match reference? references.options bracket.source with
                    | some (reference, behind) =>
                        if behind.length = rest.length then some (reference, after) else none
                    | none => none
              match found with
              | some (.link label, after) =>
                  match references.find? scan.budget label with
                  | some (definition, budget) =>
                      let link : Link := ⟨kind, String.ofList definition.url,
                        String.ofList definition.title, String.ofList label⟩
                      ({ scan with budget }.closeLink bracket outer link ']', after)
                  | none => asText scan
              | some (.note label, _) =>
                  if references.hasNote label then (scan.closeNote bracket outer label, rest)
                  else asText scan
              | none => asText scan

def untilTicks (count : Nat) : Nat → List Char → List Char → Option (List Char × List Char)
  | 0, _, _ => none
  | _, _, [] => none
  | fuel + 1, read, c :: rest =>
      if c = backtick then
        let run := (c :: rest).takeWhile (· == backtick)
        let after := rest.dropWhile (· == backtick)
        if run.length = count then some (read.reverse, after)
        else untilTicks count fuel (run ++ read) after
      else untilTicks count fuel (c :: read) rest

def joinLines : List Char → List Char
  | [] => []
  | '\r' :: '\n' :: rest => ' ' :: joinLines rest
  | c :: rest => (if isEndChar c then ' ' else c) :: joinLines rest

def codeText (text : List Char) : List Char :=
  let text := joinLines text
  if text.head? = some ' ' && text.getLast? = some ' ' && !text.all (· == ' ') then
    (text.drop 1).dropLast
  else text

def ticks (scan : Scan) (count : Nat) (rest : List Char) : Scan × List Char :=
  match if count = 0 then none else untilTicks count rest.length [] rest with
  | some (code, after) => (scan.addNode (.leaf (.code (String.ofList (codeText code)))) backtick, after)
  | none => (scan.addText (List.replicate count backtick), rest)

def lineEnd (scan : Scan) (piece : Piece) (rest : List Char) : Scan × List Char :=
  (scan.add piece '\n', rest.dropWhile fun c => c == ' ' || c == '\t')

def blanks (scan : Scan) (run rest : List Char) : Scan × List Char :=
  if rest.isEmpty then (scan, [])
  else
    match afterEnd? rest with
    | some next => scan.lineEnd (.node (.leaf (if 2 ≤ run.length then .hardBreak else .softBreak))) next
    | none => (scan.addText run, rest)

def backslash (scan : Scan) (rest : List Char) : Scan × List Char :=
  match afterEnd? rest with
  | some next => scan.lineEnd .backslashBreak next
  | none =>
      match rest with
      | [] => (scan.addText ['\\'], [])
      | c :: after =>
          if c = backtick then
            let count := (after.takeWhile (· == backtick)).length
            (scan.addText [backtick]).ticks count (after.drop count)
          else if Text.isAsciiPunctuation c then (scan.addText [c], after)
          else (scan.addText ['\\'], rest)

def pointedLink? (text : List Char) : Option (LinkKind × List Char × List Char) :=
  let scheme := text.takeWhile (· != ':')
  let isSchemeChar (c : Char) := c.isAlphanum || c == '.' || c == '-' || c == '+'
  let address := text.takeWhile fun c => c != '>' && c != '<' && 0x20 < c.toNat
  if (text.head?.any Char.isAlpha) && scheme.all isSchemeChar && 2 ≤ scheme.length &&
      scheme.length ≤ 32 && scheme.length < address.length then
    match text.drop address.length with
    | '>' :: after => some (.autolink, address, after)
    | _ => none
  else none

def isMailboxChar (c : Char) : Bool :=
  c.isAlphanum || ".!#$%&'*+/=?^_\x60\x7b|\x7d~-".toList.contains c

def isHostLabel (label : List Char) : Bool :=
  1 ≤ label.length && label.length ≤ 63 && label.all (fun c => c.isAlphanum || c == '-') &&
    label.head? != some '-' && label.getLast? != some '-'

def pointedMailbox? (text : List Char) : Option (LinkKind × List Char × List Char) :=
  let mailbox := text.takeWhile isMailboxChar
  match text.drop mailbox.length with
  | '@' :: behind =>
      let host := behind.takeWhile fun c => c.isAlphanum || c == '-' || c == '.'
      match behind.drop host.length with
      | '>' :: after =>
          if !mailbox.isEmpty && (Text.split '.' host).all isHostLabel then
            some (.email, mailbox ++ '@' :: host, after)
          else none
      | _ => none
  | _ => none

def angle (scan : Scan) (rest : List Char) : Scan × List Char :=
  match (pointedLink? rest).or (pointedMailbox? rest) with
  | some (kind, address, after) =>
      let link : Link := ⟨kind, String.ofList address, "", ""⟩
      (scan.addNode (.element (.link link) (some .link) [textNode address]) '>', after)
  | none =>
      match inlineHtml? rest with
      | some after =>
          let html := '<' :: rest.take (rest.length - after.length)
          (scan.addNode (.leaf (.inlineHtml (String.ofList html))) '>', after)
      | none => (scan.addText ['<'], rest)

def marks (options : ReaderOptions) (scan : Scan) (mark : Char) (rest : List Char) :
    Scan × List Char :=
  let count := (rest.takeWhile (· == mark)).length + 1
  let after := rest.drop (count - 1)
  let opens := canOpen mark count scan.previous after.head?
  let closes := canClose mark count scan.previous after.head?
  if (opens || closes) && (mark != '~' || (options.strikethrough && count ≤ 2)) then
    (scan.add (.run mark count opens closes) mark, after)
  else (scan.addText (List.replicate count mark), after)

def dashes (count : Nat) : List Char :=
  let em (n : Nat) := List.replicate n '—'
  let en (n : Nat) := List.replicate n '–'
  match count % 6 with
  | 0 => em (count / 3)
  | 3 => em (count / 3)
  | 2 => en (count / 2)
  | 4 => en (count / 2)
  | 1 => em (count / 3 - 1) ++ en 2
  | _ => em (count / 3) ++ en 1

def smart (scan : Scan) (c : Char) (rest : List Char) : Scan × List Char :=
  if c = '.' then
    match rest with
    | '.' :: '.' :: after => (scan.add (.text ['…']) '.', after)
    | _ => (scan.addText ['.'], rest)
  else if c = '-' then
    let more := (rest.takeWhile (· == '-')).length
    if more = 0 then (scan.addText ['-'], rest)
    else (scan.add (.text (dashes (more + 1))) '-', rest.drop more)
  else
    let opens := canOpen c 1 scan.previous rest.head?
    let closes := canClose c 1 scan.previous rest.head?
    (scan.add (.quote c opens closes) c, rest)

def isSmart (c : Char) : Bool := c == '.' || c == '-' || c == '\'' || c == '"'

def isPlain (c : Char) : Bool := c.isAlphanum || 128 ≤ c.toNat

def step (references : References) (scan : Scan) (c : Char) (rest : List Char) : Scan × List Char :=
  if isPlain c then
    let run := c :: rest.takeWhile isPlain
    (scan.addText run, rest.dropWhile isPlain)
  else if isGap c then scan.blanks (c :: rest.takeWhile isGap) (rest.dropWhile isGap)
  else if isEndChar c then
    scan.lineEnd (.node (.leaf .softBreak)) ((afterEnd? (c :: rest)).getD rest)
  else if c = '\\' then scan.backslash rest
  else if c = backtick then
    let count := (rest.takeWhile (· == backtick)).length + 1
    scan.ticks count (rest.drop (count - 1))
  else if c = '<' then scan.angle rest
  else if c = '&' then
    match entity? rest with
    | some (text, after) => (scan.add (.text text) ';', after)
    | none => (scan.addText ['&'], rest)
  else if c = '!' && rest.head? == some '[' then (scan.openBracket true (rest.drop 1), rest.drop 1)
  else if c = '[' then (scan.openBracket false rest, rest)
  else if c = ']' then scan.closeBracket references rest
  else if c = '*' || c = '_' || c = '~' then scan.marks references.options c rest
  else if references.options.smartPunctuation && isSmart c then scan.smart c rest
  else (scan.addText [c], rest)

/-- Each step takes at least one character, so `fuel` counts the characters. -/
def run (references : References) : Nat → Scan → List Char → Scan
  | 0, scan, _ => scan
  | _, scan, [] => scan
  | fuel + 1, scan, c :: rest =>
      let next := scan.step references c rest
      run references fuel next.1 next.2

end Scan

abbrev Reading := StateM Nat

def inlineNodes (references : References) (text : List Char) : Reading (List Node) := fun budget =>
  let scan := Scan.run references text.length (.start budget) text
  (pairMarks (Scan.withBrackets scan.pieces scan.brackets).reverse, scan.budget)

end LinkPress.Markdown
