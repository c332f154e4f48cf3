import LinkPress.Document.Tree
import LinkPress.Text.Blank
import LinkPress.Text.Punctuation

set_option autoImplicit false

/- Runs of emphasis marks, and quotation marks: which of them open and close, and the nodes that a
   sequence of pieces stands for once the marks are paired. -/
namespace LinkPress.Markdown

open LinkPress.Document

inductive Piece where
  | node (node : Node)
  | run (mark : Char) (count : Nat) (opens closes : Bool)
  | quote (mark : Char) (opens closes : Bool)
  | backslashBreak

def textNode (text : List Char) : Node := .leaf (.text (String.ofList text))

def Piece.text (text : List Char) : Piece := .node (textNode text)

def canOpen (mark : Char) (count : Nat) (before after : Option Char) : Bool :=
  match after, before with
  | none, _ => false
  | some next, none => !Text.isBlank next
  | some next, some previous =>
      !Text.isBlank next &&
        ((mark == '*' && !Text.isPunctuation next) || (mark == '~' && 1 < count) ||
          (mark == '~' && previous == '~' && !Text.isPunctuation next) ||
          Text.isBlank previous ||
          (Text.isPunctuation previous &&
            (mark != '\'' || !(previous == ']' || previous == ')'))))

def canClose (mark : Char) (count : Nat) (before after : Option Char) : Bool :=
  match before, after with
  | none, _ => false
  | some previous, none => !Text.isBlank previous
  | some previous, some next =>
      !Text.isBlank previous &&
        (((mark == '*' || (mark == '~' && 1 < count)) && !Text.isPunctuation previous) ||
          (mark == '~' && previous == '~') || Text.isBlank next || Text.isPunctuation next)

def quoteCloses : List Piece → Bool
  | [] => false
  | .quote mark opens closes :: rest =>
      if mark = '\'' then closes || (!opens && quoteCloses rest) else quoteCloses rest
  | _ :: rest => quoteCloses rest

def curl (single double : Bool) : List Piece → List Piece
  | [] => []
  | .quote mark opens closes :: rest =>
      if mark = '\'' then
        if single && closes then .text ['’'] :: curl false double rest
        else if opens then .text [if quoteCloses rest then '‘' else '’'] :: curl true double rest
        else .text ['’'] :: curl single double rest
      else if closes && double then .text ['”'] :: curl single false rest
      else .text ['“'] :: curl single (double || opens) rest
  | piece :: rest => piece :: curl single double rest

/-- A backslash at the very end breaks no line if marks stand before it. -/
def settleBreaks (marks : Bool) : List Piece → List Piece
  | [] => []
  | [.backslashBreak] => [if marks then .text ['\\'] else .node (.leaf .hardBreak)]
  | .backslashBreak :: rest => .node (.leaf .hardBreak) :: settleBreaks marks rest
  | .run mark count opens closes :: rest => .run mark count opens closes :: settleBreaks true rest
  | .quote mark opens closes :: rest => .quote mark opens closes :: settleBreaks true rest
  | piece :: rest => piece :: settleBreaks marks rest

structure Opener where
  mark : Char
  count : Nat
  length : Nat
  both : Bool
  inside : List Node

def pushAll (before after : List Node) : List Node := after.foldl push before

def Opener.asText (opener : Opener) (before : List Node) : List Node :=
  pushAll (push before (textNode (List.replicate opener.count opener.mark))) opener.inside.reverse

def Opener.accepts (opener : Opener) (mark : Char) (length : Nat) (both : Bool) : Bool :=
  opener.mark == mark && (mark != '~' || opener.length == length) &&
    ((!both && !opener.both) || (length + opener.length) % 3 != 0 || length % 3 == 0)

/-- `base` holds the nodes before the first opener, last one first, and `openers` the open runs,
    innermost first. A run of tildes matches none of the outermost `floor` openers. -/
structure Pairing where
  base : List Node
  openers : List Opener
  floor : Nat

namespace Pairing

def add (state : Pairing) (node : Node) : Pairing :=
  match state.openers with
  | [] => { state with base := push state.base node }
  | opener :: outer =>
      { state with openers := { opener with inside := push opener.inside node } :: outer }

def emphasize (mark : Char) (strong : Bool) (children : List Node) : Node :=
  if mark = '~' then .element .strikethrough (some .strikethrough) children
  else if strong then .element .strong (some .strong) children
  else .element .emphasis (some .emphasis) children

def wrap (mark : Char) : Nat → List Node → List Node
  | 0, nodes => nodes
  | 1, nodes => [emphasize mark false nodes]
  | n + 2, nodes => wrap mark n [emphasize mark true nodes]

def findOpener (accepts : Opener → Bool) : List Opener → Option (List Opener × Opener × List Opener)
  | [] => none
  | opener :: outer =>
      if accepts opener then some ([], opener, outer)
      else (findOpener accepts outer).map fun (inner, found, outer) => (opener :: inner, found, outer)

/-- Pairs a closing run with openers until its marks or the openers are used up, and answers how
    many marks are left. -/
def close (mark : Char) (length : Nat) (both : Bool) : Nat → Nat → Pairing → Nat × Pairing
  | 0, count, state => (count, state)
  | _, 0, state => (0, state)
  | fuel + 1, count, state =>
      let floor := if mark = '~' then state.floor else 0
      let reachable := state.openers.take (state.openers.length - floor)
      match findOpener (fun opener => opener.accepts mark length both) reachable with
      | none =>
          (count, if mark = '~' then { state with floor := state.openers.length } else state)
      | some (inner, opener, _) =>
          let outer := state.openers.drop (inner.length + 1)
          let inside := inner.foldr Opener.asText opener.inside
          let used := min count opener.count
          let wrapped := wrap mark used inside.reverse
          let state : Pairing := ⟨state.base, outer, min state.floor outer.length⟩
          let state :=
            if used < opener.count then
              { state with
                openers := { opener with count := opener.count - used, inside := wrapped } :: outer }
            else wrapped.foldl add state
          close mark length both fuel (count - used) state

def step (state : Pairing) : Piece → Pairing
  | .node node => state.add node
  | .run mark count opens closes =>
      let both := opens && closes
      let (left, state) := if closes then close mark count both count count state else (count, state)
      if left = 0 then state
      else if opens then { state with openers := ⟨mark, left, count, both, []⟩ :: state.openers }
      else state.add (textNode (List.replicate left mark))
  | .quote mark _ _ => state.add (textNode [mark])
  | .backslashBreak => state.add (.leaf .hardBreak)

def finish (state : Pairing) : List Node := (state.openers.foldr Opener.asText state.base).reverse

end Pairing

def pairMarks (pieces : List Piece) : List Node :=
  ((curl false false (settleBreaks false pieces)).foldl Pairing.step ⟨[], [], 0⟩).finish

end LinkPress.Markdown
