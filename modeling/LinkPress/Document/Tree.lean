import LinkPress.Document.Event

set_option autoImplicit false

/- A document as a tree. `ofEvents` folds a sequence of events into a tree and `toEvents` writes
   the tree out again. -/
namespace LinkPress.Document

inductive Node where
  /-- `closing` is `none` when the events ended before the element was closed. -/
  | element (tag : Tag) (closing : Option Closing) (children : List Node)
  | leaf (event : Event)
deriving Repr

def Node.plainText? : Node → Option String
  | .leaf (.text text) => some text
  | _ => none

def closeEvents : Option Closing → List Event
  | none => []
  | some closing => [.close closing]

mutual
def Node.toEvents : Node → List Event
  | .leaf event => [event]
  | .element tag closing children => .start tag :: (toEvents children ++ closeEvents closing)

def toEvents : List Node → List Event
  | [] => []
  | node :: rest => node.toEvents ++ toEvents rest
end

def leafText : Event → String
  | .text text => text
  | .code text => text
  | _ => ""

mutual
def Node.textContent : Node → String
  | .leaf event => leafText event
  | .element _ _ children => textContent children

def textContent : List Node → String
  | [] => ""
  | node :: rest => node.textContent ++ textContent rest
end

/-- Siblings are kept last one first; a text joins a text before it. -/
def push : List Node → Node → List Node
  | .leaf (.text before) :: siblings, .leaf (.text after) => .leaf (.text (before ++ after)) :: siblings
  | siblings, node => node :: siblings

structure Frame where
  tag : Tag
  children : List Node

/-- `root` holds the finished nodes, last one first, `frames` the open elements, innermost first. -/
structure Folding where
  root : List Node
  frames : List Frame

namespace Folding

def empty : Folding := ⟨[], []⟩

def add (state : Folding) (node : Node) : Folding :=
  match state.frames with
  | [] => ⟨push state.root node, []⟩
  | frame :: outer => ⟨state.root, ⟨frame.tag, push frame.children node⟩ :: outer⟩

def close (state : Folding) (closing : Closing) : Folding :=
  match state.frames with
  | [] => ⟨.leaf (.close closing) :: state.root, []⟩
  | frame :: outer =>
      add ⟨state.root, outer⟩ (.element frame.tag (some closing) frame.children.reverse)

def step (state : Folding) : Event → Folding
  | .start tag => ⟨state.root, ⟨tag, []⟩ :: state.frames⟩
  | .close closing => state.close closing
  | event => state.add (.leaf event)

def finish (root : List Node) : List Frame → List Node
  | [] => root.reverse
  | [frame] => (push root (.element frame.tag none frame.children.reverse)).reverse
  | frame :: outer :: rest =>
      finish root (⟨outer.tag, push outer.children (.element frame.tag none frame.children.reverse)⟩ :: rest)
termination_by frames => frames.length

end Folding

def ofEvents (events : List Event) : List Node :=
  let state := events.foldl Folding.step Folding.empty
  Folding.finish state.root state.frames

mutual
/-- Elements keep the closing that was read, so equal trees are trees with equal events. -/
def Node.same : Node → Node → Bool
  | .leaf a, .leaf b => a = b
  | .element tag closing children, .element tag' closing' children' =>
      tag = tag' && closing = closing' && same children children'
  | _, _ => false

def same : List Node → List Node → Bool
  | [], [] => true
  | a :: rest, b :: rest' => a.same b && same rest rest'
  | _, _ => false
end

end LinkPress.Document
