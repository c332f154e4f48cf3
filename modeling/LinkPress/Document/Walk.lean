import LinkPress.Document.Tree

set_option autoImplicit false

/- Visiting a tree from below: children before their parent, siblings in reading order. A visit
   carries a state along and may replace what it visits. -/
namespace LinkPress.Document

variable {State : Type}

mutual
def Node.walk (visit : State → Node → Node × State) (state : State) : Node → Node × State
  | .leaf event => visit state (.leaf event)
  | .element tag closing children =>
      let (children, state) := walk visit state children
      visit state (.element tag closing children)

def walk (visit : State → Node → Node × State) (state : State) : List Node → List Node × State
  | [] => ([], state)
  | node :: rest =>
      let (node, state) := node.walk visit state
      let (rest, state) := walk visit state rest
      (node :: rest, state)
end

abbrev LinkVisit (State : Type) := State → Link → List Node → String × State

def LinkVisit.onNode (visit : LinkVisit State) (state : State) : Node → Node × State
  | .element (.link link) closing children =>
      let (url, state) := visit state link children
      (.element (.link { link with url := url }) closing children, state)
  | node => (node, state)

def walkLinks (visit : LinkVisit State) (state : State) (nodes : List Node) : List Node × State :=
  walk visit.onNode state nodes

def Tag.linkTarget : Tag → List String
  | .link target => [target.url]
  | _ => []

mutual
def Node.linkTargets : Node → List String
  | .leaf _ => []
  | .element tag _ children => linkTargets children ++ tag.linkTarget

def linkTargets : List Node → List String
  | [] => []
  | node :: rest => node.linkTargets ++ linkTargets rest
end

end LinkPress.Document
