import LinkPress.Yaml.Token

set_option autoImplicit false

/- The content of a YAML document. A reference stands for the node whose anchor it names, by number:
   a node may be inside of itself that way. -/
namespace LinkPress.Yaml

inductive Node where
  | scalar (text : List Char) (style : ScalarStyle) (tag : Option (List Char))
  | sequence (items : List Node)
  | mapping (entries : List (Node × Node))
  | reference (anchor : Nat)
deriving Repr

def Node.empty : Node := .scalar [] .plain none

/-- The last node of a number is the one that counts. -/
structure Document where
  root : Node
  anchored : List (Nat × Node)

def Document.follow (document : Document) : Node → Node
  | .reference anchor =>
      match document.anchored.find? fun entry => entry.1 == anchor with
      | some (_, node) => node
      | none => .empty
  | node => node

end LinkPress.Yaml
