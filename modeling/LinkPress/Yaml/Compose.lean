import LinkPress.Yaml.Node
import LinkPress.Yaml.Scanner

set_option autoImplicit false

/- From tokens to a document. -/
namespace LinkPress.Yaml

/-- `names` gives the anchors their numbers, `anchored` the numbers their nodes, last one first;
    `handles` are those that directives declare. -/
structure Composing where
  tokens : List Token
  handles : List (List Char × List Char)
  names : List (List Char × Nat)
  anchored : List (Nat × Node)

abbrev Compose (α : Type) := StateT Composing Option α

namespace Compose

def next : Compose (Option Token) := return (← get).tokens.head?

def skip : Compose Unit := modify fun s => { s with tokens := s.tokens.drop 1 }

def take? (token : Token) : Compose Bool := do
  if (← next) == some token then
    skip
    return true
  else return false

def expect (token : Token) : Compose Unit := do
  if !(← take? token) then failure

def nextIn (tokens : List Token) : Compose Bool := return (← next).any tokens.contains

def takeAnchor : Compose (Option (List Char)) := do
  match ← next with
  | some (.anchor name) =>
      skip
      return some name
  | _ => return none

def defaultHandles : List (List Char × List Char) :=
  [(['!'], ['!']), (['!', '!'], "tag:yaml.org,2002:".toList)]

def takeTag : Compose (Option (List Char)) := do
  match ← next with
  | some (.tag handle suffix) =>
      skip
      if handle.isEmpty then return some suffix
      else
        match ((← get).handles ++ defaultHandles).find? fun entry => entry.1 == handle with
        | some (_, front) => return some (front ++ suffix)
        | none => failure
  | _ => return none

def properties : Compose (Option (List Char) × Option (List Char)) := do
  match ← takeAnchor with
  | some anchor => return (some anchor, ← takeTag)
  | none =>
      match ← takeTag with
      | some tag => return (← takeAnchor, some tag)
      | none => return (none, none)

def register (anchor : Option (List Char)) : Compose (Option Nat) := do
  match anchor with
  | none => return none
  | some name =>
      let s ← get
      let n := s.names.length
      set { s with names := (name, n) :: s.names.filter (·.1 != name) }
      return some n

def record (anchor : Option Nat) (node : Node) : Compose Node := do
  match anchor with
  | some n => modify fun s => { s with anchored := (n, node) :: s.anchored }
  | none => pure ()
  return node

def reference (name : List Char) : Compose Node := do
  skip
  match (← get).names.find? fun entry => entry.1 == name with
  | some (_, n) => return .reference n
  | none => failure

mutual
/-- A node. Block collections may stand only where `block` holds, and entries without an
    indentation of their own only where `indentless` does. -/
def node (block indentless : Bool) : Nat → Compose Node
  | 0 => failure
  | fuel + 1 => do
      match ← next with
      | some (.reference name) => reference name
      | _ =>
          let (anchor, tag) ← properties
          let number ← register anchor
          record number (← content block indentless (anchor.isSome || tag.isSome) tag fuel)

def content (block indentless named : Bool) (tag : Option (List Char)) : Nat → Compose Node
  | 0 => failure
  | fuel + 1 => do
      match ← next with
      | some (.scalar text style) =>
          skip
          return .scalar text style tag
      | some .flowSequence =>
          skip
          return .sequence (← flowItems true fuel)
      | some .flowMapping =>
          skip
          return .mapping (← flowEntries true fuel)
      | some token =>
          if indentless && token == .blockEntry then return .sequence (← openItems fuel)
          else if block && token == .blockSequence then
            skip
            return .sequence (← blockItems fuel)
          else if block && token == .blockMapping then
            skip
            return .mapping (← blockEntries fuel)
          else if named then return .scalar [] .plain tag
          else failure
      | none => if named then return .scalar [] .plain tag else failure

def blockNode (indentless : Bool) (ends : List Token) : Nat → Compose Node
  | 0 => failure
  | fuel + 1 => do
      if ← nextIn ends then return .empty
      else node true indentless fuel

def blockItems : Nat → Compose (List Node)
  | 0 => failure
  | fuel + 1 => do
      if ← take? .blockEntry then
        let item ← blockNode false [.blockEntry, .blockEnd] fuel
        return item :: (← blockItems fuel)
      else
        expect .blockEnd
        return []

def openItems : Nat → Compose (List Node)
  | 0 => failure
  | fuel + 1 => do
      if ← take? .blockEntry then
        let item ← blockNode false [.blockEntry, .key, .value, .blockEnd] fuel
        return item :: (← openItems fuel)
      else return []

def blockEntries : Nat → Compose (List (Node × Node))
  | 0 => failure
  | fuel + 1 => do
      if ← take? .blockEnd then return []
      else
        expect .key
        let key ← blockNode true [.key, .value, .blockEnd] fuel
        let value ←
          if ← take? .value then blockNode true [.key, .value, .blockEnd] fuel else pure .empty
        return (key, value) :: (← blockEntries fuel)

def flowNode (ends : List Token) : Nat → Compose Node
  | 0 => failure
  | fuel + 1 => do
      if ← nextIn ends then return .empty
      else node false false fuel

def flowItems (first : Bool) : Nat → Compose (List Node)
  | 0 => failure
  | fuel + 1 => do
      if ← take? .flowSequenceEnd then return []
      else
        if !first then expect .flowEntry
        if ← take? .flowSequenceEnd then return []
        else if ← take? .key then
          let key ←
            if ← nextIn [.value, .flowEntry, .flowSequenceEnd] then
              skip
              pure .empty
            else node false false fuel
          let value ←
            if ← take? .value then flowNode [.flowEntry, .flowSequenceEnd] fuel else pure .empty
          return .mapping [(key, value)] :: (← flowItems false fuel)
        else
          let item ← node false false fuel
          return item :: (← flowItems false fuel)

def flowEntries (first : Bool) : Nat → Compose (List (Node × Node))
  | 0 => failure
  | fuel + 1 => do
      if ← take? .flowMappingEnd then return []
      else
        if !first then expect .flowEntry
        if ← take? .flowMappingEnd then return []
        else if ← take? .key then
          let key ← flowNode [.value, .flowEntry, .flowMappingEnd] fuel
          let value ←
            if ← take? .value then flowNode [.flowEntry, .flowMappingEnd] fuel else pure .empty
          return (key, value) :: (← flowEntries false fuel)
        else
          let key ← node false false fuel
          return (key, .empty) :: (← flowEntries false fuel)
end

/-- The directives in front of a document. The version is 1.1 or 1.2 and given once, and so is
    each handle. -/
def directives (versioned : Bool) (handles : List (List Char × List Char)) :
    List Token → Option (List (List Char × List Char) × List Token)
  | .version major minor :: rest =>
      if versioned || major ≠ 1 || !(minor = 1 || minor = 2) then none
      else directives true handles rest
  | .tagDirective handle uri :: rest =>
      if handles.any (·.1 == handle) then none else directives versioned ((handle, uri) :: handles) rest
  | rest => some (handles, rest)

def root (fuel : Nat) (explicit : Bool) : Compose Node := do
  let empty ← nextIn [.documentStart, .documentEnd]
  let empty := empty || (← next).isNone
  let node ← if explicit && empty then pure .empty else node true false fuel
  if (← get).tokens.all (· == .documentEnd) then return node else failure

end Compose

def document? (text : List Char) : Option Document := do
  let tokens ← tokens? text
  if tokens.isEmpty then return ⟨.empty, []⟩
  else
    let (handles, rest) ← Compose.directives false [] tokens
    let explicit := rest.head? == some .documentStart
    if rest.length < tokens.length && !explicit then none
    else
      let rest := if explicit then rest.drop 1 else rest
      let (root, state) ← (Compose.root (4 * tokens.length + 4) explicit).run ⟨rest, handles, [], []⟩
      return ⟨root, state.anchored⟩

end LinkPress.Yaml
