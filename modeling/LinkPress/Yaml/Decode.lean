import LinkPress.Yaml.Compose

set_option autoImplicit false

/- Reading values out of a document. -/
namespace LinkPress.Yaml

def Document.text? (document : Document) (node : Node) : Option String :=
  match document.follow node with
  | .scalar text _ _ => some (String.ofList text)
  | _ => none

def isNull (text : List Char) : Bool :=
  ["null", "Null", "NULL", "~"].any fun name => text == name.toList

def coreTag (name : String) : List Char := "tag:yaml.org,2002:".toList ++ name.toList

/-- A text that may be absent: empty or null. The outer `none` is a failure. -/
def Document.optionalText? (document : Document) (node : Node) : Option (Option String) :=
  match document.follow node with
  | .scalar text .plain none =>
      if text.isEmpty || isNull text then some none else some (some (String.ofList text))
  | .scalar text .plain (some tag) =>
      if tag = coreTag "null" then (if isNull text then some none else none)
      else some (some (String.ofList text))
  | node => (document.text? node).map some

def boolean? (text : List Char) : Option Bool :=
  if ["true", "True", "TRUE"].any fun name => text == name.toList then some true
  else if ["false", "False", "FALSE"].any fun name => text == name.toList then some false
  else none

def Document.boolean? (document : Document) (node : Node) : Option Bool :=
  match document.follow node with
  | .scalar text .plain _ => Yaml.boolean? text
  | .scalar text .literal tag => if tag = some (coreTag "bool") then Yaml.boolean? text else none
  | _ => none

def Document.items? (document : Document) (node : Node) : Option (List Node) :=
  match document.follow node with
  | .sequence items => some items
  | .scalar [] .plain _ => some []
  | _ => none

abbrev Fields := List (String × Node)

def Document.fields? (document : Document) (node : Node) : Option Fields :=
  match document.follow node with
  | .mapping entries => entries.mapM fun (key, value) => (document.text? key).map fun key => (key, value)
  | .scalar [] .plain _ => some []
  | _ => none

def Fields.get? (fields : Fields) (name : String) : Option (Option Node) :=
  match fields.filter fun field => field.1 == name with
  | [] => some none
  | [(_, node)] => some (some node)
  | _ => none

def Fields.getD {α : Type} (fields : Fields) (name : String) (read : Node → Option α)
    (absent : α) : Option α := do
  match ← fields.get? name with
  | some node => read node
  | none => return absent

def Fields.require {α : Type} (fields : Fields) (name : String) (read : Node → Option α) :
    Option α := do
  match ← fields.get? name with
  | some node => read node
  | none => failure

end LinkPress.Yaml
