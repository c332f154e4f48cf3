import LinkPress.Site.Readers
import LinkPress.Text.Blank

set_option autoImplicit false

/- The block of settings at the head of a page, between two lines of hyphens. -/
namespace LinkPress.Site

structure FrontMatter where
  title : Option String
  description : Option String
  draft : Bool
  shortcuts : Bool
deriving DecidableEq, Repr

namespace FrontMatter

def default : FrontMatter := ⟨none, none, false, true⟩

def isGap (c : Char) : Bool := c == ' ' || c == '\t'

/-- What follows a line end at the head of a text. A carriage return alone ends no line. -/
def afterLine? : List Char → Option (List Char)
  | '\r' :: '\n' :: rest => some rest
  | '\n' :: rest => some rest
  | _ => none

def afterHyphens? : List Char → Option (List Char)
  | '-' :: '-' :: '-' :: rest => some (rest.dropWhile isGap)
  | _ => none

def closing? (text : List Char) : Option (List Char) :=
  match (afterLine? text).bind afterHyphens? with
  | some [] => some []
  | some rest => afterLine? rest
  | none => none

def cut? : List Char → Option (List Char × List Char)
  | [] => none
  | c :: rest =>
      match closing? (c :: rest) with
      | some body => some ([], body)
      | none => (cut? rest).map fun (settings, body) => (c :: settings, body)

def split? (text : List Char) : Option (List Char × List Char) :=
  ((afterHyphens? text).bind afterLine?).bind cut?

def decode? (document : Yaml.Document) : Option FrontMatter := do
  let fields ← document.fields? document.root
  return ⟨← fields.getD "title" document.optionalText? none,
    ← fields.getD "description" document.optionalText? none,
    ← fields.getD "draft" document.boolean? false,
    ← fields.getD "shortcuts" document.boolean? true⟩

variable [Readers]

def ofChars (settings : List Char) : Except String FrontMatter :=
  if (Text.trim settings).isEmpty then .ok default else Readers.settings .page decode? settings

def read (text : String) : Except String (FrontMatter × String) :=
  match split? text.toList with
  | none => .ok (default, text)
  | some (settings, body) => (ofChars settings).map fun found => (found, String.ofList body)

end FrontMatter
end LinkPress.Site
