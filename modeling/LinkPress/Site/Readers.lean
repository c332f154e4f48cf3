import LinkPress.Pattern.Reader
import LinkPress.Yaml.Decode

set_option autoImplicit false

/- What a site asks of the readers of settings and patterns. They say why they refuse a text, and what
   they say is passed on as it is. -/
namespace LinkPress.Site

inductive Settings where
  | page
  | site
deriving DecidableEq, Repr

class Readers where
  document? : List Char → Option Yaml.Document
  /-- What is said of a text that does not hold such settings. -/
  complaint : Settings → List Char → String
  pattern : String → Except String (String → Bool)

def Readers.settings [Readers] {α : Type} (kind : Settings) (decode : Yaml.Document → Option α)
    (text : List Char) : Except String α :=
  match (document? text).bind decode with
  | some found => .ok found
  | none => .error (complaint kind text)

instance standardReaders : Readers where
  document? := Yaml.document?
  complaint
    | .page, _ => "no settings of a page"
    | .site, _ => "no settings of a site"
  pattern text :=
    match Pattern.read text with
    | .ok pattern => .ok pattern.isMatch
    | .error fault => .error fault.message

end LinkPress.Site
