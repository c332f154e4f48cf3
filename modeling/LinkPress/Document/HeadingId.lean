import LinkPress.Document.Walk
import LinkPress.Text.Alphanumeric
import LinkPress.Text.Cluster
import LinkPress.Text.Lowercase

set_option autoImplicit false

/- Ids for headings that have none, made from their text. -/
namespace LinkPress.Document

/-- What a sign of the heading contributes: a hyphen for a separator, itself if it starts with a
    letter or a digit, else nothing. -/
def slugPart (cluster : List Char) : List Char :=
  match cluster with
  | [c] =>
      if c == ' ' || c == '_' || c == '\t' || c == '\n' || c == '-' then ['-']
      else if Text.isAlphanumeric c then [c] else []
  | c :: _ => if Text.isAlphanumeric c then cluster else []
  | [] => []

def squeeze : List Char → List Char
  | [] => []
  | c :: rest => if c = '-' && rest.head? = some '-' then squeeze rest else c :: squeeze rest

def trimHyphens (text : List Char) : List Char :=
  ((text.dropWhile (· == '-')).reverse.dropWhile (· == '-')).reverse

def slug (text : String) : String :=
  String.ofList (trimHyphens (squeeze ((Text.clusters (Text.lowercase text.toList)).flatMap slugPart)))

def candidate (base : String) : Nat → String
  | 0 => base
  | n + 1 => base ++ "-" ++ toString (n + 1)

/-- The first candidate that is not taken. Among one more candidates than there are taken ids,
    one is free. -/
def freeId (taken : List String) (base : String) : String :=
  match (List.range (taken.length + 1)).find? fun n => !taken.contains (candidate base n) with
  | some n => candidate base n
  | none => base

def identify (taken : List String) (heading : Heading) (text : String) : Heading × List String :=
  match heading.id with
  | some id => (heading, id :: taken)
  | none =>
      let base := slug text
      if base = "" then (heading, taken)
      else
        let id := freeId taken base
        ({ heading with id := some id }, id :: taken)

def identifyVisit (taken : List String) : Node → Node × List String
  | .element (.heading heading) closing children =>
      let (heading, taken) := identify taken heading (textContent children)
      (.element (.heading heading) closing children, taken)
  | node => (node, taken)

def withHeadingIds (nodes : List Node) : List Node := (walk identifyVisit [] nodes).1

end LinkPress.Document
