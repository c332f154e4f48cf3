import LinkPress.Text.Split
import LinkPress.Url.Percent

set_option autoImplicit false

/- Web addresses: a host, a path as a list of encoded segments, and an optional query. A last
   segment that is empty stands for the slash at the end of the path. -/
namespace LinkPress.Url

structure Address where
  host : String
  path : List (List Char)
  query : Option (List Char)
deriving DecidableEq, Repr

namespace Address

def under (host : String) (path : List String) : Address := ⟨host, path.map String.toList, none⟩

def render (address : Address) : String :=
  "https://" ++ address.host ++ "/" ++ String.ofList (Text.join ['/'] address.path) ++
    (match address.query with
     | none => ""
     | some query => "?" ++ String.ofList query)

def isDropped (c : Char) : Bool := c == '\t' || c == '\n' || c == '\r'

def encodeSegment (segment : List Char) : List Char :=
  encode keptInSegment (segment.filter fun c => !isDropped c)

/-- A segment that names a drive, such as `c:`, is not removed by a step upwards. -/
def isDrive : List Char → Bool
  | [letter, mark] => letter.isAlpha && (mark == ':' || mark == '|')
  | _ => false

def putSegment (path : List (List Char)) (segment : List Char) : List (List Char) :=
  match path with
  | [[]] => [segment]
  | path => path ++ [segment]

def parent (path : List (List Char)) : List (List Char) :=
  match path.getLast? with
  | none => path
  | some last => if isDrive last then path ++ [[]] else path.dropLast ++ [[]]

/-- Adds one segment. Segments written as dots are skipped; one that has become dots after the
    dropped characters moves as dots do. -/
def addSegment (path : List (List Char)) (segment : List Char) : List (List Char) :=
  if segment = ['.'] ∨ segment = ['.', '.'] then path
  else
    match encodeSegment segment with
    | ['.'] => putSegment path []
    | ['.', '.'] => parent path
    | encoded => putSegment path encoded

def withoutTrailing (path : List (List Char)) : List (List Char) :=
  match path with
  | [_] => path
  | path => if path.getLast? = some [] then path.dropLast else path

def extend (address : Address) (segments : List (List Char)) : Address :=
  if segments.isEmpty then address
  else { address with path := segments.foldl addSegment (withoutTrailing address.path) }

def withPair (address : Address) (key value : List Char) : Address :=
  { address with query := some (encodeForm key ++ ['='] ++ encodeForm value) }

end Address
end LinkPress.Url
