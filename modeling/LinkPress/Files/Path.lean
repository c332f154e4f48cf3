import LinkPress.Text.Split

set_option autoImplicit false

/- Paths: names with slashes between them. -/
namespace LinkPress.Files.Path

def isAbsolute (path : List Char) : Bool := path.head? == some '/'

def trimBack : List Char → List Char
  | [] => []
  | ['/'] => ['/']
  | '/' :: rest => trimBack rest
  | '.' :: '/' :: rest => if rest.isEmpty then ['/'] else trimBack rest
  | back => back

def trim (path : List Char) : List Char := (trimBack path.reverse).reverse

def lastSegment (path : List Char) : List Char :=
  (path.reverse.takeWhile (· != '/')).reverse

def fileName? (path : List Char) : Option (List Char) :=
  let name := lastSegment (trim path)
  if name.isEmpty || name == ['.'] || name == ['.', '.'] then none else some name

def splitName (name : List Char) : List Char × Option (List Char) :=
  let back := name.reverse
  match back.dropWhile (· != '.') with
  | _ :: front => if front.isEmpty then (name, none) else (front.reverse, some (back.takeWhile (· != '.')).reverse)
  | [] => (name, none)

def stem? (path : List Char) : Option (List Char) := (fileName? path).map fun name => (splitName name).1

def extension? (path : List Char) : Option (List Char) :=
  (fileName? path).bind fun name => (splitName name).2

def setExtension (extension path : List Char) : List Char :=
  match fileName? path with
  | none => path
  | some name =>
      let path := trim path
      path.take (path.length - name.length) ++ (splitName name).1 ++ '.' :: extension

/-- A path with another extension. The old one is cut off from the end of the path as it is
    written, so a name that it leaves as two dots stays as it is. -/
def withExtension (extension path : List Char) : List Char :=
  match extension? path with
  | none => setExtension extension path
  | some old => setExtension extension (path.take (path.length - old.length))

def parent? (path : List Char) : Option (List Char) :=
  let path := trim path
  if path.isEmpty || path == ['/'] then none
  else some (trim (path.take (path.length - (lastSegment path).length)))

def join (base path : List Char) : List Char :=
  if isAbsolute path || base.isEmpty then path
  else if base.getLast? = some '/' then base ++ path
  else base ++ '/' :: path

def steps (path : List Char) : List (List Char) := Text.parts '/' path

end LinkPress.Files.Path
