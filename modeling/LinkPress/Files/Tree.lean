import LinkPress.Files.Entry

set_option autoImplicit false

/- Files and folders from the root on, seen from the folder that a command works in. Around the root is
   the root itself. -/
namespace LinkPress.Files

inductive Fault where
  | notFound
  | exists
  | notFolder
  | isFolder
  | notText
  | tooLong
  | noPath
deriving DecidableEq, Repr

def Fault.message : Fault → String
  | .notFound => "No such file or directory (os error 2)"
  | .exists => "File exists (os error 17)"
  | .notFolder => "Not a directory (os error 20)"
  | .isFolder => "Is a directory (os error 21)"
  | .notText => "stream did not contain valid UTF-8"
  | .tooLong => "File name too long (os error 36)"
  | .noPath => "file name contained an unexpected NUL byte"

/-- Names from the root, innermost first. -/
abbrev Place := List String

abbrev Name := { name : String // IsName name }

structure Tree where
  entries : List Entry
  ordered : Ordered entries
  working : Place

namespace Tree

def empty : Tree := ⟨[], trivial, []⟩

def at? (tree : Tree) (place : Place) : Option Entry := entryAt? tree.entries place.reverse

def put (tree : Tree) (place : Place) (entry : Entry) (sound : entry.Ordered) : Tree where
  entries := putAt tree.entries entry place.reverse
  ordered := put_at_ordered tree.entries entry place.reverse tree.ordered sound
  working := tree.working

def checkName (name : List Char) : Except Fault Unit :=
  if 255 < Text.byteCount name then .error .tooLong else .ok ()

def checkPath (path : List Char) : Except Fault Unit :=
  if path.contains (Char.ofNat 0) then .error .noPath
  else if 4095 < Text.byteCount path then .error .tooLong
  else .ok ()

def follow (tree : Tree) : Place → List (List Char) → Except Fault Place
  | place, [] => .ok place
  | place, step :: rest =>
      match tree.at? place with
      | some (.folder _ _) =>
          if step = ['.'] then tree.follow place rest
          else if step = ['.', '.'] then tree.follow place.tail rest
          else do
            checkName step
            tree.follow (String.ofList step :: place) rest
      | some (.file _ _) => .error .notFolder
      | none => .error .notFound

def startOf (tree : Tree) (path : List Char) : Place := if Path.isAbsolute path then [] else tree.working

def find? (tree : Tree) (path : String) : Except Fault Entry := do
  let path := path.toList
  checkPath path
  if path.isEmpty then throw .notFound
  match tree.at? (← tree.follow (tree.startOf path) (Path.steps path)) with
  | none => throw .notFound
  | some entry =>
      if !entry.isFolder && path.getLast? = some '/' then throw .notFolder else return entry

def isFolder (tree : Tree) (path : String) : Bool :=
  match tree.find? path with
  | .ok entry => entry.isFolder
  | .error _ => false

def has (tree : Tree) (path : String) : Bool := (tree.find? path).isOk

def textOf (content : ByteArray) : Except Fault String :=
  match String.fromUTF8? content with
  | some text => .ok text
  | none => .error .notText

def readText (tree : Tree) (path : String) : Except Fault String := do
  match ← tree.find? path with
  | .folder _ _ => throw .isFolder
  | .file _ content => textOf content

/-- None for a step that stays in place or leads to the folder around. -/
def name? (step : List Char) : Option Name :=
  if named : IsName (String.ofList step) then some ⟨String.ofList step, named⟩ else none

def around (tree : Tree) (path : List Char) : Except Fault (Place × Option Name) := do
  checkPath path
  let steps := Path.steps path
  let place ← tree.follow (tree.startOf path) steps.dropLast
  match tree.at? place with
  | some (.file _ _) => throw .notFolder
  | none => throw .notFound
  | some (.folder _ _) => pure ()
  match steps.getLast? with
  | some step =>
      checkName step
      return (place, name? step)
  | none => return (place, none)

def write (tree : Tree) (path : String) (content : ByteArray) : Except Fault Tree := do
  match ← tree.around path.toList with
  | (_, none) => throw .isFolder
  | (place, some name) =>
      match tree.at? (name.val :: place) with
      | some (.folder _ _) => throw .isFolder
      | _ =>
          if path.toList.getLast? = some '/' then throw .isFolder
          else return tree.put place (.file name.val content) name.property

def makeFolder (tree : Tree) (path : String) : Except Fault Tree := do
  match ← tree.around path.toList with
  | (_, none) => throw .exists
  | (place, some name) =>
      if (tree.at? (name.val :: place)).isSome then throw .exists
      else return tree.put place (.folder name.val []) ⟨name.property, trivial⟩

/-- Makes a folder and the folders around it, as far as they are missing. The number of steps in
    the path bounds `fuel`. -/
def makeFoldersFrom : Nat → Tree → List Char → Except Fault Tree
  | 0, tree, _ => .ok tree
  | fuel + 1, tree, path =>
      if path.isEmpty then .ok tree
      else
        let text := String.ofList path
        match tree.makeFolder text with
        | .ok tree => .ok tree
        | .error .notFound => do
            let tree ← makeFoldersFrom fuel tree ((Path.parent? path).getD [])
            match tree.makeFolder text with
            | .ok tree => return tree
            | .error fault => if tree.isFolder text then return tree else throw fault
        | .error fault => if tree.isFolder text then .ok tree else .error fault

def makeFolders (tree : Tree) (path : String) : Except Fault Tree :=
  makeFoldersFrom (path.length + 1) tree path.toList

def files (tree : Tree) : List (String × ByteArray) := filesOf "" tree.entries

def changes (before after : Tree) : List (String × ByteArray) :=
  let old := before.files
  after.files.filter fun file => !old.contains file

def withFile (tree : Tree) (path : String) (content : Option ByteArray) : Tree :=
  let made (path : List Char) : Tree :=
    match tree.makeFolders (String.ofList path) with
    | .ok tree => tree
    | .error _ => tree
  match content with
  | none => made path.toList
  | some content =>
      let tree := made ((Path.parent? path.toList).getD [])
      match tree.write path content with
      | .ok tree => tree
      | .error _ => tree

def enter (tree : Tree) (path : String) : Except Fault Tree := do
  match ← tree.find? path with
  | .file _ _ => throw .notFolder
  | .folder _ _ => return { tree with working := ← tree.follow (tree.startOf path.toList) (Path.steps path.toList) }

end Tree
end LinkPress.Files
