import LinkPress.Command.Run

set_option autoImplicit false

/- The command line. It is started in some folder, and reads the files that its configuration points to. -/
namespace LinkPress

open LinkPress.Files (Tree)

partial def readEntry (tree : Tree) (entry : IO.FS.DirEntry) : IO Tree := do
  let path := entry.path.toString
  if ← entry.path.isDir then (← entry.path.readDir).foldlM readEntry (tree.withFile path none)
  else if ← entry.path.pathExists then return tree.withFile path (← IO.FS.readBinFile path)
  else return tree

def readPath (tree : Tree) (path : String) : IO Tree := do readEntry tree ⟨← IO.currentDir, path⟩

def readFiles (path : String) : IO Tree := do
  let folder := (← IO.currentDir).toString
  let start := Tree.empty.withFile folder none
  let tree ← readPath ((start.enter folder).toOption.getD start) path
  match Site.Config.ofFile tree path with
  | .ok config => readPath (← readPath tree config.sourceFolder) config.outputFolder
  | .error _ => return tree

def writeFile (file : String × ByteArray) : IO Unit := do
  let path := "/" ++ file.1
  IO.FS.createDirAll (String.ofList ((Files.Path.parent? path.toList).getD []))
  IO.FS.writeBinFile path file.2

def usage : String := "error: the arguments are not understood; try --help\n"

def runCommand (arguments : List String) : IO UInt32 := do
  let environment ← IO.getEnv "SHORTLINK_CONFIG"
  let tree ← match Command.request arguments environment with
    | .run config _ => readFiles (config.getD Command.defaultConfig)
    | _ => pure .empty
  match Command.run tree arguments environment with
  | none =>
      (← IO.getStderr).putStr usage
      return 2
  | some result =>
      (tree.changes result.tree).forM writeFile
      (← IO.getStdout).putStr result.out
      (← IO.getStderr).putStr result.errors
      return result.exit.toUInt32

end LinkPress

def main (arguments : List String) : IO UInt32 := LinkPress.runCommand arguments
