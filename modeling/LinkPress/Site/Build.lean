import LinkPress.Site.Page

set_option autoImplicit false

/- All pages of a site. A page that fails adds its complaints, and the others are built. -/
namespace LinkPress.Site

structure Index where
  pages : List Page
  diagnostics : List Diagnostic
  /-- Pages that were left out: those that a pattern matches, then the drafts. -/
  skipped : List String
deriving DecidableEq, Repr

namespace Index

def empty : Index := ⟨[], [], []⟩

def errorCount (index : Index) : Nat := index.diagnostics.length
def hasErrors (index : Index) : Bool := !index.diagnostics.isEmpty

def add (index : Index) (source : String) : Outcome → Index
  | .built page => { index with pages := index.pages ++ [page] }
  | .draft => { index with skipped := index.skipped ++ [source] }
  | .failed diagnostics => { index with diagnostics := index.diagnostics ++ diagnostics }

end Index

inductive BuildFault where
  | unreadable (fault : Files.Fault)
  | config (fault : ConfigFault)
  | noSource (folder : String)
deriving DecidableEq, Repr

namespace BuildFault

def message : BuildFault → String
  | .unreadable fault => "IO error: " ++ fault.message
  | .config fault => "Config error: " ++ fault.message
  | .noSource folder => "Source directory not found: " ++ folder

def causes : BuildFault → List String
  | .unreadable fault => [fault.message]
  | .config fault => [fault.message, fault.cause]
  | .noSource _ => []

end BuildFault

namespace Builder

def isPage (path : String) : Bool := Files.Path.extension? path.toList == some "md".toList

def ignores (site : Builder) (path : String) : Bool :=
  site.ignored.any fun pattern => pattern path

def sourceFiles (site : Builder) (tree : Files.Tree) : Except BuildFault (List (String × ByteArray)) :=
  let folder := site.config.sourceFolder
  match tree.find? folder with
  | .ok (.folder _ entries) => .ok (Files.filesOf "" entries)
  | _ => .error (.noSource folder)

variable [Readers]

def addFile (site : Builder) (index : Index) (file : String × ByteArray) : Except BuildFault Index := do
  let text ← (Files.Tree.textOf file.2).mapError .unreadable
  return index.add file.1 (site.page file.1 text)

def build (site : Builder) (tree : Files.Tree) : Except BuildFault Index := do
  let files := (← site.sourceFiles tree).filter fun file => isPage file.1
  let (ignored, pages) := files.partition fun file => site.ignores file.1
  let index ← pages.foldlM site.addFile .empty
  return { index with skipped := ignored.map Prod.fst ++ index.skipped }

end Builder
end LinkPress.Site
