import LinkPress.Command.Help
import LinkPress.Command.Json
import LinkPress.Site.Address
import LinkPress.Site.Build
import LinkPress.Site.Layout

set_option autoImplicit false

/- What the command line does: to the files, and what it prints. -/
namespace LinkPress.Command

open LinkPress.Files (Tree)
open LinkPress.Shortcut (Table)
open LinkPress.Site (BuildFault Config ConfigFault Diagnostic Frame Index Listed Page Readers)

/-- Why a command failed, and what lies under that, one below the other. -/
structure Failure where
  message : String
  causes : List String

namespace Failure

def causeText (several : Bool) (n : Nat) (cause : String) : String :=
  let lines := (Text.lines cause.toList).map String.ofList
  if several then
    let number := toString n
    String.ofList (List.replicate (5 - number.length) ' ') ++ number ++ ": " ++
      String.intercalate "\n       " lines
  else "    " ++ String.intercalate "\n    " lines

def causeLines (several : Bool) (n : Nat) : List String → String
  | [] => ""
  | cause :: rest => "\n" ++ causeText several n cause ++ causeLines several (n + 1) rest

def text (failure : Failure) : String :=
  let causes :=
    if failure.causes.isEmpty then ""
    else "\n\nCaused by:" ++ causeLines (1 < failure.causes.length) 0 failure.causes
  "Error: " ++ failure.message ++ causes ++ "\n"

end Failure

structure Result where
  out : String
  err : String
  tree : Tree
  failure : Option Failure

def Result.fail (tree : Tree) (failure : Failure) : Result := ⟨"", "", tree, some failure⟩

def Result.exit (result : Result) : Nat := if result.failure.isSome then 1 else 0

def Result.errors (result : Result) : String :=
  result.err ++ (result.failure.map Failure.text).getD ""

def Failure.ofConfig (context : String) (fault : ConfigFault) : Failure := ⟨context, [fault.message, fault.cause]⟩

def Failure.ofBuild (context : String) (fault : BuildFault) : Failure := ⟨context, fault.message :: fault.causes⟩

section Reading

variable [Readers]

def loadConfig (tree : Tree) (path : String) : Except Failure Config :=
  (Config.ofFile tree path).mapError (Failure.ofConfig ("Failed to load configuration from " ++ path))

def loadTable (tree : Tree) (path : String) : Except Failure Table := do
  if !tree.has path then return Catalog.table
  let config ← loadConfig tree path
  config.table.mapError fun fault => Failure.ofConfig "Failed to build shortcut mapping" (.template fault)

def loadIndex (tree : Tree) (path context : String) : Except Failure (Config × Index) := do
  let config ← loadConfig tree path
  let site ← (Site.Builder.ofConfig config).mapError fun fault =>
    Failure.ofBuild "Failed to set up site builder" (.config fault)
  let index ← (site.build tree).mapError (Failure.ofBuild context)
  return (config, index)

end Reading

def lines (texts : List String) : String := String.join (texts.map (· ++ "\n"))

def joinPaths (a b : String) : String := String.ofList (Files.Path.join a.toList b.toList)

def frameOf (config : Config) (description : Option String) : Frame :=
  ⟨config.title, description, Site.normalBase config.base⟩

/-- A failure and the files as they were left. -/
abbrev Stopped := Failure × Tree

def writePage (config : Config) (tree : Tree) (page : Page) : Except Stopped Tree := do
  let target := joinPaths config.outputFolder page.output
  let parent := String.ofList ((Files.Path.parent? target.toList).getD [])
  let tree ← (tree.makeFolders parent).mapError fun fault => (⟨fault.message, []⟩, tree)
  let html := Site.pageHtml (frameOf config page.description) page.title page.content
  (tree.write target html.toUTF8).mapError fun fault =>
    (⟨"Failed to write " ++ target, [fault.message]⟩, tree)

def listed (config : Config) (page : Page) : Listed :=
  ⟨Site.pageAddress (Site.normalBase config.base) page.output, page.title, page.description⟩

def writeListing (config : Config) (tree : Tree) (index : Index) : Except Stopped Tree :=
  if index.pages.any fun page => page.output == "index.html" then .ok tree
  else
    let html := Site.listHtml (frameOf config config.description) (index.pages.map (listed config))
    (tree.write (joinPaths config.outputFolder "index.html") html.toUTF8).mapError fun fault =>
      (⟨"Failed to write index.html", [fault.message]⟩, tree)

def writeSite (config : Config) (tree : Tree) (index : Index) : Except Stopped Tree := do
  let tree ← (tree.makeFolders config.outputFolder).mapError fun fault =>
    (⟨"Failed to create output directory", [fault.message]⟩, tree)
  let tree ← index.pages.foldlM (writePage config) tree
  writeListing config tree index

variable [Readers]

def build (tree : Tree) (path : String) : Result :=
  match loadIndex tree path "Failed to build site" with
  | .error failure => .fail tree failure
  | .ok (config, index) =>
      match writeSite config tree index with
      | .error (failure, tree) => .fail tree failure
      | .ok tree =>
          let err := lines (index.diagnostics.map Diagnostic.text)
          if index.hasErrors then
            ⟨"", err, tree, some ⟨toString index.errorCount ++
              " shortcut error(s); failing pages were not written", []⟩⟩
          else
            ⟨"Built " ++ toString index.pages.length ++ " pages into " ++ config.outputFolder ++ "\n",
              err, tree, none⟩

def diagnosticJson (diagnostic : Diagnostic) : Json :=
  .object [("page", .text diagnostic.page), ("message", .text diagnostic.message)]

def indexJson (index : Index) : Json :=
  .object [("pages", .number index.pages.length), ("skipped", .texts index.skipped),
    ("errors", .number index.errorCount),
    ("diagnostics", .list (index.diagnostics.map diagnosticJson))]

def check (tree : Tree) (path : String) (json : Bool) : Result :=
  match loadIndex tree path "Failed to check site" with
  | .error failure => .fail tree failure
  | .ok (_, index) =>
      let count := toString index.errorCount
      let out :=
        if json then (indexJson index).write 0 ++ "\n"
        else
          lines (index.diagnostics.map Diagnostic.text) ++ "Checked " ++
            toString index.pages.length ++ " pages: " ++ count ++ " errors\n"
      ⟨out, "", tree,
        if index.hasErrors then some ⟨count ++ " shortcut error(s) found", []⟩ else none⟩

/-- Resolves one target. A text in the target itself counts before the one that is given. -/
def resolve (tree : Tree) (path target : String) (text : Option String) : Result :=
  match Target.parse target with
  | .ordinary =>
      .fail tree ⟨"'" ++ target ++ "' is not a shortcut link (it must start with '@')", []⟩
  | .malformed fault => .fail tree ⟨fault.message, []⟩
  | .shortcut shortcut =>
      match shortcut.text.or text with
      | none => .fail tree ⟨"no link text: use @name(text) or pass --text", []⟩
      | some text =>
          match loadTable tree path with
          | .error failure => .fail tree failure
          | .ok table =>
              match (table.resolve shortcut.name shortcut.option text).strict with
              | .ok url => ⟨url ++ "\n", "", tree, none⟩
              | .error messages =>
                  ⟨"", lines (messages.map ("error: " ++ ·)), tree,
                    some ⟨"could not resolve '" ++ target ++ "'", []⟩⟩

def namesLine : List String → List String
  | [] => []
  | [name] => [name]
  | name :: others => [name ++ " (" ++ String.intercalate ", " others ++ ")"]

def list (tree : Tree) (path : String) (json : Bool) : Result :=
  match loadTable tree path with
  | .error failure => .fail tree failure
  | .ok table =>
      let out :=
        if json then (Json.list (table.names.map Json.texts)).write 0 ++ "\n"
        else lines (table.names.flatMap namesLine)
      ⟨out, "", tree, none⟩

def perform (tree : Tree) (path : String) : Action → Result
  | .build => build tree path
  | .check json => check tree path json
  | .resolve target text => resolve tree path target text
  | .list json => list tree path json

def answer (tree : Tree) (environment : Option String) : Request → Option Result
  | .run config action => some (perform tree (config.getD defaultConfig) action)
  | .help topic => some ⟨helpText environment topic, "", tree, none⟩
  | .version => some ⟨versionText, "", tree, none⟩
  | .misuse => none

def run (tree : Tree) (arguments : List String) (environment : Option String) : Option Result :=
  answer tree environment (request arguments environment)

end LinkPress.Command
