import LinkPress.Compiler
import LinkPress.Files.Path
import LinkPress.Site.Config
import LinkPress.Site.FrontMatter

set_option autoImplicit false

/- The pages of a site, one by one. -/
namespace LinkPress.Site

structure Page where
  /-- Seen from the source folder. -/
  source : String
  /-- Seen from the output folder. -/
  output : String
  title : String
  description : Option String
  content : String
deriving DecidableEq, Repr

structure Diagnostic where
  page : String
  message : String
deriving DecidableEq, Repr

def Diagnostic.text (diagnostic : Diagnostic) : String :=
  diagnostic.page ++ ": error: " ++ diagnostic.message

inductive Outcome where
  | built (page : Page)
  | draft
  | failed (diagnostics : List Diagnostic)
deriving DecidableEq, Repr

def outputPath (source : String) : String :=
  String.ofList (Files.Path.withExtension "html".toList source.toList)

def fileTitle (source : String) : String :=
  String.ofList ((Files.Path.stem? source.toList).getD [])

def Config.compiler (config : Config) : Except ConfigFault Compiler := do
  let table ← config.table.mapError .template
  return ⟨config.reader, config.writer, some table⟩

structure Builder where
  config : Config
  expanding : Compiler
  plain : Compiler
  ignored : List (String → Bool)

namespace Builder

variable [Readers]

def ofConfig (config : Config) : Except ConfigFault Builder := do
  let expanding ← config.compiler
  let ignored ← config.patterns
  return ⟨config, expanding, ⟨config.reader, config.writer, none⟩, ignored⟩

def compiler (site : Builder) (settings : FrontMatter) : Compiler :=
  if settings.shortcuts then site.expanding else site.plain

def page (site : Builder) (source text : String) : Outcome :=
  match FrontMatter.read text with
  | .error complaint => .failed [⟨source, "Invalid YAML: " ++ complaint⟩]
  | .ok (settings, body) =>
      if settings.draft then .draft
      else
        match (site.compiler settings).compile body with
        | .ok content =>
            .built ⟨source, outputPath source, settings.title.getD (fileTitle source),
              settings.description, content⟩
        | .error messages => .failed (messages.map (Diagnostic.mk source))

end Builder
end LinkPress.Site
