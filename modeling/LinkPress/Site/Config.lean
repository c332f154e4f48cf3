import LinkPress.Catalog.Entries
import LinkPress.Document.Page
import LinkPress.Files.Tree
import LinkPress.Markdown.Options
import LinkPress.Shortcut.Template
import LinkPress.Site.Readers

set_option autoImplicit false

/- The configuration of a site. -/
namespace LinkPress.Site

open LinkPress.Document (WriterOptions)
open LinkPress.Markdown (ReaderOptions)
open LinkPress.Shortcut (Table Template TemplateFault)
open LinkPress.Yaml (Fields)

structure Config where
  title : String
  url : Option String
  description : Option String
  /-- The folder of the pages and the folder that is written to, as they are given. -/
  source : String
  output : String
  base : String
  ignored : List String
  reader : ReaderOptions
  writer : WriterOptions
  templates : List Template
  catalog : Bool
  /-- The folder of the configuration file, if it comes from one. -/
  folder : Option String

inductive ConfigFault where
  | unreadable (fault : Files.Fault)
  | notYaml (complaint : String)
  | pattern (text complaint : String)
  | template (fault : TemplateFault)
deriving DecidableEq, Repr

namespace ConfigFault

def context : ConfigFault → String
  | .unreadable _ => "Failed to read config file"
  | .notYaml _ => "Failed to parse YAML"
  | .pattern text _ => "Invalid ignore pattern '" ++ text ++ "'"
  | .template _ => "Invalid shortcut template"

def cause : ConfigFault → String
  | .unreadable fault => fault.message
  | .notYaml complaint => complaint
  | .pattern _ complaint => complaint
  | .template fault => fault.message

def message (fault : ConfigFault) : String := fault.context ++ ": " ++ fault.cause

end ConfigFault

namespace Config

variable (document : Yaml.Document)

def textList (node : Yaml.Node) : Option (List String) :=
  (document.items? node).bind fun items => items.mapM document.text?

def readerOf (node : Yaml.Node) : Option ReaderOptions := do
  let fields ← document.fields? node
  let get (name : String) (absent : Bool) := fields.getD name document.boolean? absent
  return ⟨← get "tables" true, ← get "footnotes" true, ← get "strikethrough" true,
    ← get "tasklists" true, ← get "heading_attributes" true, ← get "smart_punctuation" false⟩

def writerOf (node : Yaml.Node) : Option WriterOptions := do
  let fields ← document.fields? node
  return ⟨← fields.getD "heading_ids" document.boolean? true⟩

def templateOf (node : Yaml.Node) : Option Template := do
  let fields ← document.fields? node
  return ⟨← fields.require "names" (textList document), ← fields.require "url" document.text?,
    ← fields.getD "default_tag" document.optionalText? none⟩

def templatesOf (node : Yaml.Node) : Option (List Template) :=
  (document.items? node).bind fun items => items.mapM (templateOf document)

def foldersOf (node : Yaml.Node) : Option (String × String) := do
  let fields ← document.fields? node
  return (← fields.getD "source" document.text? "content",
    ← fields.getD "output" document.text? "site")

def decode? : Option Config := do
  let fields ← document.fields? document.root
  let site ← fields.require "site" document.fields?
  let title ← site.require "title" document.text?
  let url ← site.getD "url" document.optionalText? none
  let description ← site.getD "description" document.optionalText? none
  let (source, output) ← fields.getD "paths" (foldersOf document) ("content", "site")
  return {
    title, url, description, source, output
    base := ← fields.getD "base_url" document.text? "/"
    ignored := ← fields.getD "ignore_patterns" (textList document) []
    reader := ← fields.getD "markdown" (readerOf document) .default
    writer := ← fields.getD "html" (writerOf document) .default
    templates := ← fields.getD "shortcuts" (templatesOf document) []
    catalog := ← fields.getD "builtin_shortcuts" document.boolean? true
    folder := none }

section Reading

variable [Readers]

def patternOf (text : String) : Except ConfigFault (String → Bool) :=
  (Readers.pattern text).mapError (.pattern text)

def patterns (config : Config) : Except ConfigFault (List (String → Bool)) :=
  config.ignored.mapM patternOf

def checkTemplate (template : Template) : Except ConfigFault Unit :=
  template.check.mapError .template

def ofText (text : String) : Except ConfigFault Config := do
  let config ← (Readers.settings .site decode? text.toList).mapError .notYaml
  let _ ← config.patterns
  config.templates.forM checkTemplate
  return config

def ofFile (tree : Files.Tree) (path : String) : Except ConfigFault Config := do
  let text ← (tree.readText path).mapError .unreadable
  let config ← ofText text
  return { config with folder := (Files.Path.parent? path.toList).map String.ofList }

end Reading

def place (config : Config) (path : String) : String :=
  match config.folder with
  | some folder => String.ofList (Files.Path.join folder.toList path.toList)
  | none => path

def sourceFolder (config : Config) : String := config.place config.source
def outputFolder (config : Config) : String := config.place config.output

def table (config : Config) : Except TemplateFault Table := do
  let own ← Template.table config.templates
  return if config.catalog then own.extend Catalog.table else own

end Config
end LinkPress.Site
