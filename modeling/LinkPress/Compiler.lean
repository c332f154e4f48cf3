import LinkPress.Catalog.Entries
import LinkPress.Document.Page
import LinkPress.Markdown.Reader

set_option autoImplicit false

/- From the text of a page to its HTML. -/
namespace LinkPress

open LinkPress.Document (WriterOptions)
open LinkPress.Markdown (ReaderOptions)

structure Compiler where
  reader : ReaderOptions
  writer : WriterOptions
  /-- The table that shortcut links are looked up in; without one they stay as they are. -/
  table : Option Shortcut.Table

namespace Compiler

def compile (compiler : Compiler) (text : String) : Except (List String) String :=
  let nodes := Markdown.read compiler.reader text
  match compiler.table with
  | none => .ok (Document.html compiler.writer nodes)
  | some table => (Document.expand table nodes).map (Document.html compiler.writer)

end Compiler
end LinkPress
