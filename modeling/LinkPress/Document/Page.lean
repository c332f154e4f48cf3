import LinkPress.Document.Expansion
import LinkPress.Document.HeadingId
import LinkPress.Html.Writer

set_option autoImplicit false

/- From a document to the HTML of a page. -/
namespace LinkPress.Document

structure WriterOptions where
  headingIds : Bool
deriving DecidableEq, Repr

def WriterOptions.default : WriterOptions := ⟨true⟩

def html (options : WriterOptions) (nodes : List Node) : String :=
  Html.ofEvents (toEvents (if options.headingIds then withHeadingIds nodes else nodes))

end LinkPress.Document
