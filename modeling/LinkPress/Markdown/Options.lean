set_option autoImplicit false

/- Which extensions of the markup a document is read with. -/
namespace LinkPress.Markdown

structure ReaderOptions where
  tables : Bool
  footnotes : Bool
  strikethrough : Bool
  taskLists : Bool
  headingAttributes : Bool
  smartPunctuation : Bool
deriving DecidableEq, Repr

/-- Everything but smart punctuation. -/
def ReaderOptions.default : ReaderOptions := ⟨true, true, true, true, true, false⟩

end LinkPress.Markdown
