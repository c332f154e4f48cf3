import LinkPress.Text.PropertyTable
import LinkPress.Text.Ranges
import LinkPress.Text.ScriptTable

set_option autoImplicit false

/- Properties of characters that are listed in a table, and scripts. -/
namespace LinkPress.Text

def property (name : String) : Ranges := rangesOf ((propertyLines.lookup name).getD [])

def script? (isNamed : String → Bool) : Option (List String × Ranges) :=
  (scriptLines.find? fun entry => entry.1.any isNamed).map fun (names, lines) =>
    (names, rangesOf lines)

/-- The characters that are used with other scripts than their own, if `isUser` is true of the short
    name of one of them. -/
def sharedRanges (isUser : String → Bool) : List Ranges :=
  (extensionLines.filter fun entry =>
    entry.1.any fun names => (parts ' ' names.toList).any fun name => isUser (String.ofList name)).map
    fun entry => rangesOf entry.2

end LinkPress.Text
