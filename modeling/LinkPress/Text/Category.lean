import LinkPress.Text.CategoryTable
import LinkPress.Text.Ranges

set_option autoImplicit false

/- The general categories of characters. -/
namespace LinkPress.Text

def categories : List (String × Ranges) :=
  categoryLines.map fun (name, lines) => (name, rangesOf lines)

def category (name : String) : Ranges := ((categories.find? (·.1 == name)).map Prod.snd).getD []

def isInCategory (names : List String) (c : Char) : Bool :=
  names.any fun name => inRanges (category name) c.toNat

def isMark (c : Char) : Bool := isInCategory ["Mn", "Mc", "Me"] c

def isNonspacing (c : Char) : Bool := isInCategory ["Mn", "Me"] c

end LinkPress.Text
