import LinkPress.Url.Percent

set_option autoImplicit false

/- Writing text so that it is no markup: in the body, in an attribute and in an address. -/
namespace LinkPress.Html

def escapeBodyChar (c : Char) : List Char :=
  if c = '&' then "&amp;".toList
  else if c = '<' then "&lt;".toList
  else if c = '>' then "&gt;".toList
  else [c]

def escapeAttributeChar (c : Char) : List Char :=
  if c = '"' then "&quot;".toList
  else if c = '\'' then "&#39;".toList
  else escapeBodyChar c

def keptInAddress (c : Char) : Bool := c.isAlphanum || "!#$%()*+,-./:;=?@^_~".toList.contains c

def escapeAddressChar (c : Char) : List Char :=
  if c = '&' then "&amp;".toList
  else if c = '\'' then "&#x27;".toList
  else if keptInAddress c then [c]
  else Url.escapeChar c

def escapeBody (text : String) : String := String.ofList (text.toList.flatMap escapeBodyChar)
def escapeAttribute (text : String) : String := String.ofList (text.toList.flatMap escapeAttributeChar)
def escapeAddress (text : String) : String := String.ofList (text.toList.flatMap escapeAddressChar)

end LinkPress.Html
