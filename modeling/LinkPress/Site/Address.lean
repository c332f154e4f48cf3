import LinkPress.Text.Blank
import LinkPress.Text.Split

set_option autoImplicit false

/- Addresses within a site. -/
namespace LinkPress.Site

def normalBase (raw : String) : String :=
  match Text.parts '/' (Text.trim raw.toList) with
  | [] => "/"
  | parts => String.ofList ('/' :: Text.join ['/'] parts ++ ['/'])

def slashed (c : Char) : Char := if c = '\\' then '/' else c

def pageAddress (base output : String) : String :=
  base ++ String.ofList ((output.toList.map slashed).dropWhile (· == '/'))

end LinkPress.Site
