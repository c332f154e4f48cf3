set_option autoImplicit false

/- The frame around the HTML of a page, and the listing of a site's pages. -/
namespace LinkPress.Site

def escapeChar (c : Char) : List Char :=
  match c with
  | '<' => "&#60;".toList
  | '>' => "&#62;".toList
  | '&' => "&#38;".toList
  | '"' => "&#34;".toList
  | '\'' => "&#39;".toList
  | c => [c]

def escape (text : String) : String := String.ofList (text.toList.flatMap escapeChar)

structure Frame where
  siteTitle : String
  description : Option String
  base : String

def descriptionTag : Option String → String
  | some text => "\n  <meta name=\"description\" content=\"" ++ escape text ++ "\">"
  | none => ""

/-- `title` is HTML, and so is `content`. -/
def Frame.page (frame : Frame) (title content : String) : String :=
  "<!DOCTYPE html>\n<html lang=\"en\">\n<head>\n  <meta charset=\"utf-8\">\n" ++
    "  <meta name=\"viewport\" content=\"width=device-width, initial-scale=1\">\n" ++
    "  <title>" ++ title ++ "</title>" ++ descriptionTag frame.description ++
    "\n</head>\n<body>\n  <header><a href=\"" ++ escape frame.base ++ "\">" ++
    escape frame.siteTitle ++ "</a></header>\n  <main>\n" ++ content ++
    "\n  </main>\n</body>\n</html>"

def pageHtml (frame : Frame) (title content : String) : String :=
  frame.page (escape title ++ " | " ++ escape frame.siteTitle)
    ("\n    <article>\n      <h1 class=\"page-title\">" ++ escape title ++ "</h1>\n" ++ content ++
      "\n    </article>\n")

structure Listed where
  address : String
  title : String
  description : Option String

def summary : Option String → String
  | some text => " <span class=\"summary\">" ++ escape text ++ "</span>"
  | none => ""

def Listed.html (item : Listed) : String :=
  "\n      <li><a href=\"" ++ escape item.address ++ "\">" ++ escape item.title ++ "</a>" ++
    summary item.description ++ "</li>"

def listHtml (frame : Frame) (items : List Listed) : String :=
  frame.page (escape frame.siteTitle)
    ("\n    <h1>" ++ escape frame.siteTitle ++ "</h1>\n    <ul class=\"page-list\">" ++
      String.join (items.map Listed.html) ++ "\n    </ul>\n")

end LinkPress.Site
