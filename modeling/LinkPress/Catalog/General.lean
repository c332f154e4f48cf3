import LinkPress.Catalog.Basic
import LinkPress.Url.Host

set_option autoImplicit false

/- Encyclopedias, search engines, social sites and papers. -/
namespace LinkPress.Catalog

open LinkPress.Shortcut LinkPress.Url

def wikipedia (language : Option String) (article : String) : Resolution :=
  let language := language.getD "en"
  if !language.toList.all fun c => c.isAlphanum || c == '-' then
    .failure ("invalid wikipedia language '" ++ language ++ "'")
  else
    match Host.ofLabel? language.toList with
    | none =>
        .failure ("invalid base url 'https://" ++ language ++
          ".wikipedia.org/wiki/': invalid international domain name")
    | some label =>
        page (String.ofList label ++ ".wikipedia.org") ["wiki", ""]
          [article.toList.map fun c => if c = ' ' then '_' else c]

def google : String → Resolution := search "www.google.com" ["search"] "q"
def duckduckgo : String → Resolution := search "duckduckgo.com" [""] "q"
def youtube : String → Resolution := search "www.youtube.com" ["results"] "search_query"

def twitter (user : String) : Resolution := page "twitter.com" [""] [withoutAt user.toList]

def redditKinds : List (List Char) := ["r".toList, "u".toList, "user".toList]

def reddit (target : String) : Resolution :=
  let parts := Text.parts '/' target.toList
  match parts with
  | kind :: _ :: _ =>
      if redditKinds.contains kind then page "www.reddit.com" [""] parts
      else page "www.reddit.com" ["r", ""] parts
  | _ => page "www.reddit.com" ["r", ""] parts

def stackoverflow (query : String) : Resolution :=
  if isDigits query.toList then page "stackoverflow.com" ["q", ""] [query.toList]
  else search "stackoverflow.com" ["search"] "q" query

def arxiv (id : String) : Resolution :=
  page "arxiv.org" [""] ("abs".toList :: Text.parts '/' id.toList)

def doi (id : String) : Resolution := page "doi.org" [""] (Text.parts '/' id.toList)

def rfcDigits : List Char → List Char
  | 'R' :: 'F' :: 'C' :: rest => Text.trim rest
  | 'r' :: 'f' :: 'c' :: rest => Text.trim rest
  | text => Text.trim text

def rfc (number : String) : Resolution :=
  let digits := rfcDigits number.toList
  if digits.isEmpty || !isDigits digits then
    .failure ("'" ++ number ++ "' is not an RFC number")
  else page "www.rfc-editor.org" ["rfc", ""] ["rfc".toList ++ digits]

end LinkPress.Catalog
