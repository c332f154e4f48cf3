import LinkPress.Catalog.Basic

set_option autoImplicit false

/- Code forges and package registries. -/
namespace LinkPress.Catalog

open LinkPress.Shortcut LinkPress.Url

def forgeParts (text : String) : List (List Char) := Text.parts '/' (withoutAt text.toList)

def forge (host : String) (owner : Option String) (repository : String) : Resolution :=
  page host [""] ((owner.map forgeParts).getD [] ++ forgeParts repository)

def github := forge "github.com"
def gitlab := forge "gitlab.com"
def bitbucket := forge "bitbucket.org"
def codeberg := forge "codeberg.org"

def versioned (host : String) (base : List String) (version : Option String) (package : String) :
    Resolution :=
  page host base (package.toList :: (version.map String.toList).toList)

def crates := versioned "crates.io" ["crates", ""]
def docsrs := versioned "docs.rs" [""]

def hackage (version : Option String) (package : String) : Resolution :=
  let name := match version with
    | some version => package ++ "-" ++ version
    | none => package
  page "hackage.haskell.org" ["package", ""] [name.toList]

def stackage (snapshot : Option String) (package : String) : Resolution :=
  page "www.stackage.org" [""]
    [(snapshot.getD "lts").toList, "package".toList, package.toList]

def npm (package : String) : Resolution :=
  page "www.npmjs.com" [""] ("package".toList :: Text.parts '/' package.toList)

def pypi (package : String) : Resolution := page "pypi.org" ["project", ""] [package.toList]
def rubygems (gem : String) : Resolution := page "rubygems.org" ["gems", ""] [gem.toList]

def cran (package : String) : Resolution :=
  page "cran.r-project.org" [""] ["package=".toList ++ package.toList]

def hex (package : String) : Resolution := page "hex.pm" ["packages", ""] [package.toList]

def godoc (path : String) : Resolution := page "pkg.go.dev" [""] (Text.parts '/' path.toList)

def docker (image : String) : Resolution :=
  let parts := Text.parts '/' image.toList
  if parts.length = 1 then page "hub.docker.com" ["_", ""] parts
  else page "hub.docker.com" [""] ("r".toList :: parts)

end LinkPress.Catalog
