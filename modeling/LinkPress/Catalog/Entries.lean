import LinkPress.Catalog.General
import LinkPress.Catalog.Developer

set_option autoImplicit false

/- The built-in catalog. -/
namespace LinkPress.Catalog

open LinkPress.Shortcut

def entries : List Entry := [
  ⟨["wikipedia", "w"], tagged "wikipedia" wikipedia⟩,
  ⟨["google", "g"], plain "google" google⟩,
  ⟨["duckduckgo", "ddg"], plain "duckduckgo" duckduckgo⟩,
  ⟨["youtube", "yt"], plain "youtube" youtube⟩,
  ⟨["twitter"], plain "twitter" twitter⟩,
  ⟨["reddit"], plain "reddit" reddit⟩,
  ⟨["stackoverflow", "so"], plain "stackoverflow" stackoverflow⟩,
  ⟨["arxiv"], plain "arxiv" arxiv⟩,
  ⟨["doi"], plain "doi" doi⟩,
  ⟨["rfc"], plain "rfc" rfc⟩,
  ⟨["github", "gh"], tagged "github" github⟩,
  ⟨["gitlab"], tagged "gitlab" gitlab⟩,
  ⟨["bitbucket"], tagged "bitbucket" bitbucket⟩,
  ⟨["codeberg"], tagged "codeberg" codeberg⟩,
  ⟨["crates", "cargo"], tagged "crates" crates⟩,
  ⟨["docsrs"], tagged "docsrs" docsrs⟩,
  ⟨["hackage", "hk"], tagged "hackage" hackage⟩,
  ⟨["stackage"], tagged "stackage" stackage⟩,
  ⟨["npm"], plain "npm" npm⟩,
  ⟨["pypi"], plain "pypi" pypi⟩,
  ⟨["rubygems", "gem"], plain "rubygems" rubygems⟩,
  ⟨["cran"], plain "cran" cran⟩,
  ⟨["hex"], plain "hex" hex⟩,
  ⟨["godoc", "pkg-go"], plain "godoc" godoc⟩,
  ⟨["docker"], plain "docker" docker⟩]

def table : Table := ⟨entries⟩

end LinkPress.Catalog
