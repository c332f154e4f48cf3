import LinkPress.Proofs.Outcome
import LinkPress.Proofs.Document.Expansion
import LinkPress.Site.Config
import Mathlib

set_option autoImplicit false

/- Entries behind those of a table are only asked for names that it does not have. A document that
   expands asks for no such name, so it expands to the same document with more entries behind. -/
namespace LinkPress.Shortcut.Table

theorem get_extend (table more : Table) (name : String) (resolver : Resolver)
    (found : table.get? name = some resolver) : (table.extend more).get? name = some resolver := by
  rw [get?, Option.map_eq_some_iff] at found
  obtain ⟨entry, first, rfl⟩ := found
  rw [get?, extend, List.find?_append, first]
  rfl

-- The first table settles a name, or it has none and the second one is asked.
theorem resolve_extend (table more : Table) (name : String) (option : Option String) (text : String) :
    (table.extend more).resolve name option text = table.resolve name option text ∨
      table.resolve name option text = .failure (unknownName name) := by
  cases found : table.get? name with
  | none => exact .inr (by rw [resolve, found])
  | some resolver => exact .inl (by rw [resolve, resolve, get_extend table more name resolver found, found])

end LinkPress.Shortcut.Table

namespace LinkPress.Document

open LinkPress.Shortcut
open LinkPress.Site (Config)

-- What a link comes to does not change, unless it had a fault to report.
theorem outcome_extend (table more : Table) (site : LinkSite) (passing : faultsAt table site = []) :
    outcomeAt (table.extend more) site = outcomeAt table site := by
  rw [faultsAt] at passing
  rcases outcome_cases table site with ⟨ordinary, outcome⟩ | ⟨-, -, fault, outcome⟩ | ⟨answer, answers, outcome⟩
  · rcases outcome_cases (table.extend more) site with ⟨-, same⟩ | ⟨introduced, -⟩ | ⟨other, answered, -⟩
    · rw [same, outcome]
    · exact absurd introduced ordinary
    · exact absurd (answers_introduced _ site other answered) ordinary
  · rw [outcome] at passing
    cases passing
  · obtain ⟨target, text, parsed, shown, resolved⟩ := answers
    rcases table.resolve_extend more target.name target.option text with same | unknown
    · rw [outcome, answered_outcome _ site answer ⟨target, text, parsed, shown, same.trans resolved⟩]
    · rw [outcome, ← resolved, unknown] at passing
      cases passing

theorem expand_extend (table more : Table) (nodes after : List Node) (done : expand table nodes = .ok after) :
    expand (table.extend more) nodes = .ok after := by
  obtain ⟨passing, rfl⟩ := (expand_ok_iff table nodes after).mp done
  have outcomes : ∀ site ∈ links nodes, outcomeAt (table.extend more) site = outcomeAt table site :=
    fun site member => outcome_extend table more site (passing site member)
  rw [expand_ok_iff]
  refine ⟨?_, readdress_congr _ _ nodes ?_⟩
  · intro site member
    rw [faultsAt, outcomes site member]
    exact passing site member
  · intro site member
    rw [expandedUrl, expandedUrl, outcomes site member]

theorem catalog_behind_templates (config : Config) (own : Table)
    (made : Config.table { config with catalog := false } = .ok own) :
    Config.table { config with catalog := true } = .ok (own.extend Catalog.table) := by
  rw [Config.table, bind_ok_iff] at made ⊢
  obtain ⟨table, templates, made⟩ := made
  obtain rfl : table = own := Except.ok.inj made
  exact ⟨table, templates, rfl⟩

theorem expand_kept_by_more_entries (table : Table) (nodes after : List Node)
    (done : expand table nodes = .ok after) :
    (∀ more, expand (table.extend more) nodes = .ok after) ∧
    ∀ config : Config, Config.table { config with catalog := false } = .ok table →
      ∃ whole, Config.table { config with catalog := true } = .ok whole ∧ expand whole nodes = .ok after := by
  refine ⟨fun more => expand_extend table more nodes after done, ?_⟩
  intro config made
  exact ⟨_, catalog_behind_templates config table made, expand_extend table Catalog.table nodes after done⟩

-- A site with a template for a name that the catalog has too.
def mirrorTemplate : Template := ⟨["gh"], "https://git.example/\x7btext\x7d", none⟩

def mirrorConfig : Config where
  title := "Mirror"
  url := none
  description := none
  source := "content"
  output := "site"
  base := "/"
  ignored := []
  reader := .default
  writer := .default
  templates := [mirrorTemplate]
  catalog := false
  folder := none

def mirrorTable : Table := ⟨[mirrorTemplate.entry]⟩

def mirrorPage (outer inner : String) : List Node :=
  [.element .paragraph (some .paragraph)
    [.element (.link ⟨.inline, outer, "", ""⟩) (some .link)
      [.element (.link ⟨.inline, inner, "", ""⟩) (some .link) [.leaf (.text "docs")]],
      .element (.link ⟨.inline, "notes.html", "", ""⟩) (some .link) []]]

def mirrorPageExpanded : List Node := mirrorPage "https://git.example/a/b" "https://git.example/docs"

theorem mirror_page_kept :
    expand mirrorTable (mirrorPage "@gh(a/b)" "@gh") = .ok mirrorPageExpanded ∧
      expand (mirrorTable.extend Catalog.table) (mirrorPage "@gh(a/b)" "@gh") = .ok mirrorPageExpanded ∧
      Config.table mirrorConfig = .ok mirrorTable ∧
      ∃ whole, Config.table { mirrorConfig with catalog := true } = .ok whole ∧
        expand whole (mirrorPage "@gh(a/b)" "@gh") = .ok mirrorPageExpanded := by
  have done : expand mirrorTable (mirrorPage "@gh(a/b)" "@gh") = .ok mirrorPageExpanded := by cbv
  have made : Config.table mirrorConfig = .ok mirrorTable := by cbv
  obtain ⟨kept, turned⟩ := expand_kept_by_more_entries mirrorTable _ _ done
  exact ⟨done, kept Catalog.table, made, turned mirrorConfig made⟩

end LinkPress.Document
