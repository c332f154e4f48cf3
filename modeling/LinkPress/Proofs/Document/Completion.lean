import LinkPress.Proofs.Catalog.Answers
import LinkPress.Proofs.Document.Strictness

set_option autoImplicit false

/- Expansion with a table that settles every shortcut leaves none behind, so that a second expansion
   finds nothing to do. The built-in catalog is such a table. -/
namespace LinkPress.Document

open LinkPress.Shortcut
open LinkPress.Target (Introduced)

-- Without shortcuts there is nothing to expand and nothing to report.
theorem expand_ordinary (table : Table) (nodes : List Node)
    (ordinary : ∀ site ∈ links nodes, ¬ Introduced site.link.url) : expand table nodes = .ok nodes := by
  rw [expand_ok_iff]
  refine ⟨?_, (readdress_same _ nodes ?_).symm⟩
  · intro site member
    rw [faults_nil_iff]
    exact fun introduced => absurd introduced (ordinary site member)
  · intro site member
    rcases expanded_url_cases table site with same | ⟨introduced, -⟩
    · exact same
    · exact absurd introduced (ordinary site member)

-- No answer of the table is a shortcut again, and none is withheld without a
-- message.
structure Settles (table : Table) : Prop where
  ordinary : ∀ name option text url, table.resolve name option text = .success url → ¬ Introduced url
  loud : ∀ name option text url, table.resolve name option text ≠ .warning [] url

theorem expand_settled (table : Table) (settles : Settles table) (nodes after : List Node)
    (done : expand table nodes = .ok after) : ∀ site ∈ links after, ¬ Introduced site.link.url := by
  obtain ⟨passing, rfl⟩ := (expand_ok_iff table nodes after).mp done
  rw [links_readdress, List.forall_mem_map]
  intro site member
  change ¬ Introduced (expandedUrl table site)
  rcases expanded_url_cases table site with same | ⟨-, answers⟩
  · rw [same]
    intro introduced
    rcases (faults_nil_iff table site).mp (passing site member) introduced with ⟨url, expands⟩ | ⟨url, answers⟩
    · have answers := (expands_iff table site url).mp expands
      obtain rfl : site.link.url = url := by rw [← same, expanded_url_of_expands table site url expands]
      obtain ⟨target, text, -, -, resolved⟩ := answers
      exact settles.ordinary _ _ _ _ resolved introduced
    · obtain ⟨target, text, -, -, resolved⟩ := answers
      exact settles.loud _ _ _ _ resolved
  · obtain ⟨target, text, -, -, resolved⟩ := answers
    exact settles.ordinary _ _ _ _ resolved

theorem address_not_introduced (address : Url.Address) : ¬ Introduced address.render := by
  simp [Introduced, Url.Address.render]

theorem catalog_settles : Settles Catalog.table where
  ordinary name option text url resolved := by
    have conclusive := Catalog.resolve_conclusive name option text
    rw [resolved] at conclusive
    obtain ⟨address, rfl⟩ := conclusive
    exact address_not_introduced address
  loud name option text url resolved := by
    have conclusive := Catalog.resolve_conclusive name option text
    rw [resolved] at conclusive
    exact conclusive.1 rfl

theorem expand_all_complete (nodes after : List Node) (done : expandAll nodes = .ok after) :
    (∀ target ∈ linkTargets after, ¬ Introduced target) ∧ expandAll after = .ok after := by
  have ordinary := expand_settled Catalog.table catalog_settles nodes after done
  rw [link_targets_links, List.forall_mem_map]
  exact ⟨ordinary, expand_ordinary Catalog.table after ordinary⟩

-- A shortcut in the label of a shortcut, and an ordinary link.
def catalogPage (outer inner : String) : List Node :=
  [.element .paragraph (some .paragraph)
    [.element (.link ⟨.inline, outer, "", ""⟩) (some .link)
      [.element (.image ⟨.inline, "@logo", "", ""⟩) (some .image)
        [.element (.link ⟨.inline, inner, "", ""⟩) (some .link) [.leaf (.text "rust-lang/rust")]]],
      .element (.link ⟨.inline, "notes.html", "", ""⟩) (some .link) []]]

def catalogPageExpanded : List Node :=
  catalogPage "https://fr.wikipedia.org/wiki/Tour_Eiffel" "https://github.com/rust-lang/rust"

theorem catalog_page_complete :
    expandAll (catalogPage "@w:fr(Tour Eiffel)" "@gh") = .ok catalogPageExpanded ∧
      (∀ target ∈ linkTargets catalogPageExpanded, ¬ Introduced target) ∧
      expandAll catalogPageExpanded = .ok catalogPageExpanded := by
  have done : expandAll (catalogPage "@w:fr(Tour Eiffel)" "@gh") = .ok catalogPageExpanded := by rfl
  exact ⟨done, expand_all_complete _ _ done⟩

end LinkPress.Document
