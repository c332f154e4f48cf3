import LinkPress.Compiler
import LinkPress.Proofs.Document.Completion
import Mathlib

set_option autoImplicit false

/- Link targets as all that expansion does to a page. Documents that differ in their targets only are told
   apart by the list of them, so a document given the targets of its expansion, one after the other, is its
   expansion, and a compiler that expands shortcuts writes the page of the plain document with other targets. -/
namespace LinkPress.Document

open LinkPress.Shortcut
open LinkPress.Target (Introduced)

-- Each link takes the next target. A link that finds none is left as it is.
def takeTarget : LinkVisit (List String)
  | [], link, _ => (link.url, [])
  | target :: rest, _, _ => (target, rest)

def retarget (targets : List String) (nodes : List Node) : List Node := (walkLinks takeTarget targets nodes).1

theorem take_target_takes (tag : Tag) (closing : Option Closing) (children : List Node) (targets : List String)
    (enough : tag.linkTarget.length ≤ targets.length) :
    (takeTarget.onNode targets (.element tag closing children)).1.linkTargets =
        linkTargets children ++ targets.take tag.linkTarget.length ∧
      (takeTarget.onNode targets (.element tag closing children)).2 = targets.drop tag.linkTarget.length := by
  cases tag with
  | link link =>
      cases targets with
      | nil => exact absurd enough (Nat.not_succ_le_zero 0)
      | cons target rest => exact ⟨rfl, rfl⟩
  | _ => exact ⟨rfl, rfl⟩

-- A document takes as many targets as it has links, and has them in that order afterwards.
mutual
theorem node_walk_takes (node : Node) (targets : List String) (enough : node.linkTargets.length ≤ targets.length) :
    (node.walk takeTarget.onNode targets).1.linkTargets = targets.take node.linkTargets.length ∧
      (node.walk takeTarget.onNode targets).2 = targets.drop node.linkTargets.length := by
  cases node with
  | leaf event => cases targets <;> exact ⟨rfl, rfl⟩
  | element tag closing children =>
      rw [Node.linkTargets, List.length_append] at enough ⊢
      obtain ⟨taken, left⟩ := walk_takes children targets (by omega)
      rw [Node.walk]
      dsimp only
      rw [left, List.take_add, ← List.drop_drop, ← taken]
      exact take_target_takes tag closing _ _ (by rw [List.length_drop]; omega)

theorem walk_takes (nodes : List Node) (targets : List String) (enough : (linkTargets nodes).length ≤ targets.length) :
    linkTargets (walk takeTarget.onNode targets nodes).1 = targets.take (linkTargets nodes).length ∧
      (walk takeTarget.onNode targets nodes).2 = targets.drop (linkTargets nodes).length := by
  cases nodes with
  | nil => exact ⟨rfl, rfl⟩
  | cons node more =>
      rw [linkTargets, List.length_append] at enough ⊢
      obtain ⟨taken, left⟩ := node_walk_takes node targets (by omega)
      obtain ⟨takenMore, leftMore⟩ := walk_takes more (targets.drop node.linkTargets.length)
        (by rw [List.length_drop]; omega)
      rw [walk]
      dsimp only
      rw [linkTargets, left, taken, takenMore, leftMore, List.take_add, List.drop_drop]
      exact ⟨rfl, rfl⟩
end

theorem retarget_targets (targets : List String) (nodes : List Node)
    (count : targets.length = (linkTargets nodes).length) : linkTargets (retarget targets nodes) = targets := by
  rw [retarget, walkLinks, (walk_takes nodes targets (Nat.le_of_eq count.symm)).1, ← count, List.take_length]

-- The targets of a document, handed out to its links in visiting order, give it back.
mutual
theorem node_walk_own_targets (node : Node) (rest : List String) :
    node.unaddressed.walk takeTarget.onNode (node.linkTargets ++ rest) = (node, rest) := by
  cases node with
  | leaf event => cases rest <;> rfl
  | element tag closing children =>
      have inside := walk_own_targets children (tag.linkTarget ++ rest)
      rw [unaddressed] at inside
      rw [Node.unaddressed, Node.readdress, Node.linkTargets, List.append_assoc, Node.walk, inside]
      cases tag <;> rfl

theorem walk_own_targets (nodes : List Node) (rest : List String) :
    walk takeTarget.onNode (linkTargets nodes ++ rest) (unaddressed nodes) = (nodes, rest) := by
  cases nodes with
  | nil => rfl
  | cons node more =>
      have first := node_walk_own_targets node (linkTargets more ++ rest)
      have others := walk_own_targets more rest
      rw [Node.unaddressed] at first
      rw [unaddressed] at others
      rw [unaddressed, readdress, linkTargets, List.append_assoc, walk, first]
      dsimp only
      rw [others]
end

theorem retarget_own (nodes : List Node) : retarget (linkTargets nodes) (unaddressed nodes) = nodes := by
  have walked := walk_own_targets nodes []
  rw [List.append_nil] at walked
  rw [retarget, walkLinks, walked]

-- Nothing else tells two documents apart.
theorem targets_determine (nodes other : List Node) (same : unaddressed nodes = unaddressed other)
    (targets : linkTargets nodes = linkTargets other) : nodes = other := by
  rw [← retarget_own nodes, same, targets, retarget_own other]

theorem targets_readdress (address : Addressing) (nodes : List Node) :
    (linkTargets (readdress address nodes)).length = (linkTargets nodes).length := by
  rw [link_targets_links, link_targets_links, links_readdress, List.length_map, List.length_map, List.length_map]

theorem targets_same_length (nodes after : List Node) (same : unaddressed after = unaddressed nodes) :
    (linkTargets after).length = (linkTargets nodes).length := by
  have lengths := congrArg (fun document => (linkTargets document).length) same
  simpa only [unaddressed, targets_readdress] using lengths

theorem retarget_same (nodes after : List Node) (same : unaddressed after = unaddressed nodes) :
    retarget (linkTargets after) nodes = after := by
  apply targets_determine
  · exact (walk_unaddressed takeTarget _ nodes).trans same.symm
  · exact retarget_targets _ nodes (targets_same_length nodes after same)

theorem expand_unaddressed (table : Table) (nodes after : List Node) (done : expand table nodes = .ok after) :
    unaddressed after = unaddressed nodes := by
  obtain ⟨-, rfl⟩ := (settle_ok_iff _ _ _).mp done
  exact walk_unaddressed (expandVisit table) [] nodes

theorem expand_retargets (table : Table) (nodes after : List Node) (done : expand table nodes = .ok after) :
    (linkTargets after).length = (linkTargets nodes).length ∧ retarget (linkTargets after) nodes = after := by
  have same := expand_unaddressed table nodes after done
  exact ⟨targets_same_length nodes after same, retarget_same nodes after same⟩

theorem expand_unshortened (table : Table) (nodes : List Node)
    (ordinary : ∀ target ∈ linkTargets nodes, ¬ Introduced target) : expand table nodes = .ok nodes := by
  rw [link_targets_links, List.forall_mem_map] at ordinary
  exact expand_ordinary table nodes ordinary

end LinkPress.Document

namespace LinkPress.Compiler

open LinkPress.Document (WriterOptions expand expand_retargets expand_unshortened linkTargets retarget retarget_targets)
open LinkPress.Markdown (ReaderOptions)
open LinkPress.Target (Introduced)

variable (reader : ReaderOptions) (writer : WriterOptions) (table : Shortcut.Table) (text : String)

theorem compile_ok_iff (html : String) :
    compile ⟨reader, writer, some table⟩ text = .ok html ↔
      ∃ after, expand table (Markdown.read reader text) = .ok after ∧ html = Document.html writer after := by
  rw [compile]
  dsimp only
  cases expand table (Markdown.read reader text) with
  | error messages => simp [Except.map]
  | ok after => simp [Except.map, eq_comm]

theorem compile_unshortened (ordinary : ∀ target ∈ linkTargets (Markdown.read reader text), ¬ Introduced target) :
    compile ⟨reader, writer, some table⟩ text = .ok (Document.html writer (Markdown.read reader text)) :=
  (compile_ok_iff reader writer table text _).mpr ⟨_, expand_unshortened table _ ordinary, rfl⟩

theorem pages_differ_by_targets :
    ((∀ target ∈ linkTargets (Markdown.read reader text), ¬ Introduced target) →
      ∃ html, compile ⟨reader, writer, none⟩ text = .ok html ∧
        compile ⟨reader, writer, some Catalog.table⟩ text = .ok html ∧
        compile ⟨reader, writer, some table⟩ text = .ok html) ∧
    ∀ html, compile ⟨reader, writer, some table⟩ text = .ok html ↔
      ∃ after, expand table (Markdown.read reader text) = .ok after ∧
        (linkTargets after).length = (linkTargets (Markdown.read reader text)).length ∧
        linkTargets (retarget (linkTargets after) (Markdown.read reader text)) = linkTargets after ∧
        html = Document.html writer (retarget (linkTargets after) (Markdown.read reader text)) := by
  constructor
  · intro ordinary
    exact ⟨_, rfl, compile_unshortened reader writer Catalog.table text ordinary,
      compile_unshortened reader writer table text ordinary⟩
  · intro html
    rw [compile_ok_iff]
    constructor
    · rintro ⟨after, done, rfl⟩
      obtain ⟨count, same⟩ := expand_retargets table _ after done
      exact ⟨after, done, count, retarget_targets _ _ count, by rw [same]⟩
    · rintro ⟨after, done, -, -, rfl⟩
      exact ⟨after, done, by rw [(expand_retargets table _ after done).2]⟩

-- An ordinary link, and behind it what may be a shortcut.
def linkPair (target : String) : List Document.Node :=
  [.element .paragraph (some .paragraph)
    [.element (.link ⟨.inline, "b", "", ""⟩) (some .link) [.leaf (.text "a")], .leaf (.text " "),
      .element (.link ⟨.inline, target, "", ""⟩) (some .link) [.leaf (.text "x")]]]

theorem link_pair_written :
    ((∀ target ∈ linkTargets (Markdown.read .default "[a](b)"), ¬ Introduced target) ∧
      ∃ html, compile ⟨.default, .default, none⟩ "[a](b)" = .ok html ∧
        compile ⟨.default, .default, some Catalog.table⟩ "[a](b)" = .ok html ∧
        compile ⟨.default, .default, some .empty⟩ "[a](b)" = .ok html) ∧
    compile ⟨.default, .default, some Catalog.table⟩ "[a](b) [x](@gem)" =
      .ok "<p><a href=\"b\">a</a> <a href=\"https://rubygems.org/gems/x\">x</a></p>\n" := by
  constructor
  · have targets : linkTargets (Markdown.read .default "[a](b)") = ["b"] := by cbv
    have ordinary : ∀ target ∈ linkTargets (Markdown.read .default "[a](b)"), ¬ Introduced target := by
      rw [targets]
      decide
    exact ⟨ordinary, (pages_differ_by_targets .default .default .empty "[a](b)").1 ordinary⟩
  · have read : Markdown.read .default "[a](b) [x](@gem)" = linkPair "@gem" := by cbv
    have done : expand Catalog.table (linkPair "@gem") = .ok (linkPair "https://rubygems.org/gems/x") := by rfl
    have written : Document.html .default (linkPair "https://rubygems.org/gems/x") =
        "<p><a href=\"b\">a</a> <a href=\"https://rubygems.org/gems/x\">x</a></p>\n" := by rfl
    rw [(pages_differ_by_targets .default .default Catalog.table _).2, read]
    refine ⟨_, done, rfl, rfl, ?_⟩
    rw [(expand_retargets Catalog.table _ _ done).2, written]

end LinkPress.Compiler
