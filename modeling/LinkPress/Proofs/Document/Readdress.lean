import LinkPress.Document.Walk
import Mathlib.Data.List.Forall2

set_option autoImplicit false

/- What a pass over the links of a document does to it. `links` lists the links with their labels
   and `readdress` replaces their addresses; a walk whose answers depend on a link and its label
   only is the two of them together. -/
namespace LinkPress.Document

-- A link where it stands in a document, with the nodes it encloses.
structure LinkSite where
  link : Link
  label : List Node

def Tag.site (label : List Node) : Tag → List LinkSite
  | .link target => [⟨target, label⟩]
  | _ => []

mutual
def Node.links : Node → List LinkSite
  | .leaf _ => []
  | .element tag _ children => links children ++ tag.site children

/-- The links of a document from below: those in a label before the link itself, siblings in
    reading order. -/
def links : List Node → List LinkSite
  | [] => []
  | node :: rest => node.links ++ links rest
end

-- What a pass writes at a link, from the link and the label that was read.
abbrev Addressing := LinkSite → String

def LinkSite.readdress (address : Addressing) (site : LinkSite) : Link :=
  { site.link with url := address site }

def Tag.readdress (address : Addressing) (label : List Node) : Tag → Tag
  | .link target => .link (LinkSite.readdress address ⟨target, label⟩)
  | tag => tag

mutual
def Node.readdress (address : Addressing) : Node → Node
  | .leaf event => .leaf event
  | .element tag closing children =>
      .element (tag.readdress address children) closing (readdress address children)

def readdress (address : Addressing) : List Node → List Node
  | [] => []
  | node :: rest => node.readdress address :: readdress address rest
end

theorem readdress_map (address : Addressing) (nodes : List Node) :
    readdress address nodes = nodes.map (Node.readdress address) := by
  induction nodes with
  | nil => rfl
  | cons node rest ih => rw [readdress, ih, List.map_cons]

theorem plain_text_readdress (address : Addressing) (node : Node) :
    (node.readdress address).plainText? = node.plainText? := by
  cases node <;> rfl

theorem site_readdress (address : Addressing) (label : List Node) (tag : Tag) :
    (tag.readdress address label).site (readdress address label) =
      (tag.site label).map fun site => ⟨site.readdress address, readdress address site.label⟩ := by
  cases tag <;> rfl

mutual
theorem node_links_readdress (address : Addressing) (node : Node) :
    (node.readdress address).links =
      node.links.map fun site => ⟨site.readdress address, readdress address site.label⟩ := by
  cases node with
  | leaf event => rfl
  | element tag closing children =>
      rw [Node.readdress, Node.links, Node.links, List.map_append, links_readdress address children,
        site_readdress address children tag]

theorem links_readdress (address : Addressing) (nodes : List Node) :
    links (readdress address nodes) =
      (links nodes).map fun site => ⟨site.readdress address, readdress address site.label⟩ := by
  cases nodes with
  | nil => rfl
  | cons node rest =>
      rw [readdress, links, links, List.map_append, node_links_readdress address node,
        links_readdress address rest]
end

theorem related_links_readdress (related : LinkSite → LinkSite → Prop) (address : Addressing) (nodes : List Node) :
    List.Forall₂ related (links nodes) (links (readdress address nodes)) ↔
      ∀ site ∈ links nodes, related site ⟨site.readdress address, readdress address site.label⟩ := by
  rw [links_readdress, List.forall₂_map_right_iff, List.forall₂_same]

mutual
theorem node_link_targets (node : Node) : node.linkTargets = node.links.map fun site => site.link.url := by
  cases node with
  | leaf event => rfl
  | element tag closing children =>
      rw [Node.linkTargets, Node.links, List.map_append, link_targets_links children]
      cases tag <;> rfl

theorem link_targets_links (nodes : List Node) : linkTargets nodes = (links nodes).map fun site => site.link.url := by
  cases nodes with
  | nil => rfl
  | cons node rest => rw [linkTargets, links, List.map_append, node_link_targets node, link_targets_links rest]
end

theorem tag_readdress_same (address : Addressing) (tag : Tag) (label : List Node)
    (same : ∀ site ∈ tag.site label, address site = site.link.url) : tag.readdress address label = tag := by
  cases tag with
  | link target => simp [Tag.readdress, LinkSite.readdress, same ⟨target, label⟩ (by simp [Tag.site])]
  | _ => rfl

mutual
theorem node_readdress_same (address : Addressing) (node : Node)
    (same : ∀ site ∈ node.links, address site = site.link.url) : node.readdress address = node := by
  cases node with
  | leaf event => rfl
  | element tag closing children =>
      rw [Node.links, List.forall_mem_append] at same
      rw [Node.readdress, tag_readdress_same address tag children same.2, readdress_same address children same.1]

theorem readdress_same (address : Addressing) (nodes : List Node)
    (same : ∀ site ∈ links nodes, address site = site.link.url) : readdress address nodes = nodes := by
  cases nodes with
  | nil => rfl
  | cons node rest =>
      rw [links, List.forall_mem_append] at same
      rw [readdress, node_readdress_same address node same.1, readdress_same address rest same.2]
end

mutual
theorem node_readdress_congr (first second : Addressing) (node : Node)
    (same : ∀ site ∈ node.links, first site = second site) : node.readdress first = node.readdress second := by
  cases node with
  | leaf event => rfl
  | element tag closing children =>
      rw [Node.links, List.forall_mem_append] at same
      have own : tag.readdress first children = tag.readdress second children := by
        cases tag with
        | link target => simp [Tag.readdress, LinkSite.readdress, same.2 ⟨target, children⟩ (by simp [Tag.site])]
        | _ => rfl
      rw [Node.readdress, Node.readdress, own, readdress_congr first second children same.1]

theorem readdress_congr (first second : Addressing) (nodes : List Node)
    (same : ∀ site ∈ links nodes, first site = second site) : readdress first nodes = readdress second nodes := by
  cases nodes with
  | nil => rfl
  | cons node rest =>
      rw [links, List.forall_mem_append] at same
      rw [readdress, readdress, node_readdress_congr first second node same.1,
        readdress_congr first second rest same.2]
end

-- All of a document but the addresses of its links.
def Node.unaddressed (node : Node) : Node := node.readdress fun _ => ""
def unaddressed (nodes : List Node) : List Node := readdress (fun _ => "") nodes

variable {State : Type}

theorem visit_unaddressed (visit : LinkVisit State) (state : State) (tag : Tag) (closing : Option Closing)
    (children : List Node) :
    (visit.onNode state (.element tag closing children)).1.unaddressed =
      .element (tag.readdress (fun _ => "") []) closing (unaddressed children) := by
  cases tag <;> rfl

mutual
theorem node_walk_unaddressed (visit : LinkVisit State) (state : State) (node : Node) :
    (node.walk visit.onNode state).1.unaddressed = node.unaddressed := by
  cases node with
  | leaf event => rfl
  | element tag closing children =>
      rw [Node.walk]
      dsimp only
      rw [visit_unaddressed, walk_unaddressed visit state children]
      cases tag <;> rfl

theorem walk_unaddressed (visit : LinkVisit State) (state : State) (nodes : List Node) :
    unaddressed (walk visit.onNode state nodes).1 = unaddressed nodes := by
  cases nodes with
  | nil => rfl
  | cons node rest =>
      rw [walk]
      exact List.cons_eq_cons.mpr ⟨node_walk_unaddressed visit state node, walk_unaddressed visit _ rest⟩
end

variable {Note : Type}

-- A visit that answers each link by itself and notes what it found behind the
-- notes of the links before.
def noting (address : Addressing) (note : LinkSite → List Note) : LinkVisit (List Note) :=
  fun seen link label => (address ⟨link, label⟩, seen ++ note ⟨link, label⟩)

-- The walk shows a link the label as rewritten, not as it was read. What it
-- answers must not hang on the addresses inside.
structure LabelStable (address : Addressing) (note : LinkSite → List Note) : Prop where
  address_same : ∀ link label, address ⟨link, readdress address label⟩ = address ⟨link, label⟩
  note_same : ∀ link label, note ⟨link, readdress address label⟩ = note ⟨link, label⟩

theorem noting_element (address : Addressing) (note : LinkSite → List Note)
    (stable : LabelStable address note) (seen : List Note) (tag : Tag) (closing : Option Closing)
    (children : List Node) :
    (noting address note).onNode seen (.element tag closing (readdress address children)) =
      (Node.readdress address (.element tag closing children), seen ++ (tag.site children).flatMap note) := by
  cases tag with
  | link link =>
      simp only [LinkVisit.onNode, noting, Node.readdress, Tag.readdress, Tag.site, LinkSite.readdress,
        stable.address_same, stable.note_same, List.flatMap_cons, List.flatMap_nil, List.append_nil]
  | _ => simp [LinkVisit.onNode, Node.readdress, Tag.readdress, Tag.site]

mutual
theorem node_walk_noting (address : Addressing) (note : LinkSite → List Note)
    (stable : LabelStable address note) (seen : List Note) (node : Node) :
    node.walk (noting address note).onNode seen =
      (node.readdress address, seen ++ node.links.flatMap note) := by
  cases node with
  | leaf event => simp [Node.walk, LinkVisit.onNode, Node.readdress, Node.links]
  | element tag closing children =>
      rw [Node.walk, walk_noting address note stable seen children]
      dsimp only
      rw [noting_element address note stable, Node.links, List.flatMap_append, List.append_assoc]

theorem walk_noting (address : Addressing) (note : LinkSite → List Note)
    (stable : LabelStable address note) (seen : List Note) (nodes : List Node) :
    walk (noting address note).onNode seen nodes =
      (readdress address nodes, seen ++ (links nodes).flatMap note) := by
  cases nodes with
  | nil => simp [walk, readdress, links]
  | cons node rest =>
      rw [walk, node_walk_noting address note stable seen node]
      dsimp only
      rw [walk_noting address note stable _ rest]
      simp only [readdress, links, List.flatMap_append, List.append_assoc]
end

end LinkPress.Document
