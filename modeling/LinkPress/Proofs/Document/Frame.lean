import LinkPress.Proofs.Document.Expansion

set_option autoImplicit false

/- What expansion leaves alone. Event by event the document stays as it was, but for the address of
   a shortcut link, which may become the one its own target and text stand for. -/
namespace LinkPress.Document

open LinkPress.Shortcut
open LinkPress.Target (Introduced)

-- An event of a document with the content of the element it opens. A leaf that
-- happens to be a start opens no element.
structure Occurrence where
  event : Event
  content : Option (List Node)

def closeOccurrences (closing : Option Closing) : List Occurrence :=
  (closeEvents closing).map fun event => ⟨event, none⟩

mutual
def Node.occurrences : Node → List Occurrence
  | .leaf event => [⟨event, none⟩]
  | .element tag closing children =>
      ⟨.start tag, some children⟩ :: (occurrences children ++ closeOccurrences closing)

def occurrences : List Node → List Occurrence
  | [] => []
  | node :: rest => node.occurrences ++ occurrences rest
end

theorem close_occurrences_events (closing : Option Closing) :
    (closeOccurrences closing).map Occurrence.event = closeEvents closing := by
  cases closing <;> rfl

mutual
theorem node_occurrences_events (node : Node) : node.occurrences.map Occurrence.event = node.toEvents := by
  cases node with
  | leaf event => rfl
  | element tag closing children =>
      rw [Node.occurrences, Node.toEvents, List.map_cons, List.map_append, occurrences_events children,
        close_occurrences_events]

theorem occurrences_events (nodes : List Node) : (occurrences nodes).map Occurrence.event = toEvents nodes := by
  cases nodes with
  | nil => rfl
  | cons node rest =>
      rw [occurrences, toEvents, List.map_append, node_occurrences_events node, occurrences_events rest]
end

def Occurrence.readdress (address : Addressing) : Occurrence → Event
  | ⟨.start tag, some label⟩ => .start (tag.readdress address label)
  | ⟨event, _⟩ => event

theorem close_occurrences_readdress (address : Addressing) (closing : Option Closing) :
    (closeOccurrences closing).map (Occurrence.readdress address) = closeEvents closing := by
  cases closing <;> rfl

mutual
theorem node_events_readdress (address : Addressing) (node : Node) :
    (node.readdress address).toEvents = node.occurrences.map (Occurrence.readdress address) := by
  cases node with
  | leaf event => cases event <;> rfl
  | element tag closing children =>
      rw [Node.readdress, Node.toEvents, Node.occurrences, List.map_cons, List.map_append,
        events_readdress address children, close_occurrences_readdress]
      rfl

theorem events_readdress (address : Addressing) (nodes : List Node) :
    toEvents (readdress address nodes) = (occurrences nodes).map (Occurrence.readdress address) := by
  cases nodes with
  | nil => rfl
  | cons node rest =>
      rw [readdress, toEvents, occurrences, List.map_append, node_events_readdress address node,
        events_readdress address rest]
end

inductive Framed (table : Table) : Occurrence → Event → Prop where
  | unchanged (occurrence : Occurrence) : Framed table occurrence occurrence.event
  | expanded (link : Link) (label : List Node) (url : String) (introduced : Introduced link.url)
      (answers : Answers table ⟨link, label⟩ (.success url)) :
      Framed table ⟨.start (.link link), some label⟩ (.start (.link { link with url := url }))

theorem tag_framed (table : Table) (tag : Tag) (label : List Node) :
    Framed table ⟨.start tag, some label⟩ (.start (tag.readdress (expandedUrl table) label)) := by
  cases tag with
  | link target =>
      rw [Tag.readdress, LinkSite.readdress]
      rcases expanded_url_cases table ⟨target, label⟩ with same | ⟨introduced, answers⟩
      · rw [same]
        exact .unchanged ⟨.start (.link target), some label⟩
      · exact .expanded target label _ introduced answers
  | _ => exact .unchanged _

theorem readdress_framed (table : Table) (occurrence : Occurrence) :
    Framed table occurrence (occurrence.readdress (expandedUrl table)) := by
  obtain ⟨event, content⟩ := occurrence
  cases content with
  | none => cases event <;> exact .unchanged _
  | some label =>
      cases event with
      | start tag => exact tag_framed table tag label
      | _ => exact .unchanged _

theorem expand_events_framed (table : Table) (nodes after : List Node) (done : expand table nodes = .ok after) :
    (occurrences nodes).map Occurrence.event = toEvents nodes ∧
      (toEvents after).length = (toEvents nodes).length ∧
      List.Forall₂ (Framed table) (occurrences nodes) (toEvents after) := by
  obtain ⟨-, rfl⟩ := (expand_ok_iff table nodes after).mp done
  have events := occurrences_events nodes
  rw [events_readdress]
  refine ⟨events, ?_, ?_⟩
  · rw [← events, List.length_map, List.length_map]
  · rw [List.forall₂_map_right_iff, List.forall₂_same]
    exact fun occurrence _ => readdress_framed table occurrence

def postsTable : Table := ⟨[⟨["posts"], fun _ text => .success ("posts/" ++ text)⟩]⟩

-- An image and an unclosed link within a link.
def nestedPage (outer inner : String) : List Node :=
  [.element (.heading ⟨1, some "top", [], []⟩) (some (.heading 1))
    [.element (.link ⟨.reference, outer, "title", "id"⟩) (some .link)
      [.element (.image ⟨.inline, "@posts", "", ""⟩) none
        [.element (.link ⟨.inline, inner, "", ""⟩) none [.leaf (.text "label")]]]],
    .leaf .rule]

theorem nested_page_framed :
    expand postsTable (nestedPage "@posts:tag(text)" "@posts") =
        .ok (nestedPage "posts/text" "posts/label") ∧
      List.Forall₂ (Framed postsTable) (occurrences (nestedPage "@posts:tag(text)" "@posts"))
        (toEvents (nestedPage "posts/text" "posts/label")) := by
  have done : expand postsTable (nestedPage "@posts:tag(text)" "@posts") =
      .ok (nestedPage "posts/text" "posts/label") := by rfl
  exact ⟨done, (expand_events_framed _ _ _ done).2.2⟩

end LinkPress.Document
