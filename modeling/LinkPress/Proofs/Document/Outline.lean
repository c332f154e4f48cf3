import LinkPress.Document.HeadingId
import LinkPress.Proofs.Document.Expansion

set_option autoImplicit false

/- The outline of a document is all of it but its tags. Passes that only rewrite tags keep it, and
   with it all that does not look at tags, such as the text of a document. -/
namespace LinkPress.Document

open LinkPress.Shortcut

mutual
def Node.outline : Node → Node
  | .leaf event => .leaf event
  | .element _ closing children => .element .paragraph closing (outline children)

def outline : List Node → List Node
  | [] => []
  | node :: rest => node.outline :: outline rest
end

theorem outline_map (nodes : List Node) : outline nodes = nodes.map Node.outline := by
  induction nodes with
  | nil => rfl
  | cons node rest ih => rw [outline, ih, List.map_cons]

theorem plain_text_outline (node : Node) : node.outline.plainText? = node.plainText? := by
  cases node <;> rfl

mutual
theorem node_text_outline (node : Node) : node.outline.textContent = node.textContent := by
  cases node with
  | leaf event => rfl
  | element tag closing children => exact text_outline children

theorem text_outline (nodes : List Node) : textContent (outline nodes) = textContent nodes := by
  cases nodes with
  | nil => rfl
  | cons node rest => rw [outline, textContent, textContent, node_text_outline node, text_outline rest]
end

variable {State : Type}

def KeepsOutline (visit : State → Node → Node × State) : Prop :=
  ∀ state node, (visit state node).1.outline = node.outline

mutual
theorem node_walk_outline (visit : State → Node → Node × State) (keeps : KeepsOutline visit) (state : State)
    (node : Node) : (node.walk visit state).1.outline = node.outline := by
  cases node with
  | leaf event => exact keeps state (.leaf event)
  | element tag closing children =>
      rw [Node.walk]
      dsimp only
      rw [keeps, Node.outline, Node.outline, walk_outline visit keeps state children]

theorem walk_outline (visit : State → Node → Node × State) (keeps : KeepsOutline visit) (state : State)
    (nodes : List Node) : outline (walk visit state nodes).1 = outline nodes := by
  cases nodes with
  | nil => rfl
  | cons node rest =>
      rw [walk]
      dsimp only
      rw [outline, outline, node_walk_outline visit keeps state node, walk_outline visit keeps _ rest]
end

theorem link_visit_outline (visit : LinkVisit State) : KeepsOutline visit.onNode := by
  intro state node
  cases node with
  | leaf event => rfl
  | element tag closing children => cases tag <;> rfl

theorem identify_visit_outline : KeepsOutline identifyVisit := by
  intro taken node
  cases node with
  | leaf event => rfl
  | element tag closing children => cases tag <;> rfl

theorem expand_outline (table : Table) (nodes after : List Node) (done : expand table nodes = .ok after) :
    outline after = outline nodes := by
  obtain ⟨-, rfl⟩ := (settle_ok_iff _ _ _).mp done
  exact walk_outline _ (link_visit_outline (expandVisit table)) [] nodes

theorem heading_ids_outline (nodes : List Node) : outline (withHeadingIds nodes) = outline nodes :=
  walk_outline identifyVisit identify_visit_outline [] nodes

end LinkPress.Document
