import LinkPress.Proofs.Document.Frame
import LinkPress.Proofs.Document.Outline
import LinkPress.Proofs.Document.Retargeting

set_option autoImplicit false

/- Expansion and heading ids do not get in each other's way. Expansion reads a link and the outline of its
   label, a heading is given its id from the outline beneath it, and both passes keep the outline, so it does
   not matter which one goes first. -/
namespace LinkPress.Document

open LinkPress.Shortcut

variable {State : Type}

-- The visitor learns no more of a label than its outline.
def OutlineOnly (visit : LinkVisit State) : Prop :=
  ∀ state link label, visit state link (outline label) = visit state link label

theorem label_text_outline (label : List Node) : labelText (outline label) = labelText label := by
  rw [outline_map]
  exact label_text_map _ plain_text_outline label

theorem expand_visit_outline_only (table : Table) : OutlineOnly (expandVisit table) := by
  intro faults link label
  simp only [expandVisit, expandLink, label_text_outline]

theorem visit_same_outline (visit : LinkVisit State) (only : OutlineOnly visit) (state : State) (link : Link)
    (label other : List Node) (same : outline label = outline other) :
    visit state link label = visit state link other := by
  rw [← only state link label, same, only]

theorem text_same_outline (nodes other : List Node) (same : outline nodes = outline other) :
    textContent nodes = textContent other := by
  rw [← text_outline nodes, same, text_outline]

-- An element with its children as the first pass, the second pass or both have left them. The tag that one
-- of the passes may change is not looked at by the other.
theorem visits_commute (visit : LinkVisit State) (only : OutlineOnly visit) (state : State) (taken : List String)
    (tag : Tag) (closing : Option Closing) (linked headed both : List Node) (sameLinked : outline linked = outline both)
    (sameHeaded : outline headed = outline both) :
    ∃ readdressed identified either state' taken',
      visit.onNode state (.element tag closing linked) = (.element readdressed closing linked, state') ∧
      identifyVisit taken (.element tag closing headed) = (.element identified closing headed, taken') ∧
      visit.onNode state (.element identified closing both) = (.element either closing both, state') ∧
      identifyVisit taken (.element readdressed closing both) = (.element either closing both, taken') := by
  cases tag with
  | link link =>
      refine ⟨_, _, _, _, _, rfl, rfl, ?_, rfl⟩
      rw [visit_same_outline visit only state link linked both sameLinked]
      rfl
  | heading heading =>
      refine ⟨_, _, _, _, _, rfl, rfl, rfl, ?_⟩
      rw [text_same_outline headed both sameHeaded]
      rfl
  | _ => exact ⟨_, _, _, _, _, rfl, rfl, rfl, rfl⟩

-- Either order leaves the same nodes, and each pass ends in the state that it ends in alone. The ids that are
-- taken in front of a heading are therefore the same with and without expansion.
mutual
theorem node_walks_commute (visit : LinkVisit State) (only : OutlineOnly visit) (state : State) (taken : List String)
    (node : Node) :
    (node.walk identifyVisit taken).1.walk visit.onNode state =
        (((node.walk visit.onNode state).1.walk identifyVisit taken).1, (node.walk visit.onNode state).2) ∧
      ((node.walk visit.onNode state).1.walk identifyVisit taken).2 = (node.walk identifyVisit taken).2 := by
  cases node with
  | leaf event => exact ⟨rfl, rfl⟩
  | element tag closing children =>
      obtain ⟨walked, sameTaken⟩ := walks_commute visit only state taken children
      have keptLinked := walk_outline identifyVisit identify_visit_outline taken (walk visit.onNode state children).1
      have keptHeaded :
          outline (walk identifyVisit taken children).1 = outline (walk visit.onNode state children).1 := by
        rw [walk_outline identifyVisit identify_visit_outline, walk_outline visit.onNode (link_visit_outline visit)]
      obtain ⟨readdressed, identified, either, state', taken', linked, headed, headedLinked, linkedHeaded⟩ :=
        visits_commute visit only (walk visit.onNode state children).2 (walk identifyVisit taken children).2 tag closing
          _ _ _ keptLinked.symm (keptHeaded.trans keptLinked.symm)
      have first : (Node.element tag closing children).walk visit.onNode state =
          (.element readdressed closing (walk visit.onNode state children).1, state') := by
        rw [Node.walk]
        exact linked
      have second : (Node.element tag closing children).walk identifyVisit taken =
          (.element identified closing (walk identifyVisit taken children).1, taken') := by
        rw [Node.walk]
        exact headed
      rw [first, second, Node.walk, walked, Node.walk]
      dsimp only
      rw [sameTaken, headedLinked, linkedHeaded]
      exact ⟨rfl, rfl⟩

theorem walks_commute (visit : LinkVisit State) (only : OutlineOnly visit) (state : State) (taken : List String)
    (nodes : List Node) :
    walk visit.onNode state (walk identifyVisit taken nodes).1 =
        ((walk identifyVisit taken (walk visit.onNode state nodes).1).1, (walk visit.onNode state nodes).2) ∧
      (walk identifyVisit taken (walk visit.onNode state nodes).1).2 = (walk identifyVisit taken nodes).2 := by
  cases nodes with
  | nil => exact ⟨rfl, rfl⟩
  | cons node rest =>
      obtain ⟨first, sameFirst⟩ := node_walks_commute visit only state taken node
      obtain ⟨others, sameOthers⟩ :=
        walks_commute visit only (node.walk visit.onNode state).2 (node.walk identifyVisit taken).2 rest
      simp only [walk, first, sameFirst, others, sameOthers, and_self]
end

theorem expand_with_heading_ids (table : Table) (nodes : List Node) :
    expand table (withHeadingIds nodes) = (expand table nodes).map withHeadingIds := by
  have walked := (walks_commute (expandVisit table) (expand_visit_outline_only table) [] [] nodes).1
  rw [expand, expand, walkLinks, walkLinks, withHeadingIds, walked]
  dsimp only
  cases (walk (expandVisit table).onNode [] nodes).2 with
  | nil => rfl
  | cons fault more => rfl

def Node.children : Node → List Node
  | .leaf _ => []
  | .element _ _ children => children

def Node.below? : List Nat → Node → Option Node
  | [], node => some node
  | i :: path, node => node.children[i]?.bind (below? path)

-- The node that a path leads to. Each step of it counts siblings.
def nodeAt? (nodes : List Node) : List Nat → Option Node
  | [] => none
  | i :: path => nodes[i]?.bind (Node.below? path)

def Node.heading? : Node → Option Heading
  | .element (.heading heading) _ _ => some heading
  | _ => none

theorem children_unaddressed (node : Node) : node.unaddressed.children = node.children.map Node.unaddressed := by
  cases node with
  | leaf event => rfl
  | element tag closing children => exact readdress_map _ children

theorem below_unaddressed (path : List Nat) (node : Node) :
    node.unaddressed.below? path = (node.below? path).map Node.unaddressed := by
  induction path generalizing node with
  | nil => rfl
  | cons i path ih =>
      rw [Node.below?, Node.below?, children_unaddressed, List.getElem?_map]
      cases node.children[i]? with
      | none => rfl
      | some child => exact ih child

theorem node_at_unaddressed (nodes : List Node) (path : List Nat) :
    nodeAt? (unaddressed nodes) path = (nodeAt? nodes path).map Node.unaddressed := by
  cases path with
  | nil => rfl
  | cons i path =>
      rw [nodeAt?, nodeAt?, unaddressed, readdress_map, List.getElem?_map]
      cases nodes[i]? with
      | none => rfl
      | some node => exact below_unaddressed path node

-- What does not hang on link targets is the same at every path of documents that differ in those only.
theorem same_at {α : Type} (view : Node → α) (blind : ∀ node, view node.unaddressed = view node)
    (nodes after : List Node) (same : unaddressed after = unaddressed nodes) (path : List Nat) :
    (nodeAt? after path).map view = (nodeAt? nodes path).map view := by
  have seen (document : List Node) :
      (nodeAt? document path).map view = (nodeAt? (unaddressed document) path).map view := by
    rw [node_at_unaddressed, Option.map_map]
    exact congrArg (Option.map · _) (funext fun node => (blind node).symm)
  rw [seen after, seen nodes, same]

mutual
theorem node_text_readdress (address : Addressing) (node : Node) :
    (node.readdress address).textContent = node.textContent := by
  cases node with
  | leaf event => rfl
  | element tag closing children => exact text_readdress address children

theorem text_readdress (address : Addressing) (nodes : List Node) :
    textContent (readdress address nodes) = textContent nodes := by
  cases nodes with
  | nil => rfl
  | cons node rest =>
      rw [readdress, textContent, textContent, node_text_readdress address node, text_readdress address rest]
end

theorem heading_unaddressed (node : Node) : node.unaddressed.heading? = node.heading? := by
  cases node with
  | leaf event => rfl
  | element tag closing children => cases tag <;> rfl

theorem expansion_independent_of_heading_ids (table : Table) (nodes after : List Node)
    (done : expand table nodes = .ok after) :
    expand table (withHeadingIds nodes) = .ok (withHeadingIds after) ∧
      (∀ path, (nodeAt? (withHeadingIds after) path).map Node.heading? =
        (nodeAt? (withHeadingIds nodes) path).map Node.heading?) ∧
      ∀ path, (nodeAt? after path).map Node.textContent = (nodeAt? nodes path).map Node.textContent := by
  have identified : expand table (withHeadingIds nodes) = .ok (withHeadingIds after) := by
    rw [expand_with_heading_ids, done]
    rfl
  refine ⟨identified, ?_, ?_⟩
  · exact same_at Node.heading? heading_unaddressed _ _ (expand_unaddressed table _ _ identified)
  · exact same_at Node.textContent (node_text_readdress _) _ _ (expand_unaddressed table _ _ done)

-- Two headings of the same text. The second one is never closed, and its link stands in an image.
def introPages (first second : Option String) (target : String) : List Node :=
  [.element (.heading ⟨1, first, [], []⟩) (some (.heading 1))
      [.element (.link ⟨.inline, target, "", ""⟩) (some .link) [.leaf (.text "Intro")]],
    .element (.heading ⟨2, second, [], []⟩) none
      [.element (.image ⟨.inline, "@posts", "", ""⟩) none
        [.element (.link ⟨.inline, target, "", ""⟩) none [.leaf (.text "Intro")]]]]

theorem intro_pages_independent :
    expand postsTable (introPages none none "@posts") = .ok (introPages none none "posts/Intro") ∧
      expand postsTable (introPages (some "intro") (some "intro-1") "@posts") =
        .ok (introPages (some "intro") (some "intro-1") "posts/Intro") ∧
      (nodeAt? (withHeadingIds (introPages none none "posts/Intro")) [1]).map Node.heading? =
        some (some ⟨2, some "intro-1", [], []⟩) ∧
      (nodeAt? (introPages none none "posts/Intro") [1, 0, 0]).map Node.textContent = some "Intro" := by
  have done : expand postsTable (introPages none none "@posts") = .ok (introPages none none "posts/Intro") := by rfl
  have given (target : String) :
      withHeadingIds (introPages none none target) = introPages (some "intro") (some "intro-1") target := by cbv
  obtain ⟨commuted, ids, texts⟩ := expansion_independent_of_heading_ids postsTable _ _ done
  rw [given, given] at commuted
  refine ⟨done, commuted, ?_, ?_⟩
  · rw [ids, given]
    rfl
  · rw [texts]
    rfl

end LinkPress.Document
