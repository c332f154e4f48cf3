import LinkPress.Proofs.Document.Retargeting

set_option autoImplicit false

/- What a visitor of links is shown and what it leaves. It is shown each link once, with the target that is
   listed for it, while the links in front are already changed; the targets it leaves are those that are
   listed afterwards, and nothing else of the document is touched. -/
namespace LinkPress.Document

variable {State : Type}

-- A link as it is shown to a visitor, and the target it is left with.
structure Visited where
  link : Link
  left : String

-- The visitor with a log behind its state.
def LinkVisit.logged (visit : LinkVisit State) : LinkVisit (State × List Visited) :=
  fun (state, log) link label =>
    let (url, state) := visit state link label
    (url, state, log ++ [⟨link, url⟩])

theorem logged_element (visit : LinkVisit State) (state : State) (log : List Visited) (tag : Tag)
    (closing : Option Closing) (children : List Node) :
    ∃ visits, visit.logged.onNode (state, log) (.element tag closing children) =
        ((visit.onNode state (.element tag closing children)).1,
          (visit.onNode state (.element tag closing children)).2, log ++ visits) ∧
      visits.map (fun visited => visited.link.url) = tag.linkTarget ∧
      (visit.onNode state (.element tag closing children)).1.linkTargets =
        linkTargets children ++ visits.map Visited.left := by
  cases tag with
  | link link => exact ⟨[⟨link, (visit state link children).1⟩], rfl, rfl, rfl⟩
  | _ => exact ⟨[], by simp [LinkVisit.onNode], rfl, rfl⟩

mutual
theorem node_walk_logged (visit : LinkVisit State) (state : State) (log : List Visited) (node : Node) :
    ∃ visits, node.walk visit.logged.onNode (state, log) =
        ((node.walk visit.onNode state).1, (node.walk visit.onNode state).2, log ++ visits) ∧
      visits.map (fun visited => visited.link.url) = node.linkTargets ∧
      visits.map Visited.left = (node.walk visit.onNode state).1.linkTargets := by
  cases node with
  | leaf event => exact ⟨[], by simp [Node.walk, LinkVisit.onNode], rfl, rfl⟩
  | element tag closing children =>
      obtain ⟨inside, walked, seen, left⟩ := walk_logged visit state log children
      obtain ⟨own, visited, seenOwn, leftOwn⟩ := logged_element visit (walk visit.onNode state children).2
        (log ++ inside) tag closing (walk visit.onNode state children).1
      refine ⟨inside ++ own, ?_, ?_, ?_⟩
      · rw [Node.walk, walked]
        dsimp only
        rw [visited, List.append_assoc, Node.walk]
      · rw [List.map_append, seen, seenOwn, Node.linkTargets]
      · rw [List.map_append, left, Node.walk]
        exact leftOwn.symm

theorem walk_logged (visit : LinkVisit State) (state : State) (log : List Visited) (nodes : List Node) :
    ∃ visits, walk visit.logged.onNode (state, log) nodes =
        ((walk visit.onNode state nodes).1, (walk visit.onNode state nodes).2, log ++ visits) ∧
      visits.map (fun visited => visited.link.url) = linkTargets nodes ∧
      visits.map Visited.left = linkTargets (walk visit.onNode state nodes).1 := by
  cases nodes with
  | nil => exact ⟨[], by simp [walk], rfl, rfl⟩
  | cons node rest =>
      obtain ⟨first, walked, seen, left⟩ := node_walk_logged visit state log node
      obtain ⟨others, walkedRest, seenRest, leftRest⟩ :=
        walk_logged visit (node.walk visit.onNode state).2 (log ++ first) rest
      refine ⟨first ++ others, ?_, ?_, ?_⟩
      · rw [walk, walked]
        dsimp only
        rw [walkedRest, List.append_assoc, walk]
      · rw [List.map_append, seen, seenRest, linkTargets]
      · rw [List.map_append, left, leftRest, walk, linkTargets]
end

theorem walk_links_iff (visit : LinkVisit State) (state : State) (nodes after : List Node) :
    (walkLinks visit state nodes).1 = after ↔
      unaddressed after = unaddressed nodes ∧ linkTargets after = linkTargets (walkLinks visit state nodes).1 := by
  have kept : unaddressed (walkLinks visit state nodes).1 = unaddressed nodes := walk_unaddressed visit state nodes
  constructor
  · rintro rfl
    exact ⟨kept, rfl⟩
  · rintro ⟨same, targets⟩
    exact targets_determine _ _ (kept.trans same.symm) targets.symm

-- A visitor that counts the links and sets the target of one of them.
def placing (i : Nat) (url : String) : LinkVisit Nat := fun n link _ => (if n = i then url else link.url, n + 1)

def setTarget (i : Nat) (url : String) (nodes : List Node) : List Node := (walkLinks (placing i url) 0 nodes).1

def placed (i : Nat) (url : String) (n : Nat) (targets : List String) : List String :=
  targets.mapIdx fun k target => if n + k = i then url else target

theorem placed_append (i : Nat) (url : String) (n : Nat) (front back : List String) :
    placed i url n (front ++ back) = placed i url n front ++ placed i url (n + front.length) back := by
  simp only [placed, List.mapIdx_append, Nat.add_assoc, Nat.add_comm front.length]

theorem placed_set (i : Nat) (url : String) (targets : List String) : placed i url 0 targets = targets.set i url := by
  apply List.ext_getElem?
  intro k
  rw [placed, List.getElem?_mapIdx, List.getElem?_set]
  by_cases same : i = k
  · subst same
    by_cases below : i < targets.length
    · simp [below]
    · simp [below]
  · simp [same, Ne.symm same]

theorem placing_element (i : Nat) (url : String) (n : Nat) (tag : Tag) (closing : Option Closing)
    (children : List Node) :
    ((placing i url).onNode n (.element tag closing children)).1.linkTargets =
        linkTargets children ++ placed i url n tag.linkTarget ∧
      ((placing i url).onNode n (.element tag closing children)).2 = n + tag.linkTarget.length := by
  cases tag <;> exact ⟨rfl, rfl⟩

mutual
theorem node_walk_placing (i : Nat) (url : String) (n : Nat) (node : Node) :
    (node.walk (placing i url).onNode n).1.linkTargets = placed i url n node.linkTargets ∧
      (node.walk (placing i url).onNode n).2 = n + node.linkTargets.length := by
  cases node with
  | leaf event => exact ⟨rfl, rfl⟩
  | element tag closing children =>
      obtain ⟨targets, count⟩ := walk_placing i url n children
      obtain ⟨own, counted⟩ := placing_element i url (walk (placing i url).onNode n children).2 tag closing
        (walk (placing i url).onNode n children).1
      rw [Node.walk, Node.linkTargets, placed_append, List.length_append, ← Nat.add_assoc, ← targets, ← count]
      exact ⟨own, counted⟩

theorem walk_placing (i : Nat) (url : String) (n : Nat) (nodes : List Node) :
    linkTargets (walk (placing i url).onNode n nodes).1 = placed i url n (linkTargets nodes) ∧
      (walk (placing i url).onNode n nodes).2 = n + (linkTargets nodes).length := by
  cases nodes with
  | nil => exact ⟨rfl, rfl⟩
  | cons node rest =>
      obtain ⟨first, count⟩ := node_walk_placing i url n node
      obtain ⟨others, counted⟩ := walk_placing i url (node.walk (placing i url).onNode n).2 rest
      rw [linkTargets, placed_append, List.length_append, ← Nat.add_assoc, ← first, ← count, ← others,
        ← counted]
      exact ⟨rfl, rfl⟩
end

theorem set_target_targets (i : Nat) (url : String) (nodes : List Node) :
    linkTargets (setTarget i url nodes) = (linkTargets nodes).set i url := by
  rw [setTarget, walkLinks, (walk_placing i url 0 nodes).1, placed_set]

-- One document only has the targets that were left and is otherwise as before.
theorem link_targets_follow_visits (visit : LinkVisit State) (state : State) (nodes : List Node) :
    (∃ visits, walkLinks visit.logged (state, []) nodes =
        ((walkLinks visit state nodes).1, (walkLinks visit state nodes).2, visits) ∧
      visits.map (fun visited => visited.link.url) = linkTargets nodes ∧
      ∀ after, (walkLinks visit state nodes).1 = after ↔
        unaddressed after = unaddressed nodes ∧ linkTargets after = visits.map Visited.left) ∧
    ∀ i url after, setTarget i url nodes = after ↔
      unaddressed after = unaddressed nodes ∧ linkTargets after = (linkTargets nodes).set i url := by
  constructor
  · obtain ⟨visits, walked, seen, left⟩ := walk_logged visit state [] nodes
    refine ⟨visits, walked, seen, ?_⟩
    intro after
    rw [left]
    exact walk_links_iff visit state nodes after
  · intro i url after
    rw [← set_target_targets]
    exact walk_links_iff (placing i url) 0 nodes after

end LinkPress.Document
