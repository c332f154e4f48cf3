import LinkPress.Proofs.Document.Folding
import LinkPress.Proofs.Document.Outline

set_option autoImplicit false

/- The documents that come back when they are written out as events and read again. They are the ones
   that reading can give at all, and passes that keep the outline of a document keep them. -/
namespace LinkPress.Document

open LinkPress.Shortcut

-- A list of siblings somewhere in a document, with the closings of the
-- elements around it, innermost first.
inductive Siblings (document : List Node) : List (Option Closing) → List Node → Prop where
  | root : Siblings document [] document
  | children (around : List (Option Closing)) (siblings children : List Node) (tag : Tag) (closing : Option Closing)
      (outer : Siblings document around siblings) (member : .element tag closing children ∈ siblings) :
      Siblings document (closing :: around) children

structure Canonical (document : List Node) : Prop where
  no_start : ∀ around siblings, Siblings document around siblings → ∀ tag, .leaf (.start tag) ∉ siblings
  stray_at_root : ∀ around siblings, Siblings document around siblings →
    ∀ closing, .leaf (.close closing) ∈ siblings → around = []
  texts_joined : ∀ around siblings, Siblings document around siblings →
    ∀ front back first second, siblings ≠ front ++ .leaf (.text first) :: .leaf (.text second) :: back
  unclosed_last : ∀ around siblings, Siblings document around siblings →
    ∀ front back tag children, siblings = front ++ .element tag none children :: back →
      back = [] ∧ ∀ closing ∈ around, closing = none

-- What a node may be at its place: nested in an element, sealed in one that
-- has a closing, and with the rest of its siblings behind it.
def Node.Fits (nested sealed : Bool) (rest : List Node) : Node → Prop
  | .leaf (.start _) => False
  | .leaf (.close _) => nested = false
  | .leaf (.text _) => ∀ text, rest.head? ≠ some (.leaf (.text text))
  | .leaf _ => True
  | .element _ none _ => rest = [] ∧ sealed = false
  | .element _ (some _) _ => True

mutual
def Node.Folded (sealed : Bool) : Node → Prop
  | .leaf _ => True
  | .element _ closing children => Folded true (closing.isSome || sealed) children

def Folded (nested sealed : Bool) : List Node → Prop
  | [] => True
  | node :: rest => node.Fits nested sealed rest ∧ node.Folded sealed ∧ Folded nested sealed rest
end

theorem folded_split (nested sealed : Bool) (front back : List Node) (node : Node)
    (folded : Folded nested sealed (front ++ node :: back)) : node.Fits nested sealed back ∧ node.Folded sealed := by
  induction front with
  | nil => exact ⟨folded.1, folded.2.1⟩
  | cons first rest ih => exact ih folded.2.2

theorem folded_siblings (document : List Node) (folded : Folded false false document)
    (around : List (Option Closing)) (siblings : List Node) (level : Siblings document around siblings) :
    Folded (!around.isEmpty) (around.any Option.isSome) siblings := by
  induction level with
  | root => exact folded
  | children around siblings children tag closing outer member ih =>
      obtain ⟨front, back, rfl⟩ := List.append_of_mem member
      exact (folded_split _ _ _ _ _ ih).2

theorem canonical_of_folded (document : List Node) (folded : Folded false false document) : Canonical document where
  no_start around siblings level tag member := by
    obtain ⟨front, back, rfl⟩ := List.append_of_mem member
    exact (folded_split _ _ _ _ _ (folded_siblings document folded _ _ level)).1
  stray_at_root around siblings level closing member := by
    obtain ⟨front, back, rfl⟩ := List.append_of_mem member
    have outermost := (folded_split _ _ _ _ _ (folded_siblings document folded _ _ level)).1
    simpa [Node.Fits] using outermost
  texts_joined around siblings level front back first second same := by
    subst same
    exact (folded_split _ _ _ _ _ (folded_siblings document folded _ _ level)).1 second rfl
  unclosed_last around siblings level front back tag children same := by
    subst same
    have last := (folded_split _ _ _ _ _ (folded_siblings document folded _ _ level)).1
    simpa [Node.Fits] using last

theorem fits_of_canonical (document : List Node) (canonical : Canonical document) (around : List (Option Closing))
    (front back : List Node) (node : Node) (level : Siblings document around (front ++ node :: back)) :
    node.Fits (!around.isEmpty) (around.any Option.isSome) back := by
  have member : node ∈ front ++ node :: back := by simp
  cases node with
  | element tag closing children =>
      cases closing with
      | some closing => trivial
      | none =>
          obtain ⟨last, unclosed⟩ := canonical.unclosed_last _ _ level front back tag children rfl
          exact ⟨last, by simpa using unclosed⟩
  | leaf event =>
      cases event with
      | start tag => exact canonical.no_start _ _ level tag member
      | close closing =>
          obtain rfl := canonical.stray_at_root _ _ level closing member
          rfl
      | text first =>
          intro second next
          obtain ⟨more, rfl⟩ := List.head?_eq_some_iff.mp next
          exact canonical.texts_joined _ _ level front more first second rfl
      | _ => trivial

mutual
theorem node_folded_of_canonical (document : List Node) (canonical : Canonical document)
    (around : List (Option Closing)) (siblings : List Node) (level : Siblings document around siblings)
    (node : Node) (member : node ∈ siblings) : node.Folded (around.any Option.isSome) := by
  cases node with
  | leaf event => trivial
  | element tag closing children =>
      exact folded_of_canonical document canonical (closing :: around) []
        children (.children around siblings children tag closing level member)

theorem folded_of_canonical (document : List Node) (canonical : Canonical document)
    (around : List (Option Closing)) (front nodes : List Node) (level : Siblings document around (front ++ nodes)) :
    Folded (!around.isEmpty) (around.any Option.isSome) nodes := by
  cases nodes with
  | nil => trivial
  | cons node rest =>
      refine ⟨fits_of_canonical document canonical around front rest node level, ?_, ?_⟩
      · exact node_folded_of_canonical document canonical around _ level node (by simp)
      · exact folded_of_canonical document canonical around (front ++ [node]) rest (by simpa using level)
end

theorem canonical_iff_folded (document : List Node) : Canonical document ↔ Folded false false document := by
  constructor
  · exact fun canonical => folded_of_canonical document canonical [] [] document .root
  · exact canonical_of_folded document

-- Nodes that go behind the siblings read last, as they are.
def Folding.append (state : Folding) (nodes : List Node) : Folding :=
  match state.frames with
  | [] => ⟨nodes.reverse ++ state.root, []⟩
  | frame :: outer => ⟨state.root, ⟨frame.tag, nodes.reverse ++ frame.children⟩ :: outer⟩

theorem append_nothing (state : Folding) : state.append [] = state := by
  obtain ⟨root, frames⟩ := state
  cases frames <;> rfl

theorem append_append (state : Folding) (front back : List Node) :
    (state.append front).append back = state.append (front ++ back) := by
  obtain ⟨root, frames⟩ := state
  cases frames <;> simp [Folding.append]

theorem append_current (state : Folding) (node : Node) : (state.append [node]).current = node :: state.current := by
  obtain ⟨root, frames⟩ := state
  cases frames <;> rfl

theorem append_frames (state : Folding) (nodes : List Node) :
    (state.append nodes).frames = [] ↔ state.frames = [] := by
  obtain ⟨root, frames⟩ := state
  cases frames <;> simp [Folding.append]

theorem add_append (state : Folding) (node : Node) (apart : ¬ Joins state.current node) :
    state.add node = state.append [node] := by
  obtain ⟨root, frames⟩ := state
  cases frames with
  | nil => simp [Folding.add, Folding.append, push_apart root node apart]
  | cons frame outer => simp [Folding.add, Folding.append, push_apart frame.children node apart]

theorem fits_closed (nested sealed : Bool) (rest : List Node) (node : Node) (fits : node.Fits nested sealed rest)
    (inside : rest ≠ [] ∨ sealed = true) (tag : Tag) (children : List Node) : node ≠ .element tag none children := by
  rintro rfl
  obtain ⟨last, unsealed⟩ := fits
  rcases inside with more | closed
  · exact more last
  · rw [unsealed] at closed
    cases closed

-- Once the node has been read, the sibling behind it is no text that joins it.
theorem fits_apart (nested sealed : Bool) (rest : List Node) (state : Folding) (node : Node)
    (fits : node.Fits nested sealed rest) : ∀ next ∈ rest.head?, ¬ Joins (state.append [node]).current next := by
  rintro next head ⟨before, after, more, same, rfl⟩
  rw [append_current] at same
  obtain ⟨rfl, -⟩ := List.cons.inj same
  exact fits after head

-- Within a closed element, reading the events of nodes that fit puts these
-- nodes behind the siblings read before. The children of an element are read
-- in a frame of their own that its closing takes away again.
mutual
theorem node_read (nested sealed : Bool) (rest : List Node) (state : Folding) (node : Node)
    (fits : node.Fits nested sealed rest) (closed : ∀ tag children, node ≠ .element tag none children)
    (folded : node.Folded sealed) (level : nested = false → state.frames = [])
    (apart : ¬ Joins state.current node) : node.toEvents.foldl Folding.step state = state.append [node] := by
  cases node with
  | leaf event =>
      rw [← add_append state _ apart]
      cases event with
      | start tag => exact absurd fits id
      | close closing =>
          obtain ⟨root, frames⟩ := state
          obtain rfl : frames = [] := level fits
          simp [Node.toEvents, Folding.step, Folding.close, Folding.add, push_apart root _ apart]
      | _ => rfl
  | element tag closing children =>
      cases closing with
      | none => exact absurd rfl (closed tag children)
      | some closing =>
          have inside := nodes_read true ⟨state.root, ⟨tag, []⟩ :: state.frames⟩ children folded (by simp)
            (by simp [Joins, Folding.current])
          rw [← add_append state _ apart]
          simp only [Node.toEvents, closeEvents, List.foldl_cons, List.foldl_append, Folding.step]
          rw [inside]
          simp [Folding.append, Folding.close]

theorem nodes_read (nested : Bool) (state : Folding) (nodes : List Node) (folded : Folded nested true nodes)
    (level : nested = false → state.frames = []) (apart : ∀ node ∈ nodes.head?, ¬ Joins state.current node) :
    (toEvents nodes).foldl Folding.step state = state.append nodes := by
  cases nodes with
  | nil => exact (append_nothing state).symm
  | cons node rest =>
      obtain ⟨fits, inside, behind⟩ := folded
      have first := node_read nested true rest state node fits (fits_closed _ _ _ _ fits (.inr rfl)) inside level
        (apart node rfl)
      have others := nodes_read nested (state.append [node]) rest behind
        (fun root => (append_frames state [node]).mpr (level root)) (fits_apart _ _ _ _ _ fits)
      rw [toEvents, List.foldl_append, first, others, append_append]
      rfl
end

def Folding.document (state : Folding) : List Node := finish state.root state.frames

theorem document_unclosed (root children : List Node) (tag : Tag) (frames : List Frame) :
    (Folding.mk root (⟨tag, children.reverse⟩ :: frames)).document =
      ((Folding.mk root frames).append [.element tag none children]).document := by
  cases frames <;> simp [Folding.document, Folding.append, Folding.finish, push_apart _ _ (element_apart _ _ _ _)]

-- An unclosed element is left open for as long as there are events, so only
-- the finished documents agree.
mutual
theorem node_read_last (nested sealed : Bool) (state : Folding) (node : Node)
    (fits : node.Fits nested sealed []) (folded : node.Folded sealed) (level : nested = false → state.frames = [])
    (apart : ¬ Joins state.current node) :
    (node.toEvents.foldl Folding.step state).document = (state.append [node]).document := by
  by_cases closed : ∀ tag children, node ≠ .element tag none children
  · rw [node_read nested sealed [] state node fits closed folded level apart]
  · cases node with
    | leaf event => simp at closed
    | element tag closing children =>
        cases closing with
        | some closing => simp at closed
        | none =>
            obtain ⟨root, frames⟩ := state
            have inside := nodes_read_last true sealed ⟨root, ⟨tag, []⟩ :: frames⟩ children folded (by simp)
              (by simp [Joins, Folding.current])
            rw [← document_unclosed]
            simp only [Node.toEvents, closeEvents, List.append_nil, List.foldl_cons, Folding.step]
            rw [inside]
            simp [Folding.append]

theorem nodes_read_last (nested sealed : Bool) (state : Folding) (nodes : List Node)
    (folded : Folded nested sealed nodes) (level : nested = false → state.frames = [])
    (apart : ∀ node ∈ nodes.head?, ¬ Joins state.current node) :
    ((toEvents nodes).foldl Folding.step state).document = (state.append nodes).document := by
  cases nodes with
  | nil => rw [append_nothing]; rfl
  | cons node rest =>
      obtain ⟨fits, inside, behind⟩ := folded
      cases rest with
      | nil =>
          rw [toEvents, toEvents, List.append_nil]
          exact node_read_last nested sealed state node fits inside level (apart node rfl)
      | cons next more =>
          have first := node_read nested sealed _ state node fits (fits_closed _ _ _ _ fits (.inl (by simp))) inside
            level (apart node rfl)
          have others := nodes_read_last nested sealed (state.append [node]) (next :: more) behind
            (fun root => (append_frames state [node]).mpr (level root)) (fits_apart _ _ _ _ _ fits)
          rw [toEvents, List.foldl_append, first, others, append_append]
          rfl
end

theorem folded_read_back (nodes : List Node) (folded : Folded false false nodes) : ofEvents (toEvents nodes) = nodes := by
  have read := nodes_read_last false false Folding.empty nodes folded (fun _ => rfl)
    (by simp [Joins, Folding.current, Folding.empty])
  rw [ofEvents]
  refine read.trans ?_
  simp [Folding.document, Folding.append, Folding.empty, Folding.finish]

mutual
theorem node_folded_unsealed (sealed : Bool) (node : Node) (folded : node.Folded true) : node.Folded sealed := by
  cases node with
  | leaf event => trivial
  | element tag closing children =>
      rw [Node.Folded, Bool.or_true] at folded
      exact folded_unsealed true (closing.isSome || sealed) children folded

theorem folded_unsealed (nested sealed : Bool) (nodes : List Node) (folded : Folded nested true nodes) :
    Folded nested sealed nodes := by
  cases nodes with
  | nil => trivial
  | cons node rest =>
      obtain ⟨fits, inside, behind⟩ := folded
      refine ⟨?_, node_folded_unsealed sealed node inside, folded_unsealed nested sealed rest behind⟩
      cases node with
      | leaf event => cases event <;> exact fits
      | element tag closing children =>
          cases closing with
          | some closing => trivial
          | none => exact absurd rfl (fits_closed _ _ _ _ fits (.inr rfl) tag children)
end

-- Siblings that are read within a closed element take a further node at their
-- end. It may be the one that is left open.
theorem folded_snoc (nested sealed : Bool) (nodes : List Node) (node : Node) (front : Folded nested true nodes)
    (fits : node.Fits nested sealed []) (inside : node.Folded sealed) (apart : ¬ Joins nodes.reverse node) :
    Folded nested sealed (nodes ++ [node]) := by
  induction nodes with
  | nil => exact ⟨fits, inside, trivial⟩
  | cons first rest ih =>
      obtain ⟨firstFits, firstInside, behind⟩ := front
      refine ⟨?_, node_folded_unsealed sealed first firstInside, ih behind ?_⟩
      · cases first with
        | element tag closing children =>
            cases closing with
            | some closing => trivial
            | none => exact absurd rfl (fits_closed _ _ _ _ firstFits (.inr rfl) tag children)
        | leaf event =>
            cases event with
            | text before =>
                intro after next
                cases rest with
                | nil =>
                    obtain rfl : node = .leaf (.text after) := by simpa using next
                    exact apart ⟨before, after, [], rfl, rfl⟩
                | cons second more => exact firstFits after next
            | _ => exact firstFits
      · rintro ⟨before, after, more, last, text⟩
        exact apart ⟨before, after, more ++ [first], by simp [last], text⟩

theorem folded_retext (nested sealed : Bool) (nodes : List Node) (old new : String)
    (folded : Folded nested sealed (nodes ++ [.leaf (.text old)])) :
    Folded nested sealed (nodes ++ [.leaf (.text new)]) := by
  induction nodes with
  | nil => exact folded
  | cons first rest ih =>
      obtain ⟨fits, inside, behind⟩ := folded
      refine ⟨?_, inside, ih behind⟩
      cases first with
      | element tag closing children =>
          cases closing with
          | some closing => trivial
          | none => exact absurd fits.1 (by simp)
      | leaf event =>
          cases event with
          | text before =>
              cases rest with
              | nil => exact absurd rfl (fits old)
              | cons second more => exact fits
          | _ => exact fits

theorem push_folded (nested sealed : Bool) (siblings : List Node) (node : Node)
    (folded : Folded nested true siblings.reverse) (fits : node.Fits nested sealed []) (inside : node.Folded sealed) :
    Folded nested sealed (push siblings node).reverse := by
  by_cases joined : Joins siblings node
  · obtain ⟨before, after, more, rfl, rfl⟩ := joined
    rw [push, List.reverse_cons]
    rw [List.reverse_cons] at folded
    exact folded_retext nested sealed more.reverse before _ (folded_unsealed nested sealed _ folded)
  · rw [push_apart siblings node joined, List.reverse_cons]
    exact folded_snoc nested sealed siblings.reverse node folded fits inside (by rwa [List.reverse_reverse])

-- What is kept while reading: finished nodes are closed, and only those of the
-- root may be closings without an element.
structure Folding.Sound (state : Folding) : Prop where
  root : Folded false true state.root.reverse
  frames : ∀ frame ∈ state.frames, Folded true true frame.children.reverse

theorem add_sound (state : Folding) (node : Node) (sound : state.Sound)
    (fits : node.Fits (!state.frames.isEmpty) true []) (inside : node.Folded true) : (state.add node).Sound := by
  obtain ⟨root, frames⟩ := state
  cases frames with
  | nil => exact ⟨push_folded false true root node sound.root fits inside, by simp [Folding.add]⟩
  | cons frame outer =>
      refine ⟨sound.root, ?_⟩
      have within := push_folded true true frame.children node (sound.frames frame (by simp)) fits inside
      rw [Folding.add, List.forall_mem_cons]
      exact ⟨within, fun other member => sound.frames other (by simp [member])⟩

theorem close_sound (state : Folding) (closing : Closing) (sound : state.Sound) : (state.close closing).Sound := by
  obtain ⟨root, frames⟩ := state
  cases frames with
  | nil =>
      have stray := push_folded false true root (.leaf (.close closing)) sound.root rfl trivial
      rw [push_apart root _ (by simp [Joins])] at stray
      exact ⟨stray, by simp [Folding.close]⟩
  | cons frame outer =>
      refine add_sound ⟨root, outer⟩ _ ⟨sound.root, ?_⟩ trivial (sound.frames frame (by simp))
      exact fun other member => sound.frames other (by simp [member])

theorem step_sound (state : Folding) (event : Event) (sound : state.Sound) : (state.step event).Sound := by
  cases event with
  | start tag =>
      refine ⟨sound.root, ?_⟩
      rw [Folding.step, List.forall_mem_cons]
      exact ⟨trivial, sound.frames⟩
  | close closing => exact close_sound state closing sound
  | text text => exact add_sound state _ sound (by simp [Node.Fits]) trivial
  | _ => exact add_sound state _ sound trivial trivial

theorem fold_sound (events : List Event) (state : Folding) (sound : state.Sound) :
    (events.foldl Folding.step state).Sound := by
  induction events generalizing state with
  | nil => exact sound
  | cons event rest ih => exact ih (state.step event) (step_sound state event sound)

-- From the inside out, each open element becomes the last child of the next.
theorem finish_folded (root : List Node) (frame : Frame) (outer : List Frame) (rootFolded : Folded false true root.reverse)
    (inner : Folded true false frame.children.reverse)
    (outerFolded : ∀ other ∈ outer, Folded true true other.children.reverse) :
    Folded false false (Folding.finish root (frame :: outer)) := by
  induction outer generalizing frame with
  | nil =>
      rw [Folding.finish]
      exact push_folded false false root _ rootFolded ⟨rfl, rfl⟩ inner
  | cons next rest ih =>
      rw [Folding.finish]
      rw [List.forall_mem_cons] at outerFolded
      exact ih _ (push_folded true false next.children _ outerFolded.1 ⟨rfl, rfl⟩ inner) outerFolded.2

theorem document_folded (state : Folding) (sound : state.Sound) : Folded false false state.document := by
  obtain ⟨root, frames⟩ := state
  cases frames with
  | nil =>
      rw [Folding.document, Folding.finish]
      exact folded_unsealed false false _ sound.root
  | cons frame outer =>
      have inner := folded_unsealed true false _ (sound.frames frame (by simp))
      exact finish_folded root frame outer sound.root inner fun other member => sound.frames other (by simp [member])

theorem of_events_canonical (events : List Event) : Canonical (ofEvents events) := by
  have sound : Folding.empty.Sound := ⟨trivial, by simp [Folding.empty]⟩
  rw [canonical_iff_folded]
  exact document_folded _ (fold_sound events Folding.empty sound)

theorem read_back_iff_canonical (nodes : List Node) : ofEvents (toEvents nodes) = nodes ↔ Canonical nodes := by
  constructor
  · intro same
    rw [← same]
    exact of_events_canonical (toEvents nodes)
  · exact fun canonical => folded_read_back nodes ((canonical_iff_folded nodes).mp canonical)

theorem fits_outline (nested sealed : Bool) (rest : List Node) (node : Node) :
    node.outline.Fits nested sealed (outline rest) ↔ node.Fits nested sealed rest := by
  cases node with
  | element tag closing children => cases closing <;> cases rest <;> simp [Node.outline, outline, Node.Fits]
  | leaf event =>
      cases event with
      | text text =>
          cases rest with
          | nil => simp [Node.outline, outline, Node.Fits]
          | cons next more => cases next <;> simp [Node.outline, outline, Node.Fits]
      | _ => exact Iff.rfl

mutual
theorem node_folded_outline (sealed : Bool) (node : Node) : node.outline.Folded sealed ↔ node.Folded sealed := by
  cases node with
  | leaf event => exact Iff.rfl
  | element tag closing children => exact folded_outline true (closing.isSome || sealed) children

theorem folded_outline (nested sealed : Bool) (nodes : List Node) :
    Folded nested sealed (outline nodes) ↔ Folded nested sealed nodes := by
  cases nodes with
  | nil => exact Iff.rfl
  | cons node rest =>
      rw [outline, Folded, Folded, fits_outline nested sealed rest node, node_folded_outline sealed node,
        folded_outline nested sealed rest]
end

theorem canonical_of_outline (before after : List Node) (same : outline after = outline before)
    (canonical : Canonical before) : Canonical after := by
  rw [canonical_iff_folded, ← folded_outline] at canonical ⊢
  rwa [same]

theorem canonical_documents :
    (∀ nodes, ofEvents (toEvents nodes) = nodes ↔ Canonical nodes) ∧
      (∀ events, Canonical (ofEvents events)) ∧
      (∀ table nodes after, Canonical nodes → expand table nodes = .ok after → Canonical after) ∧
      ∀ nodes, Canonical nodes → Canonical (withHeadingIds nodes) := by
  refine ⟨read_back_iff_canonical, of_events_canonical, ?_, ?_⟩
  · intro table nodes after canonical done
    exact canonical_of_outline nodes after (expand_outline table nodes after done) canonical
  · intro nodes canonical
    exact canonical_of_outline nodes _ (heading_ids_outline nodes) canonical

def wordsTable : Table := ⟨[⟨["words"], fun _ text => .success ("words/" ++ text)⟩]⟩

-- A closing without an element, a link with the closing of an image, and a
-- heading that is left open together with its last child.
def brokenPage (url : String) : List Node :=
  [.leaf (.close .emphasis), .leaf (.text "a"),
    .element (.heading ⟨1, some "top", [], []⟩) none
      [.element (.link ⟨.inline, url, "", ""⟩) (some .image) [.leaf (.text "b")], .element .strong none []]]

theorem broken_page_canonical :
    Canonical (brokenPage "@words") ∧ expand wordsTable (brokenPage "@words") = .ok (brokenPage "words/b") ∧
      Canonical (brokenPage "words/b") := by
  have canonical : Canonical (brokenPage "@words") :=
    (canonical_iff_folded _).mpr (by simp [brokenPage, Folded, Node.Folded, Node.Fits])
  have done : expand wordsTable (brokenPage "@words") = .ok (brokenPage "words/b") := by rfl
  exact ⟨canonical, done, canonical_documents.2.2.1 _ _ _ canonical done⟩

end LinkPress.Document
