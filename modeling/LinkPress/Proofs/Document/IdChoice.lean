import LinkPress.Proofs.Document.HeadingIds

set_option autoImplicit false

/- Which id a heading is given: its slug, or the first number behind it that makes an id no heading in
   front of it holds. Headings keep the ids they have, all else stays as it was, and headings that
   have been given their ids are given no others. -/
namespace LinkPress.Document

def HeadingSite.withId (site : HeadingSite) (id : String) : HeadingSite :=
  ⟨{ site.heading with id := some id }, site.text⟩

-- What becomes of a heading when the given ids are held by those in front of it.
-- A number is found among as many as there are ids.
inductive Identified (held : List String) (site : HeadingSite) : HeadingSite → Prop where
  | written (id : String) (has : site.heading.id = some id) : Identified held site site
  | unworded (missing : site.heading.id = none) (empty : slug site.text = "") : Identified held site site
  | natural (missing : site.heading.id = none) (worded : slug site.text ≠ "") (free : slug site.text ∉ held) :
      Identified held site (site.withId (slug site.text))
  | numbered (n : Nat) (missing : site.heading.id = none) (worded : slug site.text ≠ "")
      (taken : slug site.text ∈ held) (positive : 1 ≤ n) (bounded : n ≤ held.length)
      (free : slug site.text ++ "-" ++ toString n ∉ held)
      (least : ∀ m, 1 ≤ m → m < n → slug site.text ++ "-" ++ toString m ∈ held) :
      Identified held site (site.withId (slug site.text ++ "-" ++ toString n))

theorem free_id_identified (taken : List String) (site : HeadingSite) (missing : site.heading.id = none)
    (worded : slug site.text ≠ "") :
    Identified taken.reverse site (site.withId (freeId taken (slug site.text))) := by
  obtain ⟨n, bound, same, free, earlier⟩ := free_id_first taken (slug site.text)
  rw [same]
  cases n with
  | zero => exact .natural missing worded (by rwa [List.mem_reverse])
  | succ n =>
      refine .numbered (n + 1) missing worded ?_ (Nat.le_add_left 1 n) ?_ ?_ ?_
      · exact List.mem_reverse.mpr (earlier 0 (Nat.zero_lt_succ n))
      · rwa [List.length_reverse]
      · rwa [List.mem_reverse]
      · intro m positive less
        obtain ⟨k, rfl⟩ := Nat.exists_eq_add_of_le' positive
        exact List.mem_reverse.mpr (earlier (k + 1) less)

-- The ids that are taken behind a heading are the one it has then and those in
-- front of it, last one first.
theorem identify_identified (taken : List String) (site : HeadingSite) :
    Identified taken.reverse site ⟨(identify taken site.heading site.text).1, site.text⟩ ∧
      (identify taken site.heading site.text).2.reverse =
        taken.reverse ++ siteIds [⟨(identify taken site.heading site.text).1, site.text⟩] := by
  rcases identify_cases taken site with ⟨id, written, given⟩ | ⟨missing, empty, given⟩ |
    ⟨id, missing, worded, rfl, given⟩
  · rw [given]
    exact ⟨.written id written, by simp [siteIds, written]⟩
  · rw [given]
    exact ⟨.unworded missing empty, by simp [siteIds, missing]⟩
  · rw [given]
    exact ⟨free_id_identified taken site missing worded, by simp [siteIds]⟩

theorem identify_all_length (taken : List String) (sites : List HeadingSite) :
    (identifyAll taken sites).1.length = sites.length := by
  induction sites generalizing taken with
  | nil => rfl
  | cons site rest ih => rw [identifyAll, List.length_cons, List.length_cons, ih]

theorem identify_all_identified (taken : List String) (sites : List HeadingSite) (i : Nat) (site given : HeadingSite)
    (before : sites[i]? = some site) (after : (identifyAll taken sites).1[i]? = some given) :
    Identified (taken.reverse ++ siteIds ((identifyAll taken sites).1.take i)) site given := by
  induction sites generalizing taken i with
  | nil => cases before
  | cons first rest ih =>
      have step := identify_identified taken first
      rw [identifyAll] at after ⊢
      cases i with
      | zero =>
          rw [List.getElem?_cons_zero, Option.some.injEq] at before after
          rw [← before, ← after, List.take_zero, siteIds, List.filterMap_nil, List.append_nil]
          exact step.1
      | succ i =>
          rw [List.getElem?_cons_succ] at before after
          have later := ih (identify taken first.heading first.text).2 i before after
          rw [step.2, List.append_assoc, siteIds, siteIds, ← List.filterMap_append, List.singleton_append] at later
          rw [List.take_succ_cons]
          exact later

inductive Tag.Filled : Tag → Tag → Prop where
  | same (tag : Tag) : Filled tag tag
  | given (heading : Heading) (id : String) (missing : heading.id = none) :
      Filled (.heading heading) (.heading { heading with id := some id })

-- The second node is the first one but for ids of headings that had none.
inductive Node.Filled : Node → Node → Prop where
  | leaf (event : Event) : Filled (.leaf event) (.leaf event)
  | element (tag tag' : Tag) (closing : Option Closing) (children children' : List Node) (tags : tag.Filled tag')
      (inside : List.Forall₂ Node.Filled children children') :
      Filled (.element tag closing children) (.element tag' closing children')

theorem identify_filled (taken : List String) (heading : Heading) (text : String) :
    (Tag.heading heading).Filled (.heading (identify taken heading text).1) := by
  rcases identify_cases taken ⟨heading, text⟩ with ⟨id, -, given⟩ | ⟨-, -, given⟩ | ⟨id, missing, -, -, given⟩
  · rw [given]
    exact .same _
  · rw [given]
    exact .same _
  · rw [given]
    exact .given heading id missing

theorem identify_visit_filled (taken : List String) (tag : Tag) (closing : Option Closing)
    (children children' : List Node) (inside : List.Forall₂ Node.Filled children children') :
    (Node.element tag closing children).Filled (identifyVisit taken (.element tag closing children')).1 := by
  cases tag with
  | heading heading => exact .element _ _ closing _ _ (identify_filled taken heading _) inside
  | _ => exact .element _ _ closing _ _ (.same _) inside

mutual
theorem node_walk_filled (taken : List String) (node : Node) : node.Filled (node.walk identifyVisit taken).1 := by
  cases node with
  | leaf event => exact .leaf event
  | element tag closing children =>
      rw [Node.walk]
      exact identify_visit_filled _ tag closing children _ (walk_filled taken children)

theorem walk_filled (taken : List String) (nodes : List Node) :
    List.Forall₂ Node.Filled nodes (walk identifyVisit taken nodes).1 := by
  cases nodes with
  | nil => exact .nil
  | cons node rest =>
      rw [walk]
      exact .cons (node_walk_filled taken node) (walk_filled _ rest)
end

-- A heading that is given no id: it has one, or its text makes none.
def HeadingSite.Settled (site : HeadingSite) : Prop := site.heading.id = none → slug site.text = ""

theorem identify_settled (taken : List String) (heading : Heading) (text : String)
    (settled : HeadingSite.Settled ⟨heading, text⟩) : (identify taken heading text).1 = heading := by
  rcases identify_cases taken ⟨heading, text⟩ with ⟨id, -, given⟩ | ⟨-, -, given⟩ | ⟨id, missing, worded, -, -⟩
  · rw [given]
  · rw [given]
  · exact absurd (settled missing) worded

mutual
theorem node_walk_settled (taken : List String) (node : Node) (settled : ∀ site ∈ node.headings, site.Settled) :
    (node.walk identifyVisit taken).1 = node := by
  cases node with
  | leaf event => rfl
  | element tag closing children =>
      rw [Node.headings] at settled
      have inside := walk_settled taken children fun site member => settled site (List.mem_append_left _ member)
      rw [Node.walk]
      dsimp only
      rw [inside]
      cases tag with
      | heading heading =>
          have own := settled ⟨heading, textContent children⟩ (List.mem_append_right _ (List.mem_singleton.mpr rfl))
          dsimp only [identifyVisit]
          rw [identify_settled _ heading _ own]
      | _ => rfl

theorem walk_settled (taken : List String) (nodes : List Node) (settled : ∀ site ∈ headings nodes, site.Settled) :
    (walk identifyVisit taken nodes).1 = nodes := by
  cases nodes with
  | nil => rfl
  | cons node rest =>
      rw [headings] at settled
      have first := node_walk_settled taken node fun site member => settled site (List.mem_append_left _ member)
      have others := walk_settled (node.walk identifyVisit taken).2 rest fun site member =>
        settled site (List.mem_append_right _ member)
      rw [walk]
      dsimp only
      rw [first, others]
end

theorem identify_all_settled (taken : List String) (sites : List HeadingSite) :
    ∀ site ∈ (identifyAll taken sites).1, site.Settled := by
  induction sites generalizing taken with
  | nil => simp [identifyAll]
  | cons site rest ih =>
      rw [identifyAll, List.forall_mem_cons]
      refine ⟨?_, ih _⟩
      intro missing
      rcases identify_cases taken site with ⟨id, written, given⟩ | ⟨-, empty, -⟩ | ⟨id, -, -, -, given⟩
      · simp [given, written] at missing
      · exact empty
      · simp [given] at missing

theorem heading_ids_chosen (nodes : List Node) :
    (headings (withHeadingIds nodes)).length = (headings nodes).length ∧
      (∀ i site given, (headings nodes)[i]? = some site → (headings (withHeadingIds nodes))[i]? = some given →
        Identified (siteIds ((headings (withHeadingIds nodes)).take i)) site given) ∧
      List.Forall₂ Node.Filled nodes (withHeadingIds nodes) ∧
      withHeadingIds (withHeadingIds nodes) = withHeadingIds nodes := by
  have settled := identify_all_settled [] (headings nodes)
  rw [← headings_identified] at settled
  refine ⟨?_, ?_, walk_filled [] nodes, walk_settled [] _ settled⟩
  · rw [headings_identified, identify_all_length]
  · rw [headings_identified]
    exact identify_all_identified [] (headings nodes)

end LinkPress.Document
