import LinkPress.Proofs.Document.Outline
import Mathlib.Data.List.Nodup
import Mathlib.Data.List.Perm.Subperm

set_option autoImplicit false

/- The ids of headings. `headings` lists the headings in the order in which they are given their ids;
   these are distinct unless a heading is given one that a later heading was written with. -/
namespace LinkPress.Document

-- A heading where it stands in a document, with the text beneath it.
structure HeadingSite where
  heading : Heading
  text : String

def Tag.headingSite (text : String) : Tag → List HeadingSite
  | .heading head => [⟨head, text⟩]
  | _ => []

mutual
def Node.headings : Node → List HeadingSite
  | .leaf _ => []
  | .element tag _ children => headings children ++ tag.headingSite (textContent children)

/-- The headings of a document from below, siblings in reading order. -/
def headings : List Node → List HeadingSite
  | [] => []
  | node :: rest => node.headings ++ headings rest
end

-- The headings with their ids, given to one after the other, and the ids that
-- are taken by then.
def identifyAll (taken : List String) : List HeadingSite → List HeadingSite × List String
  | [] => ([], taken)
  | site :: rest =>
      let given := identify taken site.heading site.text
      let others := identifyAll given.2 rest
      (⟨given.1, site.text⟩ :: others.1, others.2)

theorem identify_all_append (taken : List String) (front back : List HeadingSite) :
    identifyAll taken (front ++ back) =
      ((identifyAll taken front).1 ++ (identifyAll (identifyAll taken front).2 back).1,
        (identifyAll (identifyAll taken front).2 back).2) := by
  induction front generalizing taken with
  | nil => rfl
  | cons site rest ih => simp only [List.cons_append, identifyAll, ih]

theorem walk_identify_text (taken : List String) (nodes : List Node) :
    textContent (walk identifyVisit taken nodes).1 = textContent nodes := by
  rw [← text_outline, walk_outline identifyVisit identify_visit_outline, text_outline]

theorem identify_visit_element (taken : List String) (tag : Tag) (closing : Option Closing) (children : List Node) :
    ((identifyVisit taken (.element tag closing children)).1.headings,
        (identifyVisit taken (.element tag closing children)).2) =
      (headings children ++ (identifyAll taken (tag.headingSite (textContent children))).1,
        (identifyAll taken (tag.headingSite (textContent children))).2) := by
  cases tag <;> rfl

mutual
theorem node_walk_identify (taken : List String) (node : Node) :
    ((node.walk identifyVisit taken).1.headings, (node.walk identifyVisit taken).2) =
      identifyAll taken node.headings := by
  cases node with
  | leaf event => rfl
  | element tag closing children =>
      have inside := walk_identify taken children
      rw [Node.walk]
      dsimp only
      rw [identify_visit_element, walk_identify_text, Node.headings, identify_all_append, ← inside]

theorem walk_identify (taken : List String) (nodes : List Node) :
    (headings (walk identifyVisit taken nodes).1, (walk identifyVisit taken nodes).2) =
      identifyAll taken (headings nodes) := by
  cases nodes with
  | nil => rfl
  | cons node rest =>
      have first := node_walk_identify taken node
      have others := walk_identify (node.walk identifyVisit taken).2 rest
      rw [walk]
      dsimp only
      rw [headings, headings, identify_all_append, ← first]
      dsimp only
      rw [← others]
end

theorem headings_identified (nodes : List Node) : headings (withHeadingIds nodes) = (identifyAll [] (headings nodes)).1 :=
  congrArg Prod.fst (walk_identify [] nodes)

theorem to_string_injective (a b : Nat) (same : toString a = toString b) : a = b := by
  have digits : Nat.toDigits 10 a = Nat.toDigits 10 b := by
    simpa only [Nat.toString_eq_repr, Nat.toList_repr] using congrArg String.toList same
  simpa using congrArg (fun digits => Nat.ofDigitChars 10 digits 0) digits

theorem candidate_chars (base : String) (n : Nat) :
    (candidate base (n + 1)).toList = base.toList ++ '-' :: (toString (n + 1)).toList := by
  simp [candidate]

theorem candidate_injective (base : String) : Function.Injective (candidate base) := by
  intro a b same
  have chars := congrArg String.toList same
  cases a with
  | zero =>
      cases b with
      | zero => rfl
      | succ b =>
          rw [candidate_chars] at chars
          simp [candidate] at chars
  | succ a =>
      cases b with
      | zero =>
          rw [candidate_chars] at chars
          simp [candidate] at chars
      | succ b =>
          rw [candidate_chars, candidate_chars] at chars
          have suffix := (List.cons.inj (List.append_cancel_left chars)).2
          exact to_string_injective _ _ (String.toList_inj.mp suffix)

theorem some_candidate_free (taken : List String) (base : String) :
    ∃ n < taken.length + 1, candidate base n ∉ taken := by
  by_contra allTaken
  have distinct : ((List.range (taken.length + 1)).map (candidate base)).Nodup :=
    List.Nodup.map (candidate_injective base) List.nodup_range
  have within : (List.range (taken.length + 1)).map (candidate base) ⊆ taken := by
    intro id member
    obtain ⟨n, below, rfl⟩ := List.mem_map.mp member
    by_contra free
    exact allTaken ⟨n, List.mem_range.mp below, free⟩
  have bound := (List.subperm_of_subset distinct within).length_le
  simp only [List.length_map, List.length_range] at bound
  omega

theorem free_id_first (taken : List String) (base : String) :
    ∃ n ≤ taken.length, freeId taken base = candidate base n ∧ candidate base n ∉ taken ∧
      ∀ m < n, candidate base m ∈ taken := by
  rw [freeId]
  split
  · rename_i n found
    obtain ⟨free, below, earlier⟩ := List.find?_range_eq_some.mp found
    have bound := List.mem_range.mp below
    exact ⟨n, by omega, rfl, by simpa using free, by simpa using earlier⟩
  · rename_i missing
    obtain ⟨n, below, free⟩ := some_candidate_free taken base
    have none := List.find?_eq_none.mp missing n (List.mem_range.mpr below)
    simp [free] at none

theorem free_id_free (taken : List String) (base : String) : freeId taken base ∉ taken := by
  obtain ⟨n, -, same, free, -⟩ := free_id_first taken base
  rwa [same]

-- All that can come of a heading.
theorem identify_cases (taken : List String) (site : HeadingSite) :
    (∃ id, site.heading.id = some id ∧ identify taken site.heading site.text = (site.heading, id :: taken)) ∨
      (site.heading.id = none ∧ slug site.text = "" ∧
        identify taken site.heading site.text = (site.heading, taken)) ∨
      ∃ id, site.heading.id = none ∧ slug site.text ≠ "" ∧ id = freeId taken (slug site.text) ∧
        identify taken site.heading site.text = ({ site.heading with id := some id }, id :: taken) := by
  rw [identify]
  cases written : site.heading.id with
  | some id => exact .inl ⟨id, rfl, rfl⟩
  | none =>
      by_cases empty : slug site.text = ""
      · exact .inr (.inl ⟨rfl, empty, if_pos empty⟩)
      · exact .inr (.inr ⟨freeId taken (slug site.text), rfl, empty, rfl, if_neg empty⟩)

def siteIds (sites : List HeadingSite) : List String := sites.filterMap fun site => site.heading.id

def headingIds (nodes : List Node) : List String := siteIds (headings nodes)

-- A heading without an id is given one that a heading behind it was written
-- with. Only the ids in front of a heading are looked at.
def Overtaken (taken : List String) (sites : List HeadingSite) : Prop :=
  ∃ front site back, sites = front ++ site :: back ∧ site.heading.id = none ∧
    ∃ id ∈ siteIds back, (identify (identifyAll taken front).2 site.heading site.text).1.id = some id

theorem overtaken_cons (taken : List String) (site : HeadingSite) (rest : List HeadingSite) :
    Overtaken taken (site :: rest) ↔
      (site.heading.id = none ∧ ∃ id ∈ siteIds rest, (identify taken site.heading site.text).1.id = some id) ∨
        Overtaken (identify taken site.heading site.text).2 rest := by
  constructor
  · rintro ⟨front, given, back, same, missing, repeated⟩
    cases front with
    | nil =>
        obtain ⟨rfl, rfl⟩ := List.cons.inj same
        exact .inl ⟨missing, repeated⟩
    | cons first more =>
        obtain ⟨rfl, rfl⟩ := List.cons.inj same
        exact .inr ⟨more, given, back, rfl, missing, repeated⟩
  · rintro (⟨missing, repeated⟩ | ⟨front, given, back, rfl, missing, repeated⟩)
    · exact ⟨[], site, rest, rfl, missing, repeated⟩
    · exact ⟨site :: front, given, back, rfl, missing, repeated⟩

-- The ids of the headings are distinct and none of them is taken.
def FreshIds (taken : List String) (sites : List HeadingSite) : Prop :=
  (siteIds sites).Nodup ∧ ∀ id ∈ siteIds sites, id ∉ taken

theorem fresh_ids_some (taken : List String) (site : HeadingSite) (rest : List HeadingSite) (id : String)
    (written : site.heading.id = some id) :
    FreshIds taken (site :: rest) ↔ id ∉ taken ∧ FreshIds (id :: taken) rest := by
  simp only [FreshIds, siteIds, List.filterMap_cons, written, List.nodup_cons, List.mem_cons]
  grind

theorem fresh_ids_none (taken : List String) (site : HeadingSite) (rest : List HeadingSite)
    (missing : site.heading.id = none) : FreshIds taken (site :: rest) ↔ FreshIds taken rest := by
  simp [FreshIds, siteIds, missing]

theorem fresh_ids_taken (taken : List String) (sites : List HeadingSite) (id : String) :
    FreshIds (id :: taken) sites ↔ FreshIds taken sites ∧ id ∉ siteIds sites := by
  simp only [FreshIds, List.mem_cons]
  grind

theorem identify_all_fresh_ids (taken : List String) (sites : List HeadingSite) :
    FreshIds taken (identifyAll taken sites).1 ↔ FreshIds taken sites ∧ ¬ Overtaken taken sites := by
  induction sites generalizing taken with
  | nil => simp [identifyAll, Overtaken]
  | cons site rest ih =>
      rw [overtaken_cons, identifyAll]
      rcases identify_cases taken site with ⟨id, written, given⟩ | ⟨missing, -, given⟩ |
        ⟨id, missing, -, chosen, given⟩
      · simp only [given]
        rw [fresh_ids_some taken _ _ id written, fresh_ids_some taken site rest id written, ih]
        simp [written, and_assoc]
      · simp only [given]
        rw [fresh_ids_none taken _ _ missing, fresh_ids_none taken site rest missing, ih]
        simp [missing]
      · have free : id ∉ taken := by
          rw [chosen]
          exact free_id_free taken (slug site.text)
        simp only [given]
        rw [fresh_ids_some taken _ _ id rfl, fresh_ids_none taken site rest missing, ih, fresh_ids_taken]
        simp [missing, free, and_assoc]

theorem heading_ids_distinct_iff (nodes : List Node) :
    (headingIds (withHeadingIds nodes)).Nodup ↔ (headingIds nodes).Nodup ∧ ¬ Overtaken [] (headings nodes) := by
  have distinct := identify_all_fresh_ids [] (headings nodes)
  rw [← headings_identified] at distinct
  simpa [FreshIds, headingIds] using distinct

def introPage : List Node :=
  [.element (.heading ⟨1, none, [], []⟩) (some (.heading 1)) [.leaf (.text "Intro")],
    .element (.heading ⟨1, some "intro", [], []⟩) (some (.heading 1)) [.leaf (.text "Intro")]]

theorem later_heading_id_repeated :
    (headingIds introPage).Nodup ∧ headingIds (withHeadingIds introPage) = ["intro", "intro"] ∧
      ¬ (headingIds (withHeadingIds introPage)).Nodup := by
  have ids : headingIds (withHeadingIds introPage) = ["intro", "intro"] := by decide +kernel
  rw [ids]
  decide

end LinkPress.Document
