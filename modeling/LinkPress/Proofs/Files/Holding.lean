import LinkPress.Proofs.Files.Ways

set_option autoImplicit false

/- Folders that hold some files, the folders around these and nothing else. A file whose path neither
   goes on from that of another one nor leads to it is added without a loss. -/
namespace LinkPress.Files

namespace Path

def names (path : String) : List String := (steps path.toList).map String.ofList

theorem names_path_of (segments : List String) (sound : Segments segments) : names (pathOf segments) = segments := by
  rw [names, steps_path_of segments sound]
  simp

theorem join_closed (base : List Char) (folders : List String) (name : String) (sound : Segments (folders ++ [name])) :
    (join base (pathOf (folders ++ [name])).toList).getLast? ≠ some '/' := by
  obtain ⟨filled, unbroken⟩ := sound.plain name (by simp)
  rw [join_path_of base folders name sound, List.getLast?_append_of_ne_nil _ filled]
  exact fun slash => unbroken (List.mem_of_getLast? slash)

-- Neither path leads to the other one, nor are they one path.
def Beside (a b : String) : Prop := ¬ names a <+: names b ∧ ¬ names b <+: names a

-- A path that is made of names only.
def Proper (path : String) : Prop :=
  ∃ folders name, path = pathOf (folders ++ [name]) ∧ ∀ other ∈ folders ++ [name], IsName other

theorem proper_names (path : String) (proper : Proper path) : path = pathOf (names path) := by
  obtain ⟨folders, name, rfl, named⟩ := proper
  rw [names_path_of _ (Tree.segments_named _ (by simp) named)]

end Path

namespace Tree

-- The folder at the base holds the files, each under its own path and with its own content.
structure Holds (tree : Tree) (base : String) (start : List String) (files : List (String × ByteArray)) : Prop where
  lead : tree.Leads base start
  root : tree.kind start = .folder
  stand : ∀ file ∈ files,
    tree.Leads (String.ofList (Path.join base.toList file.1.toList)) ((Path.names file.1).reverse ++ start) ∧
      tree.kind ((Path.names file.1).reverse ++ start) = .file file.2
  only : ∀ names, names ≠ [] → tree.kind (names.reverse ++ start) ≠ .missing →
    ∃ file ∈ files, names <+: Path.names file.1

section Adding

variable {tree : Tree} {base : String} {start : List String} {files : List (String × ByteArray)}
variable (holds : tree.Holds base start files) (folders : List String) (name : String)
variable (named : ∀ other ∈ folders ++ [name], IsName other)
variable (beside : ∀ file ∈ files, Path.Beside file.1 (pathOf (folders ++ [name])))
include holds named beside

theorem Holds.clear : tree.Clear folders start := by
  intro outer inside content stands
  have filled : outer ≠ [] := by
    rintro rfl
    cases holds.root.symm.trans stands
  obtain ⟨file, member, more, whole⟩ := holds.only outer filled (by simp [stands])
  have same : outer = Path.names file.1 := by
    by_cases none : more = []
    · rw [← whole, none, List.append_nil]
    · have kind := (holds.stand file member).2
      rw [← whole] at kind
      have folder := tree.outer_folder start outer more none (by rw [kind]; exact Kind.noConfusion)
      cases folder.symm.trans stands
  have apart := (beside file member).1
  rw [Path.names_path_of _ (segments_named _ (by simp) named), ← same] at apart
  exact apart (inside.trans (List.prefix_append folders [name]))

theorem Holds.fresh : tree.kind (name :: (folders.reverse ++ start)) = .missing := by
  by_contra stands
  obtain ⟨file, member, inside⟩ := holds.only (folders ++ [name]) (by simp) (by simpa using stands)
  have apart := (beside file member).2
  rw [Path.names_path_of _ (segments_named _ (by simp) named)] at apart
  exact apart inside

theorem Holds.around_made :
    Barring (tree.makeFolders (String.ofList (way base.toList folders))) (tree.Made · start folders) := by
  have outer : ∀ other ∈ folders, IsName other := fun other member => named other (List.mem_append_left _ member)
  have long := way_long base.toList folders outer
  have lead : tree.Leads (String.ofList base.toList) start := by
    rw [String.ofList_toList]
    exact holds.lead
  rw [makeFolders, String.toList_ofList]
  refine make_way base.toList tree start _ folders ?_ lead holds.root outer (holds.clear folders name named beside)
  rw [String.length_ofList]
  omega

-- The folders on the way are made, and then the place of the file is the only one that changes.
theorem Holds.added (content : ByteArray) (inner after : Tree) (made : tree.Made inner start folders)
    (leads : ∀ path names, tree.Leads path names → after.Leads path names)
    (reach : after.Leads (String.ofList (Path.join base.toList (pathOf (folders ++ [name])).toList))
      ((folders ++ [name]).reverse ++ start))
    (here : after.kind ((folders ++ [name]).reverse ++ start) = .file content)
    (away : ∀ place, place ≠ (folders ++ [name]).reverse ++ start → after.kind place = inner.kind place) :
    after.Holds base start (files ++ [(pathOf (folders ++ [name]), content)]) := by
  have own := Path.names_path_of _ (segments_named (folders ++ [name]) (by simp) named)
  have other (names : List String) (different : names ≠ folders ++ [name]) :
      names.reverse ++ start ≠ (folders ++ [name]).reverse ++ start := fun same =>
    different (List.reverse_inj.mp (List.append_cancel_right same))
  refine ⟨leads base start holds.lead, ?_, ?_, ?_⟩
  · rw [away start (other [] (by simp)), made.kept start (by simp [holds.root])]
    exact holds.root
  · intro file member
    rcases List.mem_append.mp member with old | new
    · obtain ⟨reached, stood⟩ := holds.stand file old
      have different : Path.names file.1 ≠ folders ++ [name] := by
        intro same
        have apart := (beside file old).1
        rw [own, same] at apart
        exact apart (List.prefix_refl _)
      refine ⟨leads _ _ reached, ?_⟩
      rw [away _ (other _ different), made.kept _ (by simp [stood])]
      exact stood
    · obtain rfl := List.mem_singleton.mp new
      rw [own]
      exact ⟨reach, here⟩
  · intro names filled stands
    by_cases last : names = folders ++ [name]
    · refine ⟨_, List.mem_append_right _ List.mem_cons_self, [], ?_⟩
      rw [List.append_nil, own, last]
    · rw [away _ (other names last)] at stands
      rcases made.others (names.reverse ++ start) with kept | ⟨-, outer, inside, place⟩
      · rw [kept] at stands
        obtain ⟨file, member, known⟩ := holds.only names filled stands
        exact ⟨file, List.mem_append_left _ member, known⟩
      · obtain rfl : names = outer := List.reverse_inj.mp (List.append_cancel_right place)
        refine ⟨_, List.mem_append_right _ List.mem_cons_self, ?_⟩
        rw [own]
        exact inside.trans (List.prefix_append folders [name])

theorem Holds.written (content : ByteArray) (inner : Tree) (frame : tree.Extends inner fun _ _ => False)
    (made : tree.Made inner start folders) :
    Barring (inner.write (String.ofList (Path.join base.toList (pathOf (folders ++ [name])).toList)) content)
      (·.Holds base start (files ++ [(pathOf (folders ++ [name]), content)])) := by
  have absent := made_absent tree start folders name (holds.fresh folders name named beside) inner made
  have through := through_way base.toList inner start
    (by rw [String.ofList_toList]; exact frame.leads base start holds.lead) _ named
  have closed := Path.join_closed base.toList folders name (segments_named _ (by simp) named)
  rw [way_last base.toList folders name named] at through
  rw [← String.toList_ofList (l := Path.join _ _)] at through closed
  cases inner.write_barring _ start folders name through content made.stands (by simp [absent]) closed with
  | error fault same cause => exact .error fault same cause
  | ok after same put =>
      obtain ⟨reach, sound, whole⟩ := put
      have last := (inner.write_extends after _ content same).1
      have placed := inner.kind_put (.file name content) sound _ trivial made.stands (by simp [Entry.name, absent])
      have place : name :: (folders.reverse ++ start) = (folders ++ [name]).reverse ++ start := by simp
      rw [← whole, Entry.name, place] at placed
      rw [place] at reach
      have leads : ∀ path names, tree.Leads path names → after.Leads path names := fun path names lead =>
        last.leads path names (frame.leads path names lead)
      have here : after.kind ((folders ++ [name]).reverse ++ start) = .file content := by
        rw [placed, if_pos rfl]
        rfl
      have away : ∀ place, place ≠ (folders ++ [name]).reverse ++ start → after.kind place = inner.kind place := by
        intro other different
        rw [placed, if_neg different]
      have added := holds.added folders name named beside content inner after made leads (last.leads _ _ reach) here away
      exact .ok after same added

end Adding

end Tree
end LinkPress.Files
