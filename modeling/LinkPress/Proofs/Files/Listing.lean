import LinkPress.Files.Tree
import LinkPress.Proofs.Outcome
import LinkPress.Proofs.Text.Bytes

set_option autoImplicit false

/- The files of a folder, listed. In a folder whose entries are in order, each file is listed once,
   under the names that lead to it, and the listing is sorted name by name. -/
namespace LinkPress.Files

-- The files with the names that lead to them, outermost first.
mutual
def Entry.contents : Entry → List (List String × ByteArray)
  | .file name content => [([name], content)]
  | .folder name entries => (contents entries).map fun file => (name :: file.1, file.2)

def contents : List Entry → List (List String × ByteArray)
  | [] => []
  | entry :: rest => entry.contents ++ contents rest
end

def pathOf (names : List String) : String := String.ofList (Text.join ['/'] (names.map String.toList))

-- Paths are compared name by name, and names by their bytes.
def pathKey (path : String) : List (List UInt8) := (Text.split '/' path.toList).map Text.bytes

def Before (a b : String) : Prop := pathKey a < pathKey b

theorem contents_start (entry : Entry) (names : List String) (content : ByteArray)
    (member : (names, content) ∈ entry.contents) : ∃ inner, names = entry.name :: inner := by
  cases entry with
  | file name content =>
      simp only [Entry.contents, List.mem_singleton, Prod.mk.injEq] at member
      exact ⟨[], member.1⟩
  | folder name entries =>
      simp only [Entry.contents, List.mem_map, Prod.mk.injEq] at member
      obtain ⟨file, -, rfl, -⟩ := member
      exact ⟨file.1, rfl⟩

theorem mem_contents (entries : List Entry) (file : List String × ByteArray) :
    file ∈ contents entries ↔ ∃ entry ∈ entries, file ∈ entry.contents := by
  induction entries with
  | nil => simp [contents]
  | cons entry rest ih => simp [contents, ih]

theorem contents_nonempty (entries : List Entry) (names : List String) (content : ByteArray)
    (member : (names, content) ∈ contents entries) : names ≠ [] := by
  obtain ⟨entry, -, inEntry⟩ := (mem_contents entries _).mp member
  obtain ⟨inner, rfl⟩ := contents_start entry names content inEntry
  exact List.cons_ne_nil _ _

theorem path_of_cons (name : String) (names : List String) (some : names ≠ []) :
    pathOf (name :: names) = name ++ "/" ++ pathOf names := by
  cases names with
  | nil => exact absurd rfl some
  | cons second more =>
      apply String.toList_inj.mp
      simp [pathOf, Text.join]

mutual
theorem entry_files_contents (folder : String) (entry : Entry) :
    entry.files folder = entry.contents.map fun file => (folder ++ pathOf file.1, file.2) := by
  cases entry with
  | file name content => simp [Entry.files, Entry.contents, pathOf, Text.join]
  | folder name entries =>
      rw [Entry.files, files_contents, Entry.contents, List.map_map]
      apply List.map_congr_left
      intro file member
      have some := contents_nonempty entries file.1 file.2 member
      simp only [Function.comp_apply, Prod.mk.injEq, and_true]
      rw [path_of_cons name file.1 some, ← String.append_assoc, ← String.append_assoc]

theorem files_contents (folder : String) (entries : List Entry) :
    filesOf folder entries = (contents entries).map fun file => (folder ++ pathOf file.1, file.2) := by
  cases entries with
  | nil => rfl
  | cons entry rest =>
      rw [filesOf, contents, List.map_append, entry_files_contents folder entry, files_contents folder rest]
end

theorem entry_at_cons_iff (entries : List Entry) (name : String) (names : List String) (entry : Entry) :
    entryAt? entries (name :: names) = some entry ↔
      (names = [] ∧ child? entries name = some entry) ∨
      (names ≠ [] ∧ ∃ own inner, child? entries name = some (.folder own inner) ∧ entryAt? inner names = some entry) := by
  cases found : child? entries name with
  | none => simp [entryAt?, found]
  | some child =>
      cases names with
      | nil => simp [entryAt?, found]
      | cons second more =>
          cases child with
          | file own content => simp [entryAt?, found]
          | folder own inner =>
              have step : entryAt? entries (name :: second :: more) = entryAt? inner (second :: more) := by
                rw [entryAt?.eq_def]
                simp only [found]
              simp [step]

-- What is listed is what the names lead to.
theorem mem_contents_iff (entries : List Entry) (ordered : Ordered entries) (names : List String)
    (content : ByteArray) :
    (names, content) ∈ contents entries ↔ ∃ own, entryAt? entries names = some (.file own content) := by
  induction names generalizing entries with
  | nil =>
      constructor
      · intro member
        exact absurd rfl (contents_nonempty entries [] content member)
      · rintro ⟨own, lead⟩
        cases lead
  | cons name more ih =>
      rw [mem_contents]
      constructor
      · rintro ⟨entry, member, listed⟩
        cases entry with
        | file own other =>
            simp only [Entry.contents, List.mem_singleton, Prod.mk.injEq, List.cons.injEq] at listed
            obtain ⟨⟨rfl, rfl⟩, rfl⟩ := listed
            exact ⟨name, (entry_at_cons_iff _ _ _ _).mpr (.inl ⟨rfl, (child_some_iff _ ordered _ _).mpr ⟨member, rfl⟩⟩)⟩
        | folder own inner =>
            simp only [Entry.contents, List.mem_map, Prod.mk.injEq, List.cons.injEq] at listed
            obtain ⟨⟨innerNames, other⟩, deeper, ⟨rfl, rfl⟩, rfl⟩ := listed
            have some := contents_nonempty inner innerNames other deeper
            have sound := (ordered_member entries ordered _ member).2
            obtain ⟨last, lead⟩ := (ih inner sound).mp deeper
            have child := (child_some_iff entries ordered own _).mpr ⟨member, rfl⟩
            exact ⟨last, (entry_at_cons_iff _ _ _ _).mpr (.inr ⟨some, own, inner, child, lead⟩)⟩
      · rintro ⟨own, lead⟩
        rcases (entry_at_cons_iff _ _ _ _).mp lead with ⟨rfl, child⟩ | ⟨-, folder, inner, child, deeper⟩
        · obtain ⟨member, rfl⟩ := (child_some_iff entries ordered name _).mp child
          exact ⟨_, member, by simp [Entry.contents, Entry.name]⟩
        · obtain ⟨member, rfl⟩ := (child_some_iff entries ordered name _).mp child
          have sound := (ordered_member entries ordered _ member).2
          refine ⟨_, member, ?_⟩
          simp only [Entry.contents, List.mem_map]
          exact ⟨(more, content), (ih inner sound).mpr ⟨own, deeper⟩, rfl⟩

mutual
theorem entry_contents_sorted (entry : Entry) (ordered : entry.Ordered) :
    entry.contents.Pairwise fun a b => a.1 < b.1 := by
  cases entry with
  | file name content => exact List.pairwise_singleton _ _
  | folder name entries =>
      rw [Entry.contents, List.pairwise_map]
      refine (contents_sorted entries ordered.2).imp ?_
      intro a b less
      exact List.cons_lt_cons_iff.mpr (.inr ⟨rfl, less⟩)

theorem contents_sorted (entries : List Entry) (ordered : Ordered entries) :
    (contents entries).Pairwise fun a b => a.1 < b.1 := by
  cases entries with
  | nil => exact List.Pairwise.nil
  | cons entry rest =>
      rw [contents, List.pairwise_append]
      refine ⟨entry_contents_sorted entry ordered.1, contents_sorted rest ordered.2.2, ?_⟩
      intro a first b later
      obtain ⟨other, member, inOther⟩ := (mem_contents rest b).mp later
      obtain ⟨innerA, namesA⟩ := contents_start entry a.1 a.2 first
      obtain ⟨innerB, namesB⟩ := contents_start other b.1 b.2 inOther
      rw [namesA, namesB]
      exact List.cons_lt_cons_iff.mpr (.inl (ordered.2.1 other member))
end

mutual
theorem entry_contents_named (entry : Entry) (ordered : entry.Ordered) :
    ∀ file ∈ entry.contents, ∀ name ∈ file.1, IsName name := by
  cases entry with
  | file name content =>
      intro file member
      rw [Entry.contents, List.mem_singleton] at member
      subst member
      simp only [List.mem_singleton, forall_eq]
      exact ordered
  | folder name entries =>
      intro file member
      obtain ⟨inner, deeper, rfl⟩ := List.mem_map.mp member
      rw [List.forall_mem_cons]
      exact ⟨ordered.1, contents_named entries ordered.2 inner deeper⟩

theorem contents_named (entries : List Entry) (ordered : Ordered entries) :
    ∀ file ∈ contents entries, ∀ name ∈ file.1, IsName name := by
  cases entries with
  | nil => exact fun file member => absurd member List.not_mem_nil
  | cons entry rest =>
      intro file member
      rcases List.mem_append.mp member with first | later
      · exact entry_contents_named entry ordered.1 file first
      · exact contents_named rest ordered.2.2 file later
end

theorem path_key_of (names : List String) (some : names ≠ []) (named : ∀ name ∈ names, IsName name) :
    pathKey (pathOf names) = names.map fun name => Text.bytes name.toList := by
  have unmixed : ∀ piece ∈ names.map String.toList, '/' ∉ piece := by
    rw [List.forall_mem_map]
    exact fun name member => (named name member).2.2.2
  rw [pathKey, pathOf, String.toList_ofList, Text.split_join '/' _ (by simpa using some) unmixed, List.map_map]
  rfl

theorem map_bytes_lt (a b : List String) (less : a < b) :
    (a.map fun name => Text.bytes name.toList) < b.map fun name => Text.bytes name.toList := by
  induction a generalizing b with
  | nil =>
      cases b with
      | nil => exact absurd less (List.not_lt_nil _)
      | cons name more => exact List.nil_lt_cons _ _
  | cons first rest ih =>
      cases b with
      | nil => exact absurd less (List.not_lt_nil _)
      | cons name more =>
          rw [List.map_cons, List.map_cons, List.cons_lt_cons_iff]
          rcases List.cons_lt_cons_iff.mp less with smaller | ⟨rfl, later⟩
          · exact .inl (Text.bytes_lt _ _ (String.lt_iff_toList_lt.mp smaller))
          · exact .inr ⟨rfl, ih more later⟩

-- The paths of a folder's files are sorted, and so no two files have one path.
theorem files_sorted (entries : List Entry) (ordered : Ordered entries) :
    ((filesOf "" entries).map Prod.fst).Pairwise Before := by
  rw [files_contents, List.map_map, List.pairwise_map]
  refine (contents_sorted entries ordered).imp_of_mem ?_
  intro a b memberA memberB less
  have keyA := path_key_of a.1 (contents_nonempty entries _ _ memberA) (contents_named entries ordered a memberA)
  have keyB := path_key_of b.1 (contents_nonempty entries _ _ memberB) (contents_named entries ordered b memberB)
  simp only [Function.comp_apply, String.empty_append, Before, keyA, keyB]
  exact map_bytes_lt a.1 b.1 less

theorem before_irrefl (path : String) : ¬ Before path path := List.lt_irrefl _

theorem sorted_nodup (paths : List String) (sorted : paths.Pairwise Before) : paths.Nodup := by
  refine sorted.imp ?_
  rintro a b before rfl
  exact before_irrefl a before

theorem mem_files_iff (entries : List Entry) (ordered : Ordered entries) (path : String) (content : ByteArray) :
    (path, content) ∈ filesOf "" entries ↔
      ∃ names own, entryAt? entries names = some (.file own content) ∧ path = pathOf names := by
  rw [files_contents, List.mem_map]
  constructor
  · rintro ⟨⟨names, other⟩, member, same⟩
    obtain ⟨rfl, rfl⟩ := Prod.mk.inj same
    obtain ⟨own, lead⟩ := (mem_contents_iff entries ordered names other).mp member
    exact ⟨names, own, lead, by simp⟩
  · rintro ⟨names, own, lead, rfl⟩
    exact ⟨(names, content), (mem_contents_iff entries ordered names content).mpr ⟨own, lead⟩, by simp⟩

theorem entry_at_ordered (entries : List Entry) (ordered : Ordered entries) (names : List String) (own : String)
    (inner : List Entry) (lead : entryAt? entries names = some (.folder own inner)) : Ordered inner := by
  induction names generalizing entries with
  | nil =>
      cases lead
      exact ordered
  | cons name more ih =>
      rcases (entry_at_cons_iff _ _ _ _).mp lead with ⟨-, child⟩ | ⟨-, folder, deeper, child, rest⟩
      · exact (ordered_member entries ordered _ ((child_some_iff entries ordered name _).mp child).1).2
      · have sound := (ordered_member entries ordered _ ((child_some_iff entries ordered name _).mp child).1).2
        exact ih deeper sound rest

theorem Tree.find_ok (tree : Tree) (path : String) (entry : Entry) (found : tree.find? path = .ok entry) :
    ∃ place, tree.follow (tree.startOf path.toList) (Path.steps path.toList) = .ok place ∧
      tree.at? place = some entry := by
  rw [find?, bind_ok_iff] at found
  obtain ⟨-, -, found⟩ := found
  dsimp only at found
  split at found
  · cases found
  · obtain ⟨place, lead, found⟩ := (bind_ok_iff _ _ _).mp found
    split at found
    · cases found
    · next other standing =>
        split at found
        · cases found
        · obtain rfl : other = entry := Except.ok.inj found
          exact ⟨place, lead, standing⟩

theorem Tree.find_ordered (tree : Tree) (path own : String) (entries : List Entry)
    (found : tree.find? path = .ok (.folder own entries)) : Ordered entries := by
  obtain ⟨place, -, reached⟩ := tree.find_ok path _ found
  exact entry_at_ordered tree.entries tree.ordered place.reverse own entries reached

end LinkPress.Files
