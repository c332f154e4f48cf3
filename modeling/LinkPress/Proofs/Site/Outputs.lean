import LinkPress.Proofs.Files.Places
import LinkPress.Proofs.Site.Accounting

set_option autoImplicit false

/- Where the pages of a site are written to. Two pages never have one file. -/
namespace LinkPress.Site

open LinkPress.Files (IsName Tree pathOf frontOf)

-- A page file: its name is a stem with the extension of pages behind.
structure PagePath (path : String) (folders : List String) (stem : String) : Prop where
  outer : ∀ name ∈ folders, IsName name
  filled : stem.toList ≠ []
  unbroken : '/' ∉ stem.toList
  path : path = pathOf (folders ++ [stem ++ ".md"])

theorem page_path (names : List String) (some : names ≠ []) (named : ∀ name ∈ names, IsName name)
    (isPage : Builder.isPage (pathOf names) = true) : ∃ folders stem, PagePath (pathOf names) folders stem := by
  obtain rfl | ⟨folders, last, rfl⟩ := List.eq_nil_or_concat names
  · exact absurd rfl some
  · rw [List.concat_eq_append] at *
    have lastName := named last (by simp)
    have segment : Files.Path.IsSegment last.toList := ⟨by simpa using lastName.1, lastName.2.2.2⟩
    have proper : last.toList ≠ ['.'] := fun same => lastName.2.1 (String.toList_inj.mp same)
    rw [Builder.isPage, beq_iff_eq, Files.path_of_last, Files.Path.extension_iff _ (Files.front_of_front folders)
      "md".toList (by decide) (by decide) _ segment proper] at isPage
    obtain ⟨stem, filled, same⟩ := isPage
    have written : last = String.ofList stem ++ ".md" := by
      apply String.toList_inj.mp
      simp [same]
    refine ⟨folders, String.ofList stem, ?_, by simpa using filled, ?_, by rw [written]⟩
    · exact fun name member => named name (List.mem_append_left _ member)
    · rw [String.toList_ofList]
      intro slash
      exact segment.2 (same ▸ List.mem_append_left _ slash)

theorem source_page_path (config : Config) (tree : Tree) (path : String)
    (content : ByteArray) (source : config.Source tree path content) (isPage : Builder.isPage path = true) :
    ∃ folders stem, PagePath path folders stem := by
  obtain ⟨own, entries, names, name, found, lead, rfl⟩ := source
  have sound := tree.find_ordered _ own entries found
  have member := (Files.mem_contents_iff entries sound names content).mpr ⟨name, lead⟩
  exact page_path names (Files.contents_nonempty entries _ _ member) (Files.contents_named entries sound _ member) isPage

theorem output_path (path : String) (folders : List String) (stem : String) (page : PagePath path folders stem) :
    outputPath path = pathOf (folders ++ [if stem = "." then ".." else stem ++ ".html"]) := by
  apply String.toList_inj.mp
  have unbroken : '/' ∉ stem.toList ++ '.' :: "md".toList := by
    rw [List.mem_append, not_or]
    exact ⟨page.unbroken, by decide⟩
  have other := Files.Path.with_extension_named (frontOf folders) (Files.front_of_front folders) "md".toList
    (by decide) (by decide) "html".toList stem.toList page.filled unbroken
  have written : path.toList = frontOf folders ++ (stem.toList ++ '.' :: "md".toList) := by
    rw [page.path, Files.path_of_last, String.toList_append]
    rfl
  rw [outputPath, String.toList_ofList, written, other, Files.path_of_last]
  by_cases up : stem = "."
  · have dot : stem.toList = ['.'] := by rw [up]; rfl
    rw [if_pos up, if_pos dot]
    rfl
  · have undotted : stem.toList ≠ ['.'] := fun same => up (String.toList_inj.mp same)
    rw [if_neg up, if_neg undotted, String.toList_append, List.append_assoc]
    rfl

theorem html_step (stem : String) : Tree.IsStep (stem ++ ".html").toList := by
  have long : 2 < (stem.toList ++ ".html".toList).length := by
    rw [List.length_append]
    exact Nat.lt_of_lt_of_le (by decide) (Nat.le_add_left _ _)
  rw [String.toList_append]
  refine ⟨?_, ?_⟩ <;>
  · intro same
    rw [same] at long
    simp at long

section Places

variable (tree : Tree) (base path : String) (folders : List String) (stem : String) (page : PagePath path folders stem)
include page

theorem output_segments : Files.Segments (folders ++ [if stem = "." then ".." else stem ++ ".html"]) := by
  refine ⟨by simp, ?_⟩
  intro name member
  rcases List.mem_append.mp member with outer | last
  · have named := page.outer name outer
    exact ⟨by simpa using named.1, named.2.2.2⟩
  · rw [List.mem_singleton] at last
    by_cases up : stem = "."
    · rw [if_pos up] at last
      subst last
      decide
    · rw [if_neg up] at last
      subst last
      rw [String.toList_append]
      refine ⟨by simp [page.filled], ?_⟩
      rw [List.mem_append, not_or]
      exact ⟨page.unbroken, by decide⟩

-- The output of a page has a place of its own, unless it leads to a folder.
theorem output_place (names : List String)
    (lead : tree.Leads (String.ofList (Files.Path.join base.toList (outputPath path).toList)) names) :
    tree.kind names = .folder ∨
      stem ≠ "." ∧ ∃ start, tree.Leads base start ∧ names = (stem ++ ".html") :: (folders.reverse ++ start) := by
  have steps : ∀ step ∈ folders.map String.toList, Tree.IsStep step := by
    rw [List.forall_mem_map]
    intro name member
    have named := page.outer name member
    exact ⟨fun same => named.2.1 (String.toList_inj.mp same), fun same => named.2.2.1 (String.toList_inj.mp same)⟩
  rw [output_path path folders stem page, tree.leads_join_iff base _ (output_segments path folders stem page)] at lead
  obtain ⟨start, first, onward⟩ := lead
  rw [List.map_append, Tree.follow_append_iff] at onward
  obtain ⟨middle, through, last⟩ := onward
  have reached := tree.follow_named _ start middle steps through
  have back : (folders.map String.toList).map String.ofList = folders := by simp
  rw [back] at reached
  subst reached
  obtain ⟨standing, next, stepped, ended⟩ := (tree.follow_cons_iff _ names _ []).mp last
  obtain rfl : next = names := Except.ok.inj ended
  by_cases up : stem = "."
  · rw [if_pos up] at stepped
    have outer : (folders.reverse ++ start).tail = next := Except.ok.inj stepped
    cases around : folders.reverse ++ start with
    | nil =>
        rw [around] at outer
        exact .inl (outer ▸ rfl)
    | cons name rest =>
        rw [around] at outer standing
        exact .inl (outer ▸ tree.kind_around name rest (by rw [standing]; exact Files.Kind.noConfusion))
  · rw [if_neg up] at stepped
    have named := Tree.step_named _ _ next (html_step stem) stepped
    rw [String.ofList_toList] at named
    exact .inr ⟨up, start, first, named⟩

end Places

-- Two pages have one place only if they are one page.
theorem output_place_inj (tree : Tree) (base a b : String) (foldersA foldersB : List String) (stemA stemB : String)
    (pageA : PagePath a foldersA stemA) (pageB : PagePath b foldersB stemB) (names : List String)
    (leadA : tree.Leads (String.ofList (Files.Path.join base.toList (outputPath a).toList)) names)
    (leadB : tree.Leads (String.ofList (Files.Path.join base.toList (outputPath b).toList)) names)
    (free : tree.kind names ≠ .folder) : a = b := by
  rcases output_place tree base a foldersA stemA pageA names leadA with folder | ⟨-, start, first, same⟩
  · exact absurd folder free
  rcases output_place tree base b foldersB stemB pageB names leadB with folder | ⟨-, again, second, other⟩
  · exact absurd folder free
  obtain rfl := tree.leads_once base start again first second
  rw [same, List.cons.injEq, List.append_cancel_right_eq, List.reverse_inj] at other
  rw [pageA.path, pageB.path, other.2, (String.append_left_inj ".html").mp other.1]

theorem output_inj (a b : String) (foldersA foldersB : List String) (stemA stemB : String)
    (pageA : PagePath a foldersA stemA) (pageB : PagePath b foldersB stemB) (same : outputPath a = outputPath b) :
    a = b := by
  rw [output_path a foldersA stemA pageA, output_path b foldersB stemB pageB] at same
  have segmentsA := output_segments a foldersA stemA pageA
  have segmentsB := output_segments b foldersB stemB pageB
  have names := Files.path_of_inj _ _ segmentsA.some segmentsB.some (fun name member => (segmentsA.plain name member).2)
    (fun name member => (segmentsB.plain name member).2) same
  obtain ⟨outer, last⟩ := List.append_inj' names rfl
  rw [List.singleton_inj] at last
  have up (stem : String) : stem ++ ".html" ≠ ".." := fun equal => (html_step stem).2 (congrArg String.toList equal)
  have stems : stemA = stemB := by
    by_cases upA : stemA = "."
    · by_cases upB : stemB = "."
      · rw [upA, upB]
      · rw [if_pos upA, if_neg upB] at last
        exact absurd last.symm (up stemB)
    · by_cases upB : stemB = "."
      · rw [if_neg upA, if_pos upB] at last
        exact absurd last (up stemA)
      · rw [if_neg upA, if_neg upB] at last
        exact (String.append_left_inj ".html").mp last
  rw [pageA.path, pageB.path, outer, stems]

theorem index_page_path : PagePath "index.md" [] "index" where
  outer := fun name member => absurd member List.not_mem_nil
  filled := by decide
  unbroken := by decide
  path := by decide

theorem index_output : outputPath "index.md" = "index.html" := by decide

end LinkPress.Site
