import LinkPress.Proofs.Files.Holding
import LinkPress.Proofs.Site.Outputs

set_option autoImplicit false

/- Whether the files of a site get in each other's way. No two have one path, but a folder of the source
   can have the path that a page is written to, and then the pages in that folder stand below a file. -/
namespace LinkPress.Site

open LinkPress.Files (IsName Tree pathOf)
open LinkPress.Files.Path (Beside Proper)

-- The first path goes on to the second one.
def Under (outer inner : String) : Prop :=
  ∃ more, more ≠ [] ∧ Files.Path.names inner = Files.Path.names outer ++ more

structure Apart (paths : List String) : Prop where
  distinct : paths.Nodup
  unnested : ∀ outer ∈ paths, ∀ inner ∈ paths, ¬ Under outer inner

-- What a site writes: its pages, and the listing unless a page has the place of it.
def Index.outputs (index : Index) : List String :=
  let own := index.pages.map Page.output
  if "index.html" ∈ own then own else own ++ ["index.html"]

-- The pages, with the one that would be written to where the listing is.
def Index.owners (index : Index) : List String := "index.md" :: index.sources

-- A page that was built stands below a folder that has the path of an output.
def Shadowed (index : Index) : Prop :=
  ∃ owner ∈ index.owners, ∃ source ∈ index.sources, Under (outputPath owner) source

theorem under_named_iff (outer : String) (folders : List String) (last : String)
    (segments : Files.Segments (folders ++ [last])) :
    Under outer (pathOf (folders ++ [last])) ↔ Files.Path.names outer <+: folders := by
  rw [Under, Files.Path.names_path_of _ segments]
  constructor
  · rintro ⟨more, some, same⟩
    obtain ⟨front, back, rfl⟩ := (List.eq_nil_or_concat more).resolve_left some
    rw [List.concat_eq_append, ← List.append_assoc] at same
    exact ⟨front, (List.append_inj_left' same rfl).symm⟩
  · rintro ⟨front, same⟩
    exact ⟨front ++ [last], by simp, by rw [← same, List.append_assoc]⟩

theorem page_segments (path : String) (folders : List String) (stem : String) (page : PagePath path folders stem) :
    Files.Segments (folders ++ [stem ++ ".md"]) := by
  refine ⟨by simp, ?_⟩
  intro name member
  rcases List.mem_append.mp member with outer | last
  · have named := page.outer name outer
    exact ⟨by simpa using named.1, named.2.2.2⟩
  · rw [List.mem_singleton] at last
    subst last
    rw [String.toList_append, List.mem_append, not_or]
    exact ⟨by simp [page.filled], page.unbroken, by decide⟩

-- A page and its output stand in one folder.
theorem under_output_iff (outer path : String) (folders : List String) (stem : String)
    (page : PagePath path folders stem) : Under outer (outputPath path) ↔ Under outer path := by
  rw [output_path path folders stem page, under_named_iff outer folders _ (output_segments path folders stem page)]
  rw [page.path, under_named_iff outer folders _ (page_segments path folders stem page)]

-- The listing stands in no folder.
theorem not_under_index (owner : String) (folders : List String) (stem : String) (page : PagePath owner folders stem) :
    ¬ Under (outputPath owner) "index.md" := by
  have own := page_segments "index.md" [] "index" index_page_path
  rw [index_page_path.path, under_named_iff _ [] _ own, output_path owner folders stem page,
    Files.Path.names_path_of _ (output_segments owner folders stem page)]
  simp

-- A page whose file is called by two dots and the extension: its output leads back to the folder around.
def Upward (index : Index) : Prop := ∃ folders, pathOf (folders ++ ["..md"]) ∈ index.sources

theorem page_name_inj (folders outer : List String) (stem name : String) (segment : Files.Path.IsSegment name.toList)
    (path : String) (page : PagePath path outer stem) (same : path = pathOf (folders ++ [name])) :
    stem ++ ".md" = name := by
  have own : Files.Path.IsSegment (stem ++ ".md").toList :=
    (page_segments path outer stem page).plain _ (by simp)
  have equal := congrArg String.toList (page.path.symm.trans same)
  rw [Files.path_of_last, Files.path_of_last] at equal
  have last := congrArg Files.Path.lastSegment equal
  rw [Files.Path.last_segment_named _ _ (Files.front_of_front outer) own,
    Files.Path.last_segment_named _ _ (Files.front_of_front folders) segment] at last
  exact String.toList_inj.mp last

theorem output_proper (path : String) (folders : List String) (stem : String) (page : PagePath path folders stem)
    (level : stem ≠ ".") :
    outputPath path = pathOf (folders ++ [stem ++ ".html"]) ∧ ∀ name ∈ folders ++ [stem ++ ".html"], IsName name := by
  have output := output_path path folders stem page
  have segments := output_segments path folders stem page
  rw [if_neg level] at output segments
  refine ⟨output, ?_⟩
  intro name member
  rcases List.mem_append.mp member with outer | last
  · exact page.outer name outer
  · obtain rfl := List.mem_singleton.mp last
    obtain ⟨-, unbroken⟩ := segments.plain _ member
    have step := html_step stem
    exact ⟨by simp, fun same => step.1 (congrArg String.toList same),
      fun same => step.2 (congrArg String.toList same), unbroken⟩

theorem names_inside (a b : String) (inside : Files.Path.names a <+: Files.Path.names b) :
    Under a b ∨ Files.Path.names a = Files.Path.names b := by
  obtain ⟨more, whole⟩ := inside
  by_cases none : more = []
  · rw [none, List.append_nil] at whole
    exact .inr whole
  · exact .inl ⟨more, none, whole.symm⟩

theorem proper_beside (a b : String) (properA : Proper a) (properB : Proper b) (different : a ≠ b)
    (left : ¬ Under a b) (right : ¬ Under b a) : Beside a b := by
  have names : Files.Path.names a ≠ Files.Path.names b := fun same =>
    different ((Files.Path.proper_names a properA).trans (same ▸ (Files.Path.proper_names b properB).symm))
  exact ⟨fun inside => (names_inside a b inside).elim left names,
    fun inside => (names_inside b a inside).elim right names.symm⟩

section Built

variable [Readers] (site : Builder) (tree : Tree) (index : Index)
variable (finished : site.build tree = .ok index)
include finished

theorem mem_outputs_iff (output : String) :
    output ∈ index.outputs ↔ ∃ owner ∈ index.owners, output = outputPath owner := by
  have own : output ∈ index.pages.map Page.output ↔ ∃ source ∈ index.sources, output = outputPath source := by
    constructor
    · intro member
      obtain ⟨page, built, rfl⟩ := List.mem_map.mp member
      exact ⟨page.source, List.mem_map_of_mem built, site.built_output tree index finished page built⟩
    · rintro ⟨source, member, rfl⟩
      obtain ⟨page, built, rfl⟩ := List.mem_map.mp member
      exact List.mem_map.mpr ⟨page, built, site.built_output tree index finished page built⟩
  rw [Index.owners, List.exists_mem_cons_iff, index_output, ← own, Index.outputs]
  split
  · next listed =>
      constructor
      · exact .inr
      · rintro (rfl | member)
        · exact listed
        · exact member
  · rw [List.mem_append, List.mem_singleton, or_comm]


theorem owner_page_path (owner : String) (member : owner ∈ index.owners) :
    ∃ folders stem, PagePath owner folders stem := by
  rcases List.mem_cons.mp member with rfl | built
  · exact ⟨[], "index", index_page_path⟩
  · obtain ⟨isPage, content, source⟩ := site.build_from_pages tree index finished owner (.inl built)
    exact source_page_path site.config tree owner content source isPage

theorem outputs_distinct : index.outputs.Nodup := by
  have sources : index.sources.Nodup := Files.sorted_nodup _ (site.build_sorted tree index finished).pages
  have outputs : index.pages.map Page.output = index.sources.map outputPath := by
    rw [Index.sources, List.map_map]
    exact List.map_congr_left fun page member => site.built_output tree index finished page member
  have own : (index.pages.map Page.output).Nodup := by
    rw [outputs]
    refine List.Nodup.map_on ?_ sources
    intro a inA b inB same
    obtain ⟨foldersA, stemA, pageA⟩ := owner_page_path site tree index finished a (List.mem_cons_of_mem _ inA)
    obtain ⟨foldersB, stemB, pageB⟩ := owner_page_path site tree index finished b (List.mem_cons_of_mem _ inB)
    exact output_inj a b foldersA foldersB stemA stemB pageA pageB same
  rw [Index.outputs]
  split
  · exact own
  · next unlisted =>
      rw [← List.concat_eq_append]
      exact own.concat unlisted

theorem under_outputs_iff (outer inner : String) (member : inner ∈ index.owners) :
    Under outer (outputPath inner) ↔ Under outer inner := by
  obtain ⟨folders, stem, page⟩ := owner_page_path site tree index finished inner member
  exact under_output_iff outer inner folders stem page

theorem outputs_apart_iff : Apart index.outputs ↔ ¬ Shadowed index := by
  constructor
  · rintro apart ⟨owner, known, source, built, under⟩
    have member := List.mem_cons_of_mem "index.md" built
    rw [← under_outputs_iff site tree index finished _ source member] at under
    refine apart.unnested _ ?_ _ ?_ under
    · exact (mem_outputs_iff site tree index finished _).mpr ⟨owner, known, rfl⟩
    · exact (mem_outputs_iff site tree index finished _).mpr ⟨source, member, rfl⟩
  · intro clear
    refine ⟨outputs_distinct site tree index finished, ?_⟩
    intro outer outerOut inner innerOut under
    obtain ⟨owner, known, rfl⟩ := (mem_outputs_iff site tree index finished outer).mp outerOut
    obtain ⟨source, member, rfl⟩ := (mem_outputs_iff site tree index finished inner).mp innerOut
    rw [under_outputs_iff site tree index finished _ source member] at under
    rcases List.mem_cons.mp member with rfl | built
    · obtain ⟨folders, stem, page⟩ := owner_page_path site tree index finished owner known
      exact absurd under (not_under_index owner folders stem page)
    · exact clear ⟨owner, known, source, built, under⟩

theorem owner_level (level : ¬ Upward index) (owner : String) (member : owner ∈ index.owners) :
    ∃ folders stem, PagePath owner folders stem ∧ stem ≠ "." := by
  rcases List.mem_cons.mp member with rfl | built
  · exact ⟨[], "index", index_page_path, by decide⟩
  · obtain ⟨folders, stem, page⟩ := owner_page_path site tree index finished owner member
    refine ⟨folders, stem, page, ?_⟩
    rintro rfl
    exact level ⟨folders, page.path ▸ built⟩

theorem outputs_beside (clear : ¬ Shadowed index) (level : ¬ Upward index) :
    (∀ output ∈ index.outputs, Proper output) ∧ index.outputs.Pairwise Beside := by
  have apart := (outputs_apart_iff site tree index finished).mpr clear
  have proper : ∀ output ∈ index.outputs, Proper output := by
    intro output member
    obtain ⟨owner, known, rfl⟩ := (mem_outputs_iff site tree index finished output).mp member
    obtain ⟨folders, stem, page, own⟩ := owner_level site tree index finished level owner known
    exact ⟨folders, _, output_proper owner folders stem page own⟩
  refine ⟨proper, apart.distinct.imp_of_mem ?_⟩
  intro a b inA inB different
  exact proper_beside a b (proper a inA) (proper b inB) different (apart.unnested a inA b inB) (apart.unnested b inB a inA)

end Built

end LinkPress.Site
