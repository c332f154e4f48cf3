import LinkPress.Proofs.Site.Accounting

set_option autoImplicit false

/- What a build says of a page hangs on that page alone. Two sites that hold the same files but for the
   content of one come to the same index but for what it says of that one. -/
namespace LinkPress.Files

-- What is sorted by distinct paths is determined by its members.
theorem sorted_determined {α : Type} (key : α → String) (a b : List α) (sortedA : (a.map key).Pairwise Before)
    (sortedB : (b.map key).Pairwise Before) (same : ∀ item, item ∈ a ↔ item ∈ b) : a = b := by
  have : Std.Irrefl fun x y => Before (key x) (key y) := ⟨fun x => before_irrefl (key x)⟩
  have : Std.Antisymm fun x y => Before (key x) (key y) :=
    ⟨fun x y less more => absurd (List.lt_trans less more) (before_irrefl (key x))⟩
  exact (List.pairwise_map.mp sortedA).eq_of_mem_iff (List.pairwise_map.mp sortedB) same

end LinkPress.Files

namespace LinkPress.Site

open LinkPress.Files (Tree Before)

-- The source folders hold the same files, and all but one have the same content.
structure Config.DifferAt (config : Config) (tree other : Tree) (path : String) : Prop where
  same : ∀ file content, file ≠ path → (config.Source tree file content ↔ config.Source other file content)
  held : ∃ content, config.Source tree path content
  stillHeld : ∃ content, config.Source other path content

namespace Index

-- What an index says of the other files, in its order.
def without (index : Index) (path : String) : Index :=
  ⟨index.pages.filter fun page => page.source ≠ path,
    index.diagnostics.filter fun diagnostic => diagnostic.page ≠ path,
    index.skipped.filter fun left => left ≠ path⟩

-- An index that says nothing of any other file.
structure About (index : Index) (path : String) : Prop where
  pages : ∀ page ∈ index.pages, page.source = path
  diagnostics : ∀ diagnostic ∈ index.diagnostics, diagnostic.page = path
  skipped : ∀ left ∈ index.skipped, left = path

theorem join_without (a b : Index) (path : String) :
    (a.join b).without path = (a.without path).join (b.without path) := by
  simp only [join, without, List.filter_append]

theorem filter_own {α : Type} (key : α → String) (items : List α) (path : String)
    (own : ∀ item ∈ items, key item = path) : items.filter (fun item => key item ≠ path) = [] := by
  rw [List.filter_eq_nil_iff]
  intro item member
  simpa using own item member

theorem filter_other {α : Type} (key : α → String) (items : List α) (own path : String)
    (about : ∀ item ∈ items, key item = own) (apart : own ≠ path) :
    items.filter (fun item => key item ≠ path) = items := by
  rw [List.filter_eq_self]
  intro item member
  simpa [about item member] using apart

theorem about_without (index : Index) (path : String) (about : index.About path) : index.without path = .empty := by
  rw [without, filter_own Page.source _ path about.pages, filter_own Diagnostic.page _ path about.diagnostics,
    filter_own (fun left => left) _ path about.skipped, empty]

theorem about_other (index : Index) (own path : String) (about : index.About own) (apart : own ≠ path) :
    index.without path = index := by
  rw [without, filter_other Page.source _ own path about.pages apart,
    filter_other Diagnostic.page _ own path about.diagnostics apart,
    filter_other (fun left => left) _ own path about.skipped apart]

end Index

namespace Builder

-- Two listings with the same paths in order, and the same files but for the one at a path.
structure Counterparts (path : String) (files others : List (String × ByteArray)) : Prop where
  sorted : (files.map Prod.fst).Pairwise Before
  sortedOthers : (others.map Prod.fst).Pairwise Before
  paths : files.map Prod.fst = others.map Prod.fst
  same : ∀ file, file.1 ≠ path → (file ∈ files ↔ file ∈ others)

theorem filter_counterparts (path : String) (files others : List (String × ByteArray))
    (counterparts : Counterparts path files others) (keep : String × ByteArray → Bool)
    (apart : ∀ file, keep file = true → file.1 ≠ path) :
    files.filter keep = others.filter keep := by
  refine Files.sorted_determined Prod.fst _ _ (filter_sorted files counterparts.sorted keep)
    (filter_sorted others counterparts.sortedOthers keep) ?_
  intro file
  rw [List.mem_filter, List.mem_filter]
  exact and_congr_left fun kept => counterparts.same file (apart file kept)

variable (site : Builder)

theorem mem_paths_iff (tree : Tree) (files : List (String × ByteArray))
    (listed : site.sourceFiles tree = .ok files) (path : String) :
    path ∈ files.map Prod.fst ↔ ∃ content, site.config.Source tree path content := by
  simp only [← site.mem_source_iff tree files listed, List.mem_map, Prod.exists, exists_and_right,
    exists_eq_right]

theorem differ_counterparts (tree other : Tree) (path : String)
    (differ : site.config.DifferAt tree other path) (files others : List (String × ByteArray))
    (listed : site.sourceFiles tree = .ok files) (listedOther : site.sourceFiles other = .ok others) :
    Counterparts path files others := by
  have sorted := site.source_files_sorted tree files listed
  have sortedOthers := site.source_files_sorted other others listedOther
  refine ⟨sorted, sortedOthers, ?_, ?_⟩
  · refine Files.sorted_determined id _ _ (by rwa [List.map_id]) (by rwa [List.map_id]) ?_
    intro file
    rw [site.mem_paths_iff tree files listed, site.mem_paths_iff other others listedOther]
    by_cases own : file = path
    · rw [own]
      exact iff_of_true differ.held differ.stillHeld
    · exact exists_congr fun content => differ.same file content own
  · intro file apart
    rw [site.mem_source_iff tree files listed file.1 file.2,
      site.mem_source_iff other others listedOther file.1 file.2]
    exact differ.same file.1 file.2 apart

theorem listings_differ (tree other : Tree) (path : String)
    (files others : List (String × ByteArray)) (listed : site.sourceFiles tree = .ok files)
    (listedOther : site.sourceFiles other = .ok others) (paths : files.map Prod.fst = others.map Prod.fst)
    (same : ∀ file, file.1 ≠ path → (file ∈ files ↔ file ∈ others)) (held : path ∈ files.map Prod.fst) :
    site.config.DifferAt tree other path where
  same file content apart := by
    rw [← site.mem_source_iff tree files listed, ← site.mem_source_iff other others listedOther]
    exact same (file, content) apart
  held := (site.mem_paths_iff tree files listed path).mp held
  stillHeld := (site.mem_paths_iff other others listedOther path).mp (paths ▸ held)

variable [Readers]

theorem share_about (file : String × ByteArray) : (site.share file).About file.1 := by
  cases read : String.fromUTF8? file.2 with
  | none =>
      rw [share, share?, read]
      exact ⟨List.forall_mem_nil _, List.forall_mem_nil _, List.forall_mem_nil _⟩
  | some text =>
      obtain ⟨sources, complaints, skipped⟩ := site.share_own file (by rw [read]; rfl)
      exact ⟨List.forall_mem_map.mp sources, List.forall_mem_map.mp complaints, skipped⟩

def otherThan (path : String) (file : String × ByteArray) : Bool := file.1 ≠ path

theorem shares_without (files : List (String × ByteArray)) (path : String) :
    (site.shares files).without path = site.shares (files.filter (otherThan path)) := by
  induction files with
  | nil => rfl
  | cons file rest ih =>
      rw [shares, Index.join_without, ih, List.filter_cons]
      have about := site.share_about file
      by_cases same : file.1 = path
      · rw [same] at about
        rw [if_neg (by simp [otherThan, same]), Index.about_without _ path about, Index.empty_join]
      · rw [if_pos (by simp [otherThan, same]), Index.about_other _ file.1 path about same, shares]

-- The ignored files stand in front of what the others add.
theorem index_of_join (files : List (String × ByteArray)) :
    site.indexOf files =
      (⟨[], [], (files.filter site.drops).map Prod.fst⟩ : Index).join (site.shares (files.filter site.keeps)) := rfl

theorem index_without (files : List (String × ByteArray)) (path : String) :
    (site.indexOf files).without path = site.indexOf (files.filter (otherThan path)) := by
  have dropped : (⟨[], [], (files.filter site.drops).map Prod.fst⟩ : Index).without path =
      ⟨[], [], ((files.filter (otherThan path)).filter site.drops).map Prod.fst⟩ := by
    rw [List.filter_comm site.drops, Index.without, List.filter_map]
    rfl
  rw [index_of_join, Index.join_without, dropped, shares_without, List.filter_comm (otherThan path) site.keeps,
    index_of_join]

section Counterparts

variable (path : String) (files others : List (String × ByteArray)) (counterparts : Counterparts path files others)
include counterparts

theorem index_apart : (site.indexOf files).without path = (site.indexOf others).without path := by
  have rest := filter_counterparts path files others counterparts (otherThan path) (by simp [otherThan])
  rw [index_without, index_without, rest]

-- A file that is ignored or no page is listed at most by its path.
theorem index_unread (unread : site.ignores path = true ∨ isPage path = false) :
    site.indexOf files = site.indexOf others := by
  have kept : files.filter site.keeps = others.filter site.keeps := by
    refine filter_counterparts path files others counterparts site.keeps ?_
    rintro file keeps rfl
    rw [Builder.keeps, Bool.and_eq_true, Bool.not_eq_true'] at keeps
    rcases unread with ignored | noPage
    · exact Bool.noConfusion (ignored.symm.trans keeps.1)
    · exact Bool.noConfusion (noPage.symm.trans keeps.2)
  have dropped (listing : List (String × ByteArray)) :
      (listing.filter site.drops).map Prod.fst =
        (listing.map Prod.fst).filter fun own => site.ignores own && isPage own := by
    rw [List.filter_map]
    rfl
  rw [index_of_join, index_of_join, kept, dropped, dropped, counterparts.paths]

end Counterparts

theorem build_isolates_files (tree other : Tree)
    (path : String) (differ : site.config.DifferAt tree other path) (index again : Index)
    (built : site.build tree = .ok index) (rebuilt : site.build other = .ok again) :
    index.without path = again.without path ∧
      (site.ignores path = true ∨ isPage path = false → index = again) := by
  obtain ⟨files, listed, -, rfl⟩ := (site.build_ok_iff tree index).mp built
  obtain ⟨others, listedOther, -, rfl⟩ := (site.build_ok_iff other again).mp rebuilt
  have counterparts :=
    site.differ_counterparts tree other path differ files others listed listedOther
  exact ⟨site.index_apart path files others counterparts, site.index_unread path files others counterparts⟩

end Builder

-- A page, one that changes, and one in a folder that is left out.
def draftsTree (b d : String) : Tree where
  entries := [.folder "content" [.file "a.md" "ok".toUTF8, .file "b.md" b.toUTF8, .folder "old" [.file "d.md" d.toUTF8]],
    notesFile]
  ordered := of_decide_eq_true (by cbv)
  working := []

def draftsFiles (b d : String) : List (String × ByteArray) :=
  [("a.md", "ok".toUTF8), ("b.md", b.toUTF8), ("old/d.md", d.toUTF8)]

def draftsIndex (b : String) : Index :=
  Index.add ⟨[⟨"a.md", "a.html", "a", none, "<p>ok</p>\n"⟩], [], ["old/d.md"]⟩ "b.md" (notes.page "b.md" b)

theorem drafts_build (b d : String) : notes.build (draftsTree b d) = .ok (draftsIndex b) := by
  have kept : (draftsFiles b d).filter notes.keeps = [("a.md", "ok".toUTF8), ("b.md", b.toUTF8)] := by cbv
  have dropped : (draftsFiles b d).filter notes.drops = [("old/d.md", d.toUTF8)] := by cbv
  refine (notes.build_ok_iff _ _).mpr ⟨draftsFiles b d, rfl, ?_, ?_⟩
  · rw [kept]
    simp only [List.forall_mem_cons, Text.read_utf8]
    simp
  · rw [Builder.indexOf, kept, dropped, Builder.shares, Builder.shares, Builder.shares, Builder.share_text,
      Builder.share_text, notes_page, draftsIndex, Index.join_empty]
    cases notes.page "b.md" b <;> rfl

-- The page is mended, then the one that is left out is broken.
theorem edited_drafts_isolated :
    (notesConfig.DifferAt (draftsTree "[x](@no)" "ok") (draftsTree "ok" "ok") "b.md" ∧
      notes.build (draftsTree "[x](@no)" "ok") = .ok (draftsIndex "[x](@no)") ∧
      notes.build (draftsTree "ok" "ok") = .ok (draftsIndex "ok") ∧
      (draftsIndex "[x](@no)").without "b.md" = (draftsIndex "ok").without "b.md") ∧
    notes.ignores "old/d.md" = true ∧
      notesConfig.DifferAt (draftsTree "ok" "ok") (draftsTree "ok" "[x](@no)") "old/d.md" ∧
      ∃ index, notes.build (draftsTree "ok" "ok") = .ok index ∧
        notes.build (draftsTree "ok" "[x](@no)") = .ok index := by
  have ignored : notes.ignores "old/d.md" = true := by cbv
  have mending : notesConfig.DifferAt (draftsTree "[x](@no)" "ok") (draftsTree "ok" "ok") "b.md" := by
    refine notes.listings_differ _ _ "b.md" (draftsFiles "[x](@no)" "ok") (draftsFiles "ok" "ok")
      rfl rfl rfl ?_ (by decide)
    rintro ⟨own, content⟩ apart
    simp [draftsFiles, apart]
  have breaking : notesConfig.DifferAt (draftsTree "ok" "ok") (draftsTree "ok" "[x](@no)") "old/d.md" := by
    refine notes.listings_differ _ _ "old/d.md" (draftsFiles "ok" "ok") (draftsFiles "ok" "[x](@no)")
      rfl rfl rfl ?_ (by decide)
    rintro ⟨own, content⟩ apart
    simp [draftsFiles, apart]
  have first := notes.build_isolates_files _ _ "b.md" mending _ _
    (drafts_build _ _) (drafts_build _ _)
  have second := notes.build_isolates_files _ _ "old/d.md" breaking _ _
    (drafts_build _ _) (drafts_build _ _)
  refine ⟨⟨mending, drafts_build _ _, drafts_build _ _, first.1⟩, ignored, breaking, _,
    drafts_build _ _, ?_⟩
  rw [second.2 (.inl ignored)]
  exact drafts_build _ _

end LinkPress.Site
