import LinkPress.Proofs.Command.Publishing
import LinkPress.Proofs.Files.Holding
import LinkPress.Proofs.Site.Clashes

set_option autoImplicit false

/- A site that is written into an empty folder. Unless a page stands below the path of another output,
   or leads back to a folder, every output is written and keeps its content. -/
namespace LinkPress.Command

open LinkPress.Files (IsName Tree pathOf)
open LinkPress.Files.Path (Beside Proper)
open LinkPress.Site (Apart Config Index Page PagePath Readers Shadowed Under Upward outputPath)

-- What lies under a failure.
def Failure.reason (failure : Failure) : String := failure.causes.getLast?.getD failure.message

-- The files are as they should be, unless a name or a path cannot be.
inductive Stored (result : Except Stopped Tree) (holds : Tree → Prop) : Prop where
  | done (after : Tree) (same : result = .ok after) (held : holds after)
  | unnameable (failure : Failure) (left : Tree) (same : result = .error (failure, left)) (fault : Files.Fault)
      (cause : fault.Unnameable) (reason : failure.reason = fault.message)

-- The files of a site in the output folder.
def published (config : Config) (index : Index) : List (String × ByteArray) :=
  let own := index.pages.map fun page => (page.output, pageBytes config page)
  if "index.html" ∈ index.pages.map Page.output then own else own ++ [("index.html", listingBytes config index)]

section Page

variable (config : Config) (tree : Tree) (start : List String) (files : List (String × ByteArray))

theorem write_page_stored (holds : tree.Holds config.outputFolder start files) (page : Page)
    (proper : Proper page.output) (beside : ∀ file ∈ files, Beside file.1 page.output) :
    Stored (writePage config tree page)
      (·.Holds config.outputFolder start (files ++ [(page.output, pageBytes config page)])) := by
  obtain ⟨folders, name, output, named⟩ := proper
  have parent : (Files.Path.parent? (joinPaths config.outputFolder page.output).toList).getD [] =
      Tree.way config.outputFolder.toList folders := by
    have segments := Tree.segments_named (folders ++ [name]) (by simp) named
    rw [joinPaths, String.toList_ofList, output, Tree.parent_way _ _ _ segments (named name (by simp)).2.1]
    rfl
  rw [output] at beside
  rw [writePage]
  dsimp only
  rw [parent]
  cases holds.around_made folders name named beside with
  | error fault same cause =>
      rw [same]
      exact .unnameable ⟨fault.message, []⟩ tree rfl fault cause rfl
  | ok inner same made =>
      have frame := Tree.make_folders_extends _ tree inner _ same
      have written := holds.written folders name named beside (pageBytes config page) inner frame made
      rw [← output, pageBytes] at written
      rw [same, joinPaths]
      dsimp only [bind, Except.bind, Except.mapError]
      cases written with
      | error fault refused cause =>
          rw [refused]
          exact .unnameable _ inner rfl fault cause rfl
      | ok after wrote held =>
          rw [wrote]
          exact .done after rfl held

end Page

section Loop

variable (config : Config) (start : List String)

theorem write_pages_stored (pages : List Page) (tree : Tree) (files : List (String × ByteArray))
    (holds : tree.Holds config.outputFolder start files) (proper : ∀ page ∈ pages, Proper page.output)
    (beside : ∀ page ∈ pages, ∀ file ∈ files, Beside file.1 page.output)
    (apart : (pages.map Page.output).Pairwise Beside) :
    Stored (pages.foldlM (writePage config) tree)
      (·.Holds config.outputFolder start (files ++ pages.map fun page => (page.output, pageBytes config page))) := by
  induction pages generalizing tree files with
  | nil => exact .done tree rfl (by simpa using holds)
  | cons page rest ih =>
      rw [List.forall_mem_cons] at proper beside
      rw [List.map_cons, List.pairwise_cons] at apart
      rw [List.foldlM_cons]
      cases write_page_stored config tree start files holds page proper.1 beside.1 with
      | unnameable failure left same fault cause reason =>
          exact .unnameable failure left (by rw [same]; rfl) fault cause reason
      | done next same held =>
          rw [same]
          change Stored (rest.foldlM (writePage config) next) _
          have onward := ih next _ held proper.2 ?_ apart.2
          · simpa using onward
          · intro other member file known
            rcases List.mem_append.mp known with old | new
            · exact beside.2 other member file old
            · obtain rfl := List.mem_singleton.mp new
              exact apart.1 other.output (List.mem_map_of_mem member)

theorem write_listing_stored (tree : Tree) (index : Index)
    (holds : tree.Holds config.outputFolder start (index.pages.map fun page => (page.output, pageBytes config page)))
    (beside : "index.html" ∉ index.pages.map Page.output → ∀ page ∈ index.pages, Beside page.output "index.html") :
    Stored (writeListing config tree index) (·.Holds config.outputFolder start (published config index)) := by
  rw [published, writeListing]
  by_cases own : "index.html" ∈ index.pages.map Page.output
  · rw [if_pos own, if_pos (by simpa using own)]
    exact .done tree rfl holds
  · rw [if_neg own, if_neg (by simpa using own)]
    have alone : ∀ file ∈ index.pages.map fun page => (page.output, pageBytes config page),
        Beside file.1 (pathOf ([] ++ ["index.html"])) := by
      rw [List.forall_mem_map]
      exact beside own
    have path : pathOf ([] ++ ["index.html"]) = "index.html" := by decide
    have written := holds.written [] "index.html" (by decide) alone (listingBytes config index) tree
      (.same tree _) (tree.made_already start [] holds.root)
    rw [path] at written
    dsimp only
    rw [joinPaths, ← listingBytes]
    cases written with
    | error fault same cause =>
        rw [same]
        exact .unnameable _ tree rfl fault cause rfl
    | ok after same held =>
        rw [same]
        exact .done after rfl held

-- The whole run.
theorem write_site_stored (files ready : Tree) (made : files.makeFolders config.outputFolder = .ok ready)
    (empty : ready.Holds config.outputFolder start []) (index : Index)
    (proper : ∀ page ∈ index.pages, Proper page.output) (apart : index.outputs.Pairwise Beside) :
    Stored (writeSite config files index) (·.Holds config.outputFolder start (published config index)) := by
  have own : (index.pages.map Page.output).Pairwise Beside ∧
      ("index.html" ∉ index.pages.map Page.output → ∀ page ∈ index.pages, Beside page.output "index.html") := by
    rw [Index.outputs] at apart
    split at apart
    · next listed => exact ⟨apart, fun unlisted => absurd listed unlisted⟩
    · obtain ⟨pages, -, listing⟩ := List.pairwise_append.mp apart
      exact ⟨pages, fun _ page member => listing _ (List.mem_map_of_mem member) _ List.mem_cons_self⟩
  rw [writeSite, made]
  change Stored (index.pages.foldlM (writePage config) ready >>= fun paged => writeListing config paged index) _
  have none : ∀ page ∈ index.pages, ∀ file ∈ ([] : List (String × ByteArray)), Beside file.1 page.output :=
    fun page member file absent => absurd absent List.not_mem_nil
  cases write_pages_stored config start index.pages ready [] empty proper none own.1 with
  | unnameable failure left same fault cause reason =>
      exact .unnameable failure left (by rw [same]; rfl) fault cause reason
  | done paged same held =>
      rw [same]
      exact write_listing_stored config start paged index held own.2

end Loop

-- The output of the page stands at its place.
def Landed (tree : Tree) (start : List String) (path : String) : Prop :=
  ∃ folders stem, PagePath path folders stem ∧ stem ≠ "." ∧
    (tree.fileAt? ((stem ++ ".html") :: (folders.reverse ++ start))).isSome

theorem Landed.kept {before after : Tree} {start : List String} {path : String} (landed : Landed before start path)
    {written : List String → ByteArray → Prop} (frame : before.Extends after written) : Landed after start path := by
  obtain ⟨folders, stem, page, level, stands⟩ := landed
  refine ⟨folders, stem, page, level, ?_⟩
  rcases frame.files ((stem ++ ".html") :: (folders.reverse ++ start)) with same | ⟨content, stood, -⟩
  · rwa [same]
  · rw [stood]
    rfl

theorem write_lands (tree after : Tree) (base : String) (start : List String) (lead : tree.Leads base start)
    (path : String) (folders : List String) (stem : String) (page : PagePath path folders stem) (content : ByteArray)
    (wrote : tree.write (String.ofList (Files.Path.join base.toList (outputPath path).toList)) content = .ok after) :
    Landed after start path := by
  obtain ⟨frame, stands⟩ := tree.write_extends after _ content wrote
  obtain ⟨outer, name, reach, -, free, -⟩ := tree.write_ok after _ content wrote
  have stands := stands _ (frame.leads _ _ reach)
  rcases Site.output_place tree base path folders stem page _ reach with folder | ⟨level, other, again, place⟩
  · exact absurd folder free
  · obtain rfl := tree.leads_once base start other lead again
    exact ⟨folders, stem, page, level, by rw [← place, stands]; rfl⟩

section Landing

variable (config : Config) (start : List String)

theorem write_page_lands (tree after : Tree) (lead : tree.Leads config.outputFolder start) (page : Page)
    (folders : List String) (stem : String) (own : PagePath page.source folders stem)
    (output : page.output = outputPath page.source) (wrote : writePage config tree page = .ok after) :
    Landed after start page.source := by
  rw [writePage] at wrote
  obtain ⟨inner, made, wrote⟩ := (bind_ok_iff _ _ _).mp wrote
  rw [map_error_ok_iff] at made wrote
  rw [joinPaths, output] at wrote
  have kept := (Tree.make_folders_extends _ tree inner _ made).leads _ start lead
  exact write_lands inner after _ start kept page.source folders stem own _ wrote

theorem write_pages_land (pages : List Page) (tree after : Tree) (lead : tree.Leads config.outputFolder start)
    (own : ∀ page ∈ pages, page.output = outputPath page.source ∧ ∃ folders stem, PagePath page.source folders stem)
    (wrote : pages.foldlM (writePage config) tree = .ok after) : ∀ page ∈ pages, Landed after start page.source := by
  induction pages generalizing tree with
  | nil => exact fun page member => absurd member List.not_mem_nil
  | cons page rest ih =>
      rw [List.forall_mem_cons] at own ⊢
      obtain ⟨⟨output, folders, stem, path⟩, others⟩ := own
      rw [List.foldlM_cons, bind_ok_iff] at wrote
      obtain ⟨next, ran, wrote⟩ := wrote
      have first := write_page_extends config tree page
      have rests := write_pages_extends config rest next
      rw [ran] at first
      rw [wrote] at rests
      have landed := write_page_lands config start tree next lead page folders stem path output ran
      exact ⟨landed.kept rests, ih next (first.leads _ start lead) others wrote⟩

theorem write_listing_lands (tree after : Tree) (lead : tree.Leads config.outputFolder start) (index : Index)
    (unlisted : "index.html" ∉ index.pages.map Page.output) (wrote : writeListing config tree index = .ok after) :
    Landed after start "index.md" := by
  rw [writeListing, if_neg (by simpa using unlisted)] at wrote
  dsimp only at wrote
  rw [map_error_ok_iff, joinPaths, ← Site.index_output] at wrote
  exact write_lands tree after _ start lead "index.md" [] "index" Site.index_page_path _ wrote

end Landing

-- What stands is a file, so nothing else stands below it.
theorem landed_clear (after : Tree) (start : List String) (index : Index)
    (landed : ∀ owner ∈ index.owners, Landed after start owner) : ¬ Shadowed index ∧ ¬ Upward index := by
  constructor
  · rintro ⟨owner, known, source, built, under⟩
    obtain ⟨folders, stem, page, level, stands⟩ := landed owner known
    obtain ⟨outer, other, below, -, stood⟩ := landed source (List.mem_cons_of_mem _ built)
    obtain ⟨content, stands⟩ := Option.isSome_iff_exists.mp stands
    obtain ⟨inner, stood⟩ := Option.isSome_iff_exists.mp stood
    have segments := Site.output_segments owner folders stem page
    rw [if_neg level] at segments
    rw [below.path, Site.under_named_iff _ outer _ (Site.page_segments source outer other below),
      (Site.output_proper owner folders stem page level).1, Files.Path.names_path_of _ segments] at under
    obtain ⟨more, rfl⟩ := under
    have around : after.kind ((folders ++ [stem ++ ".html"] ++ more).reverse ++ start) = .folder := by
      refine after.kind_around (other ++ ".html") _ ?_
      intro missing
      rw [Tree.fileAt?, missing] at stood
      cases stood
    rw [List.reverse_append, List.append_assoc] at around
    have folder := after.kind_outer _ _ around
    exact file_no_folder after _ content stands (by simpa using folder)
  · rintro ⟨folders, built⟩
    obtain ⟨outer, stem, page, level, -⟩ := landed _ (List.mem_cons_of_mem _ built)
    have name := Site.page_name_inj folders outer stem "..md" ⟨by decide, by decide⟩ _ page rfl
    have dot : "." ++ ".md" = "..md" := by decide
    exact level ((String.append_left_inj ".md").mp (name.trans dot.symm))

section Built

variable [Readers] (site : Site.Builder) (tree : Tree) (index : Index)
variable (finished : site.build tree = .ok index)
include finished

theorem owners_land (config : Config) (files ready : Tree) (start : List String)
    (made : files.makeFolders config.outputFolder = .ok ready) (lead : ready.Leads config.outputFolder start)
    (after : Tree) (wrote : writeSite config files index = .ok after) :
    ∀ owner ∈ index.owners, Landed after start owner := by
  have own : ∀ page ∈ index.pages,
      page.output = outputPath page.source ∧ ∃ folders stem, PagePath page.source folders stem := by
    intro page member
    refine ⟨site.built_output tree index finished page member, ?_⟩
    exact Site.owner_page_path site tree index finished _ (List.mem_cons_of_mem _ (List.mem_map_of_mem member))
  rw [writeSite, made] at wrote
  change (index.pages.foldlM (writePage config) ready >>= fun paged => writeListing config paged index) = .ok after at wrote
  have extended := write_pages_extends config index.pages ready
  cases ran : index.pages.foldlM (writePage config) ready with
  | error stopped =>
      rw [ran] at wrote
      cases wrote
  | ok paged =>
      rw [ran] at wrote extended
      change writeListing config paged index = .ok after at wrote
      have pages := write_pages_land config start index.pages ready paged lead own ran
      have listing := (write_listing_extends config paged index _ (write_listing_ends config paged index)).1
      rw [wrote] at listing
      rw [Index.owners, List.forall_mem_cons]
      have sources : ∀ source ∈ index.sources, Landed after start source :=
        List.forall_mem_map.mpr fun page member => (pages page member).kept listing
      refine ⟨?_, sources⟩
      by_cases listed : "index.html" ∈ index.pages.map Page.output
      · obtain ⟨page, member, output⟩ := List.mem_map.mp listed
        obtain ⟨same, folders, stem, path⟩ := own page member
        have source := Site.output_inj page.source "index.md" folders [] stem "index" path Site.index_page_path
          (same.symm.trans (output.trans Site.index_output.symm))
        rw [← source]
        exact (pages page member).kept listing
      · exact write_listing_lands config start paged after (extended.leads _ start lead) index listed wrote

end Built

theorem build_outputs_apart [Readers] (site : Site.Builder) (tree : Tree) (index : Index)
    (finished : site.build tree = .ok index) :
    index.outputs.Nodup ∧ (Apart index.outputs ↔ ¬ Shadowed index) ∧
      ∀ (config : Config) (files ready : Tree) (start : List String),
        files.makeFolders config.outputFolder = .ok ready → ready.Holds config.outputFolder start [] →
        (∀ after, writeSite config files index = .ok after → ¬ Shadowed index ∧ ¬ Upward index) ∧
        (¬ Shadowed index → ¬ Upward index →
          Stored (writeSite config files index) (·.Holds config.outputFolder start (published config index))) := by
  refine ⟨Site.outputs_distinct site tree index finished,
    Site.outputs_apart_iff site tree index finished, ?_⟩
  intro config files ready start made empty
  constructor
  · intro after wrote
    have landed := owners_land site tree index finished config files ready start made empty.lead after wrote
    exact landed_clear after start index landed
  · intro clear level
    obtain ⟨proper, beside⟩ := Site.outputs_beside site tree index finished clear level
    have own : ∀ page ∈ index.pages, Proper page.output := by
      intro page member
      have output := site.built_output tree index finished page member
      exact proper _ ((Site.mem_outputs_iff site tree index finished page.output).mpr
        ⟨page.source, List.mem_cons_of_mem _ (List.mem_map_of_mem member), output⟩)
    exact write_site_stored config start files ready made empty index own beside

section Notes

open LinkPress.Site (notes notesConfig notesFile notesIndex notesTree)

def notesReady : Tree where
  entries := notesTree.entries ++ [.folder "site" []]
  ordered := by decide
  working := []

theorem notes_written :
    notes.build notesTree = .ok notesIndex ∧
      notesTree.makeFolders "site" = .ok notesReady ∧ notesReady.Holds "site" ["site"] [] ∧
      notesIndex.outputs.Nodup ∧ Apart notesIndex.outputs ∧ ¬ Shadowed notesIndex ∧ ¬ Upward notesIndex ∧
      writeSite notesConfig notesTree notesIndex = .ok notesAfter ∧
      notesAfter.Holds "site" ["site"] (published notesConfig notesIndex) := by
  have ready : notesTree.makeFolders "site" = .ok notesReady := rfl
  have empty : notesReady.Holds "site" ["site"] [] := by
    refine ⟨rfl, rfl, fun file member => absurd member List.not_mem_nil, ?_⟩
    intro names filled stands
    have inner : Files.child? notesReady.entries "site" = some (.folder "site" []) := rfl
    rw [Tree.kind, List.reverse_append, List.reverse_reverse, List.reverse_singleton, List.singleton_append,
      Files.kind_at_cons, inner] at stands
    exact absurd (Files.kind_at_empty names filled) stands
  have written : writeSite notesConfig notesTree notesIndex = .ok notesAfter := rfl
  obtain ⟨distinct, apart, runs⟩ := build_outputs_apart notes notesTree notesIndex Site.notes_build
  obtain ⟨clear, level⟩ := (runs notesConfig notesTree notesReady ["site"] ready empty).1 notesAfter written
  refine ⟨Site.notes_build, ready, empty, distinct, apart.mpr clear, clear, level, written, ?_⟩
  cases (runs notesConfig notesTree notesReady ["site"] ready empty).2 clear level with
  | done after same held => exact Except.ok.inj (written.symm.trans same) ▸ held
  | unnameable failure left same fault cause reason => cases written.symm.trans same

-- A folder is called like the output of the page beside it.
def shadowTree : Tree where
  entries := [.folder "content" [.folder "a.html" [.file "b.md" "ok".toUTF8], .file "a.md" "ok".toUTF8], notesFile]
  ordered := by decide
  working := []

def shadowFiles : List (String × ByteArray) := [("a.html/b.md", "ok".toUTF8), ("a.md", "ok".toUTF8)]

def innerPage : Page := ⟨"a.html/b.md", "a.html/b.html", "b", none, "<p>ok</p>\n"⟩

def outerPage : Page := ⟨"a.md", "a.html", "a", none, "<p>ok</p>\n"⟩

def shadowIndex : Index where
  pages := [innerPage, outerPage]
  diagnostics := []
  skipped := []

def shadowReady : Tree where
  entries := shadowTree.entries ++ [.folder "site" []]
  ordered := by decide
  working := []

def shadowAfter : Tree where
  entries := shadowTree.entries ++
    [.folder "site" [.folder "a.html" [.file "b.html" (pageBytes notesConfig innerPage)]]]
  ordered := by decide
  working := []

theorem shadow_build : notes.build shadowTree = .ok shadowIndex := by
  have kept : shadowFiles.filter notes.keeps = shadowFiles := by cbv
  have dropped : shadowFiles.filter notes.drops = [] := by cbv
  have inner : notes.page "a.html/b.md" "ok" = .built innerPage := by cbv
  refine (notes.build_ok_iff shadowTree shadowIndex).mpr ⟨shadowFiles, rfl, ?_, ?_⟩
  · rw [kept]
    simp only [shadowFiles, List.forall_mem_cons, Text.read_utf8]
    simp
  · rw [Site.Builder.indexOf, kept, dropped]
    simp only [shadowFiles, Site.Builder.shares, Site.Builder.share_text, Site.notes_page, inner]
    rfl

theorem shadowed_page_unwritten :
    notes.build shadowTree = .ok shadowIndex ∧
      shadowIndex.outputs = ["a.html/b.html", "a.html", "index.html"] ∧ ¬ Apart shadowIndex.outputs ∧
      writeSite notesConfig shadowTree shadowIndex =
        .error (⟨"Failed to write site/a.html", ["Is a directory (os error 21)"]⟩, shadowAfter) := by
  have outputs : shadowIndex.outputs = ["a.html/b.html", "a.html", "index.html"] := by decide
  have under : Under "a.html" "a.html/b.html" := ⟨["b.html"], by simp, by decide⟩
  have ready : shadowTree.makeFolders notesConfig.outputFolder = .ok shadowReady := rfl
  have first : writePage notesConfig shadowReady innerPage = .ok shadowAfter := rfl
  have second : writePage notesConfig shadowAfter outerPage =
      .error (⟨"Failed to write site/a.html", ["Is a directory (os error 21)"]⟩, shadowAfter) := rfl
  refine ⟨shadow_build, outputs, ?_, ?_⟩
  · intro apart
    rw [outputs] at apart
    exact apart.unnested "a.html" (by simp) "a.html/b.html" (by simp) under
  · rw [writeSite, ready, shadowIndex]
    simp only [Except.mapError, bind, Except.bind, List.foldlM_cons, first, second]

end Notes

end LinkPress.Command
