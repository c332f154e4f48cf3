import LinkPress.Command.Run
import LinkPress.Proofs.Outcome
import LinkPress.Proofs.Site.Accounting
import LinkPress.Proofs.Site.Outputs
import LinkPress.Proofs.Files.Writing

set_option autoImplicit false

/- Which files a build changes: those of the pages that could be built, and the listing of the pages.
   A page that failed has no file, but the listing can have the place of one. -/
namespace LinkPress.Command

open LinkPress.Files (Tree pathOf)
open LinkPress.Site (Config Index Page Readers outputPath PagePath index_output index_page_path)

-- The files as a step leaves them, also where it stops.
def left : Except Stopped Tree → Tree
  | .ok tree => tree
  | .error stopped => stopped.2

def target (config : Config) (output : String) : String := joinPaths config.outputFolder output

def pageBytes (config : Config) (page : Page) : ByteArray :=
  (Site.pageHtml (frameOf config page.description) page.title page.content).toUTF8

def listingBytes (config : Config) (index : Index) : ByteArray :=
  (Site.listHtml (frameOf config config.description) (index.pages.map (listed config))).toUTF8

variable (config : Config)

theorem write_page_extends (tree : Tree) (page : Page) :
    tree.Extends (left (writePage config tree page)) fun names content =>
      (left (writePage config tree page)).Leads (target config page.output) names ∧ content = pageBytes config page := by
  rw [writePage]
  simp only [bind, Except.bind]
  cases made : tree.makeFolders (String.ofList
      ((Files.Path.parent? (joinPaths config.outputFolder page.output).toList).getD [])) with
  | error fault => exact .same tree _
  | ok around =>
      have folders := Tree.make_folders_extends _ tree around _ made
      simp only [Except.mapError]
      cases wrote : around.write (joinPaths config.outputFolder page.output) (pageBytes config page) with
      | error fault =>
          rw [pageBytes] at wrote
          simp only [wrote]
          exact folders.weaken fun _ _ none => none.elim
      | ok after =>
          have written := (Tree.write_extends around after _ _ wrote).1
          rw [pageBytes] at wrote
          simp only [wrote]
          refine (folders.weaken fun _ _ none => none.elim).trans (written.weaken ?_)
          rintro names content ⟨lead, same⟩
          exact ⟨written.leads _ names lead, same⟩

-- Where a page leads is said of the files as the whole loop leaves them, also where a page stops it:
-- what one page says is carried over the pages behind it, since folders stay.
theorem write_pages_extends (pages : List Page) (tree : Tree) :
    tree.Extends (left (pages.foldlM (writePage config) tree)) fun names content =>
      ∃ page ∈ pages, (left (pages.foldlM (writePage config) tree)).Leads (target config page.output) names ∧
        content = pageBytes config page := by
  induction pages generalizing tree with
  | nil => exact .same tree _
  | cons page rest ih =>
      rw [List.foldlM_cons]
      have first := write_page_extends config tree page
      cases wrote : writePage config tree page with
      | error stopped =>
          rw [wrote] at first
          exact first.weaken fun names content written => ⟨page, List.mem_cons_self, written⟩
      | ok next =>
          rw [wrote] at first
          have others := ih next
          change tree.Extends (left (rest.foldlM (writePage config) next)) fun names content =>
            ∃ other ∈ page :: rest,
              (left (rest.foldlM (writePage config) next)).Leads (target config other.output) names ∧
                content = pageBytes config other
          refine (first.weaken ?_).trans (others.weaken ?_)
          · rintro names content ⟨lead, same⟩
            exact ⟨page, List.mem_cons_self, others.leads _ names lead, same⟩
          · rintro names content ⟨other, member, written⟩
            exact ⟨other, List.mem_cons_of_mem page member, written⟩

-- No page has the place of the listing.
def Unlisted (index : Index) : Prop := ∀ page ∈ index.pages, page.output ≠ "index.html"

-- How writing the listing ends.
inductive ListingEnd (tree : Tree) (index : Index) : Except Stopped Tree → Prop where
  | own (listed : ¬ Unlisted index) : ListingEnd tree index (.ok tree)
  | stopped (failure : Failure) : ListingEnd tree index (.error (failure, tree))
  | written (after : Tree) (unlisted : Unlisted index)
      (wrote : tree.write (target config "index.html") (listingBytes config index) = .ok after) :
      ListingEnd tree index (.ok after)

theorem write_listing_ends (tree : Tree) (index : Index) :
    ListingEnd config tree index (writeListing config tree index) := by
  rw [writeListing]
  by_cases own : index.pages.any (fun page => page.output == "index.html") = true
  · rw [if_pos own]
    obtain ⟨page, member, same⟩ := List.any_eq_true.mp own
    exact .own fun unlisted => unlisted page member (beq_iff_eq.mp same)
  · rw [if_neg own]
    have unlisted : Unlisted index := by
      intro page member same
      exact own (List.any_eq_true.mpr ⟨page, member, beq_iff_eq.mpr same⟩)
    cases wrote : tree.write (target config "index.html") (listingBytes config index) with
    | error fault =>
        rw [target, listingBytes] at wrote
        dsimp only
        rw [wrote]
        exact .stopped _
    | ok after =>
        have ended := ListingEnd.written after unlisted wrote
        rw [target, listingBytes] at wrote
        dsimp only
        rw [wrote]
        exact ended

-- The content that a run may leave at a place: that of a page, or the listing if the run gets to it.
def Published (index : Index) (result : Except Stopped Tree) (names : List String) (content : ByteArray) : Prop :=
  (∃ page ∈ index.pages, (left result).Leads (target config page.output) names ∧ content = pageBytes config page) ∨
  (Unlisted index ∧ result = .ok (left result) ∧ (left result).Leads (target config "index.html") names ∧
    content = listingBytes config index)

theorem write_listing_extends (tree : Tree) (index : Index) (result : Except Stopped Tree)
    (ended : ListingEnd config tree index result) :
    tree.Extends (left result) (Published config index result) ∧
    ∀ after, result = .ok after → Unlisted index → ∀ names,
      after.Leads (target config "index.html") names → after.fileAt? names = some (listingBytes config index) := by
  cases ended with
  | own listed => exact ⟨.same tree _, fun after _ unlisted => absurd unlisted listed⟩
  | stopped failure => exact ⟨.same tree _, fun after done => nomatch done⟩
  | written after unlisted wrote =>
      obtain ⟨frame, stands⟩ := Tree.write_extends tree after _ _ wrote
      refine ⟨frame.weaken ?_, ?_⟩
      · rintro names content ⟨lead, same⟩
        exact .inr ⟨unlisted, rfl, frame.leads _ names lead, same⟩
      · intro last done unlisted names lead
        cases done
        exact stands names lead

theorem write_site_extends (tree : Tree) (index : Index) :
    tree.Extends (left (writeSite config tree index)) (Published config index (writeSite config tree index)) ∧
    ∀ after, writeSite config tree index = .ok after → Unlisted index → ∀ names,
      after.Leads (target config "index.html") names → after.fileAt? names = some (listingBytes config index) := by
  cases made : tree.makeFolders config.outputFolder with
  | error fault =>
      have ended : writeSite config tree index =
          .error (⟨"Failed to create output directory", [fault.message]⟩, tree) := by
        simp [writeSite, made, Except.mapError, bind, Except.bind]
      rw [ended]
      exact ⟨.same tree _, fun after done => nomatch done⟩
  | ok ready =>
      have folders := Tree.make_folders_extends _ tree ready _ made
      have pages := write_pages_extends config index.pages ready
      have unfolded : writeSite config tree index =
          index.pages.foldlM (writePage config) ready >>= fun paged => writeListing config paged index := by
        simp [writeSite, made, Except.mapError, bind, Except.bind]
      cases run : index.pages.foldlM (writePage config) ready with
      | error stopped =>
          rw [run] at unfolded pages
          have ended : writeSite config tree index = .error stopped := unfolded
          rw [ended]
          refine ⟨(folders.weaken fun _ _ none => none.elim).trans (pages.weaken ?_), fun after done => nomatch done⟩
          exact fun names content page => .inl page
      | ok paged =>
          rw [run] at unfolded pages
          have ended : writeSite config tree index = writeListing config paged index := unfolded
          rw [ended]
          obtain ⟨listing, stands⟩ := write_listing_extends config paged index _ (write_listing_ends config paged index)
          refine ⟨(folders.weaken fun _ _ none => none.elim).trans ((pages.weaken ?_).trans listing), stands⟩
          rintro names content ⟨page, member, lead, same⟩
          exact .inl ⟨page, member, listing.leads _ names lead, same⟩

section Loaded

variable [Readers]

theorem of_config_config (site : Site.Builder) (made : Site.Builder.ofConfig config = .ok site) :
    site.config = config := by
  rw [Site.Builder.ofConfig, bind_ok_iff] at made
  obtain ⟨expanding, -, made⟩ := made
  obtain ⟨ignored, -, made⟩ := (bind_ok_iff _ _ _).mp made
  obtain rfl := Except.ok.inj made
  rfl

theorem load_index_ok (tree : Tree) (path context : String) (index : Index)
    (loaded : loadIndex tree path context = .ok (config, index)) :
    ∃ site : Site.Builder, site.config = config ∧ site.build tree = .ok index := by
  rw [loadIndex, bind_ok_iff] at loaded
  obtain ⟨given, -, loaded⟩ := loaded
  obtain ⟨site, made, loaded⟩ := (bind_ok_iff _ _ _).mp loaded
  obtain ⟨built, finished, loaded⟩ := (bind_ok_iff _ _ _).mp loaded
  obtain ⟨rfl, rfl⟩ := Prod.mk.inj (Except.ok.inj loaded)
  rw [map_error_ok_iff] at made finished
  exact ⟨site, of_config_config _ site made, finished⟩

theorem build_tree (tree : Tree) (path : String) (index : Index)
    (loaded : loadIndex tree path "Failed to build site" = .ok (config, index)) :
    (build tree path).tree = left (writeSite config tree index) := by
  rw [build, loaded]
  dsimp only
  cases written : writeSite config tree index with
  | error stopped => rfl
  | ok after =>
      dsimp only
      split <;> rfl

end Loaded

-- A path leads to a file of the tree, which is listed under its own path from the root.
def Reaches (tree : Tree) (target file : String) : Prop :=
  ∃ names, tree.Leads target names ∧ (tree.fileAt? names).isSome ∧ file = pathOf names.reverse

theorem reaches_place (tree : Tree) (target : String) (names : List String)
    (content : ByteArray) (stands : tree.fileAt? names = some content)
    (reached : Reaches tree target (pathOf names.reverse)) : tree.Leads target names := by
  obtain ⟨others, lead, some, same⟩ := reached
  obtain ⟨other, stood⟩ := Option.isSome_iff_exists.mp some
  exact Tree.file_place_inj tree tree names others content other stands stood same ▸ lead

theorem file_no_folder (tree : Tree) (names : List String) (content : ByteArray)
    (stands : tree.fileAt? names = some content) : tree.kind names ≠ .folder := by
  intro folder
  rw [Tree.fileAt?, folder] at stands
  cases stands

-- What a run promises for the pages that failed: no file of theirs is written, and if there are any,
-- then only pages that were built are, and the listing of a site without an index page of its own.
structure Guarded (tree after : Tree) (index : Index) : Prop where
  failures : ∀ diagnostic ∈ index.diagnostics, ∀ file ∈ tree.changes after,
    ¬ Reaches after (target config (outputPath diagnostic.page)) file.1
  outputs : index.hasErrors = true → ∀ file ∈ tree.changes after,
    (∃ page ∈ index.pages, Reaches after (target config page.output) file.1) ∨
    ((∀ content, ¬ config.Source tree "index.md" content) ∧ Reaches after (target config "index.html") file.1)

-- A run gets as far as the listing, and its place had another content.
def Renewed (tree : Tree) (index : Index) : Prop :=
  ∃ after names, writeSite config tree index = .ok after ∧
    after.Leads (target config "index.html") names ∧ tree.fileAt? names ≠ some (listingBytes config index)

-- The listing takes the place of an index page that was not built.
structure Displaced (tree : Tree) (index : Index) : Prop where
  errors : index.hasErrors = true
  own : ∃ content, config.Source tree "index.md" content
  unbuilt : "index.md" ∉ index.sources
  renewed : Renewed config tree index

section Run

variable (tree : Tree) (index : Index)

theorem changed_published (file : String × ByteArray)
    (changed : file ∈ tree.changes (left (writeSite config tree index))) :
    ∃ names, file.1 = pathOf names.reverse ∧
      (left (writeSite config tree index)).fileAt? names = some file.2 ∧ tree.fileAt? names ≠ some file.2 ∧
      Published config index (writeSite config tree index) names file.2 := by
  obtain ⟨frame, -⟩ := write_site_extends config tree index
  obtain ⟨names, same, stands, new⟩ :=
    (Tree.mem_changes_iff tree _ file.1 file.2).mp changed
  rcases frame.files names with kept | ⟨content, stood, published⟩
  · exact absurd (kept.symm.trans stands) new
  · obtain rfl : file.2 = content := Option.some.inj (stands.symm.trans stood)
    exact ⟨names, same, stands, new, published⟩

-- Every changed file is that of a page that was built, or the listing.
theorem changed_reached (file : String × ByteArray)
    (changed : file ∈ tree.changes (left (writeSite config tree index))) :
    (∃ page ∈ index.pages, Reaches (left (writeSite config tree index)) (target config page.output) file.1 ∧
      file.2 = pageBytes config page) ∨
    (Unlisted index ∧ Reaches (left (writeSite config tree index)) (target config "index.html") file.1 ∧
      file.2 = listingBytes config index ∧ Renewed config tree index) := by
  obtain ⟨names, place, stands, new, published⟩ := changed_published config tree index file changed
  have reaches (output : String) (lead : (left (writeSite config tree index)).Leads (target config output) names) :
      Reaches (left (writeSite config tree index)) (target config output) file.1 :=
    ⟨names, lead, by rw [stands]; rfl, place⟩
  rcases published with ⟨page, built, lead, content⟩ | ⟨unlisted, ended, lead, listing⟩
  · exact .inl ⟨page, built, reaches page.output lead, content⟩
  · exact .inr ⟨unlisted, reaches "index.html" lead, listing, _, names, ended, lead, listing ▸ new⟩

variable [Readers] (site : Site.Builder) (finished : site.build tree = .ok index)
include finished

theorem listed_page_path (path : String) (listed : path ∈ index.sources ∨ path ∈ index.complaints) :
    ∃ folders stem, PagePath path folders stem := by
  have known : path ∈ index.sources ∨ path ∈ index.complaints ∨ path ∈ index.skipped :=
    listed.imp id .inl
  obtain ⟨isPage, content, source⟩ := site.build_from_pages tree index finished path known
  exact Site.source_page_path site.config tree path content source isPage

-- A file of a page that was built is the file of no other page.
theorem built_alone (page : Page) (member : page ∈ index.pages) (path : String) (folders : List String) (stem : String)
    (own : PagePath path folders stem) (after : Tree) (names : List String) (content : ByteArray)
    (stands : after.fileAt? names = some content) (lead : after.Leads (target config page.output) names)
    (other : after.Leads (target config (outputPath path)) names) : page.source = path := by
  have built : page.source ∈ index.sources := List.mem_map_of_mem member
  obtain ⟨outer, name, paged⟩ := listed_page_path tree index site finished page.source (.inl built)
  rw [site.built_output tree index finished page member] at lead
  exact Site.output_place_inj after config.outputFolder page.source path outer folders name stem paged own names
    lead other (file_no_folder after names content stands)

theorem unlisted_iff : Unlisted index ↔ "index.md" ∉ index.sources := by
  constructor
  · intro unlisted built
    obtain ⟨page, member, source⟩ := List.mem_map.mp built
    exact unlisted page member (by rw [site.built_output tree index finished page member, source, index_output])
  · intro unbuilt page member output
    have built : page.source ∈ index.sources := List.mem_map_of_mem member
    obtain ⟨outer, name, paged⟩ := listed_page_path tree index site finished page.source (.inl built)
    have outputs : outputPath page.source = outputPath "index.md" := by
      rw [← site.built_output tree index finished page member, output, index_output]
    exact unbuilt (Site.output_inj page.source "index.md" outer [] name "index" paged index_page_path outputs ▸ built)

-- Only the listing can be written where a page that failed would be.
theorem failure_renewed (diagnostic : Site.Diagnostic) (member : diagnostic ∈ index.diagnostics)
    (file : String × ByteArray) (changed : file ∈ tree.changes (left (writeSite config tree index)))
    (reached : Reaches (left (writeSite config tree index)) (target config (outputPath diagnostic.page)) file.1) :
    diagnostic.page = "index.md" ∧ Renewed config tree index := by
  obtain ⟨frame, -⟩ := write_site_extends config tree index
  obtain ⟨names, place, stands, new, published⟩ := changed_published config tree index file changed
  rw [place] at reached
  have lead := reaches_place _ _ names file.2 stands reached
  have failed : diagnostic.page ∈ index.complaints := List.mem_map_of_mem member
  obtain ⟨folders, stem, own⟩ := listed_page_path tree index site finished diagnostic.page (.inr failed)
  rcases published with ⟨page, built, other, -⟩ | ⟨-, ended, other, listing⟩
  · have source := built_alone config tree index site finished page built diagnostic.page folders stem own
      _ names file.2 stands other lead
    have listed : page.source ∈ index.sources := List.mem_map_of_mem built
    exact absurd failed (site.built_unreported tree index finished _ (source ▸ listed))
  · have indexLead := other
    rw [← index_output] at indexLead
    have page := Site.output_place_inj _ config.outputFolder diagnostic.page "index.md" folders [] stem "index" own
      index_page_path names lead indexLead (file_no_folder _ names file.2 stands)
    exact ⟨page, _, names, ended, other, listing ▸ new⟩

theorem guarded_iff (same : site.config = config) :
    Guarded config tree (left (writeSite config tree index)) index ↔ ¬ Displaced config tree index := by
  obtain ⟨frame, listing⟩ := write_site_extends config tree index
  have unlisted := unlisted_iff tree index site finished
  constructor
  -- The listing at the place of the index page is a changed file that none of the two cases allows.
  · rintro guarded ⟨errors, ⟨content, own⟩, unbuilt, after, names, ended, lead, new⟩
    have stands := listing after ended (unlisted.mpr unbuilt) names lead
    rw [ended] at guarded frame
    have changed : (pathOf names.reverse, listingBytes config index) ∈ tree.changes after :=
      (Tree.mem_changes_iff tree after _ _).mpr ⟨names, rfl, stands, new⟩
    rcases guarded.outputs errors _ changed with ⟨page, built, reached⟩ | ⟨none, -⟩
    · have other := reaches_place after _ names _ stands reached
      rw [← index_output] at lead
      have source := built_alone config tree index site finished page built "index.md" [] "index"
        index_page_path after names _ stands other lead
      have listed : page.source ∈ index.sources := List.mem_map_of_mem built
      exact unbuilt (source ▸ listed)
    · exact none content own
  · intro safe
    refine ⟨?_, ?_⟩
    · intro diagnostic member file changed reached
      obtain ⟨page, renewed⟩ :=
        failure_renewed config tree index site finished diagnostic member file changed reached
      have failed : "index.md" ∈ index.complaints := page ▸ List.mem_map_of_mem member
      obtain ⟨-, own⟩ := site.build_from_pages tree index finished "index.md" (.inr (.inl failed))
      refine safe ⟨?_, same ▸ own, ?_, renewed⟩
      · rw [Index.hasErrors, Bool.not_eq_true', List.isEmpty_eq_false_iff]
        exact List.ne_nil_of_mem member
      · exact fun built => site.built_unreported tree index finished "index.md" built failed
    · intro errors file changed
      have origin := changed_reached config tree index file changed
      rcases origin with ⟨page, built, reached, -⟩ | ⟨displaces, reached, -, renewed⟩
      · exact .inl ⟨page, built, reached⟩
      · refine .inr ⟨?_, reached⟩
        intro content own
        exact safe ⟨errors, ⟨content, own⟩, unlisted.mp displaces, renewed⟩

end Run

theorem build_publishes_built_pages [Readers] (tree : Tree) (path : String) :
    (∀ failure, loadIndex tree path "Failed to build site" = .error failure → (build tree path).tree = tree) ∧
    ∀ config index, loadIndex tree path "Failed to build site" = .ok (config, index) →
      (∀ file ∈ tree.changes (build tree path).tree,
        (∃ page ∈ index.pages,
          Reaches (build tree path).tree (target config page.output) file.1 ∧ file.2 = pageBytes config page) ∨
        (Unlisted index ∧ Reaches (build tree path).tree (target config "index.html") file.1 ∧
          file.2 = listingBytes config index)) ∧
      (∀ diagnostic ∈ index.diagnostics, diagnostic.page ≠ "index.md" → ∀ file ∈ tree.changes (build tree path).tree,
        ¬ Reaches (build tree path).tree (target config (outputPath diagnostic.page)) file.1) ∧
      (Guarded config tree (build tree path).tree index ↔ ¬ Displaced config tree index) := by
  constructor
  · intro failure stopped
    rw [build, stopped]
    rfl
  · intro config index loaded
    obtain ⟨site, same, finished⟩ := load_index_ok config tree path _ index loaded
    rw [build_tree config tree path index loaded]
    refine ⟨?_, ?_, guarded_iff config tree index site finished same⟩
    · intro file changed
      rcases changed_reached config tree index file changed with page | ⟨unlisted, reached, listing, -⟩
      · exact .inl page
      · exact .inr ⟨unlisted, reached, listing⟩
    · intro diagnostic member ordinary file changed reached
      exact ordinary (failure_renewed config tree index site finished diagnostic member file changed reached).1

section Notes

open LinkPress.Site (notes notesConfig notesFile notesFiles notesIndex notesTree)

theorem notes_loaded (tree : Tree) (index : Index) (stands : tree.find? "shortlink.yml" = .ok notesFile)
    (built : notes.build tree = .ok index) :
    loadIndex tree "shortlink.yml" "Failed to build site" = .ok (notesConfig, index) := by
  have text : tree.readText "shortlink.yml" = .ok "site:\n  title: Notes\nignore_patterns: ['^old/']\n" := by
    rw [Tree.readText, stands, notesFile]
    simp only [bind, Except.bind, Tree.textOf, Text.read_utf8]
  have settings : Readers.settings .site Config.decode?
      "site:\n  title: Notes\nignore_patterns: ['^old/']\n".toList = .ok { notesConfig with folder := none } := by cbv
  have patterns : Config.patterns { notesConfig with folder := none } = .ok notes.ignored := by cbv
  have decoded : Config.ofText "site:\n  title: Notes\nignore_patterns: ['^old/']\n" =
      .ok { notesConfig with folder := none } := by
    rw [Config.ofText, settings]
    simp only [bind, Except.bind, Except.mapError, patterns]
    rfl
  have folder : Files.Path.parent? "shortlink.yml".toList = some [] := by decide
  have loaded : loadConfig tree "shortlink.yml" = .ok notesConfig := by
    rw [loadConfig, Config.ofFile, text]
    simp only [bind, Except.bind, Except.mapError, decoded, folder]
    rfl
  have made : Site.Builder.ofConfig notesConfig = .ok notes := by cbv
  simp only [loadIndex, loaded, made, built, bind, Except.bind, Except.mapError]
  rfl

def notesAfter : Tree where
  entries := notesTree.entries ++
    [.folder "site" [.file "a.html" (pageBytes notesConfig ⟨"a.md", "a.html", "a", none, "<p>ok</p>\n"⟩),
      .file "index.html" (listingBytes notesConfig notesIndex)]]
  ordered := by decide
  working := []

theorem notes_published :
    loadIndex notesTree "shortlink.yml" "Failed to build site" = .ok (notesConfig, notesIndex) ∧
      notesIndex.hasErrors = true ∧ (build notesTree "shortlink.yml").tree = notesAfter ∧
      Guarded notesConfig notesTree notesAfter notesIndex := by
  have loaded := notes_loaded notesTree notesIndex rfl Site.notes_build
  have after : (build notesTree "shortlink.yml").tree = notesAfter := by
    rw [build_tree notesConfig notesTree _ notesIndex loaded]
    rfl
  have guarded := ((build_publishes_built_pages notesTree "shortlink.yml").2 notesConfig notesIndex loaded).2.2
  rw [after] at guarded
  refine ⟨loaded, rfl, after, guarded.mpr ?_⟩
  rintro ⟨-, ⟨content, own⟩, -⟩
  have member := (notes.mem_source_iff notesTree notesFiles rfl "index.md" content).mpr own
  simp [notesFiles] at member

-- The index page fails, and the listing is written to its place.
def brokenTree : Tree where
  entries := [.folder "content" [.file "a.md" "ok".toUTF8, .file "index.md" "[x](@no)".toUTF8], notesFile]
  ordered := by decide
  working := []

def brokenIndex : Index where
  pages := notesIndex.pages
  diagnostics := [⟨"index.md", "unknown shortcut name 'no'"⟩]
  skipped := []

def brokenAfter : Tree where
  entries := brokenTree.entries ++
    [.folder "site" [.file "a.html" (pageBytes notesConfig ⟨"a.md", "a.html", "a", none, "<p>ok</p>\n"⟩),
      .file "index.html" (listingBytes notesConfig brokenIndex)]]
  ordered := by decide
  working := []

def brokenFiles : List (String × ByteArray) := [("a.md", "ok".toUTF8), ("index.md", "[x](@no)".toUTF8)]

theorem broken_build : notes.build brokenTree = .ok brokenIndex := by
  have kept : brokenFiles.filter notes.keeps = brokenFiles := by cbv
  have dropped : brokenFiles.filter notes.drops = [] := by cbv
  refine (notes.build_ok_iff brokenTree brokenIndex).mpr ⟨brokenFiles, rfl, ?_, ?_⟩
  · rw [kept]
    simp only [brokenFiles, List.forall_mem_cons, Text.read_utf8]
    simp
  · rw [Site.Builder.indexOf, kept, dropped]
    simp only [brokenFiles, Site.Builder.shares, Site.Builder.share_text, Site.notes_page, Site.unknown_name_fails]
    rfl

theorem failed_index_overwritten :
    loadIndex brokenTree "shortlink.yml" "Failed to build site" = .ok (notesConfig, brokenIndex) ∧
      "index.md" ∈ brokenIndex.complaints ∧ (build brokenTree "shortlink.yml").tree = brokenAfter ∧
      ("site/index.html", listingBytes notesConfig brokenIndex) ∈ brokenTree.changes brokenAfter ∧
      Reaches brokenAfter (target notesConfig (outputPath "index.md")) "site/index.html" ∧
      ¬ Guarded notesConfig brokenTree brokenAfter brokenIndex := by
  have loaded := notes_loaded brokenTree brokenIndex rfl broken_build
  have after : (build brokenTree "shortlink.yml").tree = brokenAfter := by
    rw [build_tree notesConfig brokenTree _ brokenIndex loaded]
    rfl
  have changed : ("site/index.html", listingBytes notesConfig brokenIndex) ∈ brokenTree.changes brokenAfter :=
    (Tree.mem_changes_iff brokenTree brokenAfter _ _).mpr
      ⟨["index.html", "site"], by decide, rfl, nofun⟩
  have reached : Reaches brokenAfter (target notesConfig (outputPath "index.md")) "site/index.html" :=
    ⟨["index.html", "site"], rfl, rfl, by decide⟩
  refine ⟨loaded, by decide, after, changed, reached, ?_⟩
  intro guarded
  exact guarded.failures ⟨"index.md", "unknown shortcut name 'no'"⟩ List.mem_cons_self _ changed reached

end Notes

end LinkPress.Command
