import LinkPress.Command.Run
import LinkPress.Proofs.Site.Addresses
import LinkPress.Proofs.Site.Clashes

set_option autoImplicit false

/- Where the entries of a listing lead. An address is the base with the output path behind it, as they stand,
   and it leads to the page unless one of them has a mark that a reader takes for something else. -/
namespace LinkPress.Command

open LinkPress.Files (Tree)
open LinkPress.Site (Builder Index Page Readers normalBase outputText)
open LinkPress.Url (Reference Unmarked)

section Built

variable [Readers] (site : Builder) (tree : Tree) (index : Index)
variable (finished : site.build tree = .ok index)
include finished

theorem built_output_relative (page : Page) (member : page ∈ index.pages) : page.output.toList.head? ≠ some '/' := by
  have owner : page.source ∈ index.owners := List.mem_cons_of_mem _ (List.mem_map_of_mem member)
  obtain ⟨folders, stem, own⟩ := Site.owner_page_path site tree index finished page.source owner
  have relative := Files.path_of_relative _ (Site.output_segments page.source folders stem own)
  rw [Files.Path.isAbsolute, beq_eq_false_iff_ne] at relative
  rw [site.built_output tree index finished page member, Site.output_path page.source folders stem own]
  exact relative

theorem built_outputs_differ (a b : Page) (inA : a ∈ index.pages) (inB : b ∈ index.pages) (different : a ≠ b) :
    a.output ≠ b.output := by
  have distinct : (index.pages.map Page.output).Nodup := by
    have outputs := Site.outputs_distinct site tree index finished
    rw [Index.outputs] at outputs
    split at outputs
    · exact outputs
    · exact outputs.of_append_left
  exact fun same => different (List.inj_on_of_nodup_map distinct inA inB same)

theorem listed_leads_iff (page : Page) (member : page ∈ index.pages) :
    (Reference.read (listed site.config page).address.toList).PointsTo
        (normalBase site.config.base ++ page.output).toList ↔
      (Unmarked (normalBase site.config.base).toList ∧ Unmarked page.output.toList) ∧ '\\' ∉ page.output.toList := by
  have relative := built_output_relative site tree index finished page member
  rw [listed, Site.page_points_iff, and_iff_left relative]

theorem listed_same_iff (a b : Page) (inA : a ∈ index.pages) (inB : b ∈ index.pages) (different : a ≠ b) :
    (listed site.config a).address = (listed site.config b).address ↔
      ('\\' ∈ a.output.toList ∨ '\\' ∈ b.output.toList) ∧ outputText a.output = outputText b.output := by
  have outputs := built_outputs_differ site tree index finished a b inA inB different
  have relativeA := built_output_relative site tree index finished a inA
  have relativeB := built_output_relative site tree index finished b inB
  rw [listed, listed, ← String.toList_inj, Site.page_address_chars, Site.page_address_chars, List.append_cancel_left_eq]
  constructor
  · intro same
    refine ⟨?_, same⟩
    by_contra plain
    rw [not_or] at plain
    rw [(Site.output_text_same_iff a.output).mpr ⟨plain.1, relativeA⟩,
      (Site.output_text_same_iff b.output).mpr ⟨plain.2, relativeB⟩] at same
    exact outputs (String.toList_inj.mp same)
  · exact fun same => same.2

end Built

theorem listed_addresses_lead_iff [Readers] (site : Builder) (tree : Tree) (index : Index)
    (finished : site.build tree = .ok index) :
    (∀ page ∈ index.pages,
      (Reference.read (listed site.config page).address.toList).PointsTo
          (normalBase site.config.base ++ page.output).toList ↔
        (Unmarked (normalBase site.config.base).toList ∧ Unmarked page.output.toList) ∧
          '\\' ∉ page.output.toList) ∧
    ∀ a ∈ index.pages, ∀ b ∈ index.pages, a ≠ b →
      ((listed site.config a).address = (listed site.config b).address ↔
        ('\\' ∈ a.output.toList ∨ '\\' ∈ b.output.toList) ∧ outputText a.output = outputText b.output) := by
  refine ⟨listed_leads_iff site tree index finished, ?_⟩
  intro a inA b inB different
  exact listed_same_iff site tree index finished a b inA inB different

section Notes

open LinkPress.Site (notes notesConfig notesFile)

-- A site of texts that all become pages.
theorem build_all_built [Readers] (site : Builder) (tree : Tree) (texts : List (String × String)) (page : String × String → Page)
    (found : site.sourceFiles tree = .ok (texts.map fun file => (file.1, file.2.toUTF8)))
    (kept : ∀ file ∈ texts, Builder.isPage file.1 = true ∧ site.ignores file.1 = false)
    (built : ∀ file ∈ texts, site.page file.1 file.2 = .built (page file)) :
    site.build tree = .ok ⟨texts.map page, [], []⟩ := by
  have all : (texts.map fun file => (file.1, file.2.toUTF8)).filter site.keeps =
      texts.map fun file => (file.1, file.2.toUTF8) := by
    rw [List.filter_eq_self, List.forall_mem_map]
    intro file member
    simp [Builder.keeps, kept file member]
  have none : (texts.map fun file => (file.1, file.2.toUTF8)).filter site.drops = [] := by
    rw [List.filter_eq_nil_iff, List.forall_mem_map]
    intro file member
    simp [Builder.drops, kept file member]
  have shares : site.shares (texts.map fun file => (file.1, file.2.toUTF8)) = ⟨texts.map page, [], []⟩ := by
    clear found kept all none
    induction texts with
    | nil => rfl
    | cons file rest ih =>
        rw [List.forall_mem_cons] at built
        rw [List.map_cons, Builder.shares, ih built.2, Builder.share_text, built.1]
        rfl
  refine (site.build_ok_iff tree _).mpr ⟨_, found, ?_, ?_⟩
  · rw [all, List.forall_mem_map]
    intro file member
    rw [Text.read_utf8]
    rfl
  · rw [Builder.indexOf, all, none, shares]
    rfl

-- A page in a folder, and one with a backslash in its name.
def crossedTree : Tree where
  entries := [.folder "content" [.folder "a" [.file "b.md" "ok".toUTF8], .file "a\\b.md" "ok".toUTF8], notesFile]
  ordered := by decide
  working := []

def folderPage : Page := ⟨"a/b.md", "a/b.html", "b", none, "<p>ok</p>\n"⟩

def crossedPage : Page := ⟨"a\\b.md", "a\\b.html", "a\\b", none, "<p>ok</p>\n"⟩

def crossedIndex : Index where
  pages := [folderPage, crossedPage]
  diagnostics := []
  skipped := []

theorem crossed_build : notes.build crossedTree = .ok crossedIndex := by
  have first : notes.page "a/b.md" "ok" = .built folderPage := by cbv
  have second : notes.page "a\\b.md" "ok" = .built crossedPage := by cbv
  refine build_all_built notes crossedTree [("a/b.md", "ok"), ("a\\b.md", "ok")]
    (fun file => if file.1 = "a/b.md" then folderPage else crossedPage) rfl ?_ ?_
  · rw [List.forall_mem_cons, List.forall_mem_singleton]
    exact ⟨⟨by cbv, by cbv⟩, by cbv, by cbv⟩
  · rw [List.forall_mem_cons, List.forall_mem_singleton]
    exact ⟨first, second⟩

-- Both pages have the address of the one in the folder.
theorem crossed_pages_listed :
    notes.build crossedTree = .ok crossedIndex ∧
      folderPage ∈ crossedIndex.pages ∧ crossedPage ∈ crossedIndex.pages ∧ folderPage ≠ crossedPage ∧
      (listed notesConfig folderPage).address = "/a/b.html" ∧
      (Reference.read (listed notesConfig folderPage).address.toList).PointsTo
        (normalBase notesConfig.base ++ folderPage.output).toList ∧
      (listed notesConfig folderPage).address = (listed notesConfig crossedPage).address := by
  have inFolder : folderPage ∈ crossedIndex.pages := by decide
  have crossed : crossedPage ∈ crossedIndex.pages := by decide
  have different : folderPage ≠ crossedPage := by decide
  have lead := listed_addresses_lead_iff notes crossedTree crossedIndex crossed_build
  have clear (text : List Char) (fragment : '#' ∉ text) (query : '?' ∉ text)
      (read : Url.decodeBytes text = Text.bytes text) : Unmarked text :=
    ⟨fragment, query, (Url.decode_same_iff text).mp read⟩
  refine ⟨crossed_build, inFolder, crossed, different, by decide, ?_, ?_⟩
  · exact (lead.1 folderPage inFolder).mpr ⟨⟨clear _ (by decide) (by decide) (by decide),
      clear _ (by decide) (by decide) (by decide)⟩, by decide⟩
  · exact (lead.2 folderPage inFolder crossedPage crossed different).mpr ⟨by decide, by decide⟩

def markedTree : Tree where
  entries := [.folder "content" [.file "a#b.md" "ok".toUTF8], notesFile]
  ordered := by decide
  working := []

def markedPage : Page := ⟨"a#b.md", "a#b.html", "a#b", none, "<p>ok</p>\n"⟩

def markedIndex : Index where
  pages := [markedPage]
  diagnostics := []
  skipped := []

theorem marked_build : notes.build markedTree = .ok markedIndex := by
  have only : notes.page "a#b.md" "ok" = .built markedPage := by cbv
  refine build_all_built notes markedTree [("a#b.md", "ok")] (fun _ => markedPage) rfl ?_ ?_
  · rw [List.forall_mem_singleton]
    exact ⟨by cbv, by cbv⟩
  · rw [List.forall_mem_singleton]
    exact only

-- A number sign in a file name ends the path of the address.
theorem number_sign_misleads :
    notes.build markedTree = .ok markedIndex ∧ markedPage ∈ markedIndex.pages ∧
      (listed notesConfig markedPage).address = "/a#b.html" ∧
      Reference.read (listed notesConfig markedPage).address.toList =
        ⟨none, none, "/a".toList, none, some "b.html".toList⟩ ∧
      ¬ (Reference.read (listed notesConfig markedPage).address.toList).PointsTo
        (normalBase notesConfig.base ++ markedPage.output).toList := by
  have read : Reference.read (listed notesConfig markedPage).address.toList =
      ⟨none, none, "/a".toList, none, some "b.html".toList⟩ := by decide
  refine ⟨marked_build, by decide, by decide, read, fun points => ?_⟩
  have fragment := points.fragment
  rw [read] at fragment
  cases fragment

end Notes

end LinkPress.Command
