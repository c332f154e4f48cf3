import LinkPress.Proofs.Outcome
import LinkPress.Proofs.Document.Expansion
import LinkPress.Proofs.Files.Listing
import LinkPress.Site.Build
import Mathlib

set_option autoImplicit false

/- Every page file of a site is accounted for by a build: as a page, as left out, or by the complaints
   about it. A build stops only where there is no source folder or a page file is no text. -/
namespace LinkPress.Site

open LinkPress.Files (Tree Before entryAt? filesOf pathOf)

theorem expand_error_nonempty (table : Shortcut.Table) (nodes : List Document.Node) (messages : List String)
    (failed : Document.expand table nodes = .error messages) : messages ≠ [] := by
  rw [Document.expand_settle, Document.settle_error_iff] at failed
  exact failed.2

theorem compile_error_nonempty (compiler : Compiler) (text : String) (messages : List String)
    (failed : compiler.compile text = .error messages) : messages ≠ [] := by
  rw [Compiler.compile] at failed
  cases chosen : compiler.table with
  | none => simp [chosen] at failed
  | some table =>
      simp only [chosen] at failed
      cases expanded : Document.expand table (Markdown.read compiler.reader text) with
      | ok after => simp [expanded, Except.map] at failed
      | error found =>
          obtain rfl : found = messages := by simpa [expanded, Except.map] using failed
          exact expand_error_nonempty table _ found expanded

-- The settings of the page say that it is a draft.
def IsDraft [Readers] (text : String) : Prop :=
  ∃ settings body, FrontMatter.read text = .ok (settings, body) ∧ settings.draft = true

-- A file somewhere in the source folder, with its path from there.
def Config.Source (config : Config) (tree : Tree) (path : String) (content : ByteArray) : Prop :=
  ∃ own entries names name, tree.find? config.sourceFolder = .ok (.folder own entries) ∧
    entryAt? entries names = some (.file name content) ∧ path = pathOf names

namespace Index

def sources (index : Index) : List String := index.pages.map Page.source
def complaints (index : Index) : List String := index.diagnostics.map Diagnostic.page

def join (a b : Index) : Index := ⟨a.pages ++ b.pages, a.diagnostics ++ b.diagnostics, a.skipped ++ b.skipped⟩

theorem join_empty (index : Index) : index.join .empty = index := by simp [join, empty]

theorem empty_join (index : Index) : Index.empty.join index = index := by simp [join, empty]

theorem join_assoc (a b c : Index) : (a.join b).join c = a.join (b.join c) := by simp [join]

theorem add_join (index : Index) (source : String) (outcome : Outcome) :
    index.add source outcome = index.join (Index.empty.add source outcome) := by
  cases outcome <;> simp [add, join, empty]

end Index

section Gathered

variable (files : List (String × ByteArray)) (list : String × ByteArray → List String)
variable (sorted : (files.map Prod.fst).Pairwise Before)
variable (own : ∀ file ∈ files, ∀ path ∈ list file, path = file.1)
include sorted own

-- What is gathered file by file, and names nothing but the file, is in the order of the files.
theorem gathered_pairwise (R : String → String → Prop) (inside : ∀ file ∈ files, (list file).Pairwise R)
    (across : ∀ a b, Before a b → R a b) : (files.flatMap list).Pairwise R := by
  rw [List.pairwise_flatMap]
  refine ⟨inside, ?_⟩
  refine (List.pairwise_map.mp sorted).imp_of_mem ?_
  intro a b memberA memberB before x inA y inB
  rw [own a memberA x inA, own b memberB y inB]
  exact across _ _ before

theorem mem_gathered_iff (file : String × ByteArray) (member : file ∈ files) :
    file.1 ∈ files.flatMap list ↔ list file ≠ [] := by
  have distinct := Files.sorted_nodup _ sorted
  rw [List.mem_flatMap]
  constructor
  · rintro ⟨other, inFiles, inList⟩
    obtain rfl := List.inj_on_of_nodup_map distinct member inFiles (own other inFiles _ inList)
    exact List.ne_nil_of_mem inList
  · intro some
    obtain ⟨path, inList⟩ := List.exists_mem_of_ne_nil _ some
    exact ⟨file, member, own file member path inList ▸ inList⟩

end Gathered

theorem filter_sorted (files : List (String × ByteArray)) (sorted : (files.map Prod.fst).Pairwise Before)
    (keep : String × ByteArray → Bool) : ((files.filter keep).map Prod.fst).Pairwise Before :=
  sorted.sublist (List.filter_sublist.map Prod.fst)

theorem count_once (paths : List String) (sorted : paths.Pairwise Before) (path : String) (member : path ∈ paths) :
    paths.count path = 1 := by
  exact List.count_eq_one_of_mem (Files.sorted_nodup paths sorted) member

namespace Builder

variable (site : Builder)

def keeps (file : String × ByteArray) : Bool := !site.ignores file.1 && isPage file.1
def drops (file : String × ByteArray) : Bool := site.ignores file.1 && isPage file.1

theorem kept_iff (file : String × ByteArray) (files : List (String × ByteArray)) :
    file ∈ files.filter site.keeps ↔ file ∈ files ∧ isPage file.1 = true ∧ site.ignores file.1 = false := by
  rw [List.mem_filter, keeps, Bool.and_eq_true, Bool.not_eq_true', and_comm (a := site.ignores file.1 = false)]

theorem dropped_iff (file : String × ByteArray) (files : List (String × ByteArray)) :
    file ∈ files.filter site.drops ↔ file ∈ files ∧ isPage file.1 = true ∧ site.ignores file.1 = true := by
  rw [List.mem_filter, drops, Bool.and_eq_true, and_comm (a := site.ignores file.1 = true)]

theorem source_files_ok_iff (tree : Tree) (files : List (String × ByteArray)) :
    site.sourceFiles tree = .ok files ↔
      ∃ own entries, tree.find? site.config.sourceFolder = .ok (.folder own entries) ∧ files = filesOf "" entries := by
  rw [sourceFiles]
  cases found : tree.find? site.config.sourceFolder with
  | error fault => simp
  | ok entry =>
      cases entry with
      | file name content => simp
      | folder name entries => simp [eq_comm]

theorem mem_source_iff (tree : Tree) (files : List (String × ByteArray))
    (listed : site.sourceFiles tree = .ok files) (path : String) (content : ByteArray) :
    (path, content) ∈ files ↔ site.config.Source tree path content := by
  obtain ⟨own, entries, found, rfl⟩ := (site.source_files_ok_iff tree files).mp listed
  rw [Files.mem_files_iff entries (tree.find_ordered _ own entries found) path content]
  constructor
  · rintro ⟨names, name, lead, same⟩
    exact ⟨own, entries, names, name, found, lead, same⟩
  · rintro ⟨other, inner, names, name, again, lead, same⟩
    obtain ⟨rfl, rfl⟩ : own = other ∧ entries = inner := by simpa [found] using again
    exact ⟨names, name, lead, same⟩

theorem source_files_sorted (tree : Tree) (files : List (String × ByteArray))
    (listed : site.sourceFiles tree = .ok files) : (files.map Prod.fst).Pairwise Before := by
  obtain ⟨own, entries, found, rfl⟩ := (site.source_files_ok_iff tree files).mp listed
  exact Files.files_sorted entries (tree.find_ordered _ own entries found)

theorem source_folder_iff (tree : Tree) :
    tree.isFolder site.config.sourceFolder = true ↔ ∃ files, site.sourceFiles tree = .ok files := by
  rw [Tree.isFolder, sourceFiles]
  cases found : tree.find? site.config.sourceFolder with
  | error fault => simp
  | ok entry => cases entry <;> simp [Files.Entry.isFolder]

variable [Readers]

-- All that can come of a page. One that fails has something to complain about.
theorem page_cases (source text : String) :
    (∃ page, site.page source text = .built page ∧ page.source = source ∧ page.output = outputPath source) ∨
    (site.page source text = .draft ∧ IsDraft text) ∨
    ∃ diagnostics, site.page source text = .failed diagnostics ∧ diagnostics ≠ [] ∧
      ∀ diagnostic ∈ diagnostics, diagnostic.page = source := by
  rw [page]
  cases read : FrontMatter.read text with
  | error complaint => exact .inr (.inr ⟨_, rfl, by simp, by simp⟩)
  | ok found =>
      obtain ⟨settings, body⟩ := found
      dsimp only
      by_cases draft : settings.draft = true
      · rw [if_pos draft]
        exact .inr (.inl ⟨rfl, settings, body, read, draft⟩)
      · rw [if_neg draft]
        cases compiled : (site.compiler settings).compile body with
        | ok content => exact .inl ⟨_, rfl, rfl, rfl⟩
        | error messages =>
            have some := compile_error_nonempty _ _ _ compiled
            exact .inr (.inr ⟨_, rfl, by simpa using some, by simp⟩)

-- What one file adds to the index, if it is a text.
def share? (file : String × ByteArray) : Option Index :=
  (String.fromUTF8? file.2).map fun text => Index.empty.add file.1 (site.page file.1 text)

def share (file : String × ByteArray) : Index := (site.share? file).getD .empty

theorem share_text (path text : String) :
    site.share (path, text.toUTF8) = Index.empty.add path (site.page path text) := by
  rw [share, share?, Text.read_utf8]
  rfl

def shares : List (String × ByteArray) → Index
  | [] => .empty
  | file :: rest => (site.share file).join (shares rest)

theorem add_file_ok_iff (index result : Index) (file : String × ByteArray) :
    site.addFile index file = .ok result ↔ ∃ share, site.share? file = some share ∧ result = index.join share := by
  rw [addFile, Files.Tree.textOf, share?]
  cases String.fromUTF8? file.2 with
  | none => simp [bind, Except.bind, Except.mapError]
  | some text =>
      simp only [bind, Except.bind, Except.mapError, pure, Except.pure, Option.map_some, Option.some.injEq,
        Except.ok.injEq, exists_eq_left']
      rw [index.add_join, eq_comm]

theorem share_readable (file : String × ByteArray) :
    (site.share? file).isSome = (String.fromUTF8? file.2).isSome := by
  rw [share?, Option.isSome_map]

-- The pages are added one by one; what they add does not depend on what is there, so the index is the
-- sum of their shares, unless one of them is no text.
theorem fold_ok_iff (files : List (String × ByteArray)) (index result : Index) :
    files.foldlM site.addFile index = .ok result ↔
      (∀ file ∈ files, (String.fromUTF8? file.2).isSome) ∧ result = index.join (site.shares files) := by
  induction files generalizing index with
  | nil =>
      rw [shares, Index.join_empty]
      change Except.ok index = .ok result ↔ _
      rw [Except.ok.injEq, eq_comm, and_iff_right (fun file member => absurd member List.not_mem_nil)]
  | cons file rest ih =>
      rw [List.foldlM_cons, List.forall_mem_cons, bind_ok_iff]
      simp only [add_file_ok_iff, ih]
      constructor
      · rintro ⟨_, ⟨share, shared, rfl⟩, others, rfl⟩
        have readable : (String.fromUTF8? file.2).isSome = true := by
          rw [← site.share_readable, shared, Option.isSome_some]
        refine ⟨⟨readable, others⟩, ?_⟩
        rw [Index.join_assoc, shares, Builder.share, shared]
        rfl
      · rintro ⟨⟨readable, others⟩, rfl⟩
        rw [← site.share_readable, Option.isSome_iff_exists] at readable
        obtain ⟨share, shared⟩ := readable
        refine ⟨_, ⟨share, shared, rfl⟩, others, ?_⟩
        rw [Index.join_assoc, shares, Builder.share, shared]
        rfl

theorem shares_lists (files : List (String × ByteArray)) :
    (site.shares files).sources = files.flatMap (fun file => (site.share file).sources) ∧
    (site.shares files).complaints = files.flatMap (fun file => (site.share file).complaints) ∧
    (site.shares files).skipped = files.flatMap fun file => (site.share file).skipped := by
  induction files with
  | nil => exact ⟨rfl, rfl, rfl⟩
  | cons file rest ih =>
      simp only [Index.sources, Index.complaints] at ih
      simp [shares, Index.join, Index.sources, Index.complaints, ih]

-- What a readable file adds: a page, itself as a draft, or complaints.
inductive Shared (file : String × ByteArray) (share : Index) : Prop where
  | page (sources : share.sources = [file.1]) (complaints : share.complaints = []) (skipped : share.skipped = [])
  | draft (text : String) (read : String.fromUTF8? file.2 = some text) (draft : IsDraft text)
      (sources : share.sources = []) (complaints : share.complaints = []) (skipped : share.skipped = [file.1])
  | failure (sources : share.sources = []) (some : share.complaints ≠ [])
      (complaints : ∀ path ∈ share.complaints, path = file.1) (skipped : share.skipped = [])

theorem share_shared (file : String × ByteArray) (readable : (String.fromUTF8? file.2).isSome) :
    Shared file (site.share file) := by
  obtain ⟨text, read⟩ := Option.isSome_iff_exists.mp readable
  rw [share, share?, read, Option.map_some, Option.getD_some]
  rcases site.page_cases file.1 text with ⟨page, built, source, -⟩ | ⟨left, draft⟩ | ⟨diagnostics, failed, some, own⟩
  · rw [built]
    exact .page (by simp [Index.add, Index.empty, Index.sources, source]) rfl rfl
  · rw [left]
    exact .draft text read draft rfl rfl rfl
  · rw [failed]
    refine .failure rfl (by simpa [Index.add, Index.empty, Index.complaints] using some) ?_ rfl
    simpa [Index.add, Index.empty, Index.complaints] using own

theorem share_own (file : String × ByteArray) (readable : (String.fromUTF8? file.2).isSome) :
    (∀ path ∈ (site.share file).sources, path = file.1) ∧
    (∀ path ∈ (site.share file).complaints, path = file.1) ∧ ∀ path ∈ (site.share file).skipped, path = file.1 := by
  cases site.share_shared file readable with
  | page sources complaints skipped => simp [sources, complaints, skipped]
  | draft text read draft sources complaints skipped => simp [sources, complaints, skipped]
  | failure sources some complaints skipped => simpa [sources, skipped] using complaints

section Shares

variable (files : List (String × ByteArray)) (sorted : (files.map Prod.fst).Pairwise Before)
variable (readable : ∀ file ∈ files, (String.fromUTF8? file.2).isSome)
include readable

theorem shares_own (path : String) (member : path ∈ (site.shares files).sources ∨
    path ∈ (site.shares files).complaints ∨ path ∈ (site.shares files).skipped) : path ∈ files.map Prod.fst := by
  obtain ⟨sources, complaints, skipped⟩ := site.shares_lists files
  rw [sources, complaints, skipped] at member
  rcases member with inList | inList | inList
  · obtain ⟨file, known, own⟩ := List.mem_flatMap.mp inList
    exact List.mem_map.mpr ⟨file, known, ((site.share_own file (readable file known)).1 path own).symm⟩
  · obtain ⟨file, known, own⟩ := List.mem_flatMap.mp inList
    exact List.mem_map.mpr ⟨file, known, ((site.share_own file (readable file known)).2.1 path own).symm⟩
  · obtain ⟨file, known, own⟩ := List.mem_flatMap.mp inList
    exact List.mem_map.mpr ⟨file, known, ((site.share_own file (readable file known)).2.2 path own).symm⟩

include sorted

theorem shares_sorted :
    (site.shares files).sources.Pairwise Before ∧
    (site.shares files).complaints.Pairwise (fun a b => a = b ∨ Before a b) ∧
    (site.shares files).skipped.Pairwise Before := by
  obtain ⟨sources, complaints, skipped⟩ := site.shares_lists files
  have own := fun file member => site.share_own file (readable file member)
  rw [sources, complaints, skipped]
  refine ⟨?_, ?_, ?_⟩
  · apply gathered_pairwise files _ sorted (fun file member => (own file member).1) Before ?_ fun a b before => before
    intro file member
    cases site.share_shared file (readable file member) <;> simp [*]
  · apply gathered_pairwise files _ sorted (fun file member => (own file member).2.1) _ ?_ fun a b before => .inr before
    intro file member
    apply List.pairwise_of_forall_mem_list
    intro a inA b inB
    exact .inl (((own file member).2.1 a inA).trans ((own file member).2.1 b inB).symm)
  · apply gathered_pairwise files _ sorted (fun file member => (own file member).2.2) Before ?_ fun a b before => before
    intro file member
    cases site.share_shared file (readable file member) <;> simp [*]

theorem mem_shares_iff (file : String × ByteArray) (member : file ∈ files) :
    (file.1 ∈ (site.shares files).sources ↔ (site.share file).sources ≠ []) ∧
    (file.1 ∈ (site.shares files).complaints ↔ (site.share file).complaints ≠ []) ∧
    (file.1 ∈ (site.shares files).skipped ↔ (site.share file).skipped ≠ []) := by
  obtain ⟨sources, complaints, skipped⟩ := site.shares_lists files
  have own := fun file member => site.share_own file (readable file member)
  rw [sources, complaints, skipped]
  exact ⟨mem_gathered_iff files _ sorted (fun file member => (own file member).1) file member,
    mem_gathered_iff files _ sorted (fun file member => (own file member).2.1) file member,
    mem_gathered_iff files _ sorted (fun file member => (own file member).2.2) file member⟩

end Shares

theorem shares_output (files : List (String × ByteArray)) :
    ∀ page ∈ (site.shares files).pages, page.output = outputPath page.source := by
  induction files with
  | nil => exact fun page member => absurd member List.not_mem_nil
  | cons file rest ih =>
      intro page member
      rcases List.mem_append.mp member with own | later
      · rw [share, share?] at own
        cases read : String.fromUTF8? file.2 with
        | none => simp [read, Index.empty] at own
        | some text =>
            rw [read, Option.map_some, Option.getD_some] at own
            rcases site.page_cases file.1 text with ⟨built, same, source, output⟩ | ⟨left, -⟩ | ⟨diagnostics, failed, -⟩
            · rw [same] at own
              obtain rfl : page = built := by simpa [Index.add, Index.empty] using own
              rw [output, source]
            · simp [left, Index.add, Index.empty] at own
            · simp [failed, Index.add, Index.empty] at own
      · exact ih page later

-- The index of a build that finishes.
def indexOf (files : List (String × ByteArray)) : Index :=
  let kept := site.shares (files.filter site.keeps)
  { kept with skipped := (files.filter site.drops).map Prod.fst ++ kept.skipped }

theorem build_ok_iff (tree : Tree) (index : Index) :
    site.build tree = .ok index ↔ ∃ files, site.sourceFiles tree = .ok files ∧
      (∀ file ∈ files.filter site.keeps, (String.fromUTF8? file.2).isSome) ∧
      index = site.indexOf files := by
  rw [build, bind_ok_iff]
  refine exists_congr fun files => and_congr_right fun _ => ?_
  have kept : (files.filter fun file => isPage file.1).filter ((fun x => !x) ∘ fun file => site.ignores file.1) =
      files.filter site.keeps := List.filter_filter
  have dropped : (files.filter fun file => isPage file.1).filter (fun file => site.ignores file.1) =
      files.filter site.drops := List.filter_filter
  simp only [List.partition_eq_filter_filter, kept, dropped, bind_ok_iff, fold_ok_iff, Index.empty_join]
  constructor
  · rintro ⟨_, ⟨readable, rfl⟩, finished⟩
    exact ⟨readable, (Except.ok.inj finished).symm⟩
  · rintro ⟨readable, rfl⟩
    exact ⟨_, ⟨readable, rfl⟩, rfl⟩

-- A page file is in one of three places of the index, and in none of the others.
inductive Accounted (index : Index) (path : String) (content : ByteArray) : Prop where
  | page (once : index.sources.count path = 1) (kept : path ∉ index.skipped) (clean : path ∉ index.complaints)
  | skipped (once : index.skipped.count path = 1)
      (reason : site.ignores path = true ∨ ∃ text, String.fromUTF8? content = some text ∧ IsDraft text)
      (unbuilt : path ∉ index.sources) (clean : path ∉ index.complaints)
  | failed (reported : path ∈ index.complaints) (unbuilt : path ∉ index.sources) (kept : path ∉ index.skipped)

section Complete

variable (files : List (String × ByteArray)) (sorted : (files.map Prod.fst).Pairwise Before)
variable (readable : ∀ file ∈ files.filter site.keeps, (String.fromUTF8? file.2).isSome)
include sorted readable

-- A page that is kept has one share, and the ignored files, which stand in front of the drafts, are
-- other files: paths are distinct, since the listing is sorted.
theorem kept_accounted (file : String × ByteArray) (kept : file ∈ files.filter site.keeps) :
    site.Accounted (site.indexOf files) file.1 file.2 := by
  have keptSorted := filter_sorted files sorted site.keeps
  have order := site.shares_sorted _ keptSorted readable
  have places := site.mem_shares_iff _ keptSorted readable file kept
  have unignored := ((site.kept_iff file files).mp kept).2.2
  have undropped : file.1 ∉ (files.filter site.drops).map Prod.fst := by
    intro member
    obtain ⟨other, dropped, same⟩ := List.mem_map.mp member
    have ignored := ((site.dropped_iff other files).mp dropped).2.2
    rw [same, unignored] at ignored
    cases ignored
  cases site.share_shared file (readable file kept) with
  | page sources complaints skipped =>
      refine .page (count_once _ order.1 _ (places.1.mpr (by simp [sources]))) ?_ ?_
      · rw [indexOf, List.mem_append, not_or]
        exact ⟨undropped, fun member => places.2.2.mp member skipped⟩
      · exact fun member => places.2.1.mp member complaints
  | draft text read draft sources complaints skipped =>
      refine .skipped ?_ (.inr ⟨text, read, draft⟩) ?_ ?_
      · have once := count_once _ order.2.2 _ (places.2.2.mpr (by simp [skipped]))
        rw [indexOf, List.count_append, once, List.count_eq_zero_of_not_mem undropped]
      · exact fun member => places.1.mp member sources
      · exact fun member => places.2.1.mp member complaints
  | failure sources some complaints skipped =>
      refine .failed (places.2.1.mpr some) ?_ ?_
      · exact fun member => places.1.mp member sources
      · rw [indexOf, List.mem_append, not_or]
        exact ⟨undropped, fun member => places.2.2.mp member skipped⟩

theorem dropped_accounted (file : String × ByteArray) (dropped : file ∈ files.filter site.drops) :
    site.Accounted (site.indexOf files) file.1 file.2 := by
  have ignored := ((site.dropped_iff file files).mp dropped).2.2
  have unkept : file.1 ∉ (files.filter site.keeps).map Prod.fst := by
    intro member
    obtain ⟨other, kept, same⟩ := List.mem_map.mp member
    have unignored := ((site.kept_iff other files).mp kept).2.2
    rw [same, ignored] at unignored
    cases unignored
  have absent := fun member => unkept (site.shares_own _ readable file.1 member)
  have droppedSorted := filter_sorted files sorted site.drops
  have once := count_once _ droppedSorted file.1 (List.mem_map_of_mem dropped)
  refine .skipped ?_ (.inl ignored) (fun member => absent (.inl member)) fun member => absent (.inr (.inl member))
  have undrafted := List.count_eq_zero_of_not_mem fun member => absent (.inr (.inr member))
  rw [indexOf, List.count_append, once, undrafted]

end Complete

-- A page file that is not ignored and holds no text.
def Garbled (tree : Tree) : Prop :=
  ∃ path content, site.config.Source tree path content ∧ isPage path = true ∧ site.ignores path = false ∧
    String.fromUTF8? content = none

theorem build_error_iff (tree : Tree) :
    (∃ fault, site.build tree = .error fault) ↔
      tree.isFolder site.config.sourceFolder = false ∨ site.Garbled tree := by
  have finishes : (∃ fault, site.build tree = .error fault) ↔ ¬ ∃ index, site.build tree = .ok index := by
    cases site.build tree <;> simp
  rw [finishes, ← Bool.not_eq_true, source_folder_iff]
  constructor
  · intro unfinished
    by_cases folder : ∃ files, site.sourceFiles tree = .ok files
    · obtain ⟨files, listed⟩ := folder
      apply Or.inr
      by_contra legible
      refine unfinished ⟨_, (site.build_ok_iff tree _).mpr ⟨files, listed, ?_, rfl⟩⟩
      intro file kept
      obtain ⟨member, isPage, unignored⟩ := (site.kept_iff file files).mp kept
      by_contra unreadable
      rw [Bool.not_eq_true, Option.isSome_eq_false_iff, Option.isNone_iff_eq_none] at unreadable
      have source := (site.mem_source_iff tree files listed file.1 file.2).mp member
      exact legible ⟨file.1, file.2, source, isPage, unignored, unreadable⟩
    · exact .inl folder
  · rintro (missing | ⟨path, content, source, isPage, unignored, unreadable⟩) ⟨index, finished⟩
    · obtain ⟨files, listed, -⟩ := (site.build_ok_iff tree index).mp finished
      exact missing ⟨files, listed⟩
    · obtain ⟨files, listed, readable, -⟩ := (site.build_ok_iff tree index).mp finished
      have member := (site.mem_source_iff tree files listed path content).mpr source
      have read := readable (path, content) ((site.kept_iff _ files).mpr ⟨member, isPage, unignored⟩)
      simp [unreadable] at read

-- The order of the lists of an index: pages and groups of complaints follow the paths, and so do
-- the ignored files and, behind them, the drafts.
structure Sorted (index : Index) : Prop where
  pages : index.sources.Pairwise Before
  diagnostics : index.complaints.Pairwise fun a b => a = b ∨ Before a b
  skipped : ∃ ignored drafts, index.skipped = ignored ++ drafts ∧
    ignored.Pairwise Before ∧ (∀ path ∈ ignored, site.ignores path = true) ∧
    drafts.Pairwise Before ∧ ∀ path ∈ drafts, site.ignores path = false

theorem index_sorted (files : List (String × ByteArray)) (sorted : (files.map Prod.fst).Pairwise Before)
    (readable : ∀ file ∈ files.filter site.keeps, (String.fromUTF8? file.2).isSome) :
    site.Sorted (site.indexOf files) := by
  have keptSorted := filter_sorted files sorted site.keeps
  have droppedSorted := filter_sorted files sorted site.drops
  obtain ⟨pages, diagnostics, drafts⟩ := site.shares_sorted _ keptSorted readable
  refine ⟨pages, diagnostics, _, _, rfl, droppedSorted, ?_, drafts, ?_⟩
  · rw [List.forall_mem_map]
    exact fun file dropped => ((site.dropped_iff file files).mp dropped).2.2
  · intro path draft
    obtain ⟨file, kept, rfl⟩ := List.mem_map.mp (site.shares_own _ readable path (.inr (.inr draft)))
    exact ((site.kept_iff file files).mp kept).2.2

theorem index_from_pages (files : List (String × ByteArray))
    (readable : ∀ file ∈ files.filter site.keeps, (String.fromUTF8? file.2).isSome) (path : String)
    (listed : path ∈ (site.indexOf files).sources ∨ path ∈ (site.indexOf files).complaints ∨
      path ∈ (site.indexOf files).skipped) : isPage path = true ∧ ∃ content, (path, content) ∈ files := by
  have origin : path ∈ (files.filter site.drops).map Prod.fst ∨ path ∈ (files.filter site.keeps).map Prod.fst := by
    rcases listed with page | complaint | skipped
    · exact .inr (site.shares_own _ readable path (.inl page))
    · exact .inr (site.shares_own _ readable path (.inr (.inl complaint)))
    · rcases List.mem_append.mp skipped with ignored | draft
      · exact .inl ignored
      · exact .inr (site.shares_own _ readable path (.inr (.inr draft)))
  rcases origin with member | member
  · obtain ⟨file, dropped, rfl⟩ := List.mem_map.mp member
    obtain ⟨known, isPage, -⟩ := (site.dropped_iff file files).mp dropped
    exact ⟨isPage, file.2, known⟩
  · obtain ⟨file, kept, rfl⟩ := List.mem_map.mp member
    obtain ⟨known, isPage, -⟩ := (site.kept_iff file files).mp kept
    exact ⟨isPage, file.2, known⟩

theorem page_accounted (files : List (String × ByteArray)) (sorted : (files.map Prod.fst).Pairwise Before)
    (readable : ∀ file ∈ files.filter site.keeps, (String.fromUTF8? file.2).isSome) (file : String × ByteArray)
    (member : file ∈ files) (isPage : isPage file.1 = true) :
    site.Accounted (site.indexOf files) file.1 file.2 := by
  by_cases ignored : site.ignores file.1 = true
  · have dropped := (site.dropped_iff file files).mpr ⟨member, isPage, ignored⟩
    exact site.dropped_accounted files sorted readable file dropped
  · rw [Bool.not_eq_true] at ignored
    have kept := (site.kept_iff file files).mpr ⟨member, isPage, ignored⟩
    exact site.kept_accounted files sorted readable file kept

section Finished

variable (tree : Tree) (index : Index) (finished : site.build tree = .ok index)
include finished

theorem build_accounted (path : String) (content : ByteArray) (source : site.config.Source tree path content)
    (isPage : isPage path = true) : site.Accounted index path content := by
  obtain ⟨files, listed, readable, rfl⟩ := (site.build_ok_iff tree index).mp finished
  have sorted := site.source_files_sorted tree files listed
  have member := (site.mem_source_iff tree files listed path content).mpr source
  exact site.page_accounted files sorted readable (path, content) member isPage

theorem build_from_pages (path : String)
    (listed : path ∈ index.sources ∨ path ∈ index.complaints ∨ path ∈ index.skipped) :
    isPage path = true ∧ ∃ content, site.config.Source tree path content := by
  obtain ⟨files, found, readable, rfl⟩ := (site.build_ok_iff tree index).mp finished
  obtain ⟨isPage, content, known⟩ := site.index_from_pages files readable path listed
  exact ⟨isPage, content, (site.mem_source_iff tree files found path content).mp known⟩

theorem build_sorted : site.Sorted index := by
  obtain ⟨files, listed, readable, rfl⟩ := (site.build_ok_iff tree index).mp finished
  exact site.index_sorted files (site.source_files_sorted tree files listed) readable

-- A page that was built has no complaints.
theorem built_unreported (path : String) (built : path ∈ index.sources) : path ∉ index.complaints := by
  obtain ⟨isPage, content, source⟩ := site.build_from_pages tree index finished path (.inl built)
  cases site.build_accounted tree index finished path content source isPage with
  | page once kept clean => exact clean
  | skipped once reason unbuilt clean => exact clean
  | failed reported unbuilt kept => exact absurd built unbuilt

theorem built_output (page : Page) (member : page ∈ index.pages) : page.output = outputPath page.source := by
  obtain ⟨files, listed, readable, rfl⟩ := (site.build_ok_iff tree index).mp finished
  exact site.shares_output _ page member

end Finished

theorem build_accounts_for_pages (tree : Tree) :
    ((∃ fault, site.build tree = .error fault) ↔
      tree.isFolder site.config.sourceFolder = false ∨ site.Garbled tree) ∧
    ∀ index, site.build tree = .ok index →
      (∀ path content, site.config.Source tree path content → isPage path = true →
        site.Accounted index path content) ∧
      (∀ path, path ∈ index.sources ∨ path ∈ index.complaints ∨ path ∈ index.skipped →
        isPage path = true ∧ ∃ content, site.config.Source tree path content) ∧
      site.Sorted index := by
  refine ⟨site.build_error_iff tree, ?_⟩
  intro index finished
  exact ⟨site.build_accounted tree index finished, site.build_from_pages tree index finished,
    site.build_sorted tree index finished⟩

end Builder

def notesConfig : Config where
  title := "Notes"
  url := none
  description := none
  source := "content"
  output := "site"
  base := "/"
  ignored := ["^old/"]
  reader := .default
  writer := .default
  templates := []
  catalog := true
  folder := some ""

def notes : Builder where
  config := notesConfig
  expanding := ⟨.default, .default, some Catalog.table⟩
  plain := ⟨.default, .default, none⟩
  ignored := [Pattern.Expr.isMatch (.concat [.assertion .textStart, .set (.range 111 111), .set (.range 108 108),
    .set (.range 100 100), .set (.range 47 47)])]

def notesFile : Files.Entry := .file "shortlink.yml" "site:\n  title: Notes\nignore_patterns: ['^old/']\n".toUTF8

-- A page, one with an unknown shortcut, a draft, and a page in a folder that is left out.
def notesTree : Tree where
  entries := [.folder "content" [.file "a.md" "ok".toUTF8, .file "b.md" "[x](@no)".toUTF8,
    .file "c.md" "---\ndraft: true\n---\n".toUTF8, .folder "old" [.file "d.md" "ok".toUTF8]], notesFile]
  ordered := by decide
  working := []

def notesFiles : List (String × ByteArray) :=
  [("a.md", "ok".toUTF8), ("b.md", "[x](@no)".toUTF8), ("c.md", "---\ndraft: true\n---\n".toUTF8),
    ("old/d.md", "ok".toUTF8)]

def notesIndex : Index where
  pages := [⟨"a.md", "a.html", "a", none, "<p>ok</p>\n"⟩]
  diagnostics := [⟨"b.md", "unknown shortcut name 'no'"⟩]
  skipped := ["old/d.md", "c.md"]

theorem notes_page : notes.page "a.md" "ok" = .built ⟨"a.md", "a.html", "a", none, "<p>ok</p>\n"⟩ := by cbv

theorem unknown_name_fails (source : String) :
    notes.page source "[x](@no)" = .failed [⟨source, "unknown shortcut name 'no'"⟩] := by
  have settings : FrontMatter.read "[x](@no)" = .ok (.default, "[x](@no)") := by cbv
  have parsed : Markdown.read .default "[x](@no)" = [.element .paragraph (some .paragraph)
      [.element (.link ⟨.inline, "@no", "", ""⟩) (some .link) [.leaf (.text "x")]]] := by cbv
  have compiled : (notes.compiler .default).compile "[x](@no)" = .error ["unknown shortcut name 'no'"] := by
    change (Document.expand Catalog.table (Markdown.read .default "[x](@no)")).map _ = _
    rw [parsed]
    rfl
  rw [Builder.page, settings]
  dsimp only
  rw [if_neg (by decide), compiled]
  rfl

theorem notes_build : notes.build notesTree = .ok notesIndex := by
  have kept : notesFiles.filter notes.keeps = notesFiles.take 3 := by cbv
  have dropped : notesFiles.filter notes.drops = notesFiles.drop 3 := by cbv
  have draft : notes.page "c.md" "---\ndraft: true\n---\n" = .draft := by cbv
  refine (notes.build_ok_iff notesTree notesIndex).mpr ⟨notesFiles, rfl, ?_, ?_⟩
  · rw [kept]
    simp only [notesFiles, List.take_succ_cons, List.take_zero, List.forall_mem_cons, Text.read_utf8]
    simp
  · rw [Builder.indexOf, kept, dropped]
    simp only [notesFiles, List.take_succ_cons, List.take_zero, Builder.shares, Builder.share_text, notes_page, draft,
      unknown_name_fails]
    rfl

theorem notes_accounted :
    Builder.ofConfig notesConfig = .ok notes ∧ notes.build notesTree = .ok notesIndex ∧
      (∀ path content, notesConfig.Source notesTree path content → Builder.isPage path = true →
        notes.Accounted notesIndex path content) ∧
      (∀ path, path ∈ notesIndex.sources ∨ path ∈ notesIndex.complaints ∨ path ∈ notesIndex.skipped →
        Builder.isPage path = true ∧ ∃ content, notesConfig.Source notesTree path content) ∧
      notes.Sorted notesIndex := by
  have made : Builder.ofConfig notesConfig = .ok notes := by cbv
  exact ⟨made, notes_build, (notes.build_accounts_for_pages notesTree).2 notesIndex notes_build⟩

end LinkPress.Site
