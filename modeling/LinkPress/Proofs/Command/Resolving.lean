import LinkPress.Command.Run
import LinkPress.Proofs.Document.Completion
import LinkPress.Proofs.Site.Shadowing
import LinkPress.Proofs.Text.Bytes

set_option autoImplicit false

/- Resolving a target by hand and expanding it in a document come to the same: the address, or else
   the messages. -/
namespace LinkPress.Shortcut

-- A warning without a message is refused by hand, but a document would keep it
-- to itself.
def Table.Loud (table : Table) : Prop :=
  ∀ name option text url, table.resolve name option text ≠ .warning [] url

theorem Template.expand_unwarned (template : Template) (option : Option String) (text : String)
    (messages : List String) (url : String) : template.expand option text ≠ .warning messages url := by
  rw [expand]
  split <;> exact Resolution.noConfusion

end LinkPress.Shortcut

namespace LinkPress.Site.Config

open LinkPress.Shortcut

theorem lookup_table_loud (config : Config) : config.lookupTable.Loud := by
  intro name option text url warned
  have settled := (config.settled_iff name option text _).mp warned
  generalize answered : Resolution.warning [] url = answer at settled
  cases settled with
  | template front back template split passed own => exact template.expand_unwarned option text _ _ answered.symm
  | catalog passed behind => exact Document.catalog_settles.loud name option text url answered.symm
  | unknown passed alone => cases answered

end LinkPress.Site.Config

namespace LinkPress.Document

open LinkPress.Shortcut

theorem settle_strict (answer : Resolution) (loud : ∀ url, answer ≠ .warning [] url) (nodes : List Node) :
    settle (outcomeOf answer).faults nodes = answer.strict.map fun _ => nodes := by
  cases answer with
  | success url => rfl
  | failure message => rfl
  | warning messages url =>
      cases messages with
      | nil => exact absurd rfl (loud url)
      | cons message more =>
          rw [Resolution.strict, Except.map, settle_error_iff]
          exact ⟨(unresolved_messages _).symm, List.cons_ne_nil message more⟩

section Lone

variable (table : Table) (nodes : List Node) (site : LinkSite) (only : links nodes = [site])
include only

theorem expand_lone :
    expand table nodes = settle (faultsAt table site) (readdress (expandedUrl table) nodes) := by
  rw [expand_settle, only, List.flatMap_singleton]

theorem targets_lone (address : Addressing) : linkTargets (readdress address nodes) = [address site] := by
  rw [link_targets_links, links_readdress, only]
  rfl

end Lone

end LinkPress.Document

namespace LinkPress.Command

open LinkPress.Document
open LinkPress.Files (Tree)
open LinkPress.Shortcut
open LinkPress.Site (Config)
open LinkPress.Target (Introduced)

theorem load_table_missing (tree : Tree) (path : String) (missing : tree.has path = false) :
    loadTable tree path = .ok Catalog.table := by
  rw [loadTable, missing]
  rfl

theorem load_table_config (tree : Tree) (path : String) (config : Config) (stands : tree.has path = true)
    (loaded : loadConfig tree path = .ok config) : loadTable tree path = .ok config.lookupTable := by
  have checked : config.Checked := by
    rw [loadConfig] at loaded
    cases read : Config.ofFile tree path with
    | error fault => simp [read, Except.mapError] at loaded
    | ok found =>
        obtain rfl : found = config := by simpa [read, Except.mapError] using loaded
        exact Config.of_file_checked tree path found read
  simp [loadTable, stands, loaded, config.table_checked checked, bind, Except.bind, Except.mapError]

theorem load_table_loud (tree : Tree) (path : String)
    (loads : tree.has path = false ∨ ∃ config, loadConfig tree path = .ok config) :
    ∃ table, loadTable tree path = .ok table ∧ table.Loud := by
  cases stands : tree.has path with
  | false => exact ⟨Catalog.table, load_table_missing tree path stands, catalog_settles.loud⟩
  | true =>
      rw [stands] at loads
      obtain ⟨config, loaded⟩ := loads.resolve_left Bool.noConfusion
      exact ⟨config.lookupTable, load_table_config tree path config stands loaded, config.lookup_table_loud⟩

-- What is left behind when an address is found.
def printed (tree : Tree) (url : String) : Result := ⟨url ++ "\n", "", tree, none⟩

-- What is left behind when a target is refused.
def refusal (tree : Tree) (target : String) (messages : List String) : Result :=
  ⟨"", lines (messages.map ("error: " ++ ·)), tree, some ⟨"could not resolve '" ++ target ++ "'", []⟩⟩

theorem resolve_shortcut (tree : Tree) (path target text : String) (table : Table)
    (loaded : loadTable tree path = .ok table) (shortcut : Target) (parsed : Target.parse target = .shortcut shortcut)
    (answer : Resolution)
    (answered : table.resolve shortcut.name shortcut.option (shortcut.text.getD text) = answer) :
    resolve tree path target (some text) = match answer.strict with
      | .ok url => printed tree url
      | .error messages => refusal tree target messages := by
  have shown : shortcut.text.or (some text) = some (shortcut.text.getD text) := by
    cases shortcut.text <;> rfl
  rw [resolve, parsed]
  simp only [shown, loaded, answered]
  rfl

-- How messages are reported: the fault of a target as the failure itself, what the table says line
-- by line in front of it.
inductive Reported (tree : Tree) (target : String) : List String → Result → Prop where
  | malformed (fault : Target.Fault) (parsed : Target.parse target = .malformed fault) :
      Reported tree target [fault.message] (.fail tree ⟨fault.message, []⟩)
  | unresolved (shortcut : Target) (parsed : Target.parse target = .shortcut shortcut) (messages : List String) :
      Reported tree target messages (refusal tree target messages)

theorem reported_failed (tree : Tree) (target : String) (messages : List String) (result : Result)
    (reported : Reported tree target messages result) : result.failure.isSome = true := by
  cases reported <;> rfl

inductive Matches (tree : Tree) (target : String) : Result → Except (List String) (List Node) → Prop where
  | expanded (url : String) (after : List Node) (aimed : linkTargets after = [url]) :
      Matches tree target (printed tree url) (.ok after)
  | refused (result : Result) (messages : List String) (reported : Reported tree target messages result) :
      Matches tree target result (.error messages)

section Lone

variable (tree : Tree) (path text : String) (table : Table) (loaded : loadTable tree path = .ok table)
variable (nodes : List Node) (link : Link) (only : links nodes = [⟨link, [.leaf (.text text)]⟩])
include only

theorem malformed_matches (fault : Target.Fault) (parsed : Target.parse link.url = .malformed fault) :
    Matches tree link.url (resolve tree path link.url (some text)) (expand table nodes) := by
  rw [resolve, expand_lone table nodes _ only, faultsAt, outcomeAt, expandLink, parsed]
  exact .refused _ _ (.malformed fault parsed)

include loaded

theorem shortcut_matches (loud : table.Loud) (shortcut : Target)
    (parsed : Target.parse link.url = .shortcut shortcut) :
    Matches tree link.url (resolve tree path link.url (some text)) (expand table nodes) := by
  have answers : Answers table ⟨link, [.leaf (.text text)]⟩
      (table.resolve shortcut.name shortcut.option (shortcut.text.getD text)) := by
    refine ⟨shortcut, _, parsed, ?_, rfl⟩
    cases written : shortcut.text with
    | none => exact .inr ⟨written, rfl⟩
    | some own => exact .inl written
  have outcome := answered_outcome table _ _ answers
  have targets := targets_lone nodes _ only (expandedUrl table)
  rw [expand_lone table nodes _ only, faultsAt, outcome, settle_strict _ (loud _ _ _),
    resolve_shortcut tree path link.url text table loaded shortcut parsed _ rfl]
  generalize table.resolve shortcut.name shortcut.option (shortcut.text.getD text) = answer at outcome
  cases answer with
  | success url =>
      have expanded : expandedUrl table ⟨link, [.leaf (.text text)]⟩ = url := by
        simp [expandedUrl, outcome, outcomeOf]
      rw [expanded] at targets
      exact .expanded url _ targets
  | warning messages url => exact .refused _ _ (.unresolved shortcut parsed messages)
  | failure message => exact .refused _ _ (.unresolved shortcut parsed [message])

theorem resolve_matches (loud : table.Loud) (introduced : Introduced link.url) :
    Matches tree link.url (resolve tree path link.url (some text)) (expand table nodes) := by
  cases parsed : Target.parse link.url with
  | ordinary => exact absurd introduced ((Target.parse_ordinary_iff _).mp parsed)
  | malformed fault => exact malformed_matches tree path text table nodes link only fault parsed
  | shortcut shortcut =>
      exact shortcut_matches tree path text table loaded nodes link only loud shortcut parsed

end Lone

theorem resolve_as_in_document (tree : Tree) (path target text : String) (introduced : Introduced target)
    (loads : tree.has path = false ∨ ∃ config, loadConfig tree path = .ok config)
    (nodes : List Node) (link : Link) (aimed : link.url = target)
    (only : links nodes = [⟨link, [.leaf (.text text)]⟩]) :
    ∃ table, loadTable tree path = .ok table ∧
      (∀ url, resolve tree path target (some text) = printed tree url ↔
        ∃ after, expand table nodes = .ok after ∧ linkTargets after = [url]) ∧
      (∀ messages, expand table nodes = .error messages →
        Reported tree target messages (resolve tree path target (some text))) ∧
      ((resolve tree path target (some text)).failure.isSome = true ↔
        ∃ messages, expand table nodes = .error messages) := by
  subst aimed
  obtain ⟨table, loaded, loud⟩ := load_table_loud tree path loads
  refine ⟨table, loaded, ?_⟩
  have matching := resolve_matches tree path text table loaded nodes link only loud introduced
  generalize resolve tree path link.url (some text) = result at matching ⊢
  generalize expand table nodes = expansion at matching ⊢
  cases matching with
  | expanded url after aimed =>
      refine ⟨?_, nofun, ?_⟩
      · intro other
        simp [printed, aimed, String.append_left_inj]
      · simp [printed]
  | refused _ messages reported =>
      have failed := reported_failed tree link.url messages result reported
      refine ⟨?_, ?_, ?_⟩
      · intro url
        refine iff_of_false ?_ nofun
        rintro rfl
        cases failed
      · rintro again same
        exact Except.error.inj same ▸ reported
      · exact iff_of_true failed ⟨messages, rfl⟩

def lonePage (target text : String) : List Node :=
  [.element .paragraph (some .paragraph)
    [.element (.link ⟨.inline, target, "", ""⟩) (some .link) [.leaf (.text text)]]]

def forgeTree : Tree where
  entries := [.file "shortlink.yml" Config.forgeText.toUTF8]
  ordered := by decide
  working := []

def forgeLoaded : Config := { Config.forgeConfig with folder := some "" }

theorem forge_loaded : loadConfig forgeTree "shortlink.yml" = .ok forgeLoaded := by
  have text : forgeTree.readText "shortlink.yml" = .ok Config.forgeText := by
    have stands : forgeTree.find? "shortlink.yml" = .ok (.file "shortlink.yml" Config.forgeText.toUTF8) := by rfl
    rw [Tree.readText, stands]
    simp only [bind, Except.bind, Tree.textOf, Text.read_utf8]
  have folder : Files.Path.parent? "shortlink.yml".toList = some [] := by decide
  have read : Config.ofFile forgeTree "shortlink.yml" = .ok forgeLoaded := by
    rw [Config.of_file_ok_iff, folder]
    exact ⟨_, _, text, Config.forge_read, rfl⟩
  rw [loadConfig, read, Except.mapError]

-- A template of a configuration file, and a warning of the catalog where there is no such file.
theorem lone_links_resolved :
    (Introduced "@gh" ∧ (∃ config, loadConfig forgeTree "shortlink.yml" = .ok config) ∧
      resolve forgeTree "shortlink.yml" "@gh" (some "docs") = printed forgeTree "/git/docs" ∧
      ∃ table, loadTable forgeTree "shortlink.yml" = .ok table ∧
        ∃ after, expand table (lonePage "@gh" "docs") = .ok after ∧ linkTargets after = ["/git/docs"]) ∧
    Introduced "@pypi:1" ∧ Tree.empty.has "shortlink.yml" = false ∧
      expand Catalog.table (lonePage "@pypi:1" "serde") = .error ["shortcut 'pypi' does not support option '1'"] ∧
      Reported .empty "@pypi:1" ["shortcut 'pypi' does not support option '1'"]
        (resolve .empty "shortlink.yml" "@pypi:1" (some "serde")) := by
  constructor
  · have introduced : Introduced "@gh" := by decide
    have loads : ∃ config, loadConfig forgeTree "shortlink.yml" = .ok config := ⟨_, forge_loaded⟩
    have answer : forgeLoaded.lookupTable.resolve "gh" none "docs" = .success "/git/docs" := by
      have git : Config.forgeTemplate.expand none "docs" = .success "/git/docs" := by cbv
      rw [Config.settled_iff, ← git]
      exact .template [] [Config.homeTemplate] Config.forgeTemplate rfl (by decide) (by decide)
    have resolved : resolve forgeTree "shortlink.yml" "@gh" (some "docs") = printed forgeTree "/git/docs" := by
      have parsed : Target.parse "@gh" = .shortcut ⟨"gh", none, none⟩ := by decide
      have loaded := load_table_config forgeTree "shortlink.yml" _ rfl forge_loaded
      rw [resolve_shortcut forgeTree "shortlink.yml" "@gh" "docs" _ loaded _ parsed _ answer, Resolution.strict]
    obtain ⟨table, loaded, found, -, -⟩ := resolve_as_in_document forgeTree "shortlink.yml" "@gh" "docs" introduced
      (.inr loads) (lonePage "@gh" "docs") ⟨.inline, "@gh", "", ""⟩ rfl rfl
    exact ⟨introduced, loads, resolved, table, loaded, (found _).mp resolved⟩
  · have absent : Tree.empty.has "shortlink.yml" = false := by rfl
    have refused : expand Catalog.table (lonePage "@pypi:1" "serde") =
        .error ["shortcut 'pypi' does not support option '1'"] := by rfl
    obtain ⟨table, loaded, -, reported, -⟩ := resolve_as_in_document .empty "shortlink.yml" "@pypi:1" "serde" (by decide)
      (.inl absent) (lonePage "@pypi:1" "serde") ⟨.inline, "@pypi:1", "", ""⟩ rfl rfl
    rw [load_table_missing .empty "shortlink.yml" absent] at loaded
    cases loaded
    exact ⟨by decide, absent, refused, reported _ refused⟩

end LinkPress.Command
