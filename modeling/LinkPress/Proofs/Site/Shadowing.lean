import LinkPress.Proofs.Document.Extension

set_option autoImplicit false

/- What a name comes to in the table of a configuration: the first template that goes by it, or else
   what the catalog says, if that stands behind the templates. -/
namespace LinkPress.Shortcut

namespace Table

theorem get_extend_missing (table more : Table) (name : String) (missing : table.get? name = none) :
    (table.extend more).get? name = more.get? name := by
  rw [get?, Option.map_eq_none_iff] at missing
  rw [get?, extend, List.find?_append, missing, Option.none_or, get?]

end Table

namespace Template

-- The template can be looked up by the name. It was written with blanks around
-- it, perhaps, but nothing is looked up by a name that is all blank.
def GoesBy (template : Template) (name : String) : Prop :=
  name ≠ "" ∧ ∃ written ∈ template.names, Text.trimmed written = name

instance (template : Template) (name : String) : Decidable (template.GoesBy name) :=
  inferInstanceAs (Decidable (name ≠ "" ∧ ∃ written ∈ template.names, Text.trimmed written = name))

theorem lookup_names_iff (template : Template) (name : String) :
    template.lookupNames.contains name = true ↔ template.GoesBy name := by
  rw [List.contains_iff_mem, lookupNames, List.mem_filter, List.mem_map, bne_iff_ne, and_comm]
  rfl

theorem table_ok_iff (templates : List Template) (result : Table) :
    table templates = .ok result ↔
      (∀ template ∈ templates, template.check = .ok ()) ∧ result = ⟨templates.map entry⟩ := by
  rw [← forM_ok_iff, table, bind_ok_iff]
  constructor
  · rintro ⟨_, checks, done⟩
    exact ⟨checks, (Except.ok.inj done).symm⟩
  · rintro ⟨checks, rfl⟩
    exact ⟨(), checks, rfl⟩

theorem get_none (templates : List Template) (name : String)
    (passed : ∀ template ∈ templates, ¬ template.GoesBy name) :
    Table.get? ⟨templates.map entry⟩ name = none := by
  rw [Table.get?, Option.map_eq_none_iff, List.find?_eq_none, List.forall_mem_map]
  exact fun template member => mt (template.lookup_names_iff name).mp (passed template member)

theorem first_going (templates : List Template) (name : String) :
    (∀ template ∈ templates, ¬ template.GoesBy name) ∨
      ∃ front template back, templates = front ++ template :: back ∧ (∀ earlier ∈ front, ¬ earlier.GoesBy name) ∧
        template.GoesBy name := by
  induction templates with
  | nil => exact .inl (List.forall_mem_nil _)
  | cons template rest ih =>
      by_cases own : template.GoesBy name
      · exact .inr ⟨[], template, rest, rfl, List.forall_mem_nil _, own⟩
      · rcases ih with none | ⟨front, first, back, rfl, passed, goes⟩
        · exact .inl (List.forall_mem_cons.mpr ⟨own, none⟩)
        · exact .inr ⟨template :: front, first, back, rfl, List.forall_mem_cons.mpr ⟨own, passed⟩, goes⟩

theorem get_first (front back : List Template) (template : Template) (name : String)
    (passed : ∀ earlier ∈ front, ¬ earlier.GoesBy name) (own : template.GoesBy name) :
    Table.get? ⟨(front ++ template :: back).map entry⟩ name = some template.expand := by
  have behind := Table.get_extend_missing ⟨front.map entry⟩ ⟨(template :: back).map entry⟩ name
    (get_none front name passed)
  rw [Table.extend, ← List.map_append] at behind
  have found : template.entry.names.contains name = true := (template.lookup_names_iff name).mpr own
  rw [behind, Table.get?, List.map_cons, List.find?_cons, found]
  rfl

end Template
end LinkPress.Shortcut

namespace LinkPress.Site.Config

open LinkPress.Shortcut

-- The check that a configuration passes when it is read.
def Checked (config : Config) : Prop := ∀ template ∈ config.templates, template.check = .ok ()

theorem checked_iff (config : Config) : config.templates.forM checkTemplate = .ok () ↔ config.Checked := by
  rw [forM_ok_iff]
  exact forall₂_congr fun template _ => map_error_ok_iff template.check _ ()

section Reading

variable [Readers]

theorem of_text_ok_iff (text : String) (config : Config) :
    ofText text = .ok config ↔
      Readers.settings .site decode? text.toList = .ok config ∧ (∃ ignored, config.patterns = .ok ignored) ∧
        config.Checked := by
  rw [ofText, ← config.checked_iff]
  simp only [bind_ok_iff, map_error_ok_iff]
  constructor
  · rintro ⟨found, decoded, ignored, patterns, _, checks, done⟩
    obtain rfl := Except.ok.inj done
    exact ⟨decoded, ⟨ignored, patterns⟩, checks⟩
  · rintro ⟨decoded, ⟨ignored, patterns⟩, checks⟩
    exact ⟨config, decoded, ignored, patterns, (), checks, rfl⟩

theorem of_text_checked (text : String) (config : Config) (read : ofText text = .ok config) : config.Checked :=
  ((of_text_ok_iff text config).mp read).2.2

theorem of_file_ok_iff (tree : Files.Tree) (path : String) (config : Config) :
    ofFile tree path = .ok config ↔ ∃ text inner, tree.readText path = .ok text ∧ ofText text = .ok inner ∧
      config = { inner with folder := (Files.Path.parent? path.toList).map String.ofList } := by
  rw [ofFile]
  simp only [bind_ok_iff, map_error_ok_iff]
  constructor
  · rintro ⟨text, stands, inner, read, done⟩
    exact ⟨text, inner, stands, read, (Except.ok.inj done).symm⟩
  · rintro ⟨text, inner, stands, read, rfl⟩
    exact ⟨text, stands, inner, read, rfl⟩

theorem of_file_checked (tree : Files.Tree) (path : String) (config : Config)
    (read : ofFile tree path = .ok config) : config.Checked := by
  obtain ⟨text, inner, -, decoded, rfl⟩ := (of_file_ok_iff tree path config).mp read
  exact of_text_checked text inner decoded

end Reading

-- The table of a configuration that passed its check.
def lookupTable (config : Config) : Table :=
  let own : Table := ⟨config.templates.map Template.entry⟩
  if config.catalog then own.extend Catalog.table else own

theorem table_checked (config : Config) (checked : config.Checked) : config.table = .ok config.lookupTable := by
  have own := (Template.table_ok_iff config.templates _).mpr ⟨checked, rfl⟩
  simp [table, lookupTable, own, bind, Except.bind, pure, Except.pure]

-- What a shortcut comes to: the answer of the first template that goes by its name, or that of the
-- catalog, or of nobody.
inductive Settled (config : Config) (name : String) (option : Option String) (text : String) : Resolution → Prop where
  | template (front back : List Template) (template : Template) (split : config.templates = front ++ template :: back)
      (passed : ∀ earlier ∈ front, ¬ earlier.GoesBy name) (own : template.GoesBy name) :
      Settled config name option text (template.expand option text)
  | catalog (passed : ∀ template ∈ config.templates, ¬ template.GoesBy name) (behind : config.catalog = true) :
      Settled config name option text (Catalog.table.resolve name option text)
  | unknown (passed : ∀ template ∈ config.templates, ¬ template.GoesBy name) (alone : config.catalog = false) :
      Settled config name option text (.failure ("unknown shortcut name '" ++ name ++ "'"))

theorem resolve_first (config : Config) (front back : List Template) (template : Template) (name : String)
    (option : Option String) (text : String) (split : config.templates = front ++ template :: back)
    (passed : ∀ earlier ∈ front, ¬ earlier.GoesBy name) (own : template.GoesBy name) :
    config.lookupTable.resolve name option text = template.expand option text := by
  have found := Template.get_first front back template name passed own
  rw [← split] at found
  rw [lookupTable, Table.resolve]
  cases config.catalog with
  | false => simp [found]
  | true => simp [Table.get_extend _ Catalog.table name _ found]

theorem resolve_passed (config : Config) (name : String) (option : Option String) (text : String)
    (passed : ∀ template ∈ config.templates, ¬ template.GoesBy name) :
    config.lookupTable.resolve name option text =
      if config.catalog then Catalog.table.resolve name option text else .failure (Table.unknownName name) := by
  have missing := Template.get_none config.templates name passed
  rw [lookupTable, Table.resolve]
  cases config.catalog with
  | false => simp [missing]
  | true => simp [Table.get_extend_missing _ Catalog.table name missing, Table.resolve]

theorem settled_iff (config : Config) (name : String) (option : Option String) (text : String) (answer : Resolution) :
    config.lookupTable.resolve name option text = answer ↔ config.Settled name option text answer := by
  constructor
  · rintro rfl
    rcases Template.first_going config.templates name with passed | ⟨front, template, back, split, passed, own⟩
    · rw [config.resolve_passed name option text passed]
      cases behind : config.catalog with
      | false => exact .unknown passed behind
      | true => exact .catalog passed behind
    · rw [config.resolve_first front back template name option text split passed own]
      exact .template front back template split passed own
  · intro settled
    cases settled with
    | template front back template split passed own =>
        exact config.resolve_first front back template name option text split passed own
    | catalog passed behind => rw [config.resolve_passed name option text passed, if_pos behind]
    | unknown passed alone =>
        rw [config.resolve_passed name option text passed, alone]
        rfl

theorem first_template_answers [Readers] (text : String) (config : Config) (read : ofText text = .ok config) :
    ∃ table, config.table = .ok table ∧ ∀ name option shown answer,
      table.resolve name option shown = answer ↔ config.Settled name option shown answer := by
  exact ⟨config.lookupTable, config.table_checked (of_text_checked text config read), config.settled_iff⟩

-- Two templates for a name that the catalog has too. The first one has a blank name as well.
def forgeTemplate : Template := ⟨["", " gh "], "/git/\x7btext\x7d", none⟩
def homeTemplate : Template := ⟨["gh", "home"], "/", none⟩

def forgeText : String :=
  "site:\n  title: Forge\nshortcuts:\n- names: ['', ' gh ']\n  url: /git/\x7btext\x7d\n- names: [gh, home]\n  url: /\n"

def forgeConfig : Config where
  title := "Forge"
  url := none
  description := none
  source := "content"
  output := "site"
  base := "/"
  ignored := []
  reader := .default
  writer := .default
  templates := [forgeTemplate, homeTemplate]
  catalog := true
  folder := none

set_option maxRecDepth 4000 in
theorem forge_document : Readers.settings .site decode? forgeText.toList = .ok forgeConfig := by cbv

theorem forge_checked : forgeConfig.Checked := by
  have forgeNames : forgeTemplate.lookupNames = ["gh"] := by decide
  have forgeSlots : forgeTemplate.slots = [Template.textSlot] := by cbv
  have homeNames : homeTemplate.lookupNames = ["gh", "home"] := by decide
  have homeSlots : homeTemplate.slots = [] := by cbv
  rw [Checked, forgeConfig, List.forall_mem_cons, List.forall_mem_singleton, Template.check, Template.check,
    forgeNames, forgeSlots, homeNames, homeSlots]
  exact ⟨rfl, rfl⟩

theorem forge_read : ofText forgeText = .ok forgeConfig :=
  (of_text_ok_iff forgeText forgeConfig).mpr ⟨forge_document, ⟨[], rfl⟩, forge_checked⟩

theorem forge_names_answered :
    ofText forgeText = .ok forgeConfig ∧ ∃ table, forgeConfig.table = .ok table ∧
      table.resolve "gh" none "a" = .success "/git/a" ∧ table.resolve "home" none "a" = .success "/" ∧
      table.resolve "pypi" none "a" = .success "https://pypi.org/project/a" := by
  obtain ⟨table, made, settled⟩ := first_template_answers forgeText forgeConfig forge_read
  have git : forgeTemplate.expand none "a" = .success "/git/a" := by cbv
  have home : homeTemplate.expand none "a" = .success "/" := by cbv
  have pypi : Catalog.table.resolve "pypi" none "a" = .success "https://pypi.org/project/a" := by rfl
  refine ⟨forge_read, table, made, ?_, ?_, ?_⟩
  · rw [settled, ← git]
    exact .template [] [homeTemplate] forgeTemplate rfl (by decide) (by decide)
  · rw [settled, ← home]
    exact .template [forgeTemplate] [] homeTemplate rfl (by decide) (by decide)
  · rw [settled, ← pypi]
    exact .catalog (by decide) rfl

theorem blank_name_unanswered :
    ofText forgeText = .ok forgeConfig ∧ forgeConfig.templates = [forgeTemplate, homeTemplate] ∧
      "" ∈ forgeTemplate.names.map Text.trimmed ∧ forgeTemplate.expand none "a" = .success "/git/a" ∧
      forgeConfig.table = .ok forgeConfig.lookupTable ∧
      forgeConfig.lookupTable.resolve "" none "a" = .failure "unknown shortcut name ''" ∧
      forgeConfig.lookupTable.resolve "" none "a" ≠ forgeTemplate.expand none "a" := by
  have git : forgeTemplate.expand none "a" = .success "/git/a" := by cbv
  have unknown : forgeConfig.lookupTable.resolve "" none "a" = .failure "unknown shortcut name ''" := by rfl
  have made := table_checked forgeConfig forge_checked
  refine ⟨forge_read, rfl, by decide, git, made, unknown, ?_⟩
  rw [git, unknown]
  exact Resolution.noConfusion

end LinkPress.Site.Config
