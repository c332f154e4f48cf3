import LinkPress.Proofs.Site.Shadowing
import LinkPress.Site.Page

set_option autoImplicit false

/- What is checked when a configuration is read. The first pattern that is none is reported, then the first
   template with a fault; a configuration that is accepted has neither, so setting up its site cannot fail. -/
namespace LinkPress.Shortcut

variable {α β ε : Type}

def Passes (step : α → Except ε β) (item : α) : Prop := ∃ made, step item = .ok made

-- The fault of the first item that does not pass.
def FailsFirst (step : α → Except ε β) (items : List α) (fault : ε) : Prop :=
  ∃ front item back, items = front ++ item :: back ∧ (∀ earlier ∈ front, Passes step earlier) ∧
    step item = .error fault

theorem fails_first_cons (step : α → Except ε β) (item : α) (rest : List α) (fault : ε) :
    FailsFirst step (item :: rest) fault ↔
      step item = .error fault ∨ Passes step item ∧ FailsFirst step rest fault := by
  constructor
  · rintro ⟨front, refused, back, same, passed, fails⟩
    cases front with
    | nil =>
        obtain ⟨rfl, rfl⟩ := List.cons.inj same
        exact .inl fails
    | cons first more =>
        obtain ⟨rfl, rfl⟩ := List.cons.inj same
        rw [List.forall_mem_cons] at passed
        exact .inr ⟨passed.1, more, refused, back, rfl, passed.2, fails⟩
  · rintro (fails | ⟨passes, front, refused, back, rfl, passed, fails⟩)
    · exact ⟨[], item, rest, rfl, List.forall_mem_nil _, fails⟩
    · exact ⟨item :: front, refused, back, rfl, List.forall_mem_cons.mpr ⟨passes, passed⟩, fails⟩

theorem forM_error_iff (step : α → Except ε Unit) (items : List α) (fault : ε) :
    items.forM step = .error fault ↔ FailsFirst step items fault := by
  induction items with
  | nil => simp [FailsFirst, pure, Except.pure]
  | cons item rest ih =>
      rw [fails_first_cons, ← ih]
      exact (bind_error_iff (step item) _ fault).trans (or_congr_right exists_and_right)

theorem mapM_error_iff (step : α → Except ε β) (items : List α) (fault : ε) :
    items.mapM step = .error fault ↔ FailsFirst step items fault := by
  induction items with
  | nil => simp [FailsFirst, pure, Except.pure]
  | cons item rest ih =>
      have last (made : β) (results : List β) : (pure (made :: results) : Except ε (List β)) ≠ .error fault := nofun
      rw [fails_first_cons, ← ih, List.mapM_cons, bind_error_iff]
      simp only [bind_error_iff, last, and_false, exists_false, or_false, exists_and_right]
      rfl

theorem mapM_ok_iff (step : α → Except ε β) (items : List α) :
    (∃ results, items.mapM step = .ok results) ↔ ∀ item ∈ items, Passes step item := by
  induction items with
  | nil => exact iff_of_true ⟨[], rfl⟩ (List.forall_mem_nil _)
  | cons item rest ih =>
      rw [List.forall_mem_cons, ← ih, List.mapM_cons]
      simp only [bind_ok_iff]
      constructor
      · rintro ⟨_, made, own, results, others, -⟩
        exact ⟨⟨made, own⟩, results, others⟩
      · rintro ⟨⟨made, own⟩, results, others⟩
        exact ⟨made :: results, made, own, results, others, rfl⟩

end LinkPress.Shortcut

namespace LinkPress.Site.Config

open LinkPress.Shortcut

theorem check_template_passes_iff (template : Template) :
    Passes checkTemplate template ↔ template.check = .ok () := by
  simp only [Passes, checkTemplate, map_error_ok_iff]
  exact ⟨fun ⟨_, checked⟩ => checked, fun checked => ⟨(), checked⟩⟩

section Reading

variable [Readers]

theorem pattern_of_passes_iff (text : String) : Passes patternOf text ↔ Passes Readers.pattern text := by
  simp only [Passes, patternOf, map_error_ok_iff]

def Readable (config : Config) : Prop := ∀ text ∈ config.ignored, Passes Readers.pattern text

theorem readable_iff (config : Config) : (∃ ignored, config.patterns = .ok ignored) ↔ config.Readable := by
  rw [patterns, mapM_ok_iff]
  exact forall₂_congr fun text _ => pattern_of_passes_iff text

-- What comes of a configuration when it is checked.
inductive Judged (config : Config) : Except ConfigFault Config → Prop where
  | pattern (front back : List String) (text complaint : String) (split : config.ignored = front ++ text :: back)
      (passed : ∀ earlier ∈ front, Passes Readers.pattern earlier) (refused : Readers.pattern text = .error complaint) :
      Judged config (.error (.pattern text complaint))
  | template (readable : config.Readable) (front back : List Template) (template : Template) (fault : TemplateFault)
      (split : config.templates = front ++ template :: back) (passed : ∀ earlier ∈ front, earlier.check = .ok ())
      (refused : template.check = .error fault) : Judged config (.error (.template fault))
  | accepted (readable : config.Readable) (checked : config.Checked) : Judged config (.ok config)

theorem judged_ok_iff (config result : Config) :
    config.Judged (.ok result) ↔ result = config ∧ config.Readable ∧ config.Checked := by
  constructor
  · rintro (_ | _ | ⟨readable, checked⟩)
    exact ⟨rfl, readable, checked⟩
  · rintro ⟨rfl, readable, checked⟩
    exact .accepted readable checked

theorem judged_error_iff (config : Config) (fault : ConfigFault) :
    config.Judged (.error fault) ↔ FailsFirst patternOf config.ignored fault ∨
      config.Readable ∧ FailsFirst checkTemplate config.templates fault := by
  simp only [FailsFirst, pattern_of_passes_iff, check_template_passes_iff, patternOf, checkTemplate,
    map_error_error_iff]
  constructor
  · rintro (⟨front, back, text, complaint, split, passed, refused⟩ |
      ⟨readable, front, back, template, own, split, passed, refused⟩)
    · exact .inl ⟨front, text, back, split, passed, complaint, refused, rfl⟩
    · exact .inr ⟨readable, front, template, back, split, passed, own, refused, rfl⟩
  · rintro (⟨front, text, back, split, passed, complaint, refused, rfl⟩ |
      ⟨readable, front, template, back, split, passed, own, refused, rfl⟩)
    · exact .pattern front back text complaint split passed refused
    · exact .template readable front back template own split passed refused

theorem of_text_judged_iff (text : String) (config : Config) (outcome : Except ConfigFault Config)
    (decoded : Readers.settings .site decode? text.toList = .ok config) :
    ofText text = outcome ↔ config.Judged outcome := by
  cases outcome with
  | ok result =>
      rw [of_text_ok_iff, judged_ok_iff, decoded, Except.ok.injEq]
      constructor
      · rintro ⟨rfl, readable, checked⟩
        exact ⟨rfl, (readable_iff config).mp readable, checked⟩
      · rintro ⟨rfl, readable, checked⟩
        exact ⟨rfl, (readable_iff result).mpr readable, checked⟩
  | error fault =>
      have done : (pure config : Except ConfigFault Config) ≠ .error fault := nofun
      rw [ofText, judged_error_iff, ← readable_iff, ← mapM_error_iff, ← forM_error_iff, ← patterns]
      simp only [bind_error_iff, map_error_ok_iff, map_error_error_iff, decoded, reduceCtorEq, Except.ok.injEq,
        false_and, exists_false, false_or, exists_eq_left', done, and_false, or_false, exists_and_right]

theorem set_up (config : Config) (readable : config.Readable) (checked : config.Checked) :
    ∃ table ignored, config.table = .ok table ∧
      config.compiler = .ok ⟨config.reader, config.writer, some table⟩ ∧
      Builder.ofConfig config = .ok ⟨config, ⟨config.reader, config.writer, some table⟩,
        ⟨config.reader, config.writer, none⟩, ignored⟩ := by
  obtain ⟨ignored, read⟩ := config.readable_iff.mpr readable
  have made := config.table_checked checked
  have compiler : config.compiler = .ok ⟨config.reader, config.writer, some config.lookupTable⟩ := by
    rw [Config.compiler, made]
    rfl
  refine ⟨config.lookupTable, ignored, made, compiler, ?_⟩
  rw [Builder.ofConfig, compiler, read]
  rfl

theorem loaded_config_set_up (text : String) :
    (∀ config, ofText text = .ok config → ∃ table ignored, config.table = .ok table ∧
      config.compiler = .ok ⟨config.reader, config.writer, some table⟩ ∧
      Builder.ofConfig config = .ok ⟨config, ⟨config.reader, config.writer, some table⟩,
        ⟨config.reader, config.writer, none⟩, ignored⟩) ∧
    ∀ config outcome, Readers.settings .site decode? text.toList = .ok config →
      (ofText text = outcome ↔ config.Judged outcome) := by
  constructor
  · intro config read
    obtain ⟨-, readable, checked⟩ := (of_text_ok_iff text config).mp read
    exact config.set_up (config.readable_iff.mp readable) checked
  · exact of_text_judged_iff text

end Reading

def draftsText : String :=
  "site:\n  title: Drafts\nignore_patterns: ['^old/']\nshortcuts:\n- names: [gh]\n  url: /git/\x7btext\x7d\n"

-- The second pattern is none, and the template has a slot that nothing fills.
def faultyText : String :=
  "site:\n  title: Drafts\nignore_patterns: ['^old/', '(']\nshortcuts:\n- names: [gh]\n  url: /git/\x7bnope\x7d\n"

def draftsConfig (ignored : List String) (url : String) : Config where
  title := "Drafts"
  url := none
  description := none
  source := "content"
  output := "site"
  base := "/"
  ignored
  reader := .default
  writer := .default
  templates := [⟨["gh"], url, none⟩]
  catalog := true
  folder := none

theorem old_pattern_readable : Passes Readers.pattern "^old/" := ⟨_, rfl⟩

set_option maxRecDepth 4000 in
theorem drafts_decoded :
    Readers.settings .site decode? draftsText.toList = .ok (draftsConfig ["^old/"] "/git/\x7btext\x7d") := by cbv

set_option maxRecDepth 4000 in
theorem faulty_decoded :
    Readers.settings .site decode? faultyText.toList = .ok (draftsConfig ["^old/", "("] "/git/\x7bnope\x7d") := by cbv

theorem drafts_set_up :
    ofText draftsText = .ok (draftsConfig ["^old/"] "/git/\x7btext\x7d") ∧
      (∃ site, Builder.ofConfig (draftsConfig ["^old/"] "/git/\x7btext\x7d") = .ok site) ∧
      Readers.settings .site decode? faultyText.toList = .ok (draftsConfig ["^old/", "("] "/git/\x7bnope\x7d") ∧
      ofText faultyText = .error (.pattern "(" "regex parse error") := by
  have checked : Template.check ⟨["gh"], "/git/\x7btext\x7d", none⟩ = .ok () := by cbv
  have refused : Readers.pattern "(" = .error "regex parse error" := by cbv
  have read : ofText draftsText = .ok (draftsConfig ["^old/"] "/git/\x7btext\x7d") := by
    rw [(loaded_config_set_up draftsText).2 _ _ drafts_decoded]
    exact .accepted (List.forall_mem_singleton.mpr old_pattern_readable) (List.forall_mem_singleton.mpr checked)
  obtain ⟨table, ignored, -, -, made⟩ := (loaded_config_set_up draftsText).1 _ read
  refine ⟨read, ⟨_, made⟩, faulty_decoded, ?_⟩
  rw [(loaded_config_set_up faultyText).2 _ _ faulty_decoded]
  exact .pattern ["^old/"] [] "(" _ rfl (List.forall_mem_singleton.mpr old_pattern_readable) refused

end LinkPress.Site.Config
