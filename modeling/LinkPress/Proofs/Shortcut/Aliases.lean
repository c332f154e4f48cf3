import LinkPress.Proofs.Document.Expansion
import LinkPress.Proofs.Shortcut.Filling
import LinkPress.Proofs.Site.Shadowing

set_option autoImplicit false

/- Whether the names that templates are registered by can be written in a link. Nothing holds a name
   of a template to what a target can spell, so a name with a colon or a parenthesis is never asked for. -/
namespace LinkPress.Shortcut

open LinkPress.Document (expandLink outcomeOf)

-- A name in the list of some entry: what the table can be asked for.
def Table.Registers (table : Table) (name : String) : Prop := ∃ entry ∈ table.entries, name ∈ entry.names

-- No character of the name would end it in a target.
def Spellable (name : String) : Prop := ∀ c ∈ name.toList, c ≠ ':' ∧ c ≠ '(' ∧ c ≠ ')'

instance (name : String) : Decidable (Spellable name) := List.decidableBAll _ _

theorem lone_display (name : String) : (⟨name, none, none⟩ : Target).display = "@" ++ name := by
  apply String.toList_inj.mp
  simp [Target.display_chars, Target.displayOption, Target.displayText, Target.introducer]

theorem lone_well_formed_iff (name : String) :
    Target.WellFormed ⟨name, none, none⟩ ↔ name ≠ "" ∧ Spellable name := by
  constructor
  · exact fun valid => ⟨valid.name_nonempty, valid.name_plain⟩
  · rintro ⟨nonempty, spellable⟩
    exact ⟨nonempty, spellable, by simp, by simp⟩

theorem lone_parsed_iff (name : String) (nonempty : name ≠ "") :
    Target.parse ("@" ++ name) = .shortcut ⟨name, none, none⟩ ↔ Spellable name := by
  rw [Target.parse_shortcut_iff, lone_display, lone_well_formed_iff]
  simp [nonempty]

theorem parsed_spellable (s : String) (target : Target) (parsed : Target.parse s = .shortcut target) :
    Spellable target.name :=
  (Target.parse_spelling s target parsed).1.name_plain

namespace Template

theorem registers_iff (templates : List Template) (name : String) :
    Table.Registers ⟨templates.map entry⟩ name ↔ ∃ template ∈ templates, template.GoesBy name := by
  simp only [Table.Registers, List.mem_map, ← lookup_names_iff, List.contains_iff_mem]
  constructor
  · rintro ⟨_, ⟨template, member, rfl⟩, listed⟩
    exact ⟨template, member, listed⟩
  · rintro ⟨template, member, listed⟩
    exact ⟨template.entry, ⟨template, member, rfl⟩, listed⟩

-- A link with the bare name for its target and one text for its label.
theorem lone_link_resolved (table : Table) (name : String) (nonempty : name ≠ "") (spellable : Spellable name)
    (text : String) :
    expandLink table ("@" ++ name) [.leaf (.text text)] = outcomeOf (table.resolve name none text) := by
  simp [expandLink, (lone_parsed_iff name nonempty).mpr spellable, Document.labelText, Document.Node.plainText?]

-- A registered name is asked for by some target just if it is spellable, and then a link with the bare
-- name gets the answer of the first template that goes by it.
theorem aliases_reached_iff (templates : List Template) (table : Table) (made : Template.table templates = .ok table)
    (name : String) (registered : table.Registers name) :
    (Target.parse ("@" ++ name) = .shortcut ⟨name, none, none⟩ ↔ Spellable name) ∧
      ((∃ s target, Target.parse s = .shortcut target ∧ target.name = name) ↔ Spellable name) ∧
      ∃ front template back, templates = front ++ template :: back ∧ (∀ earlier ∈ front, ¬ earlier.GoesBy name) ∧
        template.GoesBy name ∧ (Spellable name → ∀ text,
          expandLink table ("@" ++ name) [.leaf (.text text)] = outcomeOf (template.expand none text)) := by
  obtain ⟨-, rfl⟩ := (table_ok_iff templates table).mp made
  obtain ⟨known, member, knownBy⟩ := (registers_iff templates name).mp registered
  have parsed := lone_parsed_iff name knownBy.1
  refine ⟨parsed, ?_, ?_⟩
  · constructor
    · rintro ⟨s, target, read, rfl⟩
      exact parsed_spellable s target read
    · exact fun spellable => ⟨_, _, parsed.mpr spellable, rfl⟩
  · rcases first_going templates name with passed | ⟨front, template, back, split, passed, own⟩
    · exact absurd knownBy (passed known member)
    · refine ⟨front, template, back, split, passed, own, ?_⟩
      intro spellable text
      have found := get_first front back template name passed own
      rw [← split] at found
      rw [lone_link_resolved _ name own.1 spellable text, Table.resolve, found]

end Template

def docTemplate (name : String) : Template := ⟨[name], "https://doc.example/\x7btext\x7d", none⟩

theorem doc_table (name : String) (nonblank : Text.trimmed name ≠ "") :
    Template.table [docTemplate name] = .ok ⟨[(docTemplate name).entry]⟩ := by
  have slots : (docTemplate name).slots = ["text".toList] := by cbv
  have checked : (docTemplate name).check = .ok () := by
    rw [Template.check_ok_iff, slots]
    exact ⟨⟨name, List.mem_singleton_self name, nonblank⟩, by decide⟩
  exact (Template.table_ok_iff _ _).mpr ⟨List.forall_mem_singleton.mpr checked, rfl⟩

theorem doc_registered (name : String) (nonblank : Text.trimmed name ≠ "") :
    Table.Registers ⟨[(docTemplate name).entry]⟩ (Text.trimmed name) :=
  (Template.registers_iff [docTemplate name] _).mpr
    ⟨_, List.mem_singleton_self _, nonblank, name, List.mem_singleton_self name, rfl⟩

theorem plus_alias_reached :
    Template.table [docTemplate " c++ "] = .ok ⟨[(docTemplate " c++ ").entry]⟩ ∧
      Table.Registers ⟨[(docTemplate " c++ ").entry]⟩ "c++" ∧ Target.parse "@c++" = .shortcut ⟨"c++", none, none⟩ := by
  have made := doc_table " c++ " (by decide)
  have registered : Table.Registers ⟨[(docTemplate " c++ ").entry]⟩ "c++" := doc_registered " c++ " (by decide)
  have reached := Template.aliases_reached_iff [docTemplate " c++ "] _ made "c++" registered
  exact ⟨made, registered, reached.1.mpr (by decide)⟩

-- A colon in a name: the template is accepted and registered by it, and a link with that target asks
-- for another name.
theorem colon_alias_unreached :
    Template.table [docTemplate "doc:std"] = .ok ⟨[(docTemplate "doc:std").entry]⟩ ∧
      Table.Registers ⟨[(docTemplate "doc:std").entry]⟩ "doc:std" ∧
      Target.parse "@doc:std" = .shortcut ⟨"doc", some "std", none⟩ ∧
      (∀ s target, Target.parse s = .shortcut target → target.name ≠ "doc:std") ∧
      expandLink ⟨[(docTemplate "doc:std").entry]⟩ "@doc:std" [.leaf (.text "vec")] =
        .failed [.unresolved "unknown shortcut name 'doc'"] := by
  refine ⟨doc_table "doc:std" (by decide), doc_registered "doc:std" (by decide), by decide, ?_, by rfl⟩
  intro s target read named
  have spellable := parsed_spellable s target read
  rw [named] at spellable
  revert spellable
  decide

end LinkPress.Shortcut
