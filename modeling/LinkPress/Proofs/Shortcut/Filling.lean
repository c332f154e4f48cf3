import LinkPress.Proofs.Shortcut.Slots
import Mathlib.Data.List.Basic
import Mathlib.Logic.Basic

set_option autoImplicit false

/- What a template is filled in to. It is refused if it has no name to look up or a slot of some
   other kind, it needs an option if one of its slots does, and else it answers with its address. -/
namespace LinkPress.Shortcut

-- A slot filled in, behind its literal text. A slot of another kind stays as it is.
def Slot.filled (option text : String) (slot : Slot) : List Char :=
  slot.literal ++
    if slot.name = "text".toList then text.toList
    else if slot.name = "tag".toList then option.toList
    else '{' :: (slot.name ++ ['}'])

def Slot.Known (slot : Slot) : Prop := slot.name = "text".toList ∨ slot.name = "tag".toList

instance (slot : Slot) : Decidable slot.Known := inferInstanceAs (Decidable (_ ∨ _))

theorem literal_filled (option text : String) (literal : List Char) :
    (literal.map Piece.char).flatMap (Template.Piece.fill option.toList text.toList) = literal := by
  simp [List.flatMap_map, Template.Piece.fill]

theorem slot_pieces_filled (option text : String) (slot : Slot) (known : slot.Known) :
    slot.pieces.flatMap (Template.Piece.fill option.toList text.toList) = slot.filled option text := by
  rw [Slot.pieces, List.flatMap_append, literal_filled, Slot.filled, List.flatMap_singleton, Template.Piece.fill,
    Template.optionSlot]
  rcases known with same | same
  · rw [same, if_neg (by decide), if_pos rfl]
  · rw [same, if_pos rfl, if_neg (by decide), if_pos rfl]

theorem pieces_filled (option text : String) (slots : List Slot) (last : List Char)
    (known : ∀ slot ∈ slots, slot.Known) :
    (slots.flatMap Slot.pieces ++ last.map Piece.char).flatMap (Template.Piece.fill option.toList text.toList) =
      slots.flatMap (Slot.filled option text) ++ last := by
  have each : slots.flatMap (fun slot => slot.pieces.flatMap (Template.Piece.fill option.toList text.toList)) =
      slots.flatMap (Slot.filled option text) :=
    List.flatMap_congr fun slot member => slot_pieces_filled option text slot (known slot member)
  rw [List.flatMap_append, literal_filled, List.flatMap_assoc, each]

theorem slot_pieces_names (slots : List Slot) (last : List Char) :
    (slots.flatMap Slot.pieces ++ last.map Piece.char).filterMap Piece.slot? = slots.map Slot.name := by
  have literal (text : List Char) : (text.map Piece.char).filterMap Piece.slot? = [] := by
    simp [List.filterMap_map, Piece.slot?, Function.comp_def]
  induction slots with
  | nil => exact literal last
  | cons slot slots ih =>
      rw [List.flatMap_cons, List.append_assoc, List.filterMap_append, ih, Slot.pieces, List.filterMap_append, literal]
      rfl

namespace Template

-- The option written, trimmed, or the one of the template if nothing is written but blanks.
def chosen (template : Template) : Option String → Option String
  | some option => if Text.trimmed option = "" then template.defaultOption else some (Text.trimmed option)
  | none => template.defaultOption

theorem effective_chosen (template : Template) (option : Option String) :
    template.effectiveOption option = template.chosen option := by
  cases option with
  | none => rfl
  | some written =>
      rw [effectiveOption, Option.bind_some, Text.argument?, chosen]
      split <;> rfl

theorem lookup_names_iff_nonblank (template : Template) :
    template.lookupNames ≠ [] ↔ ∃ name ∈ template.names, Text.trimmed name ≠ "" := by
  simp [lookupNames, List.filter_eq_nil_iff]

theorem check_ok_iff (template : Template) :
    template.check = .ok () ↔
      (∃ name ∈ template.names, Text.trimmed name ≠ "") ∧ ∀ slot ∈ template.slots, isKnownSlot slot = true := by
  rw [check, ← lookup_names_iff_nonblank]
  cases names : template.lookupNames with
  | nil => simp
  | cons name more =>
      cases unknown : template.slots.find? fun slot => !isKnownSlot slot with
      | some slot =>
          have member := List.mem_of_find?_eq_some unknown
          have strange : isKnownSlot slot = false := by simpa using List.find?_some unknown
          have refused : ¬ ∀ slot ∈ template.slots, isKnownSlot slot = true := by
            intro known
            cases strange.symm.trans (known slot member)
          simp [refused]
      | none => simpa using unknown

-- A slot for an option, and nothing to put there.
def Wanting (template : Template) (slots : List Slot) (option : Option String) : Prop :=
  (∃ slot ∈ slots, slot.name = "tag".toList) ∧ template.chosen option = none

instance (template : Template) (slots : List Slot) (option : Option String) :
    Decidable (template.Wanting slots option) := inferInstanceAs (Decidable (_ ∧ _))

section

variable {template : Template} {slots : List Slot} {last : List Char} (cut : Cut template.url.toList slots last)
include cut

theorem wanting_iff (option : Option String) :
    (template.usesOption && (template.effectiveOption option).isNone) = true ↔ template.Wanting slots option := by
  rw [Bool.and_eq_true, Option.isNone_iff_eq_none, effective_chosen, Wanting, usesOption, Template.slots,
    cut_pieces _ slots last cut, slot_pieces_names]
  simp [optionSlot]

theorem check_cut_iff :
    template.check = .ok () ↔ (∃ name ∈ template.names, Text.trimmed name ≠ "") ∧ ∀ slot ∈ slots, slot.Known := by
  rw [check_ok_iff, Template.slots, cut_pieces _ slots last cut, slot_pieces_names, List.forall_mem_map]
  simp [isKnownSlot, Slot.Known, textSlot, optionSlot]

theorem fill_cut (known : ∀ slot ∈ slots, slot.Known) (option text : String) :
    template.fill option text = String.ofList (slots.flatMap (Slot.filled option text) ++ last) := by
  rw [fill, cut_pieces _ slots last cut, pieces_filled option text slots last known]

theorem expand_cut (known : ∀ slot ∈ slots, slot.Known) (option : Option String) (text : String) :
    (template.Wanting slots option → template.expand option text = .failure template.needsOption) ∧
      (¬ template.Wanting slots option → template.expand option text =
        .success (String.ofList (slots.flatMap (Slot.filled ((template.chosen option).getD "") text) ++ last))) := by
  rw [← wanting_iff cut option, expand]
  refine ⟨fun wanting => if_pos wanting, ?_⟩
  intro served
  rw [if_neg served, effective_chosen, fill_cut cut known]

end

-- An address has one cut, which settles whether the template is accepted, whether it fails for want of
-- an option, and what it is filled in to.
theorem expand_fills_slots (template : Template) :
    ∃ slots last, (∀ others behind, Cut template.url.toList others behind ↔ others = slots ∧ behind = last) ∧
      (template.check = .ok () ↔ (∃ name ∈ template.names, Text.trimmed name ≠ "") ∧ ∀ slot ∈ slots, slot.Known) ∧
      (template.check = .ok () → ∀ option text,
        ((∃ message, template.expand option text = .failure message) ↔ template.Wanting slots option) ∧
        (¬ template.Wanting slots option → template.expand option text =
          .success (String.ofList (slots.flatMap (Slot.filled ((template.chosen option).getD "") text) ++ last)))) := by
  obtain ⟨slots, last, cut⟩ := cut_exists template.url.toList
  refine ⟨slots, last, fun others behind => cut_only cut others behind, check_cut_iff cut, ?_⟩
  intro accepted option text
  obtain ⟨failing, succeeding⟩ := expand_cut cut ((check_cut_iff cut).mp accepted).2 option text
  refine ⟨⟨?_, fun wanting => ⟨_, failing wanting⟩⟩, succeeding⟩
  rintro ⟨message, failed⟩
  by_contra served
  cases (succeeding served).symm.trans failed

-- Braces around a slot and behind the last one are text, and so are those that are filled in.
def nestedTemplate : Template := ⟨["", " wiki "], "/\x7b\x7btag\x7d\x7d/\x7btext\x7d\x7b", none⟩

def nestedSlots : List Slot := [⟨"/\x7b".toList, "tag".toList⟩, ⟨"\x7d/".toList, "text".toList⟩]

theorem nested_cut : Cut nestedTemplate.url.toList nestedSlots ['{'] := by
  have whole : pieces nestedTemplate.url.toList = nestedSlots.flatMap Slot.pieces ++ ['{'].map Piece.char := by cbv
  have cut := cut_gathered nestedTemplate.url.toList
  rwa [whole, gather_pieces] at cut

theorem nested_braces_filled :
    nestedTemplate.check = .ok () ∧
      nestedTemplate.expand (some " \x7btext\x7d ") "$1\x7btag\x7d" = .success "/\x7b\x7btext\x7d\x7d/$1\x7btag\x7d\x7b" ∧
      ∃ message, nestedTemplate.expand (some " ") "x" = .failure message := by
  obtain ⟨slots, last, cut, checked, expanded⟩ := expand_fills_slots nestedTemplate
  obtain ⟨rfl, rfl⟩ := (cut _ _).mp nested_cut
  have accepted : nestedTemplate.check = .ok () := checked.mpr ⟨by decide, by decide⟩
  refine ⟨accepted, ?_, ?_⟩
  · rw [(expanded accepted _ _).2 (by decide)]
    decide
  · exact (expanded accepted _ _).1.mpr (by decide)

end Template
end LinkPress.Shortcut
