import LinkPress.Document.Page
import LinkPress.Proofs.Document.Folding

set_option autoImplicit false

/- Adjacent texts can be joined before they are written. An empty text cannot: after it the writer
   takes the line as begun, whatever stands in front. -/
namespace LinkPress.Html

open LinkPress.Document (Event WriterOptions mergeText ofEvents)

theorem escape_body_append (first second : String) :
    escapeBody (first ++ second) = escapeBody first ++ escapeBody second := by
  simp [escapeBody, String.ofList_append]

theorem escape_attribute_append (first second : String) :
    escapeAttribute (first ++ second) = escapeAttribute first ++ escapeAttribute second := by
  simp [escapeAttribute, String.ofList_append]

namespace Writer

theorem ends_line_append (first second : String) (filled : second ≠ "") :
    endsLine (first ++ second) = endsLine second := by
  have some : second.toList ≠ [] := fun none => filled (String.toList_inj.mp none)
  rw [endsLine, endsLine, String.toList_append, List.getLast?_append_of_ne_nil _ some]

-- In a body the texts are escaped apart or together, and in an alternative text too; a hidden text
-- leaves no trace. The line ends where the last text ends.
theorem step_text_text (w : Writer) (first second : String) (filled : second ≠ "") :
    (w.step (.text first)).step (.text second) = w.step (.text (first ++ second)) := by
  have ended := ends_line_append first second filled
  cases inside : w.alternative with
  | some alternative =>
      simp only [step, inside, alternativeStep, put, escape_attribute_append, ended, String.append_assoc]
  | none =>
      cases hidden : w.hidden with
      | true => simp only [step, inside, bodyStep, hidden, if_true]
      | false =>
          simp only [step, inside, bodyStep, hidden, put, escape_body_append, ended, String.append_assoc,
            Bool.false_eq_true, if_false]

end Writer

def Filled (events : List Event) : Prop := ∀ event ∈ events, event ≠ .text ""

instance (events : List Event) : Decidable (Filled events) := List.decidableBAll _ _

theorem merge_text_filled (events : List Event) (filled : Filled events) : Filled (mergeText events) := by
  induction events using Document.mergeText.induct with
  | case1 => exact filled
  | case2 first rest second more merged ih =>
      rw [Filled, List.forall_mem_cons] at filled
      have later := ih filled.2
      rw [merged, Filled, List.forall_mem_cons] at later
      rw [mergeText, merged, Filled, List.forall_mem_cons]
      refine ⟨?_, later.2⟩
      intro empty
      have parts := String.append_eq_empty_iff.mp (Event.text.inj empty)
      exact later.1 (congrArg Event.text parts.2)
  | case3 first rest alone ih =>
      rw [Filled, List.forall_mem_cons] at filled
      rw [Document.merge_text_lone first rest alone, Filled, List.forall_mem_cons]
      exact ⟨filled.1, ih filled.2⟩
  | case4 event rest plain ih =>
      rw [Filled, List.forall_mem_cons] at filled
      rw [Document.merge_text_plain event rest plain, Filled, List.forall_mem_cons]
      exact ⟨filled.1, ih filled.2⟩

theorem fold_merge_text (events : List Event) (filled : Filled events) (w : Writer) :
    (mergeText events).foldl Writer.step w = events.foldl Writer.step w := by
  induction events using Document.mergeText.induct generalizing w with
  | case1 => rfl
  | case2 first rest second more merged ih =>
      rw [Filled, List.forall_mem_cons] at filled
      have some : second ≠ "" := by
        have later := merge_text_filled rest filled.2 (.text second) (by simp [merged])
        exact fun empty => later (congrArg Event.text empty)
      rw [mergeText, merged, List.foldl_cons, List.foldl_cons, ← ih filled.2, merged, List.foldl_cons,
        Writer.step_text_text w first second some]
  | case3 first rest alone ih =>
      rw [Filled, List.forall_mem_cons] at filled
      rw [Document.merge_text_lone first rest alone, List.foldl_cons, List.foldl_cons, ih filled.2]
  | case4 event rest plain ih =>
      rw [Filled, List.forall_mem_cons] at filled
      rw [Document.merge_text_plain event rest plain, List.foldl_cons, List.foldl_cons, ih filled.2]

theorem of_events_merge_text (events : List Event) (filled : Filled events) :
    ofEvents (mergeText events) = ofEvents events := by
  rw [ofEvents, ofEvents, fold_merge_text events filled]

end LinkPress.Html

namespace LinkPress.Document

open LinkPress.Html (Filled)

-- The way through a tree joins texts and changes nothing else, so the page is written as if the events
-- had gone to the writer at once.
theorem html_of_events_direct (options : WriterOptions) (plain : options.headingIds = false) (events : List Event)
    (filled : Filled events) : html options (ofEvents events) = Html.ofEvents events := by
  rw [html, plain, if_neg Bool.false_ne_true, to_events_of_events, Html.of_events_merge_text events filled]

-- Stray and missing closings, texts in pieces inside an alternative text, and a hidden text.
def raggedEvents : List Event :=
  [.close .paragraph, .text "a <", .text "b>\n", .start .paragraph, .start (.image ⟨.inline, "i.png", "t", ""⟩), .text "x\"",
    .start .emphasis, .text "&", .text "y", .close .strong, .close .image, .text "\n", .rule, .start (.metadata .yaml),
    .text "k", .text "v", .footnoteReference "n", .start .tableCell, .text "c"]

theorem ragged_events_direct :
    WriterOptions.headingIds ⟨false⟩ = false ∧ Filled raggedEvents ∧
      html ⟨false⟩ (ofEvents raggedEvents) = Html.ofEvents raggedEvents := by
  have filled : Filled raggedEvents := by decide
  exact ⟨rfl, filled, html_of_events_direct ⟨false⟩ rfl raggedEvents filled⟩

-- With an empty text the two ways can part.
example : html ⟨false⟩ (ofEvents [.text "a\n", .text "", .rule]) ≠ Html.ofEvents [.text "a\n", .text "", .rule] := by
  decide +kernel

end LinkPress.Document
