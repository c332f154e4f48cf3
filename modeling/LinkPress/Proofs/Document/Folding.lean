import LinkPress.Document.Tree
import Mathlib.Data.List.Chain

set_option autoImplicit false

/- Reading a sequence of events into a tree and writing the tree out again joins adjacent texts and
   changes nothing else, also where closings are missing, stray or do not match. -/
namespace LinkPress.Document

def Event.isText : Event → Bool
  | .text _ => true
  | _ => false

-- No text follows a text.
def TextsApart (events : List Event) : Prop :=
  events.IsChain fun before after => before.isText = true → after.isText = false

theorem merge_text_lone (first : String) (rest : List Event)
    (alone : ∀ second more, mergeText rest ≠ .text second :: more) :
    mergeText (.text first :: rest) = .text first :: mergeText rest := by
  rw [mergeText]
  split
  · rename_i second more merged
    exact absurd merged (alone second more)
  · rfl

theorem merge_text_plain (event : Event) (rest : List Event) (plain : ∀ text, event ≠ .text text) :
    mergeText (event :: rest) = event :: mergeText rest := by
  rw [mergeText]
  exact plain

theorem merge_text_apart (events : List Event) : TextsApart (mergeText events) := by
  induction events using mergeText.induct with
  | case1 => exact .nil
  | case2 first rest second more merged ih =>
      rw [merged, TextsApart, List.isChain_cons] at ih
      rw [mergeText, merged, TextsApart, List.isChain_cons]
      exact ih
  | case3 first rest alone ih =>
      rw [merge_text_lone first rest alone, TextsApart, List.isChain_cons]
      refine ⟨?_, ih⟩
      intro event next _
      cases event with
      | text second =>
          obtain ⟨more, merged⟩ := List.head?_eq_some_iff.mp next
          exact absurd merged (alone second more)
      | _ => rfl
  | case4 event rest plain ih =>
      rw [merge_text_plain event rest plain, TextsApart, List.isChain_cons]
      refine ⟨?_, ih⟩
      intro next _ isText
      cases event with
      | text text => exact absurd rfl (plain text)
      | _ => cases isText

theorem push_text_text (siblings : List Node) (first second : String) :
    push (push siblings (.leaf (.text first))) (.leaf (.text second)) =
      push siblings (.leaf (.text (first ++ second))) := by
  cases siblings with
  | nil => rfl
  | cons last more =>
      cases last with
      | element tag closing children => rfl
      | leaf event => cases event <;> simp [push, String.append_assoc]

theorem step_text_text (state : Folding) (first second : String) :
    (state.step (.text first)).step (.text second) = state.step (.text (first ++ second)) := by
  obtain ⟨root, frames⟩ := state
  cases frames with
  | nil => simp only [Folding.step, Folding.add, push_text_text]
  | cons frame outer => simp only [Folding.step, Folding.add, push_text_text]

theorem fold_merge_text (events : List Event) (state : Folding) :
    (mergeText events).foldl Folding.step state = events.foldl Folding.step state := by
  induction events using mergeText.induct generalizing state with
  | case1 => rfl
  | case2 first rest second more merged ih =>
      rw [mergeText, merged, List.foldl_cons, List.foldl_cons, ← ih, merged, List.foldl_cons, step_text_text]
  | case3 first rest alone ih => rw [merge_text_lone first rest alone, List.foldl_cons, List.foldl_cons, ih]
  | case4 event rest plain ih => rw [merge_text_plain event rest plain, List.foldl_cons, List.foldl_cons, ih]

theorem of_events_merge_text (events : List Event) : ofEvents (mergeText events) = ofEvents events := by
  rw [ofEvents, ofEvents, fold_merge_text]

theorem to_events_append (front back : List Node) :
    toEvents (front ++ back) = toEvents front ++ toEvents back := by
  induction front with
  | nil => rfl
  | cons node rest ih => rw [List.cons_append, toEvents, toEvents, ih, List.append_assoc]

theorem to_events_last (siblings : List Node) (node : Node) :
    toEvents (node :: siblings).reverse = toEvents siblings.reverse ++ node.toEvents := by
  simp [to_events_append, toEvents]

def Frame.events (frame : Frame) : List Event := .start frame.tag :: toEvents frame.children.reverse

def framesEvents : List Frame → List Event
  | [] => []
  | frame :: outer => framesEvents outer ++ frame.events

-- What has been read so far, with adjacent texts joined.
def Folding.events (state : Folding) : List Event := toEvents state.root.reverse ++ framesEvents state.frames

-- The siblings that the next node goes to, last one first.
def Folding.current (state : Folding) : List Node :=
  match state.frames with
  | [] => state.root
  | frame :: _ => frame.children

-- The node is a text that joins the text before it.
def Joins (siblings : List Node) (node : Node) : Prop :=
  ∃ before after more, siblings = .leaf (.text before) :: more ∧ node = .leaf (.text after)

theorem push_apart (siblings : List Node) (node : Node) (apart : ¬ Joins siblings node) :
    push siblings node = node :: siblings := by
  cases siblings with
  | nil => rfl
  | cons last more =>
      rw [push]
      intro before others after same text
      exact apart ⟨before, after, others, same, text⟩

theorem element_apart (siblings : List Node) (tag : Tag) (closing : Option Closing) (children : List Node) :
    ¬ Joins siblings (.element tag closing children) := by
  rintro ⟨before, after, more, -, text⟩
  cases text

theorem add_events (state : Folding) (node : Node) (apart : ¬ Joins state.current node) :
    (state.add node).events = state.events ++ node.toEvents := by
  obtain ⟨root, frames⟩ := state
  cases frames with
  | nil =>
      simp only [Folding.current] at apart
      simp [Folding.add, Folding.events, framesEvents, push_apart _ _ apart, to_events_append, toEvents]
  | cons frame outer =>
      simp only [Folding.current] at apart
      simp [Folding.add, Folding.events, framesEvents, Frame.events, push_apart _ _ apart, to_events_append, toEvents]

-- Siblings that end with a text are the end of what has been read.
theorem current_text_last (state : Folding) (text : String) (more : List Node)
    (last : state.current = .leaf (.text text) :: more) : ∃ read, state.events = read ++ [.text text] := by
  obtain ⟨root, frames⟩ := state
  cases frames with
  | nil =>
      obtain rfl : root = .leaf (.text text) :: more := last
      exact ⟨toEvents more.reverse, by simp [Folding.events, framesEvents, to_events_append, toEvents, Node.toEvents]⟩
  | cons frame outer =>
      have children : frame.children = .leaf (.text text) :: more := last
      refine ⟨toEvents root.reverse ++ framesEvents outer ++ .start frame.tag :: toEvents more.reverse, ?_⟩
      simp [Folding.events, framesEvents, Frame.events, children, to_events_append, toEvents, Node.toEvents]

theorem leaf_apart (state : Folding) (event : Event) (apart : TextsApart (state.events ++ [event])) :
    ¬ Joins state.current (.leaf event) := by
  rintro ⟨before, after, more, siblings, leaf⟩
  obtain rfl := Node.leaf.inj leaf
  obtain ⟨read, events⟩ := current_text_last state before more siblings
  rw [events, TextsApart, List.isChain_append] at apart
  have plain := apart.2.2 (.text before) (by simp) (.text after) (by simp) rfl
  cases plain

theorem close_events (state : Folding) (closing : Closing) :
    (state.close closing).events = state.events ++ [.close closing] := by
  obtain ⟨root, frames⟩ := state
  cases frames with
  | nil => simp [Folding.close, Folding.events, framesEvents, to_events_append, toEvents, Node.toEvents]
  | cons frame outer =>
      rw [Folding.close, add_events _ _ (element_apart _ _ _ _)]
      simp [Folding.events, framesEvents, Frame.events, Node.toEvents, closeEvents]

theorem step_events (state : Folding) (event : Event) (apart : TextsApart (state.events ++ [event])) :
    (state.step event).events = state.events ++ [event] := by
  cases event with
  | start tag => simp [Folding.step, Folding.events, framesEvents, Frame.events, toEvents]
  | close closing => exact close_events state closing
  | _ => exact add_events state _ (leaf_apart state _ apart)

theorem fold_events (events : List Event) (state : Folding) (apart : TextsApart (state.events ++ events)) :
    (events.foldl Folding.step state).events = state.events ++ events := by
  induction events generalizing state with
  | nil => simp
  | cons event rest ih =>
      rw [List.append_cons] at apart ⊢
      have read := step_events state event (List.isChain_append.mp apart).1
      rw [List.foldl_cons, ih (state.step event) (by rwa [read]), read]

theorem finish_events (root : List Node) (frames : List Frame) :
    toEvents (Folding.finish root frames) = (Folding.mk root frames).events := by
  cases frames with
  | nil => simp [Folding.finish, Folding.events, framesEvents]
  | cons frame outer =>
      induction outer generalizing frame with
      | nil =>
          rw [Folding.finish, push_apart _ _ (element_apart _ _ _ _), to_events_last]
          simp [Folding.events, framesEvents, Frame.events, Node.toEvents, closeEvents]
      | cons next rest ih =>
          rw [Folding.finish, ih, push_apart _ _ (element_apart _ _ _ _)]
          simp [Folding.events, framesEvents, Frame.events, Node.toEvents, closeEvents, to_events_append, toEvents]

theorem to_events_of_events (events : List Event) : toEvents (ofEvents events) = mergeText events := by
  have apart : TextsApart (Folding.empty.events ++ mergeText events) := merge_text_apart events
  have read := fold_events (mergeText events) Folding.empty apart
  rw [← of_events_merge_text, ofEvents, finish_events]
  exact read

-- A document has no other content than the events it was read from.
theorem of_events_joins_texts (events : List Event) :
    toEvents (ofEvents events) = mergeText events ∧
      ∀ other, ofEvents events = ofEvents other ↔ mergeText events = mergeText other := by
  refine ⟨to_events_of_events events, fun other => ⟨?_, ?_⟩⟩
  · intro same
    rw [← to_events_of_events, same, to_events_of_events]
  · intro same
    rw [← of_events_merge_text, same, of_events_merge_text]

end LinkPress.Document
