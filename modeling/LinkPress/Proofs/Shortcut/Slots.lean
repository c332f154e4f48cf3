import LinkPress.Shortcut.Template

set_option autoImplicit false

/- An address with slots is cut at the slots, leftmost first. Checking a template, asking whether it
   needs an option and filling it in all go by that one cut, and what is filled in is not cut again. -/
namespace LinkPress.Shortcut

-- Braces around a run without braces, at the head of a text.
def SlotAhead (s : List Char) : Prop :=
  ∃ name after, (∀ c ∈ name, c ≠ '{' ∧ c ≠ '}') ∧ s = '{' :: (name ++ '}' :: after)

-- No slot begins within the text when it goes on with `after`.
def SlotFree (text after : List Char) : Prop :=
  ∀ front back, text = front ++ back → back ≠ [] → ¬ SlotAhead (back ++ after)

-- A slot with the text between it and the slot in front of it.
structure Slot where
  literal : List Char
  name : List Char
deriving DecidableEq

-- The slots of an address, and the text behind the last of them.
inductive Cut : List Char → List Slot → List Char → Prop where
  | last (text : List Char) (free : SlotFree text []) : Cut text [] text
  | slot (literal name after : List Char) (slots : List Slot) (last : List Char)
      (free : SlotFree literal ('{' :: (name ++ '}' :: after))) (plain : ∀ c ∈ name, c ≠ '{' ∧ c ≠ '}')
      (more : Cut after slots last) :
      Cut (literal ++ '{' :: (name ++ '}' :: after)) (⟨literal, name⟩ :: slots) last

theorem not_brace_iff (c : Char) : notBrace c = true ↔ c ≠ '{' ∧ c ≠ '}' := by simp [notBrace]

theorem slot_free_nil (after : List Char) : SlotFree [] after := by
  intro front back whole some
  exact absurd (List.append_eq_nil_iff.mp whole.symm).2 some

theorem slot_free_cons (c : Char) (text after : List Char) :
    SlotFree (c :: text) after ↔ ¬ SlotAhead (c :: (text ++ after)) ∧ SlotFree text after := by
  constructor
  · intro free
    exact ⟨free [] (c :: text) rfl (List.cons_ne_nil c text), fun front back whole =>
      free (c :: front) back (by rw [whole, List.cons_append])⟩
  · rintro ⟨first, free⟩ front back whole some
    cases front with
    | nil => rwa [← show c :: text = back from whole]
    | cons d front => exact free front back (List.cons.inj whole).2 some

theorem run_of_name (name after : List Char) (plain : ∀ c ∈ name, c ≠ '{' ∧ c ≠ '}') :
    (name ++ '}' :: after).takeWhile notBrace = name ∧ (name ++ '}' :: after).dropWhile notBrace = '}' :: after := by
  have inside : ∀ c ∈ name, notBrace c = true := fun c member => (not_brace_iff c).mpr (plain c member)
  rw [List.takeWhile_append_of_pos inside, List.dropWhile_append_of_pos inside]
  exact ⟨by simp [notBrace], rfl⟩

theorem slot_ahead_iff (c : Char) (rest : List Char) :
    SlotAhead (c :: rest) ↔ c = '{' ∧ ∃ after, rest.dropWhile notBrace = '}' :: after := by
  constructor
  · rintro ⟨name, after, plain, same⟩
    obtain ⟨rfl, rfl⟩ := List.cons.inj same
    exact ⟨rfl, after, (run_of_name name after plain).2⟩
  · rintro ⟨rfl, after, run⟩
    refine ⟨rest.takeWhile notBrace, after, ?_, ?_⟩
    · intro d member
      exact (not_brace_iff d).mp (List.all_eq_true.mp List.all_takeWhile d member)
    · rw [← run, List.takeWhile_append_dropWhile]

theorem pieces_slot (name after : List Char) (plain : ∀ c ∈ name, c ≠ '{' ∧ c ≠ '}') :
    pieces ('{' :: (name ++ '}' :: after)) = .slot name :: pieces after := by
  obtain ⟨taken, run⟩ := run_of_name name after plain
  rw [pieces, if_pos rfl]
  split
  · next other same =>
    rw [run] at same
    rw [taken, (List.cons.inj same).2]
  · next other => exact absurd run (other after)

theorem pieces_char (c : Char) (rest : List Char) (none : ¬ SlotAhead (c :: rest)) :
    pieces (c :: rest) = .char c :: pieces rest := by
  rw [slot_ahead_iff] at none
  rw [pieces]
  by_cases opening : c = '{'
  · rw [if_pos opening]
    split
    · next after run => exact absurd ⟨opening, after, run⟩ none
    · rfl
  · rw [if_neg opening]

theorem pieces_literal (literal after : List Char) (free : SlotFree literal after) :
    pieces (literal ++ after) = literal.map .char ++ pieces after := by
  induction literal with
  | nil => rfl
  | cons c rest ih =>
      obtain ⟨first, free⟩ := (slot_free_cons c rest after).mp free
      rw [List.cons_append, pieces_char c _ first, ih free, List.map_cons, List.cons_append]

def Slot.pieces (slot : Slot) : List Piece := slot.literal.map .char ++ [.slot slot.name]

theorem cut_pieces (s : List Char) (slots : List Slot) (last : List Char) (cut : Cut s slots last) :
    pieces s = slots.flatMap Slot.pieces ++ last.map .char := by
  induction cut with
  | last text free =>
      have whole := pieces_literal text [] free
      rw [List.append_nil] at whole
      rw [whole, pieces, List.append_nil]
      rfl
  | slot literal name after slots last free plain more ih =>
      rw [pieces_literal _ _ free, pieces_slot name after plain, ih]
      simp [Slot.pieces]

-- The slots among the pieces, each with the characters in front of it, and those behind the last one.
def gather : List Piece → List Slot × List Char
  | [] => ([], [])
  | .slot name :: rest => (⟨[], name⟩ :: (gather rest).1, (gather rest).2)
  | .char c :: rest =>
      match gather rest with
      | ([], last) => ([], c :: last)
      | (slot :: slots, last) => (⟨c :: slot.literal, slot.name⟩ :: slots, last)

theorem gather_last (last : List Char) : gather (last.map .char) = ([], last) := by
  induction last with
  | nil => rfl
  | cons c rest ih => rw [List.map_cons, gather, ih]

theorem gather_slot (slot : Slot) (rest : List Piece) :
    gather (slot.pieces ++ rest) = (slot :: (gather rest).1, (gather rest).2) := by
  obtain ⟨literal, name⟩ := slot
  induction literal with
  | nil => rfl
  | cons c literal ih =>
      have shorter : gather ((⟨literal, name⟩ : Slot).pieces ++ rest) = _ := ih
      rw [Slot.pieces, List.map_cons, List.cons_append, List.cons_append, gather]
      rw [Slot.pieces] at shorter
      rw [shorter]

theorem gather_pieces (slots : List Slot) (last : List Char) :
    gather (slots.flatMap Slot.pieces ++ last.map .char) = (slots, last) := by
  induction slots with
  | nil => exact gather_last last
  | cons slot slots ih => rw [List.flatMap_cons, List.append_assoc, gather_slot, ih]

-- A character where no slot begins goes to the first part of the cut behind it.
theorem cut_char (c : Char) (s : List Char) (pieces : List Piece) (none : ¬ SlotAhead (c :: s))
    (cut : Cut s (gather pieces).1 (gather pieces).2) :
    Cut (c :: s) (gather (.char c :: pieces)).1 (gather (.char c :: pieces)).2 := by
  rw [gather]
  generalize gather pieces = parts at cut
  obtain ⟨slots, last⟩ := parts
  cases cut with
  | last _ free =>
      refine .last _ ((slot_free_cons c _ []).mpr ⟨?_, free⟩)
      rwa [List.append_nil]
  | slot literal name after slots last free plain more =>
      exact .slot (c :: literal) name after slots last ((slot_free_cons c literal _).mpr ⟨none, free⟩) plain more

-- Along the recursion of `pieces`: a slot begins a cut of its own.
theorem cut_gathered (s : List Char) : Cut s (gather (pieces s)).1 (gather (pieces s)).2 := by
  induction s using pieces.induct with
  | case1 =>
      rw [pieces]
      exact .last [] (slot_free_nil [])
  | case2 rest after run ih =>
      obtain ⟨name, behind, plain, same⟩ := (slot_ahead_iff '{' rest).mpr ⟨rfl, after, run⟩
      obtain rfl := (List.cons.inj same).2
      obtain rfl := (List.cons.inj ((run_of_name name behind plain).2.symm.trans run)).2
      rw [pieces_slot name behind plain, gather]
      exact .slot [] name behind _ _ (slot_free_nil _) plain ih
  | case3 rest other ih =>
      have none : ¬ SlotAhead ('{' :: rest) := by
        intro ahead
        obtain ⟨-, after, run⟩ := (slot_ahead_iff _ _).mp ahead
        exact other after run
      rw [pieces_char _ rest none]
      exact cut_char _ rest _ none ih
  | case4 c rest other ih =>
      have none : ¬ SlotAhead (c :: rest) := fun ahead => other ((slot_ahead_iff c rest).mp ahead).1
      rw [pieces_char c rest none]
      exact cut_char c rest _ none ih

theorem cut_exists (s : List Char) : ∃ slots last, Cut s slots last := ⟨_, _, cut_gathered s⟩

theorem cut_only {s : List Char} {slots : List Slot} {last : List Char} (cut : Cut s slots last)
    (others : List Slot) (behind : List Char) : Cut s others behind ↔ others = slots ∧ behind = last := by
  constructor
  · intro other
    have same := congrArg gather ((cut_pieces s others behind other).symm.trans (cut_pieces s slots last cut))
    rwa [gather_pieces, gather_pieces, Prod.mk.injEq] at same
  · rintro ⟨rfl, rfl⟩
    exact cut

end LinkPress.Shortcut
