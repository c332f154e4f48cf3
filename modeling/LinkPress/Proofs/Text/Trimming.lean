import LinkPress.Text.Blank
import Mathlib.Data.List.Basic
import Mathlib.Data.List.TakeWhile

set_option autoImplicit false

/- What dropping from the front of a text leaves, and texts without a blank at either end. Trimming makes
   such a text and changes it no more, and anything between two of them is one again. Blanks around a
   text are no part of it. -/
namespace LinkPress.Text

theorem dropped_front (drops : Char → Bool) (text : List Char) : ∀ c ∈ (text.dropWhile drops).head?, drops c = false := by
  intro c first
  have kept := List.head?_dropWhile_not drops text
  rw [Option.mem_def] at first
  rw [first] at kept
  exact kept

theorem dropped_same (drops : Char → Bool) (text : List Char) (front : ∀ c ∈ text.head?, drops c = false) :
    text.dropWhile drops = text := by
  cases text with
  | nil => rfl
  | cons c rest =>
      rw [List.dropWhile_cons, front c rfl]
      rfl

theorem front_unmarked_iff (mark : Char) (text : List Char) :
    (∀ c ∈ text.head?, (c == mark) = false) ↔ text.head? ≠ some mark := by
  constructor
  · intro front first
    have other := front mark first
    simp at other
  · intro front c first
    rw [beq_eq_false_iff_ne]
    rintro rfl
    exact front first

theorem trim_end_start (text : List Char) : trimEnd text = (trimStart text.reverse).reverse := rfl

theorem trim_nil_iff (text : List Char) : trim text = [] ↔ ∀ c ∈ text, isBlank c = true := by
  rw [trim, trimEnd, trimStart, List.reverse_eq_nil_iff, List.dropWhile_eq_nil_iff]
  constructor
  · intro blank
    apply List.dropWhile_eq_nil_iff.mp
    cases left : text.dropWhile isBlank with
    | nil => rfl
    | cons c rest =>
        have kept := dropped_front isBlank text c (by rw [left]; rfl)
        have blanks := blank c (by rw [left]; exact List.mem_reverse.mpr List.mem_cons_self)
        rw [kept] at blanks
        cases blanks
  · intro blank
    rw [List.dropWhile_eq_nil_iff.mpr blank]
    exact List.forall_mem_nil _

theorem trim_end_behind (text after : List Char) (back : ∀ c ∈ after, isBlank c = true) :
    trimEnd (text ++ after) = trimEnd text := by
  have blanks : ∀ c ∈ after.reverse, isBlank c = true := fun c member => back c (List.mem_reverse.mp member)
  rw [trimEnd, List.reverse_append, List.dropWhile_append_of_pos blanks, trimEnd]

theorem trim_around (before text after : List Char) (front : ∀ c ∈ before, isBlank c = true)
    (back : ∀ c ∈ after, isBlank c = true) : trim (before ++ text ++ after) = trim text := by
  rw [trim, trim, trimStart, List.append_assoc, List.dropWhile_append_of_pos front, List.dropWhile_append]
  by_cases gone : (text.dropWhile isBlank).isEmpty = true
  · rw [if_pos gone, List.dropWhile_eq_nil_iff.mpr back, trimStart, List.isEmpty_iff.mp gone]
  · rw [if_neg gone, trim_end_behind _ after back, trimStart]

structure Trimmed (text : List Char) : Prop where
  front : ∀ c ∈ text.head?, isBlank c = false
  back : ∀ c ∈ text.getLast?, isBlank c = false

theorem trim_end_front (text : List Char) (front : ∀ c ∈ text.head?, isBlank c = false) :
    ∀ c ∈ (trimEnd text).head?, isBlank c = false := by
  intro c first
  have start : trimEnd text <+: text := by
    rw [trim_end_start, ← List.reverse_suffix, List.reverse_reverse]
    exact List.dropWhile_suffix isBlank
  obtain ⟨rest, kept⟩ := List.head?_eq_some_iff.mp first
  obtain ⟨blanks, whole⟩ := start
  refine front c ?_
  rw [← whole, kept]
  rfl

theorem trim_trimmed (text : List Char) : Trimmed (trim text) where
  front := trim_end_front _ (dropped_front isBlank text)
  back := by
    rw [trim, trim_end_start, List.getLast?_reverse]
    exact dropped_front isBlank _

theorem Trimmed.same {text : List Char} (whole : Trimmed text) : trim text = text := by
  have back : ∀ c ∈ text.reverse.head?, isBlank c = false := by
    rw [List.head?_reverse]
    exact whole.back
  rw [trim, trimStart, dropped_same _ text whole.front, trim_end_start, trimStart, dropped_same _ _ back,
    List.reverse_reverse]

theorem trimmed_iff (text : List Char) : Trimmed text ↔ trim text = text := by
  constructor
  · exact Trimmed.same
  · intro same
    rw [← same]
    exact trim_trimmed text

theorem Trimmed.around {left right : List Char} (first : Trimmed left) (middle : List Char) (last : Trimmed right)
    (begun : left ≠ []) (ended : right ≠ []) : Trimmed (left ++ middle ++ right) where
  front := by
    rw [List.append_assoc, List.head?_append_of_ne_nil _ begun]
    exact first.front
  back := by
    rw [List.getLast?_append_of_ne_nil _ ended]
    exact last.back

theorem argument_trimmed_same (text : String) (whole : Trimmed text.toList) (filled : text.toList ≠ []) :
    argument? text = some text := by
  have nonblank : trim text.toList ≠ [] := by
    rw [whole.same]
    exact filled
  rw [argument_nonblank text nonblank, trimmed, whole.same, String.ofList_toList]

def Blank (text : String) : Prop := ∀ c ∈ text.toList, isBlank c = true

instance (text : String) : Decidable (Blank text) :=
  decidable_of_iff (text.toList.all isBlank = true) List.all_eq_true

theorem blank_argument (text : String) (blank : Blank text) : argument? text = none :=
  argument_blank text ((trim_nil_iff _).mpr blank)

theorem argument_around (before text after : String) (front : Blank before) (back : Blank after) :
    argument? (before ++ text ++ after) = argument? text := by
  have same : trimmed (before ++ text ++ after) = trimmed text := by
    rw [trimmed, String.toList_append, String.toList_append, trim_around _ _ _ front back, trimmed]
  rw [argument?, same, argument?]

end LinkPress.Text
