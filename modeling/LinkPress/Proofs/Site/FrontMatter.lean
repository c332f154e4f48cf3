import LinkPress.Proofs.Text.Rows
import LinkPress.Site.FrontMatter
import Mathlib

set_option autoImplicit false

/- Where the settings of a page begin and end, row by row. They begin behind a fence that is the first
   row and end at the next fence, unless that one is the second row: it is passed over. -/
namespace LinkPress.Site.FrontMatter

open LinkPress.Text (Row Inside rows textOf rows_feed rows_both rows_inside rows_nil_iff rows_behind text_of_rows
  text_of_cons text_induction)

-- Three hyphens and blanks.
def isFence (row : Row) : Bool :=
  match row.content with
  | '-' :: '-' :: '-' :: gaps => gaps.all isGap
  | _ => false

-- The rows in front of the first fence and those behind it.
def atFence? : List Row → Option (List Row × List Row)
  | [] => none
  | row :: rest =>
      if isFence row then some ([], rest)
      else (atFence? rest).map fun (inner, behind) => (row :: inner, behind)

-- The text of rows, without the line end of the last one.
def joined : List Row → List Char
  | [] => []
  | [last] => last.content
  | row :: second :: more => row.text ++ joined (second :: more)

-- The settings and the body, from the rows in front of a fence and those behind it.
def halves (cut : List Row × List Row) : List Char × List Char := (joined cut.1, textOf cut.2)

-- The body behind a fence at the head of a text.
def fence? (text : List Char) : Option (List Char) :=
  match afterHyphens? text with
  | some [] => some []
  | some rest => afterLine? rest
  | none => none

theorem closing_fence (text : List Char) : closing? text = (afterLine? text).bind fence? := by
  rw [closing?]
  cases afterLine? text with
  | none => rfl
  | some rest => rfl

theorem after_line_inside (c : Char) (rest : List Char) (inside : Inside c rest) : afterLine? (c :: rest) = none := by
  rw [afterLine?.eq_def]
  split
  · next more same =>
      obtain ⟨rfl, rfl⟩ := List.cons.inj same
      exact absurd rfl (inside.both rfl)
  · next more same => exact absurd (List.cons.inj same).1 inside.feed
  · rfl

theorem gaps_rows (text : List Char) :
    (match text.dropWhile isGap with
      | [] => some []
      | rest => afterLine? rest) =
      match rows text with
      | [] => some []
      | row :: more => if row.content.all isGap then some (textOf more) else none := by
  induction text using text_induction with
  | nil => rfl
  | feed rest ih => simp [rows_feed, isGap, afterLine?, text_of_rows]
  | both rest ih => simp [rows_both, isGap, afterLine?, text_of_rows]
  | inside c rest inside ih =>
      rw [rows_inside c rest inside]
      by_cases gap : isGap c = true
      · rw [List.dropWhile_cons_of_pos gap, ih]
        cases rows rest with
        | nil => simp [gap, textOf]
        | cons row more => simp [gap]
      · rw [List.dropWhile_cons_of_neg gap]
        dsimp only
        rw [after_line_inside c rest inside]
        cases rows rest with
        | nil => simp [gap]
        | cons row more => simp [gap]

theorem rows_head (text : List Char) (c : Char) (content : List Char) (ending : List Char) (more : List Row)
    (cut : rows text = ⟨c :: content, ending⟩ :: more) :
    ∃ rest, text = c :: rest ∧ Inside c rest ∧ (rows rest = ⟨content, ending⟩ :: more ∨ rest = [] ∧ content = []) := by
  cases text using text_induction with
  | nil => cases cut
  | feed rest ih => simp [rows_feed] at cut
  | both rest ih => simp [rows_both] at cut
  | inside first rest inside ih =>
      rw [rows_inside first rest inside] at cut
      cases behind : rows rest with
      | nil =>
          rw [behind] at cut
          simp only [List.cons.injEq, Row.mk.injEq] at cut
          obtain ⟨⟨⟨rfl, rfl⟩, rfl⟩, rfl⟩ := cut
          exact ⟨rest, rfl, inside, .inr ⟨(rows_nil_iff rest).mp behind, rfl⟩⟩
      | cons row others =>
          rw [behind] at cut
          simp only [List.cons.injEq, Row.mk.injEq] at cut
          obtain ⟨⟨⟨rfl, rfl⟩, rfl⟩, rfl⟩ := cut
          exact ⟨rest, rfl, inside, .inl behind⟩

theorem hyphen_inside (rest : List Char) : Inside '-' rest := ⟨by decide, fun same => absurd same (by decide)⟩

theorem rows_hyphen (rest : List Char) :
    rows ('-' :: rest) =
      match rows rest with
      | [] => [⟨['-'], []⟩]
      | row :: more => ⟨'-' :: row.content, row.ending⟩ :: more := rows_inside '-' rest (hyphen_inside rest)

theorem after_hyphens_none (text : List Char) (row : Row) (more : List Row) (cut : rows text = row :: more)
    (none : afterHyphens? text = none) : isFence row = false := by
  obtain ⟨content, ending⟩ := row
  rw [isFence]
  dsimp only
  split
  · next gaps =>
      obtain ⟨second, rfl, -, next⟩ := rows_head _ _ _ _ _ cut
      rcases next with cut | ⟨-, absent⟩
      · obtain ⟨third, rfl, -, next⟩ := rows_head _ _ _ _ _ cut
        rcases next with cut | ⟨-, absent⟩
        · obtain ⟨rest, rfl, -, -⟩ := rows_head _ _ _ _ _ cut
          cases none
        · cases absent
      · cases absent
  · rfl

theorem fence_rows (text : List Char) :
    fence? text =
      match rows text with
      | [] => none
      | row :: more => if isFence row then some (textOf more) else none := by
  cases hyphens : afterHyphens? text with
  | none =>
      rw [fence?, hyphens]
      cases cut : rows text with
      | nil => rfl
      | cons row more => simp [after_hyphens_none text row more cut hyphens]
  | some blank =>
      rw [afterHyphens?.eq_def] at hyphens
      split at hyphens
      · next rest =>
          have gaps := gaps_rows rest
          rw [fence?, afterHyphens?, rows_hyphen, rows_hyphen, rows_hyphen]
          cases cut : rows rest with
          | nil =>
              obtain rfl := (rows_nil_iff rest).mp cut
              rfl
          | cons row more =>
              rw [cut] at gaps
              have fenced : isFence ⟨'-' :: '-' :: '-' :: row.content, row.ending⟩ = row.content.all isGap := rfl
              dsimp only at gaps ⊢
              rw [fenced, ← gaps]
              cases rest.dropWhile isGap with
              | nil => rfl
              | cons c others => rfl
      · cases hyphens

theorem closing_inside (c : Char) (rest : List Char) (inside : Inside c rest) : closing? (c :: rest) = none := by
  rw [closing_fence, after_line_inside c rest inside]
  rfl

theorem at_fence_cons (row : Row) (more : List Row) :
    atFence? (row :: more) =
      if isFence row then some ([], more) else (atFence? more).map fun (inner, behind) => (row :: inner, behind) := rfl

-- The search for the end of the settings starts inside a row, so it cannot stop at that row. At a line
-- end it looks at the row behind.
theorem cut_rows (text : List Char) :
    cut? text =
      match rows text with
      | [] => none
      | first :: more => (atFence? more).map fun (inner, behind) => halves (first :: inner, behind) := by
  induction text using text_induction with
  | nil => rfl
  | feed rest ih =>
      have closed : closing? ('\n' :: rest) = fence? rest := closing_fence _
      rw [cut?, closed, fence_rows, rows_feed]
      cases cut : rows rest with
      | nil =>
          obtain rfl := (rows_nil_iff rest).mp cut
          rfl
      | cons row more =>
          rw [cut] at ih
          dsimp only at ih ⊢
          rw [at_fence_cons]
          by_cases fence : isFence row = true
          · rw [if_pos fence, if_pos fence]
            rfl
          · rw [if_neg fence, if_neg fence, ih]
            cases atFence? more <;> rfl
  | both rest ih =>
      have closed : closing? ('\r' :: '\n' :: rest) = fence? rest := closing_fence _
      rw [cut?, closed, fence_rows, rows_both]
      rw [rows_feed] at ih
      cases cut : rows rest with
      | nil =>
          obtain rfl := (rows_nil_iff rest).mp cut
          rfl
      | cons row more =>
          rw [cut] at ih
          dsimp only at ih ⊢
          rw [at_fence_cons] at ih ⊢
          by_cases fence : isFence row = true
          · rw [if_pos fence, if_pos fence]
            rfl
          · rw [if_neg fence] at ih ⊢
            rw [if_neg fence, ih]
            cases atFence? more <;> rfl
  | inside c rest inside ih =>
      rw [cut?, closing_inside c rest inside, rows_inside c rest inside, ih]
      cases cut : rows rest with
      | nil => rfl
      | cons row more =>
          dsimp only
          cases found : atFence? more with
          | none => rfl
          | some halves =>
              obtain ⟨inner, behind⟩ := halves
              cases inner <;> rfl

-- The first row opens the settings if it is a fence, and the second one always belongs to them.
theorem split_rows (text : List Char) :
    split? text =
      match rows text with
      | first :: second :: more =>
          if isFence first then (atFence? more).map fun (inner, behind) => halves (second :: inner, behind) else none
      | _ => none := by
  have opened : split? text = (fence? text).bind cut? := by
    rw [split?, fence?]
    cases afterHyphens? text with
    | none => rfl
    | some rest => cases rest <;> rfl
  rw [opened, fence_rows]
  cases cut : rows text with
  | nil => rfl
  | cons first rest =>
      have behind := rows_behind text first rest cut
      by_cases fence : isFence first = true
      · simp only [if_pos fence, Option.bind_some, cut_rows, behind]
        cases rest with
        | nil => rfl
        | cons second more => simp only [if_pos fence]
      · simp only [if_neg fence, Option.bind_none]
        cases rest with
        | nil => rfl
        | cons second more => simp only [if_neg fence]

-- The settings and the body of a text whose first row is a fence: what stands in front of the next
-- fence, and what stands behind it.
def fenced? (text : List Char) : Option (List Char × List Char) :=
  match rows text with
  | [] => none
  | first :: rest => if isFence first then (atFence? rest).map halves else none

def readFenced [Readers] (text : String) : Except String (FrontMatter × String) :=
  match fenced? text.toList with
  | none => .ok (default, text)
  | some (settings, body) => (ofChars settings).map fun found => (found, String.ofList body)

-- Nothing stands between the fence at the head and the next one.
def ClosedAtOnce (text : List Char) : Prop :=
  ∃ first second more, rows text = first :: second :: more ∧ isFence first = true ∧ isFence second = true

theorem fenced_split (text : List Char) (apart : ¬ ClosedAtOnce text) : split? text = fenced? text := by
  rw [split_rows, fenced?]
  cases cut : rows text with
  | nil => rfl
  | cons first rest =>
      cases rest with
      | nil => simp [atFence?]
      | cons second more =>
          by_cases fence : isFence first = true
          · have unfenced : ¬ isFence second = true := fun closes => apart ⟨first, second, more, cut, fence, closes⟩
            simp only [if_pos fence, at_fence_cons, if_neg unfenced, Option.map_map]
            rfl
          · simp only [if_neg fence]

theorem fence_filled (row : Row) (fence : isFence row = true) : 0 < row.text.length := by
  obtain ⟨content, ending⟩ := row
  cases content with
  | nil => cases fence
  | cons c more => simp [Row.text]

theorem at_fence_shorter (rows inner behind : List Row) (found : atFence? rows = some (inner, behind)) :
    (textOf behind).length < (textOf rows).length := by
  induction rows generalizing inner with
  | nil => cases found
  | cons row more ih =>
      rw [text_of_cons, List.length_append]
      rw [at_fence_cons] at found
      by_cases fence : isFence row = true
      · rw [if_pos fence] at found
        obtain ⟨-, rfl⟩ := Prod.mk.inj (Option.some.inj found)
        exact Nat.lt_add_of_pos_left (fence_filled row fence)
      · rw [if_neg fence, Option.map_eq_some_iff] at found
        obtain ⟨⟨before, after⟩, later, same⟩ := found
        obtain ⟨-, rfl⟩ := Prod.mk.inj same
        exact Nat.lt_add_left _ (ih before later)

-- What is taken for the body is never the text behind the second row: it starts behind a later fence,
-- or it is the whole text.
theorem closed_at_once_differs [Readers] (text : String) (closed : ClosedAtOnce text.toList) :
    read text ≠ readFenced text := by
  obtain ⟨first, second, more, cut, opens, closes⟩ := closed
  have body : readFenced text = .ok (default, String.ofList (textOf more)) := by
    have found : fenced? text.toList = some ([], textOf more) := by
      simp only [fenced?, cut, at_fence_cons, if_pos opens, if_pos closes]
      rfl
    rw [readFenced, found]
    rfl
  have whole : text.toList = first.text ++ (second.text ++ textOf more) := by
    rw [← text_of_rows text.toList, cut, text_of_cons, text_of_cons]
  rw [body, read, split_rows, cut]
  simp only [if_pos opens]
  cases found : atFence? more with
  | none =>
      intro same
      have equal := congrArg (fun pair => pair.2.toList.length) (Except.ok.inj same)
      have filled := fence_filled second closes
      simp only [String.toList_ofList, whole, List.length_append] at equal
      omega
  | some halved =>
      obtain ⟨inner, behind⟩ := halved
      intro same
      simp only [Option.map_some, halves] at same
      cases settings : ofChars (joined (second :: inner)) with
      | error complaint =>
          rw [settings] at same
          cases same
      | ok front =>
          rw [settings] at same
          have bodies := String.ofList_inj.mp (Prod.mk.inj (Except.ok.inj same)).2
          have shorter := at_fence_shorter more inner behind found
          rw [bodies] at shorter
          exact Nat.lt_irrefl _ shorter

theorem front_matter_fenced_iff [Readers] (text : String) :
    read text = readFenced text ↔ ¬ ClosedAtOnce text.toList := by
  constructor
  · exact fun same closed => closed_at_once_differs text closed same
  · intro apart
    have split := fenced_split text.toList apart
    rw [read, readFenced]
    cases found : fenced? text.toList with
    | none => rw [split, found]
    | some cut => rw [split, found]

-- An empty block is no block, and with a third fence its body is taken for the settings.
theorem empty_block_missed :
    read "---\n---\nBody" = .ok (default, "---\n---\nBody") ∧
      readFenced "---\n---\nBody" = .ok (default, "Body") ∧
      read "---\n---\ntitle: T\n---\nBody" = .ok (⟨some "T", none, false, true⟩, "Body") ∧
      readFenced "---\n---\ntitle: T\n---\nBody" = .ok (default, "title: T\n---\nBody") := by
  refine ⟨?_, ?_, ?_, ?_⟩ <;> cbv

end LinkPress.Site.FrontMatter
