set_option autoImplicit false

/- A text as rows, each with the line end behind it. Writing the rows one after the other gives the
   text back. -/
namespace LinkPress.Text

structure Row where
  content : List Char
  /-- A line feed, alone or behind a carriage return; nothing where the text ends without one. -/
  ending : List Char
deriving DecidableEq

def Row.text (row : Row) : List Char := row.content ++ row.ending

def rows : List Char → List Row
  | [] => []
  | '\n' :: rest => ⟨[], ['\n']⟩ :: rows rest
  | '\r' :: '\n' :: rest => ⟨[], ['\r', '\n']⟩ :: rows rest
  | c :: rest =>
      match rows rest with
      | [] => [⟨[c], []⟩]
      | row :: more => ⟨c :: row.content, row.ending⟩ :: more

def textOf (rows : List Row) : List Char := rows.flatMap Row.text

-- The character in front of the rest is no line end, nor the begin of one.
structure Inside (c : Char) (rest : List Char) : Prop where
  feed : c ≠ '\n'
  both : c = '\r' → rest.head? ≠ some '\n'

-- A text by what it begins with: a line end of either kind, or a character of a row.
theorem text_induction {motive : List Char → Prop} (text : List Char) (nil : motive [])
    (feed : ∀ rest, motive rest → motive ('\n' :: rest))
    (both : ∀ rest, motive ('\n' :: rest) → motive ('\r' :: '\n' :: rest))
    (inside : ∀ c rest, Inside c rest → motive rest → motive (c :: rest)) : motive text := by
  induction text with
  | nil => exact nil
  | cons c rest ih =>
      by_cases isFeed : c = '\n'
      · exact isFeed ▸ feed rest ih
      · by_cases isBoth : c = '\r' ∧ rest.head? = some '\n'
        · obtain ⟨rfl, next⟩ := isBoth
          obtain ⟨more, rfl⟩ := List.head?_eq_some_iff.mp next
          exact both more ih
        · exact inside c rest ⟨isFeed, fun carriage next => isBoth ⟨carriage, next⟩⟩ ih

theorem rows_feed (rest : List Char) : rows ('\n' :: rest) = ⟨[], ['\n']⟩ :: rows rest := by rw [rows]

theorem rows_both (rest : List Char) : rows ('\r' :: '\n' :: rest) = ⟨[], ['\r', '\n']⟩ :: rows rest := by rw [rows]

theorem rows_inside (c : Char) (rest : List Char) (inside : Inside c rest) :
    rows (c :: rest) =
      match rows rest with
      | [] => [⟨[c], []⟩]
      | row :: more => ⟨c :: row.content, row.ending⟩ :: more := by
  rw [rows]
  · exact inside.feed
  · rintro more carriage rfl
    exact inside.both carriage rfl

theorem text_of_cons (row : Row) (more : List Row) : textOf (row :: more) = row.text ++ textOf more := rfl

theorem text_of_rows (text : List Char) : textOf (rows text) = text := by
  induction text using text_induction with
  | nil => rfl
  | feed rest ih => rw [rows_feed, text_of_cons, ih]; rfl
  | both rest ih =>
      rw [rows_feed, text_of_cons] at ih
      have behind : textOf (rows rest) = rest := (List.cons.inj ih).2
      rw [rows_both, text_of_cons, behind]
      rfl
  | inside c rest inside ih =>
      rw [rows_inside c rest inside]
      cases cut : rows rest with
      | nil => rw [cut] at ih; rw [← ih]; rfl
      | cons row more => rw [cut] at ih; rw [← ih]; rfl

theorem rows_nil_iff (text : List Char) : rows text = [] ↔ text = [] := by
  constructor
  · intro none
    rw [← text_of_rows text, none]
    rfl
  · rintro rfl
    rfl

-- The text behind a row has the rows behind it.
theorem rows_behind (text : List Char) (row : Row) (more : List Row) (cut : rows text = row :: more) :
    rows (textOf more) = more := by
  induction text using text_induction generalizing row with
  | nil => cases cut
  | feed rest ih =>
      rw [rows_feed] at cut
      rw [← (List.cons.inj cut).2, text_of_rows]
  | both rest ih =>
      rw [rows_both] at cut
      rw [← (List.cons.inj cut).2, text_of_rows]
  | inside c rest inside ih =>
      rw [rows_inside c rest inside] at cut
      cases inner : rows rest with
      | nil =>
          rw [inner] at cut
          rw [← (List.cons.inj cut).2]
          rfl
      | cons first others =>
          rw [inner] at cut
          obtain rfl := (List.cons.inj cut).2
          exact ih first inner

inductive LineEnd where
  | feed
  | both
deriving DecidableEq

def LineEnd.chars : LineEnd → List Char
  | .feed => ['\n']
  | .both => ['\r', '\n']

theorem Inside.append (c : Char) (rest back : List Char) (inside : Inside c rest) (filled : rest ≠ []) :
    Inside c (rest ++ back) := by
  obtain ⟨second, more, rfl⟩ := List.exists_cons_of_ne_nil filled
  exact ⟨inside.feed, inside.both⟩

theorem unreturned_behind (c : Char) (rest : List Char) (unreturned : (c :: rest).getLast? ≠ some '\r') :
    rest.getLast? ≠ some '\r' := by
  cases rest with
  | nil => simp
  | cons second more => rwa [List.getLast?_cons_cons] at unreturned

theorem rows_end (ending : LineEnd) (back : List Char) :
    rows (ending.chars ++ back) = ⟨[], ending.chars⟩ :: rows back := by
  cases ending with
  | feed => exact rows_feed back
  | both => exact rows_both back

-- A line without a line end in it.
theorem rows_line (content : List Char) (ending : LineEnd) (back : List Char) (feedless : '\n' ∉ content)
    (returnless : '\r' ∉ content) : rows (content ++ (ending.chars ++ back)) = ⟨content, ending.chars⟩ :: rows back := by
  induction content with
  | nil => exact rows_end ending back
  | cons c rest ih =>
      rw [List.mem_cons, not_or] at feedless returnless
      have inside : Inside c (rest ++ (ending.chars ++ back)) :=
        ⟨Ne.symm feedless.1, fun carriage => absurd carriage.symm returnless.1⟩
      rw [List.cons_append, rows_inside c _ inside, ih feedless.2 returnless.2]

theorem rows_last (content : List Char) (filled : content ≠ []) (feedless : '\n' ∉ content)
    (returnless : '\r' ∉ content) : rows content = [⟨content, []⟩] := by
  induction content with
  | nil => exact absurd rfl filled
  | cons c rest ih =>
      rw [List.mem_cons, not_or] at feedless returnless
      have inside : Inside c rest := ⟨Ne.symm feedless.1, fun carriage => absurd carriage.symm returnless.1⟩
      rw [rows_inside c rest inside]
      by_cases empty : rest = []
      · subst empty
        rfl
      · rw [ih empty feedless.2 returnless.2]

-- With a line end behind the text its last row is closed, or the line end makes a row of its own.
def Closes (text : List Char) (ending : LineEnd) : Prop :=
  ∃ front content, (∀ back, rows (text ++ (ending.chars ++ back)) = front ++ ⟨content, ending.chars⟩ :: rows back) ∧
    (rows text = front ++ [⟨content, []⟩] ∨ content = [] ∧ rows text = front)

theorem closes_behind (start ending : LineEnd) (rest : List Char) (closes : Closes rest ending) :
    Closes (start.chars ++ rest) ending := by
  obtain ⟨front, content, closed, own⟩ := closes
  refine ⟨⟨[], start.chars⟩ :: front, content, ?_, ?_⟩
  · intro back
    rw [List.append_assoc, rows_end, closed, List.cons_append]
  · rw [rows_end]
    rcases own with lone | ⟨rfl, ended⟩
    · exact .inl (by rw [lone, List.cons_append])
    · exact .inr ⟨rfl, by rw [ended]⟩

theorem closes_inside (c : Char) (rest : List Char) (ending : LineEnd) (inside : Inside c rest) (filled : rest ≠ [])
    (closes : Closes rest ending) : Closes (c :: rest) ending := by
  obtain ⟨front, content, closed, own⟩ := closes
  have ahead (back : List Char) := rows_inside c (rest ++ (ending.chars ++ back)) (inside.append c rest _ filled)
  cases front with
  | nil =>
      refine ⟨[], c :: content, ?_, ?_⟩
      · intro back
        rw [List.cons_append, ahead, closed]
        rfl
      · rcases own with lone | ⟨-, none⟩
        · exact .inl (by rw [rows_inside c rest inside, lone]; rfl)
        · exact absurd ((rows_nil_iff rest).mp none) filled
  | cons first more =>
      refine ⟨⟨c :: first.content, first.ending⟩ :: more, content, ?_, ?_⟩
      · intro back
        rw [List.cons_append, ahead, closed]
        rfl
      · rw [rows_inside c rest inside]
        rcases own with lone | ⟨rfl, ended⟩
        · exact .inl (by rw [lone]; rfl)
        · exact .inr ⟨rfl, by rw [ended]⟩

theorem rows_closed (text : List Char) (ending : LineEnd) (unreturned : text.getLast? ≠ some '\r') :
    Closes text ending := by
  induction text using rows.induct with
  | case1 => exact ⟨[], [], rows_end ending, .inr ⟨rfl, rfl⟩⟩
  | case2 rest ih => exact closes_behind .feed ending rest (ih (unreturned_behind _ _ unreturned))
  | case3 rest ih =>
      exact closes_behind .both ending rest (ih (unreturned_behind _ _ (unreturned_behind _ _ unreturned)))
  | case4 c rest feed both none ih =>
      obtain rfl := (rows_nil_iff rest).mp none
      have returnless : '\r' ∉ [c] := by simpa [eq_comm] using unreturned
      have feedless : '\n' ∉ [c] := by simpa [eq_comm] using feed
      exact ⟨[], [c], fun back => rows_line [c] ending back feedless returnless,
        .inl (rows_last [c] (List.cons_ne_nil c []) feedless returnless)⟩
  | case5 c rest feed both row more cut ih =>
      have filled : rest ≠ [] := by
        rintro rfl
        cases cut
      refine closes_inside c rest ending ⟨feed, ?_⟩ filled (ih (unreturned_behind _ _ unreturned))
      intro carriage next
      obtain ⟨others, rfl⟩ := List.head?_eq_some_iff.mp next
      exact both others carriage rfl

end LinkPress.Text
