set_option autoImplicit false

/- How long a text is in bytes, and cutting it at a separator character. Pieces without the separator
   are read back from the text that joins them with it. -/
namespace LinkPress.Text

def byteCount (text : List Char) : Nat := text.foldl (fun n c => n + c.utf8Size) 0

/-- The pieces between separators; `n` separators make `n + 1` pieces. -/
def split (sep : Char) : List Char → List (List Char)
  | [] => [[]]
  | c :: rest =>
      if c = sep then [] :: split sep rest
      else
        match split sep rest with
        | [] => [[c]]
        | piece :: pieces => (c :: piece) :: pieces

def join (sep : List Char) : List (List Char) → List Char
  | [] => []
  | [piece] => piece
  | piece :: pieces => piece ++ sep ++ join sep pieces

def parts (sep : Char) (text : List Char) : List (List Char) :=
  (split sep text).filter fun piece => !piece.isEmpty

def lines (text : List Char) : List (List Char) := split '\n' text

theorem split_ne_nil (sep : Char) (text : List Char) : split sep text ≠ [] := by
  cases text with
  | nil => simp [split]
  | cons c rest =>
      simp only [split]
      split
      · simp
      · split <;> simp

theorem split_plain (sep : Char) (text : List Char) (plain : sep ∉ text) : split sep text = [text] := by
  induction text with
  | nil => rfl
  | cons c rest ih =>
      rw [List.mem_cons, not_or] at plain
      rw [split, if_neg (Ne.symm plain.1), ih plain.2]

theorem split_at (sep : Char) (left right : List Char) :
    split sep (left ++ sep :: right) = split sep left ++ split sep right := by
  induction left with
  | nil => simp [split]
  | cons c rest ih =>
      rw [List.cons_append, split, split, ih]
      by_cases same : c = sep
      · rw [if_pos same, if_pos same, List.cons_append]
      · rw [if_neg same, if_neg same]
        cases pieces : split sep rest with
        | nil => exact absurd pieces (split_ne_nil sep rest)
        | cons piece more => rfl

theorem mem_split (sep : Char) (text piece : List Char) (member : piece ∈ split sep text) : sep ∉ piece := by
  induction text generalizing piece with
  | nil =>
      rw [split, List.mem_singleton] at member
      simp [member]
  | cons c rest ih =>
      rw [split] at member
      by_cases same : c = sep
      · rw [if_pos same, List.mem_cons] at member
        rcases member with rfl | later
        · exact List.not_mem_nil
        · exact ih piece later
      · rw [if_neg same] at member
        cases pieces : split sep rest with
        | nil => exact absurd pieces (split_ne_nil sep rest)
        | cons first more =>
            rw [pieces] at member ih
            rcases List.mem_cons.mp member with rfl | later
            · rw [List.mem_cons, not_or]
              exact ⟨Ne.symm same, ih first List.mem_cons_self⟩
            · exact ih piece (List.mem_cons_of_mem first later)

theorem mem_parts (sep : Char) (text piece : List Char) (member : piece ∈ parts sep text) :
    piece ≠ [] ∧ sep ∉ piece := by
  obtain ⟨inSplit, some⟩ := List.mem_filter.mp member
  exact ⟨by simpa using some, mem_split sep text piece inSplit⟩

theorem split_join (sep : Char) (pieces : List (List Char)) (some : pieces ≠ [])
    (plain : ∀ piece ∈ pieces, sep ∉ piece) : split sep (join [sep] pieces) = pieces := by
  induction pieces with
  | nil => exact absurd rfl some
  | cons piece rest ih =>
      have first := split_plain sep piece (plain piece List.mem_cons_self)
      cases rest with
      | nil => exact first
      | cons second more =>
          have others := ih (List.cons_ne_nil second more) fun other member =>
            plain other (List.mem_cons_of_mem piece member)
          rw [join, List.append_assoc, List.singleton_append, split_at, first, others]
          · rfl
          · exact List.cons_ne_nil second more

theorem mem_join (sep : Char) (pieces : List (List Char)) (c : Char) (member : c ∈ join [sep] pieces) :
    c = sep ∨ ∃ piece ∈ pieces, c ∈ piece := by
  induction pieces with
  | nil => simp [join] at member
  | cons piece rest ih =>
      cases rest with
      | nil => exact .inr ⟨piece, List.mem_cons_self, member⟩
      | cons second more =>
          rw [join, List.append_assoc, List.singleton_append, List.mem_append, List.mem_cons] at member
          rcases member with inPiece | same | inRest
          · exact .inr ⟨piece, List.mem_cons_self, inPiece⟩
          · exact .inl same
          · rcases ih inRest with same | ⟨other, known, inOther⟩
            · exact .inl same
            · exact .inr ⟨other, List.mem_cons_of_mem piece known, inOther⟩
          · exact List.cons_ne_nil second more

theorem parts_at (sep : Char) (left right : List Char) :
    parts sep (left ++ sep :: right) = parts sep left ++ parts sep right := by
  rw [parts, split_at, List.filter_append, parts, parts]

theorem parts_join (sep : Char) (pieces : List (List Char))
    (plain : ∀ piece ∈ pieces, piece ≠ [] ∧ sep ∉ piece) : parts sep (join [sep] pieces) = pieces := by
  cases pieces with
  | nil => rfl
  | cons piece rest =>
      rw [parts, split_join sep _ (List.cons_ne_nil piece rest) fun other member => (plain other member).2,
        List.filter_eq_self]
      intro other member
      simpa using (plain other member).1

end LinkPress.Text
