import LinkPress.Proofs.Url.Encoding

set_option autoImplicit false

/- Queries as forms, pairs of a key and a value. An encoded pair has no mark that would end it or
   begin another one, and whatever was encoded is what a reader finds. -/
namespace LinkPress.Url

-- A plus sign is a space before percent signs are read, so an encoded plus sign
-- stays one.
def decodeForm (text : List Char) : List UInt8 := decodeBytes (text.map fun c => if c = '+' then ' ' else c)

-- A piece without an equals sign is a key with an empty value.
def readPair? (piece : List Char) : Option (String × String) := do
  let key ← Text.ofBytes? (decodeForm (cutAt '=' piece).1)
  let value ← Text.ofBytes? (decodeForm ((cutAt '=' piece).2.getD []))
  return (key, value)

-- The pairs of a query, unless one of them is no text.
def readForm? (query : List Char) : Option (List (String × String)) := (Text.parts '&' query).mapM readPair?

theorem kept_in_form_plain (c : Char) (kept : keptInForm c = true) : c ≠ '%' ∧ c ≠ '+' ∧ c ≠ '&' ∧ c ≠ '=' := by
  have distinct (mark : Char) (other : keptInForm mark = false) : c ≠ mark := by
    rintro rfl
    simp [kept] at other
  exact ⟨distinct '%' (by decide), distinct '+' (by decide), distinct '&' (by decide), distinct '=' (by decide)⟩

theorem value_char_unmarked (c : Char) (plain : isValueChar c = true) : c ≠ '&' ∧ c ≠ '=' := by
  simp only [isValueChar, Bool.or_eq_true, beq_iff_eq] at plain
  rcases plain with (kept | rfl) | rfl
  · exact (kept_in_form_plain c kept).2.2
  · decide
  · decide

theorem escape_char_no_plus (c mark : Char) (member : mark ∈ escapeChar c) : mark ≠ '+' := by
  rcases mem_escape_char c mark member with rfl | ⟨n, small, rfl⟩
  · decide
  · exact (kept_in_form_plain _ (hex_digit_kept n small).2.1).2.1

theorem escape_char_spaces (c : Char) :
    ((escapeChar c).map fun mark => if mark = '+' then ' ' else mark) = escapeChar c := by
  have same : ∀ mark ∈ escapeChar c, (if mark = '+' then ' ' else mark) = mark := fun mark member =>
    if_neg (escape_char_no_plus c mark member)
  rw [List.map_congr_left same, List.map_id']

theorem decode_encode_form (text : List Char) : decodeForm (encodeForm text) = Text.bytes text := by
  induction text with
  | nil => rfl
  | cons c rest ih =>
      rw [decodeForm] at ih ⊢
      rw [encodeForm, List.flatMap_cons, ← encodeForm, List.map_append, Text.bytes_cons, ← ih]
      by_cases space : c = ' '
      · rw [if_pos space, space]
        exact decode_plain ' ' _ (by decide)
      · rw [if_neg space]
        by_cases kept : keptInForm c = true
        · have plain := kept_in_form_plain c kept
          rw [if_pos kept, List.map_singleton, if_neg plain.2.1]
          exact decode_plain c _ plain.1
        · rw [if_neg kept, escape_char_spaces, escapeChar]
          exact decode_escape_bytes _ _

theorem read_pair_encoded (key value : List Char) :
    readPair? (encodeForm key ++ '=' :: encodeForm value) = some (String.ofList key, String.ofList value) := by
  have cut := cut_found '=' (encodeForm key) (encodeForm value) fun member =>
    (value_char_unmarked '=' (encode_form_plain key '=' member)).2 rfl
  rw [readPair?, cut]
  simp only [Option.getD_some, decode_encode_form, Text.of_bytes]
  rfl

theorem read_form_encoded (key value : List Char) :
    readForm? (encodeForm key ++ '=' :: encodeForm value) = some [(String.ofList key, String.ofList value)] := by
  have whole : '&' ∉ encodeForm key ++ '=' :: encodeForm value := by
    rw [List.mem_append, List.mem_cons, not_or, not_or]
    exact ⟨fun member => (value_char_unmarked '&' (encode_form_plain key '&' member)).1 rfl, by decide,
      fun member => (value_char_unmarked '&' (encode_form_plain value '&' member)).1 rfl⟩
  have piece : Text.parts '&' (encodeForm key ++ '=' :: encodeForm value) = [encodeForm key ++ '=' :: encodeForm value] := by
    rw [Text.parts, Text.split_plain '&' _ whole]
    simp
  rw [readForm?, piece, List.mapM_cons, read_pair_encoded, List.mapM_nil]
  rfl

end LinkPress.Url
