import LinkPress.Proofs.Text.Trimming
import LinkPress.Proofs.Url.References
import LinkPress.Site.Address

set_option autoImplicit false

/- Addresses within a site. The base is brought into one form, in which it stays, and an address under it
   starts with one slash and so stays on its host. -/
namespace LinkPress.Site

open LinkPress.Url (Reference Rooted Unmarked)

-- A slash, then any number of parts with a slash behind each.
def baseText (parts : List (List Char)) : List Char := '/' :: parts.flatMap fun part => part ++ ['/']

def IsBase (base : String) : Prop :=
  ∃ parts : List (List Char), (∀ part ∈ parts, part ≠ [] ∧ '/' ∉ part) ∧ base.toList = baseText parts

theorem join_closed_parts (parts : List (List Char)) (some : parts ≠ []) :
    Text.join ['/'] parts ++ ['/'] = parts.flatMap fun part => part ++ ['/'] := by
  induction parts with
  | nil => exact absurd rfl some
  | cons part rest ih =>
      cases rest with
      | nil => simp [Text.join]
      | cons second more =>
          have others := List.cons_ne_nil second more
          rw [Text.join, List.append_assoc, ih others]
          · rfl
          · exact others

theorem base_ended (parts : List (List Char)) : ∃ front, baseText parts = front ++ ['/'] := by
  by_cases none : parts = []
  · subst none
    exact ⟨[], rfl⟩
  · rw [baseText, ← join_closed_parts parts none]
    exact ⟨_, (List.cons_append).symm⟩

theorem normal_base_chars (raw : String) :
    (normalBase raw).toList = baseText (Text.parts '/' (Text.trim raw.toList)) := by
  rw [normalBase]
  split
  · next none =>
      rw [none]
      rfl
  · next some =>
      rw [String.toList_ofList, List.cons_append, join_closed_parts _ some]
      rfl

theorem normal_base_is_base (raw : String) : IsBase (normalBase raw) :=
  ⟨_, fun part => Text.mem_parts '/' _ part, normal_base_chars raw⟩

theorem base_trimmed (parts : List (List Char)) : Text.Trimmed (baseText parts) where
  front := by
    rintro c ⟨⟩
    decide
  back := by
    obtain ⟨front, ended⟩ := base_ended parts
    rw [ended, List.getLast?_concat]
    rintro c ⟨⟩
    decide

theorem parts_base (parts : List (List Char)) (plain : ∀ part ∈ parts, part ≠ [] ∧ '/' ∉ part) :
    Text.parts '/' (baseText parts) = parts := by
  have start : Text.parts '/' (baseText parts) = Text.parts '/' (parts.flatMap fun part => part ++ ['/']) :=
    Text.parts_at '/' [] _
  rw [start]
  clear start
  induction parts with
  | nil => rfl
  | cons part rest ih =>
      rw [List.forall_mem_cons] at plain
      have own : Text.parts '/' part = [part] := Text.parts_join '/' [part] (by simpa using plain.1)
      rw [List.flatMap_cons, List.append_assoc, List.singleton_append, Text.parts_at, own, ih plain.2]
      rfl

theorem normal_base_same (base : String) (isBase : IsBase base) : normalBase base = base := by
  obtain ⟨parts, plain, written⟩ := isBase
  apply String.toList_inj.mp
  rw [normal_base_chars, written, (base_trimmed parts).same, parts_base parts plain]

theorem normal_base_same_iff (raw : String) : normalBase raw = raw ↔ IsBase raw := by
  constructor
  · intro same
    rw [← same]
    exact normal_base_is_base raw
  · exact normal_base_same raw

-- The path of an output as the address has it.
def outputText (output : String) : List Char := (output.toList.map slashed).dropWhile (· == '/')

theorem page_address_chars (base output : String) :
    (pageAddress base output).toList = base.toList ++ outputText output := by
  rw [pageAddress, String.toList_append, String.toList_ofList, outputText]

theorem output_text_front (output : String) : (outputText output).head? ≠ some '/' :=
  (Text.front_unmarked_iff '/' _).mp (Text.dropped_front _ _)

theorem base_rooted (parts : List (List Char)) (plain : ∀ part ∈ parts, part ≠ [] ∧ '/' ∉ part) (rest : List Char)
    (relative : rest.head? ≠ some '/') : Rooted (baseText parts ++ rest) := by
  rw [Url.rooted_iff]
  refine ⟨_, rfl, ?_⟩
  cases parts with
  | nil => exact relative
  | cons part more =>
      obtain ⟨filled, unbroken⟩ := plain part List.mem_cons_self
      obtain ⟨c, inner, rfl⟩ := List.exists_cons_of_ne_nil filled
      intro slash
      obtain rfl := Option.some.inj slash
      exact unbroken List.mem_cons_self

theorem page_address_rooted (raw output : String) : Rooted (pageAddress (normalBase raw) output).toList := by
  rw [page_address_chars, normal_base_chars]
  exact base_rooted _ (fun part => Text.mem_parts '/' _ part) _ (output_text_front output)

theorem slashed_bytes (text : List Char) : (Text.bytes (text.map slashed)).length = (Text.bytes text).length := by
  induction text with
  | nil => rfl
  | cons c rest ih =>
      have size : (String.utf8EncodeChar (slashed c)).length = (String.utf8EncodeChar c).length := by
        by_cases back : c = '\\'
        · subst back
          rfl
        · rw [slashed, if_neg back]
      rw [List.map_cons, Text.bytes_cons, Text.bytes_cons, List.length_append, List.length_append, size, ih]

theorem output_text_bytes (output : String) : (Text.bytes (outputText output)).length ≤ (Text.bytes output.toList).length := by
  have whole := congrArg (fun text => (Text.bytes text).length)
    (List.takeWhile_append_dropWhile (p := (· == '/')) (l := output.toList.map slashed))
  rw [Text.bytes_append, List.length_append, slashed_bytes] at whole
  rw [outputText]
  omega

theorem unslashed (text : List Char) (plain : '\\' ∉ text) : text.map slashed = text := by
  have same : ∀ c ∈ text, slashed c = c := by
    intro c member
    rw [slashed, if_neg]
    rintro rfl
    exact plain member
  rw [List.map_congr_left same, List.map_id']

theorem slashed_plain (text : List Char) : '\\' ∉ text.map slashed := by
  intro member
  obtain ⟨c, -, back⟩ := List.mem_map.mp member
  by_cases other : c = '\\'
  · rw [slashed, if_pos other] at back
    exact absurd back (by decide)
  · rw [slashed, if_neg other] at back
    exact other back

theorem output_text_same_iff (output : String) :
    outputText output = output.toList ↔ '\\' ∉ output.toList ∧ output.toList.head? ≠ some '/' := by
  constructor
  · intro same
    rw [← same]
    refine ⟨fun member => ?_, output_text_front output⟩
    exact slashed_plain _ ((List.dropWhile_suffix _).subset member)
  · rintro ⟨plain, relative⟩
    rw [outputText, unslashed _ plain]
    exact Text.dropped_same _ _ ((Text.front_unmarked_iff '/' _).mpr relative)

theorem base_unmarked_iff (parts : List (List Char)) (rest : List Char) :
    Unmarked (baseText parts ++ rest) ↔ Unmarked (baseText parts) ∧ Unmarked rest := by
  obtain ⟨front, ended⟩ := base_ended parts
  have none : Unmarked [] := ⟨List.not_mem_nil, List.not_mem_nil, Url.not_escaped_nil⟩
  rw [ended, List.append_assoc, List.singleton_append, Url.unmarked_slash_iff, Url.unmarked_slash_iff,
    and_iff_left none]

theorem page_points_iff (raw output : String) :
    (Reference.read (pageAddress (normalBase raw) output).toList).PointsTo (normalBase raw ++ output).toList ↔
      (Unmarked (normalBase raw).toList ∧ Unmarked output.toList) ∧
        '\\' ∉ output.toList ∧ output.toList.head? ≠ some '/' := by
  have rooted := page_address_rooted raw output
  have size := output_text_bytes output
  rw [page_address_chars] at rooted ⊢
  rw [String.toList_append, Url.points_unmarked_iff _ _ rooted, List.append_cancel_left_eq, output_text_same_iff,
    normal_base_chars, base_unmarked_iff]
  · constructor
    · rintro ⟨clear, same⟩
      rw [(output_text_same_iff output).mpr same] at clear
      exact ⟨clear, same⟩
    · rintro ⟨clear, same⟩
      rw [(output_text_same_iff output).mpr same]
      exact ⟨clear, same⟩
  · rw [Text.bytes_append, Text.bytes_append, List.length_append, List.length_append]
    exact Nat.add_le_add_left size _

theorem site_addresses_stay (raw : String) :
    IsBase (normalBase raw) ∧ (normalBase raw = raw ↔ IsBase raw) ∧
      normalBase (normalBase raw) = normalBase raw ∧
      ∀ output, Rooted (pageAddress (normalBase raw) output).toList ∧
        (Reference.read (pageAddress (normalBase raw) output).toList).Stays := by
  have isBase := normal_base_is_base raw
  refine ⟨isBase, normal_base_same_iff raw, normal_base_same _ isBase, fun output => ?_⟩
  have rooted := page_address_rooted raw output
  exact ⟨rooted, Url.rooted_stays _ rooted⟩

end LinkPress.Site
