import LinkPress.Proofs.Url.Encoding

set_option autoImplicit false

/- References, as they stand in a page: what a reader takes one apart into (the components of RFC 3986),
   and when the path of a reference stands for itself. -/
namespace LinkPress.Url

structure Reference where
  scheme : Option (List Char)
  authority : Option (List Char)
  path : List Char
  query : Option (List Char)
  fragment : Option (List Char)
deriving DecidableEq, Repr

-- A colon ends a scheme unless a slash or nothing stands in front of it.
def cutScheme (text : List Char) : Option (List Char) × List Char :=
  match cutAt ':' text with
  | (name, some rest) => if name = [] ∨ '/' ∈ name then (none, text) else (some name, rest)
  | (_, none) => (none, text)

-- Two slashes introduce an authority, which another slash ends.
def cutAuthority : List Char → Option (List Char) × List Char
  | '/' :: '/' :: rest => (some (cutAt '/' rest).1, (cutAt '/' rest).2.elim [] ('/' :: ·))
  | text => (none, text)

-- Reads by the grammar of RFC 3986 alone. A backslash, a tab or a line end belongs to the component it
-- stands in, where a browser takes the first for a slash and drops the others, so what is said here of
-- texts with one of them holds for readers that keep to the grammar.
def Reference.read (text : List Char) : Reference :=
  let (text, fragment) := cutAt '#' text
  let (text, query) := cutAt '?' text
  let (scheme, text) := cutScheme text
  let (authority, path) := cutAuthority text
  ⟨scheme, authority, path, query, fragment⟩

-- It says nothing of a host, so it stays on the one that it is read on.
structure Reference.Stays (reference : Reference) : Prop where
  scheme : reference.scheme = none
  authority : reference.authority = none

-- It says nothing but a path, and the path is that of a place.
structure Reference.PointsTo (reference : Reference) (place : List Char) : Prop where
  stays : reference.Stays
  query : reference.query = none
  fragment : reference.fragment = none
  path : decodeBytes reference.path = Text.bytes place

-- The text starts with one slash.
def Rooted (text : List Char) : Prop := ['/'] <+: text ∧ ¬ ['/', '/'] <+: text

theorem rooted_iff (text : List Char) : Rooted text ↔ ∃ rest, text = '/' :: rest ∧ rest.head? ≠ some '/' := by
  constructor
  · rintro ⟨⟨rest, rfl⟩, single⟩
    refine ⟨rest, rfl, fun slash => ?_⟩
    obtain ⟨more, rfl⟩ := List.head?_eq_some_iff.mp slash
    exact single ⟨more, rfl⟩
  · rintro ⟨rest, rfl, single⟩
    refine ⟨⟨rest, rfl⟩, ?_⟩
    rintro ⟨more, same⟩
    obtain rfl : '/' :: more = rest := (List.cons.inj same).2
    exact single rfl

theorem cut_none_iff (mark : Char) (text : List Char) : (cutAt mark text).2 = none ↔ mark ∉ text := by
  induction text with
  | nil => simp [cutAt]
  | cons c rest ih =>
      by_cases same : c = mark
      · simp [cutAt, same]
      · rw [cutAt, if_neg same, ih, List.mem_cons, not_or, and_iff_right (Ne.symm same)]

theorem cut_front (mark : Char) (text : List Char) : (cutAt mark text).1 <+: text := by
  induction text with
  | nil => exact List.prefix_rfl
  | cons c rest ih =>
      by_cases same : c = mark
      · rw [cutAt, if_pos same]
        exact List.nil_prefix
      · rw [cutAt, if_neg same]
        exact (List.prefix_cons_inj c).mpr ih

theorem cut_rooted (mark : Char) (text : List Char) (rooted : Rooted text) (other : '/' ≠ mark) :
    Rooted (cutAt mark text).1 := by
  obtain ⟨⟨rest, rfl⟩, single⟩ := rooted
  refine ⟨?_, fun double => single (double.trans (cut_front mark _))⟩
  rw [List.singleton_append, cutAt, if_neg other]
  exact ⟨_, rfl⟩

theorem cut_scheme_rooted (text : List Char) (rooted : Rooted text) : cutScheme text = (none, text) := by
  obtain ⟨⟨rest, rfl⟩, -⟩ := rooted
  have front : '/' ∈ (cutAt ':' (['/'] ++ rest)).1 := by
    rw [List.singleton_append, cutAt, if_neg (by decide)]
    exact List.mem_cons_self
  rw [cutScheme]
  split
  · next name back cut =>
      rw [cut] at front
      rw [if_pos (.inr front)]
  · rfl

theorem cut_authority_rooted (text : List Char) (rooted : Rooted text) : cutAuthority text = (none, text) := by
  rw [cutAuthority]
  rintro rest rfl
  exact rooted.2 ⟨rest, rfl⟩

theorem read_rooted (text : List Char) (rooted : Rooted text) :
    Reference.read text = ⟨none, none, (cutAt '?' (cutAt '#' text).1).1, (cutAt '?' (cutAt '#' text).1).2, (cutAt '#' text).2⟩ := by
  have first := cut_rooted '#' text rooted (by decide)
  have second := cut_rooted '?' _ first (by decide)
  simp only [Reference.read, cut_scheme_rooted _ second, cut_authority_rooted _ second]

theorem rooted_stays (text : List Char) (rooted : Rooted text) : (Reference.read text).Stays := by
  rw [read_rooted text rooted]
  exact ⟨rfl, rfl⟩

theorem points_iff (text place : List Char) (rooted : Rooted text) :
    (Reference.read text).PointsTo place ↔ ('#' ∉ text ∧ '?' ∉ text) ∧ decodeBytes text = Text.bytes place := by
  rw [read_rooted text rooted]
  constructor
  · rintro ⟨-, query, fragment, path⟩
    dsimp only at query fragment path
    have unmarked := (cut_none_iff '#' text).mp fragment
    rw [cut_missing '#' text unmarked] at query path
    have unasked := (cut_none_iff '?' text).mp query
    rw [cut_missing '?' text unasked] at path
    exact ⟨⟨unmarked, unasked⟩, path⟩
  · rintro ⟨⟨unmarked, unasked⟩, path⟩
    rw [cut_missing '#' text unmarked, cut_missing '?' text unasked]
    exact ⟨⟨rfl, rfl⟩, rfl, rfl, path⟩

def LedByDigits (text : List Char) : Prop :=
  ∃ high low rest, text = high :: low :: rest ∧ Text.isHexDigit high = true ∧ Text.isHexDigit low = true

-- Somewhere a percent sign stands in front of two hexadecimal digits.
def Escaped (text : List Char) : Prop := ∃ front rest, text = front ++ '%' :: rest ∧ LedByDigits rest

theorem not_escaped_nil : ¬ Escaped [] := by
  rintro ⟨front, rest, empty, -⟩
  simp at empty

theorem escaped_cons_iff (c : Char) (rest : List Char) :
    Escaped (c :: rest) ↔ (c = '%' ∧ LedByDigits rest) ∨ Escaped rest := by
  constructor
  · rintro ⟨front, back, same, led⟩
    cases front with
    | nil =>
        obtain ⟨rfl, rfl⟩ := List.cons.inj same
        exact .inl ⟨rfl, led⟩
    | cons d more =>
        obtain ⟨rfl, rfl⟩ := List.cons.inj same
        exact .inr ⟨more, back, rfl, led⟩
  · rintro (⟨rfl, led⟩ | ⟨front, back, rfl, led⟩)
    · exact ⟨[], rest, rfl, led⟩
    · exact ⟨c :: front, back, rfl, led⟩

theorem led_slash_iff (front back : List Char) : LedByDigits (front ++ '/' :: back) ↔ LedByDigits front := by
  have slash : Text.isHexDigit '/' ≠ true := by decide
  constructor
  · rintro ⟨high, low, rest, same, digits⟩
    match front with
    | [] =>
        obtain ⟨rfl, -⟩ := List.cons.inj same
        exact absurd digits.1 slash
    | [first] =>
        obtain ⟨rfl, later⟩ := List.cons.inj same
        obtain ⟨rfl, -⟩ := List.cons.inj later
        exact absurd digits.2 slash
    | first :: second :: more =>
        obtain ⟨rfl, later⟩ := List.cons.inj same
        obtain ⟨rfl, -⟩ := List.cons.inj later
        exact ⟨first, second, more, rfl, digits⟩
  · rintro ⟨high, low, rest, rfl, digits⟩
    exact ⟨high, low, rest ++ '/' :: back, rfl, digits⟩

-- A slash is no digit, so an escape stands on one side of it.
theorem escaped_slash_iff (front back : List Char) :
    Escaped (front ++ '/' :: back) ↔ Escaped front ∨ Escaped back := by
  induction front with
  | nil =>
      have other : ¬ ('/' = '%' ∧ LedByDigits back) := fun led => absurd led.1 (by decide)
      rw [List.nil_append, escaped_cons_iff, or_iff_right other, or_iff_right not_escaped_nil]
  | cons c rest ih => rw [List.cons_append, escaped_cons_iff, escaped_cons_iff, led_slash_iff, ih, or_assoc]

-- What reading can make of a text: an escape makes it shorter, and without one it is read as it stands.
def ReadAs (text : List Char) (decoded : List UInt8) : Prop :=
  (¬ Escaped text ∧ decoded = Text.bytes text) ∨ (Escaped text ∧ decoded.length < (Text.bytes text).length)

theorem ReadAs.short {text : List Char} {decoded : List UInt8} (read : ReadAs text decoded) :
    decoded.length ≤ (Text.bytes text).length := by
  rcases read with ⟨-, rfl⟩ | ⟨-, shorter⟩
  · exact Nat.le_refl _
  · exact Nat.le_of_lt shorter

theorem ReadAs.plain {rest : List Char} {decoded : List UInt8} (read : ReadAs rest decoded) (c : Char)
    (plain : ¬ (c = '%' ∧ LedByDigits rest)) : ReadAs (c :: rest) (String.utf8EncodeChar c ++ decoded) := by
  rw [ReadAs, escaped_cons_iff, or_iff_right plain, Text.bytes_cons]
  rcases read with ⟨unescaped, rfl⟩ | ⟨escaped, shorter⟩
  · exact .inl ⟨unescaped, rfl⟩
  · refine .inr ⟨escaped, ?_⟩
    rw [List.length_append, List.length_append]
    omega

theorem ReadAs.escape {rest : List Char} {decoded : List UInt8} (read : ReadAs rest decoded) (high low : Char)
    (digits : Text.isHexDigit high = true ∧ Text.isHexDigit low = true) (byte : UInt8) :
    ReadAs ('%' :: high :: low :: rest) (byte :: decoded) := by
  refine .inr ⟨⟨[], _, rfl, high, low, rest, rfl, digits⟩, ?_⟩
  have first := List.length_pos_of_ne_nil (Text.char_bytes_ne_nil high)
  have second := List.length_pos_of_ne_nil (Text.char_bytes_ne_nil low)
  have short := read.short
  simp only [Text.bytes_cons, List.length_append, List.length_cons]
  omega

theorem decode_read_as (text : List Char) : ReadAs text (decodeBytes text) := by
  fun_induction decodeBytes text with
  | case1 => exact .inl ⟨not_escaped_nil, rfl⟩
  | case2 high low rest first second lowDigit highDigit ih =>
      exact ih.escape high low ⟨by simp [Text.isHexDigit, highDigit], by simp [Text.isHexDigit, lowDigit]⟩ _
  | case3 high low rest undigited ih =>
      refine ih.plain '%' ?_
      rintro ⟨-, a, b, more, same, highDigit, lowDigit⟩
      obtain ⟨rfl, later⟩ := List.cons.inj same
      obtain ⟨rfl, -⟩ := List.cons.inj later
      obtain ⟨first, known⟩ := Option.isSome_iff_exists.mp highDigit
      obtain ⟨second, other⟩ := Option.isSome_iff_exists.mp lowDigit
      exact undigited first second known other
  | case4 c rest single ih =>
      refine ih.plain c ?_
      rintro ⟨rfl, high, low, more, rfl, -⟩
      exact single high low more rfl rfl

theorem decode_same_iff (text : List Char) : decodeBytes text = Text.bytes text ↔ ¬ Escaped text := by
  rcases decode_read_as text with ⟨unescaped, same⟩ | ⟨escaped, shorter⟩
  · exact iff_of_true same unescaped
  · refine iff_of_false (fun same => ?_) (not_not_intro escaped)
    rw [same] at shorter
    exact Nat.lt_irrefl _ shorter

-- A text that is no longer than a place stands for it only as the place itself.
theorem decode_place_iff (text place : List Char)
    (short : (Text.bytes text).length ≤ (Text.bytes place).length) :
    decodeBytes text = Text.bytes place ↔ ¬ Escaped text ∧ text = place := by
  constructor
  · intro read
    rcases decode_read_as text with ⟨unescaped, same⟩ | ⟨-, shorter⟩
    · exact ⟨unescaped, Text.bytes_injective _ _ (same.symm.trans read)⟩
    · rw [read] at shorter
      exact absurd shorter (Nat.not_lt.mpr short)
  · rintro ⟨unescaped, rfl⟩
    exact (decode_same_iff text).mpr unescaped

-- A text without the marks that a reader takes for something else.
structure Unmarked (text : List Char) : Prop where
  fragment : '#' ∉ text
  query : '?' ∉ text
  escape : ¬ Escaped text

theorem unmarked_slash_iff (front back : List Char) :
    Unmarked (front ++ '/' :: back) ↔ Unmarked front ∧ Unmarked back := by
  have member (mark : Char) (other : mark ≠ '/') : mark ∉ front ++ '/' :: back ↔ mark ∉ front ∧ mark ∉ back := by
    rw [List.mem_append, List.mem_cons, or_iff_right other, not_or]
  constructor
  · rintro ⟨fragment, query, escape⟩
    rw [member _ (by decide)] at fragment query
    rw [escaped_slash_iff, not_or] at escape
    exact ⟨⟨fragment.1, query.1, escape.1⟩, fragment.2, query.2, escape.2⟩
  · rintro ⟨left, right⟩
    refine ⟨(member _ (by decide)).mpr ⟨left.fragment, right.fragment⟩,
      (member _ (by decide)).mpr ⟨left.query, right.query⟩, ?_⟩
    rw [escaped_slash_iff, not_or]
    exact ⟨left.escape, right.escape⟩

-- A reference that is no longer than its place points there only as the place itself.
theorem points_unmarked_iff (text place : List Char) (rooted : Rooted text)
    (short : (Text.bytes text).length ≤ (Text.bytes place).length) :
    (Reference.read text).PointsTo place ↔ Unmarked text ∧ text = place := by
  rw [points_iff text place rooted, decode_place_iff text place short]
  constructor
  · rintro ⟨⟨unmarked, unasked⟩, unescaped, same⟩
    exact ⟨⟨unmarked, unasked, unescaped⟩, same⟩
  · rintro ⟨clear, same⟩
    exact ⟨⟨clear.fragment, clear.query⟩, clear.escape, same⟩

end LinkPress.Url
