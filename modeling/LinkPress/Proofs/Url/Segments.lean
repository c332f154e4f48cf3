import LinkPress.Proofs.Url.Encoding

set_option autoImplicit false

/- Segments added to a path. They stay plain, and they can be read back from the path unless one of
   them is a step of dots or holds a character that addresses drop. -/
namespace LinkPress.Url

-- The path cut at its slashes, each piece as the bytes that it is written for.
def Parts.segments (parts : Parts) : List (List UInt8) := (Text.split '/' (parts.path.drop 1)).map decodeBytes

namespace Address

variable (path : List (List Char)) (segment : List Char)

theorem put_cases : (path = [[]] ∧ putSegment path segment = [segment]) ∨
    (path ≠ [[]] ∧ putSegment path segment = path ++ [segment]) := by
  by_cases root : path = [[]]
  · exact .inl ⟨root, by rw [root]; rfl⟩
  · refine .inr ⟨root, ?_⟩
    rw [putSegment]
    exact root

theorem parent_cases : (path = [] ∧ parent path = []) ∨
    ∃ kept, (kept = path ∧ path ≠ [[]] ∨ kept = path.dropLast) ∧ path ≠ [] ∧ parent path = kept ++ [[]] := by
  rw [parent]
  cases last : path.getLast? with
  | none => exact .inl ⟨List.getLast?_eq_none_iff.mp last, List.getLast?_eq_none_iff.mp last⟩
  | some segment =>
      have some : path ≠ [] := by
        rintro rfl
        cases last
      by_cases drive : isDrive segment = true
      · refine .inr ⟨path, .inl ⟨rfl, ?_⟩, some, if_pos drive⟩
        rintro rfl
        obtain rfl := Option.some.inj last
        cases drive
      · exact .inr ⟨path.dropLast, .inr rfl, some, if_neg drive⟩

-- All that adding a segment can do.
theorem add_cases :
    ((segment = ['.'] ∨ segment = ['.', '.']) ∧ addSegment path segment = path) ∨
    addSegment path segment = putSegment path [] ∨
    addSegment path segment = parent path ∨
    (segment ≠ ['.'] ∧ segment ≠ ['.', '.'] ∧ addSegment path segment = putSegment path (encodeSegment segment)) := by
  rw [addSegment]
  by_cases dots : segment = ['.'] ∨ segment = ['.', '.']
  · exact .inl ⟨dots, if_pos dots⟩
  · rw [if_neg dots]
    rw [not_or] at dots
    split
    · exact .inr (.inl rfl)
    · exact .inr (.inr (.inl rfl))
    · exact .inr (.inr (.inr ⟨dots.1, dots.2, rfl⟩))

theorem put_plain (plain : PlainPath path) (new : ∀ c ∈ segment, isPathChar c = true) :
    PlainPath (putSegment path segment) := by
  intro other member
  rcases put_cases path segment with ⟨-, put⟩ | ⟨-, put⟩
  · rw [put, List.mem_singleton] at member
    exact member ▸ new
  · rw [put, List.mem_append, List.mem_singleton] at member
    rcases member with old | same
    · exact plain other old
    · exact same ▸ new

theorem parent_plain (plain : PlainPath path) : PlainPath (parent path) := by
  rcases parent_cases path with ⟨-, empty⟩ | ⟨kept, shape, -, up⟩
  · rw [empty]
    exact fun other member => absurd member List.not_mem_nil
  · intro other member
    rw [up, List.mem_append, List.mem_singleton] at member
    rcases member with old | rfl
    · rcases shape with ⟨rfl, -⟩ | rfl
      · exact plain other old
      · exact plain other (path.dropLast_subset old)
    · exact fun c inside => absurd inside List.not_mem_nil

theorem encode_segment_plain : ∀ c ∈ encodeSegment segment, isPathChar c = true := encode_plain _

theorem add_plain (plain : PlainPath path) : PlainPath (addSegment path segment) := by
  rcases add_cases path segment with ⟨-, same⟩ | put | up | ⟨-, -, put⟩
  · rwa [same]
  · rw [put]
    exact put_plain path [] plain fun c inside => absurd inside List.not_mem_nil
  · rw [up]
    exact parent_plain path plain
  · rw [put]
    exact put_plain path _ plain (encode_segment_plain segment)

theorem fold_plain (segments : List (List Char)) (plain : PlainPath path) :
    PlainPath (segments.foldl addSegment path) := by
  induction segments generalizing path with
  | nil => exact plain
  | cons segment rest ih => exact ih _ (add_plain path segment plain)

theorem without_trailing_subset : withoutTrailing path ⊆ path := by
  unfold withoutTrailing
  split
  · exact List.Subset.refl _
  · split
    · exact path.dropLast_subset
    · exact List.Subset.refl _

theorem extend_plain (address : Address) (segments : List (List Char)) (plain : address.Plain) :
    (address.extend segments).Plain := by
  rw [extend]
  split
  · exact plain
  · exact ⟨plain.host, fold_plain _ segments fun segment member => plain.path segment (without_trailing_subset _ member), plain.query⟩

-- Segments that are read back as the given texts. The root has none of its own.
def StandsFor (path texts : List (List Char)) : Prop :=
  texts = [] ∧ path = [[]] ∨ texts ≠ [] ∧ path ≠ [[]] ∧ path.map decodeBytes = texts.map Text.bytes

def Intact (text : List Char) : Prop := text ≠ ['.'] ∧ text ≠ ['.', '.'] ∧ ∀ c ∈ text, isDropped c = false

instance (text : List Char) : Decidable (Intact text) :=
  decidable_of_iff (text ≠ ['.'] ∧ text ≠ ['.', '.'] ∧ text.all (fun c => !isDropped c) = true) (by simp [Intact])

-- There are no more segments than texts.
def Bounded (path texts : List (List Char)) : Prop := path ≠ [] ∧ (path = [[]] ∨ path.length ≤ texts.length)

variable {path segment} {texts : List (List Char)} {text last : List Char}

theorem stands_last (stands : StandsFor (path ++ [last]) (texts ++ [text])) :
    path.map decodeBytes = texts.map Text.bytes ∧ decodeBytes last = Text.bytes text := by
  rcases stands with ⟨empty, -⟩ | ⟨-, -, same⟩
  · simp at empty
  · simpa using same

theorem put_stands_iff (some : path ≠ []) (nonempty : text ≠ []) :
    StandsFor (putSegment path last) (texts ++ [text]) ↔
      StandsFor path texts ∧ decodeBytes last = Text.bytes text := by
  rcases put_cases path last with ⟨rfl, put⟩ | ⟨below, put⟩
  · rw [put]
    constructor
    · intro stands
      have ends := @stands_last [] texts text last stands
      exact ⟨.inl ⟨by simpa using ends.1.symm, rfl⟩, ends.2⟩
    · rintro ⟨⟨rfl, -⟩ | ⟨-, contra, -⟩, same⟩
      · refine .inr ⟨by simp, ?_, by simp [same]⟩
        intro root
        obtain rfl : last = [] := by simpa using root
        exact nonempty (Text.bytes_injective text [] same.symm)
      · exact absurd rfl contra
  · rw [put]
    constructor
    · intro stands
      have ends := stands_last stands
      refine ⟨.inr ⟨?_, below, ends.1⟩, ends.2⟩
      rintro rfl
      exact some (List.map_eq_nil_iff.mp ends.1)
    · rintro ⟨⟨-, root⟩ | ⟨-, -, same⟩, sameLast⟩
      · exact absurd root below
      · refine .inr ⟨by simp, ?_, by simp [same, sameLast]⟩
        intro root
        have size := congrArg List.length root
        simp only [List.length_append, List.length_singleton] at size
        exact some (List.length_eq_zero_iff.mp (by omega))

theorem encode_segment_intact (kept : ∀ c ∈ text, isDropped c = false) : encodeSegment text = encode keptInSegment text := by
  rw [encodeSegment, List.filter_eq_self.mpr]
  intro c member
  simp [kept c member]

theorem decode_segment_iff : decodeBytes (encodeSegment text) = Text.bytes text ↔ ∀ c ∈ text, isDropped c = false := by
  constructor
  · intro same
    rw [encodeSegment, decode_encode keptInSegment (by decide)] at same
    have all := Text.bytes_injective _ _ same
    rw [List.filter_eq_self] at all
    intro c member
    simpa using all c member
  · intro kept
    rw [encode_segment_intact kept, decode_encode keptInSegment (by decide)]

theorem add_intact (intact : Intact text) : addSegment path text = putSegment path (encodeSegment text) := by
  have decoded := decode_segment_iff.mpr intact.2.2
  have apart (dots : List Char) (plain : decodeBytes dots = Text.bytes dots) (other : text ≠ dots) :
      encodeSegment text ≠ dots := by
    intro same
    rw [same, plain] at decoded
    exact other (Text.bytes_injective _ _ decoded).symm
  rw [addSegment, if_neg (not_or.mpr ⟨intact.1, intact.2.1⟩)]
  split
  · next dot => exact absurd dot (apart ['.'] (by decide) intact.1)
  · next dots => exact absurd dots (apart ['.', '.'] (by decide) intact.2.1)
  · rfl

theorem add_stands_iff (bounded : Bounded path texts) (nonempty : text ≠ []) :
    StandsFor (addSegment path text) (texts ++ [text]) ↔ StandsFor path texts ∧ Intact text := by
  have unempty : ([] : List UInt8) ≠ Text.bytes text := fun none => nonempty (Text.bytes_injective text [] none.symm)
  constructor
  · intro stands
    rcases add_cases path text with ⟨-, same⟩ | put | up | ⟨dot, dots, put⟩
    · rw [same] at stands
      rcases stands with ⟨empty, -⟩ | ⟨-, below, sameBytes⟩
      · simp at empty
      · have size := congrArg List.length sameBytes
        simp only [List.length_map, List.length_append, List.length_singleton] at size
        rcases bounded.2 with root | short
        · exact absurd root below
        · omega
    · rw [put, put_stands_iff bounded.1 nonempty] at stands
      exact absurd stands.2 unempty
    · rw [up] at stands
      rcases parent_cases path with ⟨empty, -⟩ | ⟨kept, -, -, shape⟩
      · exact absurd empty bounded.1
      · rw [shape] at stands
        exact absurd (stands_last stands).2 unempty
    · rw [put, put_stands_iff bounded.1 nonempty, decode_segment_iff] at stands
      exact ⟨stands.1, dot, dots, stands.2⟩
  · rintro ⟨stands, intact⟩
    rw [add_intact intact, put_stands_iff bounded.1 nonempty, decode_segment_iff]
    exact ⟨stands, intact.2.2⟩

theorem put_bounded (bounded : Bounded path texts) : Bounded (putSegment path last) (texts ++ [text]) := by
  rcases put_cases path last with ⟨-, put⟩ | ⟨below, put⟩
  · exact put ▸ ⟨by simp, .inr (by simp)⟩
  · have short := bounded.2.resolve_left below
    exact put ▸ ⟨by simp, .inr (by simpa using short)⟩

theorem parent_bounded (bounded : Bounded path texts) : Bounded (parent path) (texts ++ [text]) := by
  rcases parent_cases path with ⟨empty, -⟩ | ⟨kept, shape, -, up⟩
  · exact absurd empty bounded.1
  · refine up ▸ ⟨by simp, ?_⟩
    rcases bounded.2 with rfl | short
    · rcases shape with ⟨-, contra⟩ | rfl
      · exact absurd rfl contra
      · exact .inl rfl
    · right
      rcases shape with ⟨rfl, -⟩ | rfl
      · simpa using short
      · simp only [List.length_append, List.length_dropLast, List.length_singleton]
        omega

theorem add_bounded (bounded : Bounded path texts) : Bounded (addSegment path text) (texts ++ [text]) := by
  rcases add_cases path text with ⟨-, same⟩ | put | up | ⟨-, -, put⟩
  · rw [same]
    refine ⟨bounded.1, bounded.2.imp_right fun short => ?_⟩
    rw [List.length_append]
    omega
  · exact put ▸ put_bounded bounded
  · exact up ▸ parent_bounded bounded
  · exact put ▸ put_bounded bounded

theorem fold_stands_iff (segments : List (List Char)) (bounded : Bounded path texts)
    (nonempty : ∀ text ∈ segments, text ≠ []) :
    StandsFor (segments.foldl addSegment path) (texts ++ segments) ↔
      StandsFor path texts ∧ ∀ text ∈ segments, Intact text := by
  induction segments generalizing path texts with
  | nil => simp
  | cons text rest ih =>
      rw [List.forall_mem_cons] at nonempty ⊢
      have added : Bounded (addSegment path text) (texts ++ [text]) := add_bounded bounded
      have step := ih added nonempty.2
      rw [List.append_assoc, List.singleton_append, add_stands_iff bounded nonempty.1, and_assoc] at step
      exact step

theorem fold_bounded (segments : List (List Char)) (bounded : Bounded path texts) :
    Bounded (segments.foldl addSegment path) (texts ++ segments) := by
  induction segments generalizing path texts with
  | nil => simpa using bounded
  | cons text rest ih =>
      have added : Bounded (addSegment path text) (texts ++ [text]) := add_bounded bounded
      have step := ih added
      rwa [List.append_assoc, List.singleton_append] at step

-- A base path ends with a slash, which gives way to the first segment added.
theorem base_stands (texts : List (List Char)) (read : ∀ text ∈ texts, text ≠ [] ∧ decodeBytes text = Text.bytes text) :
    StandsFor (withoutTrailing (texts ++ [[]])) texts ∧ Bounded (withoutTrailing (texts ++ [[]])) texts := by
  cases texts with
  | nil => exact ⟨.inl ⟨rfl, rfl⟩, by simp [withoutTrailing], .inl rfl⟩
  | cons first rest =>
      have without : withoutTrailing (first :: rest ++ [[]]) = first :: rest := by
        rw [withoutTrailing]
        · rw [List.getLast?_concat, if_pos rfl, List.dropLast_concat]
        · intro only shape
          have size := congrArg List.length shape
          simp at size
      rw [without]
      refine ⟨.inr ⟨List.cons_ne_nil first rest, ?_, ?_⟩, List.cons_ne_nil first rest, .inr (Nat.le_refl _)⟩
      · intro root
        exact (read first List.mem_cons_self).1 (List.cons.inj root).1
      · exact List.map_congr_left fun text member => (read text member).2

theorem read_segments (address : Address) (plain : address.Plain) (some : address.path ≠ []) :
    address.parts.segments = address.path.map decodeBytes := by
  have unmixed : ∀ segment ∈ address.path, '/' ∉ segment := fun segment member inside =>
    (path_char_plain '/' (plain.path segment member '/' inside)).2.1 rfl
  rw [Parts.segments, parts, pathText, List.drop_succ_cons, List.drop_zero,
    Text.split_join '/' address.path some unmixed]

-- Texts added to a base path are the rest of the path's segments exactly if they
-- are intact.
theorem extend_segments_iff (host : String) (base : List String) (texts : List (List Char))
    (plain : (under host (base ++ [""])).Plain)
    (read : ∀ segment ∈ base, segment.toList ≠ [] ∧ decodeBytes segment.toList = Text.bytes segment.toList)
    (some : texts ≠ []) (nonempty : ∀ text ∈ texts, text ≠ []) :
    ((under host (base ++ [""])).extend texts).parts.segments = (base.map String.toList ++ texts).map Text.bytes ↔
      ∀ text ∈ texts, Intact text := by
  have stands := base_stands (base.map String.toList) (by simpa using read)
  have path : ((under host (base ++ [""])).extend texts).path =
      texts.foldl addSegment (withoutTrailing (base.map String.toList ++ [[]])) := by
    have unskipped : texts.isEmpty = false := by simpa using some
    simp [extend, unskipped, under]
  have fold := fold_stands_iff texts stands.2 nonempty
  have bounded := fold_bounded texts stands.2
  rw [and_iff_right stands.1] at fold
  rw [← path] at fold bounded
  rw [read_segments _ (extend_plain _ texts plain) bounded.1, ← fold]
  constructor
  · intro same
    refine .inr ⟨by simp [some], ?_, same⟩
    intro root
    obtain ⟨text, member⟩ := List.exists_mem_of_ne_nil texts some
    have encoded : Text.bytes text ∈ (base.map String.toList ++ texts).map Text.bytes :=
      List.mem_map_of_mem (List.mem_append_right _ member)
    rw [← same, root, List.map_singleton, List.mem_singleton] at encoded
    exact nonempty text member (Text.bytes_injective text [] encoded)
  · rintro (⟨empty, -⟩ | ⟨-, -, same⟩)
    · exact absurd (List.append_eq_nil_iff.mp empty).2 some
    · exact same

end Address
end LinkPress.Url
