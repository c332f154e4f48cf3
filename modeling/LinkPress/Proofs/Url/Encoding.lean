import LinkPress.Proofs.Text.Bytes
import LinkPress.Proofs.Url.Reading
import LinkPress.Url.Address

set_option autoImplicit false

/- Percent-encoding writes plain characters only, and reading them back gives the bytes of the text. -/
namespace LinkPress.Url

theorem hex_digit_kept (n : Nat) (small : n < 16) :
    keptInSegment (hexDigit n) = true ∧ keptInForm (hexDigit n) = true ∧ Text.hexValue? (hexDigit n) = some n := by
  have all : ∀ n < 16, keptInSegment (hexDigit n) = true ∧ keptInForm (hexDigit n) = true ∧
    Text.hexValue? (hexDigit n) = some n := by decide
  exact all n small

theorem byte_digits (byte : UInt8) : byte.toNat / 16 < 16 ∧ byte.toNat % 16 < 16 := by
  have bound := byte.toNat_lt
  omega

theorem mem_escape_char (c mark : Char) (member : mark ∈ escapeChar c) :
    mark = '%' ∨ ∃ n < 16, mark = hexDigit n := by
  simp only [escapeChar, escapeByte, List.mem_flatMap, List.mem_cons, List.not_mem_nil, or_false] at member
  obtain ⟨byte, -, sign | high | low⟩ := member
  · exact .inl sign
  · exact .inr ⟨_, (byte_digits byte).1, high⟩
  · exact .inr ⟨_, (byte_digits byte).2, low⟩

theorem escape_char_plain (c mark : Char) (member : mark ∈ escapeChar c) :
    isPathChar mark = true ∧ isValueChar mark = true := by
  rcases mem_escape_char c mark member with rfl | ⟨n, small, rfl⟩
  · decide
  · have kept := hex_digit_kept n small
    simp [isPathChar, isValueChar, kept.1, kept.2.1]

theorem encode_plain (text : List Char) : ∀ c ∈ encode keptInSegment text, isPathChar c = true := by
  intro mark member
  obtain ⟨c, -, inPiece⟩ := List.mem_flatMap.mp member
  by_cases kept : keptInSegment c = true
  · rw [if_pos kept, List.mem_singleton] at inPiece
    simp [isPathChar, inPiece, kept]
  · rw [if_neg kept] at inPiece
    exact (escape_char_plain c mark inPiece).1

theorem encode_form_plain (text : List Char) : ∀ c ∈ encodeForm text, isValueChar c = true := by
  intro mark member
  obtain ⟨c, -, inPiece⟩ := List.mem_flatMap.mp member
  by_cases space : c = ' '
  · rw [if_pos space, List.mem_singleton] at inPiece
    simp [isValueChar, inPiece]
  · rw [if_neg space] at inPiece
    by_cases kept : keptInForm c = true
    · rw [if_pos kept, List.mem_singleton] at inPiece
      simp [isValueChar, inPiece, kept]
    · rw [if_neg kept] at inPiece
      exact (escape_char_plain c mark inPiece).2

theorem decode_plain (c : Char) (rest : List Char) (plain : c ≠ '%') :
    decodeBytes (c :: rest) = String.utf8EncodeChar c ++ decodeBytes rest := by
  rw [decodeBytes]
  intro a b more sign
  exact absurd sign plain

theorem decode_escape_byte (byte : UInt8) (rest : List Char) :
    decodeBytes (escapeByte byte ++ rest) = byte :: decodeBytes rest := by
  have digits := byte_digits byte
  have high := (hex_digit_kept _ digits.1).2.2
  have low := (hex_digit_kept _ digits.2).2.2
  have value : 16 * (byte.toNat / 16) + byte.toNat % 16 = byte.toNat := Nat.div_add_mod _ _
  simp only [escapeByte, List.cons_append, List.nil_append, decodeBytes, high, low, value, UInt8.ofNat_toNat]

theorem decode_escape_bytes (encoded : List UInt8) (rest : List Char) :
    decodeBytes (encoded.flatMap escapeByte ++ rest) = encoded ++ decodeBytes rest := by
  induction encoded with
  | nil => rfl
  | cons byte more ih =>
      rw [List.flatMap_cons, List.append_assoc, decode_escape_byte, ih, List.cons_append]

theorem decode_encode (kept : Char → Bool) (escapes : kept '%' = false) (text : List Char) :
    decodeBytes (encode kept text) = Text.bytes text := by
  induction text with
  | nil => rfl
  | cons c rest ih =>
      rw [encode, List.flatMap_cons, ← encode, Text.bytes_cons, ← ih]
      by_cases plain : kept c = true
      · rw [if_pos plain, List.singleton_append]
        refine decode_plain c _ ?_
        rintro rfl
        simp [plain] at escapes
      · rw [if_neg plain, escapeChar]
        exact decode_escape_bytes _ _

namespace Address

variable {address : Address}

theorem with_pair_plain (plain : address.Plain) (key value : List Char) : (address.withPair key value).Plain := by
  refine ⟨plain.host, plain.path, ?_⟩
  intro query asked c member
  obtain rfl := Option.some.inj asked
  simp only [List.mem_append, List.mem_singleton] at member
  rcases member with (inKey | equals) | inValue
  · exact .inl (encode_form_plain key c inKey)
  · exact .inr equals
  · exact .inl (encode_form_plain value c inValue)

end Address
end LinkPress.Url
