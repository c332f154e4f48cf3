import Mathlib.Data.String.Basic
import Mathlib.Tactic.SplitIfs

set_option autoImplicit false

/- Texts as UTF-8 bytes. Bytes sort as the characters they stand for do, so a text is determined by
   its bytes. -/
namespace LinkPress.Text

def bytes (text : List Char) : List UInt8 := text.flatMap String.utf8EncodeChar

@[simp] theorem bytes_nil : bytes [] = [] := rfl

@[simp] theorem bytes_cons (c : Char) (rest : List Char) :
    bytes (c :: rest) = String.utf8EncodeChar c ++ bytes rest := by
  simp [bytes]

theorem bytes_append (a b : List Char) : bytes (a ++ b) = bytes a ++ bytes b := by
  simp [bytes]

theorem char_bytes_ne_nil (c : Char) : String.utf8EncodeChar c ≠ [] := by
  intro empty
  have size := String.length_utf8EncodeChar c
  have positive := Char.utf8Size_pos c
  rw [empty] at size
  simp only [List.length_nil] at size
  omega

-- The first byte tells how many follow, and a longer character is a greater
-- one; among characters of one length the bytes are digits.
theorem char_bytes_lt (a b : Char) (less : a < b) (s t : List UInt8) :
    String.utf8EncodeChar a ++ s < String.utf8EncodeChar b ++ t := by
  have lessNat : a.val.toNat < b.val.toNat := less
  have bound : b.val.toNat < 0x110000 := by
    have valid := b.valid
    simp only [UInt32.isValidChar, Nat.isValidChar] at valid
    omega
  simp only [String.utf8EncodeChar]
  generalize a.val.toNat = x at lessNat
  generalize b.val.toNat = y at lessNat bound
  have square (n : Nat) : n / 4096 = n / 64 / 64 := by omega
  have cube (n : Nat) : n / 262144 = n / 64 / 64 / 64 := by omega
  rw [square, square, cube, cube]
  split_ifs
  all_goals
    simp only [List.cons_append, List.nil_append, List.cons_lt_cons_iff, UInt8.lt_iff_toNat_lt,
      ← UInt8.toNat_inj, UInt8.toNat_ofNat']
    omega

theorem bytes_lt (a b : List Char) (less : a < b) : bytes a < bytes b := by
  induction a generalizing b with
  | nil =>
      cases b with
      | nil => exact absurd less (List.lt_irrefl [])
      | cons d right =>
          rw [bytes_nil, bytes_cons]
          cases encoded : String.utf8EncodeChar d with
          | nil => exact absurd encoded (char_bytes_ne_nil d)
          | cons byte more => exact List.nil_lt_cons _ _
  | cons c left ih =>
      cases b with
      | nil => exact absurd less (List.not_lt_nil _)
      | cons d right =>
          rw [bytes_cons, bytes_cons]
          rcases List.cons_lt_cons_iff.mp less with smaller | ⟨rfl, rest⟩
          · exact char_bytes_lt c d smaller _ _
          · exact List.append_left_lt (ih right rest)

theorem bytes_injective (a b : List Char) (same : bytes a = bytes b) : a = b := by
  rcases lt_trichotomy a b with less | equal | greater
  · have different := bytes_lt a b less
    rw [same] at different
    exact absurd different (List.lt_irrefl _)
  · exact equal
  · have different := bytes_lt b a greater
    rw [same] at different
    exact absurd different (List.lt_irrefl _)

theorem read_utf8 (text : String) : String.fromUTF8? text.toUTF8 = some text := by
  have valid : text.toUTF8.IsValidUTF8 := text.isValidUTF8
  rw [String.fromUTF8?, dif_pos valid]
  rfl

-- The text that is written as the given bytes, if there is one.
def ofBytes? (encoded : List UInt8) : Option String := String.fromUTF8? encoded.toByteArray

theorem of_bytes (text : List Char) : ofBytes? (bytes text) = some (String.ofList text) := by
  have encoded : (bytes text).toByteArray = (String.ofList text).toUTF8 := String.toByteArray_ofList.symm
  rw [ofBytes?, encoded, read_utf8]

end LinkPress.Text
