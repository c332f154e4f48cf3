import LinkPress.Text.Hex

set_option autoImplicit false

/- Percent-encoding: a character outside the kept set is written as its UTF-8 bytes, each as a
   percent sign and two upper-case hexadecimal digits. -/
namespace LinkPress.Url

def hexDigit (n : Nat) : Char :=
  if n < 10 then Char.ofNat (48 + n) else Char.ofNat (55 + n)

def escapeByte (byte : UInt8) : List Char :=
  ['%', hexDigit (byte.toNat / 16), hexDigit (byte.toNat % 16)]

def escapeChar (c : Char) : List Char := (String.utf8EncodeChar c).flatMap escapeByte

def encode (kept : Char → Bool) (text : List Char) : List Char :=
  text.flatMap fun c => if kept c then [c] else escapeChar c

def keptInSegment (c : Char) : Bool :=
  let n := c.toNat
  0x20 < n && n < 0x7F && !("\"#<>?\x60\x7b\x7d/%\\".toList.contains c)

def keptInForm (c : Char) : Bool := c.isAlphanum || "*-._".toList.contains c

def encodeForm (text : List Char) : List Char :=
  text.flatMap fun c => if c = ' ' then ['+'] else if keptInForm c then [c] else escapeChar c

/-- The bytes that an encoded text stands for; a percent sign without two digits is itself. -/
def decodeBytes : List Char → List UInt8
  | [] => []
  | '%' :: a :: b :: rest =>
      match Text.hexValue? a, Text.hexValue? b with
      | some high, some low => UInt8.ofNat (16 * high + low) :: decodeBytes rest
      | _, _ => String.utf8EncodeChar '%' ++ decodeBytes (a :: b :: rest)
  | c :: rest => String.utf8EncodeChar c ++ decodeBytes rest

end LinkPress.Url
