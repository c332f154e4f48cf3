set_option autoImplicit false

/- Blank characters and what trimming them leaves. Text is a list of characters here; the
   operations on strings at the end of the module are the same ones seen through `toList`. -/
namespace LinkPress.Text

/-- Characters with the White_Space property. -/
def isBlank (c : Char) : Bool :=
  let n := c.toNat
  (9 ≤ n && n ≤ 13) || n == 0x20 || n == 0x85 || n == 0xA0 || n == 0x1680 ||
    (0x2000 ≤ n && n ≤ 0x200A) || n == 0x2028 || n == 0x2029 || n == 0x202F || n == 0x205F ||
    n == 0x3000

def trimStart (text : List Char) : List Char := text.dropWhile isBlank
def trimEnd (text : List Char) : List Char := (text.reverse.dropWhile isBlank).reverse
def trim (text : List Char) : List Char := trimEnd (trimStart text)

def trimmed (text : String) : String := String.ofList (trim text.toList)

def argument? (text : String) : Option String :=
  let kept := trimmed text
  if kept = "" then none else some kept

theorem trimmed_chars (text : String) : (trimmed text).toList = trim text.toList := by
  rw [trimmed, String.toList_ofList]

theorem argument_blank (text : String) (blank : trim text.toList = []) : argument? text = none := by
  simp [argument?, trimmed, blank]

theorem argument_nonblank (text : String) (nonblank : trim text.toList ≠ []) : argument? text = some (trimmed text) := by
  rw [argument?, if_neg]
  intro empty
  rw [← trimmed_chars, empty] at nonblank
  exact nonblank rfl

end LinkPress.Text
