import LinkPress.Text.LetterCase

set_option autoImplicit false

/- Lower case of a text. A capital sigma at the end of a word has a form of its own. -/
namespace LinkPress.Text

def lowerChar (c : Char) : List Char :=
  if c.toNat < 128 then [c.toLower]
  else if c.toNat = 0x130 then ['i', Char.ofNat 0x307]
  else [applyRuns lowerRuns c]

def startsCased (text : List Char) : Bool :=
  match text.dropWhile isCaseIgnorable with
  | [] => false
  | c :: _ => isCased c

def sigma : Char := Char.ofNat 0x3A3

def lowerSigma (before after : List Char) : Char :=
  if startsCased before && !startsCased after then Char.ofNat 0x3C2 else Char.ofNat 0x3C3

def lowerFrom (before : List Char) : List Char → List Char
  | [] => []
  | c :: rest =>
      (if c = sigma then [lowerSigma before rest] else lowerChar c) ++ lowerFrom (c :: before) rest

def lowercase (text : List Char) : List Char := lowerFrom [] text

end LinkPress.Text
