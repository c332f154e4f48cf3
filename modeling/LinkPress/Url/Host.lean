import LinkPress.Text.Composition
import LinkPress.Text.Direction
import LinkPress.Text.Joining
import LinkPress.Url.LabelTable
import LinkPress.Url.Punycode

set_option autoImplicit false

/- Host labels. A label is written in lower case; one that stands for other characters starts with
   `xn--` and has to decode to characters that a host may hold. -/
namespace LinkPress.Url.Host

def labelRanges : Text.Ranges := Text.rangesOf labelLines

def isLabelChar (c : Char) : Bool :=
  if c.toNat < 128 then c.isAlphanum || c == '-' else Text.inRanges labelRanges c.toNat

def isEncodable (label : List Char) : Bool :=
  label.any (fun c => 128 ≤ c.toNat) && label.all isLabelChar &&
    !label.head?.any Text.isMark && Text.Composition.isComposed label &&
    Text.joinersMatter Text.Composition.isVowelKiller [] label && Text.isDirected label

def longestEncoded : Nat := 2000

def isEncoded (text : List Char) : Bool :=
  text.length ≤ longestEncoded && (Punycode.decode? text).any isEncodable

def ofLabel? (label : List Char) : Option (List Char) :=
  let lower := label.map Char.toLower
  match lower with
  | 'x' :: 'n' :: '-' :: '-' :: encoded => if isEncoded encoded then some lower else none
  | _ => some lower

end LinkPress.Url.Host
