import LinkPress.Text.Category
import LinkPress.Text.JoiningTable

set_option autoImplicit false

/- The two characters without a width that join their neighbours or keep them apart, and where they
   make a difference. -/
namespace LinkPress.Text

def joinsNextRanges : Ranges := rangesOf joinsNextLines
def joinsBeforeRanges : Ranges := rangesOf joinsBeforeLines
def joinsBothRanges : Ranges := rangesOf joinsBothLines

def joinsNext (c : Char) : Bool :=
  inRanges joinsNextRanges c.toNat || inRanges joinsBothRanges c.toNat

def joinsBefore (c : Char) : Bool :=
  inRanges joinsBeforeRanges c.toNat || inRanges joinsBothRanges c.toNat

def isTransparent (c : Char) : Bool := isNonspacing c || c.toNat == 0x1E94B

def isJoiner (c : Char) : Bool := c.toNat == 0x200D
def isNonJoiner (c : Char) : Bool := c.toNat == 0x200C

def joinAt (before after : List Char) : Bool :=
  ((before.dropWhile isTransparent).head?.any joinsNext) &&
    ((after.dropWhile isTransparent).head?.any joinsBefore)

/-- Whether every joiner and non-joiner of a text has an effect: they stand behind a character that
    `suppresses` a vowel, or a non-joiner keeps letters apart. `before` is what stands in front of
    the text, nearest first. -/
def joinersMatter (suppresses : Char → Bool) (before : List Char) : List Char → Bool
  | [] => true
  | c :: rest =>
      ((!isJoiner c && !isNonJoiner c) || before.head?.any suppresses ||
        (isNonJoiner c && joinAt before rest)) &&
      joinersMatter suppresses (c :: before) rest

end LinkPress.Text
