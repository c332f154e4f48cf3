import LinkPress.Text.Category
import LinkPress.Text.DirectionTable

set_option autoImplicit false

/- In which direction characters are written. -/
namespace LinkPress.Text

inductive Direction where
  | left
  | right
  | rightNumber
  | number
  | neutral
  | mark
deriving DecidableEq, Repr

def rightRanges : Ranges := rangesOf rightLines
def rightNumberRanges : Ranges := rangesOf rightNumberLines
def numberRanges : Ranges := rangesOf numberLines
def neutralRanges : Ranges := rangesOf neutralLines

def leftMarks : List Nat := [0xCBF, 0xCC6, 0x11A07, 0x11A08, 0x11C3F]

def direction (c : Char) : Direction :=
  let n := c.toNat
  if n < 128 then
    if c.isAlpha then .left else if c.isDigit then .number else .neutral
  else if inRanges rightRanges n then .right
  else if inRanges rightNumberRanges n then .rightNumber
  else if inRanges numberRanges n then .number
  else if inRanges neutralRanges n then .neutral
  else if isNonspacing c && !leftMarks.contains n then .mark
  else .left

/-- The texts from right to left start with such a letter, end with one or with a number, the marks
    at the end left out, and hold one kind of numbers at most. -/
def runsRight (directions : List Direction) : Bool :=
  let core := (directions.reverse.dropWhile (· == .mark)).reverse
  directions.head? == some .right &&
    core.getLast?.any (fun d => d == .right || d == .number || d == .rightNumber) &&
    directions.all (· != .left) &&
    !(directions.contains .number && directions.contains .rightNumber)

/-- Whether a text can be written in one direction. A text that holds nothing from right to left
    can be written in any case. -/
def isDirected (text : List Char) : Bool :=
  let directions := text.map direction
  if directions.any fun d => d == .right || d == .rightNumber then runsRight directions else true

end LinkPress.Text
