import LinkPress.Markdown.Block

set_option autoImplicit false

/- The attributes at the end of a heading, in braces, and the closing marks of a heading that
   starts with number signs. -/
namespace LinkPress.Markdown

def isBarred (c : Char) : Bool := c == '{' || c == '}' || c == '<' || c == '>' || c == '\\' || isEndChar c

def isWordSpace (c : Char) : Bool := c == ' ' || c == '\t' || c.toNat == 12 || isEndChar c

def wordsFrom (word : List Char) : List Char → List (List Char)
  | [] => if word.isEmpty then [] else [word.reverse]
  | c :: rest =>
      if isWordSpace c then
        if word.isEmpty then wordsFrom [] rest else word.reverse :: wordsFrom [] rest
      else wordsFrom (c :: word) rest

def HeadingMarks.none : HeadingMarks := ⟨.none, [], []⟩

def splitFirst (sep : Char) (text : List Char) : List Char × Option (List Char) :=
  match text.dropWhile (· != sep) with
  | _ :: rest => (text.takeWhile (· != sep), some rest)
  | [] => (text, .none)

def HeadingMarks.addWord (marks : HeadingMarks) : List Char → HeadingMarks
  | [] => marks
  | [_] => marks
  | '#' :: id => { marks with id := some id }
  | '.' :: name => { marks with classes := marks.classes ++ [name] }
  | word => { marks with attributes := marks.attributes ++ [splitFirst '=' word] }

def HeadingMarks.ofChars (text : List Char) : HeadingMarks :=
  (wordsFrom [] text).foldl HeadingMarks.addWord .none

def splitAttributes? (text : List Char) : Option (List Char × List Char) :=
  match text.reverse.dropWhile fun c => c == ' ' || c == '\t' || isEndChar c with
  | '}' :: back =>
      match back.dropWhile fun c => !isBarred c with
      | '{' :: front => some (front.reverse, (back.takeWhile fun c => !isBarred c).reverse)
      | _ => .none
  | _ => .none

def withoutClosingMarks (text : List Char) : List Char :=
  let back := text.reverse.dropWhile fun c => c == ' ' || isEndChar c
  match back.dropWhile (· == '#') with
  | [] => []
  | ' ' :: rest => (rest.dropWhile (· == ' ')).reverse
  | _ => back.reverse

def trimGapEnd (text : List Char) : List Char := (text.reverse.dropWhile isGap).reverse

def atxHeading (options : ReaderOptions) (level : Nat) (text : List Char) : Block :=
  let text := text.dropWhile isGap
  match if options.headingAttributes then splitAttributes? text else .none with
  | some (front, inside) => .heading level (.ofChars inside) (withoutClosingMarks front)
  | .none => .heading level .none (withoutClosingMarks text)

def setextHeading (options : ReaderOptions) (level : Nat) (text : List Char) : Block :=
  match if options.headingAttributes then splitAttributes? text else .none with
  | some (front, inside) => .heading level (.ofChars inside) (trimGapEnd front)
  | .none => .heading level .none text

end LinkPress.Markdown
