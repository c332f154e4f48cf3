import LinkPress.Markdown.Entity
import LinkPress.Markdown.Line
import LinkPress.Text.Folding

set_option autoImplicit false

/- The parts that links and link definitions are written with: labels, addresses and titles. -/
namespace LinkPress.Markdown

def labelLimit : Nat := 1000

def labelGap (ends : Nat) : List Char → Option (List Char)
  | '\r' :: '\n' :: rest => if ends = 0 then none else labelGap (ends - 1) rest
  | c :: rest =>
      if isEndChar c then (if ends = 0 then none else labelGap (ends - 1) rest)
      else if isGap c then labelGap ends rest
      else some (c :: rest)
  | [] => some []

/-- Reads a label up to its closing bracket. `label` is what has been read, last character first;
    runs of blanks are one space in it. -/
def labelFrom (ends : Nat) : Nat → List Char → List Char → Option (List Char × List Char)
  | 0, _, _ => none
  | _, _, [] => none
  | n + 1, label, c :: rest =>
      if c = ']' then some (label.reverse, rest)
      else if c = '[' then none
      else if c = '\\' then
        match rest with
        | [] => none
        | d :: rest => labelFrom ends n (d :: c :: label) rest
      else if isSpace c then
        match labelGap ends (c :: rest) with
        | none => none
        | some rest => labelFrom ends n (' ' :: label) rest
      else labelFrom ends n (c :: label) rest

def trimSpaces (text : List Char) : List Char :=
  ((text.dropWhile isSpace).reverse.dropWhile isSpace).reverse

def label? (ends : Nat) (text : List Char) : Option (List Char × List Char) :=
  match labelFrom ends (labelLimit + 1) [] text with
  | some (label, rest) => if label.all isSpace then none else some (trimSpaces label, rest)
  | none => none

def labelKey (label : List Char) : List Char := Text.fold label

def pointedAddress : List Char → List Char → Option (List Char × List Char)
  | _, [] => none
  | read, c :: rest =>
      if c = '>' then some (read.reverse, rest)
      else if isEndChar c || c = '<' then none
      else if c = '\\' then
        match rest with
        | d :: more =>
            if Text.isAsciiPunctuation d then pointedAddress (d :: c :: read) more
            else pointedAddress (c :: read) (d :: more)
        | [] => none
      else pointedAddress (c :: read) rest

def plainAddress (most : Nat) : Nat → List Char → List Char → Option (List Char × List Char)
  | depth, read, [] => if depth = 0 then some (read.reverse, []) else none
  | depth, read, c :: rest =>
      if c.toNat ≤ 0x20 then (if depth = 0 then some (read.reverse, c :: rest) else none)
      else if c = '(' then
        if most < depth then none else plainAddress most (depth + 1) (c :: read) rest
      else if c = ')' then
        if depth = 0 then some (read.reverse, c :: rest)
        else plainAddress most (depth - 1) (c :: read) rest
      else if c = '\\' then
        match rest with
        | d :: more =>
            if Text.isAsciiPunctuation d then plainAddress most depth (d :: c :: read) more
            else plainAddress most depth (c :: read) (d :: more)
        | [] => plainAddress most depth (c :: read) []
      else plainAddress most depth (c :: read) rest

def address? (most : Nat) : List Char → Option (List Char × List Char)
  | '<' :: rest => pointedAddress [] rest
  | text => plainAddress most 0 [] text

def titleEnd? : Char → Option Char
  | '"' => some '"'
  | '\'' => some '\''
  | '(' => some ')'
  | _ => none

def gap (text : List Char) : List Char :=
  let rest := text.dropWhile isGap
  match afterEnd? rest with
  | some rest => rest.dropWhile isGap
  | none => rest

def inlineTitleFrom (opening closing : Char) : Nat → List Char → List Char →
    Option (List Char × List Char)
  | 0, _, _ => none
  | _, _, [] => none
  | n + 1, read, c :: rest =>
      if c = closing then some (read.reverse, rest)
      else if c = opening then none
      else
        match afterEnd? (c :: rest) with
        | some rest =>
            inlineTitleFrom opening closing n ('\n' :: read)
              (rest.dropWhile fun c => c == ' ' || c == '\t')
        | none =>
            if c = '&' then
              match entity? rest with
              | some (text, rest) => inlineTitleFrom opening closing n (text.reverse ++ read) rest
              | none => inlineTitleFrom opening closing n (c :: read) rest
            else if c = '\\' then
              match rest with
              | d :: more =>
                  if Text.isAsciiPunctuation d then inlineTitleFrom opening closing n (d :: read) more
                  else inlineTitleFrom opening closing n (c :: read) (d :: more)
              | [] => none
            else inlineTitleFrom opening closing n (c :: read) rest

def inlineTitle? : List Char → Option (List Char × List Char)
  | [] => none
  | c :: rest =>
      match titleEnd? c with
      | some closing => inlineTitleFrom c closing rest.length [] rest
      | none => none

def inlineLink? (text : List Char) : Option (List Char × List Char × List Char) := do
  let (address, rest) ← address? 32 (gap text)
  let (title, rest) :=
    match inlineTitle? (gap rest) with
    | some (title, rest) => (title, gap rest)
    | none => ([], gap rest)
  match rest with
  | ')' :: rest => return (unescape address, title, rest)
  | _ => none

structure Definition where
  key : List Char
  url : List Char
  title : List Char
deriving DecidableEq, Repr

def definitionTitleFrom (closing : Char) : Nat → List Char → List Char →
    Option (List Char × List Char)
  | 0, _, _ => none
  | _, _, [] => none
  | n + 1, read, c :: rest =>
      if c = closing then some (read.reverse, rest)
      else if c = '(' && closing = ')' then none
      else if c = '\\' then
        match rest with
        | d :: more =>
            if isEndChar d then definitionTitleFrom closing n (c :: read) (d :: more)
            else definitionTitleFrom closing n (d :: c :: read) more
        | [] => none
      else
        match afterEnd? (c :: rest) with
        | some rest =>
            definitionTitleFrom closing n ('\n' :: read)
              (rest.dropWhile fun c => c == ' ' || c == '\t')
        | none => definitionTitleFrom closing n (c :: read) rest

def definitionTitle? : List Char → Option (List Char × List Char)
  | [] => none
  | c :: rest =>
      match titleEnd? c with
      | some closing => definitionTitleFrom closing (rest.length + 1) [] rest
      | none => none

/-- Blanks with at most one line end; the second component says whether there was one. The end of
    the text counts as a line end. -/
def definitionGap? (text : List Char) : Option (List Char × Bool) :=
  let rest := text.dropWhile isGap
  match afterEnd? rest with
  | none => if rest.isEmpty then none else some (rest, false)
  | some rest =>
      let rest := rest.dropWhile isGap
      if rest.isEmpty || (afterEnd? rest).isSome then none else some (rest, true)

def endsLine (text : List Char) : Bool :=
  let rest := text.dropWhile isGap
  rest.isEmpty || (afterEnd? rest).isSome

def definition? : List Char → Option (Definition × List Char)
  | '[' :: text => do
      let (label, rest) ← label? 1 text
      match rest with
      | ':' :: rest =>
          let (rest, _) ← definitionGap? rest
          let (address, after) ← address? 1 rest
          if address.isEmpty && rest.head? != some '<' then none
          else
            let plain : Definition := ⟨labelKey label, unescape address, []⟩
            match definitionGap? after with
            | none => some (plain, after)
            | some (rest, newLine) =>
                if rest.length = after.length && !newLine then none
                else
                  match definitionTitle? rest with
                  | some (title, rest) =>
                      if endsLine rest then some ({ plain with title := unescape title }, rest)
                      else if newLine then some (plain, after) else none
                  | none => if newLine then some (plain, after) else none
      | _ => none
  | _ => none

end LinkPress.Markdown
