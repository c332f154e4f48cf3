set_option autoImplicit false

/- Lines, and a cursor that moves through the indentation of one. A tab reaches to the next column
   that is a multiple of four; where a cut falls inside a tab, the rest of its width stays pending. -/
namespace LinkPress.Markdown

structure Line where
  body : List Char
  ending : List Char
deriving DecidableEq, Repr

def isEndChar (c : Char) : Bool := c == '\n' || c == '\r'

def isGap (c : Char) : Bool := c == ' ' || c == '\t' || c.toNat == 11 || c.toNat == 12

def isSpace (c : Char) : Bool := isGap c || isEndChar c

def afterEnd? : List Char → Option (List Char)
  | '\r' :: '\n' :: rest => some rest
  | '\r' :: rest => some rest
  | '\n' :: rest => some rest
  | _ => none

def linesFrom (body : List Char) : List Char → List Line
  | [] => if body.isEmpty then [] else [⟨body.reverse, []⟩]
  | '\r' :: '\n' :: rest => ⟨body.reverse, ['\r', '\n']⟩ :: linesFrom [] rest
  | c :: rest =>
      if isEndChar c then ⟨body.reverse, [c]⟩ :: linesFrom [] rest else linesFrom (c :: body) rest

def linesOf (text : List Char) : List Line := linesFrom [] text

/-- `column` counts the characters since the last tab, `pending` the columns left of a cut tab. -/
structure Cursor where
  rest : List Char
  column : Nat
  pending : Nat
deriving DecidableEq, Repr

namespace Cursor

def ofChars (text : List Char) : Cursor := ⟨text, 0, 0⟩

def atEnd (cursor : Cursor) : Bool := cursor.rest.isEmpty

/-- Takes up to `n` columns of blanks; the first component is how many were missing. -/
def takeColumns : List Char → Nat → Nat → Nat × Cursor
  | rest, column, 0 => (0, ⟨rest, column, 0⟩)
  | ' ' :: rest, column, n + 1 => takeColumns rest (column + 1) n
  | '\t' :: rest, column, n + 1 =>
      let width := 4 - column % 4
      if width ≤ n + 1 then takeColumns rest 0 (n + 1 - width) else (0, ⟨rest, 0, width - (n + 1)⟩)
  | rest, column, n => (n, ⟨rest, column, 0⟩)

def advance (cursor : Cursor) (n : Nat) : Nat × Cursor :=
  if n ≤ cursor.pending then (0, { cursor with pending := cursor.pending - n })
  else takeColumns cursor.rest cursor.column (n - cursor.pending)

def skip (cursor : Cursor) (n : Nat) : Bool × Cursor :=
  let (missing, cursor) := cursor.advance n
  (missing == 0, cursor)

def skipUpTo (cursor : Cursor) (n : Nat) : Nat × Cursor :=
  let (missing, cursor) := cursor.advance n
  (n - missing, cursor)

def skipAll (cursor : Cursor) : Cursor :=
  ⟨cursor.rest.dropWhile fun c => c == ' ' || c == '\t', cursor.column, 0⟩

def skipChar? (cursor : Cursor) (c : Char) : Option Cursor :=
  match cursor.rest with
  | d :: rest => if d = c then some { cursor with rest := rest, column := cursor.column + 1 } else none
  | [] => none

def isBlank (cursor : Cursor) : Bool := cursor.rest.all isGap

end Cursor
end LinkPress.Markdown
