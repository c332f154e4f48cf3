import LinkPress.Pattern.Class

set_option autoImplicit false

/- Reading a pattern. -/
namespace LinkPress.Pattern

structure Group where
  flags : Flags
  choices : List Expr
  items : List (Option Expr)

/-- `items` are those of the choice that is being read, last one first; a change of flags is an
    item without an expression. -/
structure Reading where
  flags : Flags
  choices : List Expr
  items : List (Option Expr)
  groups : List Group
  names : List (List Char)

namespace Reading

def start : Reading := ⟨.start, [], [], [], []⟩

def add (r : Reading) (expr : Expr) : Reading := { r with items := some expr :: r.items }

def current (r : Reading) : Expr := .concat (r.items.map (·.getD (.concat []))).reverse

def total (r : Reading) : Expr :=
  if r.choices.isEmpty then r.current else .choice (r.current :: r.choices).reverse

def nextChoice (r : Reading) : Reading := { r with choices := r.current :: r.choices, items := [] }

def openGroup (r : Reading) (inside : Flags) : Reading :=
  { r with
    flags := inside
    choices := []
    items := []
    groups := ⟨r.flags, r.choices, r.items⟩ :: r.groups }

def closeGroup (r : Reading) : Option Reading :=
  match r.groups with
  | [] => none
  | group :: outer =>
      some ⟨group.flags, group.choices, some (.group r.total) :: group.items, outer, r.names⟩

def repeatLast (r : Reading) (least : Nat) (most : Option Nat) : Option Reading :=
  match r.items with
  | some expr :: items => some { r with items := some (.repetition expr least most) :: items }
  | _ => none

def isNameStart (c : Char) : Bool := c == '_' || CharSet.alphabetic.contains c

def isNameChar (c : Char) : Bool :=
  c == '_' || c == '.' || c == '[' || c == ']' || Text.isAlphanumeric c

def openNamed (r : Reading) (text : List Char) : Option (Reading × List Char) :=
  let name := text.takeWhile (· != '>')
  match text.drop name.length with
  | [] => none
  | _ :: rest =>
      if name.head?.any isNameStart && name.all isNameChar && !r.names.contains name then
        some ({ r.openGroup r.flags with names := name :: r.names }, rest)
      else none

def Flags.set? (flags : Flags) (on : Bool) (c : Char) : Option Flags :=
  match c with
  | 'i' => some { flags with fold := on }
  | 'm' => some { flags with multiline := on }
  | 's' => some { flags with dotAll := on }
  | 'R' => some { flags with returns := on }
  | 'u' => some { flags with unicode := on }
  | 'x' => some { flags with spaced := on }
  | 'U' => some flags
  | _ => none

def changeFlags (on : Bool) : Flags → List Char → Option Flags
  | flags, [] => some flags
  | flags, c :: rest =>
      if c = '-' then (if on && !rest.isEmpty then changeFlags false flags rest else none)
      else if rest.contains c then none
      else (Flags.set? flags on c).bind fun flags => changeFlags on flags rest

def group (r : Reading) (text : List Char) : Option (Reading × List Char) :=
  match r.flags.trim text with
  | '?' :: '=' :: _ => none
  | '?' :: '!' :: _ => none
  | '?' :: '<' :: '=' :: _ => none
  | '?' :: '<' :: '!' :: _ => none
  | '?' :: 'P' :: '<' :: rest => r.openNamed rest
  | '?' :: '<' :: rest => r.openNamed rest
  | '?' :: rest =>
      let letters := rest.takeWhile fun c => c != ':' && c != ')'
      match rest.drop letters.length, changeFlags true r.flags letters with
      | ':' :: rest, some flags => some (r.openGroup flags, rest)
      | ')' :: rest, some flags =>
          if letters.isEmpty then none
          else some ({ r with flags := flags, items := none :: r.items }, rest)
      | _, _ => none
  | rest => some (r.openGroup r.flags, rest)

def number? (text : List Char) : Option (Nat × List Char) :=
  let text := Text.trimStart text
  let digits := text.takeWhile Char.isDigit
  let n := digits.foldl (fun n c => 10 * n + (c.toNat - 48)) 0
  if digits.isEmpty || 0x100000000 ≤ n then none else some (n, Text.trimStart (text.drop digits.length))

def counts? (text : List Char) : Option (Nat × Option Nat × List Char) := do
  let (least, rest) ← number? text
  match rest with
  | '}' :: rest => return (least, some least, rest)
  | ',' :: '}' :: rest => return (least, none, rest)
  | ',' :: rest =>
      let (most, rest) ← number? rest
      match rest with
      | '}' :: rest => if least ≤ most then return (least, some most, rest) else none
      | _ => none
  | _ => none

/-- A question mark behind a repetition changes which match is found, not whether there is one. -/
def skipLazy (text : List Char) : List Char :=
  match text with
  | '?' :: rest => rest
  | rest => rest

def dot? (flags : Flags) : Option CharSet :=
  if flags.dotAll then flags.outside? .nothing
  else if flags.returns then flags.outside? (.union (.single '\n') (.single '\r'))
  else flags.outside? (.single '\n')

def addAtom (r : Reading) : Atom → Reading
  | .literal c => r.add (.set (r.flags.fix (.single c)))
  | .set set => r.add (.set set)
  | .assertion assertion => r.add (.assertion assertion)

def step (r : Reading) (c : Char) (rest : List Char) : Option (Reading × List Char) :=
  match c with
  | '(' => r.group rest
  | ')' => r.closeGroup.map fun r => (r, rest)
  | '|' => some (r.nextChoice, rest)
  | '[' => (set? r.flags rest).map fun (set, rest) => (r.add set, rest)
  | '?' => (r.repeatLast 0 (some 1)).map fun r => (r, skipLazy rest)
  | '*' => (r.repeatLast 0 none).map fun r => (r, skipLazy rest)
  | '+' => (r.repeatLast 1 none).map fun r => (r, skipLazy rest)
  | '{' =>
      (counts? (r.flags.trim rest)).bind fun (least, most, rest) =>
        (r.repeatLast least most).map fun r' => (r', skipLazy (r.flags.trim rest))
  | '\\' => (escape? r.flags rest).map fun (atom, rest) => (r.addAtom atom, rest)
  | '.' => (dot? r.flags).map fun set => (r.add (.set set), rest)
  | '^' =>
      some (r.add (.assertion (if r.flags.multiline then .lineStart r.flags.returns else .textStart)),
        rest)
  | '$' =>
      some (r.add (.assertion (if r.flags.multiline then .lineEnd r.flags.returns else .textEnd)), rest)
  | c => some (r.addAtom (.literal c), rest)

def run : Nat → Reading → List Char → Option Reading
  | 0, r, _ => some r
  | fuel + 1, r, text =>
      match r.flags.trim text with
      | [] => some r
      | c :: rest => (r.step c rest).bind fun (r, rest) => run fuel r rest

end Reading

inductive Fault where
  | malformed
  | tooBig
deriving DecidableEq, Repr

def Fault.message : Fault → String
  | .malformed => "regex parse error"
  | .tooBig => "Compiled regex exceeds size limit of 10485760 bytes."

def nestLimit : Nat := 250
def sizeLimit : Nat := 10485760
def stateSize : Nat := 32

def read (text : String) : Except Fault Expr := do
  let some r := Reading.run (text.length + 1) .start text.toList | throw .malformed
  if !r.groups.isEmpty || nestLimit < r.total.depth then throw .malformed
  if sizeLimit < stateSize * r.total.states then throw .tooBig
  return r.total

end LinkPress.Pattern
