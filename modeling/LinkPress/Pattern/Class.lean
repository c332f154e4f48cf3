import LinkPress.Pattern.Escape

set_option autoImplicit false

/- Sets of characters in square brackets. They can be nested and combined. -/
namespace LinkPress.Pattern

inductive SetOp where
  | intersection
  | difference
  | symmetric
deriving DecidableEq, Repr

def SetOp.apply : SetOp → CharSet → CharSet → CharSet
  | .intersection, a, b => .intersection a b
  | .difference, a, b => .difference a b
  | .symmetric, a, b => .symmetric a b

structure Members where
  count : Nat
  nested : Nat
  set : CharSet

namespace Members

def none : Members := ⟨0, 0, .nothing⟩
def one (set : CharSet) : Members := ⟨1, 0, set⟩

def add (members : Members) (depth : Nat) (set : CharSet) : Members :=
  ⟨members.count + 1, max members.nested depth, .union members.set set⟩

def depth (members : Members) : Nat := if 1 < members.count then members.nested + 1 else members.nested

end Members

/-- An open bracket: what has been read behind it, with its depth, and behind the last operator. -/
structure OpenSet where
  negated : Bool
  left : Option (SetOp × Nat × CharSet)
  right : Members

namespace OpenSet

def add (bracket : OpenSet) (depth : Nat) (set : CharSet) : OpenSet :=
  { bracket with right := bracket.right.add depth set }

def total (bracket : OpenSet) : Nat × CharSet :=
  match bracket.left with
  | some (op, depth, left) =>
      (max depth bracket.right.depth + 1, op.apply left bracket.right.set)
  | none => (bracket.right.depth, bracket.right.set)

def operator (bracket : OpenSet) (op : SetOp) : OpenSet :=
  ⟨bracket.negated, some (op, bracket.total), .none⟩

def close (bracket : OpenSet) : Nat × CharSet :=
  (bracket.total.1 + 1, if bracket.negated then .complement bracket.total.2 else bracket.total.2)

end OpenSet

def Flags.member? (flags : Flags) (c : Char) : Option CharSet :=
  if !flags.unicode && 128 ≤ c.toNat then none else some (flags.fix (.single c))

def leadingHyphens (flags : Flags) (found : Members) : Nat → List Char → Option (Members × List Char)
  | 0, _ => none
  | fuel + 1, text =>
      match text with
      | '-' :: rest =>
          let rest := flags.trim rest
          if rest.isEmpty then none
          else leadingHyphens flags (found.add 0 (flags.fix (.single '-'))) fuel rest
      | text => some (found, text)

def openSet? (flags : Flags) (text : List Char) : Option (OpenSet × List Char) := do
  let text := flags.trim text
  let (negated, text) := match text with
    | '^' :: rest => (true, flags.trim rest)
    | text => (false, text)
  if text.isEmpty || (negated && !flags.unicode) then none
  let (hyphens, text) ← leadingHyphens flags .none (text.length + 1) text
  match text with
  | ']' :: rest =>
      if 0 < hyphens.count then return (⟨negated, none, hyphens⟩, text)
      else
        let rest := flags.trim rest
        if rest.isEmpty then none
        else return (⟨negated, none, .one (flags.fix (.single ']'))⟩, rest)
  | text => return (⟨negated, none, hyphens⟩, text)

def namedSet? (flags : Flags) : List Char → Option (CharSet × List Char)
  | '[' :: ':' :: text =>
      let (negated, text) := match text with
        | '^' :: rest => (true, rest)
        | text => (false, text)
      match text.dropWhile (· != ':'), CharSet.named? (String.ofList (text.takeWhile (· != ':'))) with
      | ':' :: ']' :: rest, some set =>
          let set := flags.fix set
          some (if negated then .complement set else set, rest)
      | _, _ => none
  | _ => none

def setAtom? (flags : Flags) : List Char → Option (Atom × List Char)
  | [] => none
  | '\\' :: rest => escape? flags rest
  | c :: rest => some (.literal c, rest)

def setItem? (flags : Flags) (text : List Char) : Option (CharSet × List Char) := do
  let (first, rest) ← setAtom? flags text
  let rest := flags.trim rest
  let alone : Option (CharSet × List Char) :=
    match first with
    | .literal c => (flags.member? c).map fun set => (set, rest)
    | .set set => some (set, rest)
    | .assertion _ => none
  match rest with
  | [] => none
  | '-' :: behind =>
      match flags.trim behind with
      | [] => none
      | ']' :: _ => alone
      | '-' :: _ => alone
      | behind =>
          let (last, rest) ← setAtom? flags behind
          match first, last with
          | .literal a, .literal b =>
              if b.toNat < a.toNat || (!flags.unicode && 128 ≤ b.toNat) then none
              else return (flags.fix (.range a.toNat b.toNat), rest)
          | _, _ => none
  | _ => alone

def operator? : List Char → Option (SetOp × List Char)
  | '&' :: '&' :: rest => some (.intersection, rest)
  | '-' :: '-' :: rest => some (.difference, rest)
  | '~' :: '~' :: rest => some (.symmetric, rest)
  | _ => none

def setFrom (flags : Flags) :
    Nat → OpenSet → List OpenSet → List Char → Option (Expr × List Char)
  | 0, _, _, _ => none
  | fuel + 1, inner, outer, text => do
      let text := flags.trim text
      match text with
      | [] => none
      | ']' :: rest =>
          let (depth, set) := inner.close
          match outer with
          | [] => return (.bracket depth set, rest)
          | next :: outer => setFrom flags fuel (next.add depth set) outer rest
      | '[' :: rest =>
          match namedSet? flags text with
          | some (set, rest) => setFrom flags fuel (inner.add 0 set) outer rest
          | none =>
              let (bracket, rest) ← openSet? flags rest
              setFrom flags fuel bracket (inner :: outer) rest
      | _ =>
          match operator? text with
          | some (op, rest) => setFrom flags fuel (inner.operator op) outer rest
          | none =>
              let (set, rest) ← setItem? flags text
              setFrom flags fuel (inner.add 0 set) outer rest

def set? (flags : Flags) (text : List Char) : Option (Expr × List Char) := do
  let (bracket, rest) ← openSet? flags text
  setFrom flags (rest.length + 1) bracket [] rest

end LinkPress.Pattern
