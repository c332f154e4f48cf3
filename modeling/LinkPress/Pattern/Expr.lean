import LinkPress.Pattern.CharSet

set_option autoImplicit false

/- Patterns and what they match. A pattern takes a set of positions in a text to the positions where
   its matches can end. -/
namespace LinkPress.Pattern

inductive Assertion where
  | textStart
  | textEnd
  | lineStart (returns : Bool)
  | lineEnd (returns : Bool)
  | wordEdge (unicode : Bool)
  | noWordEdge (unicode : Bool)
  | wordStart (unicode : Bool)
  | wordEnd (unicode : Bool)
  | halfStart (unicode : Bool)
  | halfEnd (unicode : Bool)
deriving DecidableEq, Repr

inductive Expr where
  | set (set : CharSet)
  | assertion (assertion : Assertion)
  | concat (items : List Expr)
  | choice (items : List Expr)
  | repetition (body : Expr) (least : Nat) (most : Option Nat)
  | group (body : Expr)
  /-- A set in brackets, with the depth to which brackets and operators are nested in it. -/
  | bracket (depth : Nat) (set : CharSet)
deriving Repr

mutual
def Expr.depth : Expr → Nat
  | .set _ => 0
  | .assertion _ => 0
  | .concat [item] => item.depth
  | .concat [] => 0
  | .concat items => depths items + 1
  | .choice items => depths items + 1
  | .repetition body _ _ => body.depth + 1
  | .group body => body.depth + 1
  | .bracket depth _ => depth

def depths : List Expr → Nat
  | [] => 0
  | item :: rest => max item.depth (depths rest)
end

mutual
/-- A bound from below of the states that a machine for a pattern has. Repetitions are written out. -/
def Expr.states : Expr → Nat
  | .set _ => 1
  | .assertion _ => 0
  | .concat items => statesOfAll items
  | .choice items => statesOfLargest items
  | .repetition body least most => most.getD (max least 1) * body.states
  | .group body => body.states
  | .bracket _ _ => 1

def statesOfAll : List Expr → Nat
  | [] => 0
  | item :: rest => item.states + statesOfAll rest

def statesOfLargest : List Expr → Nat
  | [] => 0
  | item :: rest => max item.states (statesOfLargest rest)
end

def merge : List Nat → List Nat → List Nat
  | [], b => b
  | a, [] => a
  | m :: a, n :: b =>
      if m < n then m :: merge a (n :: b)
      else if n < m then n :: merge (m :: a) b
      else m :: merge a b
termination_by a b => a.length + b.length

def remove : List Nat → List Nat → List Nat
  | [], _ => []
  | a, [] => a
  | m :: a, n :: b =>
      if m < n then m :: remove a (n :: b)
      else if n < m then remove (m :: a) b
      else remove a b
termination_by a b => a.length + b.length

def isWordAt (unicode : Bool) (c : Option Char) : Bool :=
  c.any fun c => if unicode then isWordChar c else CharSet.asciiWord.contains c

def Assertion.holds (before after : Option Char) : Assertion → Bool
  | .textStart => before.isNone
  | .textEnd => after.isNone
  | .lineStart returns =>
      before.isNone || before == some '\n' ||
        (returns && before == some '\r' && after != some '\n')
  | .lineEnd returns =>
      after.isNone || (after == some '\n' && !(returns && before == some '\r')) ||
        (returns && after == some '\r')
  | .wordEdge unicode => isWordAt unicode before != isWordAt unicode after
  | .noWordEdge unicode => isWordAt unicode before == isWordAt unicode after
  | .wordStart unicode => !isWordAt unicode before && isWordAt unicode after
  | .wordEnd unicode => isWordAt unicode before && !isWordAt unicode after
  | .halfStart unicode => !isWordAt unicode before
  | .halfEnd unicode => !isWordAt unicode after

def charBefore (text : Array Char) (n : Nat) : Option Char :=
  match n with
  | 0 => none
  | n + 1 => text[n]?

def rounds (step : List Nat → List Nat) : Nat → List Nat → List Nat
  | 0, positions => positions
  | n + 1, positions => rounds step n (step positions)

/-- Positions after at most `n` more rounds of a step, where only `fresh` ones among them have not
    been gone on from. -/
def reach (step : List Nat → List Nat) : Nat → List Nat → List Nat → List Nat
  | 0, positions, _ => positions
  | n + 1, positions, fresh =>
      let next := remove (step fresh) positions
      if next.isEmpty then positions else reach step n (merge positions next) next

def setEnds (text : Array Char) (set : CharSet) (positions : List Nat) : List Nat :=
  positions.filterMap fun n =>
    match text[n]? with
    | some c => if set.contains c then some (n + 1) else none
    | none => none

mutual
/-- The positions where a match that starts at one of `positions` can end, ascending. No text is
    long enough for more rounds of a repetition than it has positions to make a difference. -/
def Expr.ends (text : Array Char) : Expr → List Nat → List Nat
  | .set set, positions => setEnds text set positions
  | .assertion assertion, positions =>
      positions.filter fun n => assertion.holds (charBefore text n) text[n]?
  | .concat items, positions => concatEnds text items positions
  | .choice items, positions => choiceEnds text items positions
  | .repetition body least most, positions =>
      let enough := text.size + 1
      let step := body.ends text
      let positions := rounds step (min least enough) positions
      let more := match most with
        | some most => min (most - least) enough
        | none => enough
      reach step more positions positions
  | .group body, positions => body.ends text positions
  | .bracket _ set, positions => setEnds text set positions

def concatEnds (text : Array Char) : List Expr → List Nat → List Nat
  | [], positions => positions
  | item :: rest, positions => concatEnds text rest (item.ends text positions)

def choiceEnds (text : Array Char) : List Expr → List Nat → List Nat
  | [], _ => []
  | item :: rest, positions => merge (item.ends text positions) (choiceEnds text rest positions)
end

def Expr.isMatch (expr : Expr) (text : String) : Bool :=
  let chars := text.toList.toArray
  !(expr.ends chars (List.range (chars.size + 1))).isEmpty

end LinkPress.Pattern
