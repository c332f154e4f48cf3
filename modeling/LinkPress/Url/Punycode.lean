set_option autoImplicit false

/- Texts written with letters, digits and hyphens only. The characters that can stand for themselves
   come first; behind the last hyphen, numbers say which others to put between them, and where. -/
namespace LinkPress.Url.Punycode

def digitValue? (c : Char) : Option Nat :=
  let n := c.toNat
  if 97 ≤ n ∧ n ≤ 122 then some (n - 97)
  else if 48 ≤ n ∧ n ≤ 57 then some (n - 22)
  else none

/-- A digit below this one ends its number. -/
def threshold (k bias : Nat) : Nat :=
  if k ≤ bias then 1 else if bias + 26 ≤ k then 26 else k - bias

def scale (delta k : Nat) : Nat × Nat :=
  if 455 < delta then scale (delta / 35) (k + 36) else (delta, k)
termination_by delta
decreasing_by exact Nat.div_lt_self (by omega) (by omega)

def adapt (delta count : Nat) (isFirst : Bool) : Nat :=
  let delta := if isFirst then delta / 700 else delta / 2
  let (delta, k) := scale (delta + delta / count) 0
  k + 36 * delta / (delta + 38)

structure State where
  text : List Char
  point : Nat
  index : Nat
  bias : Nat

/-- Puts in the character that is `index` places further on than the last one was put. Places are
    counted through the text once for each code point. -/
def State.insert (state : State) (index : Nat) : Option State :=
  let count := state.text.length + 1
  let point := state.point + index / count
  let at' := index % count
  if 0x10FFFF < point ∨ (0xD800 ≤ point ∧ point < 0xE000) then none
  else some ⟨state.text.take at' ++ Char.ofNat point :: state.text.drop at', point, at' + 1,
    adapt (index - state.index) count (state.index = 0)⟩

def limit : Nat := 0x100000000

def insertAll (state : State) (index weight k : Nat) : List Char → Option (List Char)
  | [] => if k = 36 then some state.text else none
  | c :: rest => do
      let digit ← digitValue? c
      let index := index + digit * weight
      if limit ≤ index then none
      else
        let t := threshold k state.bias
        if digit < t then
          let state ← state.insert index
          insertAll state state.index 1 36 rest
        else if limit ≤ weight * (36 - t) then none
        else insertAll state index (weight * (36 - t)) (k + 36) rest

def cut (text : List Char) : List Char × List Char :=
  let back := text.reverse
  match back.dropWhile (· != '-') with
  | _ :: front => if front.isEmpty then ([], text) else (front.reverse, (back.takeWhile (· != '-')).reverse)
  | [] => ([], text)

def decode? (text : List Char) : Option (List Char) :=
  let (plain, numbers) := cut text
  insertAll ⟨plain, 128, 0, 72⟩ 0 1 36 numbers

end LinkPress.Url.Punycode
