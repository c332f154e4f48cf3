set_option autoImplicit false

/- Link targets in shortcut syntax: `@name`, then optionally `:option`, then optionally `(text)`.
   `parse` reads a target, `display` writes one, `WellFormed` says which targets have a spelling. -/
namespace LinkPress

/-- An absent option or text is not the same as an empty one. -/
structure Target where
  name : String
  option : Option String
  text : Option String
deriving DecidableEq, Repr

namespace Target

def introducer : Char := '@'

def endsName (c : Char) : Bool := c == ':' || c == '(' || c == ')'
def endsOption (c : Char) : Bool := c == '(' || c == ')'

inductive Fault where
  | emptyName
  | unexpectedClose
  | unclosed
  | multipleGroups
  | trailing (rest : String)
deriving DecidableEq, Repr

def Fault.message : Fault → String
  | .emptyName => "empty shortcut name"
  | .unexpectedClose => "unexpected ')' without a matching '(' in shortcut link"
  | .unclosed => "unclosed '(' in shortcut link"
  | .multipleGroups => "shortcut link has more than one parenthesized group"
  | .trailing rest => "unexpected text '" ++ rest ++ "' after ')' in shortcut link"

inductive Reading where
  | ordinary
  | malformed (fault : Fault)
  | shortcut (target : Target)
deriving DecidableEq, Repr

def before (stop : Char → Bool) (s : List Char) : List Char := s.takeWhile fun c => !stop c
def rest (stop : Char → Bool) (s : List Char) : List Char := s.dropWhile fun c => !stop c

def parseGroup : List Char → Except Fault (Option String)
  | [] => .ok none
  | '(' :: inner =>
      match rest (· == ')') inner with
      | [] => .error .unclosed
      | _ :: [] => .ok (some (String.ofList (before (· == ')') inner)))
      | _ :: '(' :: _ => .error .multipleGroups
      | _ :: trailing => .error (.trailing (String.ofList trailing))
  | _ => .error .unexpectedClose

def parseOption : List Char → Option String × List Char
  | ':' :: after => (some (String.ofList (before endsOption after)), rest endsOption after)
  | after => (none, after)

def parseChars : List Char → Reading
  | [] => .ordinary
  | c :: after =>
      if c ≠ introducer then .ordinary
      else
        match before endsName after with
        | [] => .malformed .emptyName
        | name =>
            let (option, group) := parseOption (rest endsName after)
            match parseGroup group with
            | .error fault => .malformed fault
            | .ok text => .shortcut ⟨String.ofList name, option, text⟩

def parse (target : String) : Reading := parseChars target.toList

def displayOption : Option String → String
  | none => ""
  | some option => ":" ++ option

def displayText : Option String → String
  | none => ""
  | some text => "(" ++ text ++ ")"

def display (target : Target) : String :=
  String.singleton introducer ++ target.name ++ displayOption target.option ++
    displayText target.text

/-- Targets that can be written: no part holds a character that would end it. -/
structure WellFormed (target : Target) : Prop where
  name_nonempty : target.name ≠ ""
  name_plain : ∀ c ∈ target.name.toList, c ≠ ':' ∧ c ≠ '(' ∧ c ≠ ')'
  option_plain : ∀ option ∈ target.option, ∀ c ∈ option.toList, c ≠ '(' ∧ c ≠ ')'
  text_plain : ∀ text ∈ target.text, ∀ c ∈ text.toList, c ≠ ')'

end Target
end LinkPress
