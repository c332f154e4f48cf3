set_option autoImplicit false

/- Values written as JSON, each item of a list and each field of an object on a line of its own. -/
namespace LinkPress.Command

inductive Json where
  | text (text : String)
  | number (n : Nat)
  | list (items : List Json)
  | object (fields : List (String × Json))

namespace Json

def hexDigit (n : Nat) : Char := if n < 10 then Char.ofNat (48 + n) else Char.ofNat (87 + n)

def escapeChar (c : Char) : List Char :=
  match c with
  | '"' => ['\\', '"']
  | '\\' => ['\\', '\\']
  | '\n' => ['\\', 'n']
  | '\r' => ['\\', 'r']
  | '\t' => ['\\', 't']
  | c =>
      let n := c.toNat
      if n = 8 then ['\\', 'b']
      else if n = 12 then ['\\', 'f']
      else if n < 32 then ['\\', 'u', '0', '0', hexDigit (n / 16), hexDigit (n % 16)]
      else [c]

def quoted (content : String) : String :=
  String.ofList ('"' :: content.toList.flatMap escapeChar ++ ['"'])

def indent (depth : Nat) : String := String.ofList (List.replicate (2 * depth) ' ')

def block (opening closing : String) (depth : Nat) (lines : List String) : String :=
  if lines.isEmpty then opening ++ closing
  else
    opening ++ "\n" ++ String.intercalate ",\n" (lines.map (indent (depth + 1) ++ ·)) ++ "\n" ++
      indent depth ++ closing

mutual
def write (depth : Nat) : Json → String
  | .text content => quoted content
  | .number n => toString n
  | .list items => block "[" "]" depth (writeItems (depth + 1) items)
  | .object fields => block "\x7b" "\x7d" depth (writeFields (depth + 1) fields)

def writeItems (depth : Nat) : List Json → List String
  | [] => []
  | item :: rest => item.write depth :: writeItems depth rest

def writeFields (depth : Nat) : List (String × Json) → List String
  | [] => []
  | (name, value) :: rest => (quoted name ++ ": " ++ value.write depth) :: writeFields depth rest
end

def texts (items : List String) : Json := .list (items.map .text)

end Json
end LinkPress.Command
