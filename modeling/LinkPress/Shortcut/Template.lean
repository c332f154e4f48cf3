import LinkPress.Shortcut.Table
import LinkPress.Text.Blank

set_option autoImplicit false

/- Shortcuts given by an address with slots: `{text}` and `{tag}`. An address is cut once into
   pieces, so an inserted value is never searched for slots. -/
namespace LinkPress.Shortcut

inductive Piece where
  | char (c : Char)
  | slot (name : List Char)
deriving DecidableEq, Repr

def notBrace (c : Char) : Bool := c != '{' && c != '}'

theorem after_run_le (s : List Char) : (s.dropWhile notBrace).length ≤ s.length := by
  induction s with
  | nil => simp
  | cons c rest ih =>
      simp only [List.dropWhile_cons]
      split
      · simp only [List.length_cons]; omega
      · simp

/-- Slots are the leftmost runs without braces between an opening and a closing brace. -/
def pieces : List Char → List Piece
  | [] => []
  | c :: rest =>
      if c = '{' then
        match _run : rest.dropWhile notBrace with
        | '}' :: after => .slot (rest.takeWhile notBrace) :: pieces after
        | _ => .char c :: pieces rest
      else .char c :: pieces rest
termination_by s => s.length
decreasing_by
  · have shorter := after_run_le rest
    rw [_run] at shorter
    simp only [List.length_cons] at shorter ⊢
    omega
  · simp
  · simp

def Piece.slot? : Piece → Option (List Char)
  | .char _ => none
  | .slot name => some name

structure Template where
  names : List String
  url : String
  defaultOption : Option String
deriving DecidableEq, Repr

inductive TemplateFault where
  | noNames
  | unknownSlot (name : String) (slot : String)
deriving DecidableEq, Repr

def TemplateFault.message : TemplateFault → String
  | .noNames => "template shortcut has no names"
  | .unknownSlot name slot =>
      "template shortcut '" ++ name ++ "' uses unknown placeholder '\x7b" ++ slot ++ "\x7d'"

namespace Template

def textSlot : List Char := "text".toList
def optionSlot : List Char := "tag".toList

def primaryName (template : Template) : String := template.names.headD ""

def slots (template : Template) : List (List Char) :=
  (pieces template.url.toList).filterMap Piece.slot?

def isKnownSlot (slot : List Char) : Bool := slot == textSlot || slot == optionSlot

def lookupNames (template : Template) : List String :=
  (template.names.map Text.trimmed).filter fun name => name != ""

def check (template : Template) : Except TemplateFault Unit :=
  if template.lookupNames.isEmpty then .error .noNames
  else
    match template.slots.find? fun slot => !isKnownSlot slot with
    | some slot => .error (.unknownSlot template.primaryName (String.ofList slot))
    | none => .ok ()

def usesOption (template : Template) : Bool := template.slots.contains optionSlot

def effectiveOption (template : Template) (option : Option String) : Option String :=
  (option.bind Text.argument?).or template.defaultOption

def Piece.fill (option text : List Char) : Piece → List Char
  | .char c => [c]
  | .slot name => if name = optionSlot then option else text

def fill (template : Template) (option text : String) : String :=
  String.ofList ((pieces template.url.toList).flatMap (Piece.fill option.toList text.toList))

def needsOption (template : Template) : String :=
  "shortcut '" ++ template.primaryName ++ "' requires an option"

def expand (template : Template) (option : Option String) (text : String) : Resolution :=
  let chosen := template.effectiveOption option
  if template.usesOption && chosen.isNone then .failure template.needsOption
  else .success (template.fill (chosen.getD "") text)

def entry (template : Template) : Entry := ⟨template.lookupNames, template.expand⟩

def table (templates : List Template) : Except TemplateFault Table := do
  templates.forM check
  return ⟨templates.map entry⟩

end Template
end LinkPress.Shortcut
